import QueryGate.Command.Run
import Std.Time.DateTime.Timestamp

/-!
# The program

Files, clock and variables of the system, and the program that is run with them. There are no
connections to services in it : every call stays without a reply.
-/

namespace QueryGate.Host

/-- What keeps a file from being read. -/
def faultOf : IO.Error → FileFault
  | .noFileOrDirectory .. => .missing
  | .inappropriateType .. => .directory
  | e => .other (toString e)

/-- The files of the system. -/
def files : Files IO where
  read path := do
    match ← (IO.FS.readBinFile path).toBaseIO with
    | .ok bytes => return .ofBytes bytes
    | .error e => return .error (faultOf e)

/-- A transport without connections. -/
def offline : Client.Transport IO where
  send _ := pure (.error "there are no connections")

/-- A clock that keeps the time of its last identifier. -/
def clock (started : IO.Ref Nat) : Clock IO where
  newIdentifier := do
    started.set (← IO.monoMsNow)
    let bytes ← IO.getRandomBytes 16
    return .ofRandom (bytes.foldl (fun n b => n * 256 + b.toNat) 0)
  now := do
    let t ← Std.Time.Timestamp.now
    return .ofUnix t.val.second.val t.val.nano.val.toNat
  elapsed := do
    return (← IO.monoMsNow) - (← started.get)

/-- The variables of the system as far as the program can look at them. -/
def environment : IO Environment := do
  let text := match ← files.read Program.environmentPath with
    | .ok text => text.toList
    | .error _ => []
  (Program.variableNames ++ Environment.namesIn text).filterMapM fun name =>
    return (← IO.getEnv name).map fun value => (name, value)

/-- Adds a text to a file, if that can be done. -/
def append (path text : String) : IO Unit := do
  let write : IO Unit := do
    let handle ← IO.FS.Handle.mk path .append
    handle.putStr text
  discard write.toBaseIO

end QueryGate.Host

open QueryGate in
/-- Runs the program with arguments. -/
def main (arguments : List String) : IO UInt32 := do
  let world : World IO := ⟨Host.files, Host.offline, Host.clock (← IO.mkRef 0)⟩
  match ← Program.run world (← Host.environment) arguments with
  | none =>
    IO.eprintln "the query would have to be cut inside a character"
    return 101
  | some ended =>
    IO.print ended.output
    IO.eprint ended.complaint
    match ended.logged? with
    | some (path, text) => Host.append path text
    | none => pure ()
    return ended.status.toUInt32
