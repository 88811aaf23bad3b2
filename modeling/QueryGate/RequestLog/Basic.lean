import QueryGate.RequestLog.Entry
import QueryGate.Json.Writer

/-!
# The request log

The last entries are kept in memory, up to a capacity; all of them go to a file, if there is one
that can be written, a line for each. What happens to the file does not touch the entries.
-/

namespace QueryGate

/-- The file of a log. -/
inductive LogFile where
  /-- No file is kept. -/
  | none
  /-- The file cannot be written. -/
  | unwritable
  /-- What was written to the file; nothing before the first entry. -/
  | written (text : List Char)
  deriving DecidableEq, Repr

/-- A log of requests. -/
structure RequestLog where
  /-- How many entries are kept in memory. -/
  capacity : Nat
  /-- The kept entries, the newest one last. -/
  entries : List LogEntry
  file : LogFile
  deriving DecidableEq, Repr

namespace RequestLog

/-- A log without entries. -/
def empty (capacity : Nat) (file : LogFile) : RequestLog :=
  ⟨capacity, [], file⟩

/-- The line of an entry in the file. -/
def line (e : LogEntry) : List Char :=
  e.toJson.write ++ ['\n']

/-- The last items of a list. -/
def last {α : Type} (n : Nat) (xs : List α) : List α :=
  xs.drop (xs.length - n)

/-- The file with a line for an entry. -/
def append (file : LogFile) (e : LogEntry) : LogFile :=
  match file with
  | .written text => .written (text ++ line e)
  | file => file

/-- The log with one more entry. -/
def record (log : RequestLog) (e : LogEntry) : RequestLog :=
  { log with
    entries := last log.capacity (log.entries ++ [e])
    file := append log.file e }

/-- The last entries, at most `n`, the newest one last. -/
def recent (log : RequestLog) (n : Nat) : List LogEntry :=
  last n log.entries

end RequestLog

end QueryGate
