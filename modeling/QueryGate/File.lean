/-!
# Files

What reading a file gives : its text, or why there is none.
-/

namespace QueryGate

/-- Why a file has no text. -/
inductive FileFault where
  | missing
  | directory
  /-- Its bytes are not UTF-8. -/
  | notText
  /-- Any other reason, as the system words it. -/
  | other (reason : String)
  deriving DecidableEq, Repr

/-- The wording of a fault. -/
def FileFault.message : FileFault → String
  | missing => "No such file or directory (os error 2)"
  | directory => "Is a directory (os error 21)"
  | notText => "stream did not contain valid UTF-8"
  | other reason => reason

/-- The text of a file, or why there is none. -/
abbrev FileContent := Except FileFault String

/-- The content of a file that holds these bytes. -/
def FileContent.ofBytes (bytes : ByteArray) : FileContent :=
  match String.fromUTF8? bytes with
  | some text => .ok text
  | none => .error .notText

end QueryGate
