import QueryGate.Grammar.Compile
import QueryGate.File

/-!
# Catalogs

A catalog holds the grammar in use. One that was read from a file can be read again; a failure
leaves the grammar in use as it was. Grammars are values, so who took one earlier keeps it.
-/

namespace QueryGate

/-- The grammar in use. -/
structure Catalog where
  /-- The file it was read from, if it was. -/
  path : Option String
  /-- The name of the root. -/
  root : String
  current : Grammar

namespace Catalog

/-- The grammar in a file. -/
def readGrammar (path root : String) (content : FileContent) : Except GrammarError Grammar :=
  match content with
  | .error fault => .error (.unreadable path fault)
  | .ok source => Grammar.compile source root

/-- A catalog for a file with the given content. -/
def load (path root : String) (content : FileContent) : Except GrammarError Catalog :=
  (readGrammar path root content).map fun g => ⟨some path, root, g⟩

/-- A catalog for a text. -/
def ofSource (source root : String) : Except GrammarError Catalog :=
  (Grammar.compile source root).map fun g => ⟨none, root, g⟩

/-- The catalog with the grammar that its file, with the given content, holds now. Without a file
nothing changes. -/
def reload (c : Catalog) (content : FileContent) : Except GrammarError Catalog :=
  match c.path with
  | none => .ok c
  | some path => (readGrammar path c.root content).map fun g => { c with current := g }

end Catalog

end QueryGate
