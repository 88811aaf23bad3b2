import QueryGate.Grammar.Catalog

/-!
# Histories of a catalog

What callers see of a catalog while its file is written, deleted and read again. `Shelf.run` takes a
catalog through a history; `lastGood` says which source was used last, and knows of no catalog.

* `Shelf.step_reload_cases` : all that reading the file again can do;
* `Shelf.Tracks.run` : after any history the grammar in use is that of the source used last;
* `Catalog.kept_run_of_made` : what callers can rely on, for catalogs made from a file or a text.
-/

namespace QueryGate

/-- What is done to a catalog and to its file. -/
inductive CatalogOp where
  /-- The file gets a new content. -/
  | write (bytes : ByteArray)
  /-- The file is deleted. -/
  | delete
  /-- The grammar is to be read again. -/
  | reload
  /-- The grammar in use is asked for. -/
  | get

/-- What a caller is told. -/
inductive CatalogReply where
  | done
  | grammar (g : Grammar)
  | failed (error : GrammarError)

/-- A catalog with its file, if there is one, and all grammars that were handed out. -/
structure Shelf where
  file : Option ByteArray
  catalog : Catalog
  held : List Grammar

/-- What reading a file gives that is there or not. -/
def contentOf : Option ByteArray → FileContent
  | none => .error .missing
  | some bytes => .ofBytes bytes

namespace Shelf

/-- Hands out the grammar in use. -/
def handOut (s : Shelf) : Shelf × CatalogReply :=
  ({ s with held := s.held ++ [s.catalog.current] }, .grammar s.catalog.current)

/-- The shelf behind one operation, and what the caller is told. -/
def step (s : Shelf) : CatalogOp → Shelf × CatalogReply
  | .write bytes => ({ s with file := some bytes }, .done)
  | .delete => ({ s with file := none }, .done)
  | .reload =>
    match s.catalog.reload (contentOf s.file) with
    | .ok c => handOut { s with catalog := c }
    | .error e => (s, .failed e)
  | .get => s.handOut

/-- The shelf behind a history. -/
def run (s : Shelf) (ops : List CatalogOp) : Shelf :=
  ops.foldl (fun s op => (s.step op).1) s

end Shelf

/-! ## The last good source -/

/-- What keeps a file from being used : it is not there, it is not text, or it does not compile. -/
def fileFault? (path root : String) : Option ByteArray → Option GrammarError
  | none => some (.unreadable path .missing)
  | some bytes =>
    match String.fromUTF8? bytes with
    | none => some (.unreadable path .notText)
    | some source =>
      match Grammar.compile (ρ := Regex) source root with
      | .error e => some e
      | .ok _ => none

/-- The text of a file that can be used. -/
def goodText? (root : String) (file : Option ByteArray) : Option String :=
  (file.bind String.fromUTF8?).filter fun source =>
    (Grammar.compile (ρ := Regex) source root).toBool

/-- What the file holds and which source was used last, behind one operation. Without a path the
file is never read. -/
def noteGood (path : Option String) (root : String) (known : Option ByteArray × String) :
    CatalogOp → Option ByteArray × String
  | .write bytes => (some bytes, known.2)
  | .delete => (none, known.2)
  | .reload => (known.1, if path.isSome then (goodText? root known.1).getD known.2 else known.2)
  | .get => known

/-- The last source that was used behind a history, if the file holds `file` in the beginning and
`good` was used before. -/
def lastGood (path : Option String) (root : String) (file : Option ByteArray) (good : String)
    (ops : List CatalogOp) : String :=
  (ops.foldl (noteGood path root) (file, good)).2

variable {path : Option String} {root good : String} {file : Option ByteArray} {c : Catalog}

/-- A file is read with success if nothing keeps it from being used. -/
theorem readGrammar_contentOf (path root : String) (file : Option ByteArray) :
    (∃ e, Catalog.readGrammar path root (contentOf file) = .error e ∧
        fileFault? path root file = some e ∧ goodText? root file = none) ∨
      ∃ g source, Catalog.readGrammar path root (contentOf file) = .ok g ∧
        fileFault? path root file = none ∧ goodText? root file = some source ∧
        Grammar.compile source root = .ok g := by
  cases file with
  | none => exact Or.inl ⟨_, rfl, rfl, rfl⟩
  | some bytes =>
    cases hbytes : String.fromUTF8? bytes with
    | none =>
      refine Or.inl ⟨.unreadable path .notText, ?_, ?_, ?_⟩ <;>
        simp [contentOf, FileContent.ofBytes, Catalog.readGrammar, fileFault?, goodText?, hbytes]
    | some source =>
      cases hcompile : Grammar.compile (ρ := Regex) source root with
      | error e =>
        refine Or.inl ⟨e, ?_, ?_, ?_⟩ <;>
          simp [contentOf, FileContent.ofBytes, Catalog.readGrammar, fileFault?, goodText?, hbytes,
            hcompile, Except.toBool]
      | ok g =>
        refine Or.inr ⟨g, source, ?_, ?_, ?_, hcompile⟩ <;>
          simp [contentOf, FileContent.ofBytes, Catalog.readGrammar, fileFault?, goodText?, hbytes,
            hcompile, Except.toBool]

/-! ## Steps -/

namespace Shelf

variable {s : Shelf}

/-- Everything that reading the grammar again can do : nothing without a file, nothing but a
failure if the file cannot be used, and else the grammar of its text is in use and handed out. -/
theorem step_reload_cases (s : Shelf) :
    (s.catalog.path = none ∧ s.step .reload = s.handOut) ∨
      (∃ path e, s.catalog.path = some path ∧ fileFault? path s.catalog.root s.file = some e ∧
        goodText? s.catalog.root s.file = none ∧ s.step .reload = (s, .failed e)) ∨
      ∃ path g source, s.catalog.path = some path ∧
        fileFault? path s.catalog.root s.file = none ∧
        goodText? s.catalog.root s.file = some source ∧
        Grammar.compile source s.catalog.root = .ok g ∧
        s.step .reload = handOut { s with catalog := { s.catalog with current := g } } := by
  cases hpath : s.catalog.path with
  | none => exact Or.inl ⟨rfl, by simp [step, Catalog.reload, hpath]⟩
  | some path =>
    rcases readGrammar_contentOf path s.catalog.root s.file with
      ⟨e, hread, hfault, hgood⟩ | ⟨g, source, hread, hfault, hgood, hcompile⟩
    · exact Or.inr (Or.inl ⟨path, e, rfl, hfault, hgood, by
        simp [step, Catalog.reload, hpath, hread, Except.map]⟩)
    · exact Or.inr (Or.inr ⟨path, g, source, rfl, hfault, hgood, hcompile, by
        simp [step, Catalog.reload, hpath, hread, Except.map]⟩)

theorem isPrefix_held_step (s : Shelf) (op : CatalogOp) : s.held <+: (s.step op).1.held := by
  cases op with
  | reload =>
    rcases s.step_reload_cases with ⟨-, h⟩ | ⟨_, _, -, -, -, h⟩ | ⟨_, _, _, -, -, -, -, h⟩ <;>
      simp [h, handOut]
  | get => exact List.prefix_append ..
  | _ => exact List.prefix_refl _

/-- Grammars that a caller is told are handed out. -/
theorem held_step_of_grammar {op : CatalogOp} {g : Grammar} (h : (s.step op).2 = .grammar g) :
    (s.step op).1.held = s.held ++ [g] := by
  cases op with
  | reload =>
    rcases s.step_reload_cases with ⟨-, hstep⟩ | ⟨_, _, -, -, -, hstep⟩ |
      ⟨_, _, _, -, -, -, -, hstep⟩ <;> rw [hstep] at h ⊢ <;> cases h <;> rfl
  | get =>
    cases h
    rfl
  | _ => cases h

/-- The shelf is as the history says : the file holds what was written last, and the grammar in use
is that of the source that was used last. -/
structure Tracks (path : Option String) (root : String) (known : Option ByteArray × String)
    (s : Shelf) : Prop where
  file_eq : s.file = known.1
  path_eq : s.catalog.path = path
  root_eq : s.catalog.root = root
  compiles : Grammar.compile known.2 root = .ok s.catalog.current

theorem Tracks.step {known : Option ByteArray × String} (h : s.Tracks path root known)
    (op : CatalogOp) : (s.step op).1.Tracks path root (noteGood path root known op) := by
  obtain ⟨hfile, rfl, rfl, hcurrent⟩ := h
  cases op with
  | write bytes => exact ⟨rfl, rfl, rfl, hcurrent⟩
  | delete => exact ⟨rfl, rfl, rfl, hcurrent⟩
  | get => exact ⟨hfile, rfl, rfl, hcurrent⟩
  | reload =>
    rcases s.step_reload_cases with ⟨hpath, hstep⟩ | ⟨path, e, hpath, -, hgood, hstep⟩ |
      ⟨path, g, source, hpath, -, hgood, hcompile, hstep⟩
    · rw [hstep, noteGood, hpath]
      exact ⟨hfile, hpath, rfl, hcurrent⟩
    · rw [hstep, noteGood, ← hfile, hgood, hpath]
      exact ⟨rfl, hpath, rfl, hcurrent⟩
    · rw [hstep, noteGood, ← hfile, hgood, hpath]
      exact ⟨rfl, hpath, rfl, hcompile⟩

/-! ## Runs -/

/-- What was handed out stays as it is. -/
theorem isPrefix_held_run (s : Shelf) (ops : List CatalogOp) : s.held <+: (s.run ops).held := by
  induction ops generalizing s with
  | nil => exact List.prefix_refl _
  | cons op ops ih => exact (s.isPrefix_held_step op).trans (ih _)

theorem Tracks.run {known : Option ByteArray × String} (h : s.Tracks path root known)
    (ops : List CatalogOp) :
    (s.run ops).Tracks path root (ops.foldl (noteGood path root) known) := by
  induction ops generalizing s known with
  | nil => exact h
  | cons op ops ih => exact ih (h.step op)

end Shelf

/-! ## Catalogs that are made -/

namespace Catalog

/-- A catalog was made with a source : from a file that holds it, or from the text itself, in which
case there may be any file. -/
inductive Made : Option String → String → Option ByteArray → String → Catalog → Prop
  | ofFile {path root source : String} {bytes : ByteArray} {c : Catalog}
      (hsource : String.fromUTF8? bytes = some source)
      (h : load path root (contentOf (some bytes)) = .ok c) :
      Made (some path) root (some bytes) source c
  | ofText {root source : String} {file : Option ByteArray} {c : Catalog}
      (h : ofSource source root = .ok c) : Made none root file source c

theorem Made.tracks (h : Made path root file good c) (held : List Grammar) :
    (Shelf.mk file c held).Tracks path root (file, good) := by
  cases h with
  | ofFile hsource h =>
    simp only [load, contentOf, FileContent.ofBytes, hsource, readGrammar] at h
    cases hcompile : Grammar.compile (ρ := Regex) good root with
    | error e => simp [hcompile, Except.map] at h
    | ok g =>
      obtain rfl : ⟨_, root, g⟩ = c := by simpa [hcompile, Except.map] using h
      exact ⟨rfl, rfl, rfl, hcompile⟩
  | ofText h =>
    rw [ofSource] at h
    cases hcompile : Grammar.compile (ρ := Regex) good root with
    | error e => simp [hcompile, Except.map] at h
    | ok g =>
      obtain rfl : ⟨none, root, g⟩ = c := by simpa [hcompile, Except.map] using h
      exact ⟨rfl, rfl, rfl, hcompile⟩

/-- What callers can rely on where the source `good` was used last. -/
structure Kept (path : Option String) (root good : String) (s : Shelf) : Prop where
  /-- The grammar in use is that of the source. -/
  current : Grammar.compile good root = .ok s.catalog.current
  /-- Reading the file again fails exactly if the file cannot be used, and says why. -/
  fails_iff : ∀ e, (s.step .reload).2 = .failed e ↔
    ∃ p, path = some p ∧ fileFault? p root s.file = some e
  /-- A failure changes nothing. -/
  unchanged : ∀ e, (s.step .reload).2 = .failed e → (s.step .reload).1 = s
  /-- Where it does not fail, the caller is told the grammar that is in use from then on. -/
  installed : (∀ e, (s.step .reload).2 ≠ .failed e) →
    (s.step .reload).2 = .grammar (s.step .reload).1.catalog.current
  /-- Without a file to read, the grammar in use stays. -/
  memory : path = none → (s.step .reload).2 = .grammar s.catalog.current ∧
    (s.step .reload).1.catalog = s.catalog
  /-- Who asks is told the grammar in use. -/
  asked : (s.step .get).2 = .grammar s.catalog.current
  /-- Grammars that callers are told are handed out to them. -/
  handed : ∀ op g, (s.step op).2 = .grammar g → (s.step op).1.held = s.held ++ [g]
  /-- What was handed out never changes. -/
  held : ∀ ops, s.held <+: (s.run ops).held

theorem kept_of_tracks {known : Option ByteArray × String} {s : Shelf}
    (h : s.Tracks path root known) : Kept path root known.2 s := by
  obtain ⟨-, rfl, rfl, hcurrent⟩ := h
  have hcases := s.step_reload_cases
  refine ⟨hcurrent, fun e => ?_, fun e he => ?_, fun he => ?_, fun hnone => ?_, rfl,
    fun _ _ => Shelf.held_step_of_grammar, s.isPrefix_held_run⟩
  · rcases hcases with ⟨hpath, hstep⟩ | ⟨path, e', hpath, hfault, -, hstep⟩ |
      ⟨path, g, source, hpath, hfault, -, -, hstep⟩
    · simp [hstep, hpath, Shelf.handOut]
    · simp [hstep, hpath, hfault]
    · simp [hstep, hpath, hfault, Shelf.handOut]
  · rcases hcases with ⟨-, hstep⟩ | ⟨_, _, -, -, -, hstep⟩ | ⟨_, _, _, -, -, -, -, hstep⟩
    · simp [hstep, Shelf.handOut] at he
    · rw [hstep]
    · simp [hstep, Shelf.handOut] at he
  · rcases hcases with ⟨-, hstep⟩ | ⟨_, _, -, -, -, hstep⟩ | ⟨_, _, _, -, -, -, -, hstep⟩
    · rw [hstep]
      rfl
    · exact absurd (congrArg Prod.snd hstep) (he _)
    · rw [hstep]
      rfl
  · rcases hcases with ⟨-, hstep⟩ | ⟨_, _, hsome, -⟩ | ⟨_, _, _, hsome, -⟩
    · rw [hstep]
      exact ⟨rfl, rfl⟩
    · cases hnone.symm.trans hsome
    · cases hnone.symm.trans hsome

/-- Whatever has been done, callers can rely on a catalog, and its grammar is that of the last
source that was used. -/
theorem kept_run_of_made (h : Made path root file good c) (ops : List CatalogOp) :
    Kept path root (lastGood path root file good ops) ((Shelf.mk file c []).run ops) :=
  kept_of_tracks ((h.tracks []).run ops)

/-- A file is deleted, and comes back with bytes that are no text, with a grammar without the root
and with a good one; the catalog is asked to read it each time. -/
theorem kept_run_of_made_file : ∃ c, Made (some "g.lark") "start" (some "start: \"a\"".toUTF8)
      "start: \"a\"" c ∧
    Kept (some "g.lark") "start" "start: \"b\"" ((Shelf.mk (some "start: \"a\"".toUTF8) c []).run
      [.get, .delete, .reload, .write ⟨#[0xff]⟩, .reload, .write "a: \"c\"".toUTF8, .reload,
        .write "start: \"b\"".toUTF8, .reload, .get, .write "start: b".toUTF8, .reload]) := by
  have hread : String.fromUTF8? "start: \"a\"".toUTF8 = some "start: \"a\"" := by decide +kernel
  obtain ⟨c, hc⟩ : ∃ c, load "g.lark" "start" (contentOf (some "start: \"a\"".toUTF8)) = .ok c := by
    have hok : (load "g.lark" "start" (contentOf (some "start: \"a\"".toUTF8))).toBool = true := by
      decide +kernel
    cases hload : load "g.lark" "start" (contentOf (some "start: \"a\"".toUTF8)) with
    | ok c => exact ⟨c, rfl⟩
    | error e =>
      rw [hload] at hok
      cases hok
  have hmade := Made.ofFile hread hc
  have hkept := kept_run_of_made hmade [.get, .delete, .reload, .write ⟨#[0xff]⟩, .reload,
    .write "a: \"c\"".toUTF8, .reload, .write "start: \"b\"".toUTF8, .reload, .get,
    .write "start: b".toUTF8, .reload]
  have hgood : lastGood (some "g.lark") "start" (some "start: \"a\"".toUTF8) "start: \"a\""
      [.get, .delete, .reload, .write ⟨#[0xff]⟩, .reload, .write "a: \"c\"".toUTF8, .reload,
        .write "start: \"b\"".toUTF8, .reload, .get, .write "start: b".toUTF8, .reload] =
      "start: \"b\"" := by decide +kernel
  rw [hgood] at hkept
  exact ⟨c, hmade, hkept⟩

end Catalog

end QueryGate
