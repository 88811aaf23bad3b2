import QueryGate.Ebnf.Source
import QueryGate.Proofs.Ebnf.Definitions
import QueryGate.Proofs.Ebnf.Inline

/-!
# Reading sources

A source of definitions, one to a line, with blank lines and comments between them, is read as the
definitions with the numbers of their lines (`definitions_sourceText`). Each line adds the entry of
its own definition and continues none (`addLine_text`).
-/

namespace QueryGate.Ebnf

open Text

variable {row : Row} {rows : List Row} {d : Definition} {s t space : List Char} {n : Nat}

theorem isWhite_of_isBlankChar {c : Char} (h : isBlankChar c = true) : isWhite c = true := by
  rcases isBlankChar_iff.mp h with rfl | rfl | rfl | rfl <;> decide

theorem beforeComment_space (hspace : ∀ c ∈ space, isWhite c = true) (t : List Char) :
    beforeComment none (space ++ t) = space ++ beforeComment none t := by
  induction space with
  | nil => rfl
  | cons c space ih =>
    rw [List.forall_mem_cons] at hspace
    have hplain : c ≠ '"' ∧ c ≠ '/' := by
      constructor <;> rintro rfl <;> exact absurd hspace.1 (by decide)
    rw [List.cons_append, beforeComment_cons hplain.1 hplain.2, ih hspace.2]
    rfl

namespace Row

/-! ## Rows as lines -/

/-- The parts of a row that can stand in a source. -/
theorem isNormal_iff : row.isNormal = true ↔
    (∀ d ∈ row.definition, d.isNormal = true) ∧
      (∀ c ∈ row.space, c ≠ '\n' ∧
        (if row.definition.isSome then isBlankChar c else isWhite c) = true) ∧
      ∀ c ∈ row.comment.getD [], c ≠ '\n' := by
  simp [isNormal, and_assoc, Option.all_eq_true]

theorem isWhite_of_mem_space (h : row.isNormal = true) : ∀ c ∈ row.space, isWhite c = true := by
  intro c hc
  have hkind := ((isNormal_iff.mp h).2.1 c hc).2
  split_ifs at hkind
  · exact isWhite_of_isBlankChar hkind
  · exact hkind

theorem isBlankChar_of_mem_space (h : row.isNormal = true) (hd : row.definition = some d) :
    ∀ c ∈ row.space, isBlankChar c = true := by
  intro c hc
  simpa [hd] using ((isNormal_iff.mp h).2.1 c hc).2

theorem isInline_definition (h : row.isNormal = true) :
    IsInline ((row.definition.map Definition.text).getD []) := by
  cases hd : row.definition with
  | none => exact .nil
  | some d => exact Definition.isInline_text ((isNormal_iff.mp h).1 d hd)

theorem definition_of_text_eq_nil (h : row.isNormal = true) (hempty : row.text = []) :
    row.definition = none := by
  cases hd : row.definition with
  | none => rfl
  | some d =>
    obtain ⟨c, t, ht, -⟩ := Definition.exists_text ((isNormal_iff.mp h).1 d hd)
    simp [text, hd, ht] at hempty

theorem not_mem_text (h : row.isNormal = true) : '\n' ∉ row.text := by
  have hnormal := isNormal_iff.mp h
  have hcomment : '\n' ∉ (row.comment.map ('/' :: '/' :: ·)).getD [] := by
    cases hc : row.comment with
    | none => exact List.not_mem_nil
    | some c =>
      intro hmem
      have hfeed : '\n' ∈ c := by simpa using hmem
      exact hnormal.2.2 _ (by rwa [hc]) rfl
  simp only [text, List.mem_append, not_or]
  exact ⟨(isInline_definition h).noFeed, fun hmem => (hnormal.2.1 _ hmem).1 rfl, hcomment⟩

/-- A row without its comment. -/
theorem uncommented_text (h : row.isNormal = true) :
    uncommented row.text = (row.definition.map Definition.text).getD [] ++ row.space := by
  have hcomment : beforeComment none ((row.comment.map ('/' :: '/' :: ·)).getD []) = [] := by
    cases row.comment with
    | none => rfl
    | some c =>
      rw [beforeComment.eq_def]
      rfl
  rw [uncommented, text, (isInline_definition h).passes,
    beforeComment_space (isWhite_of_mem_space h), hcomment, List.append_nil]

/-- The entry that a row adds. -/
def entry (row : Row) (line : Nat) : Option Entry :=
  row.definition.map fun d => ⟨line, d.text ++ row.space⟩

theorem addLine_text (h : row.isNormal = true) (entries : List Entry) (n : Nat) :
    addLine entries (row.text, n) = (row.entry (n + 1)).toList ++ entries := by
  have htext := uncommented_text h
  cases hd : row.definition with
  | none =>
    have hblank : isBlank (uncommented row.text) = true := by
      rw [htext, hd]
      simpa [isBlank] using isWhite_of_mem_space h
    simp [addLine, hblank, entry, hd]
  | some d =>
    obtain ⟨c, t, ht, hc⟩ := Definition.exists_text ((isNormal_iff.mp h).1 d hd)
    have hwhite : isWhite c = false := by
      rcases hc with hstart | rfl
      · exact not_isWhite_of_isNameStart hstart
      · decide
    have hbar : c ≠ '|' := by
      rcases hc with hstart | rfl
      · rintro rfl
        exact absurd hstart (by decide)
      · decide
    rw [hd, Option.map_some, Option.getD_some] at htext
    have hblank : isBlank (d.text ++ row.space) = false := by
      simp [isBlank, ht, hwhite]
    have hcontinues : continues (d.text ++ row.space) = false := by
      simp [continues, trimStart, ht, hwhite, hbar]
    cases entries with
    | nil => simp [addLine, htext, hblank, entry, hd]
    | cons last earlier => simp [addLine, htext, hblank, hcontinues, entry, hd]

theorem foldl_addLine_text (h : ∀ row ∈ rows, row.isNormal = true) (entries : List Entry)
    (n : Nat) :
    ((rows.map text).zipIdx n).foldl addLine entries =
      ((rows.zipIdx (n + 1)).filterMap fun x => x.1.entry x.2).reverse ++ entries := by
  induction rows generalizing entries n with
  | nil => rfl
  | cons row rows ih =>
    rw [List.forall_mem_cons] at h
    rw [List.map_cons, List.zipIdx_cons, List.foldl_cons, addLine_text h.1, ih h.2,
      List.zipIdx_cons, List.filterMap_cons]
    cases row.entry (n + 1) with
    | none => rfl
    | some entry => simp

theorem mapM_readEntry (h : ∀ row ∈ rows, row.isNormal = true) (n : Nat) :
    ((rows.zipIdx n).filterMap fun x => x.1.entry x.2).mapM readEntry =
      .ok ((rows.zipIdx n).filterMap fun x => x.1.located x.2) := by
  induction rows generalizing n with
  | nil => rfl
  | cons row rows ih =>
    rw [List.forall_mem_cons] at h
    rw [List.zipIdx_cons, List.filterMap_cons, List.filterMap_cons]
    cases hd : row.definition with
    | none =>
      have hentry : row.entry n = none := by rw [entry, hd]; rfl
      have hlocated : row.located n = none := by rw [located, hd]; rfl
      rw [hentry, hlocated]
      exact ih h.2 (n + 1)
    | some d =>
      have hentry : row.entry n = some ⟨n, d.text ++ row.space⟩ := by rw [entry, hd]; rfl
      have hlocated : row.located n = some ⟨n, d⟩ := by rw [located, hd]; rfl
      have hread : readEntry ⟨n, d.text ++ row.space⟩ = .ok ⟨n, d⟩ := by
        rw [readEntry, readDefinition_text ((isNormal_iff.mp h.1).1 d hd)
          (isBlankChar_of_mem_space h.1 hd)]
      rw [hentry, hlocated, List.mapM_cons, hread, ih h.2 (n + 1)]
      rfl

/-! ## Ends of lines -/

/-- A row without the carriage return at its end. -/
def chomp (row : Row) : Row :=
  match row.comment with
  | none => { row with space := dropReturn row.space }
  | some c => { row with comment := some (dropReturn c) }

theorem definition_chomp (row : Row) : row.chomp.definition = row.definition := by
  unfold chomp
  split <;> rfl

theorem isNormal_chomp (h : row.isNormal = true) : row.chomp.isNormal = true := by
  obtain ⟨hdefinition, hspace, hcomment⟩ := isNormal_iff.mp h
  rw [isNormal_iff, definition_chomp]
  cases hc : row.comment with
  | none =>
    simp only [chomp, hc]
    exact ⟨hdefinition, fun c hmem => hspace c (mem_of_mem_dropReturn hmem), by simp⟩
  | some comment =>
    rw [hc] at hcomment
    simp only [chomp, hc]
    exact ⟨hdefinition, hspace, fun c hmem => hcomment c (mem_of_mem_dropReturn hmem)⟩

theorem text_chomp (h : row.isNormal = true) : row.chomp.text = dropReturn row.text := by
  have hinline := isInline_definition h
  rw [text, text, definition_chomp]
  generalize (row.definition.map Definition.text).getD [] = s at hinline
  cases hc : row.comment with
  | none =>
    simp only [chomp, hc, Option.map_none, Option.getD_none, List.append_nil]
    exact (dropReturn_append hinline.noReturn _).symm
  | some comment =>
    have hsplit : ∀ t : List Char, s ++ (row.space ++ '/' :: '/' :: t) =
        (s ++ row.space ++ ['/', '/']) ++ t := fun t => by simp
    have hlast : (s ++ row.space ++ ['/', '/']).getLast? ≠ some '\r' := by simp
    simp only [chomp, hc, Option.map_some, Option.getD_some, hsplit]
    exact (dropReturn_append hlast _).symm

end Row

theorem located_append (rows rows' : List Row) : located (rows ++ rows') =
    located rows ++ (rows'.zipIdx (rows.length + 1)).filterMap fun x => x.1.located x.2 := by
  rw [located, List.zipIdx_append, List.filterMap_append, located, Nat.add_comm 1]

theorem located_map_chomp (rows : List Row) : located (rows.map Row.chomp) = located rows := by
  rw [located, located, List.zipIdx_map, List.filterMap_map]
  refine List.filterMap_congr fun x _ => ?_
  simp [Row.located, Row.definition_chomp]

/-- The lines of a source are rows with the same definitions. -/
theorem exists_lines_eq (h : ∀ row ∈ rows, row.isNormal = true) :
    ∃ rows', (∀ row ∈ rows', row.isNormal = true) ∧
      lines (joinWith ['\n'] (rows.map Row.text)) = rows'.map Row.text ∧
      located rows' = located rows := by
  rcases List.eq_nil_or_concat' rows with rfl | ⟨rows, last, rfl⟩
  · exact ⟨[], h, rfl, rfl⟩
  have hlast := h last (by simp)
  have hrows : ∀ row ∈ rows, row.isNormal = true := fun row hrow => h row (by simp [hrow])
  have hchomp : (rows.map Row.text).map dropReturn = (rows.map Row.chomp).map Row.text := by
    rw [List.map_map, List.map_map]
    exact List.map_congr_left fun row hrow => (Row.text_chomp (hrows row hrow)).symm
  have hnormal : ∀ row ∈ rows.map Row.chomp, row.isNormal = true :=
    List.forall_mem_map.mpr fun row hrow => Row.isNormal_chomp (hrows row hrow)
  have hne : (rows ++ [last]).map Row.text ≠ [] := by simp
  have hlines := lines_joinWith hne
    (List.forall_mem_map.mpr fun row hrow => Row.not_mem_text (h row hrow))
  rw [List.map_append, List.map_singleton, List.dropLast_concat, List.getLast?_concat,
    hchomp] at hlines
  by_cases hempty : last.text = []
  · refine ⟨rows.map Row.chomp, hnormal, ?_, ?_⟩
    · rw [List.map_append, List.map_singleton, hlines, hempty]
      exact List.append_nil _
    · rw [located_append, located_map_chomp]
      simp [Row.located, Row.definition_of_text_eq_nil hlast hempty]
  · refine ⟨rows.map Row.chomp ++ [last], ?_, ?_, ?_⟩
    · exact List.forall_mem_append.mpr ⟨hnormal, by simpa using hlast⟩
    · rw [List.map_append, List.map_singleton, hlines]
      simp [hempty]
    · rw [located_append, located_append, located_map_chomp, List.length_map]

/-- A source is read as what was written into it. -/
theorem definitions_sourceText (rows : List Row) (h : ∀ row ∈ rows, row.isNormal = true) :
    definitions (sourceText rows) = .ok (located rows) := by
  obtain ⟨rows', hrows', hlines, hlocated⟩ := exists_lines_eq h
  rw [definitions, sourceText, String.toList_ofList, entries, hlines,
    Row.foldl_addLine_text hrows', List.append_nil, List.reverse_reverse,
    Row.mapM_readEntry hrows', ← hlocated]
  rfl

/-- Lines with definitions of every kind. -/
def manyRows : List Row :=
  [⟨none, [' '], some " digits".toList⟩,
    ⟨some (.terminal "NUMBER" (.rep (.alt [.range '0' '9', .pattern "[/.]\\d" "i"]) 1 none)), [' '],
      some " \"quoted".toList⟩,
    ⟨none, [], none⟩,
    ⟨some (.rule "start" (.seq [.rep (.name "item") 2 (some 3),
      .rep (.alt [.literal "//\n\"" true, .seq []]) 0 (some 1)])), ['\r'], none⟩,
    ⟨some (.imports "common" [("N", "INT")]), [], some []⟩,
    ⟨some (.imports "common" [("WS", "WS"), ("LF", "LF")]), [], none⟩,
    ⟨some (.ignore (.name "WS")), ['\t'], none⟩,
    ⟨none, [], none⟩]

theorem definitions_sourceText_manyRows :
    (∀ row ∈ manyRows, row.isNormal = true) ∧
      sourceText manyRows =
        " // digits\nNUMBER: (\"0\"..\"9\" | /[\\/.]\\d/i)+ // \"quoted\n\n" ++
          "start: item~2..3 (\"//\\n\\\"\"i | ())?\r\n" ++
          "%import common.INT -> N//\n%import common (WS, LF)\n%ignore WS\t\n" ∧
      definitions (sourceText manyRows) = .ok (located manyRows) ∧
      (located manyRows).map (·.line) = [2, 4, 5, 6, 7] := by
  have hnormal : ∀ row ∈ manyRows, row.isNormal = true := by decide +kernel
  exact ⟨hnormal, by decide +kernel, definitions_sourceText manyRows hnormal, rfl⟩

end QueryGate.Ebnf
