import QueryGate.Ebnf.Source
import QueryGate.Proofs.Ebnf.Equality
import QueryGate.Proofs.Ebnf.Rests
import QueryGate.Proofs.Text.Pieces

/-!
# Where reading stops

A definition stands on lines of the source, of which those that are blank or hold only a comment are
passed over. `Stop` is a place on one of these lines, `StopsAt` says that reading a source ends
there. The line that the error names falls short of the line with that place by the number of lines
passed over in between (`exists_stop_of_definitions`), and is another one where there are any
(`exists_stop_before_line`).
-/

namespace QueryGate

namespace Text

variable {c : Char} {pieces : List (List Char)} {rest : List Char}

theorem joinWith_append_cons (sep : List Char) (before : List (List Char)) (s : List Char)
    (behind : List (List Char)) : joinWith sep (before ++ s :: behind) =
      before.flatMap (· ++ sep) ++ (s ++ behind.flatMap (sep ++ ·)) := by
  induction before with
  | nil => exact joinWith_cons sep s behind
  | cons t before ih =>
    rw [List.cons_append, joinWith_cons, List.flatMap_cons, List.append_assoc, ← ih]
    obtain ⟨u, us, hus⟩ := List.exists_cons_of_ne_nil (List.append_ne_nil_of_right_ne_nil before
      (List.cons_ne_nil s behind))
    rw [hus, joinWith_cons, List.flatMap_cons, List.append_assoc, List.append_assoc]

/-- The end of a text of pieces begins in one of them. -/
theorem exists_piece_of_isSuffix (hne : pieces ≠ []) (h : rest <:+ joinWith [c] pieces) :
    ∃ before read unread behind, pieces = before ++ (read ++ unread) :: behind ∧
      rest = unread ++ behind.flatMap (c :: ·) := by
  induction pieces with
  | nil => exact absurd rfl hne
  | cons s pieces ih =>
    rw [joinWith_cons] at h
    obtain ⟨read, hread⟩ := h
    rcases List.append_eq_append_iff.mp hread with ⟨unread, hs, hrest⟩ | ⟨passed, -, hlater⟩
    · exact ⟨[], read, unread, pieces, by rw [hs]; rfl, hrest⟩
    · cases pieces with
      | nil =>
        rw [List.flatMap_nil, eq_comm, List.append_eq_nil_iff] at hlater
        exact ⟨[], s, [], [], by simp, by simp [hlater.2]⟩
      | cons t pieces =>
        cases passed with
        | nil => exact ⟨[], s, [], t :: pieces, by simp, hlater.symm⟩
        | cons d passed =>
          have hend : rest <:+ joinWith [c] (t :: pieces) := by
            rw [List.flatMap_cons, List.append_assoc] at hlater
            rw [joinWith_cons]
            exact ⟨passed, (List.cons.inj hlater).2.symm⟩
          obtain ⟨before, r, u, behind, hpieces, hrest⟩ := ih (List.cons_ne_nil t pieces) hend
          exact ⟨s :: before, r, u, behind, by rw [hpieces]; rfl, hrest⟩

/-- Every piece before a place puts one separator in front of it. -/
theorem count_flatMap_append (before : List (List Char)) (h : ∀ s ∈ before, c ∉ s) :
    (before.flatMap (· ++ [c])).count c = before.length := by
  induction before with
  | nil => rfl
  | cons s before ih =>
    rw [List.forall_mem_cons] at h
    rw [List.flatMap_cons, List.count_append, List.count_append, List.count_eq_zero.mpr h.1,
      ih h.2, List.count_singleton_self, List.length_cons]
    omega

theorem not_mem_of_mem_splitAt {s t : List Char} (h : t ∈ splitAt c s) : c ∉ t := by
  induction s generalizing t with
  | nil =>
    rw [List.mem_singleton.mp h]
    exact List.not_mem_nil
  | cons d s ih =>
    obtain ⟨u, pieces, hpieces⟩ := List.exists_cons_of_ne_nil (splitAt_ne_nil c s)
    rw [splitAt, hpieces] at h
    rw [hpieces] at ih
    split_ifs at h with hd
    · rcases List.mem_cons.mp h with rfl | h
      · exact List.not_mem_nil
      · exact ih h
    · rcases List.mem_cons.mp h with rfl | h
      · rw [List.mem_cons, not_or]
        exact ⟨fun heq => hd (by simp [heq]), ih (List.mem_cons_self ..)⟩
      · exact ih (List.mem_cons_of_mem _ h)

theorem not_mem_of_mem_lines {s line : List Char} (h : line ∈ lines s) : '\n' ∉ line := by
  unfold lines at h
  dsimp only at h
  rcases List.mem_append.mp h with h | h
  · obtain ⟨t, ht, rfl⟩ := List.mem_map.mp h
    exact fun hmem => not_mem_of_mem_splitAt (List.mem_of_mem_dropLast ht)
      (mem_of_mem_dropReturn hmem)
  · exact not_mem_of_mem_splitAt
      (List.mem_of_getLast? (Option.mem_toList.mp (List.mem_filter.mp h).1))

end Text

namespace Ebnf

open Text

/-- The lines that have something on them besides a comment, without their comments. -/
def kept (rows : List (List Char)) : List (List Char) :=
  (rows.map uncommented).filter (!isBlank ·)

/-- A place in a definition, among the lines of the source. -/
structure Stop where
  /-- The lines before the definition. -/
  front : List (List Char)
  /-- The lines of the definition before the one with the place. -/
  inside : List (List Char)
  /-- The line with the place. -/
  line : List Char
  /-- What stands before the place on its line. -/
  read : List Char
  /-- What stands behind it, up to a comment. -/
  unread : List Char
  /-- The lines of the definition behind that line. -/
  behind : List (List Char)

/-- The number of the line with the place, counted from one. -/
def Stop.physicalLine (stop : Stop) : Nat :=
  stop.front.length + stop.inside.length + 1

/-- The lines of the definition. -/
def Stop.rows (stop : Stop) : List (List Char) :=
  stop.inside ++ stop.line :: stop.behind

/-- The definition as it is read. -/
def Stop.entry (stop : Stop) : Entry :=
  ⟨stop.front.length + 1, joinWith ['\n'] (kept stop.rows)⟩

/-- The definition from the place on. -/
def Stop.rest (stop : Stop) : List Char :=
  stop.unread ++ (kept stop.behind).flatMap ('\n' :: ·)

/-- Reading the source ends at the place. -/
structure StopsAt (source : String) (stop : Stop) : Prop where
  lines_eq : ∃ after, lines source.toList = stop.front ++ stop.rows ++ after
  begins : ∃ first ∈ stop.rows.head?, isBlank (uncommented first) = false
  line_eq : uncommented stop.line = stop.read ++ stop.unread
  line_kept : isBlank (uncommented stop.line) = false
  entries_eq : ∃ earlier later, entries source.toList = earlier ++ stop.entry :: later ∧
    ∀ entry ∈ earlier, ∃ d, readDefinition entry.text = .ok d
  fails : readDefinition stop.entry.text = .error stop.rest

variable {source : String} {rows before behind : List (List Char)} {line s : List Char} {c : Char}
  {done : List (List Char)} {entry : Entry} {es : List Entry} {e : GrammarError}

/-- Without its comment, a line is the front of what it was. -/
theorem isPrefix_beforeComment (mark : Option Char) (s : List Char) :
    beforeComment mark s <+: s := by
  fun_induction beforeComment mark s with
  | case1 => exact List.prefix_rfl
  | case2 => exact List.prefix_rfl
  | case3 d c hslash e s ih =>
    exact List.cons_prefix_cons.mpr ⟨rfl, List.cons_prefix_cons.mpr ⟨rfl, ih⟩⟩
  | case4 d c s hslash hmark ih => exact List.cons_prefix_cons.mpr ⟨rfl, ih⟩
  | case5 d c s hslash hmark ih => exact List.cons_prefix_cons.mpr ⟨rfl, ih⟩
  | case6 => exact List.nil_prefix
  | case7 c s hslash hmark ih => exact List.cons_prefix_cons.mpr ⟨rfl, ih⟩
  | case8 c s hslash hmark ih => exact List.cons_prefix_cons.mpr ⟨rfl, ih⟩

/-! ## Lines that are kept -/

theorem kept_append (rows rows' : List (List Char)) :
    kept (rows ++ rows') = kept rows ++ kept rows' := by
  rw [kept, List.map_append, List.filter_append]
  rfl

theorem kept_singleton_of_isBlank (h : isBlank (uncommented line) = true) : kept [line] = [] := by
  simp [kept, h]

theorem kept_singleton (h : isBlank (uncommented line) = false) :
    kept [line] = [uncommented line] := by
  simp [kept, h]

/-- A line is kept or passed over. -/
theorem length_kept (rows : List (List Char)) :
    (kept rows).length + rows.countP (isBlank <| uncommented ·) = rows.length := by
  induction rows with
  | nil => rfl
  | cons line rows ih =>
    rw [← List.singleton_append, kept_append, List.length_append, List.countP_append,
      List.length_append]
    cases h : isBlank (uncommented line) with
    | true => simp [kept_singleton_of_isBlank h, h]; omega
    | false => simp [kept_singleton h, h]; omega

/-- A line that is kept stands somewhere among the lines. -/
theorem exists_row_of_kept_eq (h : kept rows = before ++ s :: behind) :
    ∃ inside line after, rows = inside ++ line :: after ∧ kept inside = before ∧
      uncommented line = s ∧ isBlank s = false ∧ kept after = behind := by
  obtain ⟨front, back, hsplit, hfront, hback⟩ := List.filter_eq_append_iff.mp h
  obtain ⟨passed, tail, rfl, hpassed, hs, htail⟩ := List.filter_eq_cons_iff.mp hback
  obtain ⟨inside₁, rows', rfl, rfl, hrows'⟩ := List.map_eq_append_iff.mp hsplit
  obtain ⟨inside₂, rows'', rfl, rfl, hrows''⟩ := List.map_eq_append_iff.mp hrows'
  obtain ⟨line, after, rfl, rfl, rfl⟩ := List.map_eq_cons_iff.mp hrows''
  refine ⟨inside₁ ++ inside₂, line, after, by simp, ?_, rfl, by simpa using hs, htail⟩
  have hnone : kept inside₂ = [] := List.filter_eq_nil_iff.mpr hpassed
  rw [kept_append, hnone, List.append_nil]
  exact hfront

/-! ## Entries and their lines -/

/-- An entry is what lines in the midst of others make. -/
structure StandsOn (done : List (List Char)) (entry : Entry) (front rows after : List (List Char)) :
    Prop where
  lines_eq : done = front ++ rows ++ after
  begins : ∃ first ∈ rows.head?, isBlank (uncommented first) = false
  entry_eq : entry = ⟨front.length + 1, joinWith ['\n'] (kept rows)⟩

theorem kept_ne_nil (h : ∃ first ∈ rows.head?, isBlank (uncommented first) = false) :
    kept rows ≠ [] := by
  obtain ⟨first, hfirst, hblank⟩ := h
  obtain ⟨rest, rfl⟩ := List.head?_eq_some_iff.mp hfirst
  rw [← List.singleton_append, kept_append, kept_singleton hblank]
  exact List.append_ne_nil_of_left_ne_nil (List.cons_ne_nil _ _) _

theorem StandsOn.append {front after : List (List Char)} (h : StandsOn done entry front rows after)
    (line : List Char) : StandsOn (done ++ [line]) entry front rows (after ++ [line]) :=
  ⟨by rw [h.lines_eq, List.append_assoc], h.begins, h.entry_eq⟩

/-- A line that goes on from the last entry, with more text or with none. -/
theorem StandsOn.grow {front : List (List Char)} {last : Entry}
    (h : StandsOn done last front rows []) (line : List Char) : StandsOn (done ++ [line])
      ⟨last.line, joinWith ['\n'] (kept (rows ++ [line]))⟩ front (rows ++ [line]) [] := by
  obtain ⟨rfl, ⟨first, hfirst, hblank⟩, rfl⟩ := h
  refine ⟨by simp, ⟨first, ?_, hblank⟩, rfl⟩
  obtain ⟨rest, rfl⟩ := List.head?_eq_some_iff.mp hfirst
  rfl

theorem standsOn_singleton (h : isBlank (uncommented line) = false) :
    StandsOn (done ++ [line]) ⟨done.length + 1, uncommented line⟩ done [line] [] :=
  ⟨by simp, ⟨line, rfl, h⟩,
    by rw [kept_singleton h, joinWith_cons, List.flatMap_nil, List.append_nil]⟩

/-- Every entry stands on lines, the last one on the last lines. -/
structure Laid (done : List (List Char)) (es : List Entry) : Prop where
  last : ∀ entry ∈ es.head?, ∃ front rows, StandsOn done entry front rows []
  all : ∀ entry ∈ es, ∃ front rows after, StandsOn done entry front rows after

/-- Entries stay where they are as another line is added. -/
theorem Laid.all_append (h : Laid done es) (line : List Char) :
    ∀ entry ∈ es, ∃ front rows after, StandsOn (done ++ [line]) entry front rows after := by
  intro entry hentry
  obtain ⟨front, rows, after, hstands⟩ := h.all entry hentry
  exact ⟨front, rows, _, hstands.append line⟩

theorem Laid.cons (h : ∃ front rows, StandsOn done entry front rows [])
    (hall : ∀ entry ∈ es, ∃ front rows after, StandsOn done entry front rows after) :
    Laid done (entry :: es) := by
  refine ⟨fun _ hentry => Option.mem_some.mp hentry ▸ h, List.forall_mem_cons.mpr ⟨?_, hall⟩⟩
  obtain ⟨front, rows, hstands⟩ := h
  exact ⟨front, rows, [], hstands⟩

theorem laid_addLine (h : Laid done es) (line : List Char) :
    Laid (done ++ [line]) (addLine es (line, done.length)) := by
  unfold addLine
  dsimp only
  cases hblank : isBlank (uncommented line) with
  | true =>
    rw [if_pos rfl]
    refine ⟨fun entry hentry => ?_, h.all_append line⟩
    obtain ⟨front, rows, hstands⟩ := h.last entry hentry
    have hgrow := hstands.grow line
    rw [kept_append, kept_singleton_of_isBlank hblank, List.append_nil] at hgrow
    rw [hstands.entry_eq] at hgrow ⊢
    exact ⟨front, _, hgrow⟩
  | false =>
    have hnew : Laid (done ++ [line]) (⟨done.length + 1, uncommented line⟩ :: es) :=
      .cons ⟨done, [line], standsOn_singleton hblank⟩ (h.all_append line)
    rw [if_neg Bool.false_ne_true]
    cases es with
    | nil => exact hnew
    | cons last earlier =>
      dsimp only
      split_ifs
      · obtain ⟨front, rows, hstands⟩ := h.last last rfl
        refine .cons ⟨front, rows ++ [line], ?_⟩ fun entry hentry =>
          h.all_append line entry (List.mem_cons_of_mem _ hentry)
        have hgrow := hstands.grow line
        rw [kept_append, kept_singleton hblank,
          joinWith_append_singleton (kept_ne_nil hstands.begins)] at hgrow
        rw [hstands.entry_eq] at hgrow ⊢
        rw [List.append_assoc] at hgrow
        exact hgrow
      · exact hnew

theorem laid_foldl (h : Laid done es) (rows : List (List Char)) :
    Laid (done ++ rows) ((rows.zipIdx done.length).foldl addLine es) := by
  induction rows generalizing done es with
  | nil => rwa [List.append_nil]
  | cons line rows ih =>
    have hrest := ih (laid_addLine h line)
    rwa [List.append_assoc, List.length_append] at hrest

theorem exists_standsOn_of_mem_entries {source : List Char} (h : entry ∈ entries source) :
    ∃ front rows after, StandsOn (lines source) entry front rows after := by
  have hstart : Laid [] [] := ⟨by simp, by simp⟩
  have hlaid : Laid (lines source) ((lines source).zipIdx.foldl addLine []) :=
    laid_foldl hstart (lines source)
  exact hlaid.all entry (List.mem_reverse.mp h)

/-! ## The line that is named -/

/-- Where the entries of a source cannot all be read, there is a first one that cannot. -/
theorem exists_first_of_mapM_error {entries : List Entry} (h : entries.mapM readEntry = .error e) :
    ∃ earlier entry later rest, entries = earlier ++ entry :: later ∧
      (∀ x ∈ earlier, ∃ d, readDefinition x.text = .ok d) ∧
      readDefinition entry.text = .error rest ∧ e = stoppedAt entry rest := by
  induction entries with
  | nil => cases h
  | cons entry entries ih =>
    rw [List.mapM_cons] at h
    cases hread : readDefinition entry.text with
    | error rest =>
      have hentry : readEntry entry = .error (stoppedAt entry rest) := by rw [readEntry, hread]
      rw [hentry] at h
      exact ⟨[], entry, entries, rest, rfl, by simp, hread, (Except.error.inj h).symm⟩
    | ok d =>
      have hentry : readEntry entry = .ok ⟨entry.line, d⟩ := by rw [readEntry, hread]
      have hrest : entries.mapM readEntry = .error e := by
        rw [hentry] at h
        cases hentries : entries.mapM readEntry with
        | error e' =>
          rw [hentries] at h
          exact h
        | ok ds =>
          rw [hentries] at h
          cases h
      obtain ⟨earlier, entry', later, rest, rfl, hearlier, hfails, he⟩ := ih hrest
      exact ⟨entry :: earlier, entry', later, rest, rfl,
        List.forall_mem_cons.mpr ⟨⟨d, hread⟩, hearlier⟩, hfails, he⟩

theorem not_mem_of_mem_kept (h : ∀ line ∈ rows, '\n' ∉ line) (hs : s ∈ kept rows) : '\n' ∉ s := by
  obtain ⟨line, hline, rfl⟩ := List.mem_map.mp (List.mem_filter.mp hs).1
  exact fun hmem => h line hline ((isPrefix_beforeComment none line).subset hmem)

/-- The line that is named is that of the definition and the lines of it that are kept. -/
theorem exists_stoppedAt_eq {stop : Stop} (hlines : ∀ line ∈ stop.rows, '\n' ∉ line)
    (hline : uncommented stop.line = stop.read ++ stop.unread)
    (hkept : isBlank (uncommented stop.line) = false) : ∃ fault,
      stoppedAt stop.entry stop.rest =
        .badLine (stop.front.length + 1 + (kept stop.inside).length) fault := by
  have hrows : kept stop.rows =
      kept stop.inside ++ (stop.read ++ stop.unread) :: kept stop.behind := by
    rw [Stop.rows, kept_append, ← List.singleton_append, kept_append, kept_singleton hkept, hline]
    rfl
  have htext : stop.entry.text =
      ((kept stop.inside).flatMap (· ++ ['\n']) ++ stop.read) ++ stop.rest := by
    rw [Stop.entry, Stop.rest, hrows, joinWith_append_cons]
    simp
  have hinside : ∀ s ∈ kept stop.inside, '\n' ∉ s := fun s hs =>
    not_mem_of_mem_kept (fun line hmem => hlines line (List.mem_append_left _ hmem)) hs
  have hread : '\n' ∉ stop.read := by
    intro hmem
    have hrow : stop.read ++ stop.unread ∈ kept stop.rows := by
      rw [hrows]
      exact List.mem_append_right _ (List.mem_cons_self ..)
    exact not_mem_of_mem_kept hlines hrow (List.mem_append_left _ hmem)
  have hbefore : stop.entry.text.take (stop.entry.text.length - stop.rest.length) =
      (kept stop.inside).flatMap (· ++ ['\n']) ++ stop.read := by
    rw [htext, List.length_append, Nat.add_sub_cancel, List.take_left]
  refine ⟨_, congrArg₂ GrammarError.badLine ?_ rfl⟩
  rw [hbefore, List.count_append, count_flatMap_append _ hinside, List.count_eq_zero.mpr hread]
  rfl

/-- The line that an error names falls short of the one where reading stops by the number of lines
of the definition before it that are blank or hold only a comment. -/
theorem exists_stop_of_definitions (h : definitions source = .error e) :
    ∃ stop line fault, StopsAt source stop ∧ e = .badLine line fault ∧
      line + stop.inside.countP (isBlank <| uncommented ·) = stop.physicalLine ∧
      (line = stop.physicalLine ↔
        ∀ row ∈ stop.inside, isBlank (uncommented row) = false) := by
  obtain ⟨earlier, entry, later, rest, hentries, hearlier, hfails, rfl⟩ :=
    exists_first_of_mapM_error h
  have hentry : entry ∈ entries source.toList := by simp [hentries]
  obtain ⟨front, rows, after, hlines, hbegins, rfl⟩ := exists_standsOn_of_mem_entries hentry
  obtain ⟨before, read, unread, behind, hkept, rfl⟩ :=
    exists_piece_of_isSuffix (kept_ne_nil hbegins) (isSuffix_of_readDefinition hfails)
  obtain ⟨inside, line, behind, rfl, rfl, hline, hblank, rfl⟩ := exists_row_of_kept_eq hkept
  let stop : Stop := ⟨front, inside, line, read, unread, behind⟩
  have hnofeed : ∀ row ∈ stop.rows, '\n' ∉ row := fun row hrow =>
    not_mem_of_mem_lines (hlines ▸ List.mem_append_left _ (List.mem_append_right _ hrow))
  rw [← hline] at hblank
  obtain ⟨fault, hfault⟩ := exists_stoppedAt_eq hnofeed hline hblank
  have hnumber : stop.front.length + 1 + (kept stop.inside).length +
      stop.inside.countP (isBlank <| uncommented ·) = stop.physicalLine := by
    rw [Nat.add_assoc, length_kept, Stop.physicalLine]
    omega
  refine ⟨stop, _, fault, ⟨⟨after, hlines⟩, hbegins, hline, hblank,
    ⟨earlier, later, hentries, hearlier⟩, hfails⟩, hfault, hnumber, ?_⟩
  calc stop.front.length + 1 + (kept stop.inside).length = stop.physicalLine
    _ ↔ stop.inside.countP (isBlank <| uncommented ·) = 0 := by omega
    _ ↔ ∀ row ∈ stop.inside, isBlank (uncommented row) = false := by simp [List.countP_eq_zero]

/-- A definition that cannot be read, with comments and a blank line in it and before it. -/
def gappedSource : String :=
  "A: \"//\" // a mark\n\n// a choice\nstart: A // \"first\"\n\t// then\n\n  | A A\n//\n  ~ A\n"

theorem exists_stop_of_definitions_gapped :
    definitions gappedSource = .error (.badLine 6 (.unexpectedInput "~ A")) ∧
      ∃ stop line fault, StopsAt gappedSource stop ∧
        GrammarError.badLine 6 (.unexpectedInput "~ A") = .badLine line fault ∧
        line + stop.inside.countP (isBlank <| uncommented ·) = stop.physicalLine ∧
        (line = stop.physicalLine ↔
          ∀ row ∈ stop.inside, isBlank (uncommented row) = false) := by
  have h : definitions gappedSource = .error (.badLine 6 (.unexpectedInput "~ A")) := by
    decide +kernel
  exact ⟨h, exists_stop_of_definitions h⟩

/-- Behind a blank line, the line that is named is not the one where reading stops. -/
theorem exists_stop_before_line : ∃ source stop fault, StopsAt source stop ∧
    definitions source = .error (.badLine 2 fault) ∧ stop.physicalLine = 3 := by
  let stop : Stop :=
    ⟨[], ["start: a".toList, []], "  | )".toList, "  | ".toList, [')'], []⟩
  have hstops : StopsAt "start: a\n\n  | )\n" stop :=
    { lines_eq := ⟨[], by decide +kernel⟩
      begins := by decide +kernel
      line_eq := by decide +kernel
      line_kept := by decide +kernel
      entries_eq := ⟨[], [], by decide +kernel, by simp⟩
      fails := by decide +kernel }
  exact ⟨_, stop, .unexpectedInput ")", hstops, by decide +kernel, rfl⟩

end Ebnf

end QueryGate
