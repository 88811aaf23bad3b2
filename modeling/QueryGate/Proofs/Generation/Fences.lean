import QueryGate.CodeFence
import QueryGate.Proofs.Text.Letters

/-!
# What fences are taken off

A query between fences (`fenced`) comes out of them as it went in, whatever stands inside it, if
white space stands between the opening fence and the query, with the name of a language in front
of it or not. A fence with nothing behind its mark has no end : the letters that the query begins
with are read as the name of a language, and are lost (`exists_letters_lost`).

* `stripFences_of_isBare` : what comes out, for every query and every fence around it.
-/

namespace QueryGate.CodeFence

open Text

variable {b s t lead opening gap tail : List Char}

/-- A text that can be told from a fence around it and from white space around that. -/
structure IsBare (b : List Char) : Prop where
  ne_nil : b ≠ []
  head : ∀ c ∈ b.head?, isWhite c = false ∧ c ∉ mark
  last : ∀ c ∈ b.getLast?, isWhite c = false ∧ c ∉ mark

instance : Decidable (IsBare b) :=
  decidable_of_iff (b ≠ [] ∧ (b.head?.all fun c => !isWhite c && decide (c ∉ mark)) = true ∧
      (b.getLast?.all fun c => !isWhite c && decide (c ∉ mark)) = true) <| by
    simp only [Option.all_eq_true, Bool.and_eq_true, Bool.not_eq_true', decide_eq_true_eq]
    exact ⟨fun ⟨hne, hhead, hlast⟩ => ⟨hne, hhead, hlast⟩, fun h => ⟨h.ne_nil, h.head, h.last⟩⟩

/-- What stands between the mark of an opening fence and the query : nothing at all, or white space
with the name of a language in front of it, which may be missing. -/
inductive IsOpening : List Char → Prop
  | nil : IsOpening []
  | spaced {name space : List Char} (hname : ∀ c ∈ name, c.isAlpha = true) (hne : space ≠ [])
      (hspace : ∀ c ∈ space, isWhite c = true) : IsOpening (name ++ space)

/-- A text between fences, the closing one of which may stand on a line of its own. -/
def fenced (opening b gap : List Char) : List Char :=
  mark ++ (opening ++ b ++ gap) ++ mark

/-! ## One end after the other -/

theorem not_isWhite_of_mem_mark {c : Char} (h : c ∈ mark) : isWhite c = false := by
  rw [List.eq_of_mem_replicate h]
  decide

theorem not_isLanguageLetter_of_mem_mark {c : Char} (h : c ∈ mark) :
    isLanguageLetter c = false := by
  rw [List.eq_of_mem_replicate h]
  decide

theorem not_isLanguageLetter_of_isWhite {c : Char} (h : isWhite c = true) :
    isLanguageLetter c = false := by
  refine Bool.eq_false_iff.mpr fun hletter => ?_
  simp only [isLanguageLetter, Bool.or_eq_true, beq_iff_eq] at hletter
  rcases hletter with (halpha | rfl) | rfl
  · have hident : Statement.isIdentChar c = true := by
      simp [Statement.isIdentChar, Char.isAlphanum, halpha]
    rw [Statement.not_isWhite_of_isIdentChar hident] at h
    cases h
  · exact absurd h (by decide)
  · exact absurd h (by decide)

theorem dropOpening_mark_append (s : List Char) :
    dropOpening (mark ++ s) = s.dropWhile isLanguageLetter := by
  rw [dropOpening, if_pos (List.isPrefixOf_iff_prefix.mpr (List.prefix_append _ _)), List.drop_left]

theorem dropOpening_eq_self (h : ∀ c ∈ s.head?, c ∉ mark) : dropOpening s = s := by
  refine if_neg fun hprefix => ?_
  obtain ⟨t, rfl⟩ := List.isPrefixOf_iff_prefix.mp hprefix
  exact h (Char.ofNat 96) rfl (by simp [mark])

theorem dropClosing_append_mark (s : List Char) : dropClosing (s ++ mark) = s := by
  have htrim : trimEnd (s ++ mark) = s ++ mark := by
    refine dropEndWhile_eq_self_iff.mpr fun c hc => not_isWhite_of_mem_mark ?_
    rw [List.getLast?_append_of_ne_nil _ (by simp [mark])] at hc
    exact List.mem_of_getLast? hc
  rw [dropClosing, htrim, if_pos (List.isSuffixOf_iff_suffix.mpr (List.suffix_append _ _)),
    List.length_append, Nat.add_sub_cancel, List.take_left]

theorem dropClosing_eq_self (h : ∀ c ∈ s.getLast?, isWhite c = false ∧ c ∉ mark) :
    dropClosing s = s := by
  have htrim : trimEnd s = s := dropEndWhile_eq_self_iff.mpr fun c hc => (h c hc).1
  rw [dropClosing, htrim]
  refine if_neg fun hsuffix => ?_
  obtain ⟨t, rfl⟩ := List.isSuffixOf_iff_suffix.mp hsuffix
  refine (h (Char.ofNat 96) ?_).2 (by simp [mark])
  rw [List.getLast?_append_of_ne_nil _ (by simp [mark])]
  rfl

/-! ## Both ends -/

theorem IsBare.trim_eq (hb : IsBare b) : trim b = b :=
  trim_eq_self (fun c hc => (hb.head c hc).1) fun c hc => (hb.last c hc).1

theorem IsBare.stripFences_eq (hb : IsBare b) : stripFences b = b := by
  rw [stripFences, hb.trim_eq, dropOpening_eq_self fun c hc => (hb.head c hc).2,
    dropClosing_eq_self hb.last, hb.trim_eq]

/-- The fences are taken off, and with the opening one what may be the name of a language. -/
theorem stripFences_fenced (hlead : ∀ c ∈ lead, isWhite c = true)
    (htail : ∀ c ∈ tail, isWhite c = true) (hgap : ∀ c ∈ gap, isWhite c = true) :
    stripFences (lead ++ fenced opening b gap ++ tail) =
      trim ((opening ++ b).dropWhile isLanguageLetter ++ gap) := by
  have hmark : mark ≠ [] := by simp [mark]
  have htrim : trim (fenced opening b gap) = fenced opening b gap := by
    refine trim_eq_self (fun c hc => ?_) fun c hc => ?_
    · rw [fenced, List.append_assoc, List.head?_append_of_ne_nil _ hmark] at hc
      exact not_isWhite_of_mem_mark (List.mem_of_mem_head? hc)
    · rw [fenced, List.getLast?_append_of_ne_nil _ hmark] at hc
      exact not_isWhite_of_mem_mark (List.mem_of_getLast? hc)
  -- What follows the query has no letter at its start, so none is taken from there.
  have hstop : ∀ c ∈ (gap ++ mark).head?, isLanguageLetter c = false := by
    intro c hc
    rcases List.mem_append.mp (List.mem_of_mem_head? hc) with hc | hc
    · exact not_isLanguageLetter_of_isWhite (hgap c hc)
    · exact not_isLanguageLetter_of_mem_mark hc
  rw [stripFences, trim_append_append hlead htail, htrim, fenced, List.append_assoc,
    dropOpening_mark_append, List.append_assoc,
    dropWhile_append_of_head _ hstop, ← List.append_assoc, dropClosing_append_mark]

/-- The name of a language goes with its fence, and the query stays. -/
theorem dropWhile_spaced {name space : List Char} (hname : ∀ c ∈ name, c.isAlpha = true)
    (hne : space ≠ []) (hspace : ∀ c ∈ space, isWhite c = true) :
    (name ++ space ++ b).dropWhile isLanguageLetter = space ++ b := by
  rw [List.append_assoc, List.dropWhile_append_of_pos]
  · obtain ⟨c, space, rfl⟩ := List.exists_cons_of_ne_nil hne
    refine List.dropWhile_cons_of_neg ?_
    rw [not_isLanguageLetter_of_isWhite (hspace c (List.mem_cons_self ..))]
    exact Bool.false_ne_true
  · intro c hc
    simp [isLanguageLetter, hname c hc]

/-- What is left of a query behind letters ends as the query does. -/
theorem IsBare.trim_dropWhile (hb : IsBare b) :
    trim (b.dropWhile isLanguageLetter) = trimStart (b.dropWhile isLanguageLetter) := by
  refine dropEndWhile_eq_self_iff.mpr fun c hc => (hb.last c ?_).1
  have hsuffix : trimStart (b.dropWhile isLanguageLetter) <:+ b :=
    (List.dropWhile_suffix _).trans (List.dropWhile_suffix _)
  obtain ⟨t, ht⟩ := hsuffix
  rw [← ht, List.getLast?_append_of_ne_nil _ (List.ne_nil_of_mem (List.mem_of_getLast? hc))]
  exact hc

theorem trimStart_dropWhile_eq_self_iff (hb : IsBare b) :
    trimStart (b.dropWhile isLanguageLetter) = b ↔
      ∀ c ∈ b.head?, isLanguageLetter c = false := by
  obtain ⟨c, s, rfl⟩ := List.exists_cons_of_ne_nil hb.ne_nil
  by_cases hc : isLanguageLetter c = true
  · have hshort : (trimStart ((c :: s).dropWhile isLanguageLetter)).length ≤ s.length := by
      rw [List.dropWhile_cons_of_pos hc]
      exact ((List.dropWhile_suffix _).trans (List.dropWhile_suffix _)).length_le
    refine iff_of_false (fun h => ?_) fun h => by simp [h c rfl] at hc
    rw [h, List.length_cons] at hshort
    omega
  · rw [List.dropWhile_cons_of_neg hc, trimStart_eq_self_iff.mpr fun d hd => (hb.head d hd).1]
    simp [hc]

/-! ## Queries between fences -/

/-- A query comes out of fences as it went in, and so it does if there are none. Only where nothing
stands behind the mark of the opening fence, the letters that it begins with are lost. -/
theorem stripFences_of_isBare (hb : IsBare b) : stripFences b = b ∧
    ∀ lead opening gap tail, (∀ c ∈ lead ++ gap ++ tail, isWhite c = true) → IsOpening opening →
      stripFences (lead ++ fenced opening b gap ++ tail) =
        (if opening = [] then trimStart (b.dropWhile isLanguageLetter) else b) ∧
      (stripFences (lead ++ fenced opening b gap ++ tail) = b ↔
        (opening = [] → ∀ c ∈ b.head?, isLanguageLetter c = false)) := by
  refine ⟨hb.stripFences_eq, fun lead opening gap tail hwhite hopening => ?_⟩
  obtain ⟨⟨hlead, hgap⟩, htail⟩ : ((∀ c ∈ lead, isWhite c = true) ∧
      ∀ c ∈ gap, isWhite c = true) ∧ ∀ c ∈ tail, isWhite c = true := by
    simpa only [List.forall_mem_append] using hwhite
  have hnone : ∀ c ∈ ([] : List Char), isWhite c = true := List.forall_mem_nil _
  rw [stripFences_fenced hlead htail hgap]
  cases hopening with
  | nil =>
    have hcut : trim (([] ++ b).dropWhile isLanguageLetter ++ gap) =
        trimStart (b.dropWhile isLanguageLetter) := by
      rw [← hb.trim_dropWhile]
      exact trim_append_append hnone hgap
    rw [hcut, if_pos rfl, trimStart_dropWhile_eq_self_iff hb]
    exact ⟨rfl, fun h _ => h, fun h => h rfl⟩
  | @spaced name space hname hne hspace =>
    have hkept : trim ((name ++ space ++ b).dropWhile isLanguageLetter ++ gap) = b := by
      rw [dropWhile_spaced hname hne hspace, trim_append_append hspace hgap, hb.trim_eq]
    have hopening : name ++ space ≠ [] := List.append_ne_nil_of_right_ne_nil _ hne
    rw [hkept, if_neg hopening]
    exact ⟨rfl, fun _ h => absurd h hopening, fun _ => rfl⟩

/-- A query with fences of its own in it, between fences with the name of a language. -/
theorem stripFences_of_isBare_sql :
    stripFences "\n```SQL\r\nSELECT '```\n' AS x\n``` ".toList = "SELECT '```\n' AS x".toList := by
  have hbare : IsBare "SELECT '```\n' AS x".toList := by decide
  have hopening : IsOpening ("SQL".toList ++ "\r\n".toList) :=
    .spaced (List.all_eq_true.mp (by decide)) (by decide) (List.all_eq_true.mp (by decide))
  exact ((stripFences_of_isBare hbare).2 "\n".toList _ "\n".toList " ".toList
    (List.all_eq_true.mp (by decide)) hopening).1

/-- A query directly behind the mark loses its first word. -/
theorem exists_letters_lost : ∃ b, IsBare b ∧ fenced [] b [] = "```SELECT 1```".toList ∧
    stripFences (fenced [] b []) = "1".toList ∧ stripFences (fenced [] b []) ≠ b :=
  ⟨"SELECT 1".toList, by decide, by decide, by decide⟩

end QueryGate.CodeFence
