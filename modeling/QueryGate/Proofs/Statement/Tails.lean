import QueryGate.Proofs.Statement.Directives
import QueryGate.Proofs.Statement.Segments

/-!
# What stands behind a statement

Separators and directives are made of characters that begin neither quotes nor comments
(`IsTailChar`), and nothing else is taken off a text (`exists_eq_append_of_withoutTail`).

`Absorbed` : a text that is taken off whatever it stands behind. Separators and white space are
(`absorbed_of_forall`), directives with white space in front of them are (`absorbed_directive`),
and so is what is put together from such texts (`Absorbed.append`).
-/

namespace QueryGate.Statement

open Text

variable {s t u b d gap : List Char} {c : Char}

/-! ## Characters -/

/-- A character that separators and directives are made of. -/
def IsTailChar (c : Char) : Prop :=
  c = ';' ∨ isWhite c = true ∨ isIdentChar c = true

theorem IsTailChar.toNat_ne (h : IsTailChar c) : c.toNat ∉ [34, 39, 42, 45, 47, 96] := by
  rcases h with rfl | h | h
  · decide
  · have hwhite := toNat_of_isWhite h
    simp only [List.mem_cons, List.not_mem_nil, or_false]
    omega
  · have hident := isIdentChar_iff.mp h
    simp only [List.mem_cons, List.not_mem_nil, or_false]
    omega

theorem IsTailChar.opensNothing (h : IsTailChar c) : OpensNothing c := by
  have hne := h.toNat_ne
  refine ⟨?_, ?_, ?_⟩
  · by_contra hquote
    have hmark := toNat_of_isQuoteMark (by simpa using hquote)
    simp only [List.mem_cons, List.not_mem_nil, or_false] at hne
    omega
  · rintro rfl
    exact hne (by decide)
  · rintro rfl
    exact hne (by decide)

/-- A tail does not finish an opener that a text ends in. -/
theorem apart_of_forall (ht : ∀ c ∈ t.head?, IsTailChar c) : Apart s t := by
  intro a _ b hb hopener
  have hne := (ht b hb).toNat_ne
  have hb : b = '-' ∨ b = '*' := by
    simp only [lineOpener, blockOpener, List.mem_cons, List.not_mem_nil, or_false,
      List.cons.injEq, and_true] at hopener
    exact hopener.imp And.right And.right
  rcases hb with rfl | rfl
  · exact hne (by decide)
  · exact hne (by decide)

theorem segments_of_isTailChar (hs : ∀ c ∈ s, IsTailChar c) : segments s = s.map .plain :=
  segments_eq_map fun c hc => (hs c hc).opensNothing

theorem Directive.isTailChar (hd : Directive d) : ∀ c ∈ d, IsTailChar c := by
  rw [hd.eq_append]
  intro c hc
  rcases List.mem_append.mp hc with hc | hc
  · rcases List.mem_append.mp hc with hc | hc
    · exact Or.inr (Or.inr (isIdentChar_of_sameLetters_formatKeyword hd.keyword_eq c hc))
    · exact Or.inr (Or.inl (hd.space_white c hc))
  · exact Or.inr (Or.inr (hd.name_ident c hc))

/-! ## What is taken off -/

theorem exists_eq_trimSeparators_append (s : List Char) :
    ∃ w, s = trimSeparators s ++ w ∧ ∀ c ∈ w, IsTailChar c := by
  obtain ⟨w, hw, hall⟩ := exists_eq_dropEndWhile_append (fun c => c == ';' || isWhite c) s
  refine ⟨w, hw, fun c hc => ?_⟩
  rcases Bool.or_eq_true_iff.mp (hall c hc) with hsep | hwhite
  · exact Or.inl (beq_iff_eq.mp hsep)
  · exact Or.inr (Or.inl hwhite)

theorem exists_eq_append_of_stripTail (h : stripTail s = some b) :
    ∃ w, s = b ++ w ∧ ∀ c ∈ w, IsTailChar c := by
  fun_induction stripTail s with
  | case1 => cases h
  | case2 s trimmed before hending ih =>
    obtain ⟨v, hv, hvtail⟩ := exists_eq_trimSeparators_append s
    obtain ⟨u, d, hs, ⟨hd⟩, -, rfl⟩ := exists_of_endingOf_eq_directive hending
    obtain ⟨w, hw, hwhite⟩ := exists_eq_dropEndWhile_append isWhite u
    obtain ⟨w', hw', htail⟩ := ih h
    refine ⟨w' ++ w ++ d ++ v, ?_, ?_⟩
    · have hs : trimSeparators s = u ++ d := hs
      have hu : u = trimEnd u ++ w := hw
      rw [hv, hs, hu, hw']
      simp only [List.append_assoc]
    · simp only [List.forall_mem_append]
      exact ⟨⟨⟨htail, fun c hc => Or.inr (Or.inl (hwhite c hc))⟩, hd.isTailChar⟩, hvtail⟩
  | case3 s trimmed hending hlt ih =>
    obtain ⟨v, hv, hvtail⟩ := exists_eq_trimSeparators_append s
    obtain ⟨w, hw, htail⟩ := ih h
    have hw : trimSeparators s = b ++ w := hw
    exact ⟨w ++ v, by rw [hv, hw, List.append_assoc], List.forall_mem_append.mpr ⟨htail, hvtail⟩⟩
  | case4 s trimmed hending hlt =>
    obtain rfl := Option.some.inj h
    exact exists_eq_trimSeparators_append s

/-- Only white space is taken off in front of a statement, only a tail behind it. -/
theorem exists_eq_append_of_withoutTail (h : withoutTail s = some b) :
    ∃ u w, s = u ++ b ++ w ∧ (∀ c ∈ u, isWhite c = true) ∧ ∀ c ∈ w, IsTailChar c := by
  obtain ⟨w, hw, htail⟩ := exists_eq_append_of_stripTail h
  obtain ⟨u, hu, hlead⟩ := exists_eq_append_trimStart s
  obtain ⟨v, hv, hwhite⟩ := exists_eq_dropEndWhile_append isWhite (trimStart s)
  refine ⟨u, w ++ v, ?_, hlead, List.forall_mem_append.mpr ⟨htail, fun c hc =>
    Or.inr (Or.inl (hwhite c hc))⟩⟩
  have hv : trimStart s = trim s ++ v := hv
  rw [hu, hv, hw]
  simp only [List.append_assoc]

/-! ## What is always taken off -/

theorem withoutTail_eq (s : List Char) : withoutTail s = stripTail (trimStart s) :=
  stripTail_trimEnd (trimStart s)

/-- The text is taken off whatever it stands behind. -/
def Absorbed (u : List Char) : Prop :=
  ∀ s, withoutTail (s ++ u) = withoutTail s

theorem absorbed_nil : Absorbed [] := by
  intro s
  rw [List.append_nil]

theorem Absorbed.append (hu : Absorbed u) (ht : Absorbed t) : Absorbed (u ++ t) := by
  intro s
  rw [← List.append_assoc, ht, hu]

theorem absorbed_of_forall (hu : ∀ c ∈ u, c = ';' ∨ isWhite c = true) : Absorbed u := by
  intro s
  have hseparators : ∀ c ∈ u, (c == ';' || isWhite c) = true := by simpa using hu
  rw [withoutTail_eq, withoutTail_eq, ← stripTail_trimSeparators, ← stripTail_trimSeparators
    (trimStart s)]
  congr 1
  rw [trimStart, List.dropWhile_append]
  split_ifs with hnil
  · -- the text in front is white, and white space at the start is taken off too
    have hdropped : ∀ c ∈ u.dropWhile isWhite, (c == ';' || isWhite c) = true :=
      fun c hc => hseparators c ((List.dropWhile_sublist _).subset hc)
    have hblank : trimStart s = [] := List.isEmpty_iff.mp hnil
    rw [hblank]
    exact dropEndWhile_append_of_forall [] hdropped
  · exact dropEndWhile_append_of_forall _ hseparators

theorem trimStart_append_of_head (ht : ∀ c ∈ t.head?, isWhite c = false) :
    trimStart (s ++ t) = trimStart s ++ t :=
  dropWhile_append_of_head s ht

theorem Directive.not_isWhite_of_mem_head? (hd : Directive d) :
    ∀ c ∈ d.head?, isWhite c = false := by
  intro c hc
  have hkeyword : hd.keyword ≠ [] := by
    intro hnil
    have hlength := length_of_sameLetters hd.keyword_eq
    rw [hnil] at hlength
    exact absurd hlength (by decide)
  rw [hd.eq_append, List.append_assoc, List.head?_append_of_ne_nil _ hkeyword] at hc
  exact not_isWhite_of_isIdentChar (isIdentChar_of_sameLetters_formatKeyword hd.keyword_eq c
    (List.mem_of_mem_head? hc))

theorem absorbed_directive (hd : Directive d) (hne : gap ≠ [])
    (hgap : ∀ c ∈ gap, isWhite c = true) : Absorbed (gap ++ d) := by
  intro s
  obtain ⟨u, hu, -⟩ := exists_eq_append_trimStart (s ++ gap)
  -- the white space in front of the keyword parts it from what the text ends in
  have hlast : ∀ c ∈ (trimStart (s ++ gap)).getLast?, isIdentChar c = false := by
    intro c hc
    have hmem : c ∈ (s ++ gap).getLast? := by
      rw [hu, List.getLast?_append, Option.mem_def.mp hc]
      rfl
    rw [List.getLast?_append_of_ne_nil _ hne] at hmem
    exact not_isIdentChar_of_isWhite (hgap c (List.mem_of_getLast? hmem))
  calc withoutTail (s ++ (gap ++ d)) = stripTail (trimStart (s ++ gap) ++ d) := by
        rw [withoutTail_eq, ← List.append_assoc,
          trimStart_append_of_head hd.not_isWhite_of_mem_head?]
    _ = withoutTail (s ++ gap) := by
        rw [stripTail_append_of_directive hd hlast, withoutTail_eq]
    _ = withoutTail s := absorbed_of_forall (fun c hc => Or.inr (hgap c hc)) s

end QueryGate.Statement
