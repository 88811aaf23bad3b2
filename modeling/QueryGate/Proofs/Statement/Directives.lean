import QueryGate.Proofs.Text.Letters

/-!
# Trailing directives

A directive at the end of a text is a keyword of its own, white space and a name
(`Directive`). `endingOf_append` and `exists_of_endingOf_eq_directive` say that a text ends in one
exactly then.

`stripTail` ends in a text that has nothing left to take off (`IsBare`), leaves such a text alone
(`isBare_of_stripTail`, `IsBare.stripTail_eq`), and takes a directive behind it off
(`stripTail_append_directive`).
-/

namespace QueryGate.Statement

open Text

variable {s t b u d before head : List Char} {c : Char}

/-- A keyword in upper or lower case, white space that ends in a character of one byte, and a
name. -/
structure Directive (d : List Char) where
  keyword : List Char
  space : List Char
  name : List Char
  eq_append : d = keyword ++ space ++ name
  keyword_eq : sameLetters keyword formatKeyword = true
  space_ne_nil : space ≠ []
  space_white : ∀ c ∈ space, isWhite c = true
  space_last : ∀ c ∈ space.getLast?, c.utf8Size ≤ 1
  name_ne_nil : name ≠ []
  name_ident : ∀ c ∈ name, isIdentChar c = true

/-! ## The ending of a text -/

theorem beforeKeyword?_append {k w : List Char} (hk : sameLetters k formatKeyword = true)
    (hne : w ≠ []) (hw : ∀ c ∈ w, isWhite c = true) :
    beforeKeyword? (u ++ k ++ w) =
      if (u.getLast?.map isIdentChar).getD false then none else some (trimEnd u) := by
  have hlen : k.length = formatKeyword.length := length_of_sameLetters hk
  have hkne : k ≠ [] := by
    rintro rfl
    simp [formatKeyword] at hlen
  have htrim : trimEnd (u ++ k ++ w) = u ++ k := by
    rw [trimEnd, dropEndWhile_append_of_forall _ hw, dropEndWhile_eq_self_iff]
    intro c hc
    rw [List.getLast?_append_of_ne_nil _ hkne] at hc
    exact not_isWhite_of_isIdentChar
      (isIdentChar_of_sameLetters_formatKeyword hk c (List.mem_of_getLast? hc))
  have hwlen : 0 < w.length := List.length_pos_iff.mpr hne
  have hcut : (u ++ k).length - formatKeyword.length = u.length := by simp [hlen]
  have hlong : ¬((u ++ k).length = (u ++ k ++ w).length ∨
      (u ++ k).length < formatKeyword.length) := by
    simp only [List.length_append]
    omega
  simp only [beforeKeyword?, htrim, hcut, List.drop_left, List.take_left, hk, Bool.or_eq_true,
    decide_eq_true_eq, hlong]
  simp

theorem exists_of_beforeKeyword? (h : beforeKeyword? head = some before) :
    ∃ u k w, head = u ++ k ++ w ∧ sameLetters k formatKeyword = true ∧ w ≠ [] ∧
      (∀ c ∈ w, isWhite c = true) ∧ (∀ c ∈ u.getLast?, isIdentChar c = false) ∧
      before = trimEnd u := by
  simp only [beforeKeyword?] at h
  split_ifs at h with hlen hsame hident
  obtain ⟨w, hw, hwhite⟩ := exists_eq_dropEndWhile_append isWhite head
  refine ⟨_, _, w, ?_, by simpa using hsame, ?_, hwhite, ?_, (Option.some.inj h).symm⟩
  · rw [List.take_append_drop]
    exact hw
  · rintro rfl
    rw [List.append_nil] at hw
    simp [trimEnd, ← hw] at hlen
  · intro c hc
    rw [Option.mem_def] at hc
    simpa only [hc, Option.map_some, Option.getD_some, Bool.not_eq_true] using hident

/-- A text that ends in a directive ends in it, unless a part of an identifier stands in front of
the keyword. -/
theorem endingOf_append (hd : Directive d) : endingOf (u ++ d) =
    if (u.getLast?.map isIdentChar).getD false then .other else .directive (trimEnd u) := by
  obtain ⟨k, w, n, rfl, hk, hwne, hw, hlast, hnne, hn⟩ := hd
  have hhead : dropEndWhile isIdentChar (u ++ (k ++ w ++ n)) = u ++ k ++ w := by
    rw [← List.append_assoc, ← List.append_assoc, dropEndWhile_append_of_forall _ hn,
      dropEndWhile_eq_self_iff]
    intro c hc
    rw [List.getLast?_append_of_ne_nil _ hwne] at hc
    exact not_isIdentChar_of_isWhite (hw c (List.mem_of_getLast? hc))
  obtain ⟨w', e, rfl⟩ := (List.eq_nil_or_concat' w).resolve_left hwne
  have hbytes : ¬1 < e.utf8Size := by simpa using hlast e (by simp)
  have hnlen : 0 < n.length := List.length_pos_iff.mpr hnne
  have hlen : (u ++ k ++ (w' ++ [e])).length ≠ (u ++ (k ++ (w' ++ [e]) ++ n)).length := by
    simp only [List.length_append]
    omega
  simp only [endingOf, hhead, if_neg hlen]
  rw [beforeKeyword?_append hk hwne hw]
  split_ifs <;> simp [hbytes]

theorem endingOf_append_directive (hd : Directive d)
    (hu : ∀ c ∈ u.getLast?, isIdentChar c = false) :
    endingOf (u ++ d) = .directive (trimEnd u) := by
  rw [endingOf_append hd]
  cases hl : u.getLast? with
  | none => rfl
  | some c => simp [hu c hl]

theorem exists_of_endingOf_eq_directive (h : endingOf s = .directive before) :
    ∃ u d, s = u ++ d ∧ Nonempty (Directive d) ∧ (∀ c ∈ u.getLast?, isIdentChar c = false) ∧
      before = trimEnd u := by
  obtain ⟨n, hn, hident⟩ := exists_eq_dropEndWhile_append isIdentChar s
  simp only [endingOf] at h
  split at h
  · cases h
  next c hc =>
  split_ifs at h with hbytes hlen
  split at h
  next before' hbefore =>
    obtain rfl := Ending.directive.inj h
    obtain ⟨u, k, w, hhead, hk, hwne, hw, hu, rfl⟩ := exists_of_beforeKeyword? hbefore
    refine ⟨u, k ++ w ++ n, ?_, ⟨⟨k, w, n, rfl, hk, hwne, hw, ?_, ?_, hident⟩⟩, hu, rfl⟩
    · rw [← List.append_assoc, ← List.append_assoc, ← hhead]
      exact hn
    · intro e he
      rw [hhead, List.getLast?_append_of_ne_nil _ hwne] at hc
      obtain rfl : e = c := by
        rw [Option.mem_def, hc] at he
        exact (Option.some.inj he).symm
      omega
    · rintro rfl
      rw [List.append_nil] at hn
      exact hlen (by rw [← hn])
  next => cases h

/-! ## Taking the tail off -/

/-- A text with no separator, white space or directive at its end. -/
structure IsBare (b : List Char) : Prop where
  last : ∀ c ∈ b.getLast?, c ≠ ';' ∧ isWhite c = false
  ending : endingOf b = .other

theorem trimSeparators_eq_self_iff :
    trimSeparators s = s ↔ ∀ c ∈ s.getLast?, c ≠ ';' ∧ isWhite c = false := by
  rw [trimSeparators, dropEndWhile_eq_self_iff]
  simp

theorem isBare_of_stripTail (h : stripTail s = some b) : IsBare b ∧ b <+: s := by
  fun_induction stripTail s with
  | case1 => cases h
  | case2 s trimmed before hending ih =>
    obtain ⟨hbare, hpre⟩ := ih h
    obtain ⟨u, d, hs, -, -, rfl⟩ := exists_of_endingOf_eq_directive hending
    refine ⟨hbare, hpre.trans ((isPrefix_trimEnd u).trans ?_)⟩
    exact (List.prefix_append u d).trans (hs ▸ isPrefix_dropEndWhile _ s)
  | case3 s trimmed hending hlt ih =>
    obtain ⟨hbare, hpre⟩ := ih h
    exact ⟨hbare, hpre.trans (isPrefix_dropEndWhile _ s)⟩
  | case4 s trimmed hending hlt =>
    obtain rfl := Option.some.inj h
    have heq : trimmed = s := (isPrefix_dropEndWhile _ s).eq_of_length_le (not_lt.mp hlt)
    refine ⟨⟨trimSeparators_eq_self_iff.mp ?_, hending⟩, heq ▸ List.prefix_refl _⟩
    rw [heq]
    exact heq

theorem stripTail_of_directive (h : endingOf (trimSeparators s) = .directive before) :
    stripTail s = stripTail before := by
  rw [stripTail]
  split
  next hbroken => cases h.symm.trans hbroken
  next before' heq => rw [Ending.directive.inj (h.symm.trans heq)]
  next hother => cases h.symm.trans hother

theorem IsBare.stripTail_eq (h : IsBare b) : stripTail b = some b := by
  have htrim := trimSeparators_eq_self_iff.mpr h.last
  rw [stripTail]
  split
  next hbroken => cases (htrim ▸ hbroken : endingOf b = .broken).symm.trans h.ending
  next before hd => cases (htrim ▸ hd : endingOf b = .directive before).symm.trans h.ending
  next => rw [htrim, if_neg (Nat.lt_irrefl _)]

theorem stripTail_of_broken (h : endingOf (trimSeparators s) = .broken) : stripTail s = none := by
  rw [stripTail]
  split
  next => rfl
  next before heq => cases h.symm.trans heq
  next hother => cases h.symm.trans hother

theorem stripTail_of_other (h : endingOf (trimSeparators s) = .other)
    (hlt : (trimSeparators s).length < s.length) : stripTail s = stripTail (trimSeparators s) := by
  rw [stripTail]
  split
  next hbroken => cases h.symm.trans hbroken
  next before heq => cases h.symm.trans heq
  next => rw [if_pos hlt]

/-- What is taken off first may be missing from the start. -/
theorem stripTail_trimSeparators (s : List Char) : stripTail (trimSeparators s) = stripTail s := by
  have htrim : trimSeparators (trimSeparators s) = trimSeparators s :=
    trimSeparators_eq_self_iff.mpr fun c hc => by
      simpa using not_of_mem_getLast?_dropEndWhile hc
  by_cases hs : trimSeparators s = s
  · rw [hs]
  have hlt : (trimSeparators s).length < s.length :=
    lt_of_le_of_ne (dropEndWhile_length_le _ s) fun h =>
      hs ((isPrefix_dropEndWhile _ s).eq_of_length h)
  cases hending : endingOf (trimSeparators s) with
  | directive before =>
    rw [stripTail_of_directive hending, stripTail_of_directive (htrim.symm ▸ hending)]
  | other => rw [stripTail_of_other hending hlt]
  | broken => rw [stripTail_of_broken hending, stripTail_of_broken (htrim.symm ▸ hending)]

theorem stripTail_trimEnd (s : List Char) : stripTail (trimEnd s) = stripTail s := by
  obtain ⟨w, hw, hwhite⟩ := exists_eq_dropEndWhile_append isWhite s
  have htrim : trimSeparators (trimEnd s) = trimSeparators s := by
    conv_rhs => rw [hw]
    exact (dropEndWhile_append_of_forall _ fun c hc => by simp [hwhite c hc]).symm
  rw [← stripTail_trimSeparators, htrim, stripTail_trimSeparators]

/-- A directive behind a text is taken off, unless the text ends in a part of an identifier. -/
theorem stripTail_append_of_directive (hd : Directive d)
    (hu : ∀ c ∈ u.getLast?, isIdentChar c = false) : stripTail (u ++ d) = stripTail u := by
  have hlast : ∀ c ∈ (u ++ d).getLast?, c ≠ ';' ∧ isWhite c = false := by
    intro c hc
    rw [hd.eq_append, ← List.append_assoc, List.getLast?_append_of_ne_nil _ hd.name_ne_nil] at hc
    have hident := hd.name_ident c (List.mem_of_getLast? hc)
    refine ⟨?_, not_isWhite_of_isIdentChar hident⟩
    rintro rfl
    exact absurd hident (by decide)
  calc stripTail (u ++ d) = stripTail (trimEnd u) := by
        refine stripTail_of_directive ?_
        rw [trimSeparators_eq_self_iff.mpr hlast, endingOf_append_directive hd hu]
    _ = stripTail u := stripTail_trimEnd u

/-- A directive behind a bare text is taken off, and nothing else. -/
theorem stripTail_append_directive (hb : IsBare b) (hd : Directive d) {w : List Char}
    (hwne : w ≠ []) (hw : ∀ c ∈ w, isWhite c = true) : stripTail (b ++ w ++ d) = some b := by
  have hu : ∀ c ∈ (b ++ w).getLast?, isIdentChar c = false := by
    intro c hc
    rw [List.getLast?_append_of_ne_nil _ hwne] at hc
    exact not_isIdentChar_of_isWhite (hw c (List.mem_of_getLast? hc))
  have hbefore : trimEnd (b ++ w) = b := by
    rw [trimEnd, dropEndWhile_append_of_forall _ hw, dropEndWhile_eq_self_iff]
    exact fun c hc => (hb.last c hc).2
  rw [stripTail_append_of_directive hd hu, ← stripTail_trimEnd, hbefore, hb.stripTail_eq]

end QueryGate.Statement
