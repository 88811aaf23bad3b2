import QueryGate.Proofs.Statement.NormalForm

/-!
# Which texts are answered

`normalize` takes separators, white space and directives off the end of a text, one after the
other (`LeftOf`). It has an answer to the text unless one of the texts left on the way ends in a
character of several bytes, with at most a name behind it (`EndsWide`) : the place where that name
would be cut off is inside the character.

* `endingOf_eq_broken_iff` : where a single round of the loop stops;
* `stripTail_eq_none_iff` : where the whole loop stops;
* `normalize_answers` : what is answered to every text, in every format.
-/

namespace QueryGate

open Text

namespace Statement

variable {s t u w b : List Char} {c : Char}

/-! ## A single round -/

theorem utf8Size_of_isIdentChar (h : isIdentChar c = true) : c.utf8Size = 1 := by
  have hval : c.toNat = c.val.toNat := rfl
  have hc := isIdentChar_iff.mp h
  rw [Char.utf8Size_eq_one_iff, UInt32.le_iff_toNat_le]
  change c.val.toNat ≤ 127
  omega

/-- A text ends in a character of several bytes that is not taken off as white space, with nothing
but a name behind it. -/
def EndsWide (t : List Char) : Prop :=
  ∃ u c w, t = u ++ c :: w ∧ 1 < c.utf8Size ∧ (∀ d ∈ w, isIdentChar d = true) ∧
    (w = [] → isWhite c = false)

theorem dropEndWhile_isIdentChar_append_cons (hc : 1 < c.utf8Size)
    (hw : ∀ d ∈ w, isIdentChar d = true) :
    dropEndWhile isIdentChar (u ++ c :: w) = u ++ [c] := by
  have hident : isIdentChar c = false := by
    by_contra h
    rw [utf8Size_of_isIdentChar (by simpa using h)] at hc
    omega
  rw [List.append_cons, dropEndWhile_append_of_forall _ hw, dropEndWhile_eq_self_iff]
  simpa using hident

/-- The cut in front of the name fails exactly if a character of several bytes stands there. -/
theorem endingOf_eq_broken_iff : endingOf s = .broken ↔
    ∃ u c w, s = u ++ c :: w ∧ 1 < c.utf8Size ∧ ∀ d ∈ w, isIdentChar d = true := by
  constructor
  · intro h
    obtain ⟨w, hs, hw⟩ := exists_eq_dropEndWhile_append isIdentChar s
    simp only [endingOf] at h
    split at h
    · cases h
    next c hc =>
    split at h
    next hwide =>
      obtain ⟨u, hu⟩ := List.getLast?_eq_some_iff.mp hc
      refine ⟨u, c, w, ?_, hwide, hw⟩
      rw [List.append_cons, ← hu]
      exact hs
    next =>
      split_ifs at h
      split at h <;> cases h
  · rintro ⟨u, c, w, rfl, hc, hw⟩
    simp [endingOf, dropEndWhile_isIdentChar_append_cons hc hw, hc]

/-! ## The whole loop -/

/-- What is left of a text when some of the marks and directives at its end are taken off, the
last one first. -/
inductive LeftOf (s : List Char) : List Char → Prop
  /-- Nothing is taken off. -/
  | whole : LeftOf s s
  | mark {t : List Char} {c : Char} (h : LeftOf s (t ++ [c])) (hc : c = ';' ∨ isWhite c = true) :
    LeftOf s t
  | directive {t d : List Char} (h : LeftOf s (t ++ d)) (hd : Directive d)
    (ht : ∀ c ∈ t.getLast?, isIdentChar c = false) : LeftOf s t

theorem LeftOf.trans (hs : LeftOf s t) (ht : LeftOf t u) : LeftOf s u := by
  induction ht with
  | whole => exact hs
  | mark _ hc ih => exact ih.mark hc
  | directive _ hd hident ih => exact ih.directive hd hident

theorem LeftOf.marks (h : LeftOf s (t ++ w)) (hw : ∀ c ∈ w, c = ';' ∨ isWhite c = true) :
    LeftOf s t := by
  induction w using List.reverseRecOn with
  | nil => simpa using h
  | append_singleton w c ih =>
    rw [← List.append_assoc] at h
    exact ih (h.mark (hw c (by simp))) fun d hd => hw d (List.mem_append_left _ hd)

theorem leftOf_trimSeparators (s : List Char) : LeftOf s (trimSeparators s) := by
  obtain ⟨w, hs, hw⟩ := exists_eq_dropEndWhile_append (fun c => c == ';' || isWhite c) s
  have hwhole : LeftOf s (trimSeparators s ++ w) := by
    rw [trimSeparators, ← hs]
    exact .whole
  exact hwhole.marks fun c hc => by simpa using hw c hc

theorem leftOf_trimEnd (s : List Char) : LeftOf s (trimEnd s) := by
  obtain ⟨w, hs, hw⟩ := exists_eq_dropEndWhile_append isWhite s
  have hwhole : LeftOf s (trimEnd s ++ w) := by
    rw [trimEnd, ← hs]
    exact .whole
  exact hwhole.marks fun c hc => Or.inr (hw c hc)

/-- A directive at the end is one round of the loop. -/
theorem leftOf_of_endingOf {before : List Char}
    (h : endingOf (trimSeparators s) = .directive before) : LeftOf s before := by
  obtain ⟨u, d, hs, ⟨hd⟩, hu, rfl⟩ := exists_of_endingOf_eq_directive h
  have hdirective : LeftOf s (u ++ d) := hs ▸ leftOf_trimSeparators s
  exact (hdirective.directive hd hu).trans (leftOf_trimEnd u)

/-- The loop ends in the same text from everything that is left on the way. -/
theorem LeftOf.stripTail_eq (h : LeftOf s t) : stripTail t = stripTail s := by
  induction h with
  | whole => rfl
  | @mark t c _ hc ih =>
    have htrim : trimSeparators (t ++ [c]) = trimSeparators t :=
      dropEndWhile_append_of_forall t (by simpa using hc)
    rw [← ih, ← stripTail_trimSeparators, ← htrim, stripTail_trimSeparators]
  | directive _ hd ht ih => rw [← ih, stripTail_append_of_directive hd ht]

theorem leftOf_of_stripTail (h : stripTail s = some b) : LeftOf s b := by
  fun_induction stripTail s with
  | case1 => cases h
  | case2 s trimmed before hending ih => exact (leftOf_of_endingOf hending).trans (ih h)
  | case3 s trimmed hending hlt ih => exact (leftOf_trimSeparators s).trans (ih h)
  | case4 s trimmed hending hlt => exact Option.some.inj h ▸ leftOf_trimSeparators s

theorem EndsWide.stripTail_eq (h : EndsWide t) : stripTail t = none := by
  obtain ⟨u, c, w, rfl, hc, hw, hwhite⟩ := h
  have htrim : trimSeparators (u ++ c :: w) = u ++ c :: w := by
    refine trimSeparators_eq_self_iff.mpr fun d hd => ?_
    rcases List.eq_nil_or_concat' w with rfl | ⟨w, e, rfl⟩
    · obtain rfl : c = d := by simpa using hd
      refine ⟨?_, hwhite rfl⟩
      rintro rfl
      exact absurd hc (by decide)
    · obtain rfl : e = d := by
        rw [← List.cons_append, ← List.append_assoc, List.getLast?_concat] at hd
        exact Option.some.inj hd
      have hident := hw e (by simp)
      refine ⟨?_, not_isWhite_of_isIdentChar hident⟩
      rintro rfl
      exact absurd hident (by decide)
  refine stripTail_of_broken ?_
  rw [htrim]
  exact endingOf_eq_broken_iff.mpr ⟨u, c, w, rfl, hc, hw⟩

theorem exists_endsWide_of_stripTail (h : stripTail s = none) : ∃ t, LeftOf s t ∧ EndsWide t := by
  fun_induction stripTail s with
  | case1 s trimmed hending =>
    obtain ⟨u, c, w, htrim, hc, hw⟩ := endingOf_eq_broken_iff.mp hending
    refine ⟨_, leftOf_trimSeparators s, u, c, w, htrim, hc, hw, ?_⟩
    rintro rfl
    have hlast : c ∈ (trimSeparators s).getLast? := by
      rw [show trimSeparators s = u ++ [c] from htrim]
      simp
    have hkept := not_of_mem_getLast?_dropEndWhile hlast
    simp only [Bool.or_eq_false_iff] at hkept
    exact hkept.2
  | case2 s trimmed before hending ih =>
    obtain ⟨t, ht, hwide⟩ := ih h
    exact ⟨t, (leftOf_of_endingOf hending).trans ht, hwide⟩
  | case3 s trimmed hending hlt ih =>
    obtain ⟨t, ht, hwide⟩ := ih h
    exact ⟨t, (leftOf_trimSeparators s).trans ht, hwide⟩
  | case4 => cases h

theorem LeftOf.isPrefix (h : LeftOf s t) : t <+: s := by
  induction h with
  | whole => exact List.prefix_refl _
  | @mark t c _ _ ih => exact (List.prefix_append t [c]).trans ih
  | @directive t d _ _ _ ih => exact (List.prefix_append t d).trans ih

/-- The loop has no result exactly if a text left on the way cannot be cut. -/
theorem stripTail_eq_none_iff : stripTail s = none ↔ ∃ t, LeftOf s t ∧ EndsWide t := by
  refine ⟨exists_endsWide_of_stripTail, ?_⟩
  rintro ⟨t, ht, hwide⟩
  rw [← ht.stripTail_eq, hwide.stripTail_eq]

theorem mem_or_eq_space_of_mem_dropComments {r : Region} (h : c ∈ dropComments r s) :
    c ∈ s ∨ c = ' ' := by
  fun_induction dropComments r s <;> grind

theorem mem_or_eq_space_of_mem_withoutComments (h : c ∈ withoutComments s) : c ∈ s ∨ c = ' ' := by
  rw [withoutComments_eq_dropComments] at h
  exact mem_or_eq_space_of_mem_dropComments h

end Statement

namespace Normalizer

open Statement

variable (n : Normalizer) (text : List Char)

theorem normalize_eq_broken_iff : n.normalize text = .broken ↔
    ∃ t, LeftOf (trim (withoutComments text)) t ∧ EndsWide t := by
  rw [← stripTail_eq_none_iff, ← withoutTail]
  unfold normalize
  cases withoutTail (withoutComments text) with
  | none => simp
  | some b => cases h : refusal? b <;> simp [h]

/-- A text of one-byte characters is always answered. -/
theorem normalize_ne_broken_of_forall_utf8Size (h : ∀ c ∈ text, c.utf8Size = 1) :
    n.normalize text ≠ .broken := by
  intro hbroken
  obtain ⟨t, ht, u, c, w, rfl, hwide, -⟩ := (n.normalize_eq_broken_iff text).mp hbroken
  have htrim : trim (withoutComments text) <:+: withoutComments text :=
    (isPrefix_trimEnd _).isInfix.trans (List.dropWhile_suffix _).isInfix
  have hc : c ∈ withoutComments text := htrim.subset (ht.isPrefix.subset (by simp))
  rcases mem_or_eq_space_of_mem_withoutComments hc with hc | rfl
  · exact absurd (h c hc) hwide.ne'
  · exact absurd hwide (by decide)

/-- Every text is answered with a query or with a refusal of the bare text that is left of it,
unless one of the texts left on the way ends wide, and then there is no answer. -/
theorem normalize_answers :
    (n.normalize text = .broken ∧ ∃ t, LeftOf (trim (withoutComments text)) t ∧ EndsWide t) ∨
      ∃ b, LeftOf (trim (withoutComments text)) b ∧ IsBare b ∧
        (∀ t, LeftOf (trim (withoutComments text)) t → ¬EndsWide t) ∧
        (n.normalize text = .query (withFormat n.format b) ∨
          ∃ why, n.normalize text = .refused why) := by
  cases htail : stripTail (trim (withoutComments text)) with
  | none =>
    have hwide := stripTail_eq_none_iff.mp htail
    exact Or.inl ⟨(n.normalize_eq_broken_iff text).mpr hwide, hwide⟩
  | some b =>
    refine Or.inr ⟨b, leftOf_of_stripTail htail, (isBare_of_stripTail htail).1, ?_, ?_⟩
    · intro t ht hwide
      cases htail.symm.trans (stripTail_eq_none_iff.mpr ⟨t, ht, hwide⟩)
    · cases hrefusal : refusal? b with
      | none => exact Or.inl (by simp only [normalize, withoutTail, htail, hrefusal])
      | some why => exact Or.inr ⟨why, by simp only [normalize, withoutTail, htail, hrefusal]⟩

/-- A name of a column that ends in a letter of two bytes is enough. -/
theorem normalize_eq_broken_accented : default.normalize "SELECT é".toList = .broken := by
  decide +kernel

end Normalizer

end QueryGate
