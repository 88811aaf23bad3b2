import QueryGate.Proofs.Statement.Directives

/-!
# Texts made of tokens

A text of tokens with white space between them has nothing at its end that `stripTail` would take
off (`Settled.append`, `Settled.stripTail_eq`), as long as the tokens are such that none can be
taken for a part of a directive (`IsToken`).
-/

namespace QueryGate.Statement

open Text

variable {s t u k gap tok rest before b : List Char} {c : Char} {next : Option Char}

/-- The text ends in the keyword of directives, as a word of its own. -/
def EndsInKeyword (s : List Char) : Prop :=
  ∃ u k, s = u ++ k ∧ sameLetters k formatKeyword = true ∧ ∀ c ∈ u.getLast?, isIdentChar c = false

/-- The text ends in a directive, with no part of an identifier in front of it. -/
def EndsInDirective (s : List Char) : Prop :=
  ∃ u d, s = u ++ d ∧ Nonempty (Directive d) ∧ ∀ c ∈ u.getLast?, isIdentChar c = false

theorem exists_endingOf_eq_directive_iff :
    (∃ before, endingOf s = .directive before) ↔ EndsInDirective s := by
  constructor
  · rintro ⟨before, h⟩
    obtain ⟨u, d, hs, hd, hu, -⟩ := exists_of_endingOf_eq_directive h
    exact ⟨u, d, hs, hd, hu⟩
  · rintro ⟨u, d, rfl, ⟨hd⟩, hu⟩
    exact ⟨trimEnd u, endingOf_append_directive hd hu⟩

/-- What the tokens of a statement have in common. A token that ends in a letter is not followed by
the character `next` if that could be part of an identifier. -/
structure IsToken (tok : List Char) (next : Option Char) : Prop where
  ne_nil : tok ≠ []
  head : ∀ c ∈ tok.head?, isWhite c = false
  last : ∀ c ∈ tok.getLast?, c ≠ ';' ∧ isWhite c = false
  white : ∀ c ∈ tok, isWhite c = true → ∀ d ∈ tok.getLast?, isIdentChar d = false
  word : ∀ c ∈ tok.getLast?, c.isAlpha = true → ∀ d ∈ next, isIdentChar d = false
  keyword : ¬EndsInKeyword tok

/-- A text with nothing at its end that could be taken off. -/
structure Settled (s : List Char) (next : Option Char) : Prop where
  last : ∀ c ∈ s.getLast?, c ≠ ';' ∧ isWhite c = false
  word : ∀ c ∈ s.getLast?, c.isAlpha = true → ∀ d ∈ next, isIdentChar d = false
  keyword : ¬EndsInKeyword s
  directive : ¬EndsInDirective s

theorem isAlpha_of_sameLetters_formatKeyword (h : sameLetters k formatKeyword = true) :
    ∀ c ∈ k, c.isAlpha = true :=
  isAlpha_of_sameLetters (by decide) h

theorem ne_nil_of_sameLetters_formatKeyword (h : sameLetters k formatKeyword = true) : k ≠ [] := by
  rintro rfl
  exact absurd (length_of_sameLetters h) (by decide)

theorem settled_nil (next : Option Char) : Settled [] next where
  last := by simp
  word := by simp
  keyword := by
    rintro ⟨u, k, hs, hk, -⟩
    exact ne_nil_of_sameLetters_formatKeyword hk (List.append_eq_nil_iff.mp hs.symm).2
  directive := by
    rintro ⟨u, d, hs, ⟨hd⟩, -⟩
    have hnil := (List.append_eq_nil_iff.mp hs.symm).2
    rw [hd.eq_append] at hnil
    exact hd.name_ne_nil (List.append_eq_nil_iff.mp hnil).2

/-! ## One more token -/

/-- Two ends of one text have its last character. -/
theorem exists_mem_getLast?_of_append_eq (h : s ++ t = u ++ k) (ht : t ≠ []) (hk : k ≠ []) :
    ∃ c, c ∈ t.getLast? ∧ c ∈ k.getLast? := by
  have hlast := congrArg List.getLast? h
  rw [List.getLast?_append_of_ne_nil _ ht, List.getLast?_append_of_ne_nil _ hk] at hlast
  obtain ⟨c, hc⟩ := Option.isSome_iff_exists.mp (List.getLast?_isSome.mpr ht)
  exact ⟨c, hc, hlast ▸ hc⟩

/-- White space in front of the end of a text is not part of what the text ends in. -/
theorem eq_nil_of_append_eq (h : s ++ gap = t ++ u) (hgap : ∀ c ∈ gap, isWhite c = true)
    (hne : u ≠ []) (hu : ∀ c ∈ u, isIdentChar c = true) : gap = [] := by
  by_contra hgapne
  obtain ⟨c, hcgap, hcu⟩ := exists_mem_getLast?_of_append_eq h hgapne hne
  have hc := not_isWhite_of_isIdentChar (hu c (List.mem_of_getLast? hcu))
  rw [hgap c (List.mem_of_getLast? hcgap)] at hc
  cases hc

/-- A keyword at the end is neither inside the last token nor does it reach into the one before. -/
theorem Settled.not_endsInKeyword_append (hs : Settled s (gap ++ tok).head?)
    (hgap : ∀ c ∈ gap, isWhite c = true) (ht : IsToken tok next) :
    ¬EndsInKeyword (s ++ gap ++ tok) := by
  rintro ⟨u, k, heq, hk, hu⟩
  rcases List.append_eq_append_iff.mp heq with ⟨a, rfl, rfl⟩ | ⟨a, ha, rfl⟩
  · refine ht.keyword ⟨a, k, rfl, hk, fun c hc => hu c ?_⟩
    rw [List.getLast?_append, Option.mem_def.mp hc]
    rfl
  · by_cases hne : a = []
    · subst hne
      exact ht.keyword ⟨[], tok, rfl, hk, by simp⟩
    · have hident := isIdentChar_of_sameLetters_formatKeyword hk
      obtain rfl := eq_nil_of_append_eq ha hgap hne fun c hc =>
        hident c (List.mem_append_left _ hc)
      obtain ⟨c, hc⟩ := Option.isSome_iff_exists.mp (List.getLast?_isSome.mpr hne)
      have hmem : c ∈ s.getLast? := by
        rw [← List.append_nil s, ha, List.getLast?_append_of_ne_nil _ hne]
        exact hc
      have halpha := isAlpha_of_sameLetters_formatKeyword hk c
        (List.mem_append_left _ (List.mem_of_getLast? hc))
      obtain ⟨d, tok, rfl⟩ := List.exists_cons_of_ne_nil ht.ne_nil
      have hd := hs.word c hmem halpha d rfl
      rw [hident d (by simp)] at hd
      cases hd

/-- A directive at the end neither begins behind the last token but one nor in front of it. -/
theorem Settled.not_endsInDirective_append (hs : Settled s (gap ++ tok).head?)
    (hgap : ∀ c ∈ gap, isWhite c = true) (ht : IsToken tok next) :
    ¬EndsInDirective (s ++ gap ++ tok) := by
  rintro ⟨u, d, heq, ⟨k, w, n, rfl, hk, hwne, hw, hlast, hnne, hn⟩, hu⟩
  -- the white space of the directive would be the gap in front of the token
  have hgapless : s ++ gap ≠ u ++ k ++ w := by
    intro h
    have htrim : trimEnd (s ++ gap) = trimEnd (u ++ k ++ w) := congrArg trimEnd h
    have hkne := ne_nil_of_sameLetters_formatKeyword hk
    rw [trimEnd, dropEndWhile_append_of_forall _ hgap, trimEnd, dropEndWhile_append_of_forall _ hw,
      dropEndWhile_eq_self_iff.mpr fun c hc => (hs.last c hc).2,
      dropEndWhile_eq_self_iff.mpr fun c hc => ?_] at htrim
    · exact hs.keyword ⟨u, k, htrim, hk, hu⟩
    · rw [List.getLast?_append_of_ne_nil _ hkne] at hc
      exact not_isWhite_of_isIdentChar
        (isIdentChar_of_sameLetters_formatKeyword hk c (List.mem_of_getLast? hc))
  rw [← List.append_assoc, ← List.append_assoc] at heq
  rcases List.append_eq_append_iff.mp heq with ⟨a, ha, rfl⟩ | ⟨a, ha, rfl⟩
  · by_cases hne : a = []
    · subst hne
      exact hgapless (by rw [ha, List.append_nil])
    · obtain ⟨c, hwc, hc⟩ := exists_mem_getLast?_of_append_eq ha hwne hne
      obtain ⟨e, he⟩ := Option.isSome_iff_exists.mp (List.getLast?_isSome.mpr hnne)
      have hident := ht.white c (List.mem_append_left _ (List.mem_of_getLast? hc))
        (hw c (List.mem_of_getLast? hwc)) e
        (by rw [List.getLast?_append_of_ne_nil _ hnne]; exact he)
      rw [hn e (List.mem_of_getLast? he)] at hident
      cases hident
  · by_cases hne : a = []
    · subst hne
      exact hgapless (by rw [ha, List.append_nil])
    · have hna : ∀ c ∈ a, isIdentChar c = true := fun c hc => hn c (List.mem_append_left _ hc)
      obtain rfl := eq_nil_of_append_eq ha hgap hne hna
      refine hs.directive ⟨u, k ++ w ++ a, ?_, ⟨⟨k, w, a, rfl, hk, hwne, hw, hlast, hne, hna⟩⟩, hu⟩
      rw [← List.append_nil s, ha, ← List.append_assoc, ← List.append_assoc]

/-- A text with one more token behind it. -/
theorem Settled.append (hs : Settled s (gap ++ tok).head?) (hgap : ∀ c ∈ gap, isWhite c = true)
    (ht : IsToken tok next) : Settled (s ++ gap ++ tok) next where
  last := by
    rw [List.getLast?_append_of_ne_nil _ ht.ne_nil]
    exact ht.last
  word := by
    rw [List.getLast?_append_of_ne_nil _ ht.ne_nil]
    exact ht.word
  keyword := hs.not_endsInKeyword_append hgap ht
  directive := hs.not_endsInDirective_append hgap ht

/-! ## The tail of a settled text -/

/-- Unless it cannot be cut, nothing is taken off the end of a settled text. -/
theorem Settled.stripTail_eq (hs : Settled s next) (h : stripTail s ≠ none) :
    stripTail s = some s := by
  have htrim : trimSeparators s = s := trimSeparators_eq_self_iff.mpr hs.last
  refine IsBare.stripTail_eq ⟨hs.last, ?_⟩
  cases hending : endingOf s with
  | other => rfl
  | directive before =>
    exact absurd (exists_endingOf_eq_directive_iff.mp ⟨before, hending⟩) hs.directive
  | broken =>
    refine absurd ?_ h
    rw [stripTail]
    split
    next => rfl
    next before heq => cases (htrim ▸ heq : endingOf s = .directive before).symm.trans hending
    next heq => cases (htrim ▸ heq : endingOf s = .other).symm.trans hending

/-- A directive behind the beginning of a settled text does not reach into it. -/
theorem Settled.isPrefix_of_append_eq {d : List Char} (hs : Settled s next) (hd : Directive d)
    (hu : ∀ c ∈ u.getLast?, isIdentChar c = false) (h : s ++ t = u ++ d)
    (ht : ∀ c ∈ t.head?, c ∈ next) : s <+: u := by
  obtain ⟨k, w, n, rfl, hk, hwne, hw, hlast, -, hn⟩ := hd
  rcases List.append_eq_append_iff.mp h with ⟨a, rfl, -⟩ | ⟨a, rfl, ha⟩
  · exact List.prefix_append s a
  by_cases hne : a = []
  · simp [hne]
  obtain ⟨c, hc⟩ := Option.isSome_iff_exists.mp (List.getLast?_isSome.mpr hne)
  have hmem : c ∈ (u ++ a).getLast? := by rwa [List.getLast?_append_of_ne_nil _ hne]
  have hwhite : ∀ {v f : List Char}, a = v ++ f → f ≠ [] → (∀ c ∈ f, isWhite c = true) → False := by
    intro v f hf hfne hall
    rw [hf, List.getLast?_append_of_ne_nil _ hfne] at hc
    have hlast := (hs.last c hmem).2
    rw [hall c (List.mem_of_getLast? hc)] at hlast
    cases hlast
  exfalso
  -- the text ends in the name, in the white space in front of it, or in the keyword
  rcases List.append_eq_append_iff.mp ha with ⟨e, rfl, rfl⟩ | ⟨e, he, rfl⟩
  · by_cases hene : e = []
    · exact hwhite (by rw [hene, List.append_nil]) hwne hw
    · exact hs.directive ⟨u, _, rfl, ⟨⟨k, w, e, rfl, hk, hwne, hw, hlast, hene, fun c hc =>
        hn c (List.mem_append_left _ hc)⟩⟩, hu⟩
  · rcases List.append_eq_append_iff.mp he with ⟨f, rfl, rfl⟩ | ⟨f, rfl, rfl⟩
    · by_cases hfne : f = []
      · exact hs.keyword ⟨u, k, by rw [hfne, List.append_nil], hk, hu⟩
      · exact hwhite rfl hfne fun c hc => hw c (List.mem_append_left _ hc)
    · cases f with
      | nil => exact hs.keyword ⟨u, a, rfl, by simpa using hk, hu⟩
      | cons d f =>
        have halpha := isAlpha_of_sameLetters_formatKeyword hk c
          (List.mem_append_left _ (List.mem_of_getLast? hc))
        have hd := hs.word c hmem halpha d (ht d rfl)
        rw [isIdentChar_of_sameLetters_formatKeyword hk d (by simp)] at hd
        cases hd

/-- Nothing of a settled text is taken off with what stands behind it. -/
theorem Settled.isPrefix_of_stripTail (hs : Settled s next) (ht : ∀ c ∈ t.head?, c ∈ next)
    (h : stripTail (s ++ t) = some b) : s <+: b := by
  have htrimmed : ∀ {p : Char → Bool} {t : List Char}, (∀ c ∈ s.getLast?, p c = false) →
      (∀ c ∈ t.head?, c ∈ next) →
        ∃ t', dropEndWhile p (s ++ t) = s ++ t' ∧ ∀ c ∈ t'.head?, c ∈ next := by
    intro p t hp ht
    obtain ⟨t', heq, hpre⟩ := exists_dropEndWhile_append_eq hp t
    exact ⟨t', heq, fun c hc => ht c (mem_head?_of_isPrefix hpre hc)⟩
  have hsep : ∀ c ∈ s.getLast?, (c == ';' || isWhite c) = false := fun c hc => by
    obtain ⟨hne, hwhite⟩ := hs.last c hc
    rw [hwhite, beq_false_of_ne hne, Bool.or_false]
  obtain ⟨x, hx⟩ : ∃ x, x = s ++ t := ⟨_, rfl⟩
  replace ht : ∃ t, x = s ++ t ∧ ∀ c ∈ t.head?, c ∈ next := ⟨t, hx, ht⟩
  rw [← hx] at h
  clear hx
  fun_induction stripTail x with
  | case1 x trimmed hending => cases h
  | case2 x trimmed before hending ih =>
    obtain ⟨t, rfl, ht⟩ := ht
    obtain ⟨t', heq, ht'⟩ := htrimmed hsep ht
    obtain ⟨u, d, hd, ⟨hdir⟩, hu, rfl⟩ := exists_of_endingOf_eq_directive hending
    replace hd : s ++ t' = u ++ d := heq.symm.trans hd
    obtain ⟨v, rfl⟩ := hs.isPrefix_of_append_eq hdir hu hd ht'
    obtain rfl : t' = v ++ d := by simpa using hd
    obtain ⟨v', hv, hpre⟩ := exists_dropEndWhile_append_eq (fun c hc => (hs.last c hc).2) v
    refine ih h ⟨v', hv, fun c hc => ht' c ?_⟩
    exact mem_head?_of_isPrefix (hpre.trans (List.prefix_append v d)) hc
  | case3 x trimmed hending hlt ih =>
    obtain ⟨t, rfl, ht⟩ := ht
    exact ih h (htrimmed hsep ht)
  | case4 x trimmed hending hlt =>
    obtain ⟨t, rfl, ht⟩ := ht
    obtain ⟨t', heq, -⟩ := htrimmed hsep ht
    obtain rfl := Option.some.inj h
    exact ⟨t', heq.symm⟩

/-- White space in front is no part of what a text ends in. -/
theorem Settled.of_append_left {lead : List Char} (hs : Settled (lead ++ s) next)
    (hlead : ∀ c ∈ lead, isWhite c = true) : Settled s next := by
  have hfront : ∀ u : List Char, (∀ c ∈ u.getLast?, isIdentChar c = false) →
      ∀ c ∈ (lead ++ u).getLast?, isIdentChar c = false := by
    intro u hu c hc
    rw [List.getLast?_append, Option.mem_def, Option.or_eq_some_iff] at hc
    rcases hc with hc | ⟨-, hc⟩
    · exact hu c hc
    · exact not_isIdentChar_of_isWhite (hlead c (List.mem_of_getLast? hc))
  by_cases hne : s = []
  · exact hne ▸ settled_nil next
  · refine ⟨fun c hc => hs.last c ?_, fun c hc => hs.word c ?_, ?_, ?_⟩
    · rwa [List.getLast?_append_of_ne_nil _ hne]
    · rwa [List.getLast?_append_of_ne_nil _ hne]
    · rintro ⟨u, k, rfl, hk, hu⟩
      exact hs.keyword ⟨lead ++ u, k, (List.append_assoc ..).symm, hk, hfront u hu⟩
    · rintro ⟨u, d, rfl, hd, hu⟩
      exact hs.directive ⟨lead ++ u, d, (List.append_assoc ..).symm, hd, hfront u hu⟩

/-- Separators and white space are taken off up to what is neither. -/
theorem trimSeparators_trimEnd_append (hlast : ∀ c ∈ s.getLast?, c ≠ ';' ∧ isWhite c = false)
    (hu : ∀ c ∈ u, c = ';' ∨ isWhite c = true) : trimSeparators (trimEnd (s ++ u)) = s := by
  obtain ⟨w, hw, hwhite⟩ := exists_eq_dropEndWhile_append isWhite (s ++ u)
  calc trimSeparators (trimEnd (s ++ u)) = trimSeparators (trimEnd (s ++ u) ++ w) := by
        refine (dropEndWhile_append_of_forall _ fun c hc => ?_).symm
        rw [hwhite c hc, Bool.or_true]
    _ = trimSeparators (s ++ u) := congrArg trimSeparators hw.symm
    _ = trimSeparators s := dropEndWhile_append_of_forall _ (by simpa using hu)
    _ = s := trimSeparators_eq_self_iff.mpr hlast

/-- The name of a directive does not begin inside a word. -/
theorem EndsInDirective.isIdentChar_of_mem (h : EndsInDirective (s ++ t))
    (ht : ∀ c ∈ t, isWhite c = false) : ∀ c ∈ t, isIdentChar c = true := by
  obtain ⟨u, d, heq, ⟨k, w, n, rfl, -, hwne, hw, -, -, hn⟩, -⟩ := h
  rw [← List.append_assoc, ← List.append_assoc] at heq
  rcases List.append_eq_append_iff.mp heq with ⟨a, ha, rfl⟩ | ⟨a, ha, rfl⟩
  · by_cases hne : a = []
    · subst hne
      exact hn
    · obtain ⟨c, hwc, hc⟩ := exists_mem_getLast?_of_append_eq ha hwne hne
      have hwhite := hw c (List.mem_of_getLast? hwc)
      rw [ht c (List.mem_append_left _ (List.mem_of_getLast? hc))] at hwhite
      cases hwhite
  · exact fun c hc => hn c (List.mem_append_right _ hc)

/-- Where a text ends in a directive, the last word is the name of it. -/
theorem isIdentChar_of_endingOf_trim
    (h : ∃ before, endingOf (trimSeparators (trim (s ++ t ++ u))) = .directive before)
    (hne : t ≠ []) (ht : ∀ c ∈ t, isWhite c = false ∧ c ≠ ';')
    (hu : ∀ c ∈ u, c = ';' ∨ isWhite c = true) :
    ∀ c ∈ t, isIdentChar c = true := by
  obtain ⟨v, hv⟩ : ∃ v, trimStart (s ++ t ++ u) = v ++ t ++ u := by
    have hself : trimStart (t ++ u) = t ++ u := by
      refine trimStart_eq_self_iff.mpr fun c hc => ?_
      rw [List.head?_append_of_ne_nil _ hne] at hc
      exact (ht c (List.mem_of_mem_head? hc)).1
    rw [List.append_assoc, trimStart, List.dropWhile_append]
    split_ifs
    · exact ⟨[], hself⟩
    · exact ⟨s.dropWhile isWhite, (List.append_assoc ..).symm⟩
  rw [trim, hv, trimSeparators_trimEnd_append (fun c hc => ?_) hu,
    exists_endingOf_eq_directive_iff] at h
  · exact h.isIdentChar_of_mem fun c hc => (ht c hc).1
  · rw [List.getLast?_append_of_ne_nil _ hne] at hc
    exact (ht c (List.mem_of_getLast? hc)).symm

/-- Where the directive behind a settled text is recognized, just the text is left. -/
theorem Settled.eq_of_withoutTail {lead d : List Char} (hs : Settled s next)
    (hhead : ∀ c ∈ s.head?, isWhite c = false) (hlead : ∀ c ∈ lead, isWhite c = true)
    (hgap : ∀ c ∈ gap, isWhite c = true) (hd : Directive d)
    (hu : ∀ c ∈ u, c = ';' ∨ isWhite c = true)
    (hending : ∃ before, endingOf (trimSeparators (trim (lead ++ s ++ gap ++ d ++ u))) =
      .directive before) (hb : withoutTail (lead ++ s ++ gap ++ d ++ u) = some b) : b = s := by
  have hkne := ne_nil_of_sameLetters_formatKeyword hd.keyword_eq
  have hdhead : ∀ c ∈ (d ++ u).head?, isWhite c = false := by
    intro c hc
    rw [hd.eq_append, List.append_assoc, List.append_assoc,
      List.head?_append_of_ne_nil _ hkne] at hc
    exact not_isWhite_of_isIdentChar
      (isIdentChar_of_sameLetters_formatKeyword hd.keyword_eq c (List.mem_of_mem_head? hc))
  obtain ⟨gap', hgap', hstart⟩ : ∃ gap', (∀ c ∈ gap', isWhite c = true) ∧
      trimStart (lead ++ s ++ gap ++ d ++ u) = s ++ gap' ++ d ++ u := by
    by_cases hne : s = []
    · refine ⟨[], by simp, ?_⟩
      rw [hne, List.append_nil, List.append_assoc (lead ++ gap)]
      exact trimStart_append (fun c hc => (List.mem_append.mp hc).elim (hlead c) (hgap c)) hdhead
    · refine ⟨gap, hgap, ?_⟩
      simp only [List.append_assoc]
      exact trimStart_append hlead (by rwa [List.head?_append_of_ne_nil _ hne])
  have hlast : ∀ c ∈ (s ++ gap' ++ d).getLast?, c ≠ ';' ∧ isWhite c = false := by
    intro c hc
    rw [hd.eq_append, ← List.append_assoc, List.getLast?_append_of_ne_nil _ hd.name_ne_nil] at hc
    have hident := hd.name_ident c (List.mem_of_getLast? hc)
    refine ⟨?_, not_isWhite_of_isIdentChar hident⟩
    rintro rfl
    exact absurd hident (by decide)
  have hcut : trimSeparators (trim (lead ++ s ++ gap ++ d ++ u)) = s ++ gap' ++ d := by
    rw [trim, hstart]
    exact trimSeparators_trimEnd_append hlast hu
  have hbefore : trimEnd (s ++ gap') = s := by
    rw [trimEnd, dropEndWhile_append_of_forall _ hgap', dropEndWhile_eq_self_iff]
    exact fun c hc => (hs.last c hc).2
  obtain ⟨before, hbeforeEnding⟩ := hending
  have hdirective : endingOf (trimSeparators (trim (lead ++ s ++ gap ++ d ++ u))) =
      .directive s := by
    rw [hcut, endingOf_append hd] at hbeforeEnding ⊢
    split_ifs at hbeforeEnding ⊢
    rw [hbefore]
  rw [withoutTail, stripTail_of_directive hdirective] at hb
  exact Option.some.inj (hb.symm.trans (hs.stripTail_eq (by rw [hb]; exact Option.some_ne_none b)))

end QueryGate.Statement
