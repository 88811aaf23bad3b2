import QueryGate.Eval.Clause
import QueryGate.Proofs.Text.Letters
import QueryGate.Proofs.Text.Readers

/-!
# Finding clauses

A text is searched for a keyword from left to right. A part of it in which nothing is found
(`Absent`) is passed over, whatever stands behind it (`firstAt?_append`, `upTo_append`). That a
keyword is absent can be seen from one token at a time :

* `absent_of_head` : no character of the token is one that the keyword begins with;
* `absent_of_word` : the token is another word;
* `absent_of_quoted` : the token is closed by a mark, and the keyword does not stand in front of it.
-/

namespace QueryGate

open Text

variable {c d : Char} {k s t word : List Char}

namespace Eval

open Regex

/-! ## Places -/

/-- Nothing is found in a part of a text. A place in it is given by the character before it, and by
all of the text behind it. -/
def Absent (p : Option Char → List Char → Bool) (after : List Char) :
    Option Char → List Char → Prop
  | _, [] => True
  | prev, c :: s => p prev (c :: (s ++ after)) = false ∧ Absent p after (some c) s

variable {p : Option Char → List Char → Bool} {prev : Option Char} {after : List Char}

/-- The character before a place, one character further on. -/
theorem getLast?_cons_or (c : Char) (s : List Char) (prev : Option Char) :
    (c :: s).getLast?.or prev = s.getLast?.or (some c) := by
  rw [List.getLast?_cons]
  cases s.getLast? <;> rfl

theorem absent_append_iff : Absent p after prev (s ++ t) ↔
    Absent p (t ++ after) prev s ∧ Absent p after (s.getLast?.or prev) t := by
  induction s generalizing prev with
  | nil => simp [Absent]
  | cons c s ih =>
    rw [List.cons_append, Absent, Absent, ih, List.append_assoc, and_assoc, getLast?_cons_or]

/-- Where nothing is found at any place of a part with its text, nothing is found in the part. -/
theorem absent_of_forall (h : ∀ u v, s = u ++ v → v ≠ [] →
    p (u.getLast?.or prev) (v ++ after) = false) : Absent p after prev s := by
  induction s generalizing prev with
  | nil => trivial
  | cons c s ih =>
    refine ⟨h [] (c :: s) rfl (List.cons_ne_nil c s), ih fun u v hs hv => ?_⟩
    rw [← getLast?_cons_or]
    exact h (c :: u) v (by rw [hs, List.cons_append]) hv

theorem Absent.imp {q : Option Char → List Char → Bool} (h : Absent p after prev s)
    (hpq : ∀ prev s, p prev s = false → q prev s = false) : Absent q after prev s := by
  induction s generalizing prev with
  | nil => trivial
  | cons c s ih => exact ⟨hpq _ _ h.1, ih h.2⟩

/-- A part in which nothing is found is passed over. -/
theorem firstAt?_append {α : Type} {f : Option Char → List Char → Option α}
    (h : Absent (fun prev s => (f prev s).isSome) t prev s) :
    firstAt? f prev (s ++ t) = firstAt? f (s.getLast?.or prev) t := by
  induction s generalizing prev with
  | nil => rfl
  | cons c s ih =>
    have hnone : f prev (c :: (s ++ t)) = none := by simpa using h.1
    rw [List.cons_append, firstAt?, hnone, Option.none_or, ih h.2, getLast?_cons_or]

/-- What is found at a place is found first there, where nothing is found in front of it. -/
theorem firstAt?_eq_some {α : Type} {f : Option Char → List Char → Option α} {a : α}
    (h : f prev s = some a) : firstAt? f prev s = some a := by
  cases s with
  | nil => exact h
  | cons c s => rw [firstAt?, h, Option.some_or]

theorem upTo_append (h : Absent p t prev s) :
    upTo p prev (s ++ t) = s ++ upTo p (s.getLast?.or prev) t := by
  induction s generalizing prev with
  | nil => rfl
  | cons c s ih =>
    rw [List.cons_append, upTo, h.1, if_neg Bool.false_ne_true, ih h.2, getLast?_cons_or]
    rfl

/-! ## Keywords -/

/-- Whether a keyword stands at a place. -/
def isWordAt (word : List Char) (prev : Option Char) (s : List Char) : Bool :=
  (keyword? word prev s).isSome

theorem keyword?_eq_some_iff {rest : List Char} : keyword? word prev s = some rest ↔
    ∃ k, s = k ++ rest ∧ sameLetters k word = true ∧ (∀ c ∈ prev, isWordMember c = false) ∧
      ∀ c ∈ rest.head?, isWordMember c = false := by
  have hany : ∀ o : Option Char,
      (!o.any isWordMember) = true ↔ ∀ c ∈ o, isWordMember c = false := fun o => by
    cases o <;> simp
  unfold keyword?
  dsimp only
  rw [Option.ite_none_right_eq_some, Bool.and_eq_true, Bool.and_eq_true, hany, hany]
  constructor
  · rintro ⟨⟨⟨hprev, hsame⟩, hnext⟩, hrest⟩
    obtain rfl := Option.some.inj hrest
    exact ⟨s.take word.length, (List.take_append_drop _ _).symm, hsame, hprev, hnext⟩
  · rintro ⟨k, rfl, hsame, hprev, hnext⟩
    rw [← length_of_sameLetters hsame, List.take_left, List.drop_left]
    exact ⟨⟨⟨hprev, hsame⟩, hnext⟩, rfl⟩

theorem isWordAt_iff : isWordAt word prev s = true ↔ ∃ k rest, s = k ++ rest ∧
    sameLetters k word = true ∧ (∀ c ∈ prev, isWordMember c = false) ∧
      ∀ c ∈ rest.head?, isWordMember c = false := by
  simp only [isWordAt, Option.isSome_iff_exists, keyword?_eq_some_iff]
  exact exists_comm

/-- Whether a keyword stands anywhere in a text. -/
def stands (word s : List Char) : Bool :=
  (firstAt? (keyword? word) none s).isSome

theorem absent_of_not_stands (h : stands word s = false) :
    Absent (isWordAt word) [] none s := by
  rw [stands, Option.isSome_eq_false_iff, Option.isNone_iff_eq_none] at h
  revert h
  generalize (none : Option Char) = prev
  intro h
  induction s generalizing prev with
  | nil => trivial
  | cons c s ih =>
    rw [firstAt?, Option.or_eq_none_iff] at h
    exact ⟨by rw [List.append_nil, isWordAt, h.1]; rfl, ih _ h.2⟩

theorem isWordMember_eq (h : c.toNat < 128) : isWordMember c = Statement.isIdentChar c := by
  have hlt : c.val < 128 := UInt32.lt_iff_toNat_lt.mpr h
  rw [isWordMember, if_pos hlt, Statement.isIdentChar]

theorem isWordMember_of_isIdentChar (h : Statement.isIdentChar c = true) :
    isWordMember c = true := by
  have hbounds := Statement.isIdentChar_iff.mp h
  rw [isWordMember_eq (by omega), h]

/-- Where no character of a token is one that a keyword begins with, the keyword is not there. -/
theorem absent_of_head (h : ∀ c ∈ s, ∀ d ∈ word.head?, c.toLower ≠ d.toLower) (hword : word ≠ []) :
    Absent (isWordAt word) after prev s := by
  refine absent_of_forall fun u v hs hv => Bool.eq_false_iff.mpr fun hfound => ?_
  obtain ⟨k, rest, htext, hsame, -, -⟩ := isWordAt_iff.mp hfound
  obtain ⟨c, v, rfl⟩ := List.exists_cons_of_ne_nil hv
  obtain ⟨d, word, rfl⟩ := List.exists_cons_of_ne_nil hword
  cases k with
  | nil => cases length_of_sameLetters hsame
  | cons e k =>
    obtain rfl := (List.cons.inj htext).1
    have hlower : lower (c :: k) = lower (d :: word) := beq_iff_eq.mp hsame
    exact h c (by simp [hs]) d rfl (List.cons.inj hlower).1

theorem absent_of_not_isAlpha (hword : (lower word).all Char.isLower = true) (hne : word ≠ [])
    (h : ∀ c ∈ s, c.isAlpha = false) : Absent (isWordAt word) after prev s := by
  refine absent_of_head (fun c hc d hd heq => ?_) hne
  have hlower : d.toLower ∈ lower word := List.mem_map_of_mem (List.mem_of_mem_head? hd)
  have halpha := isAlpha_of_toLower (heq ▸ List.all_eq_true.mp hword _ hlower)
  rw [h c hc] at halpha
  cases halpha

/-- A keyword does not stand in another word. -/
theorem absent_of_word (hword : (lower word).all Char.isLower = true)
    (hs : ∀ c ∈ s, isWordMember c = true) (hafter : ∀ c ∈ after.head?, c.isAlpha = false)
    (hne : sameLetters s word = false) : Absent (isWordAt word) after prev s := by
  refine absent_of_forall fun u v huv hv => Bool.eq_false_iff.mpr fun hfound => ?_
  obtain ⟨k, rest, htext, hsame, hprev, hnext⟩ := isWordAt_iff.mp hfound
  rcases List.eq_nil_or_concat' u with rfl | ⟨u, c, rfl⟩
  · -- the keyword begins where the token does, and would have to end where it does
    obtain rfl : s = v := huv
    rcases List.append_eq_append_iff.mp htext with ⟨w, rfl, rfl⟩ | ⟨w, rfl, rfl⟩
    · cases w with
      | nil => rw [List.append_nil, hne] at hsame; cases hsame
      | cons d w =>
        have halpha := isAlpha_of_sameLetters hword hsame d (by simp)
        rw [hafter d rfl] at halpha
        cases halpha
    · cases w with
      | nil => rw [List.append_nil, hsame] at hne; cases hne
      | cons d w =>
        have hmember := hs d (by simp)
        rw [hnext d rfl] at hmember
        cases hmember
  · have hmember := hs c (by simp [huv])
    rw [hprev c (by simp)] at hmember
    cases hmember

/-- In front of a place, the text of a part in which nothing is found goes on. -/
theorem Absent.not_of_append {u v : List Char} (h : Absent p after prev (u ++ v)) (hv : v ≠ []) :
    p (u.getLast?.or prev) (v ++ after) = false := by
  obtain ⟨c, v, rfl⟩ := List.exists_cons_of_ne_nil hv
  exact (absent_append_iff.mp h).2.1

/-- A keyword that does not stand between two marks does not stand across them either. -/
theorem absent_of_quoted {mark : Char} {prev' : Option Char}
    (hword : (lower word).all Char.isLower = true) (hne : word ≠ []) (hmark : mark.isAlpha = false)
    (hhead : s.head? = some mark) (hlast : s.getLast? = some mark)
    (h : Absent (isWordAt word) [] prev' s) : Absent (isWordAt word) after prev s := by
  refine absent_of_forall fun u v hs hv => Bool.eq_false_iff.mpr fun hfound => ?_
  obtain ⟨k, rest, htext, hsame, hprev, hnext⟩ := isWordAt_iff.mp hfound
  have hletter : ∀ c ∈ k, c ≠ mark := by
    rintro c hc rfl
    rw [isAlpha_of_sameLetters hword hsame c hc] at hmark
    cases hmark
  rw [hs, List.getLast?_append_of_ne_nil _ hv] at hlast
  rcases List.append_eq_append_iff.mp htext with ⟨w, rfl, rfl⟩ | ⟨w, rfl, rfl⟩
  · exact hletter mark (List.mem_append_left _ (List.mem_of_getLast? hlast)) rfl
  -- the mark at the end stands behind the keyword, and the one at the start in front of it
  have hw : w ≠ [] := by
    rintro rfl
    rw [List.append_nil] at hlast
    exact hletter mark (List.mem_of_getLast? hlast) rfl
  have hu : u ≠ [] := by
    rintro rfl
    obtain ⟨c, k, rfl⟩ : ∃ c k', k = c :: k' := List.exists_cons_of_ne_nil fun hnil =>
      hne (List.length_eq_zero_iff.mp (by rw [← length_of_sameLetters hsame, hnil]; rfl))
    rw [hs] at hhead
    exact hletter c (List.mem_cons_self ..) (Option.some.inj hhead)
  obtain ⟨d, hd⟩ := Option.isSome_iff_exists.mp (List.getLast?_isSome.mpr hu)
  subst hs
  have hnone := h.not_of_append hv
  rw [hd, Option.some_or] at hprev hnone
  rw [List.append_nil, isWordAt_iff.mpr ⟨k, w, rfl, hsame, hprev, fun c hc => hnext c ?_⟩] at hnone
  · cases hnone
  · rwa [List.head?_append_of_ne_nil _ hw]

/-! ## Limits -/

variable {key blanks digits rest : List Char}

/-- A keyword with white space behind it, and something else behind that. -/
theorem keyword?_append (hkey : sameLetters key word = true)
    (hprev : ∀ c ∈ prev, isWordMember c = false)
    (hrest : ∀ c ∈ rest.head?, isWordMember c = false) :
    keyword? word prev (key ++ rest) = some rest :=
  keyword?_eq_some_iff.mpr ⟨key, rfl, hkey, hprev, hrest⟩

theorem isDecimalDigit_of_isDigit (h : c.isDigit = true) : isDecimalDigit c = true := by
  have hlt : c.val < 128 := UInt32.lt_iff_toNat_lt.mpr
    (Nat.lt_of_le_of_lt (isDigit_iff.mp h).2 (by decide))
  rw [isDecimalDigit, if_pos hlt, h]

/-- White space behind a keyword, and what stands behind it. -/
structure IsGap (blanks : List Char) : Prop where
  ne_nil : blanks ≠ []
  white : ∀ c ∈ blanks, isWhite c = true
  ends : ∀ c ∈ blanks.head?, isWordMember c = false

theorem IsGap.head? (h : IsGap blanks) : (blanks ++ rest).head?.any isWhite = true := by
  obtain ⟨c, blanks, rfl⟩ := List.exists_cons_of_ne_nil h.ne_nil
  exact h.white c (List.mem_cons_self ..)

theorem IsGap.keyword?_eq (h : IsGap blanks) (hkey : sameLetters key word = true)
    (hprev : ∀ c ∈ prev, isWordMember c = false) :
    keyword? word prev (key ++ (blanks ++ rest)) = some (blanks ++ rest) := by
  refine keyword?_append hkey hprev fun c hc => h.ends c ?_
  rwa [List.head?_append_of_ne_nil _ h.ne_nil] at hc

theorem limitDigits?_eq_some (hkey : sameLetters key "LIMIT".toList = true)
    (hprev : ∀ c ∈ prev, isWordMember c = false) (hgap : IsGap blanks) (hne : digits ≠ [])
    (hdigits : ∀ c ∈ digits, c.isDigit = true)
    (hrest : ∀ c ∈ rest.head?, isDecimalDigit c = false) :
    limitDigits? prev (key ++ (blanks ++ (digits ++ rest))) = some digits := by
  have hhead : ∀ c ∈ (digits ++ rest).head?, isWhite c = false := fun c hc => by
    rw [List.head?_append_of_ne_nil _ hne] at hc
    refine Statement.not_isWhite_of_isIdentChar (Statement.isIdentChar_of_isUpper_or_isDigit ?_)
    exact Or.inr (Or.inl (hdigits c (List.mem_of_mem_head? hc)))
  rw [limitDigits?, hgap.keyword?_eq hkey hprev, Option.bind_some, hgap.head?,
    trimStart_append hgap.white hhead,
    takeWhile_append_stop (fun c hc => isDecimalDigit_of_isDigit (hdigits c hc)) hrest]
  simp [hne]

theorem keyword?_eq_none (h : isWordAt word prev s = false) : keyword? word prev s = none := by
  simpa [isWordAt] using h

theorem absent_limitDigits? (h : Absent (isWordAt "LIMIT".toList) after prev s) :
    Absent (fun prev s => (limitDigits? prev s).isSome) after prev s :=
  h.imp fun prev s hnone => by rw [limitDigits?, keyword?_eq_none hnone]; rfl

/-- The digits behind the first LIMIT are those of the limit. -/
theorem limitValue?_append (hs : Absent (isWordAt "LIMIT".toList) t none s)
    (ht : limitDigits? s.getLast? t = some digits) :
    limitValue? (s ++ t) = (Decimal.readNatural Decimal.maxWord digits).toOption := by
  rw [limitValue?, firstAt?_append (absent_limitDigits? hs), Option.or_none,
    firstAt?_eq_some ht, Option.bind_some]

theorem limitValue?_eq_none (h : Absent (isWordAt "LIMIT".toList) [] none s) :
    limitValue? s = none := by
  have hnone := firstAt?_append (absent_limitDigits? h)
  rw [List.append_nil] at hnone
  have hend : limitDigits? (s.getLast?.or none) [] = none := by
    simp [limitDigits?, keyword?, sameLetters, lower]
  rw [limitValue?, hnone, firstAt?, hend]
  rfl

/-! ## Groups -/

/-- The words at which groups end. -/
def groupEnds : List String := ["HAVING", "LIMIT", "FORMAT", "ORDER"]

theorem phrase?_eq_none {first second : List Char} (h : isWordAt first prev s = false) :
    phrase? first second prev s = none := by
  rw [phrase?, keyword?_eq_none h]
  rfl

theorem phrase?_eq_some {first second key' : List Char} (hfirst : sameLetters key first = true)
    (hprev : ∀ c ∈ prev, isWordMember c = false) (hgap : IsGap blanks)
    (hsecond : sameLetters key' second = true) (hne : key' ≠ [])
    (hletters : (lower second).all Char.isLower = true)
    (hrest : ∀ c ∈ rest.head?, isWordMember c = false) :
    phrase? first second prev (key ++ (blanks ++ (key' ++ rest))) = some rest := by
  have hhead : ∀ c ∈ (key' ++ rest).head?, isWhite c = false := fun c hc => by
    rw [List.head?_append_of_ne_nil _ hne] at hc
    have halpha := isAlpha_of_sameLetters hletters hsecond c (List.mem_of_mem_head? hc)
    refine Statement.not_isWhite_of_isIdentChar ?_
    rw [Statement.isIdentChar, Char.isAlphanum, halpha, Bool.true_or, Bool.true_or]
  rw [phrase?, hgap.keyword?_eq hfirst hprev, Option.bind_some, hgap.head?, if_pos rfl,
    trimStart_append hgap.white hhead, keyword?_append hsecond (by simp) hrest]

/-- What is behind the first GROUP BY are the groups. -/
theorem groupClause?_append (hs : Absent (isWordAt "GROUP".toList) t none s)
    (ht : phrase? "GROUP".toList "BY".toList s.getLast? t = some rest) :
    groupClause? (s ++ t) = some (lower (upTo endsGroups (some 'Y') rest)) := by
  have habsent : Absent (fun prev s => (phrase? "GROUP".toList "BY".toList prev s).isSome) t none
      s := hs.imp fun prev s hnone => by rw [phrase?_eq_none hnone]; rfl
  rw [groupClause?, firstAt?_append habsent, Option.or_none, firstAt?_eq_some ht, Option.map_some]

/-- The groups go on where no bracket is closed and none of the words at which they end stands. -/
theorem absent_endsGroups (hbracket : ')' ∉ s)
    (h : ∀ w ∈ groupEnds, Absent (isWordAt w.toList) after prev s) :
    Absent endsGroups after prev s := by
  induction s generalizing prev with
  | nil => trivial
  | cons c s ih =>
    obtain ⟨hc, hs⟩ := not_or.mp (mt List.mem_cons.mpr hbracket)
    refine ⟨?_, ih hs fun w hw => (h w hw).2⟩
    simp only [groupEnds, List.forall_mem_cons] at h
    obtain ⟨hhaving, hlimit, hformat, horder, -⟩ := h
    have hne : c ≠ ')' := fun heq => hc heq.symm
    have hhead : ((c :: (s ++ after)).head? == some ')') = false := by simp [hne]
    simp only [endsGroups, hhead, List.any_cons, List.any_nil, keyword?_eq_none hhaving.1,
      keyword?_eq_none hlimit.1, keyword?_eq_none hformat.1, phrase?_eq_none horder.1,
      Option.isSome_none, Bool.or_false]

/-- The text of the groups has no closing bracket in it. -/
theorem not_mem_lower_upTo : ')' ∉ lower (upTo endsGroups prev s) := by
  induction s generalizing prev with
  | nil => exact List.not_mem_nil
  | cons c s ih =>
    rw [upTo]
    split_ifs with hends
    · exact List.not_mem_nil
    · refine fun hmem => (List.mem_cons.mp hmem).elim (fun heq => hends ?_) ih
      have hbracket : c = ')' := by
        have hcase := toNat_toLower c
        rw [← heq, show ')'.toNat = 41 from rfl] at hcase
        split_ifs at hcase
        · omega
        · exact Char.ext (UInt32.toNat_inj.mp hcase.symm)
      simp [endsGroups, hbracket]

/-- A part in which the groups go on is in their text. -/
theorem isPrefix_upTo (h : Absent endsGroups t prev s) :
    lower s <+: lower (upTo endsGroups prev (s ++ t)) := by
  rw [upTo_append h, lower, lower, List.map_append]
  exact List.prefix_append _ _

end Eval

end QueryGate
