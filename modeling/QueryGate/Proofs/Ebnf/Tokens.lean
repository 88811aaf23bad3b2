import QueryGate.Proofs.Ebnf.Writer
import QueryGate.Proofs.Text.Pieces
import QueryGate.Proofs.Text.Readers

/-!
# Reading tokens

The reader of each kind of token takes what is written for it, where the text behind it cannot
belong to the token (`EndsAtom`, `EndsItem`).

* `readString_quotedText`, `readPatternBody_append`, `readNameChars_append`, `readDotted_append` :
  strings, regular expressions and names;
* `readBound_append`, `readRepetition_append` : numbers of repetitions.
-/

namespace QueryGate.Ebnf

open Text Reader

variable {s t pad : List Char} {c : Char} {n : Nat}

/-! ## Blanks -/

theorem isBlankChar_iff : isBlankChar c = true ↔ c = ' ' ∨ c = '\t' ∨ c = '\r' ∨ c = '\n' := by
  simp [isBlankChar, or_assoc]

theorem skipBlanks_append (hpad : ∀ c ∈ pad, isBlankChar c = true)
    (ht : ∀ c ∈ t.head?, isBlankChar c = false) : skipBlanks (pad ++ t) = t :=
  dropWhile_append_stop hpad ht

theorem skipBlanks_eq_self (h : ∀ c ∈ s.head?, isBlankChar c = false) : skipBlanks s = s :=
  dropWhile_append_stop (fun _ hc => absurd hc List.not_mem_nil) h

theorem skipBlanks_cons (h : isBlankChar c = false) (s : List Char) :
    skipBlanks (c :: s) = c :: s :=
  skipBlanks_eq_self (by simpa using h)

theorem skipBlanks_eq_nil (h : ∀ c ∈ pad, isBlankChar c = true) : skipBlanks pad = [] := by
  simpa using skipBlanks_append (t := []) h (by simp)

theorem skipBlanks_space (s : List Char) : skipBlanks (' ' :: s) = skipBlanks s :=
  List.dropWhile_cons_of_pos (by decide)

theorem spaced_char (h : skipBlanks s = c :: t) : spaced (char c) s = some ((), skipBlanks t) := by
  rw [spaced, h, char_cons]
  rfl

theorem spaced_word {w : List Char} (h : skipBlanks s = w ++ t) :
    spaced (word w) s = some ((), skipBlanks t) := by
  rw [spaced, h, word_append]
  rfl

theorem spaced_char_eq_none (h : ∀ d ∈ (skipBlanks s).head?, d ≠ c) :
    spaced (char c) s = none := by
  rw [spaced, char_eq_none h]
  rfl

theorem spaced_word_eq_none {w : List Char} (h : ∀ d ∈ (skipBlanks s).head?, d ≠ c) :
    spaced (word (c :: w)) s = none := by
  rw [spaced, word_eq_none h]
  rfl

/-! ## Strings -/

theorem readStringBody_escape (c : Char) (t : List Char) :
    readStringBody (escape c ++ t) = (readStringBody t).map fun (cs, rest) => (c :: cs, rest) := by
  unfold escape
  split_ifs with hmark hfeed htab hreturn
  · rcases Bool.or_eq_true_iff.mp hmark with h | h <;> obtain rfl := beq_iff_eq.mp h <;> rfl
  · obtain rfl := beq_iff_eq.mp hfeed
    rfl
  · obtain rfl := beq_iff_eq.mp htab
    rfl
  · obtain rfl := beq_iff_eq.mp hreturn
    rfl
  · rw [Bool.or_eq_true, not_or] at hmark
    rw [List.singleton_append, readStringBody.eq_def]
    simp only [if_neg hmark.1, if_neg hmark.2]

theorem readStringBody_append (s t : List Char) :
    readStringBody (s.flatMap escape ++ '"' :: t) = some (s, t) := by
  induction s with
  | nil => rw [List.flatMap_nil, List.nil_append, readStringBody.eq_def]; rfl
  | cons c s ih =>
    rw [List.flatMap_cons, List.append_assoc, readStringBody_escape, ih, Option.map_some]

theorem readString_quotedText (s t : List Char) : readString (quotedText s ++ t) = some (s, t) := by
  rw [quotedText, List.cons_append, List.append_assoc, readString]
  exact readStringBody_append s t

theorem readString_eq_none (h : ∀ c ∈ s.head?, c ≠ '"') : readString s = none := by
  unfold readString
  split
  · exact absurd rfl (h _ rfl)
  · rfl

/-! ## Regular expressions -/

theorem readPatternBody_append (hs : Unescaped s) (t : List Char) :
    readPatternBody (s.flatMap escapeSlash ++ '/' :: t) = some (s, t) := by
  induction hs with
  | nil =>
    rw [List.flatMap_nil, List.nil_append, readPatternBody.eq_def]
    rfl
  | @escape e s he _ ih =>
    rw [List.flatMap_cons, List.flatMap_cons, escapeSlash_of_ne he]
    change readPatternBody ('\\' :: e :: (s.flatMap escapeSlash ++ '/' :: t)) = _
    rw [readPatternBody.eq_def]
    simp [ih, he]
  | @cons c s hc _ ih =>
    rw [List.flatMap_cons, List.append_assoc]
    by_cases hslash : c = '/'
    · subst hslash
      change readPatternBody ('\\' :: '/' :: (s.flatMap escapeSlash ++ '/' :: t)) = _
      rw [readPatternBody.eq_def]
      simp [ih]
    · rw [escapeSlash_of_ne hslash, List.singleton_append, readPatternBody.eq_def]
      simp [hslash, hc, ih]

/-! ## Names -/

theorem isNameChar_of_isNameStart (h : isNameStart c = true) : isNameChar c = true := by
  rcases Bool.or_eq_true_iff.mp h with halpha | hlow
  · simp [isNameChar, Char.isAlphanum, halpha]
  · simp [isNameChar, hlow]

theorem isNameChar_of_isName (h : isName s = true) : ∀ c ∈ s, isNameChar c = true := by
  cases s with
  | nil => cases h
  | cons c s =>
    simp only [isName, Bool.and_eq_true, List.all_eq_true] at h
    exact List.forall_mem_cons.mpr ⟨isNameChar_of_isNameStart h.1, h.2⟩

theorem readNameChars_append (hs : isName s = true) (ht : ∀ c ∈ t.head?, isNameChar c = false) :
    readNameChars (s ++ t) = some (s, t) := by
  cases s with
  | nil => cases hs
  | cons c s =>
    simp only [isName, Bool.and_eq_true, List.all_eq_true] at hs
    rw [List.cons_append, readNameChars, if_pos hs.1, takeWhile_append_stop hs.2 ht,
      dropWhile_append_stop hs.2 ht]

theorem readNameChars_eq_none (h : ∀ c ∈ s.head?, isNameStart c = false) :
    readNameChars s = none := by
  cases s with
  | nil => rfl
  | cons c s => rw [readNameChars, if_neg (by simp [h c rfl])]

theorem readName_append {name : String} (hname : isName name.toList = true)
    (ht : ∀ c ∈ t.head?, isNameChar c = false) : readName (name.toList ++ t) = some (name, t) := by
  rw [readName, readNameChars_append hname ht]
  simp

/-- Names joined by points are read as long as there is no point behind them. -/
theorem readDotted_append {path : List (List Char)} (hne : path ≠ [])
    (hpath : ∀ s ∈ path, isName s = true)
    (ht : ∀ c ∈ t.head?, isNameChar c = false ∧ c ≠ '.') :
    readDotted (joinWith ['.'] path ++ t) = some (path, t) := by
  have hread : readDotted (joinWith ['.'] (path.map id) ++ t) = some (path, t) := by
    refine sepBy1_joinWith (P := fun u => ∀ c ∈ u.head?, isNameChar c = false) hne
      (List.cons_ne_nil _ _) (fun s hs u hu => readNameChars_append (hpath s hs) hu)
      (fun s _ u => char_cons '.' (s ++ u)) (fun u c hc => ?_) (fun c hc => (ht c hc).1)
      (char_eq_none fun c hc => (ht c hc).2)
    obtain rfl := Option.some.inj hc
    decide
  rwa [List.map_id] at hread

/-! ## Numbers of repetitions -/

theorem readBound_append (hn : n ≤ maxBound) (ht : ∀ c ∈ t.head?, c.isDigit = false) :
    readBound (Nat.toDigits 10 n ++ t) = some (n, t) := by
  rw [readBound, run1_append (fun _ hc => isDigit_of_mem_toDigits hc) Nat.toDigits_ne_nil ht]
  simp only [Option.bind_some, foldl_toDigits, if_pos hn]

/-- A text that cannot go on with the atom in front of it. -/
structure EndsAtom (rest : List Char) : Prop where
  head : ∀ c ∈ rest.head?, isNameChar c = false
  next : ∀ c ∈ (skipBlanks rest).head?, c ≠ '.' ∧ c ≠ ':'

/-- A text that cannot go on with the item in front of it. -/
structure EndsItem (rest : List Char) : Prop where
  head : ∀ c ∈ rest.head?, isNameChar c = false ∧ c ∉ ['?', '*', '+']
  next : ∀ c ∈ (skipBlanks rest).head?, c ∉ ['.', ':', '~']

theorem EndsItem.endsAtom (h : EndsItem s) : EndsAtom s := by
  refine ⟨fun c hc => (h.head c hc).1, fun c hc => ?_⟩
  have hnext := h.next c hc
  simp only [List.mem_cons, List.not_mem_nil, or_false, not_or] at hnext
  exact ⟨hnext.1, hnext.2.1⟩

theorem readRepetition_eq_none (h : EndsItem s) : readRepetition s = none := by
  have hmark : ∀ c ∈ (skipBlanks s).head?, c ≠ '~' := fun c hc => by
    rintro rfl
    exact h.next _ hc (by simp)
  unfold readRepetition
  split
  · exact absurd (by simp) (h.head _ rfl).2
  · exact absurd (by simp) (h.head _ rfl).2
  · exact absurd (by simp) (h.head _ rfl).2
  · rw [spaced_char_eq_none hmark]
    rfl

theorem not_isDigit_of_not_isNameChar (h : isNameChar c = false) : c.isDigit = false := by
  simp only [isNameChar, Char.isAlphanum, Bool.or_eq_false_iff] at h
  exact h.1.2

theorem skipBlanks_toDigits (n : Nat) (t : List Char) :
    skipBlanks (Nat.toDigits 10 n ++ t) = Nat.toDigits 10 n ++ t := by
  refine skipBlanks_eq_self fun c hc => Bool.eq_false_iff.mpr fun hblank => ?_
  rw [List.head?_append_of_ne_nil _ Nat.toDigits_ne_nil] at hc
  have hdigit : c.isDigit = true :=
    Nat.isDigit_of_mem_toDigits (by decide) (by decide) (List.mem_of_mem_head? hc)
  rcases isBlankChar_iff.mp hblank with rfl | rfl | rfl | rfl <;> exact absurd hdigit (by decide)

theorem readBound_skipBlanks (hn : n ≤ maxBound) (ht : ∀ c ∈ t.head?, c.isDigit = false) :
    readBound (skipBlanks (Nat.toDigits 10 n ++ t)) = some (n, t) := by
  rw [skipBlanks_toDigits]
  exact readBound_append hn ht

theorem repetitionText_some {least most : Nat} (h : ¬(least = 0 ∧ most = 1)) :
    repetitionText least (some most) = '~' :: (Nat.toDigits 10 least ++
      if most = least then [] else '.' :: '.' :: Nat.toDigits 10 most) := by
  unfold repetitionText
  split <;> simp_all

theorem readRepetition_tilde_of_none {m : Nat} (hs : readBound (skipBlanks s) = some (m, t))
    (ht : spaced (word ['.', '.']) t = none) :
    readRepetition ('~' :: s) = some ((m, some m), t) := by
  have hspaced : spaced (char '~') ('~' :: s) = some ((), skipBlanks s) :=
    spaced_char rfl
  simp [readRepetition, hspaced, hs, ht]

theorem readRepetition_tilde_of_some {m : Nat} {u v : List Char}
    (hs : readBound (skipBlanks s) = some (m, t))
    (ht : spaced (word ['.', '.']) t = some ((), u)) (hu : readBound u = some (n, v)) :
    readRepetition ('~' :: s) = some ((m, some n), v) := by
  have hspaced : spaced (char '~') ('~' :: s) = some ((), skipBlanks s) :=
    spaced_char rfl
  simp [readRepetition, hspaced, hs, ht, hu]

theorem readRepetition_append {least : Nat} {most : Option Nat}
    (h : isRepetition least most = true) (ht : EndsItem t) :
    readRepetition (repetitionText least most ++ t) = some ((least, most), t) := by
  simp only [isRepetition, Bool.and_eq_true, decide_eq_true_eq] at h
  cases most with
  | none =>
    have hleast : least ≤ 1 := of_decide_eq_true h.2
    obtain rfl | rfl : least = 0 ∨ least = 1 := by omega
    · rfl
    · rfl
  | some most =>
    have hmost : most ≤ maxBound := of_decide_eq_true h.2
    have hdigits : ∀ c ∈ t.head?, c.isDigit = false := fun c hc =>
      not_isDigit_of_not_isNameChar (ht.head c hc).1
    by_cases hoptional : least = 0 ∧ most = 1
    · obtain ⟨rfl, rfl⟩ := hoptional
      rfl
    rw [repetitionText_some hoptional, List.cons_append, List.append_assoc]
    split_ifs with hmore
    · obtain rfl := hmore
      exact readRepetition_tilde_of_none (readBound_skipBlanks h.1 hdigits)
        (spaced_word_eq_none fun c hc => (ht.endsAtom.next c hc).1)
    · have hpoint : ∀ c ∈ ('.' :: '.' :: Nat.toDigits 10 most ++ t).head?, c.isDigit = false :=
        fun c hc => by
          obtain rfl := Option.some.inj hc
          decide
      exact readRepetition_tilde_of_some (readBound_skipBlanks h.1 hpoint)
        (spaced_word (w := ['.', '.']) rfl)
        (readBound_skipBlanks hmost hdigits)

end QueryGate.Ebnf
