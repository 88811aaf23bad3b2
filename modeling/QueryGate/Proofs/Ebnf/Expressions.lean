import QueryGate.Proofs.Ebnf.Tokens

/-!
# Reading expressions

What is written for an expression is read as the expression, in front of a text that only closes it
(`readExpr_text`). Brackets are read to any depth up to the length of the text, so the induction
over expressions carries what is read of them inside others at every depth (`Expr.IsRead`).
-/

namespace QueryGate.Ebnf

open Text Reader

variable {inner : Reader Expr} {e body : Expr} {es : List Expr} {s rest pad : List Char} {c : Char}
  {depth : Nat}

/-! ## Where expressions begin and end -/

/-- First characters of expressions inside others. -/
def isItemStart (c : Char) : Bool :=
  c == '(' || c == '"' || c == '/' || isNameStart c

theorem not_isBlankChar_of_isItemStart (h : isItemStart c = true) : isBlankChar c = false := by
  refine Bool.eq_false_iff.mpr fun hblank => ?_
  rcases isBlankChar_iff.mp hblank with rfl | rfl | rfl | rfl <;> exact absurd h (by decide)

theorem exists_of_isName (h : isName s = true) : ∃ c t, s = c :: t ∧ isNameStart c = true := by
  cases s with
  | nil => cases h
  | cons c s => exact ⟨c, s, rfl, (Bool.and_eq_true_iff.mp h).1⟩

namespace Expr

theorem text_rep (body : Expr) (least : Nat) (most : Option Nat) :
    (rep body least most).text = body.atomText ++ repetitionText least most := by
  rw [text, atomText]

theorem exists_atomText (h : e.isNormal = true) :
    ∃ c s, e.atomText = c :: s ∧ isItemStart c = true := by
  cases e with
  | literal value anyCase => exact ⟨'"', _, rfl, by decide⟩
  | pattern source flags => exact ⟨'/', _, rfl, by decide⟩
  | range first last => exact ⟨'"', _, rfl, by decide⟩
  | name symbol =>
    rw [isNormal] at h
    obtain ⟨c, s, hs, hc⟩ := exists_of_isName h
    exact ⟨c, s, hs, by simp [isItemStart, hc]⟩
  | seq parts => exact ⟨'(', _, rfl, by decide⟩
  | alt options => exact ⟨'(', _, rfl, by decide⟩
  | rep body least most => exact ⟨'(', _, rfl, by decide⟩

theorem exists_itemText (h : e.isNormal = true) :
    ∃ c s, e.itemText = c :: s ∧ isItemStart c = true := by
  cases e with
  | rep body least most =>
    rw [isNormal, Bool.and_eq_true] at h
    obtain ⟨c, s, hs, hc⟩ := exists_atomText h.2
    refine ⟨c, s ++ repetitionText least most, ?_, hc⟩
    rw [itemText_of_not_isGroup rfl, text_rep, hs, List.cons_append]
  | _ => exact exists_atomText h

theorem skipBlanks_itemText (h : e.isNormal = true) (s : List Char) :
    skipBlanks (e.itemText ++ s) = e.itemText ++ s := by
  obtain ⟨c, t, ht, hc⟩ := exists_itemText h
  rw [ht]
  exact skipBlanks_cons (not_isBlankChar_of_isItemStart hc) _

theorem text_seq (parts : List Expr) :
    (seq parts).text = joinWith [' '] (parts.map itemText) := by
  rw [text, itemTexts_eq]

theorem text_alt (options : List Expr) :
    (alt options).text = joinWith [' ', '|', ' '] (options.map itemText) := by
  rw [text, itemTexts_eq]

theorem isItemStart_of_mem_head?_joinWith {sep : List Char} (hes : ∀ e ∈ es, e.isNormal = true) :
    ∀ c ∈ (joinWith sep (es.map itemText)).head?, isItemStart c = true := by
  cases es with
  | nil => simp
  | cons e es =>
    obtain ⟨d, s, hs, hd⟩ := exists_itemText (hes e (List.mem_cons_self ..))
    rw [List.map_cons, joinWith_cons, hs]
    rintro c hc
    obtain rfl := Option.some.inj hc
    exact hd

theorem isItemStart_of_mem_head?_text (h : e.isNormal = true) :
    ∀ c ∈ e.text.head?, isItemStart c = true := by
  have hitem : e.isGroup = false → ∀ c ∈ e.text.head?, isItemStart c = true := by
    intro hgroup c hc
    obtain ⟨d, s, hs, hd⟩ := exists_itemText h
    rw [← itemText_of_not_isGroup hgroup, hs] at hc
    obtain rfl := Option.some.inj hc
    exact hd
  cases e with
  | seq parts =>
    rw [isNormal, Bool.and_eq_true] at h
    rw [text_seq]
    exact isItemStart_of_mem_head?_joinWith (areNormal_iff.mp h.2)
  | alt options =>
    rw [isNormal, Bool.and_eq_true] at h
    rw [text_alt]
    exact isItemStart_of_mem_head?_joinWith (areNormal_iff.mp h.2)
  | _ => exact hitem rfl

end Expr

/-- Behind blanks one of the marks stands, or nothing. -/
structure Closes (marks rest : List Char) : Prop where
  head : ∀ c ∈ rest.head?, isBlankChar c = true ∨ c ∈ marks
  next : ∀ c ∈ (skipBlanks rest).head?, c ∈ marks

theorem Closes.mono {marks marks' : List Char} (h : Closes marks rest) (hmarks : marks ⊆ marks') :
    Closes marks' rest :=
  ⟨fun c hc => (h.head c hc).imp_right fun hmem => hmarks hmem, fun c hc => hmarks (h.next c hc)⟩

theorem closes_cons {marks : List Char} (hc : c ∈ marks) (hblank : isBlankChar c = false)
    (s : List Char) : Closes marks (c :: s) := by
  exact ⟨by simpa using Or.inr hc, by simpa [skipBlanks_cons hblank] using hc⟩

theorem closes_of_blank {marks : List Char} (h : ∀ c ∈ pad, isBlankChar c = true) :
    Closes marks pad := by
  refine ⟨fun c hc => Or.inl (h c (List.mem_of_mem_head? hc)), ?_⟩
  rw [skipBlanks_eq_nil h]
  simp

/-- What can follow an alternative does not go on with its last item. -/
theorem Closes.endsItem (h : Closes ['|', ')'] rest) : EndsItem rest := by
  refine ⟨fun c hc => ?_, fun c hc => ?_⟩
  · rcases h.head c hc with hblank | hmark
    · rcases isBlankChar_iff.mp hblank with rfl | rfl | rfl | rfl <;> decide
    · simp only [List.mem_cons, List.not_mem_nil, or_false] at hmark
      rcases hmark with rfl | rfl <;> decide
  · have hmark := h.next c hc
    simp only [List.mem_cons, List.not_mem_nil, or_false] at hmark
    rcases hmark with rfl | rfl <;> decide

/-- An item behind a space does not go on with the one in front of it. -/
theorem endsItem_space (h : e.isNormal = true) (s : List Char) :
    EndsItem (' ' :: (e.itemText ++ s)) := by
  obtain ⟨c, t, ht, hc⟩ := Expr.exists_itemText h
  refine ⟨by simp [isNameChar], ?_⟩
  rw [skipBlanks_space, Expr.skipBlanks_itemText h, ht, List.cons_append]
  simp only [List.head?_cons, Option.mem_def, Option.some.injEq, forall_eq']
  refine fun hmem => ?_
  simp only [List.mem_cons, List.not_mem_nil, or_false] at hmem
  rcases hmem with rfl | rfl | rfl <;> exact absurd hc (by decide)

/-! ## Atoms -/

theorem readEnclosed_eq_none {opening closing : Char} (h : ∀ d ∈ s.head?, d ≠ opening) :
    readEnclosed inner opening closing s = none := by
  rw [readEnclosed, char_eq_none h]
  rfl

/-- What begins with no bracket is no group. -/
theorem readAtom_eq (h : ∀ d ∈ s.head?, d ≠ '(' ∧ d ≠ '[') : readAtom inner s =
    (readRange.orElse (readLiteral.orElse (readPattern.orElse readReference))) s := by
  rw [readAtom, orElse_of_eq_none (readEnclosed_eq_none fun d hd => (h d hd).1),
    orElse_of_eq_none]
  rw [readEnclosed_eq_none fun d hd => (h d hd).2]
  rfl

theorem readRange_eq_none (h : ∀ d ∈ s.head?, d ≠ '"') : readRange s = none := by
  rw [readRange, readString_eq_none h]
  rfl

theorem readLiteral_eq_none (h : ∀ d ∈ s.head?, d ≠ '"') : readLiteral s = none := by
  rw [readLiteral, readString_eq_none h]
  rfl

theorem readPattern_eq_none (h : ∀ d ∈ s.head?, d ≠ '/') : readPattern s = none := by
  rw [readPattern, char_eq_none h]
  rfl

theorem readCaseFlag_append (anyCase : Bool) (h : ∀ c ∈ rest.head?, isNameChar c = false) :
    readCaseFlag ((if anyCase then ['i'] else []) ++ rest) = (anyCase, rest) := by
  have hflag : (rest.head?.map isNameChar).getD false = false := by
    cases rest with
    | nil => rfl
    | cons c rest => simpa using h c rfl
  cases anyCase with
  | true => simp [readCaseFlag, hflag]
  | false =>
    rw [if_neg Bool.false_ne_true, List.nil_append]
    unfold readCaseFlag
    split
    · exact absurd (h _ rfl) (by decide)
    · rfl

/-- Between a literal and its flag no range goes on. -/
theorem skipBlanks_caseFlag (anyCase : Bool) (h : EndsAtom rest) :
    ∀ c ∈ (skipBlanks ((if anyCase then ['i'] else []) ++ rest)).head?, c ≠ '.' := by
  cases anyCase with
  | true =>
    rintro c hc
    obtain rfl := Option.some.inj hc
    decide
  | false => exact fun c hc => (h.next c hc).1

theorem readAtom_literal (value : String) (anyCase : Bool) (h : EndsAtom rest) :
    readAtom inner ((Expr.literal value anyCase).text ++ rest) =
      some (.literal value anyCase, rest) := by
  have htext : (Expr.literal value anyCase).text ++ rest =
      quotedText value.toList ++ ((if anyCase then ['i'] else []) ++ rest) := by
    rw [Expr.text, List.append_assoc]
  have hrange : readRange (quotedText value.toList ++ ((if anyCase then ['i'] else []) ++ rest)) =
      none := by
    have hpoint := spaced_word_eq_none (w := ['.']) (skipBlanks_caseFlag anyCase h)
    simp only [readRange, readString_quotedText, Option.bind_some, hpoint, Option.bind_none]
  rw [htext, readAtom_eq (by simp [quotedText]), orElse_of_eq_none hrange]
  refine orElse_of_eq_some ?_
  simp [readLiteral, readString_quotedText, readCaseFlag_append anyCase h.head]

theorem readAtom_range {first last : Char} (h : first ≤ last) :
    readAtom inner ((Expr.range first last).text ++ rest) = some (.range first last, rest) := by
  have htext : (Expr.range first last).text ++ rest =
      quotedText [first] ++ (['.', '.'] ++ (quotedText [last] ++ rest)) := by
    simp [Expr.text]
  have hpoints : spaced (word ['.', '.']) (['.', '.'] ++ (quotedText [last] ++ rest)) =
      some ((), quotedText [last] ++ rest) :=
    spaced_word (t := quotedText [last] ++ rest) rfl
  rw [htext, readAtom_eq (by simp [quotedText])]
  refine orElse_of_eq_some ?_
  simp only [readRange, readString_quotedText, Option.bind_some, hpoints, if_pos h]

theorem isNameChar_of_isFlag (h : isFlag c = true) : isNameChar c = true := by
  have hall : ['i', 'm', 's', 'x', 'l', 'u'].all isNameChar = true := by decide
  exact List.all_eq_true.mp hall c (List.contains_iff_mem.mp h)

theorem readAtom_pattern {source flags : String} (hne : source.toList ≠ [])
    (hsource : Unescaped source.toList) (hflags : ∀ c ∈ flags.toList, isFlag c = true)
    (h : EndsAtom rest) : readAtom inner ((Expr.pattern source flags).text ++ rest) =
      some (.pattern source flags, rest) := by
  have htext : (Expr.pattern source flags).text ++ rest =
      '/' :: (source.toList.flatMap escapeSlash ++ '/' :: (flags.toList ++ rest)) := by
    simp [Expr.text, patternText]
  have hstop : ∀ c ∈ rest.head?, isFlag c = false := fun c hc =>
    Bool.eq_false_iff.mpr fun hflag => by
      have hname := isNameChar_of_isFlag hflag
      rw [h.head c hc] at hname
      cases hname
  rw [htext, readAtom_eq (by simp), orElse_of_eq_none (readRange_eq_none (by simp)),
    orElse_of_eq_none (readLiteral_eq_none (by simp))]
  refine orElse_of_eq_some ?_
  simp only [readPattern, char_cons, Option.bind_some, readPatternBody_append hsource,
    takeWhile_append_stop hflags hstop, dropWhile_append_stop hflags hstop]
  simp [hne]

theorem readAtom_name {symbol : String} (hname : isName symbol.toList = true) (h : EndsAtom rest) :
    readAtom inner ((Expr.name symbol).text ++ rest) = some (.name symbol, rest) := by
  obtain ⟨c, t, ht, hc⟩ := exists_of_isName hname
  have hhead : ∀ d ∈ (symbol.toList ++ rest).head?, isNameStart d = true := by
    rw [ht]
    simpa using hc
  have hne : ∀ d ∈ (symbol.toList ++ rest).head?, ∀ d', isNameStart d' = false → d ≠ d' := by
    rintro d hd d' hd' rfl
    rw [hhead d hd] at hd'
    cases hd'
  have hcolon : (skipBlanks rest).head? ≠ some ':' := fun hd => (h.next ':' hd).2 rfl
  rw [Expr.text, readAtom_eq fun d hd => ⟨hne d hd _ (by decide), hne d hd _ (by decide)⟩,
    orElse_of_eq_none (readRange_eq_none fun d hd => hne d hd _ (by decide)),
    orElse_of_eq_none (readLiteral_eq_none fun d hd => hne d hd _ (by decide)),
    orElse_of_eq_none (readPattern_eq_none fun d hd => hne d hd _ (by decide)), readReference,
    readName_append hname h.head]
  simp [hcolon]

/-- An expression in brackets, whatever follows it. -/
theorem readAtom_bracketed (h : e.isNormal = true)
    (hread : ∀ rest, Closes [')'] rest → inner (e.text ++ rest) = some (e, rest))
    (rest : List Char) : readAtom inner (Expr.bracketed e.text ++ rest) = some (e, rest) := by
  have hclosing : skipBlanks (')' :: rest) = ')' :: rest := rfl
  have hstart : skipBlanks (e.text ++ ')' :: rest) = e.text ++ ')' :: rest := by
    refine skipBlanks_eq_self fun c hc => ?_
    cases htext : e.text with
    | nil =>
      rw [htext] at hc
      obtain rfl := Option.some.inj hc
      decide
    | cons d t =>
      rw [htext] at hc
      obtain rfl := Option.some.inj hc
      exact not_isBlankChar_of_isItemStart
        (Expr.isItemStart_of_mem_head?_text h d (by rw [htext]; rfl))
  have htext : Expr.bracketed e.text ++ rest = '(' :: (e.text ++ ')' :: rest) := by
    simp [Expr.bracketed]
  rw [htext, readAtom]
  refine orElse_of_eq_some ?_
  simp only [readEnclosed, char_cons, Option.bind_some, spaced, hstart,
    hread _ (closes_cons (List.mem_singleton.mpr rfl) (by decide) rest), Option.map_some, hclosing]

/-! ## Items -/

theorem endsAtom_repetitionText (least : Nat) (most : Option Nat) (rest : List Char) :
    EndsAtom (repetitionText least most ++ rest) := by
  obtain ⟨c, t, ht, hc⟩ : ∃ c t, repetitionText least most = c :: t ∧ c ∈ ['?', '*', '+', '~'] := by
    unfold repetitionText
    split <;> exact ⟨_, _, rfl, by decide⟩
  obtain ⟨hname, hblank, hnext⟩ :
      isNameChar c = false ∧ isBlankChar c = false ∧ c ≠ '.' ∧ c ≠ ':' := by
    simp only [List.mem_cons, List.not_mem_nil, or_false] at hc
    rcases hc with rfl | rfl | rfl | rfl <;> decide
  rw [ht, List.cons_append]
  refine ⟨by simpa using hname, ?_⟩
  rw [skipBlanks_cons hblank]
  simpa using hnext

/-- An expression inside others is read, whatever does not go on with it. -/
def ReadsItem (inner : Reader Expr) (e : Expr) : Prop :=
  ∀ rest, EndsItem rest → readItem inner (e.itemText ++ rest) = some (e, rest)

theorem readItem_of_readAtom {text : List Char}
    (h : readAtom inner (text ++ rest) = some (e, rest)) (hrest : EndsItem rest) :
    readItem inner (text ++ rest) = some (e, rest) := by
  simp only [readItem, h, readRepetition_eq_none hrest, Option.map_some]

theorem readItem_rep {least : Nat} {most : Option Nat} (hbounds : isRepetition least most = true)
    (hbody : ∀ rest, EndsAtom rest → readAtom inner (body.atomText ++ rest) = some (body, rest))
    (hrest : EndsItem rest) :
    readItem inner ((Expr.rep body least most).text ++ rest) =
      some (.rep body least most, rest) := by
  have hread := hbody _ (endsAtom_repetitionText least most rest)
  rw [Expr.text_rep, List.append_assoc]
  simp only [readItem, hread, readRepetition_append hbounds hrest, Option.map_some]

/-- No item begins where an alternative ends. -/
theorem readItem_eq_none (h : ∀ c ∈ s.head?, c ∈ ['|', ')']) : readItem inner s = none := by
  have hne : ∀ c ∈ s.head?, ∀ d, d ∉ ['|', ')'] → c ≠ d := by
    rintro c hc d hd rfl
    exact hd (h c hc)
  have hname : readName s = none := by
    rw [readName, readNameChars_eq_none fun c hc => ?_]
    · rfl
    · have hmark := h c hc
      simp only [List.mem_cons, List.not_mem_nil, or_false] at hmark
      rcases hmark with rfl | rfl <;> decide
  have hatom : readAtom inner s = none := by
    rw [readAtom_eq fun c hc => ⟨hne c hc _ (by decide), hne c hc _ (by decide)⟩,
      orElse_of_eq_none (readRange_eq_none fun c hc => hne c hc _ (by decide)),
      orElse_of_eq_none (readLiteral_eq_none fun c hc => hne c hc _ (by decide)),
      orElse_of_eq_none (readPattern_eq_none fun c hc => hne c hc _ (by decide)), readReference,
      hname]
    rfl
  rw [readItem, hatom]
  rfl

/-! ## Sequences and choices -/

/-- Items with spaces between them are read one after the other, up to where an alternative
ends. -/
theorem readAlternative_append (hes : ∀ e ∈ es, e.isNormal = true)
    (hread : ∀ e ∈ es, ReadsItem inner e) (hrest : Closes ['|', ')'] rest) :
    readAlternative inner (joinWith [' '] (es.map Expr.itemText) ++ rest) =
      some (sequenceOf es, rest) := by
  have hstop : readItem inner (skipBlanks rest) = none := readItem_eq_none hrest.next
  have hmany : many (fun t => readItem inner (skipBlanks t))
      (joinWith [' '] (es.map Expr.itemText) ++ rest) = (es, rest) := by
    cases es with
    | nil => exact many_of_eq_none hstop
    | cons e es =>
      rw [List.forall_mem_cons] at hes hread
      have hbehind : many (fun t => readItem inner (skipBlanks t))
          (es.flatMap (fun e => [' '] ++ e.itemText) ++ rest) = (es, rest) := by
        refine many_flatMap (P := EndsItem) (fun e he t ht => ?_) (fun e _ => List.cons_ne_nil _ _)
          (fun e he t => endsItem_space (hes.2 e he) t) hrest.endsItem hstop
        rw [List.append_assoc, List.singleton_append, skipBlanks_space,
          Expr.skipBlanks_itemText (hes.2 e he)]
        exact hread.2 e he t ht
      have hends : EndsItem (es.flatMap (fun e => [' '] ++ e.itemText) ++ rest) :=
        follows_flatMap (fun e he t => endsItem_space (hes.2 e he) t) hrest.endsItem
      have hfirst : readItem inner (skipBlanks (e.itemText ++
          (es.flatMap (fun e => [' '] ++ e.itemText) ++ rest))) =
            some (e, es.flatMap (fun e => [' '] ++ e.itemText) ++ rest) := by
        rw [Expr.skipBlanks_itemText hes.1]
        exact hread.1 _ hends
      obtain ⟨c, t, ht, -⟩ := Expr.exists_itemText hes.1
      have hlt : ∀ u : List Char, u.length < (e.itemText ++ u).length := fun u => by
        rw [ht, List.length_append, List.length_cons]
        omega
      rw [List.map_cons, joinWith_cons, List.flatMap_map, List.append_assoc,
        many_of_eq_some (p := fun t => readItem inner (skipBlanks t)) hfirst (hlt _), hbehind]
  have harrow : spaced (word ['-', '>']) rest = none := spaced_word_eq_none fun c hc => by
    rintro rfl
    exact absurd (hrest.next _ hc) (by decide)
  simp only [readAlternative, hmany, harrow, Option.bind_none]

theorem readAlternative_item (he : e.isNormal = true) (hread : ReadsItem inner e)
    (hrest : Closes ['|', ')'] rest) :
    readAlternative inner (e.itemText ++ rest) = some (e, rest) := by
  have hes : ∀ e' ∈ [e], e'.isNormal = true := by simpa using he
  have h := readAlternative_append hes (by simpa using hread) hrest
  rwa [List.map_singleton, joinWith_cons, List.flatMap_nil, List.append_nil] at h

theorem sequenceOf_eq_seq (h : es.length ≠ 1) : sequenceOf es = .seq es := by
  unfold sequenceOf
  split
  · exact absurd rfl h
  · rfl

theorem choiceOf_eq_alt (h : es.length ≠ 1) : choiceOf es = .alt es := by
  unfold choiceOf
  split
  · exact absurd rfl h
  · rfl

/-- An expression alone is a choice without others. -/
theorem readChoice_of_readAlternative (h : readAlternative inner s = some (e, rest))
    (hrest : Closes [')'] rest) : readChoice inner s = some (e, rest) := by
  have hbar : spaced (char '|') rest = none := spaced_char_eq_none fun c hc => by
    rintro rfl
    exact absurd (hrest.next _ hc) (by decide)
  rw [readChoice, sepBy1_of_eq_some h, many_of_eq_none (behind_eq_none hbar)]
  rfl

/-- Options with bars between them are read one after the other. -/
theorem readChoice_append (hne : es ≠ []) (hes : ∀ e ∈ es, e.isNormal = true)
    (hread : ∀ e ∈ es, ReadsItem inner e) (hrest : Closes [')'] rest) :
    readChoice inner (joinWith [' ', '|', ' '] (es.map Expr.itemText) ++ rest) =
      some (choiceOf es, rest) := by
  have hskip : ∀ e ∈ es, ∀ t, spaced (char '|') ([' ', '|', ' '] ++ (e.itemText ++ t)) =
      some ((), e.itemText ++ t) := fun e he t =>
    (spaced_char (t := ' ' :: (e.itemText ++ t)) rfl).trans
      (by rw [skipBlanks_space, Expr.skipBlanks_itemText (hes e he)])
  have hbar : ∀ s, Closes ['|', ')'] ([' ', '|', ' '] ++ s) := fun s =>
    ⟨by simp [isBlankChar], fun c hc => by
      obtain rfl := Option.some.inj hc
      decide⟩
  have hstop : spaced (char '|') rest = none := spaced_char_eq_none fun c hc => by
    rintro rfl
    exact absurd (hrest.next _ hc) (by decide)
  rw [readChoice, sepBy1_joinWith hne (List.cons_ne_nil _ _)
    (fun e he t ht => readAlternative_item (hes e he) (hread e he) ht) hskip hbar
    (hrest.mono (by simp)) hstop]
  rfl

/-! ## Expressions -/

/-- At any depth that its brackets fit in, an expression is read inside others and where it is
repeated. -/
structure Expr.IsRead (e : Expr) : Prop where
  atom : ∀ depth, e.atomText.length ≤ depth → ∀ rest, EndsAtom rest →
    readAtom (readExprAt depth) (e.atomText ++ rest) = some (e, rest)
  item : ∀ depth, e.itemText.length ≤ depth → ReadsItem (readExprAt depth) e

/-- What is read of an expression inside others, or of its parts, gives the expression. -/
theorem readExprAt_of_isRead (h : e.isNormal = true)
    (hitem : e.isGroup = false →
      ∀ depth, e.itemText.length ≤ depth → ReadsItem (readExprAt depth) e)
    (hparts : ∀ parts, e = .seq parts ∨ e = .alt parts → ∀ p ∈ parts, p.IsRead)
    (hdepth : e.text.length < depth) (hrest : Closes [')'] rest) :
    readExprAt depth (e.text ++ rest) = some (e, rest) := by
  obtain ⟨depth, rfl⟩ : ∃ n, depth = n + 1 := ⟨depth - 1, by omega⟩
  have hcloses : Closes ['|', ')'] rest := hrest.mono (by simp)
  have hsingle : e.isGroup = false → readExprAt (depth + 1) (e.text ++ rest) = some (e, rest) := by
    intro hgroup
    rw [← Expr.itemText_of_not_isGroup hgroup] at hdepth ⊢
    exact readChoice_of_readAlternative (readAlternative_item h
      (hitem hgroup depth (Nat.le_of_lt_succ hdepth)) hcloses) hrest
  have hinside : ∀ sep (parts : List Expr), e.text = joinWith sep (parts.map Expr.itemText) →
      (∀ p ∈ parts, p.IsRead) → ∀ p ∈ parts, ReadsItem (readExprAt depth) p := by
    intro sep parts htext hparts p hp
    have hle : p.itemText.length ≤ e.text.length := by
      rw [htext]
      exact length_le_length_joinWith (List.mem_map_of_mem hp)
    exact (hparts p hp).item depth (by omega)
  cases e with
  | seq parts =>
    rw [Expr.isNormal, Bool.and_eq_true, bne_iff_ne] at h
    have hread := readAlternative_append (Expr.areNormal_iff.mp h.2)
      (hinside _ parts (Expr.text_seq parts) (hparts parts (Or.inl rfl))) hcloses
    rw [sequenceOf_eq_seq h.1] at hread
    rw [Expr.text_seq]
    exact readChoice_of_readAlternative hread hrest
  | alt options =>
    rw [Expr.isNormal, Bool.and_eq_true, decide_eq_true_eq] at h
    have hne : options ≠ [] := by
      rintro rfl
      exact absurd h.1 (by decide)
    have hread := readChoice_append hne (Expr.areNormal_iff.mp h.2)
      (hinside _ options (Expr.text_alt options) (hparts options (Or.inr rfl))) hrest
    rw [choiceOf_eq_alt (by omega)] at hread
    rw [Expr.text_alt]
    exact hread
  | _ => exact hsingle rfl

theorem length_bracketed (s : List Char) : (Expr.bracketed s).length = s.length + 2 := by
  simp [Expr.bracketed]

theorem isRead_of_readAtom (hgroup : e.isGroup = false) (hrepeated : e.isRepeated = false)
    (hread : ∀ inner rest, EndsAtom rest → readAtom inner (e.text ++ rest) = some (e, rest)) :
    e.IsRead := by
  have hatom : e.atomText = e.text := by simp [Expr.atomText, hgroup, hrepeated]
  refine ⟨fun depth _ rest hrest => hatom ▸ hread _ rest hrest, fun depth _ rest hrest => ?_⟩
  rw [Expr.itemText_of_not_isGroup hgroup]
  exact readItem_of_readAtom (hread _ rest hrest.endsAtom) hrest

theorem isRead_of_isGroup (h : e.isNormal = true) (hgroup : e.isGroup = true)
    (hparts : ∀ parts, e = .seq parts ∨ e = .alt parts → ∀ p ∈ parts, p.IsRead) : e.IsRead := by
  have hatom : e.atomText = Expr.bracketed e.text := by simp [Expr.atomText, hgroup]
  have hread : ∀ depth, (Expr.bracketed e.text).length ≤ depth → ∀ rest,
      readAtom (readExprAt depth) (Expr.bracketed e.text ++ rest) = some (e, rest) := by
    intro depth hdepth
    rw [length_bracketed] at hdepth
    refine readAtom_bracketed h fun rest hrest => readExprAt_of_isRead h (fun hnot => ?_) hparts
      (by omega) hrest
    rw [hgroup] at hnot
    cases hnot
  refine ⟨fun depth hdepth rest _ => ?_, fun depth hdepth rest hrest => ?_⟩
  · rw [hatom] at hdepth ⊢
    exact hread depth hdepth rest
  · rw [Expr.itemText_of_isGroup hgroup] at hdepth ⊢
    exact readItem_of_readAtom (hread depth hdepth rest) hrest

theorem isRead_rep {least : Nat} {most : Option Nat}
    (h : (Expr.rep body least most).isNormal = true) (hbody : body.IsRead) :
    (Expr.rep body least most).IsRead := by
  have hitem : ∀ depth, (Expr.rep body least most).itemText.length ≤ depth →
      ReadsItem (readExprAt depth) (.rep body least most) := by
    intro depth hdepth rest hrest
    rw [Expr.itemText_of_not_isGroup rfl] at hdepth ⊢
    rw [Expr.text_rep, List.length_append] at hdepth
    rw [Expr.isNormal, Bool.and_eq_true] at h
    exact readItem_rep h.1 (hbody.atom depth (by omega)) hrest
  refine ⟨fun depth hdepth rest _ => ?_, hitem⟩
  have hatom : (Expr.rep body least most).atomText =
      Expr.bracketed (Expr.rep body least most).text := rfl
  rw [hatom] at hdepth ⊢
  rw [length_bracketed] at hdepth
  exact readAtom_bracketed h (fun rest hrest => readExprAt_of_isRead h (fun _ => hitem)
    (fun parts hparts => by rcases hparts with heq | heq <;> cases heq) (by omega) hrest) rest

namespace Expr

mutual

/-- What is written for an expression is read as it. -/
theorem isRead : ∀ e : Expr, e.isNormal = true → e.IsRead
  | .literal value anyCase, _ =>
    isRead_of_readAtom rfl rfl fun _ _ => readAtom_literal value anyCase
  | .pattern source flags, h => by
    simp only [isNormal, Bool.and_eq_true, Bool.not_eq_true', List.isEmpty_eq_false_iff] at h
    obtain ⟨⟨⟨hne, hsource⟩, -⟩, hflags⟩ := h
    exact isRead_of_readAtom rfl rfl fun _ _ =>
      readAtom_pattern hne (unescaped_of_isUnescaped hsource) (List.all_eq_true.mp hflags)
  | .range first last, h =>
    isRead_of_readAtom rfl rfl fun _ _ _ =>
      readAtom_range (of_decide_eq_true (by rwa [isNormal] at h))
  | .name symbol, h =>
    isRead_of_readAtom rfl rfl fun _ _ => readAtom_name (by rwa [isNormal] at h)
  | .seq parts, h => by
    refine isRead_of_isGroup h rfl fun parts' hparts => ?_
    obtain rfl : parts = parts' := by simpa using hparts
    rw [isNormal, Bool.and_eq_true] at h
    exact areRead parts h.2
  | .alt options, h => by
    refine isRead_of_isGroup h rfl fun options' hoptions => ?_
    obtain rfl : options = options' := by simpa using hoptions
    rw [isNormal, Bool.and_eq_true] at h
    exact areRead options h.2
  | .rep body least most, h => by
    refine isRead_rep h (isRead body ?_)
    rw [isNormal, Bool.and_eq_true] at h
    exact h.2

theorem areRead : ∀ es : List Expr, areNormal es = true → ∀ e ∈ es, e.IsRead
  | [], _ => by simp
  | e :: es, h => by
    rw [areNormal, Bool.and_eq_true] at h
    exact List.forall_mem_cons.mpr ⟨isRead e h.1, areRead es h.2⟩

end

end Expr

/-- An expression is read off what is written for it. -/
theorem readExpr_text (h : e.isNormal = true) (hrest : Closes [')'] rest) :
    readExpr (e.text ++ rest) = some (e, rest) := by
  refine readExprAt_of_isRead h (fun _ => (e.isRead h).item) (fun parts hparts => ?_)
    (by rw [List.length_append]; omega) hrest
  rcases hparts with rfl | rfl <;> rw [Expr.isNormal, Bool.and_eq_true] at h <;>
    exact Expr.areRead parts h.2

end QueryGate.Ebnf
