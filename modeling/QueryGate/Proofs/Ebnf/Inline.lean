import QueryGate.Ebnf.Lines
import QueryGate.Proofs.Ebnf.Expressions

/-!
# Definitions on one line

Cutting off comments looks at strings and regular expressions only as far as their delimiters. What
is written for a definition is left whole by it, whatever stands behind, and stays on one line
(`Definition.isInline_text`).
-/

namespace QueryGate.Ebnf

open Text

variable {s t : List Char} {c : Char} {n : Nat}

/-- A text on one line that comments are cut off behind. -/
structure IsInline (s : List Char) : Prop where
  passes : ∀ t, beforeComment none (s ++ t) = s ++ beforeComment none t
  noFeed : '\n' ∉ s
  noReturn : s.getLast? ≠ some '\r'

/-- Characters that mean nothing to lines and comments. -/
def isPlain (c : Char) : Bool :=
  c != '"' && c != '/' && c != '\n' && c != '\r'

theorem beforeComment_cons (hquote : c ≠ '"') (hslash : c ≠ '/') (s : List Char) :
    beforeComment none (c :: s) = c :: beforeComment none s := by
  rw [beforeComment.eq_def]
  simp [hquote, hslash]

theorem beforeComment_inside {d : Char} (hescape : c ≠ '\\') (hstop : c ≠ d) (s : List Char) :
    beforeComment (some d) (c :: s) = c :: beforeComment (some d) s := by
  rw [beforeComment.eq_def]
  simp [hescape, hstop]

theorem beforeComment_escape (d e : Char) (s : List Char) :
    beforeComment (some d) ('\\' :: e :: s) = '\\' :: e :: beforeComment (some d) s := by
  rw [beforeComment.eq_def]
  simp

theorem beforeComment_close {d : Char} (hd : d ≠ '\\') (s : List Char) :
    beforeComment (some d) (d :: s) = d :: beforeComment none s := by
  rw [beforeComment.eq_def]
  simp [hd]

namespace IsInline

theorem nil : IsInline [] :=
  ⟨fun _ => rfl, List.not_mem_nil, by simp⟩

theorem append (hs : IsInline s) (ht : IsInline t) : IsInline (s ++ t) := by
  refine ⟨fun u => ?_, by simp [hs.noFeed, ht.noFeed], ?_⟩
  · rw [List.append_assoc, hs.passes, ht.passes, List.append_assoc]
  · rw [List.getLast?_append]
    cases hlast : t.getLast? with
    | none => exact hs.noReturn
    | some c =>
      rw [Option.some_or, ← hlast]
      exact ht.noReturn

theorem singleton (hc : isPlain c = true) : IsInline [c] := by
  simp only [isPlain, Bool.and_eq_true, bne_iff_ne] at hc
  obtain ⟨⟨⟨hquote, hslash⟩, hfeed⟩, hreturn⟩ := hc
  exact ⟨beforeComment_cons hquote hslash, by simpa using Ne.symm hfeed, by simpa using hreturn⟩

theorem flatMap {α : Type} {f : α → List Char} {as : List α} (h : ∀ a ∈ as, IsInline (f a)) :
    IsInline (as.flatMap f) := by
  induction as with
  | nil => exact nil
  | cons a as ih =>
    rw [List.forall_mem_cons] at h
    rw [List.flatMap_cons]
    exact h.1.append (ih h.2)

theorem of_forall (h : ∀ c ∈ s, isPlain c = true) : IsInline s := by
  rw [← List.flatMap_singleton' s]
  exact flatMap fun c hc => singleton (h c hc)

theorem of_all (h : s.all isPlain = true) : IsInline s :=
  of_forall (List.all_eq_true.mp h)

theorem joinWith {sep : List Char} {pieces : List (List Char)} (hsep : IsInline sep)
    (h : ∀ s ∈ pieces, IsInline s) : IsInline (joinWith sep pieces) := by
  cases pieces with
  | nil => exact nil
  | cons s pieces =>
    rw [List.forall_mem_cons] at h
    rw [joinWith_cons]
    exact h.1.append (flatMap fun t ht => hsep.append (h.2 t ht))

end IsInline

/-! ## Tokens -/

theorem beforeComment_quoted (s t : List Char) :
    beforeComment (some '"') (s.flatMap escape ++ '"' :: t) =
      s.flatMap escape ++ '"' :: beforeComment none t := by
  induction s with
  | nil => exact beforeComment_close (by decide) t
  | cons c s ih =>
    rw [List.flatMap_cons, List.append_assoc, List.append_assoc, ← ih]
    unfold escape
    split_ifs with hmark
    · exact beforeComment_escape _ _ _
    · exact beforeComment_escape _ _ _
    · exact beforeComment_escape _ _ _
    · exact beforeComment_escape _ _ _
    · rw [Bool.or_eq_true, beq_iff_eq, beq_iff_eq, not_or] at hmark
      exact beforeComment_inside hmark.2 hmark.1 _

theorem not_mem_escape (c : Char) : '\n' ∉ escape c := by
  unfold escape
  split_ifs with hmark hfeed htab hreturn
  · rcases Bool.or_eq_true_iff.mp hmark with h | h <;> obtain rfl := beq_iff_eq.mp h <;> decide
  · decide
  · decide
  · decide
  · simpa using Ne.symm (fun h => hfeed (beq_iff_eq.mpr h))

theorem isInline_quotedText (s : List Char) : IsInline (quotedText s) := by
  refine ⟨fun t => ?_, ?_, ?_⟩
  · have hopen (u) : beforeComment none ('"' :: u) = '"' :: beforeComment (some '"') u := by
      rw [beforeComment.eq_def]
      rfl
    rw [quotedText, List.cons_append, List.append_assoc, hopen, List.singleton_append,
      beforeComment_quoted]
    simp
  · simp only [quotedText, List.mem_cons, List.mem_append, List.mem_flatMap, not_or, not_exists]
    exact ⟨by decide, fun c hc => not_mem_escape c hc.2, by decide, List.not_mem_nil⟩
  · rw [quotedText, ← List.cons_append, List.getLast?_concat]
    decide

theorem beforeComment_pattern (hs : Unescaped s) (t : List Char) :
    beforeComment (some '/') (s.flatMap escapeSlash ++ '/' :: t) =
      s.flatMap escapeSlash ++ '/' :: beforeComment none t := by
  induction hs with
  | nil => exact beforeComment_close (by decide) t
  | @escape e s he _ ih =>
    rw [List.flatMap_cons, List.flatMap_cons, escapeSlash_of_ne he]
    exact (beforeComment_escape _ _ _).trans (congrArg ('\\' :: e :: ·) ih)
  | @cons c s hc _ ih =>
    rw [List.flatMap_cons, List.append_assoc, List.append_assoc, ← ih]
    unfold escapeSlash
    split_ifs with hslash
    · exact beforeComment_escape _ _ _
    · exact beforeComment_inside hc (by simpa using hslash) _

/-- The slash that opens a regular expression is not the first of two. -/
theorem beforeComment_slash (h : s.head? ≠ some '/') :
    beforeComment none ('/' :: s) = '/' :: beforeComment (some '/') s := by
  rw [beforeComment.eq_def]
  simp only [beq_self_eq_true, Bool.true_and, beq_iff_eq, h, if_false, Bool.or_true, if_true]

theorem head?_flatMap_escapeSlash (hne : s ≠ []) (t : List Char) :
    (s.flatMap escapeSlash ++ t).head? ≠ some '/' := by
  obtain ⟨c, s, rfl⟩ := List.exists_cons_of_ne_nil hne
  rw [List.flatMap_cons, List.append_assoc]
  unfold escapeSlash
  split_ifs with hslash
  · simp
  · simpa using hslash

theorem not_mem_escapeSlash (h : c ≠ '\n') : '\n' ∉ escapeSlash c := by
  unfold escapeSlash
  split_ifs with hslash
  · obtain rfl := beq_iff_eq.mp hslash
    decide
  · simpa using Ne.symm h

theorem isInline_patternText (hne : s ≠ []) (hs : Unescaped s) (hfeed : '\n' ∉ s) :
    IsInline (patternText s) := by
  refine ⟨fun t => ?_, ?_, ?_⟩
  · rw [patternText, List.cons_append, List.append_assoc, List.singleton_append,
      beforeComment_slash (head?_flatMap_escapeSlash hne _), beforeComment_pattern hs]
    simp
  · simp only [patternText, List.mem_cons, List.mem_append, List.mem_flatMap, not_or, not_exists]
    refine ⟨by decide, fun c hc => not_mem_escapeSlash (fun h => ?_) hc.2, by decide,
      List.not_mem_nil⟩
    exact hfeed (h ▸ hc.1)
  · rw [patternText, ← List.cons_append, List.getLast?_concat]
    decide

theorem isPlain_of_isNameChar (h : isNameChar c = true) : isPlain c = true := by
  simp only [isPlain, Bool.and_eq_true, bne_iff_ne]
  refine ⟨⟨⟨?_, ?_⟩, ?_⟩, ?_⟩ <;> rintro rfl <;> exact absurd h (by decide)

theorem isInline_name (h : isName s = true) : IsInline s :=
  .of_forall fun c hc => isPlain_of_isNameChar (isNameChar_of_isName h c hc)

theorem isInline_repetitionText (least : Nat) (most : Option Nat) :
    IsInline (repetitionText least most) := by
  have hdigits : ∀ n, IsInline (Nat.toDigits 10 n) := fun n => .of_forall fun c hc => by
    have hdigit := Nat.isDigit_of_mem_toDigits (by decide) (by decide) hc
    exact isPlain_of_isNameChar (by simp [isNameChar, Char.isAlphanum, hdigit])
  unfold repetitionText
  split
  · exact .singleton (by decide)
  · exact .singleton (by decide)
  · exact .singleton (by decide)
  · refine (IsInline.singleton (c := '~') (by decide)).append ((hdigits _).append ?_)
    split_ifs
    · exact .nil
    · exact (IsInline.of_all (s := ['.', '.']) (by decide)).append (hdigits _)

/-! ## Expressions -/

theorem isInline_bracketed (h : IsInline s) : IsInline (Expr.bracketed s) :=
  (IsInline.singleton (c := '(') (by decide)).append (h.append (.singleton (by decide)))

namespace Expr

variable {e : Expr} {es : List Expr}

theorem isInline_itemText (h : IsInline e.text) : IsInline e.itemText := by
  unfold itemText
  split_ifs
  · exact isInline_bracketed h
  · exact h

theorem isInline_atomText (h : IsInline e.text) : IsInline e.atomText := by
  unfold atomText
  split_ifs
  · exact isInline_bracketed h
  · exact h

theorem isInline_joinWith {sep : List Char} (hsep : sep.all isPlain = true)
    (h : ∀ e ∈ es, IsInline e.text) : IsInline (joinWith sep (es.map itemText)) :=
  .joinWith (.of_all hsep) (List.forall_mem_map.mpr fun e he => isInline_itemText (h e he))

mutual

/-- What is written for an expression stays on its line. -/
theorem isInline_text : ∀ e : Expr, e.isNormal = true → IsInline e.text
  | .literal value anyCase, _ => by
    rw [text]
    refine (isInline_quotedText _).append ?_
    split_ifs
    · exact .singleton (by decide)
    · exact .nil
  | .pattern source flags, h => by
    simp only [isNormal, Bool.and_eq_true, Bool.not_eq_true', List.isEmpty_eq_false_iff,
      List.all_eq_true, bne_iff_ne] at h
    obtain ⟨⟨⟨hne, hsource⟩, hfeed⟩, hflags⟩ := h
    rw [text]
    have hpattern := isInline_patternText hne (unescaped_of_isUnescaped hsource)
      fun hmem => hfeed _ hmem rfl
    have hflagsText : IsInline flags.toList := .of_forall fun c hc =>
      isPlain_of_isNameChar (isNameChar_of_isFlag (hflags c hc))
    exact hpattern.append hflagsText
  | .range first last, _ => by
    rw [text]
    exact (isInline_quotedText [first]).append
      ((IsInline.of_all (s := ['.', '.']) (by decide)).append (isInline_quotedText [last]))
  | .name symbol, h => isInline_name (by rwa [isNormal] at h)
  | .seq parts, h => by
    rw [isNormal, Bool.and_eq_true] at h
    rw [text_seq]
    exact isInline_joinWith (by decide) (areInline_text parts h.2)
  | .alt options, h => by
    rw [isNormal, Bool.and_eq_true] at h
    rw [text_alt]
    exact isInline_joinWith (by decide) (areInline_text options h.2)
  | .rep body least most, h => by
    rw [isNormal, Bool.and_eq_true] at h
    rw [text_rep]
    exact (isInline_atomText (isInline_text body h.2)).append (isInline_repetitionText least most)

theorem areInline_text : ∀ es : List Expr, areNormal es = true → ∀ e ∈ es, IsInline e.text
  | [], _ => by simp
  | e :: es, h => by
    rw [areNormal, Bool.and_eq_true] at h
    exact List.forall_mem_cons.mpr ⟨isInline_text e h.1, areInline_text es h.2⟩

end

end Expr

/-! ## Definitions -/

namespace Definition

theorem isInline_of_isDotted (h : isDotted s = true) : IsInline s := by
  rw [← joinWith_splitAt '.' s]
  exact .joinWith (.singleton (by decide)) fun t ht => isInline_name (List.all_eq_true.mp h t ht)

theorem isInline_importText {module : String} {names : List (String × String)}
    (h : isImport module names = true) : IsInline (importText module.toList names) := by
  by_cases hone : names.length = 1
  · obtain ⟨⟨own, imported⟩, rfl⟩ := List.length_eq_one_iff.mp hone
    simp only [isImport, Bool.and_eq_true, Bool.or_eq_true, List.isEmpty_iff] at h
    obtain ⟨⟨hmodule, hown⟩, himported⟩ := h
    rw [importText]
    refine (IsInline.append ?_ (isInline_name himported)).append ?_
    · split_ifs with hempty
      · exact .nil
      · rw [List.isEmpty_iff] at hempty
        exact (isInline_of_isDotted (hmodule.resolve_left hempty)).append (.singleton (by decide))
    · split_ifs
      · exact .nil
      · exact (IsInline.of_all (by decide)).append (isInline_name hown)
  · obtain ⟨own, -, hnames, -, hdotted, htext⟩ := exists_names_of_isImport h hone
    have hlist : IsInline (joinWith [',', ' '] (own.map (·.toList))) :=
      .joinWith (.of_all (by decide)) (List.forall_mem_map.mpr fun n hn =>
        isInline_name (hnames n hn))
    rw [htext]
    exact (((isInline_of_isDotted hdotted).append (.of_all (by decide))).append hlist).append
      (.singleton (by decide))

theorem isInline_directiveText {keyword : String}
    (hkeyword : keyword.toList.all isPlain = true) (hs : IsInline s) :
    IsInline (directiveText keyword s) :=
  (IsInline.of_all hkeyword).append ((IsInline.singleton (c := ' ') (by decide)).append hs)

/-- What is written for a definition stays on its line. -/
theorem isInline_text {d : Definition} (h : d.isNormal = true) : IsInline d.text := by
  cases d with
  | rule name body =>
    simp only [isNormal, Bool.and_eq_true] at h
    rw [text]
    exact ((isInline_name h.1.1).append (.of_all (by decide))).append (body.isInline_text h.2)
  | terminal name body =>
    simp only [isNormal, Bool.and_eq_true] at h
    rw [text]
    exact ((isInline_name h.1.1).append (.of_all (by decide))).append (body.isInline_text h.2)
  | imports module names =>
    rw [text]
    exact isInline_directiveText (by decide) (isInline_importText h)
  | ignore body =>
    rw [text]
    exact isInline_directiveText (by decide) (body.isInline_text h)

end Definition

end QueryGate.Ebnf
