import QueryGate.Proofs.Statement.Segments

/-!
# Texts cut into parts

`CutInto s parts` says what parts a text has without saying how they are found : where quotes, lines
and block comments end is told by the characters that do not stand in them. Every text is cut in
exactly one way (`cutInto_iff`), and taking comments away acts on the parts
(`exists_cutInto_withoutComments`).
-/

namespace QueryGate.Statement

open Text

variable {s t body : List Char} {parts : List Segment} {mark c : Char}

/-- What can stand behind a mark before the quotes are closed : no mark of the kind, unless behind a
backslash, which stands with the character behind it. -/
inductive QuotedRun (mark : Char) : List Char → Prop
  | nil : QuotedRun mark []
  | plain {c : Char} {s : List Char} (hmark : c ≠ mark) (hescape : c ≠ '\\')
      (hs : QuotedRun mark s) : QuotedRun mark (c :: s)
  | escaped {c : Char} {s : List Char} (hs : QuotedRun mark s) : QuotedRun mark ('\\' :: c :: s)

/-- What stands behind a mark if the quotes are not closed; the text can end with a backslash. -/
def IsOpenRun (mark : Char) (body : List Char) : Prop :=
  QuotedRun mark body ∨ ∃ run, QuotedRun mark run ∧ body = run ++ ['\\']

/-- The parts of a text from left to right. What nothing ends runs to the end of the text. -/
inductive CutInto : List Char → List Segment → Prop
  | nil : CutInto [] []
  | quoted {mark : Char} {body s : List Char} {parts : List Segment}
      (hmark : isQuoteMark mark = true) (hbody : QuotedRun mark body) (hs : CutInto s parts) :
      CutInto (mark :: (body ++ mark :: s)) (.quoted mark body true :: parts)
  | openQuoted {mark : Char} {body : List Char} (hmark : isQuoteMark mark = true)
      (hbody : IsOpenRun mark body) : CutInto (mark :: body) [.quoted mark body false]
  | line {body s : List Char} {parts : List Segment} (hbody : '\n' ∉ body)
      (hs : CutInto ('\n' :: s) parts) :
      CutInto (lineOpener ++ (body ++ '\n' :: s)) (.lineComment body true :: parts)
  | openLine {body : List Char} (hbody : '\n' ∉ body) :
      CutInto (lineOpener ++ body) [.lineComment body false]
  | block {body s : List Char} {parts : List Segment} (hbody : ¬['*', '/'] <:+: body)
      (hs : CutInto s parts) :
      CutInto (blockOpener ++ (body ++ '*' :: '/' :: s)) (.blockComment body true :: parts)
  | openBlock {body : List Char} (hbody : ¬['*', '/'] <:+: body) :
      CutInto (blockOpener ++ body) [.blockComment body false]
  /-- A character that begins neither quotes nor a comment. -/
  | plain {c : Char} {s : List Char} {parts : List Segment} (hquote : isQuoteMark c = false)
      (hline : ¬lineOpener <+: c :: s) (hblock : ¬blockOpener <+: c :: s) (hs : CutInto s parts) :
      CutInto (c :: s) (.plain c :: parts)

/-! ## Quotes -/

theorem QuotedRun.splitQuoted_append (h : QuotedRun mark body) (t : List Char) :
    splitQuoted mark (body ++ t) = (body ++ (splitQuoted mark t).1, (splitQuoted mark t).2) := by
  induction h with
  | nil => rfl
  | plain hc hescape _ ih =>
    rw [List.cons_append, splitQuoted_cons hescape, if_neg (by simpa using hc), ih]
    rfl
  | escaped _ ih =>
    rw [List.cons_append, List.cons_append, splitQuoted, ih]
    rfl

theorem QuotedRun.isQuotedBody (h : QuotedRun mark body) (hmark : mark ≠ '\\') :
    IsQuotedBody mark body := by
  intro t
  rw [h.splitQuoted_append, splitQuoted_cons hmark, if_pos (beq_self_eq_true mark),
    List.append_nil]

theorem IsOpenRun.splitQuoted_eq (h : IsOpenRun mark body) (hmark : mark ≠ '\\') :
    splitQuoted mark body = (body, none) := by
  rcases h with h | ⟨run, h, rfl⟩
  · simpa [splitQuoted] using h.splitQuoted_append []
  · simpa [splitQuoted, hmark.symm] using h.splitQuoted_append ['\\']

theorem quotedRun_of_splitQuoted (mark : Char) (s : List Char) :
    ((splitQuoted mark s).2.isSome = true → QuotedRun mark (splitQuoted mark s).1) ∧
      ((splitQuoted mark s).2 = none → IsOpenRun mark (splitQuoted mark s).1) := by
  fun_induction splitQuoted mark s with
  | case1 => exact ⟨fun _ => .nil, fun _ => .inl .nil⟩
  | case2 c s ih =>
    refine ⟨fun h => .escaped (ih.1 h), fun h => ?_⟩
    rcases ih.2 h with hrun | ⟨run, hrun, hbody⟩
    · exact .inl (.escaped hrun)
    · exact .inr ⟨_, .escaped hrun, by rw [hbody]; rfl⟩
  | case3 c s hescape hc => exact ⟨fun _ => .nil, fun _ => .inl .nil⟩
  | case4 c s hescape hc ih =>
    have hmark : c ≠ mark := by simpa using hc
    by_cases hback : c = '\\'
    · -- a backslash that takes nothing along ends the text
      obtain rfl : s = [] := by
        cases s with
        | nil => rfl
        | cons d s => exact (hescape d s hback rfl).elim
      exact ⟨fun h => absurd h Bool.false_ne_true, fun _ => .inr ⟨[], .nil, by rw [hback]; rfl⟩⟩
    · refine ⟨fun h => .plain hmark hback (ih.1 h), fun h => ?_⟩
      rcases ih.2 h with hrun | ⟨run, hrun, hbody⟩
      · exact .inl (.plain hmark hback hrun)
      · exact .inr ⟨_, .plain hmark hback hrun, by rw [hbody]; rfl⟩

theorem IsQuotedBody.quotedRun (h : IsQuotedBody mark body) : QuotedRun mark body := by
  have hrun := (quotedRun_of_splitQuoted mark (body ++ mark :: [])).1
  rw [h []] at hrun
  exact hrun rfl

theorem isOpenRun_of_splitQuoted (h : splitQuoted mark body = (body, none)) :
    IsOpenRun mark body := by
  have hrun := (quotedRun_of_splitQuoted mark body).2
  rw [h] at hrun
  exact hrun rfl

/-! ## Comments -/

theorem splitLine_append (h : '\n' ∉ body) (t : List Char) :
    splitLine (body ++ t) = (body ++ (splitLine t).1, (splitLine t).2) := by
  induction body with
  | nil => rfl
  | cons c body ih =>
    rw [List.mem_cons, not_or] at h
    rw [List.cons_append, splitLine, if_neg (by simpa using Ne.symm h.1), ih h.2]
    rfl

theorem newline_not_mem_splitLine (s : List Char) : '\n' ∉ (splitLine s).1 := by
  fun_induction splitLine s with
  | case1 => exact List.not_mem_nil
  | case2 c s hc => exact List.not_mem_nil
  | case3 c s hc ih =>
    rw [List.mem_cons, not_or]
    exact ⟨fun h => hc (by rw [← h]; rfl), ih⟩

/-- No end of a block comment begins in the one text and ends in the other. -/
theorem splitBlock_append (h : ¬['*', '/'] <:+: body) (ht : '/' ∉ t.head?) :
    splitBlock (body ++ t) = (body ++ (splitBlock t).1, (splitBlock t).2) := by
  induction body with
  | nil => rfl
  | cons c body ih =>
    rw [List.infix_cons_iff, not_or, pair_prefix_cons_iff] at h
    have hnext : c = '*' → '/' ∉ (body ++ t).head? := by
      rintro rfl
      cases body with
      | nil => exact ht
      | cons d body => exact fun hd => h.1 ⟨rfl, hd⟩
    rw [List.cons_append, splitBlock_cons hnext, ih h.2]
    rfl

theorem isPrefix_splitBlock (s : List Char) : (splitBlock s).1 <+: s := by
  rcases splitBlock_cases s with ⟨body, rest, h, rfl, -⟩ | h
  · rw [h]
    exact List.prefix_append ..
  · have hall : (splitBlock s).1 = s := congrArg Prod.fst h
    exact ⟨[], by rw [hall, List.append_nil]⟩

theorem not_isInfix_splitBlock (s : List Char) : ¬['*', '/'] <:+: (splitBlock s).1 := by
  fun_induction splitBlock s with
  | case1 => simp
  | case2 s => simp
  | case3 c s hend ih =>
    rw [List.infix_cons_iff, not_or, pair_prefix_cons_iff]
    refine ⟨?_, ih⟩
    rintro ⟨rfl, hslash⟩
    have hnext := mem_head?_of_isPrefix (isPrefix_splitBlock s) hslash
    obtain ⟨t, rfl⟩ := List.head?_eq_some_iff.mp hnext
    exact hend t rfl rfl

theorem IsLineBody.newline_not_mem (h : IsLineBody body) : '\n' ∉ body := by
  have hbody := newline_not_mem_splitLine (body ++ '\n' :: [])
  rwa [h []] at hbody

theorem IsBlockBody.not_isInfix (h : IsBlockBody body) : ¬['*', '/'] <:+: body := by
  have hbody := not_isInfix_splitBlock (body ++ '*' :: '/' :: [])
  rwa [h []] at hbody

theorem isLineBody_of_notMem (h : '\n' ∉ body) : IsLineBody body := fun t => by
  simp [splitLine_append h, splitLine]

theorem isBlockBody_of_not_isInfix (h : ¬['*', '/'] <:+: body) : IsBlockBody body := fun t => by
  rw [splitBlock_append h (by simp), splitBlock, List.append_nil]

/-! ## The cut of a text -/

theorem cutInto_segments (s : List Char) : CutInto s (segments s) := by
  induction s using segments_induction with
  | nil =>
    rw [segments_nil]
    exact .nil
  | plain c s hc hl hb ih =>
    rw [segments_plain hc hl hb]
    exact .plain hc hl hb ih
  | quoted mark body s hmark hbody ih =>
    rw [segments_quoted hmark hbody]
    exact .quoted hmark hbody.quotedRun ih
  | openQuoted mark body hmark hbody =>
    rw [segments_openQuoted hmark hbody]
    exact .openQuoted hmark (isOpenRun_of_splitQuoted hbody)
  | line body s hbody ih =>
    rw [segments_line hbody]
    exact .line hbody.newline_not_mem ih
  | openLine body hbody =>
    have hline := newline_not_mem_splitLine body
    rw [hbody] at hline
    rw [segments_openLine hbody]
    exact .openLine hline
  | block body s hbody ih =>
    rw [segments_block hbody]
    exact .block hbody.not_isInfix ih
  | openBlock body hbody =>
    have hblock := not_isInfix_splitBlock body
    rw [hbody] at hblock
    rw [segments_openBlock hbody]
    exact .openBlock hblock

theorem CutInto.segments_eq (h : CutInto s parts) : segments s = parts := by
  induction h with
  | nil => exact segments_nil
  | quoted hmark hbody _ ih =>
    rw [segments_quoted hmark (hbody.isQuotedBody (backslash_ne_of_isQuoteMark hmark)), ih]
  | openQuoted hmark hbody =>
    exact segments_openQuoted hmark (hbody.splitQuoted_eq (backslash_ne_of_isQuoteMark hmark))
  | line hbody _ ih => rw [segments_line (isLineBody_of_notMem hbody), ih]
  | openLine hbody =>
    exact segments_openLine (by simpa [splitLine] using splitLine_append hbody [])
  | block hbody _ ih => rw [segments_block (isBlockBody_of_not_isInfix hbody), ih]
  | openBlock hbody =>
    have hopen := splitBlock_append (t := []) hbody (by simp)
    exact segments_openBlock (by simpa [splitBlock] using hopen)
  | plain hquote hline hblock _ ih => rw [segments_plain hquote hline hblock, ih]

/-- A text is cut in exactly one way. -/
theorem cutInto_iff : CutInto s parts ↔ segments s = parts :=
  ⟨CutInto.segments_eq, fun h => h ▸ cutInto_segments s⟩

theorem withoutComments_withoutComments (s : List Char) :
    withoutComments (withoutComments s) = withoutComments s :=
  withoutComments_eq_self fun _ hmark => not_occursOutside_withoutComments hmark s

/-- A text is cut in one way, and without its comments it is what is left of the parts : a space of
a block comment, nothing of a line comment, and all of everything else. Reading the whole text gives
the same where the first look finds no opener, and what is left has no comments. -/
theorem exists_cutInto_withoutComments (s : List Char) :
    (∃ parts, CutInto s parts ∧ (∀ parts', CutInto s parts' → parts' = parts) ∧
      parts.flatMap Segment.text = s ∧
      withoutComments s = (parts.flatMap Segment.left).flatMap Segment.text) ∧
    dropComments (.text .outside) s = withoutComments s ∧
    withoutComments (withoutComments s) = withoutComments s := by
  refine ⟨⟨segments s, cutInto_iff.mpr rfl, fun parts' h => (cutInto_iff.mp h).symm,
    flatMap_text_segments s, withoutComments_eq_flatMap s⟩, ?_, withoutComments_withoutComments s⟩
  exact (withoutComments_eq_dropComments s).symm

example : withoutComments "a/*/ ' */b---c\n'--\\'' /*".toList = "a b\n'--\\''  ".toList := by
  decide +kernel

end QueryGate.Statement
