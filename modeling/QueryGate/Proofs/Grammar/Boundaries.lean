import QueryGate.Proofs.Grammar.Reserved

/-!
# Quoted words in a derivation

A quoted word ends where a word does : no letter, number or low line follows it. What stands in
front of it is nowhere looked at. `Grammar.boundaries_of_parses` says, for every derivation of every
compiled grammar, what may stand there if it is a character of a word : text that is passed over, or
the end of a terminal that is no quoted word and touches it.

The leaves of a derivation follow one another with only ignored text between them
(`Grammar.Yields.follows`), and two quoted words cannot touch, because the letters of a quoted word
are spelled with characters of words (`Regex.isWordChar_of_mem_caseOrbit`).
-/

namespace QueryGate

open Ebnf Text

namespace Regex

variable {anyCase : Bool} {s tok : List Char}

/-- The spelling of a word begins with a character of words. -/
theorem Spells.isWordChar_head (h : Spells anyCase s tok) (hs : isWord s = true) :
    tok.head?.any isWordChar = true := by
  cases h with
  | nil => cases hs
  | @cons d c s tok hhead _ =>
    have hd : isWordChar d = true := by
      simp only [isWord, Bool.and_eq_true, Bool.or_eq_true] at hs
      rcases hs.1 with hd | hd
      · simp [isWordChar, isAlphanumeric, hd]
      · simp [isWordChar, hd]
    have hc := mem_literalClass_iff.mp hhead
    unfold spellings at hc
    split_ifs at hc
    · exact isWordChar_of_mem_caseOrbit hc hd
    · rw [List.mem_singleton.mp hc]
      exact hd

end Regex

namespace Grammar

variable {g : Grammar} {source root : String} {text : List Char} {ss : List Symbol} {i j k : Nat}
  {l : Leaf} {ls ls' front back : List Leaf} {x : Lexeme}

/-! ## Leaves one after the other -/

/-- From one offset to another, every leaf begins where the ignored text behind the one before it
ends. -/
inductive Follows (g : Grammar) (text : List Char) : Nat → List Leaf → Nat → Prop
  | nil (i : Nat) : Follows g text i [] i
  | cons {i j : Nat} {l : Leaf} {ls : List Leaf} (hstart : l.start = g.skipOffset text i)
      (hs : Follows g text l.stop ls j) : Follows g text i (l :: ls) j

theorem Follows.append (h : g.Follows text i ls k) (h' : g.Follows text k ls' j) :
    g.Follows text i (ls ++ ls') j := by
  induction h with
  | nil => exact h'
  | cons hstart _ ih => exact .cons hstart (ih h')

theorem Yields.follows (h : g.Yields text ss i j ls) : g.Follows text i ls j := by
  induction h with
  | nil i => exact .nil i
  | rule _ _ _ ih ihs => exact ih.append ihs
  | terminal _ _ ihs => exact .cons rfl ihs

/-- The offset at which the last of some leaves ends. -/
def lastStop (i : Nat) (ls : List Leaf) : Nat :=
  (ls.getLast?.map (·.stop)).getD i

theorem Follows.start_eq (h : g.Follows text i (front ++ l :: back) j) :
    l.start = g.skipOffset text (lastStop i front) := by
  induction front generalizing i with
  | nil =>
    cases h with
    | cons hstart _ => exact hstart
  | cons l' front ih =>
    cases h with
    | cons _ hs =>
      rw [ih hs]
      cases front <;> simp [lastStop, List.getLast?_cons]

theorem le_skipOffset (g : Grammar) (text : List Char) (i : Nat) : i ≤ g.skipOffset text i := by
  unfold skipOffset
  split
  · exact Nat.le_refl _
  · exact Nat.le_add_right _ _

/-! ## Boundaries -/

theorem exists_literal_of_isKeyword (h : x.isKeyword = true) : ∃ value anyCase,
    x = .literal value anyCase ∧ isWord value.toList = true := by
  cases x with
  | literal value anyCase =>
    refine ⟨value, anyCase, rfl, ?_⟩
    by_contra hword
    simp [Lexeme.isKeyword, Lexeme.keyword?, hword] at h
  | _ => cases h

/-- A quoted word in a derivation of a text is followed by no character of words. If one stands in
front of it, then it is ignored there, or a leaf ends there that is no quoted word. -/
theorem boundaries_of_parses (h : compile source root = .ok g)
    (hparses : g.Parses text (front ++ l :: back)) (hx : g.lexemeOf? l.terminal = some x)
    (hkeyword : x.isKeyword = true) :
    ∃ before word after, text = before ++ (word ++ after) ∧ byteLength before = l.start ∧
      byteLength (before ++ word) = l.stop ∧ (∀ c ∈ after.head?, isWordChar c = false) ∧
      ∀ c ∈ before.getLast?, isWordChar c = true → lastStop 0 front < l.start ∨
        ∃ l' ∈ front.getLast?, l'.stop = l.start ∧
          ∃ y, g.lexemeOf? l'.terminal = some y ∧ y.isKeyword = false := by
  obtain ⟨p, hyields, -⟩ := hparses
  obtain ⟨value, anyCase, rfl, hvalue⟩ := exists_literal_of_isKeyword hkeyword
  obtain ⟨before, word, after, htext, hbefore, hstop, hword⟩ :=
    hyields.exists_word l (by simp)
  obtain ⟨hspells, hafter⟩ := spells_of_compile h hx hword
  refine ⟨before, word, after, htext, hbefore, hstop, ?_, fun c hc _ => ?_⟩
  · intro c hc
    simpa [Option.mem_def.mp hc] using hafter hkeyword
  have hstart := hyields.follows.start_eq
  rcases Nat.lt_or_eq_of_le (hstart ▸ le_skipOffset g text (lastStop 0 front)) with hlt | htouch
  · exact Or.inl hlt
  -- nothing is passed over, so a leaf ends where the word begins
  refine Or.inr ?_
  rcases List.eq_nil_or_concat' front with rfl | ⟨front', l', rfl⟩
  · have hnil : before = [] := byteLength_eq_zero_iff.mp (hbefore.trans htouch.symm)
    simp [hnil] at hc
  have htouch' : l'.stop = l.start := by simpa [lastStop] using htouch
  obtain ⟨before', word', after', htext', -, hstop', hword'⟩ := hyields.exists_word l' (by simp)
  obtain ⟨y, hy⟩ := exists_lexemeOf?_of_take? hword'
  refine ⟨l', by simp, htouch', y, hy, ?_⟩
  -- a quoted word there would be followed by the first letter of this one
  by_contra hkeyword'
  rw [Bool.not_eq_false] at hkeyword'
  obtain ⟨value', anyCase', rfl, -⟩ := exists_literal_of_isKeyword hkeyword'
  have hbytes : byteLength (before' ++ word') = byteLength before := by
    rw [hstop', htouch', hbefore]
  have hsplit : (before' ++ word') ++ after' = before ++ (word ++ after) := by
    rw [List.append_assoc, ← htext', htext]
  have hrest : after' = word ++ after := by
    rw [eq_of_byteLength_eq hsplit hbytes] at hsplit
    exact List.append_cancel_left hsplit
  have hnot := (spells_of_compile h hy hword').2 hkeyword'
  have hhead := hspells.isWordChar_head hvalue
  rw [hrest, List.head?_append_of_ne_nil _ (isPrefix_of_take? hword).2] at hnot
  rw [hnot] at hhead
  cases hhead

/-- A number and a word, and no white space. -/
def gluedSource : String := "start: INT \"from\"\nINT: /[0-9]+/\n"

theorem exists_parses_glued : ∃ g : Grammar, compile gluedSource "start" = .ok g ∧
    g.lexemeOf? 0 = some (.named "INT") ∧ g.lexemeOf? 1 = some (.literal "from" false) ∧
      g.Parses "1from".toList [⟨0, 0, 1⟩, ⟨1, 1, 5⟩] := by
  have hruns : (compile gluedSource "start").toOption.any (fun g : Grammar =>
      g.lexemeOf? 0 = some (.named "INT") ∧ g.lexemeOf? 1 = some (.literal "from" false) ∧
        (⟨g.root, [.terminal 0, .terminal 1]⟩ : Production) ∈ g.productions ∧
        g.skipOffset "1from".toList 0 = 0 ∧ g.matchTerminal? 0 "1from".toList 0 = some 1 ∧
        g.skipOffset "1from".toList 1 = 1 ∧ g.matchTerminal? 1 "1from".toList 1 = some 5 ∧
        g.skipOffset "1from".toList 5 = byteLength "1from".toList) = true := by decide +kernel
  obtain ⟨g, h, hint, hfrom, hp, hskip, hnumber, hskip', hword, hend⟩ := exists_ok_of_any hruns
  have htakes : g.Takes "1from".toList 0 0 1 := by rwa [Takes, hskip]
  have htakes' : g.Takes "1from".toList 1 1 5 := by rwa [Takes, hskip']
  have hyields := Yields.rule hp (.terminal htakes (.terminal htakes' (.nil 5))) (.nil 5)
  rw [hskip, hskip'] at hyields
  exact ⟨g, h, hint, hfrom, 5, hyields, hend⟩

/-- A text is accepted in which a digit stands directly in front of the word. -/
theorem exists_accepted_glued : ∃ g front l back before c word after,
    compile gluedSource "start" = .ok g ∧ (recognize g "1from".toList).accepted = true ∧
      g.Parses "1from".toList (front ++ l :: back) ∧
      (g.lexemeOf? l.terminal).any Lexeme.isKeyword = true ∧
      "1from".toList = before ++ [c] ++ (word ++ after) ∧ byteLength (before ++ [c]) = l.start ∧
      byteLength (before ++ [c] ++ word) = l.stop ∧ isWordChar c = true := by
  obtain ⟨g, h, -, hfrom, hparses⟩ := exists_parses_glued
  refine ⟨g, [⟨0, 0, 1⟩], ⟨1, 1, 5⟩, [], [], '1', "from".toList, [], h, ?_, hparses, ?_, rfl,
    by decide, by decide, by decide⟩
  · exact (wellFormed_of_compile h).recognize_accepted_iff_parses.mpr ⟨_, hparses⟩
  · rw [hfrom]
    decide

theorem boundaries_of_parses_glued : ∃ g : Grammar, compile gluedSource "start" = .ok g ∧
    ∃ before word after, "1from".toList = before ++ (word ++ after) ∧ byteLength before = 1 ∧
      byteLength (before ++ word) = 5 ∧ (∀ c ∈ after.head?, isWordChar c = false) ∧
      ∀ c ∈ before.getLast?, isWordChar c = true → lastStop 0 [⟨0, 0, 1⟩] < 1 ∨
        ∃ l' ∈ [(⟨0, 0, 1⟩ : Leaf)].getLast?, l'.stop = 1 ∧
          ∃ y, g.lexemeOf? l'.terminal = some y ∧ y.isKeyword = false := by
  obtain ⟨g, h, -, hfrom, hparses⟩ := exists_parses_glued
  have hparses' : g.Parses "1from".toList ([⟨0, 0, 1⟩] ++ ⟨1, 1, 5⟩ :: []) := hparses
  exact ⟨g, h, boundaries_of_parses h hparses' hfrom (by decide)⟩

end Grammar

end QueryGate
