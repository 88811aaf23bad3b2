import QueryGate.Proofs.Grammar.Leaves
import QueryGate.Proofs.Grammar.Steps
import QueryGate.Proofs.Regex.CaseOrbits

/-!
# Quoted words and the other terminals

In every compiled grammar a quoted text takes its characters, in any case where that is open
(`Grammar.spells_of_compile`), and no other terminal takes a word that is reserved. Reserved words
are compared in ASCII upper case, and a quoted word in any case also takes the other members of its
letters' case orbits. So the two keep apart as long as no letter is spelled with a character that is
not its ASCII upper or lower case (`Grammar.exists_spelling_of_shared`).
-/

namespace QueryGate

open Ebnf Text

/-! ## Spellings -/

namespace Regex

variable {anyCase : Bool} {s tok : List Char}

/-- A spelling that is not the same up to ASCII case has a character in it that is not. -/
theorem Spells.exists_of_upper_ne (h : Spells anyCase s tok) (hne : upper tok ≠ upper s) :
    ∃ p ∈ s.zip tok, p.2 ∈ spellings anyCase p.1 ∧ p.2.toUpper ≠ p.1.toUpper := by
  induction h with
  | nil => exact absurd rfl hne
  | @cons d c s tok hhead _ ih =>
    by_cases heq : c.toUpper = d.toUpper
    · obtain ⟨p, hp, hspelled⟩ := ih fun h => hne (congrArg₂ List.cons heq h)
      exact ⟨p, List.mem_cons_of_mem _ hp, hspelled⟩
    · exact ⟨(d, c), List.mem_cons_self .., mem_literalClass_iff.mp hhead, heq⟩

end Regex

/-! ## Terminals of compiled grammars -/

/-- The terminals of quoted texts match the characters of their texts. -/
def Draft.Spelled (d : Draft Regex) : Prop :=
  ∀ y ∈ d.terminals, ∀ value anyCase, y.lexeme = .literal value anyCase →
    y.regex = Regex.literalRegex value anyCase

theorem Build.preserves_spelled (x : Lexeme) (pattern : Build Regex (List Char))
    (hpattern : Writes x pattern) : Preserves Draft.Spelled (terminal x pattern) := by
  intro d s d' hd h
  rcases cases_of_terminal h with ⟨i, -, -, rfl⟩ |
    ⟨-, source, d₁, regex, hsource, hregex, -, rfl⟩
  · exact hd
  · intro y hy value anyCase hvalue
    have hsame := congrArg Draft.terminals (hpattern.eq_resolver d source d₁ hsource)
    rcases Array.mem_push.mp hy with hy | rfl
    · exact hd y (hsame ▸ hy) value anyCase hvalue
    · rw [hpattern.literal value anyCase hvalue d source d₁ hsource] at hregex
      exact Regex.eq_literalRegex_of_anchored hregex

namespace Grammar

variable {g : Grammar} {source root : String} {value : String} {anyCase : Bool}
  {text tok rest : List Char} {x : Lexeme} {t t' offset stop : Nat}

/-- A quoted text takes its characters, and a quoted word ends where a word does. -/
theorem spells_of_compile (h : compile source root = .ok g)
    (ht : g.lexemeOf? t = some (.literal value anyCase))
    (htok : g.take? t (tok ++ rest) = some tok) : Regex.Spells anyCase value.toList tok ∧
      ((Lexeme.literal value anyCase).isKeyword = true → rest.head?.any isWordChar = false) := by
  obtain ⟨ds, c, d, rootRule, ignored, resolver, -, -, hd, -, -, -, rfl⟩ := exists_of_compile h
  have hspelled : d.Spelled :=
    Build.preserves_rules_of_terminals (fun d d' heq hd y hy => hd y (heq ▸ hy))
      Build.preserves_spelled c {} () d (fun y hy => absurd hy (by simp)) hd
  obtain ⟨y, hy, hvalue⟩ := Option.map_eq_some_iff.mp ht
  rw [take?, hy, Option.bind_some, Terminal.take?_eq_some_iff,
    hspelled y (Array.mem_of_getElem? hy) value anyCase hvalue, Scanner.matchLength?_regex,
    Regex.matchLength?_literalRegex_eq_some_iff, hvalue] at htok
  exact ⟨htok.2.1, htok.2.2.1⟩

/-- The words of quoted texts are reserved. -/
theorem upper_mem_reserved_of_compile (h : compile source root = .ok g)
    (ht : g.lexemeOf? t = some (.literal value anyCase)) (hword : isWord value.toList = true) :
    upper value.toList ∈ g.reserved := by
  obtain ⟨ds, c, d, rootRule, ignored, resolver, -, -, -, -, -, -, rfl⟩ := exists_of_compile h
  exact mem_reserved_ofDraft ht (by simp [Lexeme.keyword?, hword])

theorem exists_take?_of_matchTerminal? (h : g.matchTerminal? t text offset = some stop) :
    ∃ before tok rest, text = before ++ (tok ++ rest) ∧ byteLength before = offset ∧
      byteLength (before ++ tok) = stop ∧ g.take? t (tok ++ rest) = some tok := by
  obtain ⟨s, hs, -⟩ := Option.bind_eq_some_iff.mp h
  obtain ⟨before, rfl, rfl⟩ := eq_append_of_dropBytes? hs
  obtain ⟨tok, htok, rfl⟩ := matchTerminal?_append_iff.mp h
  obtain ⟨⟨rest, rfl⟩, -⟩ := isPrefix_of_take? htok
  exact ⟨before, tok, rest, rfl, rfl, rfl, htok⟩

/-- What takes the same piece of a text takes the same characters. -/
theorem take?_of_matchTerminal? {before : List Char}
    (h : g.matchTerminal? t (before ++ (tok ++ rest)) (byteLength before) =
      some (byteLength (before ++ tok))) : g.take? t (tok ++ rest) = some tok := by
  obtain ⟨tok', htok', hstop⟩ := matchTerminal?_append_iff.mp h
  obtain ⟨⟨rest', hrest'⟩, -⟩ := isPrefix_of_take? htok'
  have hlen : byteLength tok = byteLength tok' := by
    rw [byteLength_append, byteLength_append] at hstop
    omega
  rw [htok', eq_of_byteLength_eq hrest'.symm hlen]

/-- Where a quoted word and a terminal that is no quoted text take the same piece of a text, the
word is open to any case, and one of its letters is spelled with a character of its case orbit that
is not its ASCII upper or lower case. One of the two is no ASCII character. -/
theorem exists_spelling_of_shared (h : compile source root = .ok g)
    (ht : g.lexemeOf? t = some (.literal value anyCase)) (hword : isWord value.toList = true)
    (ht' : g.lexemeOf? t' = some x) (hx : x.isLiteral = false)
    (hmatch : g.matchTerminal? t text offset = some stop)
    (hmatch' : g.matchTerminal? t' text offset = some stop) :
    anyCase = true ∧ ∃ before tok rest, text = before ++ (tok ++ rest) ∧
      byteLength before = offset ∧ byteLength (before ++ tok) = stop ∧ upper tok ∉ g.reserved ∧
      ∃ p ∈ value.toList.zip tok, p.2 ∈ Regex.caseOrbit p.1 ∧ p.2.toUpper ≠ p.1.toUpper ∧
        (128 ≤ p.1.toNat ∨ 128 ≤ p.2.toNat) := by
  obtain ⟨before, tok, rest, rfl, rfl, rfl, htok⟩ := exists_take?_of_matchTerminal? hmatch
  have htok' : g.take? t' (tok ++ rest) = some tok := take?_of_matchTerminal? hmatch'
  have hspells := (spells_of_compile h ht htok).1
  have hunreserved := upper_notMem_reserved ht' hx htok'
  obtain ⟨p, hp, hspelled, hne⟩ := hspells.exists_of_upper_ne fun heq =>
    hunreserved (heq ▸ upper_mem_reserved_of_compile h ht hword)
  cases anyCase with
  | false => exact absurd (congrArg Char.toUpper (List.mem_singleton.mp hspelled)) hne
  | true =>
    refine ⟨rfl, before, tok, rest, rfl, rfl, rfl, hunreserved, p, hp, hspelled, hne, ?_⟩
    by_contra hascii
    rw [not_or, Nat.not_le, Nat.not_le] at hascii
    exact hne (Regex.toUpper_eq_of_mem_caseOrbit hspelled hascii.2 hascii.1)

/-- A word in any case, and names that may hold a long s. -/
def longSSource : String := "start: \"select\"i NAME\nNAME: /[a-zſ]+/\n"

theorem exists_compile_longS : ∃ g : Grammar, compile longSSource "start" = .ok g ∧
    g.lexemeOf? 0 = some (.literal "select" true) ∧ g.lexemeOf? 1 = some (.named "NAME") ∧
      g.matchTerminal? 0 "ſelect".toList 0 = some 7 ∧
      g.matchTerminal? 1 "ſelect".toList 0 = some 7 := by
  have hruns : (compile longSSource "start").toOption.any (fun g : Grammar =>
      g.lexemeOf? 0 = some (.literal "select" true) ∧ g.lexemeOf? 1 = some (.named "NAME") ∧
        g.matchTerminal? 0 "ſelect".toList 0 = some 7 ∧
        g.matchTerminal? 1 "ſelect".toList 0 = some 7) = true := by decide +kernel
  exact exists_ok_of_any hruns

/-- With a long s, the word and a name take the same piece. -/
theorem exists_shared_longS : ∃ g t t' value x text offset stop,
    compile longSSource "start" = .ok g ∧ g.lexemeOf? t = some (.literal value true) ∧
      isWord value.toList = true ∧ g.lexemeOf? t' = some x ∧ x.isLiteral = false ∧
      g.matchTerminal? t text offset = some stop ∧ g.matchTerminal? t' text offset = some stop := by
  obtain ⟨g, h, ht, ht', hmatch, hmatch'⟩ := exists_compile_longS
  exact ⟨g, 0, 1, "select", .named "NAME", _, 0, 7, h, ht, by decide, ht', rfl, hmatch, hmatch'⟩

theorem exists_spelling_of_shared_longS : ∃ g : Grammar, compile longSSource "start" = .ok g ∧
    ∃ before tok rest, "ſelect".toList = before ++ (tok ++ rest) ∧ byteLength before = 0 ∧
      byteLength (before ++ tok) = 7 ∧ upper tok ∉ g.reserved ∧
      ∃ p ∈ "select".toList.zip tok, p.2 ∈ Regex.caseOrbit p.1 ∧ p.2.toUpper ≠ p.1.toUpper ∧
        (128 ≤ p.1.toNat ∨ 128 ≤ p.2.toNat) := by
  obtain ⟨g, h, ht, ht', hmatch, hmatch'⟩ := exists_compile_longS
  exact ⟨g, h, (exists_spelling_of_shared h ht (by decide) ht' rfl hmatch hmatch').2⟩

end Grammar

end QueryGate
