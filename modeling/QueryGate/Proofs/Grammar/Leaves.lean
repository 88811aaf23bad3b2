import Mathlib.Logic.Relation
import QueryGate.Proofs.Grammar.Compiled
import QueryGate.Proofs.Grammar.Tokens

/-!
# Derivations and their leaves

`Grammar.Yields g text ss i j ls` : the symbols derive the piece of a text between two byte offsets,
and the terminals of the derivation are the leaves `ls`, from left to right. There may be many
derivations of one text, and a text is accepted if there is one (`recognize_accepted_iff_parses`).

* `Grammar.Yields.exists_take?` : every leaf covers a word that its terminal takes;
* `Grammar.IsFor.matches_of_parses` : the lexemes of the leaves are matched one after the other by
  the start symbol of the source.
-/

namespace QueryGate

open Ebnf Text

/-- A terminal in a derivation, with the byte offsets between which it stands. -/
structure Leaf where
  terminal : Nat
  start : Nat
  stop : Nat

/-- The word that stands in a text where a leaf does. -/
def Leaf.Covers (l : Leaf) (text word : List Char) : Prop :=
  ∃ before after, text = before ++ word ++ after ∧ byteLength before = l.start ∧
    byteLength (before ++ word) = l.stop

/-- A list has a lexeme at a position. -/
def LexemeAt (xs : List Lexeme) (x : Lexeme) (k m : Nat) : Prop :=
  xs[k]? = some x ∧ m = k + 1

theorem LexemeAt.drop_eq {xs : List Lexeme} {x : Lexeme} {k m : Nat} (h : LexemeAt xs x k m) :
    xs.drop k = x :: xs.drop m := by
  obtain ⟨hstands, rfl⟩ := h
  obtain ⟨hk, rfl⟩ := List.getElem?_eq_some_iff.mp hstands
  exact List.drop_eq_getElem_cons hk

/-- What stands in front of a position is what has been passed on the way there. -/
theorem forall_mem_take_of_reachable {xs : List Lexeme} {P : Lexeme → Prop} {k : Nat}
    (h : Relation.ReflTransGen (fun k m => ∃ x, P x ∧ LexemeAt xs x k m) 0 k) :
    ∀ x ∈ xs.take k, P x := by
  induction h with
  | refl => simp
  | tail _ hstep ih =>
    obtain ⟨x, hx, hstands, rfl⟩ := hstep
    rw [List.take_add_one, hstands]
    exact List.forall_mem_append.mpr ⟨ih, by simpa using hx⟩

namespace Grammar

/-- The symbols derive a piece of a text, and the derivation has the given leaves. -/
inductive Yields (g : Grammar) (text : List Char) : List Symbol → Nat → Nat → List Leaf → Prop
  | nil (i : Nat) : Yields g text [] i i []
  | rule {p : Production} {ss : List Symbol} {i k j : Nat} {front back : List Leaf}
      (hp : p ∈ g.productions) (h : Yields g text p.rhs i k front)
      (hs : Yields g text ss k j back) : Yields g text (.rule p.lhs :: ss) i j (front ++ back)
  | terminal {t : Nat} {ss : List Symbol} {i k j : Nat} {ls : List Leaf}
      (ht : g.Takes text t i k) (hs : Yields g text ss k j ls) :
      Yields g text (.terminal t :: ss) i j (⟨t, g.skipOffset text i, k⟩ :: ls)

/-- The root derives a text up to where only ignored text follows. -/
def Parses (g : Grammar) (text : List Char) (ls : List Leaf) : Prop :=
  ∃ p, g.Yields text [.rule g.root] 0 p ls ∧ g.skipOffset text p = byteLength text

variable {g : Grammar} {text tok rest : List Char} {ss : List Symbol} {i j t : Nat}
  {ls all : List Leaf} {x : Lexeme} {xs : List Lexeme}

theorem spans_iff_exists_yields :
    Spans g.productions (g.Takes text) ss i j ↔ ∃ ls, g.Yields text ss i j ls := by
  constructor
  · intro h
    induction h with
    | nil i => exact ⟨[], .nil i⟩
    | rule hp _ _ ih ihs =>
      obtain ⟨front, hfront⟩ := ih
      obtain ⟨back, hback⟩ := ihs
      exact ⟨front ++ back, .rule hp hfront hback⟩
    | terminal ht _ ihs =>
      obtain ⟨ls, hls⟩ := ihs
      exact ⟨_, .terminal ht hls⟩
  · rintro ⟨ls, h⟩
    induction h with
    | nil i => exact .nil i
    | rule hp _ _ ih ihs => exact .rule hp ih ihs
    | terminal ht _ ihs => exact .terminal ht ihs

/-- A text is accepted exactly if it has a derivation. -/
theorem WellFormed.recognize_accepted_iff_parses (hg : g.WellFormed) :
    (recognize g text).accepted = true ↔ ∃ ls, g.Parses text ls := by
  have hderives : ∀ p, g.Derives text g.root 0 p ↔ ∃ ls, g.Yields text [.rule g.root] 0 p ls :=
    fun p => by rw [← spans_iff_exists_yields, spans_rule_iff]; rfl
  simp only [recognize_accepted_iff_of_wellFormed hg, hderives, Parses]
  constructor
  · rintro ⟨p, ⟨ls, hls⟩, hend⟩
    exact ⟨ls, p, hls, hend⟩
  · rintro ⟨ls, p, hls, hend⟩
    exact ⟨p, ⟨ls, hls⟩, hend⟩

theorem IsFor.recognize_accepted_iff_parses {c : Collected} {root : String} (h : g.IsFor c root) :
    (recognize g text).accepted = true ↔ ∃ ls, g.Parses text ls :=
  h.wellFormed.recognize_accepted_iff_parses

/-! ## Words -/

/-- Every leaf stands where its terminal takes a word off the rest of the text. -/
theorem Yields.exists_word (h : g.Yields text ss i j ls) : ∀ l ∈ ls, ∃ before word after,
    text = before ++ (word ++ after) ∧ byteLength before = l.start ∧
      byteLength (before ++ word) = l.stop ∧ g.take? l.terminal (word ++ after) = some word := by
  induction h with
  | nil => simp
  | rule _ _ _ ih ihs => exact List.forall_mem_append.mpr ⟨ih, ihs⟩
  | terminal ht _ ihs =>
    refine List.forall_mem_cons.mpr ⟨?_, ihs⟩
    obtain ⟨s, hs, ht⟩ := Option.bind_eq_some_iff.mp ht
    obtain ⟨word, hword, rfl⟩ := Option.map_eq_some_iff.mp ht
    obtain ⟨before, rfl, hbefore⟩ := eq_append_of_dropBytes? hs
    obtain ⟨⟨after, rfl⟩, -⟩ := isPrefix_of_take? hword
    exact ⟨before, word, after, rfl, hbefore, by rw [byteLength_append, hbefore], hword⟩

/-- Every leaf covers a word that its terminal takes. -/
theorem Yields.exists_take? (h : g.Yields text ss i j ls) : ∀ l ∈ ls, ∃ word rest,
    l.Covers text word ∧ g.take? l.terminal (word ++ rest) = some word := by
  intro l hl
  obtain ⟨before, word, after, htext, hstart, hstop, hword⟩ := h.exists_word l hl
  exact ⟨word, after, ⟨before, after, by rw [htext, List.append_assoc], hstart, hstop⟩, hword⟩

theorem exists_lexemeOf?_of_take? (h : g.take? t tok = some rest) :
    ∃ x, g.lexemeOf? t = some x := by
  obtain ⟨y, hy, -⟩ := Option.bind_eq_some_iff.mp h
  exact ⟨y.lexeme, Option.map_eq_some_iff.mpr ⟨y, hy, rfl⟩⟩

/-- What is no quoted text takes no reserved word. -/
theorem upper_notMem_reserved (ht : g.lexemeOf? t = some x) (hx : x.isLiteral = false)
    (h : g.take? t (tok ++ rest) = some tok) : upper tok ∉ g.reserved := by
  obtain ⟨y, hy, rfl⟩ := Option.map_eq_some_iff.mp ht
  rw [take?, hy, Option.bind_some, Terminal.take?_eq_some_iff] at h
  exact h.2.2.2 hx

/-! ## Lexemes -/

/-- All leaves have lexemes. -/
theorem Yields.exists_lexemes (h : g.Yields text ss i j ls) :
    ∃ xs : List Lexeme, ls.map (fun l => g.lexemeOf? l.terminal) = xs.map some := by
  have hleaf : ∀ l ∈ ls, ∃ x, g.lexemeOf? l.terminal = some x := fun l hl => by
    obtain ⟨word, rest, -, hword⟩ := h.exists_take? l hl
    exact exists_lexemeOf?_of_take? hword
  clear h
  induction ls with
  | nil => exact ⟨[], rfl⟩
  | cons l ls ih =>
    obtain ⟨⟨x, hx⟩, hrest⟩ := List.forall_mem_cons.mp hleaf
    obtain ⟨xs, hxs⟩ := ih hrest
    exact ⟨x :: xs, by rw [List.map_cons, List.map_cons, hx, hxs]⟩

/-- The same symbols derive the leaves, each of which its terminal takes as one piece. -/
theorem Yields.spans_leaves (h : g.Yields text ss i j ls) {n : Nat} {after : List Leaf}
    (hall : all.drop n = ls ++ after) :
    Spans g.productions (fun t k m => all[k]?.map (·.terminal) = some t ∧ m = k + 1) ss n
      (n + ls.length) := by
  induction h generalizing n after with
  | nil => exact .nil n
  | @rule p ss i k j front back hp _ _ ih ihs =>
    rw [List.append_assoc] at hall
    rw [List.length_append, ← Nat.add_assoc]
    exact .rule hp (ih hall) (ihs (by rw [← List.drop_drop, hall, List.drop_left]))
  | @terminal t ss i k j ls _ _ ihs =>
    have hhead : all[n]? = some ⟨t, g.skipOffset text i, k⟩ := by
      rw [← List.head?_drop, hall]
      rfl
    have htail : all.drop (n + 1) = ls ++ after := by
      rw [← List.drop_drop, hall]
      rfl
    rw [List.length_cons, Nat.add_comm ls.length, ← Nat.add_assoc]
    exact .terminal ⟨by rw [hhead]; rfl, rfl⟩ (ihs htail)

/-- The start symbol matches the lexemes of the leaves. -/
theorem IsFor.matches_of_parses {c : Collected} {root : String} (h : g.IsFor c root) {body : Expr}
    (hroot : isTerminalName root = false) (hbody : (root, body) ∈ c.rules)
    (hparses : g.Parses text ls) (hxs : ls.map (fun l => g.lexemeOf? l.terminal) = xs.map some) :
    Matches c.rules (LexemeAt xs) [.name root] 0 xs.length := by
  obtain ⟨p, hyields, -⟩ := hparses
  have hlength : ls.length = xs.length := by simpa using congrArg List.length hxs
  have hall : ls.drop 0 = ls ++ [] := (List.append_nil ls).symm
  have hspans := hyields.spans_leaves hall
  rw [Nat.zero_add, hlength] at hspans
  have htaken : ∀ t x k m, g.lexemeOf? t = some x →
      ls[k]?.map (·.terminal) = some t ∧ m = k + 1 → LexemeAt xs x k m := by
    rintro t x k m hx ⟨ht, rfl⟩
    obtain ⟨l, hl, rfl⟩ := Option.map_eq_some_iff.mp ht
    have hk := congrArg (·[k]?) hxs
    simp only [List.getElem?_map, hl, Option.map_some, hx] at hk
    obtain ⟨x', hx', heq⟩ := Option.map_eq_some_iff.mp hk.symm
    rw [Option.some.inj heq] at hx'
    exact ⟨hx', rfl⟩
  have hclosed := closed_name hroot hbody
  obtain ⟨source, rootRule, d, b, ignored, rfl, hname, hrealizes, -⟩ := h
  exact matches_of_spans hrealizes htaken hspans _ _ hclosed (.name hroot hname .nil)

end Grammar

end QueryGate
