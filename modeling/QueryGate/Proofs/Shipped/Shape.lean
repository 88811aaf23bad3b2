import QueryGate.Proofs.Grammar.Brackets
import QueryGate.Proofs.Shipped.Checked

/-!
# What the shipped grammar derives

All derivations of the shipped grammar have one shape (`IsReadOnly`) : a statement that selects,
with its brackets balanced, and the directive behind it, which stands nowhere else. So nothing that
changes data can be derived, and no second statement. Words that the grammar quotes are no
identifiers (`readOnly_of_parses`).
-/

namespace QueryGate.Shipped

open Ebnf Text

variable {g : Grammar} {text : List Char} {xs : List Lexeme} {k : Nat}

/-- The lexemes of a statement that only reads, one after the other. -/
structure IsReadOnly (xs : List Lexeme) : Prop where
  leads : xs.head? = some selectLexeme ∨ xs.head? = some withLexeme
  /-- The directive stands at the end with at most one separator behind it, and neither of them
  stands anywhere else. -/
  directive : ∃ query ending, xs = query ++ formatLexeme :: jsonLexeme :: ending ∧
    (ending = [] ∨ ending = [separatorLexeme]) ∧
    ∀ value anyCase, .literal value anyCase ∈ query → value ∉ [";", "FORMAT", "JSON"]
  /-- Brackets are not closed before they are opened. -/
  opened : ∀ k, (xs.take k).count closingLexeme ≤ (xs.take k).count openingLexeme
  balanced : xs.count closingLexeme = xs.count openingLexeme

theorem isBalanced_of_mem_rules : ∀ e ∈ collected.rules, e.2.isBalanced = true := by
  have hall : (collected.rules.all fun e => e.2.isBalanced) = true := by decide +kernel
  exact List.all_eq_true.mp hall

/-- Neither the directive nor the separator can be part of a query. -/
theorem notMem_of_mem_queryLexemes {value : String} {anyCase : Bool}
    (h : .literal value anyCase ∈ queryLexemes) : value ∉ [";", "FORMAT", "JSON"] := by
  have hall : ([";", "FORMAT", "JSON"].all fun value => [true, false].all fun anyCase =>
      !queryLexemes.contains (.literal value anyCase)) = true := by decide +kernel
  intro hvalue
  have hnone := List.all_eq_true.mp (List.all_eq_true.mp hall value hvalue) anyCase (by simp)
  rw [List.contains_iff_mem.mpr h] at hnone
  cases hnone

/-- What the start symbol matches is a statement that only reads. -/
theorem isReadOnly_of_matches
    (h : Matches collected.rules (LexemeAt xs) [.name "start"] 0 xs.length) : IsReadOnly xs := by
  obtain ⟨hopened, hbalanced⟩ :=
    h.balanced isBalanced_of_mem_rules (Expr.closes_singleton (by decide))
  obtain ⟨k, l, m, hquery, hformat, hjson, hseparator⟩ := matches_start_iff.mp h
  refine ⟨?_, ⟨xs.take k, xs.drop m, ?_, ?_, fun value anyCase hmem => ?_⟩, hopened, hbalanced⟩
  · rw [List.head?_eq_getElem?]
    rcases matches_query_cases hquery with ⟨_, hwith⟩ | ⟨_, _, hselect, -⟩
    · exact Or.inr hwith.1
    · exact Or.inl hselect.1
  · rw [← hjson.drop_eq, ← hformat.drop_eq, List.take_append_drop]
  · rcases hseparator with rfl | hseparator
    · exact Or.inl List.drop_length
    · exact Or.inr (by rw [hseparator.drop_eq, List.drop_length])
  · have hreachable := (matches_queryLexemes hquery).reachable
    exact notMem_of_mem_queryLexemes (forall_mem_take_of_reachable hreachable _ hmem)

/-- The shipped grammar accepts a text if it has a derivation, and derives nothing but statements
that only read. No identifier in a derivation is a word that the grammar quotes. -/
theorem readOnly_of_parses (hshipped : Grammar.shipped = .ok g) :
    ((recognize g text).accepted = true ↔ ∃ ls, g.Parses text ls) ∧
      ∀ ls, g.Parses text ls →
        (∃ xs, ls.map (fun l => g.lexemeOf? l.terminal) = xs.map some ∧ IsReadOnly xs) ∧
        ∀ l ∈ ls, g.lexemeOf? l.terminal = some (.named "IDENTIFIER") →
          ∃ word, l.Covers text word ∧ ∀ t value anyCase,
            g.lexemeOf? t = some (.literal value anyCase) → isWord value.toList = true →
              sameLetters word value.toList = false := by
  have hfor := (isShipped_of_shipped hshipped).isFor
  refine ⟨hfor.recognize_accepted_iff_parses, fun ls hparses => ?_⟩
  obtain ⟨p, hyields, -⟩ := id hparses
  constructor
  · obtain ⟨xs, hxs⟩ := hyields.exists_lexemes
    exact ⟨xs, hxs, isReadOnly_of_matches (hfor.matches_of_parses (by decide) start_mem_rules
      hparses hxs)⟩
  · intro l hl hidentifier
    obtain ⟨word, rest, hcovers, hword⟩ := hyields.exists_take? l hl
    refine ⟨word, hcovers, fun t value anyCase ht hvalue => Bool.eq_false_iff.mpr fun hsame => ?_⟩
    have hreserved : upper value.toList ∈ g.reserved :=
      hfor.mem_reserved ht (by simp [Lexeme.keyword?, hvalue])
    rw [← upper_eq_of_sameLetters hsame] at hreserved
    exact Grammar.upper_notMem_reserved hidentifier rfl hword hreserved

/-- A query inside another one. -/
theorem readOnly_of_parses_nested : ∃ g ls, Grammar.shipped = .ok g ∧
    g.Parses "select exists (select(null)) format json;".toList ls ∧
    ∃ xs, ls.map (fun l => g.lexemeOf? l.terminal) = xs.map some ∧ IsReadOnly xs := by
  obtain ⟨g, hshipped, hfor, hignored⟩ := exists_shipped
  have hg : IsShipped g := ⟨hfor, hignored⟩
  have haccepted :
      (recognize g "select exists (select(null)) format json;".toList).accepted = true := by
    refine hg.accepted_of_derives 130 [selectLexeme, .literal "EXISTS" true, openingLexeme,
      selectLexeme, openingLexeme, .literal "NULL" true, closingLexeme, closingLexeme,
      formatLexeme, jsonLexeme, separatorLexeme] ?_ ?_ ?_ <;> decide +kernel
  obtain ⟨haccepted_iff, hall⟩ := readOnly_of_parses hshipped
  obtain ⟨ls, hls⟩ := haccepted_iff.mp haccepted
  exact ⟨g, ls, hshipped, hls, (hall ls hls).1⟩

end QueryGate.Shipped
