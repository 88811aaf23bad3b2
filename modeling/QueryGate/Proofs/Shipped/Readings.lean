import QueryGate.Proofs.Grammar.Search
import QueryGate.Proofs.Shipped.Words

/-!
# What is read of a text

`readAll? words xs s` computes how far lexemes are read in a text one after the other, by tokens
with none of the words in them. What it computes is read (`IsShipped.takesAll_of_readAll?`).
-/

namespace QueryGate

open Ebnf Regex Text

variable {g : Grammar} {text s tok rest w : List Char} {x : Lexeme} {xs : List Lexeme} {c : Char}
  {i k n : Nat}

/-! ## Reserved words -/

theorem toUpper_eq_self_or_isAlpha (c : Char) : c.toUpper = c ∨ c.toUpper.isAlpha = true := by
  have hcase := toNat_toUpper c
  by_cases hlower : 97 ≤ c.toNat ∧ c.toNat ≤ 122
  · refine Or.inr (Bool.or_eq_true_iff.mpr ?_)
    rw [isUpper_iff, isLower_iff]
    rw [if_pos hlower] at hcase
    omega
  · refine Or.inl (Char.ext (UInt32.toNat_inj.mp ?_))
    rwa [if_neg hlower] at hcase

theorem isWord_upper (h : isWord s = true) : isWord (upper s) = true := by
  have hfirst : ∀ c : Char, (isAlphabetic c || c == '_') = true →
      (isAlphabetic c.toUpper || c.toUpper == '_') = true := fun c hc => by
    rcases toUpper_eq_self_or_isAlpha c with heq | halpha
    · rwa [heq]
    · rw [isAlphabetic_of_isAlpha halpha, Bool.true_or]
  have hword : ∀ c : Char, isWordChar c = true → isWordChar c.toUpper = true := fun c hc => by
    rcases toUpper_eq_self_or_isAlpha c with heq | halpha
    · rwa [heq]
    · rw [isWordChar, isAlphanumeric, isAlphabetic_of_isAlpha halpha, Bool.true_or, Bool.true_or]
  cases s with
  | nil => cases h
  | cons c s =>
    simp only [isWord, Bool.and_eq_true, List.all_eq_true] at h
    simp only [upper, List.map_cons, isWord, Bool.and_eq_true, List.all_eq_true, List.mem_map,
      forall_exists_index, and_imp, forall_apply_eq_imp_iff₂]
    exact ⟨hfirst c h.1, fun d hd => hword d (h.2 d hd)⟩

/-- What is reserved are words. -/
theorem Grammar.IsFor.isWord_of_mem_reserved {collected : Collected} {root : String}
    (h : g.IsFor collected root) (hw : w ∈ g.reserved) : isWord w = true := by
  obtain ⟨source, rootRule, d, b, ignored, rfl, -⟩ := h
  obtain ⟨y, -, hy⟩ := List.mem_filterMap.mp hw
  obtain ⟨value, hword, rfl⟩ : ∃ value, isWord value = true ∧ upper value = w := by
    unfold Lexeme.keyword? at hy
    split at hy
    · split_ifs at hy with hword
      exact ⟨_, hword, Option.some.inj hy⟩
    · cases hy
  exact isWord_upper hword

namespace Shipped

/-! ## Tokens -/

/-- How many characters a lexeme takes at the start of a text. Nothing is said of identifiers. -/
def tokenLength? : Lexeme → List Char → Option Nat
  | .literal value anyCase, s =>
    if !value.toList.isEmpty && fits (value.toList.map (literalClass anyCase)) s &&
      (!(Lexeme.literal value anyCase).isKeyword ||
        !((s.drop value.toList.length).head?.any isWordChar)) then some value.toList.length
    else none
  | .named name, s => (named.lookup name).bind fun r =>
    (r.matchLength? none s).filter fun n => 0 < n && !isWord (upper (s.take n))
  | _, _ => none

theorem IsShipped.exists_of_tokenLength? (hg : IsShipped g) (hx : x ∈ lexemes)
    (h : tokenLength? x s = some n) :
    ∃ tok rest, s = tok ++ rest ∧ tok.length = n ∧ g.TakesAs x tok rest := by
  obtain ⟨t, ht⟩ : ∃ t, g.lexemeOf? t = some x := by
    obtain ⟨e, he, hx⟩ := Expr.mem_lexemesOf_iff.mp hx
    obtain ⟨entry, hentry, rfl⟩ := List.mem_map.mp he
    exact hg.isFor.exists_lexemeOf? (List.mem_reverse.mpr hentry) hx
  cases x with
  | literal value anyCase =>
    rw [tokenLength?, Option.ite_none_right_eq_some] at h
    simp only [Bool.and_eq_true, Bool.or_eq_true, Bool.not_eq_true',
      List.isEmpty_eq_false_iff] at h
    obtain ⟨⟨⟨hne, hfits⟩, hword⟩, hn⟩ := h
    obtain ⟨tok, rest, rfl, hspells⟩ := exists_of_fits hfits
    rw [List.forall₂_map_left_iff] at hspells
    rw [hspells.length_eq, List.drop_left] at hword
    refine ⟨tok, rest, rfl, hspells.length_eq.symm.trans (Option.some.inj hn),
      hg.isFor.takesAs_literal_iff.mpr ⟨⟨t, ht⟩, fun hnil => hne ?_, hspells, fun hkey => ?_⟩⟩
    · exact List.forall₂_nil_right_iff.mp (hnil ▸ hspells)
    · rw [hkey] at hword
      exact hword.resolve_left Bool.noConfusion
  | named name =>
    obtain ⟨r, hr, hn⟩ := Option.bind_eq_some_iff.mp h
    rw [Option.filter_eq_some_iff, Bool.and_eq_true, decide_eq_true_eq, Bool.not_eq_true'] at hn
    obtain ⟨hmatch, hpos, hword⟩ := hn
    have hmem : (name, r) ∈ named := by
      obtain ⟨before, after, hsplit, -⟩ := List.lookup_eq_some_iff.mp hr
      simp [hsplit]
    have hlength : (s.take n).length = n := List.length_take_of_le (matchLength?_le hmatch)
    refine ⟨s.take n, s.drop n, (List.take_append_drop n s).symm, hlength,
      (hg.isFor.takesAs_iff (reads_named _ hmem)).mpr ⟨⟨t, ht⟩, ?_, ?_, ?_, ?_⟩⟩
    · exact List.ne_nil_of_length_pos (by rwa [hlength])
    · rw [atStart, matchLength?_anchored, List.take_append_drop, hlength, hmatch]
    · exact fun hkey => by cases hkey
    · exact fun _ hreserved => by
        rw [hg.isFor.isWord_of_mem_reserved hreserved] at hword
        cases hword
  | _ => cases h

/-- How far lexemes are read in a text one after the other. -/
def readAll? (words : List String) : List Lexeme → List Char → Option Nat
  | [], _ => some 0
  | x :: xs, s =>
    (tokenLength? x (s.dropWhile blank.mem)).bind fun n =>
      let taken := (s.takeWhile blank.mem).length + n
      if spares words x (s.take taken) then (readAll? words xs (s.drop taken)).map (taken + ·)
      else none

/-- What is computed is read. -/
theorem IsShipped.takesAll_of_readAll? (hg : IsShipped g) {words : List String}
    (hxs : ∀ x ∈ xs, x ∈ lexemes) (h : readAll? words xs (text.drop i) = some n) :
    TakesAll (ReadsPast g text words) xs i (i + n) := by
  induction xs generalizing i n with
  | nil =>
    obtain rfl := Option.some.inj h
    rfl
  | cons x xs ih =>
    obtain ⟨hx, hxs⟩ := List.forall_mem_cons.mp hxs
    obtain ⟨m, htoken, hrest⟩ := Option.bind_eq_some_iff.mp h
    dsimp only at hrest
    rw [Option.ite_none_right_eq_some] at hrest
    obtain ⟨hspares, hrest⟩ := hrest
    obtain ⟨n, hall, rfl⟩ := Option.map_eq_some_iff.mp hrest
    obtain ⟨tok, rest, hs, rfl, htok⟩ := hg.exists_of_tokenLength? hx htoken
    rw [List.drop_drop] at hall
    rw [← Nat.add_assoc]
    refine ⟨_, ⟨(Grammar.readsAs_iff hg.skipIgnored_eq).mpr ⟨_, tok, rest, ?_,
      fun c hc => List.mem_takeWhile_imp hc, fun c hc => ?_, htok,
        (Nat.add_assoc ..).symm⟩, ?_⟩,
      ih hxs hall⟩
    · rw [List.append_assoc, ← hs, List.takeWhile_append_dropWhile]
    · have hnot := List.head?_dropWhile_not blank.mem (text.drop i)
      rw [hs, List.head?_append_of_ne_nil _ htok.ne_nil, Option.mem_def.mp hc] at hnot
      exact hnot
    · rwa [List.extract_eq_take_drop, Nat.add_sub_cancel_left]

theorem IsShipped.readsAs_of_readAll? (hg : IsShipped g) {j : Nat} (hx : x ∈ lexemes)
    (h : (readAll? [] [x] (text.drop i)).map (i + ·) = some j) : g.ReadsAs text x i j := by
  obtain ⟨n, hn, rfl⟩ := Option.map_eq_some_iff.mp h
  obtain ⟨k, hreads, rfl⟩ := hg.takesAll_of_readAll? (List.forall_mem_singleton.mpr hx) hn
  exact hreads.1

/-- Where expressions derive lexemes that are read, they match the piece that is read. -/
theorem IsShipped.matches_of_readAll? (hg : IsShipped g) {es : List Expr} {j : Nat}
    (words : List String) (fuel : Nat) (xs : List Lexeme) (hxs : ∀ x ∈ xs, x ∈ lexemes)
    (hread : (readAll? words xs (text.drop i)).map (i + ·) = some j)
    (hderives : derives collected.rules fuel es xs = true) :
    Matches collected.rules (ReadsPast g text words) es i j := by
  obtain ⟨n, hn, rfl⟩ := Option.map_eq_some_iff.mp hread
  exact matches_of_derives hderives (hg.takesAll_of_readAll? hxs hn)

end Shipped

end QueryGate
