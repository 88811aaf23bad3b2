import Mathlib.Data.List.Basic
import Mathlib.Tactic.SplitIfs
import QueryGate.Regex.Match

/-!
# Languages

`Lang r s` : the expression `r` can match the text `s`, conditions on the characters around it
aside.

* `lang_of_matchLength?` : what the matcher finds is a text of the language;
* `matchLength?_congr` : texts that begin alike have the same match, as long as it ends there.
-/

namespace QueryGate.Regex

/-- The texts an expression can match, conditions aside. -/
inductive Lang : Regex → List Char → Prop
  | empty : Lang .empty []
  | chars {cls : CharClass} {c : Char} (hc : cls.mem c = true) : Lang (.chars cls) [c]
  | look {cond : Look} {asciiWords : Bool} : Lang (.look cond asciiWords) []
  | seq {a b : Regex} {s t : List Char} (ha : Lang a s) (hb : Lang b t) : Lang (.seq a b) (s ++ t)
  | altLeft {a b : Regex} {s : List Char} (ha : Lang a s) : Lang (.alt a b) s
  | altRight {a b : Regex} {s : List Char} (hb : Lang b s) : Lang (.alt a b) s
  | done {greedy : Bool} {a : Regex} : Lang (.more greedy a) []
  | again {greedy : Bool} {a : Regex} {s t : List Char} (ha : Lang a s)
      (h : Lang (.more greedy a) t) : Lang (.more greedy a) (s ++ t)
  | plus {greedy : Bool} {a : Regex} {s t : List Char} (ha : Lang a s)
      (h : Lang (.more greedy a) t) : Lang (.plus greedy a) (s ++ t)

variable {r a b rest : Regex} {before after : Option Char} {cls : CharClass} {c : Char}
  {s t u : List Char} {left : List Regex} {taken n : Nat} {best : Option Nat}

theorem lang_andThen (h : Lang (andThen a b) s) :
    ∃ t u, s = t ++ u ∧ Lang a t ∧ Lang b u := by
  have hseq : Lang (.seq a b) s → ∃ t u, s = t ++ u ∧ Lang a t ∧ Lang b u := by
    intro h
    cases h with
    | seq ha hb => exact ⟨_, _, rfl, ha, hb⟩
  cases a with
  | empty => exact ⟨[], s, rfl, .empty, h⟩
  | _ => exact hseq h

/-- An expression that can pass here matches the empty text. -/
theorem lang_nil_of_pass_mem (h : Front.pass ∈ fronts before after r) : Lang r [] := by
  induction r with
  | empty => exact .empty
  | chars cls => simp [fronts] at h
  | look cond asciiWords => exact .look
  | seq a b iha ihb =>
    obtain ⟨front, hfront, hmem⟩ := List.mem_flatMap.mp h
    cases front with
    | pass => exact .seq (iha hfront) (ihb hmem)
    | take cls rest => simp at hmem
  | alt a b iha ihb =>
    rcases List.mem_append.mp h with h | h
    · exact .altLeft (iha h)
    · exact .altRight (ihb h)
  | more greedy a => exact .done
  | plus greedy a ih =>
    obtain ⟨front, hfront, heq⟩ := List.mem_map.mp h
    cases front with
    | pass => exact .plus (ih hfront) .done
    | take cls rest => cases heq

/-- What is left behind a character goes on with the expression that follows. -/
theorem lang_followedBy {front : Front} (h : front.followedBy b = .take cls rest)
    (hs : Lang rest s) : ∃ rest', front = .take cls rest' ∧
      ∃ t u, s = t ++ u ∧ Lang rest' t ∧ Lang b u := by
  cases front with
  | pass => cases h
  | take cls' rest' =>
    obtain ⟨rfl, rfl⟩ := Front.take.inj h
    exact ⟨rest', rfl, lang_andThen hs⟩

/-- A repetition begins with what it repeats, unless that passes. -/
theorem take_mem_of_mem_fronts_more {greedy : Bool}
    (h : Front.take cls rest ∈ fronts before after (.more greedy r)) : Front.take cls rest ∈
      ((fronts before after r).filter (!·.isPass)).map (Front.followedBy (.more greedy r)) := by
  cases greedy <;> simpa [fronts] using h

/-- What an expression takes and what it leaves make up a text it matches. -/
theorem lang_cons_of_take_mem (h : Front.take cls rest ∈ fronts before after r)
    (hc : cls.mem c = true) (hs : Lang rest s) : Lang r (c :: s) := by
  induction r generalizing rest s with
  | empty => simp [fronts] at h
  | chars cls' =>
    obtain ⟨rfl, rfl⟩ := Front.take.inj (List.mem_singleton.mp h)
    cases hs
    exact .chars hc
  | look cond asciiWords =>
    rw [fronts] at h
    split_ifs at h <;> simp at h
  | seq a b iha ihb =>
    obtain ⟨front, hfront, hmem⟩ := List.mem_flatMap.mp h
    cases front with
    | pass => exact .seq (lang_nil_of_pass_mem hfront) (ihb hmem hs)
    | take cls' rest' =>
      obtain ⟨rfl, rfl⟩ := Front.take.inj (List.mem_singleton.mp hmem)
      obtain ⟨t, u, rfl, ht, hu⟩ := lang_andThen hs
      exact .seq (iha hfront ht) hu
  | alt a b iha ihb =>
    rcases List.mem_append.mp h with h | h
    · exact .altLeft (iha h hs)
    · exact .altRight (ihb h hs)
  | more greedy a ih =>
    obtain ⟨front, hfront, heq⟩ := List.mem_map.mp (take_mem_of_mem_fronts_more h)
    obtain ⟨rest', rfl, t, u, rfl, ht, hu⟩ := lang_followedBy heq hs
    exact .again (ih (List.mem_filter.mp hfront).1 ht) hu
  | plus greedy a ih =>
    obtain ⟨front, hfront, heq⟩ := List.mem_map.mp h
    obtain ⟨rest', rfl, t, u, rfl, ht, hu⟩ := lang_followedBy heq hs
    exact .plus (ih hfront ht) hu

/-! ## The matcher -/

/-- Whether one of the expressions can pass. -/
def passes (left : List Regex) (before after : Option Char) : Bool :=
  (left.flatMap (fronts before after)).any Front.isPass

/-- What is left of the expressions behind a character. -/
def leftBehind (left : List Regex) (before : Option Char) (c : Char) : List Regex :=
  (((left.flatMap (fronts before (some c))).takeWhile (!·.isPass)).filterMap
    (Front.after? c)).eraseDups

/-- The match found up to here, the one that ends here included. -/
def bestHere (left : List Regex) (before after : Option Char) (taken : Nat) (best : Option Nat) :
    Option Nat :=
  if passes left before after then some taken else best

theorem matchFrom_nil :
    matchFrom left before taken best [] = bestHere left before none taken best := rfl

theorem matchFrom_cons : matchFrom left before taken best (c :: s) =
    if (leftBehind left before c).isEmpty then bestHere left before (some c) taken best
    else matchFrom (leftBehind left before c) (some c) (taken + 1)
      (bestHere left before (some c) taken best) s := rfl

theorem exists_of_passes (h : passes left before after = true) : ∃ r ∈ left, Lang r [] := by
  obtain ⟨front, hmem, hfront⟩ := List.any_eq_true.mp h
  obtain ⟨r, hr, hmem⟩ := List.mem_flatMap.mp hmem
  cases front with
  | pass => exact ⟨r, hr, lang_nil_of_pass_mem hmem⟩
  | take => cases hfront

theorem exists_of_mem_leftBehind (h : r ∈ leftBehind left before c) :
    ∃ r' ∈ left, ∃ cls, Front.take cls r ∈ fronts before (some c) r' ∧ cls.mem c = true := by
  obtain ⟨front, hmem, hafter⟩ := List.mem_filterMap.mp (List.mem_eraseDups.mp h)
  obtain ⟨r', hr', hmem⟩ := List.mem_flatMap.mp ((List.takeWhile_sublist _).subset hmem)
  cases front with
  | pass => cases hafter
  | take cls rest =>
    rw [Front.after?] at hafter
    split_ifs at hafter with hc
    obtain rfl := Option.some.inj hafter
    exact ⟨r', hr', cls, hmem, hc⟩

theorem of_bestHere_eq_some (h : bestHere left before after taken best = some n) :
    best = some n ∨ ∃ r ∈ left, taken ≤ n ∧ Lang r (s.take (n - taken)) := by
  unfold bestHere at h
  split_ifs at h with hpass
  · obtain rfl := Option.some.inj h
    obtain ⟨r, hr, hlang⟩ := exists_of_passes hpass
    exact Or.inr ⟨r, hr, Nat.le_refl _, by simpa using hlang⟩
  · exact Or.inl h

/-- The match found so far, or the text of one of the expressions that are left. -/
theorem lang_of_matchFrom (h : matchFrom left before taken best s = some n) :
    best = some n ∨ ∃ r ∈ left, taken ≤ n ∧ Lang r (s.take (n - taken)) := by
  induction s generalizing left before taken best with
  | nil => exact of_bestHere_eq_some h
  | cons c s ih =>
    rw [matchFrom_cons] at h
    split_ifs at h with hempty
    · exact of_bestHere_eq_some h
    · rcases ih h with hbest | ⟨r, hr, hle, hlang⟩
      · exact of_bestHere_eq_some hbest
      · obtain ⟨r', hr', cls, hfront, hc⟩ := exists_of_mem_leftBehind hr
        have htake : (c :: s).take (n - taken) = c :: s.take (n - (taken + 1)) := by
          rw [← List.take_succ_cons]
          congr 1
          omega
        exact Or.inr ⟨r', hr', by omega, htake ▸ lang_cons_of_take_mem hfront hc hlang⟩

/-- A match is a text of the language. -/
theorem lang_of_matchLength? (h : r.matchLength? before s = some n) : Lang r (s.take n) := by
  rcases lang_of_matchFrom h with hnone | ⟨r', hr', -, hlang⟩
  · cases hnone
  · obtain rfl := List.mem_singleton.mp hr'
    simpa using hlang

/-! ## What follows a match -/

/-- An expression without conditions. -/
def isPlain : Regex → Bool
  | look _ _ => false
  | seq a b => a.isPlain && b.isPlain
  | alt a b => a.isPlain && b.isPlain
  | more _ a => a.isPlain
  | plus _ a => a.isPlain
  | _ => true

theorem fronts_eq_of_isPlain (h : r.isPlain = true) (before' after' : Option Char) :
    fronts before after r = fronts before' after' r := by
  induction r with
  | empty => rfl
  | chars cls => rfl
  | look cond asciiWords => cases h
  | seq a b iha ihb =>
    obtain ⟨ha, hb⟩ := Bool.and_eq_true_iff.mp h
    rw [fronts, fronts, iha ha, ihb hb]
  | alt a b iha ihb =>
    obtain ⟨ha, hb⟩ := Bool.and_eq_true_iff.mp h
    rw [fronts, fronts, iha ha, ihb hb]
  | more greedy a ih => rw [fronts, fronts, ih h]
  | plus greedy a ih => rw [fronts, fronts, ih h]

theorem isPlain_andThen (ha : a.isPlain = true) (hb : b.isPlain = true) :
    (andThen a b).isPlain = true := by
  cases a with
  | empty => exact hb
  | _ => exact Bool.and_eq_true_iff.mpr ⟨ha, hb⟩

theorem isPlain_followedBy {front : Front} (hb : b.isPlain = true)
    (hfront : ∀ rest', front = .take cls rest' → rest'.isPlain = true)
    (h : front.followedBy b = .take cls rest) : rest.isPlain = true := by
  cases front with
  | pass => cases h
  | take cls' rest' =>
    obtain ⟨rfl, rfl⟩ := Front.take.inj h
    exact isPlain_andThen (hfront rest' rfl) hb

/-- What is left of an expression without conditions has none either. -/
theorem isPlain_of_take_mem (hr : r.isPlain = true)
    (h : Front.take cls rest ∈ fronts before after r) : rest.isPlain = true := by
  induction r generalizing rest with
  | empty => simp [fronts] at h
  | chars cls' =>
    obtain ⟨-, rfl⟩ := Front.take.inj (List.mem_singleton.mp h)
    rfl
  | look cond asciiWords => cases hr
  | seq a b iha ihb =>
    obtain ⟨ha, hb⟩ := Bool.and_eq_true_iff.mp hr
    obtain ⟨front, hfront, hmem⟩ := List.mem_flatMap.mp h
    cases front with
    | pass => exact ihb hb hmem
    | take cls' rest' =>
      obtain ⟨rfl, rfl⟩ := Front.take.inj (List.mem_singleton.mp hmem)
      exact isPlain_andThen (iha ha hfront) hb
  | alt a b iha ihb =>
    obtain ⟨ha, hb⟩ := Bool.and_eq_true_iff.mp hr
    exact (List.mem_append.mp h).elim (iha ha) (ihb hb)
  | more greedy a ih =>
    obtain ⟨front, hfront, heq⟩ := List.mem_map.mp (take_mem_of_mem_fronts_more h)
    exact isPlain_followedBy (b := .more greedy a) hr
      (fun rest' hrest => ih hr (hrest ▸ (List.mem_filter.mp hfront).1)) heq
  | plus greedy a ih =>
    obtain ⟨front, hfront, heq⟩ := List.mem_map.mp h
    exact isPlain_followedBy (b := .more greedy a) hr
      (fun rest' hrest => ih hr (hrest ▸ hfront)) heq

theorem isPlain_of_mem_leftBehind (hleft : ∀ r ∈ left, r.isPlain = true)
    (h : r ∈ leftBehind left before c) : r.isPlain = true := by
  obtain ⟨r', hr', cls, hfront, -⟩ := exists_of_mem_leftBehind h
  exact isPlain_of_take_mem (hleft r' hr') hfront

variable {before' after' : Option Char} {t' : List Char}

theorem flatMap_fronts_eq (hleft : ∀ r ∈ left, r.isPlain = true) :
    left.flatMap (fronts before after) = left.flatMap (fronts before' after') :=
  List.flatMap_congr fun r hr => fronts_eq_of_isPlain (hleft r hr) _ _

theorem bestHere_eq (hleft : ∀ r ∈ left, r.isPlain = true) (before' after' : Option Char) :
    bestHere left before after taken best = bestHere left before' after' taken best := by
  rw [bestHere, bestHere, passes, passes, flatMap_fronts_eq hleft]

theorem leftBehind_eq (hleft : ∀ r ∈ left, r.isPlain = true) (before' : Option Char) :
    leftBehind left before c = leftBehind left before' c := by
  rw [leftBehind, leftBehind, flatMap_fronts_eq hleft]

theorem matchFrom_ne_none (h : best ≠ none) : matchFrom left before taken best s ≠ none := by
  have hhere : ∀ {left : List Regex} {before after : Option Char} {taken : Nat}
      {best : Option Nat}, best ≠ none → bestHere left before after taken best ≠ none := by
    intro left before after taken best hbest
    unfold bestHere
    split_ifs <;> simp [hbest]
  induction s generalizing left before taken best with
  | nil => exact hhere h
  | cons c s ih =>
    rw [matchFrom_cons]
    split_ifs
    · exact hhere h
    · exact ih (hhere h)

/-- A match that ends at once is the one found up to here. -/
theorem matchFrom_eq_bestHere (h : ∀ n ∈ matchFrom left before taken best s, n ≤ taken) :
    matchFrom left before taken best s = bestHere left before s.head? taken best := by
  cases s with
  | nil => rfl
  | cons c s =>
    rw [matchFrom_cons] at h ⊢
    split_ifs with hempty
    · rfl
    · rw [if_neg hempty] at h
      cases hm : matchFrom (leftBehind left before c) (some c) (taken + 1)
          (bestHere left before (some c) taken best) s with
      | none =>
        cases hbest : bestHere left before (some c) taken best with
        | none => exact hbest.symm
        | some m => exact absurd hm (matchFrom_ne_none (by simp [hbest]))
      | some n =>
        rcases lang_of_matchFrom hm with hbest | ⟨r, -, hle, -⟩
        · exact hbest.symm
        · have hn := h n hm
          omega

/-- Where two texts begin alike, matches that end there are the same. -/
theorem matchFrom_congr (hleft : ∀ r ∈ left, r.isPlain = true)
    (h : ∀ n ∈ matchFrom left before taken best (s ++ t), n ≤ taken + s.length)
    (h' : ∀ n ∈ matchFrom left before' taken best (s ++ t'), n ≤ taken + s.length) :
    matchFrom left before taken best (s ++ t) = matchFrom left before' taken best (s ++ t') := by
  induction s generalizing left before before' taken best with
  | nil =>
    rw [matchFrom_eq_bestHere h, matchFrom_eq_bestHere h', bestHere_eq hleft]
  | cons c s ih =>
    rw [List.cons_append, matchFrom_cons, leftBehind_eq hleft before',
      bestHere_eq hleft before' (some c)] at h ⊢
    rw [List.cons_append, matchFrom_cons] at h' ⊢
    split_ifs with hempty
    · rfl
    · rw [if_neg hempty] at h h'
      refine ih (fun r hr => isPlain_of_mem_leftBehind hleft hr) (fun n hn => ?_) fun n hn => ?_
      · have hle := h n hn
        rw [List.length_cons] at hle
        omega
      · have hle := h' n hn
        rw [List.length_cons] at hle
        omega

/-- What follows a match of an expression without conditions makes no difference to it. -/
theorem matchLength?_congr (hr : r.isPlain = true)
    (h : ∀ n ∈ r.matchLength? before (s ++ t), n ≤ s.length)
    (h' : ∀ n ∈ r.matchLength? before' (s ++ t'), n ≤ s.length) :
    r.matchLength? before (s ++ t) = r.matchLength? before' (s ++ t') :=
  matchFrom_congr (List.forall_mem_singleton.mpr hr)
    (fun n hn => (Nat.zero_add s.length).symm ▸ h n hn)
    fun n hn => (Nat.zero_add s.length).symm ▸ h' n hn

end QueryGate.Regex
