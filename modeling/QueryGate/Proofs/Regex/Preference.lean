import QueryGate.Proofs.Regex.Language

/-!
# Matches in order of preference

A `Matcher` gives what is left of a text behind each of its matches, the preferred match first.
Matchers are put together by sequence, ordered choice and greedy repetition.

* `matchLength?_eq_head?` : an expression without conditions matches what its matcher prefers;
* `Acts.repeated`, `Acts.sequence`, `Acts.choice` : expressions are put together as their matchers
  are.
-/

namespace QueryGate

/-- What is left of a text behind the matches at its start, in order of preference. -/
abbrev Matcher := List Char → List (List Char)

namespace Matcher

/-- The empty text. -/
def empty : Matcher := fun s => [s]

/-- One character that passes a test. -/
def char (test : Char → Bool) : Matcher
  | [] => []
  | c :: s => if test c then [s] else []

/-- One match behind the other. -/
def andThen (m m' : Matcher) : Matcher := fun s => (m s).flatMap m'

/-- One match behind the other, of any number of matchers. -/
def inOrder : List Matcher → Matcher
  | [] => empty
  | m :: ms => m.andThen (inOrder ms)

/-- A match of one of the matchers, the first of which is preferred. -/
def firstOf (ms : List Matcher) : Matcher := fun s => ms.flatMap (· s)

/-- A match a number of times. -/
def times (m : Matcher) : Nat → Matcher
  | 0 => empty
  | n + 1 => m.andThen (times m n)

/-- A match at most `n` times, and rather more often than less. -/
def upTo (m : Matcher) : Nat → Matcher
  | 0 => empty
  | n + 1 => fun s => (m s).flatMap (upTo m n) ++ [s]

/-- A match between two numbers of times, and rather more often than less. Matches that take a
character fit no more often than the text is long, which is the bound where there is no other. -/
def repeated (m : Matcher) (least : Nat) (most : Option Nat) : Matcher :=
  (m.times least).andThen fun s => m.upTo ((most.map (· - least)).getD s.length) s

theorem empty_andThen (m : Matcher) : empty.andThen m = m :=
  funext fun _ => List.flatMap_singleton ..

theorem andThen_empty (m : Matcher) : m.andThen empty = m :=
  funext fun s => List.flatMap_singleton' (m s)

theorem andThen_assoc (m₁ m₂ m₃ : Matcher) :
    (m₁.andThen m₂).andThen m₃ = m₁.andThen (m₂.andThen m₃) :=
  funext fun _ => List.flatMap_assoc ..

theorem inOrder_append (ms ms' : List Matcher) :
    inOrder (ms ++ ms') = (inOrder ms).andThen (inOrder ms') := by
  induction ms with
  | nil => exact (empty_andThen _).symm
  | cons m ms ih => rw [List.cons_append, inOrder, inOrder, ih, andThen_assoc]

theorem times_succ (m : Matcher) (n : Nat) : m.times (n + 1) = (m.times n).andThen m := by
  induction n with
  | zero => exact (andThen_empty m).trans (empty_andThen m).symm
  | succ n ih =>
    calc m.times (n + 2) = m.andThen (m.times (n + 1)) := rfl
      _ = m.andThen ((m.times n).andThen m) := by rw [ih]
      _ = (m.times (n + 1)).andThen m := (andThen_assoc ..).symm

end Matcher

namespace Regex

variable {r a b : Regex} {left : List Regex} {before : Option Char} {cls : CharClass} {c : Char}
  {s t : List Char} {taken : Nat} {best : Option Nat}

/-! ## Expressions as matchers -/

/-- What is left of a text behind the matches of an expression. It is decided by the first
character, as far as the expression can take one. -/
def rests : (s : List Char) → (r : Regex) → List (List Char)
  | [], r => (fronts none none r).flatMap fun
    | .pass => [[]]
    | .take _ _ => []
  | c :: s, r => (fronts none none r).flatMap fun
    | .pass => [c :: s]
    | .take cls rest => if cls.mem c then rests s rest else []

/-- An expression without conditions as a matcher. -/
def matcher (r : Regex) : Matcher := fun s => rests s r

/-- A front as a matcher. -/
def Front.matcher : Front → Matcher
  | pass, s => [s]
  | take _ _, [] => []
  | take cls rest, c :: s => if cls.mem c then rest.matcher s else []

theorem matcher_eq (r : Regex) (s : List Char) :
    r.matcher s = (fronts none none r).flatMap (·.matcher s) := by
  cases s <;> exact List.flatMap_congr fun front _ => by cases front <;> rfl

/-- Matches are taken from the front of a text, the rest of it is left as it is. -/
theorem suffix_of_mem_matcher (h : t ∈ r.matcher s) : t <:+ s := by
  induction s generalizing r with
  | nil =>
    rw [matcher_eq] at h
    obtain ⟨front, -, h⟩ := List.mem_flatMap.mp h
    cases front with
    | pass => exact List.mem_singleton.mp h ▸ List.suffix_rfl
    | take cls rest => cases h
  | cons c s ih =>
    rw [matcher_eq] at h
    obtain ⟨front, -, h⟩ := List.mem_flatMap.mp h
    cases front with
    | pass => exact List.mem_singleton.mp h ▸ List.suffix_rfl
    | take cls rest =>
      rw [Front.matcher] at h
      split_ifs at h
      · exact (ih h).trans (List.suffix_cons c s)
      · cases h

/-! ## The preferred match -/

/-- A second occurrence is never the first that has a value. -/
theorem findSome?_eraseDups {α : Type} (f : Regex → Option α) (rs : List Regex) :
    rs.eraseDups.findSome? f = rs.findSome? f := by
  induction hn : rs.length using Nat.strongRecOn generalizing rs with
  | _ n ih =>
    cases rs with
    | nil => rfl
    | cons r rs =>
      have hfilter : ∀ rs : List Regex, f r = none →
          (rs.filter fun r' => !r' == r).findSome? f = rs.findSome? f := by
        intro rs hr
        induction rs with
        | nil => rfl
        | cons r' rs ih =>
          by_cases heq : r' = r
          · simp [heq, hr, ih]
          · simp [heq, List.findSome?_cons, ih]
      have hle : (rs.filter fun r' => !r' == r).length < n := by
        rw [← hn, List.length_cons]
        exact Nat.lt_succ_of_le (List.length_filter_le ..)
      rw [List.eraseDups_cons, List.findSome?_cons, List.findSome?_cons, ih _ hle _ rfl]
      cases hr : f r with
      | none => exact hfilter rs hr
      | some x => rfl

theorem flatMap_matcher_eq (left : List Regex) (s : List Char) :
    left.flatMap (·.matcher s) = (left.flatMap (fronts none none)).flatMap (·.matcher s) := by
  rw [List.flatMap_assoc]
  exact List.flatMap_congr fun r _ => matcher_eq r s

/-- At the end of a text only a pass is a match. -/
theorem head?_flatMap_matcher_nil (next : List Front) :
    (next.flatMap (·.matcher [])).head? = if next.any Front.isPass then some [] else none := by
  induction next with
  | nil => rfl
  | cons front next ih =>
    cases front with
    | pass => rfl
    | take cls rest => exact ih

/-- In front of a character, everything behind a pass is given up. -/
theorem head?_flatMap_matcher_cons (next : List Front) (c : Char) (s : List Char) :
    (next.flatMap (·.matcher (c :: s))).head? =
      (((next.takeWhile (!·.isPass)).filterMap (Front.after? c)).findSome?
        fun r => (r.matcher s).head?).or
        (if next.any Front.isPass then some (c :: s) else none) := by
  induction next with
  | nil => rfl
  | cons front next ih =>
    cases front with
    | pass => rfl
    | take cls rest =>
      rw [List.flatMap_cons, List.head?_append, ih, Front.matcher]
      by_cases hc : cls.mem c = true
      · cases hrest : (rest.matcher s).head? <;>
          simp [Front.isPass, Front.after?, hc, hrest]
      · simp [Front.isPass, Front.after?, hc]

/-- The match that is found is the preferred one. -/
theorem matchFrom_eq_head? (hleft : ∀ r ∈ left, r.isPlain = true) :
    matchFrom left before taken best s =
      ((left.flatMap (·.matcher s)).head?.map fun t => taken + s.length - t.length).or best := by
  induction s generalizing left before taken best with
  | nil =>
    rw [matchFrom_nil, bestHere_eq hleft none none, bestHere, passes, flatMap_matcher_eq,
      head?_flatMap_matcher_nil]
    split_ifs <;> simp
  | cons c s ih =>
    have hbehind : ∀ r ∈ leftBehind left before c, r.isPlain = true := fun r hr =>
      isPlain_of_mem_leftBehind hleft hr
    have hhere : bestHere left before (some c) taken best =
        ((if passes left none none then some (c :: s) else none).map fun t =>
          taken + (c :: s).length - t.length).or best := by
      rw [bestHere_eq hleft none none, bestHere]
      split_ifs <;> simp
    have hleftBehind : ((leftBehind left before c).flatMap (·.matcher s)).head? =
        ((((left.flatMap (fronts none none)).takeWhile (!·.isPass)).filterMap
          (Front.after? c)).findSome? fun r => (r.matcher s).head?) := by
      rw [leftBehind, flatMap_fronts_eq hleft, List.head?_flatMap, findSome?_eraseDups]
    have hgo : matchFrom left before taken best (c :: s) =
        (((leftBehind left before c).flatMap (·.matcher s)).head?.map fun t =>
          taken + 1 + s.length - t.length).or (bestHere left before (some c) taken best) := by
      rw [matchFrom_cons]
      split_ifs with hempty
      · rw [List.isEmpty_iff.mp hempty]
        rfl
      · exact ih hbehind
    have hlength : taken + (c :: s).length = taken + 1 + s.length := by
      rw [List.length_cons]
      omega
    rw [hgo, hleftBehind, hhere, flatMap_matcher_eq, head?_flatMap_matcher_cons, hlength, passes]
    cases List.findSome? _ _ <;> simp

/-- An expression without conditions matches what its matcher prefers. -/
theorem matchLength?_eq_head? (hr : r.isPlain = true) (s : List Char) :
    r.matchLength? before s = (r.matcher s).head?.map fun t => s.length - t.length := by
  rw [matchLength?, matchFrom_eq_head? (List.forall_mem_singleton.mpr hr), List.flatMap_singleton,
    Option.or_none]
  simp only [Nat.zero_add]

/-! ## Expressions put together -/

theorem matcher_empty : empty.matcher = Matcher.empty := by
  funext s
  cases s <;> rfl

theorem matcher_chars (cls : CharClass) : (chars cls).matcher = Matcher.char cls.mem := by
  funext s
  cases s with
  | nil => rfl
  | cons c s =>
    rw [matcher_eq]
    simp [fronts, Front.matcher, Matcher.char, matcher_empty, Matcher.empty]

theorem matcher_andThen (a b : Regex) : (andThen a b).matcher = (seq a b).matcher := by
  funext s
  cases a with
  | empty => simp [andThen, matcher_eq, fronts]
  | _ => rfl

theorem matcher_seq (a b : Regex) : (seq a b).matcher = a.matcher.andThen b.matcher := by
  funext s
  rw [Matcher.andThen]
  induction s generalizing a with
  | nil =>
    rw [matcher_eq, matcher_eq a, fronts, List.flatMap_assoc, List.flatMap_assoc]
    refine List.flatMap_congr fun front _ => ?_
    cases front with
    | pass => simp [Front.matcher, matcher_eq b]
    | take cls rest => rfl
  | cons c s ih =>
    rw [matcher_eq, matcher_eq a, fronts, List.flatMap_assoc, List.flatMap_assoc]
    refine List.flatMap_congr fun front _ => ?_
    cases front with
    | pass => simp [Front.matcher, matcher_eq b]
    | take cls rest =>
      rw [List.flatMap_singleton, Front.matcher, Front.matcher]
      split_ifs
      · rw [matcher_andThen, ih]
      · rfl

theorem matcher_alt (a b : Regex) (s : List Char) :
    (alt a b).matcher s = a.matcher s ++ b.matcher s := by
  rw [matcher_eq, fronts, List.flatMap_append, ← matcher_eq, ← matcher_eq]

/-! ## Repetition -/

/-- An expression that matches nothing in the empty text does not pass. -/
theorem pass_notMem (h : a.matcher [] = []) : Front.pass ∉ fronts none none a := by
  intro hpass
  rw [matcher_eq, List.flatMap_eq_nil_iff] at h
  exact absurd (h _ hpass) (List.cons_ne_nil _ _)

theorem map_followedBy_eq (h : a.matcher [] = []) (b : Regex) :
    (fronts none none a).map (Front.followedBy b) = fronts none none (seq a b) := by
  rw [fronts, List.map_eq_flatMap]
  refine List.flatMap_congr fun front hfront => ?_
  cases front with
  | pass => exact absurd hfront (pass_notMem h)
  | take cls rest => rfl

theorem matcher_plus (h : a.matcher [] = []) :
    (plus true a).matcher = a.matcher.andThen (more true a).matcher := by
  rw [← matcher_seq]
  funext s
  rw [matcher_eq, fronts, map_followedBy_eq h, ← matcher_eq]

theorem matcher_more (h : a.matcher [] = []) (s : List Char) :
    (more true a).matcher s = a.matcher.andThen (more true a).matcher s ++ [s] := by
  have hall : (fronts none none a).filter (!·.isPass) = fronts none none a := by
    refine List.filter_eq_self.mpr fun front hfront => ?_
    cases front with
    | pass => exact absurd hfront (pass_notMem h)
    | take cls rest => rfl
  rw [← matcher_seq, matcher_eq, fronts, hall, map_followedBy_eq h, matcher_eq (seq _ _)]
  simp [Front.matcher]

theorem length_lt_of_mem_matcher (h : a.matcher [] = []) (ht : t ∈ a.matcher s) :
    t.length < s.length := by
  rw [matcher_eq] at ht
  obtain ⟨front, hfront, ht⟩ := List.mem_flatMap.mp ht
  cases front with
  | pass => exact absurd hfront (pass_notMem h)
  | take cls rest =>
    cases s with
    | nil => cases ht
    | cons c s =>
      rw [Front.matcher] at ht
      split_ifs at ht
      · exact Nat.lt_succ_of_le (suffix_of_mem_matcher ht).length_le
      · cases ht

/-- As many repetitions as there are characters are enough. -/
theorem matcher_more_eq_upTo (h : a.matcher [] = []) {n : Nat} (hn : s.length ≤ n) :
    (more true a).matcher s = a.matcher.upTo n s := by
  induction n generalizing s with
  | zero =>
    obtain rfl := List.length_eq_zero_iff.mp (Nat.le_zero.mp hn)
    rw [matcher_more h, Matcher.andThen, h]
    rfl
  | succ n ih =>
    rw [matcher_more h, Matcher.andThen, Matcher.upTo]
    congr 1
    refine List.flatMap_congr fun t ht => ih ?_
    have hlt := length_lt_of_mem_matcher h ht
    omega

theorem pass_mem_of_isNullable (ha : a.isPlain = true) (h : a.isNullable = true) :
    Front.pass ∈ fronts none none a := by
  induction a with
  | empty => exact List.mem_singleton_self _
  | chars cls => cases h
  | look cond asciiWords => cases ha
  | seq a b iha ihb =>
    rw [isPlain, Bool.and_eq_true] at ha
    rw [isNullable, Bool.and_eq_true] at h
    exact List.mem_flatMap.mpr ⟨_, iha ha.1 h.1, ihb ha.2 h.2⟩
  | alt a b iha ihb =>
    rw [isPlain, Bool.and_eq_true] at ha
    rw [isNullable, Bool.or_eq_true] at h
    exact List.mem_append.mpr (h.imp (iha ha.1) (ihb ha.2))
  | more greedy a ih => cases greedy <;> simp [fronts]
  | plus greedy a ih => exact List.mem_map.mpr ⟨_, ih ha h, rfl⟩

theorem isNullable_eq_false (ha : a.isPlain = true) (h : a.matcher [] = []) :
    a.isNullable = false :=
  Bool.eq_false_iff.mpr fun hnull => pass_notMem h (pass_mem_of_isNullable ha hnull)

/-- The expression has no conditions and matches as the matcher does. -/
structure Acts (r : Regex) (m : Matcher) : Prop where
  isPlain : r.isPlain = true
  matcher_eq : r.matcher = m

variable {m m' : Matcher}

theorem acts_empty : Acts .empty Matcher.empty :=
  ⟨rfl, matcher_empty⟩

theorem acts_chars (cls : CharClass) : Acts (.chars cls) (Matcher.char cls.mem) :=
  ⟨rfl, matcher_chars cls⟩

theorem Acts.andThen (ha : Acts a m) (hb : Acts b m') : Acts (andThen a b) (m.andThen m') :=
  ⟨isPlain_andThen ha.isPlain hb.isPlain,
    by rw [matcher_andThen, matcher_seq, ha.matcher_eq, hb.matcher_eq]⟩

theorem Acts.alt (ha : Acts a m) (hb : Acts b m') : Acts (.alt a b) fun s => m s ++ m' s :=
  ⟨by rw [Regex.isPlain, ha.isPlain, hb.isPlain]; rfl,
    by funext s; rw [matcher_alt, ha.matcher_eq, hb.matcher_eq]⟩

theorem Acts.times (ha : Acts a m) (hb : Acts b m') (n : Nat) :
    Acts (times a b n) ((m.times n).andThen m') := by
  induction n with
  | zero =>
    rw [Matcher.times, Matcher.empty_andThen]
    exact hb
  | succ n ih =>
    rw [Matcher.times, Matcher.andThen_assoc]
    exact ha.andThen ih

theorem Acts.atMost (ha : Acts a m) (n : Nat) : Acts (atMost true a n) (m.upTo n) := by
  induction n with
  | zero => exact acts_empty
  | succ n ih =>
    cases n with
    | zero =>
      have hone : m.upTo 1 = fun s => m s ++ Matcher.empty s :=
        funext fun s => congrArg (· ++ [s]) (List.flatMap_singleton' (m s))
      rw [hone]
      exact ha.alt acts_empty
    | succ n => exact (ha.andThen ih).alt acts_empty

/-- A repetition of what does not match the empty text. -/
theorem Acts.repeated (ha : Acts a m) (h : m [] = []) (least : Nat) (most : Option Nat) :
    Acts (repeated true a least most) (m.repeated least most) := by
  obtain ⟨hplain, rfl⟩ := ha
  have ha : Acts a a.matcher := ⟨hplain, rfl⟩
  cases most with
  | some most => exact ha.times (ha.atMost (most - least)) least
  | none =>
    have hmore : Acts (.more true a) fun s => a.matcher.upTo s.length s :=
      ⟨hplain, funext fun s => matcher_more_eq_upTo h (Nat.le_refl _)⟩
    cases least with
    | zero =>
      have hstar : Regex.repeated true a 0 none = .more true a := by
        simp [Regex.repeated, star, isNullable_eq_false hplain h]
      rw [hstar, Matcher.repeated, Matcher.times, Matcher.empty_andThen]
      exact hmore
    | succ n =>
      have hplus : Acts (.plus true a) (a.matcher.andThen fun s => a.matcher.upTo s.length s) :=
        ⟨hplain, by rw [matcher_plus h, hmore.matcher_eq]⟩
      rw [Matcher.repeated, Matcher.times_succ, Matcher.andThen_assoc]
      exact ha.times hplus n

/-! ## Lists of expressions -/

theorem Acts.sequence {rs : List Regex} {ms : List Matcher} (h : List.Forall₂ Acts rs ms) :
    Acts (sequence rs) (.inOrder ms) := by
  induction h with
  | nil => exact acts_empty
  | cons hr hrs ih =>
    cases hrs with
    | nil =>
      rw [Matcher.inOrder, Matcher.inOrder, Matcher.andThen_empty]
      exact hr
    | cons => exact hr.andThen ih

theorem Acts.choice {rs : List Regex} {ms : List Matcher} (h : List.Forall₂ Acts rs ms)
    (hne : rs ≠ []) : Acts (choice rs) (.firstOf ms) := by
  induction h with
  | nil => exact absurd rfl hne
  | cons hr hrs ih =>
    cases hrs with
    | nil => exact ⟨hr.isPlain, hr.matcher_eq.trans (funext fun s => (List.append_nil _).symm)⟩
    | cons => exact hr.alt (ih (List.cons_ne_nil _ _))

end Regex

end QueryGate
