import Mathlib.Logic.Function.Iterate
import Mathlib.Logic.Relation
import QueryGate.Proofs.Diagnostic.Places
import QueryGate.Proofs.Grammar.Build
import QueryGate.Proofs.Grammar.Scan

/-!
# Where ignored text ends

Ignored text is passed over in rounds, each of which tries every ignored expression once. A round
that moves nothing has met no match (`skipRound_eq_self_iff`), so the rounds come to rest where no
ignored expression has a match that is not empty, and what they went over is such matches one
behind the other (`Grammar.endsIgnored_skipOffset`). Every round leads to the same place
(`Grammar.exists_rounds_skipOffset`).
-/

namespace QueryGate

open Relation Text

variable {ρ : Type} [Scanner ρ] {ignored tried : List ρ} {s t : List Char}

/-! ## Rounds -/

/-- From a text to what is left of it behind a match of an ignored expression that is not empty. -/
def PassesOver (ignored : List ρ) (s t : List Char) : Prop :=
  ∃ r ∈ ignored, ∃ n, Scanner.nonempty? r s = some n ∧ t = s.drop n

theorem skipRound_cons (r : ρ) (ignored : List ρ) (s : List Char) :
    skipRound (r :: ignored) s = skipRound ignored (s.drop ((Scanner.nonempty? r s).getD 0)) :=
  rfl

theorem passesOver_skipRound (h : tried ⊆ ignored) (s : List Char) :
    ReflTransGen (PassesOver ignored) s (skipRound tried s) := by
  induction tried generalizing s with
  | nil => exact .refl
  | cons r rs ih =>
    rw [List.cons_subset] at h
    rw [skipRound_cons]
    cases hr : Scanner.nonempty? r s with
    | none => exact ih h.2 s
    | some n => exact .head ⟨r, h.1, n, hr, rfl⟩ (ih h.2 _)

/-- A round moves nothing exactly if no expression has a match where it begins. -/
theorem skipRound_eq_self_iff :
    skipRound ignored s = s ↔ ∀ r ∈ ignored, Scanner.nonempty? r s = none := by
  induction ignored with
  | nil => exact iff_of_true rfl (List.forall_mem_nil _)
  | cons r rs ih =>
    rw [skipRound_cons, List.forall_mem_cons]
    cases hr : Scanner.nonempty? r s with
    | none => simpa using ih
    | some n =>
      obtain ⟨hpos, hle⟩ := Scanner.nonempty?_le hr
      refine iff_of_false (fun h => ?_) (by simp)
      -- what comes off the front is not put back by the expressions that follow
      have hround := skipRound_length_le rs (s.drop n)
      rw [Option.getD_some] at h
      rw [h, List.length_drop] at hround
      omega

theorem skipRound_eq_self_of_length (h : ¬(skipRound ignored s).length < s.length) :
    skipRound ignored s = s :=
  (isSuffix_skipRound ignored s).eq_of_length
    (Nat.le_antisymm (skipRound_length_le ignored s) (Nat.le_of_not_lt h))

theorem passesOver_skipIgnored (ignored : List ρ) (s : List Char) :
    ReflTransGen (PassesOver ignored) s (skipIgnored ignored s) := by
  induction s using skipIgnored.induct ignored with
  | case1 s h ih =>
    rw [skipIgnored, if_pos h]
    exact (passesOver_skipRound (List.Subset.refl _) s).trans ih
  | case2 s h =>
    rw [skipIgnored, if_neg h]

/-- The rounds end with one that moves nothing. -/
theorem skipRound_skipIgnored (ignored : List ρ) (s : List Char) :
    skipRound ignored (skipIgnored ignored s) = skipIgnored ignored s := by
  induction s using skipIgnored.induct ignored with
  | case1 s h ih =>
    rw [skipIgnored, if_pos h]
    exact ih
  | case2 s h =>
    rw [skipIgnored, if_neg h]
    exact skipRound_eq_self_of_length h

theorem skipIgnored_skipRound (ignored : List ρ) (s : List Char) :
    skipIgnored ignored (skipRound ignored s) = skipIgnored ignored s := by
  by_cases h : (skipRound ignored s).length < s.length
  · rw [skipIgnored.eq_1 ignored s, if_pos h]
  · rw [skipRound_eq_self_of_length h]

/-- After a number of rounds that each move something, no more is passed over. -/
theorem exists_iterate_skipRound (ignored : List ρ) (s : List Char) :
    ∃ n, (∀ m < n, (skipRound ignored)^[m + 1] s ≠ (skipRound ignored)^[m] s) ∧
      (skipRound ignored)^[n] s = skipIgnored ignored s := by
  induction s using skipIgnored.induct ignored with
  | case1 s h ih =>
    obtain ⟨n, hmoves, hend⟩ := ih
    refine ⟨n + 1, fun m hm => ?_, ?_⟩
    · cases m with
      | zero => exact fun heq => Nat.ne_of_lt h (congrArg List.length heq)
      | succ m => exact hmoves m (Nat.lt_of_succ_lt_succ hm)
    · rw [Function.iterate_succ_apply, hend, skipIgnored_skipRound]
  | case2 s h =>
    refine ⟨0, fun m hm => absurd hm (Nat.not_lt_zero m), ?_⟩
    rw [skipIgnored, if_neg h]
    rfl

/-! ## Offsets -/

namespace Text

variable {text : List Char} {i j : Nat}

theorem dropBytes?_eq_some_iff :
    dropBytes? text i = some s ↔ ∃ u, text = u ++ s ∧ byteLength u = i := by
  refine ⟨eq_append_of_dropBytes?, ?_⟩
  rintro ⟨u, rfl, rfl⟩
  exact dropBytes?_byteLength_append u s

theorem add_byteLength_of_dropBytes? (h : dropBytes? text i = some s) :
    i + byteLength s = byteLength text := by
  obtain ⟨u, rfl, rfl⟩ := eq_append_of_dropBytes? h
  exact (byteLength_append u s).symm

/-- There is one offset behind which an end of a text stands. -/
theorem eq_of_dropBytes?_eq_some (hi : dropBytes? text i = some s)
    (hj : dropBytes? text j = some s) : i = j := by
  have hleft := add_byteLength_of_dropBytes? hi
  have hright := add_byteLength_of_dropBytes? hj
  omega

theorem dropBytes?_of_isSuffix (h : dropBytes? text i = some s) (ht : t <:+ s) :
    dropBytes? text (i + (byteLength s - byteLength t)) = some t := by
  obtain ⟨u, rfl, rfl⟩ := eq_append_of_dropBytes? h
  obtain ⟨w, rfl⟩ := ht
  refine dropBytes?_eq_some_iff.mpr ⟨u ++ w, (List.append_assoc ..).symm, ?_⟩
  simp only [byteLength_append]
  omega

theorem isBoundary_iff : IsBoundary text i ↔ ∃ s, dropBytes? text i = some s := by
  constructor
  · rintro ⟨u, ⟨s, rfl⟩, rfl⟩
    exact ⟨s, dropBytes?_byteLength_append u s⟩
  · rintro ⟨s, h⟩
    obtain ⟨u, rfl, hu⟩ := eq_append_of_dropBytes? h
    exact ⟨u, List.prefix_append u s, hu⟩

end Text

namespace Grammar

variable {g : Grammar ρ} {text : List Char} {i j start : Nat}

/-- A match of an ignored expression, which is not empty, stands between two offsets of a text. -/
def IgnoresBetween (g : Grammar ρ) (text : List Char) (i j : Nat) : Prop :=
  ∃ front piece rest, text = front ++ (piece ++ rest) ∧ i = byteLength front ∧
    j = byteLength (front ++ piece) ∧ piece ≠ [] ∧
      ∃ r ∈ g.ignored, Scanner.matchLength? r (piece ++ rest) = some piece.length

/-- The offset that one round of attempts with all ignored expressions leads to. -/
def roundOffset (g : Grammar ρ) (text : List Char) (offset : Nat) : Nat :=
  match dropBytes? text offset with
  | none => offset
  | some s => offset + (byteLength s - byteLength (skipRound g.ignored s))

theorem le_roundOffset (g : Grammar ρ) (text : List Char) (i : Nat) : i ≤ g.roundOffset text i := by
  unfold roundOffset
  split
  · exact Nat.le_refl i
  · exact Nat.le_add_right ..

theorem dropBytes?_skipOffset (h : dropBytes? text i = some s) :
    dropBytes? text (g.skipOffset text i) = some (skipIgnored g.ignored s) := by
  rw [skipOffset, h]
  exact dropBytes?_of_isSuffix h (isSuffix_skipIgnored g.ignored s)

theorem dropBytes?_roundOffset (h : dropBytes? text i = some s) :
    dropBytes? text (g.roundOffset text i) = some (skipRound g.ignored s) := by
  rw [roundOffset, h]
  exact dropBytes?_of_isSuffix h (isSuffix_skipRound g.ignored s)

theorem dropBytes?_iterate_roundOffset (h : dropBytes? text i = some s) (n : Nat) :
    dropBytes? text ((g.roundOffset text)^[n] i) = some ((skipRound g.ignored)^[n] s) := by
  induction n with
  | zero => exact h
  | succ n ih =>
    rw [Function.iterate_succ_apply', Function.iterate_succ_apply']
    exact dropBytes?_roundOffset ih

/-- No round changes where the rounds come to rest. -/
theorem skipOffset_roundOffset (h : dropBytes? text i = some s) :
    g.skipOffset text (g.roundOffset text i) = g.skipOffset text i := by
  have hround := dropBytes?_skipOffset (g := g) (dropBytes?_roundOffset (g := g) h)
  rw [skipIgnored_skipRound] at hround
  exact eq_of_dropBytes?_eq_some hround (dropBytes?_skipOffset h)

theorem skipOffset_iterate_roundOffset (h : dropBytes? text i = some s) (n : Nat) :
    g.skipOffset text ((g.roundOffset text)^[n] i) = g.skipOffset text i := by
  induction n with
  | zero => rfl
  | succ n ih =>
    rw [Function.iterate_succ_apply',
      skipOffset_roundOffset (dropBytes?_iterate_roundOffset h n), ih]

theorem ignoresBetween_of_passesOver (h : dropBytes? text i = some s)
    (hst : PassesOver g.ignored s t) :
    ∃ j, dropBytes? text j = some t ∧ g.IgnoresBetween text i j := by
  obtain ⟨r, hr, n, hn, rfl⟩ := hst
  obtain ⟨hpos, hle⟩ := Scanner.nonempty?_le hn
  obtain ⟨front, rfl, rfl⟩ := eq_append_of_dropBytes? h
  have hlength : (s.take n).length = n := List.length_take_of_le hle
  refine ⟨byteLength (front ++ s.take n), dropBytes?_eq_some_iff.mpr ⟨front ++ s.take n, ?_, rfl⟩,
    front, s.take n, s.drop n, ?_, rfl, rfl, List.ne_nil_of_length_pos (by omega), r, hr, ?_⟩
  · rw [List.append_assoc, List.take_append_drop]
  · rw [List.take_append_drop]
  · rw [List.take_append_drop, hlength]
    exact (Scanner.nonempty?_eq_some_iff.mp hn).1

theorem exists_ignoresBetween (h : dropBytes? text i = some s)
    (hst : ReflTransGen (PassesOver g.ignored) s t) :
    ∃ j, dropBytes? text j = some t ∧ ReflTransGen (g.IgnoresBetween text) i j := by
  induction hst with
  | refl => exact ⟨i, h, .refl⟩
  | tail _ hstep ih =>
    obtain ⟨j, hj, hpassed⟩ := ih
    obtain ⟨k, hk, hmatch⟩ := ignoresBetween_of_passesOver hj hstep
    exact ⟨k, hk, hpassed.tail hmatch⟩

/-- A match at an offset begins what stands behind it. -/
theorem IgnoresBetween.exists_nonempty? (hij : g.IgnoresBetween text i j)
    (h : dropBytes? text i = some s) : ∃ r ∈ g.ignored, ∃ n, Scanner.nonempty? r s = some n := by
  obtain ⟨front, piece, rest, rfl, rfl, -, hne, r, hr, hmatch⟩ := hij
  rw [dropBytes?_byteLength_append] at h
  obtain rfl := Option.some.inj h
  exact ⟨r, hr, piece.length, Scanner.nonempty?_eq_some_iff.mpr
    ⟨hmatch, List.length_pos_of_ne_nil hne⟩⟩

/-- Ignored text goes from one offset of a text to another and no further. -/
structure EndsIgnored (g : Grammar ρ) (text : List Char) (start stop : Nat) : Prop where
  isBoundary : IsBoundary text stop
  start_le : start ≤ stop
  le_byteLength : stop ≤ byteLength text
  /-- It is made of matches, one behind the other. -/
  passed : ReflTransGen (g.IgnoresBetween text) start stop
  maximal : ∀ j, ¬g.IgnoresBetween text stop j

theorem endsIgnored_skipOffset (hstart : IsBoundary text start) :
    g.EndsIgnored text start (g.skipOffset text start) := by
  obtain ⟨s, hs⟩ := isBoundary_iff.mp hstart
  have hstop := dropBytes?_skipOffset (g := g) hs
  have hfront := add_byteLength_of_dropBytes? hs
  have hback := add_byteLength_of_dropBytes? hstop
  have hrest : byteLength (skipIgnored g.ignored s) ≤ byteLength s := by
    obtain ⟨u, hu⟩ := isSuffix_skipIgnored g.ignored s
    rw [← hu, byteLength_append, hu]
    exact Nat.le_add_left ..
  refine ⟨isBoundary_iff.mpr ⟨_, hstop⟩, by omega, by omega, ?_, fun j hj => ?_⟩
  · obtain ⟨j, hj, hpassed⟩ := exists_ignoresBetween hs (passesOver_skipIgnored g.ignored s)
    rwa [eq_of_dropBytes?_eq_some hstop hj]
  · obtain ⟨r, hr, n, hn⟩ := hj.exists_nonempty? hstop
    have hnone := skipRound_eq_self_iff.mp (skipRound_skipIgnored g.ignored s) r hr
    rw [hnone] at hn
    cases hn

/-- From a boundary of characters on, rounds that move come to rest after a while, where the ignored
text ends : no ignored expression has a match there that is not empty. From there and from the end
of every round the same place is found. -/
theorem exists_rounds_skipOffset (hstart : IsBoundary text start) :
    g.EndsIgnored text start (g.skipOffset text start) ∧
    (∃ n, (∀ m < n, (g.roundOffset text)^[m] start < (g.roundOffset text)^[m + 1] start) ∧
      (g.roundOffset text)^[n] start = g.skipOffset text start ∧
      g.roundOffset text (g.skipOffset text start) = g.skipOffset text start) ∧
    g.skipOffset text (g.skipOffset text start) = g.skipOffset text start ∧
    ∀ n, g.skipOffset text ((g.roundOffset text)^[n] start) = g.skipOffset text start := by
  obtain ⟨s, hs⟩ := isBoundary_iff.mp hstart
  have hstop := dropBytes?_skipOffset (g := g) hs
  obtain ⟨n, hmoves, hend⟩ := exists_iterate_skipRound g.ignored s
  have hrounds : (g.roundOffset text)^[n] start = g.skipOffset text start := by
    have hn := dropBytes?_iterate_roundOffset (g := g) hs n
    rw [hend] at hn
    exact eq_of_dropBytes?_eq_some hn hstop
  refine ⟨endsIgnored_skipOffset hstart, ⟨n, fun m hm => ?_, hrounds, ?_⟩, ?_,
    skipOffset_iterate_roundOffset hs⟩
  · have hbefore := dropBytes?_iterate_roundOffset (g := g) hs m
    have hafter := dropBytes?_iterate_roundOffset (g := g) hs (m + 1)
    rw [Function.iterate_succ_apply'] at hafter ⊢
    refine Nat.lt_of_le_of_ne (le_roundOffset g text _) fun heq => hmoves m hm ?_
    rw [← heq, hbefore] at hafter
    rw [← Option.some.inj hafter]
  · have hround := dropBytes?_roundOffset (g := g) hstop
    rw [skipRound_skipIgnored] at hround
    exact eq_of_dropBytes?_eq_some hround hstop
  · have hagain := skipOffset_iterate_roundOffset (g := g) hs n
    rwa [hrounds] at hagain

/-- Comments that end with their line and blanks are ignored. -/
def commentsThenBlanks : String :=
  "s: \"x\"\n%ignore /#[^\\n]*\\n/\n%ignore / +/\n"

theorem exists_rounds_commentsThenBlanks : ∃ g : Grammar,
    compile commentsThenBlanks "s" = .ok g ∧ IsBoundary "é # ü\n  #\nx".toList 2 ∧
    g.EndsIgnored "é # ü\n  #\nx".toList 2 12 ∧
    (g.roundOffset "é # ü\n  #\nx".toList)^[2] 2 = 10 ∧
    g.skipOffset "é # ü\n  #\nx".toList 10 = 12 := by
  have hruns : (compile commentsThenBlanks "s").toOption.any (fun g : Grammar =>
      g.skipOffset "é # ü\n  #\nx".toList 2 = 12 ∧
        (g.roundOffset "é # ü\n  #\nx".toList)^[2] 2 = 10) = true := by decide +kernel
  obtain ⟨g, h, hskip, hround⟩ := exists_ok_of_any hruns
  have hstart : IsBoundary "é # ü\n  #\nx".toList 2 := ⟨['é'], by decide, by decide⟩
  obtain ⟨hends, -, -, hagain⟩ := exists_rounds_skipOffset (g := g) hstart
  refine ⟨g, h, hstart, hskip ▸ hends, hround, ?_⟩
  rw [← hround, hagain 2, hskip]

end Grammar

end QueryGate
