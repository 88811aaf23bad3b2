import Mathlib.Data.List.Sort
import Mathlib.Tactic.SplitIfs
import QueryGate.Regex.ClassSize

/-!
# What the size of a set depends on

No character joins or leaves a set but at one of its cuts (`CharClass.mem_congr`). So the edges of
a set are the code points where its members begin or end (`CharClass.mem_edges_iff`), its runs are
its members (`CharClass.inRanges_runs`), and sets with the same members have the same size, however
they are written (`CharClass.size_congr`).
-/

namespace QueryGate.Regex

open Text

variable {cuts cuts' ns : List Nat} {x y n : Nat} {c d : Char}

/-! ## Cuts -/

/-- No cut stands between two numbers. -/
def SameSide (cuts : List Nat) (x y : Nat) : Prop :=
  ∀ n ∈ cuts, n ≤ x ↔ n ≤ y

namespace SameSide

theorem symm (h : SameSide cuts x y) : SameSide cuts y x :=
  fun n hn => (h n hn).symm

theorem append_iff : SameSide (cuts ++ cuts') x y ↔ SameSide cuts x y ∧ SameSide cuts' x y :=
  List.forall_mem_append

/-- A number with a cut on both sides is alone. -/
theorem eq_of_mem (h : SameSide cuts x y) (hx : x ∈ cuts) (hnext : x + 1 ∈ cuts) : x = y := by
  have hle := (h x hx).mp (Nat.le_refl x)
  have hlt := mt (h (x + 1) hnext).mpr (Nat.not_succ_le_self x)
  omega

theorem ascii (h : SameSide asciiCuts x y) : x = y ∨ 128 ≤ x ∧ 128 ≤ y := by
  have halone : ∀ {x y}, SameSide asciiCuts x y → x < 128 → x = y := fun h hlt =>
    h.eq_of_mem (List.mem_range.mpr (by omega)) (List.mem_range.mpr (by omega))
  by_cases hx : x < 128
  · exact Or.inl (halone h hx)
  · by_cases hy : y < 128
    · exact Or.inl (halone h.symm hy).symm
    · exact Or.inr ⟨Nat.not_lt.mp hx, Nat.not_lt.mp hy⟩

theorem inRanges_eq {ranges : List (Nat × Nat)} (h : SameSide (rangeCuts ranges) x y) :
    inRanges ranges x = inRanges ranges y := by
  have hside : ∀ r ∈ ranges, (r.1 ≤ x && x ≤ r.2) = (r.1 ≤ y && y ≤ r.2) := by
    intro r hr
    have hfirst := h r.1 (List.mem_flatMap.mpr ⟨r, hr, by simp⟩)
    have hnext := h (r.2 + 1) (List.mem_flatMap.mpr ⟨r, hr, by simp⟩)
    rw [Bool.eq_iff_iff]
    simp only [Bool.and_eq_true, decide_eq_true_eq]
    omega
  rw [Bool.eq_iff_iff, inRanges, inRanges, List.any_eq_true, List.any_eq_true]
  exact exists_congr fun r => and_congr_right fun hr => by rw [hside r hr]

theorem findRun_eq {runs : Array (Nat × String)} (h : SameSide (tableCuts runs) x y)
    (fuel lo hi : Nat) : findRun runs x fuel lo hi = findRun runs y fuel lo hi := by
  induction fuel generalizing lo hi with
  | zero => rfl
  | succ fuel ih =>
    have hside : (runs[(lo + hi) / 2]?.map (·.1)).getD 0 ≤ x ↔
        (runs[(lo + hi) / 2]?.map (·.1)).getD 0 ≤ y := by
      cases hrun : runs[(lo + hi) / 2]? with
      | none => exact iff_of_true (Nat.zero_le x) (Nat.zero_le y)
      | some run =>
        exact h run.1 (List.mem_map_of_mem (Array.mem_toList_iff.mpr (Array.mem_of_getElem? hrun)))
    simp only [findRun, hside, ih]

theorem runLabel_eq {runs : Array (Nat × String)} (h : SameSide (tableCuts runs) x y) :
    runLabel runs x = runLabel runs y := by
  rw [runLabel, h.findRun_eq, runLabel]

end SameSide

/-! ## Members -/

theorem beq_eq_decide_toNat (c d : Char) : (c == d) = decide (c.toNat = d.toNat) := by
  rw [Bool.eq_iff_iff, beq_iff_eq, decide_eq_true_eq]
  exact ⟨congrArg Char.toNat, fun h => Char.ext (UInt32.toNat_inj.mp h)⟩

theorem isWhite_eq_inRanges (c : Char) : isWhite c = inRanges whiteRanges c.toNat := by
  have hle : ∀ a b : Char, a ≤ b ↔ a.toNat ≤ b.toNat := fun _ _ => Iff.rfl
  rw [Bool.eq_iff_iff]
  simp only [isWhite, inRanges, whiteRanges, beq_eq_decide_toNat, hle, List.any_cons, List.any_nil,
    Bool.or_false, Bool.or_eq_true, Bool.and_eq_true, decide_eq_true_eq, Char.reduceToNat]
  omega

theorem not_val_lt (h : 128 ≤ c.toNat) : ¬c.val < 128 :=
  Nat.not_lt.mpr h

theorem isAlphabetic_eq (hascii : SameSide asciiCuts c.toNat d.toNat)
    (h : SameSide (rangeCuts alphabeticRanges) c.toNat d.toNat) :
    isAlphabetic c = isAlphabetic d := by
  rcases hascii.ascii with heq | ⟨hc, hd⟩
  · rw [Char.ext (UInt32.toNat_inj.mp heq)]
  · rw [isAlphabetic, isAlphabetic, if_neg (not_val_lt hc), if_neg (not_val_lt hd), h.inRanges_eq]

theorem categoryOf_eq (h : SameSide (tableCuts categoryTable) c.toNat d.toNat) :
    categoryOf c = categoryOf d :=
  h.runLabel_eq

theorem isDecimalDigit_eq (hascii : SameSide asciiCuts c.toNat d.toNat)
    (h : SameSide (tableCuts categoryTable) c.toNat d.toNat) :
    isDecimalDigit c = isDecimalDigit d := by
  rcases hascii.ascii with heq | ⟨hc, hd⟩
  · rw [Char.ext (UInt32.toNat_inj.mp heq)]
  · rw [isDecimalDigit, isDecimalDigit, if_neg (not_val_lt hc), if_neg (not_val_lt hd),
      categoryOf_eq h]

theorem isWordMember_eq (hascii : SameSide asciiCuts c.toNat d.toNat)
    (hletter : SameSide (rangeCuts alphabeticRanges) c.toNat d.toNat)
    (hcategory : SameSide (tableCuts categoryTable) c.toNat d.toNat)
    (hjoiner : SameSide (rangeCuts [(0x200C, 0x200C), (0x200D, 0x200D)]) c.toNat d.toNat) :
    isWordMember c = isWordMember d := by
  have hjoiners : ∀ e : Char, e ∈ ['\u200c', '\u200d'] → (c == e) = (d == e) := by
    intro e he
    have hcuts : ∀ e : Char, e ∈ ['\u200c', '\u200d'] →
        e.toNat ∈ rangeCuts [(0x200C, 0x200C), (0x200D, 0x200D)] ∧
        e.toNat + 1 ∈ rangeCuts [(0x200C, 0x200C), (0x200D, 0x200D)] := by simp [rangeCuts]
    have hfirst := hjoiner e.toNat (hcuts e he).1
    have hnext := hjoiner (e.toNat + 1) (hcuts e he).2
    rw [beq_eq_decide_toNat, beq_eq_decide_toNat, decide_eq_decide]
    omega
  rcases hascii.ascii with heq | ⟨hc, hd⟩
  · rw [Char.ext (UInt32.toNat_inj.mp heq)]
  · rw [isWordMember, isWordMember, if_neg (not_val_lt hc), if_neg (not_val_lt hd),
      isAlphabetic_eq hascii hletter, categoryOf_eq hcategory, hjoiners '\u200c' (by decide),
      hjoiners '\u200d' (by decide)]

/-- Characters without a cut between them have the same properties. -/
theorem Property.holds_congr {p : Property} (h : SameSide p.cuts c.toNat d.toNat) :
    p.holds c = p.holds d := by
  cases p with
  | any => rfl
  | ascii =>
    have hside := h 0x80 (List.mem_singleton.mpr rfl)
    rw [Property.holds, Property.holds, decide_eq_decide]
    change c.toNat < 0x80 ↔ d.toNat < 0x80
    omega
  | word =>
    obtain ⟨h, hjoiner⟩ := SameSide.append_iff.mp h
    obtain ⟨h, hcategory⟩ := SameSide.append_iff.mp h
    obtain ⟨hascii, hletter⟩ := SameSide.append_iff.mp h
    exact isWordMember_eq hascii hletter hcategory hjoiner
  | digit =>
    obtain ⟨hascii, hcategory⟩ := SameSide.append_iff.mp h
    exact isDecimalDigit_eq hascii hcategory
  | space =>
    rw [Property.holds, Property.holds, isWhite_eq_inRanges, isWhite_eq_inRanges]
    exact h.inRanges_eq
  | alphabetic =>
    obtain ⟨hascii, hletter⟩ := SameSide.append_iff.mp h
    exact isAlphabetic_eq hascii hletter
  | category codes => exact congrArg codes.contains (categoryOf_eq h)
  | script code => exact congrArg (· == code) h.runLabel_eq
  | table ranges => exact h.inRanges_eq

/-- A character beyond ASCII that is no member of an orbit which meets the set is in the closure if
it is in the set. -/
theorem CharClass.folded_mem_eq {a : CharClass} (hc : 128 ≤ c.toNat)
    (hnot : c.toNat ∉ a.orbitMembers) : (CharClass.folded a).mem c = a.mem c := by
  rw [CharClass.mem, caseOrbit, if_neg (not_val_lt hc), tableCaseOrbit, List.any_cons]
  cases hrow : caseOrbitTable.find? fun row => row.contains c.toNat with
  | none => simp
  | some row =>
    have hmem := List.mem_of_find?_eq_some hrow
    have hcrow : c.toNat ∈ row := by simpa using List.find?_some hrow
    have hnone : ∀ n ∈ row, a.mem (Char.ofNat n) = false := fun n hn =>
      Bool.eq_false_iff.mpr fun hmem' => hnot (List.mem_flatten.mpr ⟨row, List.mem_filter.mpr
        ⟨hmem, List.any_eq_true.mpr ⟨n, hn, hmem'⟩⟩, hcrow⟩)
    have hrest : ((row.map Char.ofNat).filter (· != c)).any a.mem = false := by
      refine List.any_eq_false.mpr fun e he => ?_
      obtain ⟨n, hn, rfl⟩ := List.mem_map.mp (List.mem_of_mem_filter he)
      rw [hnone n hn]
      exact Bool.false_ne_true
    rw [Option.getD_some, hrest, Bool.or_false]

theorem swapCase_eq_self (hc : 128 ≤ c.toNat) : swapCase c = c := by
  have hupper : ¬(c.val ≥ 'A'.val ∧ c.val ≤ 'Z'.val) := fun h =>
    absurd (show c.toNat ≤ 90 from h.2) (by omega)
  have hlower : ¬('a'.val ≤ c.val ∧ c.val ≤ 'z'.val) := fun h =>
    absurd (show c.toNat ≤ 122 from h.2) (by omega)
  calc swapCase c = c.toUpper := if_neg (mt of_decide_eq_true hupper)
    _ = c := dif_neg hlower

/-- Without a cut between them, two characters are both in the set or both not. -/
theorem CharClass.mem_congr {a : CharClass} (h : SameSide a.cuts c.toNat d.toNat) :
    a.mem c = a.mem d := by
  induction a generalizing c d with
  | empty => rfl
  | range first last =>
    have hin : ∀ e : Char, (range first last).mem e =
        inRanges [(first.toNat, last.toNat)] e.toNat := fun e => (Bool.or_false _).symm
    rw [hin, hin, h.inRanges_eq]
  | property p => exact Property.holds_congr h
  | compl a ih => exact congrArg (!·) (ih h)
  | union a b iha ihb | inter a b iha ihb | diff a b iha ihb | symmDiff a b iha ihb =>
    obtain ⟨ha, hb⟩ := SameSide.append_iff.mp h
    rw [mem, mem, iha ha, ihb hb]
  | folded a ih =>
    obtain ⟨h, horbits⟩ := SameSide.append_iff.mp h
    obtain ⟨ha, hascii⟩ := SameSide.append_iff.mp h
    by_cases heq : c.toNat = d.toNat
    · rw [Char.ext (UInt32.toNat_inj.mp heq)]
    · obtain ⟨hc, hd⟩ := hascii.ascii.resolve_left heq
      have halone : ∀ {x y}, SameSide (rangeCuts (a.orbitMembers.map fun n => (n, n))) x y →
          x ∈ a.orbitMembers → x = y := fun h hx =>
        h.eq_of_mem (List.mem_flatMap.mpr ⟨(_, _), List.mem_map_of_mem hx, by simp⟩)
          (List.mem_flatMap.mpr ⟨(_, _), List.mem_map_of_mem hx, by simp⟩)
      rw [folded_mem_eq hc fun hmem => heq (halone horbits hmem),
        folded_mem_eq hd fun hmem => heq (halone horbits.symm hmem).symm, ih ha]
  | foldedAscii a ih =>
    obtain ⟨ha, hascii⟩ := SameSide.append_iff.mp h
    rcases hascii.ascii with heq | ⟨hc, hd⟩
    · rw [Char.ext (UInt32.toNat_inj.mp heq)]
    · rw [mem, mem, swapCase_eq_self hc, swapCase_eq_self hd, ih ha]

/-! ## Code points in order -/

theorem toNat_ofNat (hn : n.isValidChar) : (Char.ofNat n).toNat = n := by
  rw [Char.ofNat, dif_pos hn]
  rfl

theorem mem_insertOnce_iff {m : Nat} : m ∈ insertOnce n ns ↔ m = n ∨ m ∈ ns := by
  induction ns with
  | nil => simp [insertOnce]
  | cons k ks ih =>
    rw [insertOnce]
    split_ifs with hlt heq
    · exact List.mem_cons
    · subst heq
      simp
    · rw [List.mem_cons, ih, List.mem_cons]
      exact or_left_comm

theorem pairwise_insertOnce (h : ns.Pairwise (· < ·)) : (insertOnce n ns).Pairwise (· < ·) := by
  induction ns with
  | nil => exact List.pairwise_singleton ..
  | cons k ks ih =>
    obtain ⟨hk, hks⟩ := List.pairwise_cons.mp h
    rw [insertOnce]
    split_ifs with hlt heq
    · refine List.pairwise_cons.mpr ⟨fun m hm => ?_, h⟩
      rcases List.mem_cons.mp hm with rfl | hm
      · exact hlt
      · exact Nat.lt_trans hlt (hk m hm)
    · exact h
    · refine List.pairwise_cons.mpr ⟨fun m hm => ?_, ih hks⟩
      rcases mem_insertOnce_iff.mp hm with rfl | hm
      · omega
      · exact hk m hm

theorem mem_foldr_insertOnce_iff : n ∈ ns.foldr insertOnce [] ↔ n ∈ ns := by
  induction ns with
  | nil => exact Iff.rfl
  | cons k ks ih => rw [List.foldr_cons, mem_insertOnce_iff, ih, List.mem_cons]

theorem pairwise_foldr_insertOnce (ns : List Nat) :
    (ns.foldr insertOnce []).Pairwise (· < ·) := by
  induction ns with
  | nil => exact .nil
  | cons k ks ih => exact pairwise_insertOnce ih

/-! ## Runs between bounds -/

variable {f : Nat → Bool} {m first next : Nat}

/-- Numbers in order at which a bounded set of numbers begins to have members or to have none. -/
structure Bounds (f : Nat → Bool) (ns : List Nat) : Prop where
  ascending : ns.Pairwise (· < ·)
  mem_iff : ∀ n, n ∈ ns ↔ f n ≠ (0 < n && f (n - 1))
  finite : ∃ m, ∀ n, m ≤ n → f n = false

namespace Bounds

/-- Between two bounds nothing changes. -/
theorem eq_of_le (h : Bounds f ns) (hle : m ≤ n) (hnot : ∀ k ∈ ns, k ≤ m ∨ n < k) : f n = f m := by
  induction n, hle using Nat.le_induction with
  | base => rfl
  | succ n hle ih =>
    have hstep : n + 1 ∉ ns := fun hmem => by
      have := hnot _ hmem
      omega
    calc f (n + 1) = f n := by simpa [h.mem_iff] using hstep
      _ = f m := ih fun k hk => (hnot k hk).imp_right (by omega)

theorem eq_false_of_lt (h : Bounds f ns) (hnot : ∀ k ∈ ns, n < k) : f n = false := by
  have hzero : 0 ∉ ns := fun hmem => absurd (hnot 0 hmem) (Nat.not_lt_zero n)
  calc f n = f 0 := h.eq_of_le (Nat.zero_le n) fun k hk => Or.inr (hnot k hk)
    _ = false := by simpa [h.mem_iff] using hzero

theorem eq_true_head (h : Bounds f (first :: ns)) : f first = true := by
  have hturn := (h.mem_iff first).mp (List.mem_cons_self ..)
  have hbefore : (0 < first && f (first - 1)) = false := by
    rcases Nat.eq_zero_or_pos first with rfl | hpos
    · rfl
    · rw [h.eq_false_of_lt, Bool.and_false]
      intro k hk
      rcases List.mem_cons.mp hk with rfl | hk
      · omega
      · have := (List.pairwise_cons.mp h.ascending).1 k hk
        omega
  rw [hbefore] at hturn
  exact Bool.eq_true_of_not_eq_false hturn

/-- The first run ends in front of the second bound. -/
theorem eq_decide (h : Bounds f (first :: next :: ns)) (hn : n < next) :
    f n = decide (first ≤ n) := by
  obtain ⟨hfirst, hnext⟩ := List.pairwise_cons.mp h.ascending
  have hgap : ∀ k ∈ first :: next :: ns, k = first ∨ n < k := by
    intro k hk
    rcases List.mem_cons.mp hk with rfl | hk
    · exact Or.inl rfl
    rcases List.mem_cons.mp hk with rfl | hk
    · exact Or.inr hn
    · exact Or.inr (Nat.lt_trans hn ((List.pairwise_cons.mp hnext).1 k hk))
  by_cases hle : first ≤ n
  · rw [decide_eq_true hle, ← h.eq_true_head]
    exact h.eq_of_le hle fun k hk => (hgap k hk).imp_left Nat.le_of_eq
  · rw [decide_eq_false hle]
    exact h.eq_false_of_lt fun k hk => (hgap k hk).elim (by omega) id

theorem eq_false_next (h : Bounds f (first :: next :: ns)) : f next = false := by
  have hlt : first < next := (List.pairwise_cons.mp h.ascending).1 next (List.mem_cons_self ..)
  have hturn := (h.mem_iff next).mp (by simp)
  rw [h.eq_decide (n := next - 1) (by omega), decide_eq_true (by omega : 0 < next),
    decide_eq_true (by omega : first ≤ next - 1)] at hturn
  exact Bool.eq_false_of_not_eq_true hturn

/-- The bounds behind the first run. -/
theorem behind (h : Bounds f (first :: next :: ns)) :
    Bounds (fun n => decide (next ≤ n) && f n) ns where
  ascending := h.ascending.of_cons.of_cons
  finite := h.finite.imp fun m hm n hn => by rw [hm n hn, Bool.and_false]
  mem_iff n := by
    have hlt : first < next := (List.pairwise_cons.mp h.ascending).1 next (List.mem_cons_self ..)
    have hrest : n ∈ ns → next < n := (List.pairwise_cons.mp h.ascending.of_cons).1 n
    rcases Nat.lt_trichotomy n next with hn | rfl | hn
    · have hnot : ¬next ≤ n := by omega
      have hnot' : ¬next ≤ n - 1 := by omega
      simpa [hnot, hnot'] using mt hrest (by omega)
    · have hnot' : ¬n ≤ n - 1 := by omega
      simpa [h.eq_false_next, hnot'] using mt hrest (by omega)
    · have hmem : n ∈ ns ↔ n ∈ first :: next :: ns := by
        simp [Nat.ne_of_gt hn, Nat.ne_of_gt (Nat.lt_trans hlt hn)]
      rw [hmem, h.mem_iff, decide_eq_true (by omega : next ≤ n),
        decide_eq_true (by omega : next ≤ n - 1), Bool.true_and, Bool.true_and]

/-- The runs between bounds are where the members are. -/
theorem inRanges_pairUp (h : Bounds f ns) (n : Nat) : inRanges (pairUp ns) n = f n := by
  induction ns using pairUp.induct generalizing f with
  | case1 first next rest ih =>
    have hlt : first < next := (List.pairwise_cons.mp h.ascending).1 next (List.mem_cons_self ..)
    change ((first ≤ n && n ≤ next - 1) || inRanges (pairUp rest) n) = f n
    rw [ih h.behind]
    by_cases hn : n < next
    · rw [h.eq_decide hn, decide_eq_true (by omega : n ≤ next - 1),
        decide_eq_false (by omega : ¬next ≤ n), Bool.and_true, Bool.false_and, Bool.or_false]
    · rw [decide_eq_false (by omega : ¬n ≤ next - 1), decide_eq_true (by omega : next ≤ n),
        Bool.and_false, Bool.false_or, Bool.true_and]
  | case2 ns hshort =>
    match ns, h with
    | [], h => exact (h.eq_false_of_lt fun k hk => absurd hk List.not_mem_nil).symm
    | [first], h =>
      -- The last run would go on forever.
      obtain ⟨m, hm⟩ := h.finite
      have hlast : f (first + m) = f first :=
        h.eq_of_le (Nat.le_add_right ..) fun k hk => Or.inl (List.mem_singleton.mp hk).le
      rw [hm _ (Nat.le_add_left ..), h.eq_true_head] at hlast
      cases hlast
    | first :: next :: rest, h => exact (hshort first next rest rfl).elim

end Bounds

/-! ## The runs of a set -/

namespace CharClass

variable {a b : CharClass}

/-- Away from the cuts a number is a member where the number before it is one. -/
theorem changesAt_eq_false (h : n ∉ [0, 0xD800, 0xE000, 0x110000] ++ a.cuts) :
    a.changesAt n = false := by
  have hmarks : n ≠ 0 ∧ n ≠ 0xD800 ∧ n ≠ 0xE000 ∧ n ≠ 0x110000 := by
    refine ⟨?_, ?_, ?_, ?_⟩ <;> rintro rfl <;> simp at h
  have hvalid : n.isValidChar ↔ (n - 1).isValidChar := by
    simp only [Nat.isValidChar]
    omega
  have hsame : a.memAt n = a.memAt (n - 1) := by
    rw [memAt, memAt]
    by_cases hn : n.isValidChar
    · rw [decide_eq_true hn, decide_eq_true (hvalid.mp hn)]
      refine congrArg (true && ·) (mem_congr fun m hm => ?_)
      have hne : m ≠ n := fun heq => h (List.mem_append_right _ (heq ▸ hm))
      rw [toNat_ofNat hn, toNat_ofNat (hvalid.mp hn)]
      omega
    · rw [decide_eq_false hn, decide_eq_false (mt hvalid.mpr hn)]
      rfl
  rw [changesAt, hsame, decide_eq_true (Nat.pos_of_ne_zero hmarks.1), Bool.true_and,
    bne_self_eq_false]

/-- The edges are where members begin or end. -/
theorem mem_edges_iff : n ∈ a.edges ↔ a.changesAt n = true := by
  rw [edges, mem_foldr_insertOnce_iff, List.mem_filter, and_iff_right_iff_imp]
  exact fun h => by_contra fun hnot => Bool.false_ne_true ((changesAt_eq_false hnot).symm.trans h)

theorem pairwise_edges (a : CharClass) : a.edges.Pairwise (· < ·) :=
  pairwise_foldr_insertOnce _

theorem bounds_edges (a : CharClass) : Bounds a.memAt a.edges where
  ascending := pairwise_edges a
  mem_iff n := by rw [mem_edges_iff, changesAt, bne_iff_ne]
  finite := ⟨0x110000, fun n hn => by
    have hnot : ¬n.isValidChar := by
      simp only [Nat.isValidChar]
      omega
    rw [memAt, decide_eq_false hnot, Bool.false_and]⟩

/-- The runs of a set are its members. -/
theorem inRanges_runs (a : CharClass) (c : Char) : inRanges a.runs c.toNat = a.mem c := by
  rw [runs, (bounds_edges a).inRanges_pairUp, memAt, Char.ofNat_toNat,
    decide_eq_true (show c.toNat.isValidChar from c.valid), Bool.true_and]

theorem runs_congr (h : ∀ c, a.mem c = b.mem c) : a.runs = b.runs := by
  have hat : ∀ n, a.memAt n = b.memAt n := fun n => congrArg (decide _ && ·) (h _)
  have hedges : a.edges = b.edges := by
    refine (pairwise_edges a).eq_of_mem_iff (pairwise_edges b) fun n => ?_
    rw [mem_edges_iff, mem_edges_iff, changesAt, changesAt, hat, hat]
  rw [runs, hedges, runs]

/-- Sets with the same members have the same size. -/
theorem size_congr (h : ∀ c, a.mem c = b.mem c) : a.size = b.size := by
  rw [size, runs_congr h, size]

example : (union (range 'n' 'z') (range 'a' 'm')).size = (range 'a' 'z').size := by decide

end CharClass

end QueryGate.Regex
