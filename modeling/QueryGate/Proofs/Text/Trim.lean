import Mathlib.Data.List.DropRight
import QueryGate.Text.WhiteSpace

/-!
# The ends of a text

What `dropEndWhile` and the trims take off, and which texts they leave alone :

* `exists_eq_dropEndWhile_append` : a text is its kept part and a tail of characters taken off;
* `dropEndWhile_eq_self_iff` : nothing is taken off exactly if the last character is kept;
* `dropEndWhile_append_of_forall` : a tail of characters taken off makes no difference;
* `exists_dropEndWhile_append_eq` : what ends in a character that is kept is kept itself;
* `dropWhile_append_of_head` : the same at the start, in front of a character that is kept.
-/

namespace QueryGate.Text

variable {p : Char → Bool} {s t u : List Char}

theorem dropEndWhile_eq_rdropWhile (p : Char → Bool) (s : List Char) :
    dropEndWhile p s = s.rdropWhile p :=
  rfl

theorem isPrefix_dropEndWhile (p : Char → Bool) (s : List Char) : dropEndWhile p s <+: s :=
  List.rdropWhile_prefix p s

theorem exists_eq_dropEndWhile_append (p : Char → Bool) (s : List Char) :
    ∃ t, s = dropEndWhile p s ++ t ∧ ∀ c ∈ t, p c :=
  ⟨s.rtakeWhile p, List.rdropWhile_append_rtakeWhile.symm,
    fun _ hc => List.mem_rtakeWhile_imp hc⟩

theorem dropEndWhile_eq_self_iff : dropEndWhile p s = s ↔ ∀ c ∈ s.getLast?, p c = false := by
  rw [dropEndWhile_eq_rdropWhile, List.rdropWhile_eq_self_iff]
  constructor
  · intro h c hc
    obtain ⟨u, rfl⟩ := List.getLast?_eq_some_iff.mp hc
    simpa using h (by simp)
  · intro h hs
    simpa using h _ (List.getLast?_eq_some_getLast hs)

theorem not_of_mem_getLast?_dropEndWhile {c : Char} (hc : c ∈ (dropEndWhile p s).getLast?) :
    p c = false := by
  have h : dropEndWhile p (dropEndWhile p s) = dropEndWhile p s := by
    simp only [dropEndWhile_eq_rdropWhile]
    exact List.rdropWhile_idempotent p s
  exact dropEndWhile_eq_self_iff.mp h c hc

theorem dropEndWhile_append_of_forall (s : List Char) (ht : ∀ c ∈ t, p c) :
    dropEndWhile p (s ++ t) = dropEndWhile p s := by
  rw [dropEndWhile, List.reverse_append, List.dropWhile_append_of_pos (by simpa using ht),
    dropEndWhile]

theorem dropEndWhile_append_of_not_forall (s : List Char) (ht : dropEndWhile p t ≠ []) :
    dropEndWhile p (s ++ t) = s ++ dropEndWhile p t := by
  obtain ⟨u, hu, hall⟩ := exists_eq_dropEndWhile_append p t
  have hlast : ∀ c ∈ (s ++ dropEndWhile p t).getLast?, p c = false := by
    intro c hc
    rw [List.getLast?_append_of_ne_nil _ ht] at hc
    exact not_of_mem_getLast?_dropEndWhile hc
  calc dropEndWhile p (s ++ t) = dropEndWhile p ((s ++ dropEndWhile p t) ++ u) := by
        rw [List.append_assoc, ← hu]
    _ = dropEndWhile p (s ++ dropEndWhile p t) := dropEndWhile_append_of_forall _ hall
    _ = s ++ dropEndWhile p t := dropEndWhile_eq_self_iff.mpr hlast

/-- What ends in a character that is kept is kept itself. -/
theorem exists_dropEndWhile_append_eq (hs : ∀ c ∈ s.getLast?, p c = false) (t : List Char) :
    ∃ t', dropEndWhile p (s ++ t) = s ++ t' ∧ t' <+: t := by
  by_cases ht : dropEndWhile p t = []
  · obtain ⟨w, hw, hall⟩ := exists_eq_dropEndWhile_append p t
    rw [ht, List.nil_append] at hw
    refine ⟨[], ?_, List.nil_prefix⟩
    rw [dropEndWhile_append_of_forall _ (hw ▸ hall), dropEndWhile_eq_self_iff.mpr hs,
      List.append_nil]
  · exact ⟨_, dropEndWhile_append_of_not_forall s ht, isPrefix_dropEndWhile p t⟩

/-- A beginning of a text that ends in a character that is kept ends in front of a tail that is not
kept. -/
theorem isPrefix_of_isPrefix_append (h : s <+: t ++ u) (hs : ∀ c ∈ s.getLast?, p c = false)
    (hu : ∀ c ∈ u, p c = true) : s <+: t := by
  obtain ⟨v, hv⟩ := h
  rcases List.append_eq_append_iff.mp hv with ⟨a, rfl, -⟩ | ⟨a, rfl, rfl⟩
  · exact List.prefix_append s a
  · rcases List.eq_nil_or_concat' a with rfl | ⟨a, c, rfl⟩
    · simp
    · have hkept := hs c (by simp [← List.append_assoc])
      rw [hu c (by simp)] at hkept
      cases hkept

theorem mem_head?_of_isPrefix {c : Char} (h : s <+: t) (hc : c ∈ s.head?) : c ∈ t.head? := by
  obtain ⟨u, rfl⟩ := h
  rw [List.head?_append, Option.mem_def.mp hc]
  rfl

/-- Where a second text begins with a character that is kept, only the first one is cut. -/
theorem dropWhile_append_of_head (s : List Char) (ht : ∀ c ∈ t.head?, p c = false) :
    (s ++ t).dropWhile p = s.dropWhile p ++ t := by
  rw [List.dropWhile_append]
  split_ifs with hnil
  · rw [List.isEmpty_iff.mp hnil, List.nil_append]
    cases t with
    | nil => rfl
    | cons c t => exact List.dropWhile_cons_of_neg (by simp [ht c rfl])
  · rfl

/-! ## White space -/

theorem isPrefix_trimEnd (s : List Char) : trimEnd s <+: s :=
  isPrefix_dropEndWhile isWhite s

theorem exists_eq_append_trimStart (s : List Char) :
    ∃ u, s = u ++ trimStart s ∧ ∀ c ∈ u, isWhite c :=
  ⟨s.takeWhile isWhite, List.takeWhile_append_dropWhile.symm,
    fun _ hc => List.mem_takeWhile_imp hc⟩

theorem trimStart_eq_self_iff : trimStart s = s ↔ ∀ c ∈ s.head?, isWhite c = false := by
  cases s with
  | nil => simp [trimStart]
  | cons c s =>
    by_cases hc : isWhite c
    · have h : trimStart (c :: s) ≠ c :: s := by
        intro h
        have h1 : (trimStart (c :: s)).length ≤ s.length := by
          rw [trimStart, List.dropWhile_cons_of_pos hc]
          exact (List.dropWhile_suffix isWhite).length_le
        rw [h, List.length_cons] at h1
        omega
      simp [h, hc]
    · simp [trimStart, hc]

theorem trimStart_append (hs : ∀ c ∈ s, isWhite c = true) (ht : ∀ c ∈ t.head?, isWhite c = false) :
    trimStart (s ++ t) = t := by
  rw [trimStart, List.dropWhile_append_of_pos hs]
  exact trimStart_eq_self_iff.mpr ht

theorem not_isWhite_of_mem_head?_trimStart {c : Char} (hc : c ∈ (trimStart s).head?) :
    isWhite c = false := by
  have h : trimStart (trimStart s) = trimStart s := List.dropWhile_idempotent isWhite s
  exact trimStart_eq_self_iff.mp h c hc

theorem trim_eq_self (hhead : ∀ c ∈ s.head?, isWhite c = false)
    (hlast : ∀ c ∈ s.getLast?, isWhite c = false) : trim s = s := by
  rw [trim, trimStart_eq_self_iff.mpr hhead]
  exact dropEndWhile_eq_self_iff.mpr hlast

/-- A prefix of a trimmed text begins without white space. -/
theorem not_isWhite_of_mem_head?_of_prefix_trim {b : List Char} (hb : b <+: trim s) {c : Char}
    (hc : c ∈ b.head?) : isWhite c = false := by
  obtain ⟨t, ht⟩ := hb.trans (isPrefix_trimEnd (trimStart s))
  cases b with
  | nil => simp at hc
  | cons d b =>
    obtain rfl : d = c := by simpa using hc
    exact not_isWhite_of_mem_head?_trimStart (s := s) (by rw [← ht]; rfl)

/-- White space around a text makes no difference. -/
theorem trim_append_append (hs : ∀ c ∈ s, isWhite c = true) (hu : ∀ c ∈ u, isWhite c = true) :
    trim (s ++ t ++ u) = trim t := by
  rw [trim, List.append_assoc, trimStart, List.dropWhile_append_of_pos hs, List.dropWhile_append]
  split_ifs with hnil
  · have ht : trimStart t = [] := List.isEmpty_iff.mp hnil
    rw [List.dropWhile_eq_nil_iff.mpr hu, trim, ht]
  · exact dropEndWhile_append_of_forall _ hu

theorem trim_trim (s : List Char) : trim (trim s) = trim s :=
  trim_eq_self (fun _ hc => not_isWhite_of_mem_head?_of_prefix_trim (List.prefix_refl _) hc)
    fun _ hc => not_of_mem_getLast?_dropEndWhile hc

end QueryGate.Text
