import QueryGate.Proofs.Text.Pieces
import QueryGate.Text.Reader

/-!
# What readers take

How the readers act on a text in front of another one : which part they take, and when they fail by
the first character. Repeated readers take the parts of a text that are read one by one, as long as
what follows a part may follow it (`many_flatMap`, `sepBy1_joinWith`).
-/

namespace QueryGate.Text

variable {p : Char → Bool} {s t : List Char} {c : Char}

/-- A run of characters ends where the first one fails the test. -/
theorem takeWhile_append_stop (hs : ∀ c ∈ s, p c = true) (ht : ∀ c ∈ t.head?, p c = false) :
    (s ++ t).takeWhile p = s := by
  rw [List.takeWhile_append_of_pos hs]
  cases t with
  | nil => exact List.append_nil s
  | cons d t => rw [List.takeWhile_cons_of_neg (by simp [ht d rfl]), List.append_nil]

theorem dropWhile_append_stop (hs : ∀ c ∈ s, p c = true) (ht : ∀ c ∈ t.head?, p c = false) :
    (s ++ t).dropWhile p = t := by
  rw [List.dropWhile_append_of_pos hs]
  cases t with
  | nil => rfl
  | cons d t => exact List.dropWhile_cons_of_neg (by simp [ht d rfl])

theorem isDigit_of_mem_toDigits {n : Nat} (h : c ∈ Nat.toDigits 10 n) : c.isDigit = true :=
  Nat.isDigit_of_mem_toDigits (by decide) (by decide) h

/-- The digits of a number have its value. -/
theorem foldl_toDigits (n : Nat) :
    (Nat.toDigits 10 n).foldl (fun n c => n * 10 + (c.toNat - 48)) 0 = n := by
  have h := Nat.ofDigitChars_toDigits (b := 10) (n := n) (by decide) (by decide)
  simpa [Nat.ofDigitChars, Nat.mul_comm] using h

namespace Reader

variable {α : Type}

@[simp] theorem char_cons (c : Char) (s : List Char) : char c (c :: s) = some ((), s) := by
  simp [char]

theorem char_eq_none (h : ∀ d ∈ s.head?, d ≠ c) : char c s = none := by
  cases s with
  | nil => rfl
  | cons d s => simp [char, h d rfl]

theorem word_append (w s : List Char) : word w (w ++ s) = some ((), s) := by
  induction w with
  | nil => rfl
  | cons c w ih => simp [word, ih]

theorem word_eq_none {w : List Char} (h : ∀ d ∈ s.head?, d ≠ c) : word (c :: w) s = none := by
  cases s with
  | nil => rfl
  | cons d s => simp [word, h d rfl]

theorem run1_append (hs : ∀ c ∈ s, p c = true) (hne : s ≠ []) (ht : ∀ c ∈ t.head?, p c = false) :
    run1 p (s ++ t) = some (s, t) := by
  rw [run1, takeWhile_append_stop hs ht, dropWhile_append_stop hs ht]
  cases s with
  | nil => exact absurd rfl hne
  | cons c s => rfl

theorem orElse_of_eq_none {p q : Reader α} (h : p s = none) : p.orElse q s = q s := by
  simp [orElse, h]

theorem orElse_of_eq_some {p q : Reader α} {a : α × List Char} (h : p s = some a) :
    p.orElse q s = some a := by
  simp [orElse, h]

/-! ## Repetition -/

variable {p : Reader α} {a : α}

theorem many_of_eq_none (h : p s = none) : many p s = ([], s) := by
  rw [many, h]

theorem many_of_eq_some (h : p s = some (a, t)) (hlt : t.length < s.length) :
    many p s = (a :: (many p t).1, (many p t).2) := by
  rw [many, h]
  simp [hlt]

/-- In front of parts stands what may follow a part. -/
theorem follows_flatMap {f : α → List Char} {as : List α} {P : List Char → Prop}
    (hfollows : ∀ a ∈ as, ∀ t, P (f a ++ t)) (ht : P t) : P (as.flatMap f ++ t) := by
  cases as with
  | nil => exact ht
  | cons a as =>
    rw [List.flatMap_cons, List.append_assoc]
    exact hfollows a (List.mem_cons_self ..) _

/-- The parts of a text are read one by one, where whatever may follow them does. -/
theorem many_flatMap {f : α → List Char} {as : List α} {P : List Char → Prop}
    (hread : ∀ a ∈ as, ∀ t, P t → p (f a ++ t) = some (a, t)) (hne : ∀ a ∈ as, f a ≠ [])
    (hfollows : ∀ a ∈ as, ∀ t, P (f a ++ t)) (ht : P t) (hstop : p t = none) :
    many p (as.flatMap f ++ t) = (as, t) := by
  induction as with
  | nil => exact many_of_eq_none hstop
  | cons a as ih =>
    rw [List.forall_mem_cons] at hread hne hfollows
    have hlt : (as.flatMap f ++ t).length < (f a ++ (as.flatMap f ++ t)).length := by
      have hpos := List.length_pos_of_ne_nil hne.1
      simp only [List.length_append]
      omega
    rw [List.flatMap_cons, List.append_assoc,
      many_of_eq_some (hread.1 _ (follows_flatMap hfollows.2 ht)) hlt, ih hread.2 hne.2 hfollows.2]

/-- What stands behind a separator. -/
def behind (sep : Reader Unit) (p : Reader α) : Reader α := fun s =>
  (sep s).bind fun x => p x.2

theorem behind_eq_none {sep : Reader Unit} (h : sep s = none) : behind sep p s = none := by
  rw [behind, h]
  rfl

theorem sepBy1_of_eq_some {sep : Reader Unit} (h : p s = some (a, t)) :
    sepBy1 sep p s = some (a :: (many (behind sep p) t).1, (many (behind sep p) t).2) := by
  rw [sepBy1, h]
  rfl

/-- Parts with separators between them are read one by one. -/
theorem sepBy1_joinWith {f : α → List Char} {as : List α} {P : List Char → Prop} {sep : Reader Unit}
    {mark : List Char} (hne : as ≠ []) (hmark : mark ≠ [])
    (hread : ∀ a ∈ as, ∀ t, P t → p (f a ++ t) = some (a, t))
    (hsep : ∀ a ∈ as, ∀ t, sep (mark ++ (f a ++ t)) = some ((), f a ++ t))
    (hfollows : ∀ t, P (mark ++ t)) (ht : P t) (hstop : sep t = none) :
    sepBy1 sep p (joinWith mark (as.map f) ++ t) = some (as, t) := by
  obtain ⟨a, as, rfl⟩ := List.exists_cons_of_ne_nil hne
  rw [List.forall_mem_cons] at hread hsep
  have hbehind : ∀ b ∈ as, ∀ u, P (mark ++ f b ++ u) := fun b _ u => by
    rw [List.append_assoc]
    exact hfollows _
  have hmany : many (behind sep p) (as.flatMap (fun b => mark ++ f b) ++ t) = (as, t) := by
    refine many_flatMap (fun b hb u hu => ?_) (fun b _ => by simp [hmark]) hbehind ht
      (behind_eq_none hstop)
    rw [List.append_assoc, behind, hsep.2 b hb]
    exact hread.2 b hb u hu
  rw [List.map_cons, joinWith_cons, List.flatMap_map, List.append_assoc,
    sepBy1_of_eq_some (hread.1 _ (follows_flatMap hbehind ht)), hmany]

end Reader

end QueryGate.Text
