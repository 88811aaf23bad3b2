import QueryGate.Proofs.Statement.Tails

/-!
# Characters and the quotes they stand in

`Quote.Everywhere P q s` : reading `s` from the state `q` on, `P` holds of every character together
with the state it is read in.

A text whose quotes are closed and that has no character of several bytes outside quotes can be
stripped of what stands behind it (`stripTail_ne_none`) : the characters where it would have to be
cut in two are all inside quotes.
-/

namespace QueryGate.Statement

open Text

variable {P : Quote → Char → Prop} {q : Quote} {s t u b : List Char} {c mark : Char}

namespace Quote

/-- `P` holds of every character, with the state that it is read in. -/
def Everywhere (P : Quote → Char → Prop) : Quote → List Char → Prop
  | _, [] => True
  | q, c :: s => P q c ∧ Everywhere P (q.step c) s

@[simp] theorem everywhere_nil : Everywhere P q [] :=
  trivial

@[simp] theorem everywhere_cons_iff :
    Everywhere P q (c :: s) ↔ P q c ∧ Everywhere P (q.step c) s :=
  Iff.rfl

@[simp] theorem everywhere_append_iff :
    Everywhere P q (s ++ t) ↔ Everywhere P q s ∧ Everywhere P (q.after s) t := by
  induction s generalizing q with
  | nil => simp
  | cons c s ih => rw [List.cons_append, everywhere_cons_iff, ih, everywhere_cons_iff, and_assoc,
      after_cons]

theorem Everywhere.of_isPrefix (h : Everywhere P q s) (ht : t <+: s) : Everywhere P q t := by
  obtain ⟨u, rfl⟩ := ht
  exact (everywhere_append_iff.mp h).1

theorem Everywhere.imp {Q : Quote → Char → Prop} (hPQ : ∀ q c, P q c → Q q c)
    (h : Everywhere P q s) : Everywhere Q q s := by
  induction s generalizing q with
  | nil => exact everywhere_nil
  | cons c s ih => exact ⟨hPQ q c h.1, ih h.2⟩

theorem everywhere_outside_of_forall (hs : ∀ c ∈ s, isQuoteMark c = false)
    (h : ∀ c ∈ s, P .outside c) : Everywhere P .outside s := by
  induction s with
  | nil => exact everywhere_nil
  | cons c s ih =>
    obtain ⟨hc, hs⟩ := List.forall_mem_cons.mp hs
    obtain ⟨hP, h⟩ := List.forall_mem_cons.mp h
    refine ⟨hP, ?_⟩
    rw [step_outside_of_not_isQuoteMark hc]
    exact ih hs h

theorem Everywhere.forall_of_outside (h : Everywhere P .outside s)
    (hs : ∀ c ∈ s, isQuoteMark c = false) : ∀ c ∈ s, P .outside c := by
  induction s with
  | nil => simp
  | cons c s ih =>
    obtain ⟨hc, hs⟩ := List.forall_mem_cons.mp hs
    obtain ⟨hP, h⟩ := everywhere_cons_iff.mp h
    rw [step_outside_of_not_isQuoteMark hc] at h
    exact List.forall_mem_cons.mpr ⟨hP, ih h hs⟩

instance decidableEverywhere [∀ q c, Decidable (P q c)] : ∀ q s, Decidable (Everywhere P q s)
  | _, [] => isTrue trivial
  | q, c :: s =>
    have := decidableEverywhere (q.step c) s
    inferInstanceAs (Decidable (P q c ∧ Everywhere P (q.step c) s))

/-! ## Closed quotes -/

/-- Quotes are opened by quote marks only. -/
def IsProper : Quote → Prop
  | outside => True
  | inside mark => isQuoteMark mark = true
  | escaped mark => isQuoteMark mark = true

theorem IsProper.step (hq : q.IsProper) (c : Char) : (q.step c).IsProper := by
  cases q with
  | outside =>
    rw [Quote.step]
    split_ifs with hc
    · exact hc
    · trivial
  | inside mark =>
    rw [Quote.step]
    split_ifs
    · exact hq
    · trivial
    · exact hq
  | escaped mark => exact hq

theorem IsProper.after (hq : q.IsProper) (s : List Char) : (q.after s).IsProper := by
  induction s generalizing q with
  | nil => exact hq
  | cons c s ih => exact ih (hq.step c)

theorem isProper_after (s : List Char) : (Quote.outside.after s).IsProper :=
  IsProper.after (q := .outside) trivial s

/-- Only a quote mark closes quotes. -/
theorem isQuoteMark_of_step_eq_outside (hq : q.IsProper) (hne : q ≠ .outside)
    (h : q.step c = .outside) : isQuoteMark c = true := by
  cases q with
  | outside => exact absurd rfl hne
  | inside mark =>
    rw [Quote.step] at h
    split_ifs at h with hback hmark
    rw [beq_iff_eq.mp hmark]
    exact hq
  | escaped mark => cases h

theorem after_ne_outside (hq : q.IsProper) (hne : q ≠ .outside)
    (hs : ∀ c ∈ s, isQuoteMark c = false) : q.after s ≠ .outside := by
  induction s generalizing q with
  | nil => exact hne
  | cons c s ih =>
    refine ih (hq.step c) (fun h => ?_) fun d hd => hs d (List.mem_cons_of_mem c hd)
    have hmark := isQuoteMark_of_step_eq_outside hq hne h
    rw [hs c (List.mem_cons_self ..)] at hmark
    cases hmark

/-- Quotes that are closed were closed in front of a tail without quote marks. -/
theorem after_eq_outside_of_append (h : Quote.outside.after (s ++ t) = .outside)
    (ht : ∀ c ∈ t, isQuoteMark c = false) : Quote.outside.after s = .outside := by
  by_contra hne
  rw [after_append] at h
  exact after_ne_outside (isProper_after s) hne ht h

/-- Outside quotes a character takes one byte. -/
def Narrow (q : Quote) (c : Char) : Prop :=
  q = .outside → c.utf8Size ≤ 1

instance (q : Quote) (c : Char) : Decidable (Narrow q c) :=
  inferInstanceAs (Decidable (q = .outside → c.utf8Size ≤ 1))

/-- Outside quotes a character is no separator. -/
def Unseparated (q : Quote) (c : Char) : Prop :=
  q = .outside → c ≠ ';'

theorem unseparated_of_ne_outside (h : q ≠ .outside) : Unseparated q c :=
  fun hq => absurd hq h

end Quote

open Quote

theorem separator?_eq_none_of_everywhere (h : Everywhere Unseparated q s) :
    separator? q s = none := by
  induction s generalizing q with
  | nil => rfl
  | cons c s ih =>
    obtain ⟨hc, h⟩ := everywhere_cons_iff.mp h
    have hne : ¬(q == .outside && c == ';') = true := by
      simpa [Unseparated] using hc
    rw [separator?, if_neg hne, ih h]
    rfl

theorem utf8Size_of_isQuoteMark (h : isQuoteMark c = true) : c.utf8Size = 1 := by
  have hcases : (c = '\'' ∨ c = '"') ∨ c = Char.ofNat 96 := by
    simpa [isQuoteMark] using h
  rcases hcases with (rfl | rfl) | rfl <;> decide

/-! ## Cuts -/

/-- Where the cut in front of the last word is made, a character is read outside quotes, or it
closes them. -/
theorem endingOf_ne_broken (hclosed : Quote.outside.after s = .outside)
    (hnarrow : Everywhere Narrow .outside s) : endingOf s ≠ .broken := by
  obtain ⟨n, hn, hident⟩ := exists_eq_dropEndWhile_append isIdentChar s
  intro h
  simp only [endingOf] at h
  split at h
  · cases h
  next c hc =>
  obtain ⟨u, hu⟩ := List.getLast?_eq_some_iff.mp hc
  rw [hu] at hn
  have hsize : c.utf8Size ≤ 1 := by
    by_cases hq : Quote.outside.after u = .outside
    · rw [hn, List.append_assoc, everywhere_append_iff] at hnarrow
      exact hnarrow.2.1 hq
    · rw [hn] at hclosed
      have hcloses := after_eq_outside_of_append hclosed fun c hc =>
        not_isQuoteMark_of_isIdentChar (hident c hc)
      rw [after_append] at hcloses
      exact Nat.le_of_eq (utf8Size_of_isQuoteMark
        (isQuoteMark_of_step_eq_outside (isProper_after u) hq hcloses))
  rw [if_neg (Nat.not_lt.mpr hsize)] at h
  split_ifs at h
  split at h <;> cases h

/-- Where quotes are closed and no character of several bytes is outside them, a text can be
stripped of what stands behind it. -/
theorem stripTail_ne_none (hclosed : Quote.outside.after s = .outside)
    (hnarrow : Everywhere Narrow .outside s) : stripTail s ≠ none := by
  have htrimmed : ∀ {s : List Char}, Quote.outside.after s = .outside →
      Everywhere Narrow .outside s → Quote.outside.after (trimSeparators s) = .outside ∧
        Everywhere Narrow .outside (trimSeparators s) := by
    intro s hclosed hnarrow
    obtain ⟨w, hw, htail⟩ := exists_eq_trimSeparators_append s
    rw [hw] at hclosed
    exact ⟨after_eq_outside_of_append hclosed fun c hc => (htail c hc).opensNothing.1,
      hnarrow.of_isPrefix (isPrefix_dropEndWhile _ s)⟩
  fun_induction stripTail s with
  | case1 s trimmed hending =>
    obtain ⟨hclosed, hnarrow⟩ := htrimmed hclosed hnarrow
    exact absurd hending (endingOf_ne_broken hclosed hnarrow)
  | case2 s trimmed before hending ih =>
    obtain ⟨hclosed, hnarrow⟩ := htrimmed hclosed hnarrow
    obtain ⟨u, d, hs, ⟨hd⟩, -, rfl⟩ := exists_of_endingOf_eq_directive hending
    have hs : trimSeparators s = u ++ d := hs
    rw [hs] at hclosed hnarrow
    obtain ⟨w, hw, hwhite⟩ := exists_eq_dropEndWhile_append isWhite u
    have hu := after_eq_outside_of_append hclosed fun c hc =>
      (hd.isTailChar c hc).opensNothing.1
    rw [hw] at hu
    exact ih (after_eq_outside_of_append hu fun c hc => not_isQuoteMark_of_isWhite (hwhite c hc))
      (hnarrow.of_isPrefix ((isPrefix_trimEnd u).trans (List.prefix_append u d)))
  | case3 s trimmed hending hlt ih =>
    obtain ⟨hclosed, hnarrow⟩ := htrimmed hclosed hnarrow
    exact ih hclosed hnarrow
  | case4 s trimmed hending hlt => exact Option.some_ne_none _

/-- So the statement in a text is found. -/
theorem withoutTail_ne_none (hclosed : Quote.outside.after s = .outside)
    (hnarrow : Everywhere Narrow .outside s) : withoutTail s ≠ none := by
  obtain ⟨u, hu, hwhite⟩ := exists_eq_append_trimStart s
  obtain ⟨w, hw, hend⟩ := exists_eq_dropEndWhile_append isWhite (trimStart s)
  have hlead : Quote.outside.after u = .outside :=
    after_outside_of_forall_not_isQuoteMark fun c hc => not_isQuoteMark_of_isWhite (hwhite c hc)
  rw [hu, after_append, hlead, hw] at hclosed
  rw [hu, everywhere_append_iff, hlead] at hnarrow
  exact stripTail_ne_none
    (after_eq_outside_of_append hclosed fun c hc => not_isQuoteMark_of_isWhite (hend c hc))
    (hnarrow.2.of_isPrefix (isPrefix_trimEnd _))

end QueryGate.Statement
