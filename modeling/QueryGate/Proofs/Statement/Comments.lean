import QueryGate.Proofs.Text.Trim
import QueryGate.Statement.Normalize

/-!
# What stands outside quotes

`OccursFrom q mark s` : reading `s` from the quote state `q` on, `mark` stands at a place outside
quotes. Comments and separators are marks of this kind :

* `not_occursFrom_dropComments` : a text without its comments has no opener of a comment outside
  quotes, so taking a comment away opens no other;
* `dropComments_text_eq_self` : a text without openers is left alone;
* `withoutComments_eq_dropComments` : looking for openers first changes nothing;
* `separator?_eq_none_iff` : the search for a separator reads the same quotes.
-/

namespace QueryGate.Statement

open Text

/-- Opens a comment that ends with its line. -/
def lineOpener : List Char := ['-', '-']

/-- Opens a comment that ends with a star and a slash. -/
def blockOpener : List Char := ['/', '*']

namespace Quote

@[simp] theorem after_nil (q : Quote) : q.after [] = q :=
  rfl

@[simp] theorem after_cons (q : Quote) (c : Char) (s : List Char) :
    q.after (c :: s) = (q.step c).after s :=
  rfl

@[simp] theorem after_append (q : Quote) (s t : List Char) :
    q.after (s ++ t) = (q.after s).after t :=
  List.foldl_append

theorem step_outside_of_not_isQuoteMark {c : Char} (hc : isQuoteMark c = false) :
    outside.step c = outside := by
  simp [step, hc]

theorem after_outside_of_forall_not_isQuoteMark {s : List Char}
    (hs : ∀ c ∈ s, isQuoteMark c = false) : outside.after s = outside := by
  induction s with
  | nil => rfl
  | cons c s ih =>
    rw [after_cons, step_outside_of_not_isQuoteMark (hs c List.mem_cons_self)]
    exact ih fun d hd => hs d (List.mem_cons_of_mem c hd)

end Quote

/-! ## Marks outside quotes -/

/-- In a text that is read from the state `q` on, `mark` stands at a place outside quotes. -/
def OccursFrom (q : Quote) (mark s : List Char) : Prop :=
  ∃ u v, s = u ++ mark ++ v ∧ q.after u = .outside

/-- `mark` stands at a place outside the quotes of a text. -/
abbrev OccursOutside (mark s : List Char) : Prop :=
  OccursFrom .outside mark s

variable {q : Quote} {mark s t : List Char} {c : Char}

theorem not_occursFrom_nil (hm : mark ≠ []) : ¬OccursFrom q mark [] := by
  rintro ⟨u, v, h, -⟩
  simp_all

theorem occursFrom_cons : OccursFrom q mark (c :: s) ↔
    (q = .outside ∧ mark <+: c :: s) ∨ OccursFrom (q.step c) mark s := by
  constructor
  · rintro ⟨u, v, h, hq⟩
    cases u with
    | nil => exact Or.inl ⟨hq, v, h.symm⟩
    | cons d u =>
      obtain ⟨rfl, rfl⟩ := List.cons.inj h
      exact Or.inr ⟨u, v, rfl, hq⟩
  · rintro (⟨hq, v, h⟩ | ⟨u, v, rfl, hq⟩)
    · exact ⟨[], v, h.symm, hq⟩
    · exact ⟨c :: u, v, rfl, hq⟩

theorem OccursFrom.append_right (h : OccursFrom q mark s) (t : List Char) :
    OccursFrom q mark (s ++ t) := by
  obtain ⟨u, v, rfl, hq⟩ := h
  exact ⟨u, v ++ t, by simp, hq⟩

theorem OccursFrom.append_left (h : OccursFrom (q.after t) mark s) :
    OccursFrom q mark (t ++ s) := by
  obtain ⟨u, v, rfl, hq⟩ := h
  exact ⟨t ++ u, v, by simp, by simpa using hq⟩

/-- A mark does not reach into a tail that has none of its characters. -/
theorem OccursFrom.of_append (hm : mark ≠ []) (ht : ∀ c ∈ mark, c ∉ t)
    (h : OccursFrom q mark (s ++ t)) : OccursFrom q mark s := by
  obtain ⟨u, v, heq, hq⟩ := h
  rcases List.append_eq_append_iff.mp heq with ⟨w, hw, htail⟩ | ⟨w, rfl, -⟩
  · rcases List.eq_nil_or_concat' w with rfl | ⟨w, d, rfl⟩
    · exact ⟨u, [], by simpa using hw.symm, hq⟩
    · obtain ⟨m, e, rfl⟩ := (List.eq_nil_or_concat' mark).resolve_left hm
      have hde : e = d := by simpa using congrArg List.getLast? hw
      exact absurd (by rw [htail, hde]; simp) (ht e (by simp))
  · exact ⟨u, w, rfl, hq⟩

/-! ## Comments -/

theorem dropComments_text_cons
    (h : q = .outside → ¬lineOpener <+: c :: s ∧ ¬blockOpener <+: c :: s) :
    dropComments (.text q) (c :: s) = c :: dropComments (.text (q.step c)) s := by
  rw [dropComments]
  · rintro t rfl rfl rfl
    exact (h rfl).1 ⟨t, rfl⟩
  · rintro t rfl rfl rfl
    exact (h rfl).2 ⟨t, rfl⟩

theorem dropComments_text_eq_self (hl : ¬OccursFrom q lineOpener s)
    (hb : ¬OccursFrom q blockOpener s) : dropComments (.text q) s = s := by
  induction s generalizing q with
  | nil => rfl
  | cons c s ih =>
    rw [occursFrom_cons, not_or, not_and] at hl hb
    rw [dropComments_text_cons fun hq => ⟨hl.1 hq, hb.1 hq⟩, ih hl.2 hb.2]

/-- The state in which what is left of a text is read. -/
def Region.quote : Region → Quote
  | .text q => q
  | _ => .outside

theorem eq_newline_of_mem_head?_dropComments_lineComment {d : Char} :
    ∀ {s : List Char}, d ∈ (dropComments .lineComment s).head? → d = '\n'
  | [], h => by simp [dropComments] at h
  | c :: s, h => by
    by_cases hc : c = '\n'
    · simpa [dropComments, hc, eq_comm] using h
    · exact eq_newline_of_mem_head?_dropComments_lineComment (s := s)
        (by simpa [dropComments, hc] using h)

/-- Outside quotes the first character of a text stays in place, unless a comment begins there. -/
theorem mem_head?_of_mem_head?_dropComments {d : Char}
    (h : d ∈ (dropComments (.text .outside) s).head?) : d ∈ s.head? ∨ d = ' ' ∨ d = '\n' := by
  rcases s with _ | ⟨c, s⟩
  · simp [dropComments] at h
  by_cases hl : lineOpener <+: c :: s
  · obtain ⟨t, ht⟩ := hl
    rw [← ht] at h
    exact Or.inr (Or.inr (eq_newline_of_mem_head?_dropComments_lineComment h))
  by_cases hb : blockOpener <+: c :: s
  · obtain ⟨t, ht⟩ := hb
    rw [← ht] at h
    exact Or.inr (Or.inl (by simpa [blockOpener, dropComments, eq_comm] using h))
  rw [dropComments_text_cons fun _ => ⟨hl, hb⟩] at h
  exact Or.inl (by simpa using h)

theorem pair_prefix_cons_iff {a b : Char} : [a, b] <+: c :: s ↔ a = c ∧ b ∈ s.head? := by
  cases s <;> simp [eq_comm]

/-- An opener begins with a character that opens no quotes, and neither of its characters takes
the place of a comment. -/
theorem exists_eq_of_mem_openers (hm : mark ∈ [lineOpener, blockOpener]) :
    ∃ a b, mark = [a, b] ∧ isQuoteMark a = false ∧ (a ≠ ' ' ∧ a ≠ '\n') ∧ b ≠ ' ' ∧ b ≠ '\n' := by
  simp only [List.mem_cons, List.not_mem_nil, or_false] at hm
  rcases hm with rfl | rfl
  · exact ⟨'-', '-', rfl, by decide⟩
  · exact ⟨'/', '*', rfl, by decide⟩

/-- A text without its comments has no opener of a comment outside quotes. -/
theorem not_occursFrom_dropComments (hm : mark ∈ [lineOpener, blockOpener]) (r : Region)
    (s : List Char) : ¬OccursFrom r.quote mark (dropComments r s) := by
  obtain ⟨a, b, rfl, hquote, ⟨haspace, hanewline⟩, hbspace, hbnewline⟩ :=
    exists_eq_of_mem_openers hm
  fun_induction dropComments r s with
  | case1 r => exact not_occursFrom_nil (by simp)
  | case2 s ih => exact ih
  | case3 s ih =>
    rw [occursFrom_cons, pair_prefix_cons_iff, not_or]
    exact ⟨fun h => haspace h.2.1, ih⟩
  | case4 q c s hl hb ih =>
    rw [occursFrom_cons, pair_prefix_cons_iff, not_or]
    refine ⟨?_, ih⟩
    rintro ⟨hq, rfl, hhead⟩
    obtain rfl : q = .outside := hq
    rw [Quote.step_outside_of_not_isQuoteMark hquote] at hhead
    -- an opener put together from `a` and what is left behind it was there before
    rcases mem_head?_of_mem_head?_dropComments hhead with h | h | h
    · obtain ⟨t, rfl⟩ := List.head?_eq_some_iff.mp h
      simp only [List.mem_cons, List.not_mem_nil, or_false] at hm
      rcases hm with hm | hm
      · obtain ⟨rfl, rfl⟩ : a = '-' ∧ b = '-' := by simpa [lineOpener] using hm
        exact hl t rfl rfl rfl
      · obtain ⟨rfl, rfl⟩ : a = '/' ∧ b = '*' := by simpa [blockOpener] using hm
        exact hb t rfl rfl rfl
    · exact hbspace h
    · exact hbnewline h
  | case5 c s hc ih =>
    obtain rfl : c = '\n' := by simpa using hc
    rw [occursFrom_cons, pair_prefix_cons_iff, not_or]
    exact ⟨fun h => hanewline h.2.1, ih⟩
  | case6 c s hc ih => exact ih
  | case7 star c s hc ih => exact ih
  | case8 star c s hc ih => exact ih

theorem isInfix_iff {part : List Char} : isInfix part s = true ↔ part <:+: s := by
  induction s with
  | nil => simp [isInfix]
  | cons c s ih =>
    rw [isInfix, Bool.or_eq_true, ih, List.isPrefixOf_iff_prefix, List.infix_cons_iff]

theorem OccursFrom.isInfix (h : OccursFrom q mark s) : isInfix mark s = true := by
  obtain ⟨u, v, rfl, -⟩ := h
  exact isInfix_iff.mpr ⟨u, v, rfl⟩

/-- Looking for openers before comments are dropped makes no difference. -/
theorem withoutComments_eq_dropComments (s : List Char) :
    withoutComments s = dropComments (.text .outside) s := by
  unfold withoutComments
  split_ifs with h
  · rfl
  · rw [Bool.or_eq_true, not_or] at h
    exact (dropComments_text_eq_self (fun ho => h.1 ho.isInfix) fun ho => h.2 ho.isInfix).symm

theorem not_occursOutside_withoutComments (hm : mark ∈ [lineOpener, blockOpener])
    (s : List Char) : ¬OccursOutside mark (withoutComments s) := by
  rw [withoutComments_eq_dropComments]
  exact not_occursFrom_dropComments hm (.text .outside) s

theorem withoutComments_eq_self (h : ∀ mark ∈ [lineOpener, blockOpener], ¬OccursOutside mark s) :
    withoutComments s = s := by
  rw [withoutComments_eq_dropComments]
  exact dropComments_text_eq_self (h _ (by simp)) (h _ (by simp))

/-- A text is left alone exactly if it has no opener of a comment outside quotes. -/
theorem withoutComments_eq_self_iff :
    withoutComments s = s ↔ ∀ mark ∈ ["--", "/*"], ¬OccursOutside mark.toList s := by
  have hopeners : ["--", "/*"].map String.toList = [lineOpener, blockOpener] := by decide
  rw [← List.forall_mem_map (P := fun mark => ¬OccursOutside mark s), hopeners]
  exact ⟨fun h mark hmark => h ▸ not_occursOutside_withoutComments hmark s, withoutComments_eq_self⟩

/-! ## Separators -/

theorem separator?_eq_none_iff : separator? q s = none ↔ ¬OccursFrom q [';'] s := by
  induction s generalizing q with
  | nil => exact iff_of_true rfl (not_occursFrom_nil (by simp))
  | cons c s ih =>
    rw [occursFrom_cons, separator?]
    by_cases h : q = .outside ∧ c = ';'
    · simp [h]
    · have h1 : ¬(q = .outside ∧ [';'] <+: c :: s) := by
        simpa [eq_comm] using h
      rw [if_neg (by simpa using h), Option.map_eq_none_iff, ih, or_iff_right h1]

end QueryGate.Statement
