import QueryGate.Proofs.Grammar.Build
import QueryGate.Proofs.Regex.Literal
import QueryGate.Proofs.Regex.Preference
import QueryGate.Proofs.Text.Letters
import QueryGate.Proofs.Text.Readers

/-!
# Patterns that are written

The texts that terminal patterns are written from are read as what they were written for, whatever
stands around them (`ReadsAs`), and are built into expressions that match as they should
(`Writes`). Each way of writing a pattern keeps this : `writes_ofLiteral`, `writes_ofRange`,
`writes_flatten`, `writesInside_alternatives`, `Writes.repeated`. A terminal that is compiled from
such a pattern matches what the matcher prefers (`WritesInside.matchLength?`).
-/

namespace QueryGate

/-- One character that may stand for a character of a quoted text. -/
def Matcher.spelled (anyCase : Bool) (c : Char) : Matcher :=
  .char fun d => (Regex.spellings anyCase c).contains d

namespace Regex

open TerminalPattern Text

variable {p q s t : List Char} {c first last : Char} {names : List (List Char)} {fuel : Nat}
  {options items parts parts' : List Pattern} {inner : Pattern} {out : Pattern × Cursor}

/-- The reader goes on behind a text with the items that it stands for. What follows must not begin
with a question mark, which would make a repetition lazy. -/
structure ReadsAs (p : List Char) (parts : List Pattern) : Prop where
  head : p.head? ≠ some '?'
  goesOn : ∀ {fuel options items t names out}, t.head? ≠ some '?' →
    readBody fuel options items ⟨p ++ t, false, names⟩ = .ok out →
      ∃ fuel', readBody fuel' options (parts.reverse ++ items) ⟨t, false, names⟩ = .ok out

/-- A text stands for a pattern between the parentheses of a group. -/
def ReadsInside (p : List Char) (inner : Pattern) : Prop :=
  ∀ {fuel t names out}, readBody fuel [] [] ⟨p ++ ')' :: t, false, names⟩ = .ok out →
    out = (inner, ⟨')' :: t, false, names⟩)

theorem head?_append_ne (hs : s.head? ≠ some c) (ht : t.head? ≠ some c) :
    (s ++ t).head? ≠ some c := by
  cases s with
  | nil => exact ht
  | cons d s => exact hs

theorem readsAs_nil : ReadsAs [] [] :=
  ⟨by simp, fun _ h => ⟨_, h⟩⟩

theorem ReadsAs.append (hp : ReadsAs p parts) (hq : ReadsAs q parts') :
    ReadsAs (p ++ q) (parts ++ parts') := by
  refine ⟨head?_append_ne hp.head hq.head, fun ht h => ?_⟩
  rw [List.append_assoc] at h
  obtain ⟨_, h⟩ := hp.goesOn (head?_append_ne hq.head ht) h
  obtain ⟨_, h⟩ := hq.goesOn ht h
  rw [← List.append_assoc, ← List.reverse_append] at h
  exact ⟨_, h⟩

theorem readBody_fuel_pos (h : readBody fuel options items ⟨s, false, names⟩ = .ok out) :
    ∃ n, fuel = n + 1 := by
  cases fuel with
  | zero => cases h
  | succ n => exact ⟨n, rfl⟩

/-! ## Quoted texts -/

theorem readsAs_char (c : Char) : ReadsAs (if isMeta c then ['\\', c] else [c]) [written c] := by
  have hhead : isMeta '?' = true := by decide
  by_cases hc : isMeta c = true
  · rw [if_pos hc]
    refine ⟨by simp, fun _ h => ?_⟩
    obtain ⟨n, rfl⟩ := readBody_fuel_pos h
    exact ⟨n, (readBody_of_isMeta hc).symm.trans h⟩
  · rw [if_neg hc]
    refine ⟨fun h => hc (Option.some.inj h ▸ hhead), fun _ h => ?_⟩
    obtain ⟨n, rfl⟩ := readBody_fuel_pos h
    exact ⟨n, (readBody_of_not_isMeta (Bool.eq_false_iff.mpr hc)).symm.trans h⟩

theorem readsAs_escape (cs : List Char) : ReadsAs (escape cs) (cs.map written) := by
  induction cs with
  | nil => exact readsAs_nil
  | cons c cs ih => exact (readsAs_char c).append ih

/-! ## Groups -/

theorem ReadsAs.inside (h : ReadsAs p parts) : ReadsInside p (concatOf parts.reverse) := by
  intro fuel t names out hrun
  obtain ⟨fuel', hrun⟩ := h.goesOn (by simp) hrun
  obtain ⟨n, rfl⟩ := readBody_fuel_pos hrun
  rw [List.append_nil] at hrun
  exact (Except.ok.inj hrun).symm

/-- Alternatives, from behind the first ones on. -/
theorem eq_of_readBody_alternatives {ps : List (List Char)} {partss : List (List Pattern)}
    (h : List.Forall₂ ReadsAs ps partss) (hp : ReadsAs p parts)
    (hrun : readBody fuel options [] ⟨p ++ (ps.flatMap ('|' :: ·) ++ ')' :: t), false, names⟩ =
      .ok out) :
    out = (altOf (((parts :: partss).map (concatOf ·.reverse)).reverse ++ options),
      ⟨')' :: t, false, names⟩) := by
  induction h generalizing fuel options p parts with
  | nil =>
    obtain ⟨fuel', hrun⟩ := hp.goesOn (by simp) hrun
    obtain ⟨n, rfl⟩ := readBody_fuel_pos hrun
    rw [List.append_nil] at hrun
    exact (Except.ok.inj hrun).symm
  | @cons q parts' ps partss hq _ ih =>
    obtain ⟨fuel', hrun⟩ := hp.goesOn (by simp) hrun
    obtain ⟨n, rfl⟩ := readBody_fuel_pos hrun
    rw [List.append_nil, List.flatMap_cons, List.append_assoc, List.cons_append] at hrun
    have hrest := ih hq hrun
    rw [hrest]
    simp

theorem ReadsAs.alternatives {ps : List (List Char)} {partss : List (List Pattern)}
    (h : List.Forall₂ ReadsAs ps partss) (hne : ps ≠ []) :
    ReadsInside ((ps.intersperse ['|']).flatten)
      (altOf (partss.map (concatOf ·.reverse)).reverse) := by
  intro fuel t names out hrun
  cases h with
  | nil => exact absurd rfl hne
  | @cons p parts ps partss hp hps =>
    have hjoin : (((p :: ps).intersperse ['|']).flatten) ++ ')' :: t =
        p ++ (ps.flatMap ('|' :: ·) ++ ')' :: t) := by
      rw [← List.append_assoc]
      exact congrArg (· ++ ')' :: t) (joinWith_cons ['|'] p ps)
    rw [hjoin] at hrun
    rw [eq_of_readBody_alternatives hps hp hrun, List.append_nil]

/-- A group around what is read inside it. -/
theorem ReadsInside.readBody_group {start : List Char} {change : FlagChange}
    (h : ReadsInside p inner)
    (hopen : ∀ s names, openGroup ⟨start ++ s, false, names⟩ =
      .ok ((change, true), ⟨s, false, names⟩))
    (hfree : freeSpacingAfter change false = false)
    (hrun : readBody (fuel + 1) options items
      ⟨'(' :: (start ++ (p ++ ')' :: t)), false, names⟩ = .ok out) :
    readBody fuel options (.group change inner :: items) ⟨t, false, names⟩ = .ok out := by
  cases hinner : readBody fuel [] [] ⟨p ++ ')' :: t, false, names⟩ with
  | error fault =>
    rw [readBody] at hrun
    change (openGroup ⟨start ++ (p ++ ')' :: t), false, names⟩ >>= fun found => _) = _ at hrun
    rw [hopen] at hrun
    change (readBody fuel [] [] ⟨p ++ ')' :: t, freeSpacingAfter change false, names⟩ >>=
      fun found => _) = _ at hrun
    rw [hfree, hinner] at hrun
    cases hrun
  | ok found =>
    obtain rfl := h hinner
    exact (Regex.readBody_group (hopen _ _) hfree hinner).symm.trans hrun

theorem ReadsInside.readsAs_grouped (h : ReadsInside p inner) :
    ReadsAs (grouped p) [.group [] inner] := by
  have htext : ∀ t, grouped p ++ t = '(' :: (['?', ':'] ++ (p ++ ')' :: t)) := by
    intro t
    simp [grouped]
  refine ⟨by simp [grouped], fun _ hrun => ?_⟩
  obtain ⟨n, rfl⟩ := readBody_fuel_pos hrun
  rw [htext] at hrun
  exact ⟨n, h.readBody_group (fun _ _ => openGroup_plain) rfl hrun⟩

theorem readsAs_anyCase (cs : List Char) :
    ReadsAs (flagged ['i'] (escape cs)) [.group [(.anyCase, true)] (wordPattern cs)] := by
  have htext : ∀ t, flagged ['i'] (escape cs) ++ t =
      '(' :: (['?', 'i', ':'] ++ (escape cs ++ ')' :: t)) := by
    intro t
    simp [flagged]
  refine ⟨by simp [flagged], fun _ hrun => ?_⟩
  obtain ⟨n, rfl⟩ := readBody_fuel_pos hrun
  rw [htext] at hrun
  exact ⟨n, ReadsInside.readBody_group (readsAs_escape cs).inside (fun _ _ => openGroup_anyCase)
    rfl hrun⟩

/-! ## Ranges -/

theorem escape_singleton (c : Char) : escape [c] = if isMeta c then ['\\', c] else [c] :=
  List.flatMap_singleton ..

theorem readSetItem_escape (c : Char) (s : List Char) (names : List (List Char)) :
    readSetItem ⟨escape [c] ++ s, false, names⟩ = .ok (written c, ⟨s, false, names⟩) := by
  rw [escape_singleton]
  split_ifs with hc
  · exact readEscape_of_isMeta hc
  · rw [List.singleton_append, readSetItem]
    split
    · next h => cases h
    · next h => exact absurd (by rw [(List.cons.inj h).1]; decide) hc
    · next h => rw [(List.cons.inj h).1, (List.cons.inj h).2]; rfl

/-- Of the characters with a meaning only the backslash begins an escaped one. -/
theorem exists_escape_eq_cons (c : Char) (s : List Char) :
    ∃ d u, escape [c] ++ s = d :: u ∧ ∀ x, isMeta x = true → x ≠ '\\' → d ≠ x := by
  rw [escape_singleton]
  split_ifs with hc
  · exact ⟨'\\', c :: s, rfl, fun x _ hx h => hx h.symm⟩
  · exact ⟨c, s, rfl, fun x hx _ h => hc (h ▸ hx)⟩

theorem openSet_escape (c : Char) (s : List Char) (names : List (List Char)) :
    openSet ⟨escape [c] ++ s, false, names⟩ = (false, [], ⟨escape [c] ++ s, false, names⟩) := by
  obtain ⟨d, u, heq, hd⟩ := exists_escape_eq_cons c s
  have hcaret := hd '^' (by decide) (by decide)
  have hminus := hd '-' (by decide) (by decide)
  have hclose := hd ']' (by decide) (by decide)
  rw [heq]
  simp [openSet, hcaret, readLeadingMinus, hminus, hclose]

theorem readSetRange_escape (first last : Char) (t : List Char) (names : List (List Char)) :
    readSetRange ⟨escape [first] ++ '-' :: (escape [last] ++ ']' :: t), false, names⟩ =
      if first ≤ last then
        .ok (.range ⟨first, false⟩ ⟨last, false⟩, ⟨']' :: t, false, names⟩)
      else .error .classRangeInvalid := by
  obtain ⟨d, u, heq, hd⟩ := exists_escape_eq_cons last (']' :: t)
  have hminus := hd '-' (by decide) (by decide)
  have hclose := hd ']' (by decide) (by decide)
  have hnext : Cursor.next ⟨'-' :: (escape [last] ++ ']' :: t), false, names⟩ =
      ⟨escape [last] ++ ']' :: t, false, names⟩ := rfl
  have hhead : (escape [last] ++ ']' :: t).head? = some d := by rw [heq]; rfl
  rw [readSetRange, readSetItem_escape]
  simp only [bind, Except.bind, Cursor.skip, Bool.false_eq_true, if_false, hnext, hhead]
  have hsingle : (some d == some ']' || some d == some '-') = false := by simp [hclose, hminus]
  rw [if_neg (by rw [hsingle]; exact Bool.false_ne_true), if_neg (by simp), readSetItem_escape]
  rfl

theorem readSet_escape (fuel : Nat) (first last : Char) (t : List Char) (names : List (List Char)) :
    readSet (fuel + 2) none []
        ⟨escape [first] ++ '-' :: (escape [last] ++ ']' :: t), false, names⟩ =
      if first ≤ last then
        .ok (.range ⟨first, false⟩ ⟨last, false⟩, ⟨t, false, names⟩)
      else .error .classRangeInvalid := by
  obtain ⟨d, u, heq, hd⟩ := exists_escape_eq_cons first ('-' :: (escape [last] ++ ']' :: t))
  have hopen := hd '[' (by decide) (by decide)
  have hclose := hd ']' (by decide) (by decide)
  have hop : setOp? (d :: u) = none := by
    have hand := hd '&' (by decide) (by decide)
    have hminus := hd '-' (by decide) (by decide)
    have htilde := hd '~' (by decide) (by decide)
    unfold setOp?
    split <;> simp_all
  have hrange := readSetRange_escape first last t names
  rw [heq] at hrange ⊢
  rw [readSet]
  simp only [Cursor.skip, Bool.false_eq_true, if_false]
  rw [if_neg (by simp [hopen]), if_neg (by simp [hclose]), hop]
  simp only [hrange, bind, Except.bind]
  split_ifs <;> rfl

theorem readBrackets_escape (first last : Char) (t : List Char) (names : List (List Char)) :
    readBrackets ⟨escape [first] ++ '-' :: (escape [last] ++ ']' :: t), false, names⟩ =
      if first ≤ last then
        .ok (.set false (.range ⟨first, false⟩ ⟨last, false⟩), ⟨t, false, names⟩)
      else .error .classRangeInvalid := by
  obtain ⟨n, hn⟩ : ∃ n, (escape [first] ++ '-' :: (escape [last] ++ ']' :: t)).length = n + 1 :=
    ⟨_, by rw [List.length_append, List.length_cons, ← Nat.add_assoc]⟩
  rw [readBrackets]
  simp only [Cursor.skip, Bool.false_eq_true, if_false, openSet_escape, hn, readSet_escape, bind,
    Except.bind]
  split_ifs <;> rfl

theorem readsAs_ofRange (first last : Char) :
    ReadsAs (ofRange first last) [.set false (.range ⟨first, false⟩ ⟨last, false⟩)] := by
  have htext : ∀ t, ofRange first last ++ t =
      '[' :: (escape [first] ++ '-' :: (escape [last] ++ ']' :: t)) := by
    intro t
    simp [ofRange]
  refine ⟨by simp [ofRange], fun {fuel options items t names out} _ hrun => ?_⟩
  obtain ⟨n, rfl⟩ := readBody_fuel_pos hrun
  rw [htext, readBody] at hrun
  change (readBrackets ⟨escape [first] ++ '-' :: (escape [last] ++ ']' :: t), false, names⟩ >>=
    fun found => readBody n options (found.1 :: items) found.2) = _ at hrun
  rw [readBrackets_escape] at hrun
  split_ifs at hrun
  · exact ⟨n, hrun⟩
  · cases hrun

/-! ## Repetition -/

theorem digits_append {fuel : Nat} {ds : List Char} (hds : ∀ c ∈ ds, c.isDigit = true)
    (hfuel : ds.length ≤ fuel) (hs : ∀ c ∈ s.head?, c.isDigit = false) :
    readCount.digits fuel ⟨ds ++ s, false, names⟩ = (ds, ⟨s, false, names⟩) := by
  induction ds generalizing fuel with
  | nil =>
    cases fuel with
    | zero => rfl
    | succ fuel =>
      cases s with
      | nil => rfl
      | cons c s =>
        have hc := hs c rfl
        simp [readCount.digits, hc]
  | cons d ds ih =>
    rw [List.forall_mem_cons] at hds
    cases fuel with
    | zero => cases hfuel
    | succ fuel =>
      have hnext : Cursor.next ⟨d :: (ds ++ s), false, names⟩ = ⟨ds ++ s, false, names⟩ := rfl
      rw [List.cons_append, readCount.digits]
      dsimp only
      rw [if_pos hds.1, hnext, ih hds.2 (Nat.le_of_succ_le_succ hfuel)]

theorem not_isWhite_of_isDigit (h : c.isDigit = true) : isWhite c = false :=
  Statement.not_isWhite_of_isIdentChar (by simp [Statement.isIdentChar, Char.isAlphanum, h])

/-- A number is read where no digit and no white space follows it. -/
theorem readCount_toDigits (names : List (List Char)) (n : Nat)
    (hs : ∀ c ∈ s.head?, c.isDigit = false ∧ isWhite c = false) :
    readCount ⟨Nat.toDigits 10 n ++ s, false, names⟩ =
      if n < Nat.pow 2 32 then .ok (n, ⟨s, false, names⟩) else .error .countInvalid := by
  have htrim : ∀ u : List Char, (∀ c ∈ u.head?, isWhite c = false) → trimStart u = u := by
    intro u hu
    cases u with
    | nil => rfl
    | cons c u => exact List.dropWhile_cons_of_neg (by simp [hu c rfl])
  have hhead : ∀ c ∈ (Nat.toDigits 10 n ++ s).head?, isWhite c = false := by
    intro c hc
    rw [List.head?_append_of_ne_nil _ Nat.toDigits_ne_nil] at hc
    exact not_isWhite_of_isDigit (isDigit_of_mem_toDigits (List.mem_of_mem_head? hc))
  have hread : readCount.digits (Nat.toDigits 10 n ++ s).length
      ⟨Nat.toDigits 10 n ++ s, false, names⟩ = (Nat.toDigits 10 n, ⟨s, false, names⟩) :=
    digits_append (fun c hc => isDigit_of_mem_toDigits hc) (by simp) fun c hc => (hs c hc).1
  rw [readCount]
  simp only [Cursor.moveTo, htrim _ hhead, hread, htrim s fun c hc => (hs c hc).2,
    List.isEmpty_iff, Nat.toDigits_ne_nil, if_false, foldl_toDigits]

variable {least : Nat} {found : (Nat × Option Nat × Bool) × Cursor}

theorem readCounts_atLeast (ht : t.head? ≠ some '?')
    (h : readCounts ⟨Nat.toDigits 10 least ++ ',' :: '\x7d' :: t, false, names⟩ = .ok found) :
    found = ((least, none, true), ⟨t, false, names⟩) := by
  have hgreedy : (t.head? == some '?') = false := by simpa using ht
  have hleast := readCount_toDigits names least (s := ',' :: '\x7d' :: t)
    (by simp; decide)
  rw [readCounts] at h
  split_ifs at hleast with hlt
  · simp [hleast, bind, Except.bind, Cursor.next, Cursor.moveTo, Cursor.skip, hgreedy] at h
    simp_all
  · simp [hleast, bind, Except.bind] at h

theorem readCounts_between {most : Nat} (ht : t.head? ≠ some '?')
    (h : readCounts ⟨Nat.toDigits 10 least ++ ',' :: (Nat.toDigits 10 most ++ '\x7d' :: t), false,
      names⟩ = .ok found) :
    found = ((least, some most, true), ⟨t, false, names⟩) := by
  have hgreedy : (t.head? == some '?') = false := by simpa using ht
  have hleast := readCount_toDigits names least
    (s := ',' :: (Nat.toDigits 10 most ++ '\x7d' :: t)) (by simp; decide)
  have hmost := readCount_toDigits names most (s := '\x7d' :: t) (by simp; decide)
  obtain ⟨d, u, hdigits⟩ := List.exists_cons_of_ne_nil (Nat.toDigits_ne_nil (n := most) (b := 10))
  have hd : d ≠ '\x7d' := by
    rintro rfl
    exact absurd (isDigit_of_mem_toDigits (hdigits ▸ List.mem_cons_self ..)) (by decide)
  rw [hdigits, List.cons_append] at h hleast hmost
  rw [readCounts] at h
  split_ifs at hleast with hlt
  · split_ifs at hmost with hlt'
    · simp [hleast, bind, Except.bind, Cursor.next, Cursor.moveTo, Cursor.skip, hd, hmost,
        Except.map, hgreedy] at h
      split_ifs at h
      simp_all
    · simp [hleast, bind, Except.bind, Cursor.next, Cursor.moveTo, Cursor.skip, hd, hmost,
        Except.map] at h
  · simp [hleast, bind, Except.bind] at h

/-- An operator of one character behind a group. -/
theorem readBody_operator {change : FlagChange} {most : Option Nat} {mark : Char}
    (hmark : (mark, least, most) ∈ [('?', 0, some 1), ('*', 0, none), ('+', 1, none)])
    (ht : t.head? ≠ some '?') :
    readBody (fuel + 1) options (.group change inner :: items) ⟨mark :: t, false, names⟩ =
      readBody fuel options (.rep (.group change inner) least most true :: items)
        ⟨t, false, names⟩ := by
  have hgreedy : (t.head? == some '?') = false := by simpa using ht
  have hall : ∀ least most, (repeatable (.group change inner :: items) >>= fun found =>
      readBody fuel options (.rep found.1 least most (!t.head? == some '?') :: found.2)
        ⟨if t.head? == some '?' then t.drop 1 else t, false, names⟩) =
      readBody fuel options (.rep (.group change inner) least most true :: items)
        ⟨t, false, names⟩ := by
    intro least most
    simp only [repeatable, bind, Except.bind, hgreedy]
    rfl
  simp only [List.mem_cons, List.not_mem_nil, or_false, Prod.mk.injEq] at hmark
  rw [readBody]
  rcases hmark with ⟨rfl, rfl, rfl⟩ | ⟨rfl, rfl, rfl⟩ | ⟨rfl, rfl, rfl⟩ <;> exact hall _ _

/-- Bounds in braces behind a group. -/
theorem readBody_counts {change : FlagChange} {most : Option Nat}
    (hcounts : ∀ found, readCounts ⟨s, false, names⟩ = .ok found →
      found = ((least, most, true), ⟨t, false, names⟩))
    (hrun : readBody (fuel + 1) options (.group change inner :: items)
      ⟨'\x7b' :: s, false, names⟩ = .ok out) :
    readBody fuel options (.rep (.group change inner) least most true :: items)
      ⟨t, false, names⟩ = .ok out := by
  rw [readBody] at hrun
  change (readCounts ⟨s, false, names⟩ >>= fun found =>
    readBody fuel options (.rep (.group change inner) found.1.1 found.1.2.1 found.1.2.2 :: items)
      found.2) = .ok out at hrun
  cases hread : readCounts ⟨s, false, names⟩ with
  | error fault =>
    rw [hread] at hrun
    cases hrun
  | ok found =>
    obtain rfl := hcounts found hread
    rw [hread] at hrun
    exact hrun

/-- The operator of a repetition behind a group. -/
theorem exists_readBody_repetition {change : FlagChange} {most : Option Nat}
    (ht : t.head? ≠ some '?')
    (hrun : readBody fuel options (.group change inner :: items)
      ⟨repetition least most ++ t, false, names⟩ = .ok out) :
    ∃ fuel', readBody fuel' options (.rep (.group change inner) least most true :: items)
      ⟨t, false, names⟩ = .ok out := by
  obtain ⟨n, rfl⟩ := readBody_fuel_pos hrun
  refine ⟨n, ?_⟩
  unfold repetition at hrun
  split at hrun
  · exact (readBody_operator (by simp) ht).symm.trans hrun
  · exact (readBody_operator (by simp) ht).symm.trans hrun
  · exact (readBody_operator (by simp) ht).symm.trans hrun
  · refine readBody_counts (fun found hfound => readCounts_atLeast ht hfound) ?_
    simpa using hrun
  · refine readBody_counts (fun found hfound => readCounts_between ht hfound) ?_
    simpa using hrun

theorem ReadsInside.readsAs_repeated (h : ReadsInside p inner) (least : Nat) (most : Option Nat) :
    ReadsAs (grouped p ++ repetition least most) [.rep (.group [] inner) least most true] := by
  refine ⟨by simp [grouped], fun {fuel options items t names out} ht hrun => ?_⟩
  obtain ⟨n, rfl⟩ := readBody_fuel_pos hrun
  have htext : grouped p ++ repetition least most ++ t =
      '(' :: (['?', ':'] ++ (p ++ ')' :: (repetition least most ++ t))) := by
    simp [grouped]
  rw [htext] at hrun
  exact exists_readBody_repetition ht (h.readBody_group (fun _ _ => openGroup_plain) rfl hrun)

/-! ## Building -/

variable {f f' : Flags} {x : Term} {xs : List Term} {r : Regex} {m m' : Matcher}
  {ms : List Matcher}

theorem buildAll_cons_eq_ok {p : Pattern} : buildAll f (p :: parts) = .ok (xs, f') ↔
    ∃ x f₁ xs', build f p = .ok (x, f₁) ∧ buildAll f₁ parts = .ok (xs', f') ∧ xs = x :: xs' := by
  rw [buildAll]
  constructor
  · intro h
    obtain ⟨⟨x, f₁⟩, hx, h⟩ := except_bind_eq_ok.mp h
    obtain ⟨⟨xs', f₂⟩, hxs, h⟩ := except_bind_eq_ok.mp h
    obtain ⟨rfl, rfl⟩ := Prod.mk.inj (Except.ok.inj h)
    exact ⟨x, f₁, xs', hx, hxs, rfl⟩
  · rintro ⟨x, f₁, xs', hx, hxs, rfl⟩
    exact except_bind_eq_ok.mpr ⟨_, hx, except_bind_eq_ok.mpr ⟨_, hxs, rfl⟩⟩

theorem buildAll_singleton {p : Pattern} (h : build f p = .ok (x, f')) :
    buildAll f [p] = .ok ([x], f') :=
  buildAll_cons_eq_ok.mpr ⟨x, f', [], h, rfl, rfl⟩

theorem buildAll_append {f'' : Flags} {xs' : List Term} (hp : buildAll f parts = .ok (xs, f'))
    (hq : buildAll f' parts' = .ok (xs', f'')) :
    buildAll f (parts ++ parts') = .ok (xs ++ xs', f'') := by
  induction parts generalizing f xs with
  | nil =>
    obtain ⟨rfl, rfl⟩ := Prod.mk.inj (Except.ok.inj hp)
    exact hq
  | cons p parts ih =>
    obtain ⟨x, f₁, xs₁, hx, hxs, rfl⟩ := buildAll_cons_eq_ok.mp hp
    exact buildAll_cons_eq_ok.mpr ⟨x, f₁, _, hx, ih hxs, rfl⟩

theorem build_concatOf_reverse (h : buildAll f parts = .ok (xs, f')) :
    build f (concatOf parts.reverse) = .ok (.sequence xs, f') := by
  rw [concatOf_reverse]
  match parts with
  | [] =>
    obtain ⟨rfl, rfl⟩ := Prod.mk.inj (Except.ok.inj h)
    rfl
  | [p] =>
    obtain ⟨x, f₁, xs, hx, hxs, rfl⟩ := buildAll_cons_eq_ok.mp h
    obtain ⟨rfl, rfl⟩ := Prod.mk.inj (Except.ok.inj hxs)
    exact hx
  | p :: p' :: ps => exact except_bind_eq_ok.mpr ⟨_, h, rfl⟩

theorem build_altOf_reverse (h : buildAll f options = .ok (xs, f')) :
    build f (altOf options.reverse) = .ok (.choice xs, f') := by
  rw [altOf_reverse]
  match options with
  | [] =>
    obtain ⟨rfl, rfl⟩ := Prod.mk.inj (Except.ok.inj h)
    rfl
  | [p] =>
    obtain ⟨x, f₁, xs, hx, hxs, rfl⟩ := buildAll_cons_eq_ok.mp h
    obtain ⟨rfl, rfl⟩ := Prod.mk.inj (Except.ok.inj hxs)
    exact hx
  | p :: p' :: ps => exact except_bind_eq_ok.mpr ⟨_, h, rfl⟩

/-! ## Texts and matchers -/

/-- A text is written for terms whose expressions match as a matcher does. -/
def Writes (p : List Char) (m : Matcher) : Prop :=
  ∃ parts xs ms, ReadsAs p parts ∧ buildAll {} parts = .ok (xs, {}) ∧
    List.Forall₂ Acts (xs.map Term.expand) ms ∧ Matcher.inOrder ms = m

/-- The same between the parentheses of a group. -/
def WritesInside (p : List Char) (m : Matcher) : Prop :=
  ∃ inner x, ReadsInside p inner ∧ build {} inner = .ok (x, {}) ∧ Acts x.expand m

/-- One pattern alone. -/
theorem writes_of_readsAs {pattern : Pattern} (h : ReadsAs p [pattern])
    (hbuild : build {} pattern = .ok (x, {})) (hx : Acts x.expand m) : Writes p m :=
  ⟨_, _, [m], h, buildAll_singleton hbuild, .cons hx .nil, Matcher.andThen_empty m⟩

theorem Writes.inside (h : Writes p m) : WritesInside p m := by
  obtain ⟨parts, xs, ms, hread, hbuild, hacts, rfl⟩ := h
  refine ⟨_, _, hread.inside, build_concatOf_reverse hbuild, ?_⟩
  rw [Term.expand_sequence]
  exact .sequence hacts

theorem build_group (h : build {} inner = .ok (x, {})) :
    build {} (.group [] inner) = .ok (x, {}) :=
  except_bind_eq_ok.mpr ⟨_, h, rfl⟩

theorem WritesInside.grouped (h : WritesInside p m) : Writes (grouped p) m := by
  obtain ⟨inner, x, hread, hbuild, hx⟩ := h
  exact writes_of_readsAs hread.readsAs_grouped (build_group hbuild) hx

theorem acts_literalClass (anyCase : Bool) (c : Char) :
    Acts (.chars (literalClass anyCase c)) (Matcher.spelled anyCase c) := by
  refine ⟨rfl, (matcher_chars _).trans (congrArg Matcher.char (funext fun d => ?_))⟩
  rw [Bool.eq_iff_iff, mem_literalClass_iff, List.contains_iff_mem]

theorem forall₂_acts_literalClass (anyCase : Bool) (cs : List Char) :
    List.Forall₂ Acts (((cs.map (literalClass anyCase)).map Term.chars).map Term.expand)
      (cs.map (Matcher.spelled anyCase)) := by
  induction cs with
  | nil => exact .nil
  | cons c cs ih => exact .cons (acts_literalClass anyCase c) ih

theorem writes_ofLiteral (value : String) (anyCase : Bool) :
    Writes (ofLiteral value anyCase) (.inOrder (value.toList.map (Matcher.spelled anyCase))) := by
  cases anyCase with
  | false =>
    exact ⟨_, _, _, readsAs_escape _, buildAll_written rfl _, forall₂_acts_literalClass false _,
      rfl⟩
  | true =>
    have hbuild : build {} (.group [(.anyCase, true)] (wordPattern value.toList)) =
        .ok (.sequence ((value.toList.map (literalClass true)).map .chars), {}) :=
      except_bind_eq_ok.mpr ⟨_, build_wordPattern rfl _, rfl⟩
    refine writes_of_readsAs (readsAs_anyCase _) hbuild ?_
    rw [Term.expand_sequence]
    exact .sequence (forall₂_acts_literalClass true _)

theorem writes_ofRange (first last : Char) :
    Writes (ofRange first last) (.char fun c => first ≤ c && c ≤ last) :=
  writes_of_readsAs (readsAs_ofRange first last) rfl (acts_chars (.range first last))

/-- Texts one after the other. -/
theorem writes_flatten {ps : List (List Char)} (h : List.Forall₂ Writes ps ms) :
    Writes ps.flatten (.inOrder ms) := by
  induction h with
  | nil => exact ⟨[], [], [], readsAs_nil, rfl, .nil, rfl⟩
  | cons hp _ ih =>
    obtain ⟨parts, xs, ms₁, hread, hbuild, hacts, rfl⟩ := hp
    obtain ⟨parts', xs', ms₂, hread', hbuild', hacts', hms⟩ := ih
    refine ⟨_, _, ms₁ ++ ms₂, hread.append hread', buildAll_append hbuild hbuild', ?_, ?_⟩
    · rw [List.map_append]
      exact List.rel_append hacts hacts'
    · rw [Matcher.inOrder_append, hms, Matcher.inOrder]

/-- Texts with bars between them. -/
theorem writesInside_alternatives {ps : List (List Char)} (h : List.Forall₂ Writes ps ms)
    (hne : ps ≠ []) : WritesInside (ps.intersperse ['|']).flatten (.firstOf ms) := by
  obtain ⟨partss, xs, hread, hbuild, hacts⟩ : ∃ partss xs, List.Forall₂ ReadsAs ps partss ∧
      buildAll {} (partss.map (concatOf ·.reverse)) = .ok (xs, {}) ∧
      List.Forall₂ Acts (xs.map Term.expand) ms := by
    clear hne
    induction h with
    | nil => exact ⟨[], [], .nil, rfl, .nil⟩
    | cons hp _ ih =>
      obtain ⟨parts, xs₁, ms₁, hread, hbuild, hacts, rfl⟩ := hp
      obtain ⟨partss, xs, hreads, hbuilds, hall⟩ := ih
      refine ⟨parts :: partss, _, .cons hread hreads,
        buildAll_cons_eq_ok.mpr ⟨_, _, xs, build_concatOf_reverse hbuild, hbuilds, rfl⟩,
        .cons ?_ hall⟩
      rw [Term.expand_sequence]
      exact .sequence hacts
  refine ⟨_, _, ReadsAs.alternatives hread hne, build_altOf_reverse hbuild, ?_⟩
  rw [Term.expand_choice]
  refine .choice hacts fun hnil => ?_
  rw [hnil] at hacts
  cases hacts
  cases h
  exact hne rfl

theorem Writes.repeated (h : Writes p m) (hm : m [] = []) (least : Nat) (most : Option Nat) :
    Writes (TerminalPattern.grouped p ++ repetition least most) (m.repeated least most) := by
  obtain ⟨inner, x, hread, hbuild, hx⟩ := h.inside
  have hrep : build {} (.rep (.group [] inner) least most true) =
      .ok (.rep true least most x, {}) :=
    except_bind_eq_ok.mpr ⟨_, build_group hbuild, rfl⟩
  exact writes_of_readsAs (hread.readsAs_repeated least most) hrep (hx.repeated hm least most)

/-- The pattern of a terminal that can be read. -/
theorem ReadsInside.eq_of_readPattern (h : ReadsInside p inner) {pattern : Pattern}
    (hread : readPattern ('^' :: TerminalPattern.grouped p) = .ok pattern) :
    pattern = .concat [.anchor .caret, .group [] inner] := by
  obtain ⟨⟨pattern', k⟩, hbody, hread⟩ := except_bind_eq_ok.mp hread
  rw [readBody_caret, ← List.append_nil (TerminalPattern.grouped p)] at hbody
  obtain ⟨fuel, hbody⟩ := h.readsAs_grouped.goesOn (by simp) hbody
  obtain ⟨n, rfl⟩ := readBody_fuel_pos hbody
  obtain ⟨rfl, rfl⟩ := Prod.mk.inj (Except.ok.inj hbody)
  dsimp only at hread
  split_ifs at hread
  exact (Except.ok.inj hread).symm

theorem WritesInside.suffix (h : WritesInside p m) (ht : t ∈ m s) : t <:+ s := by
  obtain ⟨inner, x, -, -, hx⟩ := h
  exact suffix_of_mem_matcher (hx.matcher_eq ▸ ht)

/-- A terminal matches what its pattern is written for. -/
theorem WritesInside.matchLength? {name : String} (h : WritesInside p m)
    (hr : Build.anchored name p = .ok r) (s : List Char) :
    r.matchLength? none s = (m s).head?.map fun t => s.length - t.length := by
  obtain ⟨inner, x, hread, hbuild, hacts⟩ := h
  have hall : build {} (.concat [.anchor .caret, .group [] inner]) =
      .ok (.concat [.look .start false, x], {}) :=
    except_bind_eq_ok.mpr ⟨([.look .start false, x], {}), buildAll_cons_eq_ok.mpr
      ⟨_, _, [x], rfl, buildAll_singleton (build_group hbuild), rfl⟩, rfl⟩
  have hcompile : r = .seq (.look .start false) x.expand := by
    unfold Build.anchored at hr
    split at hr
    · next r₁ hr₁ =>
      obtain rfl := Except.ok.inj hr
      obtain ⟨pattern, hpattern, hbuilt⟩ := except_bind_eq_ok.mp hr₁
      obtain rfl := hread.eq_of_readPattern hpattern
      rw [hall] at hbuilt
      change (if sizeLimit < _ then _ else _) = _ at hbuilt
      split_ifs at hbuilt
      exact (Except.ok.inj hbuilt).symm
    · cases hr
  rw [hcompile, matchLength?_anchored, matchLength?_eq_head? hacts.isPlain, hacts.matcher_eq]

end Regex

end QueryGate
