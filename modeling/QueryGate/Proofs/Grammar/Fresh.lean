import Std.Data.String.ToNat
import QueryGate.Proofs.Grammar.Steps

/-!
# Rules made for groups and repetitions are new

The name of such a rule ends in its number (`helperName_inj`), so no rule of a draft has it when the
rule is made, as long as the source does not use the name itself (`Draft.Tidy`). A new rule has no
productions, and a step leaves all rules alone that it is not about (`Draft.Keeps`). The rules that
a step makes are all rules it adds but for those that the source names (`Draft.Adds`).
-/

namespace QueryGate

open Ebnf

variable {ρ : Type}

/-! ## Names -/

/-- The name of the rule with a number that is made inside the rule `owner`. -/
def helperName (owner : String) (number : Nat) : String :=
  Grammar.helperMark ++ owner ++ "_" ++ toString number

/-- A name that no rule made for a group or a repetition has. -/
def IsPlainName (name : String) : Prop :=
  ¬Grammar.helperMark.toList <+: name.toList

theorem not_isPlainName_helperName (owner : String) (number : Nat) :
    ¬IsPlainName (helperName owner number) := by
  intro h
  refine h ⟨owner.toList ++ "_".toList ++ (toString number).toList, ?_⟩
  simp only [helperName, String.toList_append, List.append_assoc]

theorem helperName_notMem {names : List String} (hplain : ∀ n ∈ names, IsPlainName n)
    (owner : String) (number : Nat) : helperName owner number ∉ names :=
  fun hmem => not_isPlainName_helperName owner number (hplain _ hmem)

theorem eq_of_append_cons_eq {c : Char} {s s' t t' : List Char} (ht : c ∉ t) (ht' : c ∉ t')
    (h : s ++ c :: t = s' ++ c :: t') : t = t' := by
  have htail : ∀ {s t : List Char}, c ∉ t →
      ((s ++ c :: t).reverse.takeWhile (· != c)).reverse = t := by
    intro s t ht
    rw [List.reverse_append, List.reverse_cons, List.append_assoc,
      List.takeWhile_append_of_pos (fun d hd => ?_)]
    · simp
    · simpa using fun hdc : d = c => ht (hdc ▸ List.mem_reverse.mp hd)
  rw [← htail (s := s) ht, h, htail ht']

theorem helperName_inj {owner owner' : String} {number number' : Nat}
    (h : helperName owner number = helperName owner' number') : number = number' := by
  have hdigits : ∀ n : Nat, '_' ∉ (toString n).toList := by
    intro n hn
    have hmem : '_' ∈ Nat.toDigits 10 n := by
      rw [← Nat.toList_repr]
      exact hn
    have hdigit : '_'.isDigit = true :=
      Nat.isDigit_of_mem_toDigits (by decide : 0 < 10) (by decide) hmem
    exact absurd hdigit (by decide)
  have hlist : (Grammar.helperMark.toList ++ owner.toList) ++ '_' :: (toString number).toList =
      (Grammar.helperMark.toList ++ owner'.toList) ++ '_' :: (toString number').toList := by
    simpa [helperName] using congrArg String.toList h
  exact Nat.repr_injective
    (String.toList_inj.mp (eq_of_append_cons_eq (hdigits number) (hdigits number') hlist))

/-! ## Drafts -/

namespace Draft

variable {d d' d'' : Draft ρ} {names : List String} {touched touched' : Nat → Prop} {r : Nat}

/-- The right-hand sides of the productions of a rule, in order. -/
def alternativesOf (d : Draft ρ) (r : Nat) : List (List Symbol) :=
  (d.productions.toList.filter fun p => p.lhs == r).map (·.rhs)

/-- The lexeme of a terminal. -/
def lexemeOf? (d : Draft ρ) (t : Nat) : Option Lexeme :=
  d.terminals[t]?.map (·.lexeme)

/-- Nothing of a draft is lost in another, and rules that are not touched get no productions. -/
structure Keeps (touched : Nat → Prop) (d d' : Draft ρ) : Prop where
  names : d.ruleNames.toList <+: d'.ruleNames.toList
  terminals : d.terminals.toList <+: d'.terminals.toList
  defined : ∀ r : Nat, d.defined[r]? = some true → d'.defined[r]? = some true
  alternatives : ∀ r < d.ruleNames.size, ¬touched r → d'.alternativesOf r = d.alternativesOf r

/-- The rules of a draft are those with the given names, and rules made for groups and repetitions,
which have been defined. -/
structure Tidy (names : List String) (d : Draft ρ) : Prop where
  within : d.Within
  size_defined : d.defined.size = d.ruleNames.size
  nodup : d.ruleNames.toList.Nodup
  known : ∀ (r : Nat) name, d.ruleNames[r]? = some name → name ∈ names ∨
    (∃ owner number, number ≤ d.helpers ∧ name = helperName owner number) ∧
      d.defined[r]? = some true

theorem Keeps.refl (touched : Nat → Prop) (d : Draft ρ) : d.Keeps touched d :=
  ⟨List.prefix_refl _, List.prefix_refl _, fun _ => id, fun _ _ _ => rfl⟩

theorem Keeps.size_le (h : d.Keeps touched d') : d.ruleNames.size ≤ d'.ruleNames.size :=
  h.names.length_le

theorem Keeps.trans (h : d.Keeps touched d') (h' : d'.Keeps touched d'') : d.Keeps touched d'' :=
  ⟨h.names.trans h'.names, h.terminals.trans h'.terminals,
    fun r hr => h'.defined r (h.defined r hr), fun r hr htouched =>
      (h'.alternatives r (Nat.lt_of_lt_of_le hr h.size_le) htouched).trans
        (h.alternatives r hr htouched)⟩

/-- Which of the old rules are touched is all that counts. -/
theorem Keeps.mono (h : d.Keeps touched d')
    (htouched : ∀ r < d.ruleNames.size, touched r → touched' r) : d.Keeps touched' d' :=
  ⟨h.names, h.terminals, h.defined, fun r hr hnot =>
    h.alternatives r hr fun ht => hnot (htouched r hr ht)⟩

theorem getElem?_of_isPrefix {α : Type} {xs ys : Array α} {i : Nat} {a : α}
    (h : xs.toList <+: ys.toList) (hi : xs[i]? = some a) : ys[i]? = some a := by
  obtain ⟨rest, hrest⟩ := h
  rw [← Array.getElem?_toList] at hi ⊢
  rw [← hrest, List.getElem?_append_left (List.getElem?_eq_some_iff.mp hi).1, hi]

theorem Keeps.ruleNames (h : d.Keeps touched d') {name : String}
    (hr : d.ruleNames[r]? = some name) : d'.ruleNames[r]? = some name :=
  getElem?_of_isPrefix h.names hr

theorem Keeps.ruleNames_eq (h : d.Keeps touched d') (hr : r < d.ruleNames.size) :
    d'.ruleNames[r]? = d.ruleNames[r]? := by
  rw [h.ruleNames (Array.getElem?_eq_getElem hr), Array.getElem?_eq_getElem hr]

theorem Keeps.lexemeOf? (h : d.Keeps touched d') {t : Nat} {x : Lexeme}
    (ht : d.lexemeOf? t = some x) : d'.lexemeOf? t = some x := by
  obtain ⟨y, hy, rfl⟩ := Option.map_eq_some_iff.mp ht
  exact Option.map_eq_some_iff.mpr ⟨y, getElem?_of_isPrefix h.terminals hy, rfl⟩

theorem Tidy.alternativesOf_eq_nil (h : d.Tidy names) (hr : d.ruleNames.size ≤ r) :
    d.alternativesOf r = [] := by
  have hnone : (d.productions.toList.filter fun p => p.lhs == r) = [] := by
    refine List.filter_eq_nil_iff.mpr fun p hp heq => ?_
    have hlt := (h.within p (Array.mem_def.mpr hp)).lhs_lt
    have hlhs : p.lhs = r := by simpa using heq
    omega
  rw [alternativesOf, hnone, List.map_nil]

/-- A rule with a name that names it alone. -/
theorem Tidy.index_unique (h : d.Tidy names) {r' : Nat} {name : String}
    (hr : d.ruleNames[r]? = some name) (hr' : d.ruleNames[r']? = some name) : r = r' := by
  rw [← Array.getElem?_toList] at hr hr'
  exact (List.getElem?_inj (List.getElem?_eq_some_iff.mp hr).1 h.nodup).mp (hr.trans hr'.symm)

end Draft

namespace Draft

variable {d d' : Draft ρ} {names : List String} {name : String} {flag : Bool}

/-- A draft with one rule more. -/
structure Pushes (name : String) (flag : Bool) (d d' : Draft ρ) : Prop where
  new : name ∉ d.ruleNames
  ruleNames : d'.ruleNames = d.ruleNames.push name
  defined : d'.defined = d.defined.push flag
  helpers_le : d.helpers ≤ d'.helpers
  productions : d'.productions = d.productions
  terminals : d'.terminals = d.terminals

theorem Pushes.keeps (h : d.Pushes name flag d') (touched : Nat → Prop) : d.Keeps touched d' := by
  refine ⟨⟨[name], ?_⟩, ⟨[], ?_⟩, fun r hr => ?_, fun r _ _ => ?_⟩
  · rw [h.ruleNames, Array.toList_push]
  · rw [h.terminals, List.append_nil]
  · rw [h.defined, Array.getElem?_push_lt (Array.getElem?_eq_some_iff.mp hr).1]
    rwa [Array.getElem?_eq_getElem (Array.getElem?_eq_some_iff.mp hr).1] at hr
  · rw [alternativesOf, h.productions, alternativesOf]

theorem Pushes.tidy (h : d.Pushes name flag d') (ht : d.Tidy names)
    (hname : name ∈ names ∨
      (∃ owner number, number ≤ d'.helpers ∧ name = helperName owner number) ∧ flag = true) :
    d'.Tidy names := by
  have hsize : d'.ruleNames.size = d.ruleNames.size + 1 := by rw [h.ruleNames, Array.size_push]
  refine ⟨?_, ?_, ?_, fun r other hr => ?_⟩
  · have hgrows : d.Grows d' := grows_of_productions_eq (by omega)
      (Nat.le_of_eq (congrArg Array.size h.terminals).symm) h.productions
    exact hgrows.within ht.within
  · rw [h.defined, Array.size_push, ht.size_defined, hsize]
  · rw [h.ruleNames, Array.toList_push]
    have hone : [name].Nodup := List.nodup_cons.mpr ⟨List.not_mem_nil, List.nodup_nil⟩
    refine List.nodup_append.mpr ⟨ht.nodup, hone, fun a ha b hb hab => ?_⟩
    rw [List.mem_singleton.mp hb] at hab
    exact h.new (Array.mem_def.mpr (hab ▸ ha))
  · rw [h.ruleNames, Array.getElem?_push] at hr
    rw [h.defined, Array.getElem?_push, ht.size_defined]
    split_ifs at hr ⊢ with hlast
    · obtain rfl := Option.some.inj hr
      exact hname.imp_right fun hhelper => ⟨hhelper.1, by rw [hhelper.2]⟩
    · refine (ht.known r other hr).imp_right fun hhelper => ⟨?_, hhelper.2⟩
      obtain ⟨owner, number, hle, heq⟩ := hhelper.1
      exact ⟨owner, number, Nat.le_trans hle h.helpers_le, heq⟩

/-! ## Added rules -/

/-- A rule of the draft behind the first `b`. -/
structure Made (d : Draft ρ) (b r : Nat) : Prop where
  le : b ≤ r
  lt : r < d.ruleNames.size

/-- Of the rules that one draft has more than another, some are made for groups and repetitions, and
the others are those that the source names. -/
structure Adds (names : List String) (d d' : Draft ρ) (made : List Nat) : Prop where
  nodup : made.Nodup
  mem_iff : ∀ r, r ∈ made ↔
    d'.Made d.ruleNames.size r ∧ ∀ n ∈ names, d'.ruleNames[r]? ≠ some n

variable {made made' : List Nat} {touched : Nat → Prop}

theorem adds_nil (h : ∀ r, d'.Made d.ruleNames.size r → ∃ n ∈ names, d'.ruleNames[r]? = some n) :
    d.Adds names d' [] := by
  refine ⟨List.nodup_nil, fun r => ⟨fun hr => absurd hr List.not_mem_nil, ?_⟩⟩
  rintro ⟨hmade, hforeign⟩
  obtain ⟨n, hn, hr⟩ := h r hmade
  exact absurd hr (hforeign n hn)

theorem adds_of_eq (h : d'.ruleNames = d.ruleNames) : d.Adds names d' [] :=
  adds_nil fun _ hr => absurd (h ▸ hr.lt) (Nat.not_lt_of_le hr.le)

theorem Pushes.adds (h : d.Pushes name flag d') (hname : name ∉ names) :
    d.Adds names d' [d.ruleNames.size] := by
  refine ⟨List.nodup_cons.mpr ⟨List.not_mem_nil, List.nodup_nil⟩, fun r => ?_⟩
  have hsize : d'.ruleNames.size = d.ruleNames.size + 1 := by rw [h.ruleNames, Array.size_push]
  rw [List.mem_singleton]
  constructor
  · rintro rfl
    refine ⟨⟨Nat.le_refl _, by omega⟩, fun n hn heq => ?_⟩
    rw [h.ruleNames, Array.getElem?_push_size] at heq
    exact hname (Option.some.inj heq ▸ hn)
  · rintro ⟨hmade, -⟩
    have hlt := hmade.lt
    have hle := hmade.le
    omega

theorem adds_push (h : d'.ruleNames = d.ruleNames.push name) (hname : name ∈ names) :
    d.Adds names d' [] := by
  refine adds_nil fun r hr => ⟨name, hname, ?_⟩
  have hlt := hr.lt
  rw [h, Array.size_push] at hlt
  rw [h, Nat.le_antisymm (Nat.le_of_lt_succ hlt) hr.le, Array.getElem?_push_size]

theorem Adds.forall_made (h : d.Adds names d' made) : ∀ r ∈ made, d'.Made d.ruleNames.size r :=
  fun r hr => ((h.mem_iff r).mp hr).1

theorem Adds.of_eq {d'' : Draft ρ} (h : d.Adds names d' made) (heq : d''.ruleNames = d'.ruleNames) :
    d.Adds names d'' made := by
  refine ⟨h.nodup, fun r => (h.mem_iff r).trans ?_⟩
  rw [heq]
  exact and_congr_left' ⟨fun hr => ⟨hr.le, heq ▸ hr.lt⟩, fun hr => ⟨hr.le, heq ▸ hr.lt⟩⟩

theorem Adds.append {d₁ : Draft ρ} (h : d.Adds names d₁ made)
    (hle : d.ruleNames.size ≤ d₁.ruleNames.size) (hkeeps : d₁.Keeps touched d')
    (h' : d₁.Adds names d' made') : d.Adds names d' (made ++ made') := by
  constructor
  · refine List.nodup_append.mpr ⟨h.nodup, h'.nodup, fun a ha b hb hab => ?_⟩
    have hlt := (h.forall_made a ha).lt
    have hge := (h'.forall_made b hb).le
    omega
  · intro r
    rw [List.mem_append, h.mem_iff, h'.mem_iff]
    by_cases hr : r < d₁.ruleNames.size
    · rw [hkeeps.ruleNames_eq hr]
      have hnot : ¬d'.Made d₁.ruleNames.size r := fun hmade => Nat.not_lt_of_le hmade.le hr
      have hmade : d₁.Made d.ruleNames.size r ↔ d'.Made d.ruleNames.size r :=
        ⟨fun hmade => ⟨hmade.le, Nat.lt_of_lt_of_le hr hkeeps.size_le⟩,
          fun hmade => ⟨hmade.le, hr⟩⟩
      simp only [hnot, false_and, or_false, hmade]
    · have hnot : ¬d₁.Made d.ruleNames.size r := fun hmade => hr hmade.lt
      have hmade : d'.Made d₁.ruleNames.size r ↔ d'.Made d.ruleNames.size r :=
        ⟨fun hmade => ⟨Nat.le_trans hle hmade.le, hmade.lt⟩,
          fun hmade => ⟨Nat.le_of_not_lt hr, hmade.lt⟩⟩
      simp only [hnot, false_and, false_or, hmade]

/-- A change that adds neither rules nor productions. -/
theorem Tidy.of_eq (ht : d.Tidy names) (d' : Draft ρ) (hnames : d'.ruleNames = d.ruleNames)
    (hsize : d'.defined.size = d.defined.size)
    (hdefined : ∀ r : Nat, d.defined[r]? = some true → d'.defined[r]? = some true)
    (hhelpers : d'.helpers = d.helpers) (hproductions : d'.productions = d.productions)
    (hterminals : d.terminals.toList <+: d'.terminals.toList) (touched : Nat → Prop) :
    d'.Tidy names ∧ d.Keeps touched d' := by
  refine ⟨⟨?_, ?_, ?_, fun r other hr => ?_⟩, ⟨?_, hterminals, hdefined, fun r _ _ => ?_⟩⟩
  · have hgrows : d.Grows d' := grows_of_productions_eq
      (Nat.le_of_eq (congrArg Array.size hnames).symm) hterminals.length_le hproductions
    exact hgrows.within ht.within
  · rw [hsize, hnames, ht.size_defined]
  · rw [hnames]
    exact ht.nodup
  · rw [hnames] at hr
    rw [hhelpers]
    exact (ht.known r other hr).imp_right fun hhelper => ⟨hhelper.1, hdefined r hhelper.2⟩
  · exact hnames ▸ List.prefix_refl _
  · rw [alternativesOf, hproductions, alternativesOf]

end Draft

namespace Build

variable {d d' : Draft ρ} {names : List String} {name owner : String} {r : Nat} {s : Symbol}
  {ss : List Symbol} {u : Unit}

/-- No rule. -/
abbrev untouched : Nat → Prop := fun _ => False

theorem setIfInBounds_push_size {α : Type} (xs : Array α) (a b : α) :
    (xs.push a).setIfInBounds xs.size b = xs.push b := by
  rw [← Array.toList_inj, Array.toList_setIfInBounds, Array.toList_push, Array.toList_push,
    ← Array.length_toList, List.set_append_right _ _ (Nat.le_refl _)]
  simp

theorem tidy_ruleId (ht : d.Tidy names) (hname : name ∈ names)
    (h : ruleId name d = .ok (r, d')) :
    d'.Tidy names ∧ d.Keeps untouched d' ∧ d.Adds names d' [] ∧ d'.ruleNames[r]? = some name := by
  rcases cases_of_ruleId h with ⟨hr, rfl⟩ | ⟨hnew, rfl, rfl⟩
  · exact ⟨ht, .refl _ _, Draft.adds_of_eq rfl, hr⟩
  · have hpush : d.Pushes name false
        { d with ruleNames := d.ruleNames.push name, defined := d.defined.push false } :=
      ⟨hnew, rfl, rfl, Nat.le_refl _, rfl, rfl⟩
    exact ⟨hpush.tidy ht (Or.inl hname), hpush.keeps _, Draft.adds_push rfl hname,
      Array.getElem?_push_size⟩

/-- What a step gives that makes a new rule. -/
structure Makes (names : List String) (d d' : Draft ρ) (r : Nat) : Prop where
  tidy : d'.Tidy names
  keeps : d.Keeps untouched d'
  eq_size : r = d.ruleNames.size
  adds : d.Adds names d' [r]
  alternatives : d'.alternativesOf r = []

theorem Makes.lt (h : Makes names d d' r) : r < d'.ruleNames.size :=
  (h.adds.forall_made r (List.mem_singleton.mpr rfl)).lt

/-- Productions of a new rule leave the old ones alone. -/
theorem Makes.keeps_trans {d'' : Draft ρ} (h : Makes names d d' r) (h' : d'.Keeps (· = r) d'') :
    d.Keeps untouched d'' := by
  have hkeeps : d.Keeps (· = r) d'' := (h.keeps.mono fun _ _ => False.elim).trans h'
  refine hkeeps.mono fun r' hlt heq => ?_
  have hsize := h.eq_size
  omega

/-- The number in its name makes the rule of a group or a repetition new. -/
theorem makes_helperRule (hfresh : ∀ number, helperName owner number ∉ names) (ht : d.Tidy names)
    (h : helperRule owner d = .ok (r, d')) : Makes names d d' r := by
  obtain ⟨d₁, hid, hdefine⟩ := exists_of_helperRule h
  obtain rfl := modify_eq_ok.mp hdefine
  change ruleId (helperName owner (d.helpers + 1)) _ = _ at hid
  have hnew : helperName owner (d.helpers + 1) ∉ d.ruleNames := by
    intro hmem
    obtain ⟨i, hi⟩ := Array.mem_iff_getElem?.mp hmem
    rcases ht.known i _ hi with hname | ⟨⟨owner', number, hle, heq⟩, -⟩
    · exact hfresh _ hname
    · have hnumber := helperName_inj heq
      omega
  rcases cases_of_ruleId hid with ⟨hr, -⟩ | ⟨-, rfl, rfl⟩
  · exact absurd (Array.mem_of_getElem? hr) hnew
  · have hflag : (d.defined.push false).setIfInBounds d.ruleNames.size true =
        d.defined.push true := by
      rw [← ht.size_defined, setIfInBounds_push_size]
    have hpush : d.Pushes (helperName owner (d.helpers + 1)) true
        { d with
          helpers := d.helpers + 1
          ruleNames := d.ruleNames.push (helperName owner (d.helpers + 1))
          defined := (d.defined.push false).setIfInBounds d.ruleNames.size true } :=
      ⟨hnew, rfl, hflag, Nat.le_succ _, rfl, rfl⟩
    refine ⟨hpush.tidy ht (Or.inr ⟨⟨owner, _, Nat.le_refl _, rfl⟩, rfl⟩), hpush.keeps _, rfl,
      hpush.adds (hfresh _), ?_⟩
    exact ht.alternativesOf_eq_nil (Nat.le_refl _)

theorem tidy_define (ht : d.Tidy names) (h : define r d = .ok (u, d')) (touched : Nat → Prop) :
    d'.Tidy names ∧ d.Keeps touched d' := by
  obtain rfl := modify_eq_ok.mp h
  refine ht.of_eq { d with defined := d.defined.setIfInBounds r true } rfl
    Array.size_setIfInBounds (fun i hi => ?_) rfl rfl (List.prefix_refl _) _
  change (d.defined.setIfInBounds r true)[i]? = some true
  rw [Array.getElem?_setIfInBounds]
  have hlt := (Array.getElem?_eq_some_iff.mp hi).1
  split_ifs <;> simp_all

theorem tidy_produce (ht : d.Tidy names) (hr : r < d.ruleNames.size) (hss : ∀ s ∈ ss, d.Has s)
    (h : produce r ss d = .ok (u, d')) :
    d'.Tidy names ∧ d.Keeps (· = r) d' ∧ d'.alternativesOf r = d.alternativesOf r ++ [ss] := by
  have hgrows := grows_produce hr hss h
  obtain rfl := modify_eq_ok.mp h
  have halternatives : ∀ r', Draft.alternativesOf
      { d with productions := d.productions.push ⟨r, ss⟩ } r' =
        d.alternativesOf r' ++ if r = r' then [ss] else [] := by
    intro r'
    unfold Draft.alternativesOf
    rw [Array.toList_push, List.filter_append, List.map_append]
    by_cases heq : r = r' <;> simp [heq]
  refine ⟨⟨hgrows.within ht.within, ht.size_defined, ht.nodup, ht.known⟩,
    ⟨List.prefix_refl _, List.prefix_refl _, fun _ => id, fun r' _ hne => ?_⟩, ?_⟩
  · rw [halternatives, if_neg (fun heq => hne heq.symm), List.append_nil]
  · rw [halternatives, if_pos rfl]

theorem ruleNames_of_produce (h : produce r ss d = .ok (u, d')) : d'.ruleNames = d.ruleNames := by
  obtain rfl := modify_eq_ok.mp h
  rfl

theorem tidy_terminal [Scanner ρ] {x : Lexeme} {pattern : Build ρ (List Char)} (ht : d.Tidy names)
    (hpattern : Writes x pattern) (h : terminal x pattern d = .ok (s, d')) :
    d'.Tidy names ∧ d.Keeps untouched d' ∧ d'.ruleNames = d.ruleNames ∧
      ∃ t, s = .terminal t ∧ d'.lexemeOf? t = some x := by
  rcases cases_of_terminal h with ⟨i, hi, rfl, rfl⟩ |
    ⟨-, source, d₁, regex, hsource, -, rfl, rfl⟩
  · obtain ⟨hlt, hlexeme, -⟩ := Array.findIdx?_eq_some_iff_getElem.mp hi
    refine ⟨ht, .refl _ _, rfl, i, rfl, ?_⟩
    rw [Draft.lexemeOf?, Array.getElem?_eq_getElem hlt, Option.map_some, beq_iff_eq.mp hlexeme]
  · rw [hpattern.eq_resolver d source d₁ hsource]
    obtain ⟨ht', hkeeps⟩ := ht.of_eq
      { d with resolver := d₁.resolver, terminals := d.terminals.push ⟨x, regex⟩ }
      rfl rfl (fun _ => id) rfl rfl (by simp) untouched
    refine ⟨ht', hkeeps, rfl, d.terminals.size, rfl, ?_⟩
    rw [Draft.lexemeOf?, Array.getElem?_push_size, Option.map_some]

theorem tidy_reference (ht : d.Tidy names) (hname : name ∈ names)
    (h : reference name owner d = .ok (s, d')) :
    d'.Tidy names ∧ d.Keeps untouched d' ∧ d.Adds names d' [] ∧
      ∃ r, s = .rule r ∧ d'.ruleNames[r]? = some name := by
  unfold reference at h
  obtain ⟨r, d₁, hid, h⟩ := bind_eq_ok.mp h
  obtain ⟨_, d₂, huse, h⟩ := bind_eq_ok.mp h
  obtain rfl := modify_eq_ok.mp huse
  obtain ⟨rfl, rfl⟩ := pure_eq_ok.mp h
  obtain ⟨ht₁, hkeeps, hadds, hr⟩ := tidy_ruleId ht hname hid
  split_ifs
  · exact ⟨ht₁, hkeeps, hadds, r, rfl, hr⟩
  · obtain ⟨ht₂, hkeeps₂⟩ := ht₁.of_eq { d₁ with firstUse := (r, owner) :: d₁.firstUse }
      rfl rfl (fun _ => id) rfl rfl (List.prefix_refl _) untouched
    exact ⟨ht₂, hkeeps.trans hkeeps₂, hadds.of_eq rfl, r, rfl, hr⟩

end Build

end QueryGate
