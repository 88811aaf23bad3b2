import QueryGate.Grammar.Scan

/-!
# Derivations

What productions derive between two positions of a text (`Spans`), given which pieces the terminals
take, and with it what a grammar derives in a text (`Grammar.Derives`).

* `spans_append_iff` : symbols one after the other derive neighbouring pieces;
* `Spans.transfer` : a derivation only depends on what the terminals take;
* `vanishes_of_spans` : where every terminal takes something, an empty piece is derived without
  terminals.
-/

namespace QueryGate

/-- The symbols derive the piece of a text from one position to another. `takes t k m` says that
the terminal `t` takes the piece from `k` to `m`. -/
inductive Spans (productions : Array Production) (takes : Nat → Nat → Nat → Prop) :
    List Symbol → Nat → Nat → Prop
  | nil (i : Nat) : Spans productions takes [] i i
  | rule {p : Production} {ss : List Symbol} {i k j : Nat} (hp : p ∈ productions)
      (h : Spans productions takes p.rhs i k) (hs : Spans productions takes ss k j) :
      Spans productions takes (.rule p.lhs :: ss) i j
  | terminal {t : Nat} {ss : List Symbol} {i k j : Nat} (ht : takes t i k)
      (hs : Spans productions takes ss k j) : Spans productions takes (.terminal t :: ss) i j

/-- The symbols derive the empty text without any terminal. -/
def Vanishes (productions : Array Production) (ss : List Symbol) : Prop :=
  Spans productions (fun _ _ _ => False) ss 0 0

variable {productions : Array Production} {takes takes' : Nat → Nat → Nat → Prop}
  {ss ss' : List Symbol} {r i j k : Nat}

theorem spans_append_iff : Spans productions takes (ss ++ ss') i j ↔
    ∃ k, Spans productions takes ss i k ∧ Spans productions takes ss' k j := by
  constructor
  · intro h
    generalize hall : ss ++ ss' = all at h
    induction h generalizing ss with
    | nil i =>
      obtain ⟨rfl, rfl⟩ := List.append_eq_nil_iff.mp hall
      exact ⟨i, .nil i, .nil i⟩
    | rule hp h hs _ ih =>
      rcases List.append_eq_cons_iff.mp hall with ⟨rfl, rfl⟩ | ⟨tail, rfl, rfl⟩
      · exact ⟨_, .nil _, .rule hp h hs⟩
      · obtain ⟨k, hleft, hright⟩ := ih rfl
        exact ⟨k, .rule hp h hleft, hright⟩
    | terminal ht hs ih =>
      rcases List.append_eq_cons_iff.mp hall with ⟨rfl, rfl⟩ | ⟨tail, rfl, rfl⟩
      · exact ⟨_, .nil _, .terminal ht hs⟩
      · obtain ⟨k, hleft, hright⟩ := ih rfl
        exact ⟨k, .terminal ht hleft, hright⟩
  · rintro ⟨k, h, h'⟩
    induction h with
    | nil => exact h'
    | rule hp h _ _ ih => exact .rule hp h (ih h')
    | terminal ht _ ih => exact .terminal ht (ih h')

theorem spans_rule_iff : Spans productions takes [.rule r] i j ↔
    ∃ p ∈ productions, p.lhs = r ∧ Spans productions takes p.rhs i j := by
  constructor
  · intro h
    cases h with
    | rule hp h hs =>
      cases hs
      exact ⟨_, hp, rfl, h⟩
  · rintro ⟨p, hp, rfl, h⟩
    exact .rule hp h (.nil j)

theorem spans_terminal_iff {t : Nat} :
    Spans productions takes [.terminal t] i j ↔ takes t i j := by
  constructor
  · intro h
    cases h with
    | terminal ht hs =>
      cases hs
      exact ht
  · exact fun h => .terminal h (.nil j)

/-- Where related positions see the same pieces taken, the same symbols derive related pieces. -/
theorem Spans.transfer {R : Nat → Nat → Prop}
    (hR : ∀ t k m k', R k k' → takes t k m → ∃ m', R m m' ∧ takes' t k' m')
    (h : Spans productions takes ss i j) {i' : Nat} (hi : R i i') :
    ∃ j', R j j' ∧ Spans productions takes' ss i' j' := by
  induction h generalizing i' with
  | nil => exact ⟨i', hi, .nil i'⟩
  | rule hp _ _ ih ihs =>
    obtain ⟨k', hk, hspans⟩ := ih hi
    obtain ⟨j', hj, hrest⟩ := ihs hk
    exact ⟨j', hj, .rule hp hspans hrest⟩
  | terminal ht _ ihs =>
    obtain ⟨k', hk, ht'⟩ := hR _ _ _ _ hi ht
    obtain ⟨j', hj, hrest⟩ := ihs hk
    exact ⟨j', hj, .terminal ht' hrest⟩

theorem Spans.le (htakes : ∀ t k m, takes t k m → k < m) (h : Spans productions takes ss i j) :
    i ≤ j := by
  induction h with
  | nil => exact Nat.le_refl _
  | rule _ _ _ ih ihs => exact Nat.le_trans ih ihs
  | terminal ht _ ihs => exact Nat.le_trans (Nat.le_of_lt (htakes _ _ _ ht)) ihs

/-! ## Empty pieces -/

theorem Vanishes.spans (h : Vanishes productions ss) (k : Nat) :
    Spans productions takes ss k k := by
  obtain ⟨j, rfl, hspans⟩ : ∃ j, j = k ∧ Spans productions takes ss k j :=
    h.transfer (R := fun _ k' => k' = k) (fun _ _ _ _ _ ht => ht.elim) rfl
  exact hspans

theorem vanishes_of_spans (htakes : ∀ t k m, takes t k m → k < m)
    (h : Spans productions takes ss i j) (hij : j ≤ i) : Vanishes productions ss := by
  induction h with
  | nil => exact .nil 0
  | rule hp h hs ih ihs =>
    have hik := h.le htakes
    have hkj := hs.le htakes
    exact .rule hp (ih (by omega)) (ihs (by omega))
  | terminal ht hs _ =>
    have hik := htakes _ _ _ ht
    have hkj := hs.le htakes
    omega

/-! ## Derivations in a text -/

namespace Grammar

variable {ρ : Type} [Scanner ρ]

/-- A terminal takes the piece of a text from one byte offset to another, ignored text in front of
it included. -/
def Takes (g : Grammar ρ) (text : List Char) (t k m : Nat) : Prop :=
  g.matchTerminal? t text (g.skipOffset text k) = some m

/-- A rule derives the piece of a text from one byte offset to another : one of its productions
splits the piece among its symbols. -/
def Derives (g : Grammar ρ) (text : List Char) (r i j : Nat) : Prop :=
  ∃ p ∈ g.productions, p.lhs = r ∧ Spans g.productions (g.Takes text) p.rhs i j

end Grammar

end QueryGate
