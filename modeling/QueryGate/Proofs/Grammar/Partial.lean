import QueryGate.Proofs.Grammar.Scan

/-!
# Partial derivations

A derivation from the root goes on from left to right : the first symbol left is replaced by the
right-hand side of a production, or is a terminal and takes a piece of the text. `Standing` says
where it can stand, and with which symbols left.

* `Standing.of_spans` : what the first symbols derive is left behind;
* `Grammar.standsAt_iff` : a derivation stands at bytes exactly as it stands at characters.
-/

namespace QueryGate

open Text

/-- A partial derivation from the root stands at a position of a text, with the given symbols left.
`takes t k m` says that the terminal `t` takes the piece from `k` to `m`. -/
inductive Standing (productions : Array Production) (takes : Nat → Nat → Nat → Prop) (root : Nat) :
    List Symbol → Nat → Prop
  | start : Standing productions takes root [.rule root] 0
  | expand {p : Production} {ss : List Symbol} {k : Nat} (hp : p ∈ productions)
      (h : Standing productions takes root (.rule p.lhs :: ss) k) :
      Standing productions takes root (p.rhs ++ ss) k
  | take {t : Nat} {ss : List Symbol} {k m : Nat}
      (h : Standing productions takes root (.terminal t :: ss) k) (ht : takes t k m) :
      Standing productions takes root ss m

variable {productions : Array Production} {takes takes' : Nat → Nat → Nat → Prop} {root : Nat}
  {ss ss' : List Symbol} {j k : Nat}

/-- The derivation goes on behind what its first symbols derive. -/
theorem Standing.of_spans (hspans : Spans productions takes ss j k)
    (h : Standing productions takes root (ss ++ ss') j) :
    Standing productions takes root ss' k := by
  induction hspans generalizing ss' with
  | nil => exact h
  | @rule p ss i k j hp _ _ ih ihs =>
    have hexpand : Standing productions takes root (p.rhs ++ (ss ++ ss')) i := .expand hp h
    exact ihs (ih hexpand)
  | terminal ht _ ihs => exact ihs (.take h ht)

/-- Where related positions see the same pieces taken, derivations stand at related positions. -/
theorem Standing.transfer {R : Nat → Nat → Prop} (hstart : R 0 0)
    (hR : ∀ t k m k', R k k' → takes t k m → ∃ m', R m m' ∧ takes' t k' m')
    (h : Standing productions takes root ss k) :
    ∃ k', R k k' ∧ Standing productions takes' root ss k' := by
  induction h with
  | start => exact ⟨0, hstart, .start⟩
  | expand hp _ ih =>
    obtain ⟨k', hk, hstands⟩ := ih
    exact ⟨k', hk, .expand hp hstands⟩
  | take _ ht ih =>
    obtain ⟨k', hk, hstands⟩ := ih
    obtain ⟨m', hm, ht'⟩ := hR _ _ _ _ hk ht
    exact ⟨m', hm, .take hstands ht'⟩

namespace Grammar

variable {ρ : Type} [Scanner ρ] {g : Grammar ρ} {text : List Char} {t b : Nat}

/-- A partial derivation from the root stands at a byte offset of a text, with the given symbols
left. -/
abbrev StandsAt (g : Grammar ρ) (text : List Char) (ss : List Symbol) (b : Nat) : Prop :=
  Standing g.productions (g.Takes text) g.root ss b

/-- Some partial derivation stands at a byte offset and can take the terminal next. -/
def CanTake (g : Grammar ρ) (text : List Char) (t b : Nat) : Prop :=
  ∃ ss, g.StandsAt text (.terminal t :: ss) b

/-- The last byte offset at which some partial derivation stands. -/
structure IsFurthest (g : Grammar ρ) (text : List Char) (b : Nat) : Prop where
  stands : ∃ ss, g.StandsAt text ss b
  le : ∀ ss b', g.StandsAt text ss b' → b' ≤ b

/-- Where a derivation stands does not depend on whether bytes or characters are counted. -/
theorem standsAt_iff : g.StandsAt text ss b ↔
    ∃ k, AtByte text k b ∧ Standing g.productions (g.Reads text) g.root ss k := by
  have hstart : AtByte text 0 0 := ⟨Nat.zero_le _, by simp⟩
  constructor
  · intro h
    refine h.transfer (R := fun b k => AtByte text k b) hstart fun t b m k hk ht => ?_
    obtain ⟨hle, rfl⟩ := hk
    obtain ⟨m', hreads, hm⟩ := (takes_byteLength_take_iff hle).mp ht
    exact ⟨m', ⟨hreads.le_length, hm⟩, hreads⟩
  · rintro ⟨k, hk, h⟩
    obtain ⟨b', hb, hstands⟩ := h.transfer (R := AtByte text) hstart fun t k m b hk ht => by
      obtain ⟨hle, rfl⟩ := hk
      exact ⟨_, ⟨ht.le_length, rfl⟩, (takes_byteLength_take_iff hle).mpr ⟨m, ht, rfl⟩⟩
    rwa [hk.2, ← hb.2]

/-- None of the terminals that can be taken next matches at the last offset. -/
theorem IsFurthest.matchTerminal?_eq_none (h : g.IsFurthest text b) (ht : g.CanTake text t b) :
    g.matchTerminal? t text (g.skipOffset text b) = none := by
  obtain ⟨ss, hstands⟩ := ht
  refine Option.eq_none_iff_forall_ne_some.mpr fun m hm => ?_
  obtain ⟨k, ⟨hk, rfl⟩, -⟩ := standsAt_iff.mp hstands
  have htakes : g.Takes text t (byteLength (text.take k)) m := hm
  obtain ⟨m', hreads, rfl⟩ := (takes_byteLength_take_iff hk).mp htakes
  exact Nat.not_lt_of_le (h.le ss _ (hstands.take htakes))
    (byteLength_take_lt hreads.lt hreads.le_length)

end Grammar

end QueryGate
