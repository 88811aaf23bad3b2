import Mathlib.Data.List.Sort
import QueryGate.Proofs.Chart.Diagnostics

/-!
# Texts behind ignored text

`recognize_append` : ignored text in front of a statement changes nothing but the offsets.

The offsets of a text and those of the same text behind another one correspond (`IsMoved`) : start
to start, and all others to the place that much further on. Derivations stand at corresponding
offsets, so the furthest ones correspond too (`IsFurthest.isMoved`).
-/

namespace QueryGate

open Text

variable {ρ : Type} [Scanner ρ] {g : Grammar ρ} {u s text : List Char} {ss : List Symbol}
  {t b b' m m' : Nat}

/-! ## Offsets behind a text -/

theorem Text.dropBytes?_append (u s : List Char) (n : Nat) :
    dropBytes? (u ++ s) (byteLength u + n) = dropBytes? s n := by
  induction u with
  | nil => simp
  | cons c u ih =>
    have hc := c.utf8Size_pos
    obtain ⟨k, hk⟩ : ∃ k, byteLength (c :: u) + n = k + 1 :=
      ⟨c.utf8Size + byteLength u + n - 1, by simp only [byteLength_cons]; omega⟩
    rw [hk, List.cons_append, dropBytes?, ← hk, byteLength_cons, if_pos (by omega), ← ih]
    congr 1
    omega

theorem Diagnostic.found_locate_append (u s : List Char) (n : Nat) (expected : List String) :
    (locate (u ++ s) (byteLength u + n) expected).found = (locate s n expected).found := by
  simp only [locate, splitBytes_append]

theorem Diagnostic.offset_locate_append (u s : List Char) (n : Nat) (expected : List String) :
    (locate (u ++ s) (byteLength u + n) expected).offset =
      byteLength u + (locate s n expected).offset := by
  simp only [locate, splitBytes_append, byteLength_append]

namespace Grammar

theorem skipOffset_append (g : Grammar ρ) (u s : List Char) (b : Nat) :
    g.skipOffset (u ++ s) (byteLength u + b) = byteLength u + g.skipOffset s b := by
  rw [skipOffset, skipOffset, dropBytes?_append]
  cases dropBytes? s b with
  | none => rfl
  | some rest => exact Nat.add_assoc ..

theorem matchTerminal?_append (g : Grammar ρ) (t : Nat) (u s : List Char) (b : Nat) :
    g.matchTerminal? t (u ++ s) (byteLength u + b) =
      (g.matchTerminal? t s b).map (byteLength u + ·) := by
  rw [matchTerminal?, matchTerminal?, dropBytes?_append]
  cases dropBytes? s b with
  | none => rfl
  | some rest =>
    rw [Option.bind_some, Option.bind_some, Option.map_map]
    exact congrArg (Option.map · _) (funext fun taken => Nat.add_assoc ..)

theorem Takes.pos (h : g.Takes text t b m) : 0 < m := by
  obtain ⟨rest, -, hmatch⟩ := Option.bind_eq_some_iff.mp h
  obtain ⟨taken, htaken, rfl⟩ := Option.map_eq_some_iff.mp hmatch
  have hne := mt byteLength_eq_zero_iff.mp (isPrefix_of_take? htaken).2
  omega

/-! ## Corresponding offsets -/

/-- An offset of a text and that of the same place when `u` stands in front. The start stays the
start. -/
def IsMoved (u : List Char) (b b' : Nat) : Prop :=
  b = 0 ∧ b' = 0 ∨ 0 < b ∧ b' = byteLength u + b

theorem isMoved_zero : IsMoved u 0 0 := Or.inl ⟨rfl, rfl⟩

theorem isMoved_of_pos (h : 0 < b) : IsMoved u b (byteLength u + b) := Or.inr ⟨h, rfl⟩

theorem IsMoved.right_unique (h : IsMoved u b b') (h' : IsMoved u b m) : b' = m := by
  rcases h with ⟨rfl, rfl⟩ | ⟨hpos, rfl⟩ <;> rcases h' with ⟨hzero, rfl⟩ | ⟨hpos', rfl⟩ <;> omega

theorem IsMoved.left_unique (h : IsMoved u b b') (h' : IsMoved u m b') : b = m := by
  rcases h with ⟨rfl, rfl⟩ | ⟨hpos, rfl⟩ <;> rcases h' with ⟨rfl, hzero⟩ | ⟨hpos', heq⟩ <;> omega

/-- What `u` adds in front of the text is passed over at the start. -/
theorem IsMoved.skipOffset_eq (h : IsMoved u b b')
    (hskip : g.skipOffset (u ++ s) 0 = byteLength u + g.skipOffset s 0) :
    g.skipOffset (u ++ s) b' = byteLength u + g.skipOffset s b := by
  rcases h with ⟨rfl, rfl⟩ | ⟨-, rfl⟩
  · exact hskip
  · exact skipOffset_append ..

theorem IsMoved.takes_iff (h : IsMoved u b b')
    (hskip : g.skipOffset (u ++ s) 0 = byteLength u + g.skipOffset s 0) :
    g.Takes (u ++ s) t b' m' ↔ ∃ m, IsMoved u m m' ∧ g.Takes s t b m := by
  rw [Takes, h.skipOffset_eq hskip, matchTerminal?_append, Option.map_eq_some_iff]
  constructor
  · rintro ⟨m, hm, rfl⟩
    have htakes : g.Takes s t b m := hm
    exact ⟨m, isMoved_of_pos htakes.pos, htakes⟩
  · rintro ⟨m, hmoved, hm⟩
    exact ⟨m, hm, (isMoved_of_pos hm.pos).right_unique hmoved⟩

theorem IsMoved.takes (h : IsMoved u b b')
    (hskip : g.skipOffset (u ++ s) 0 = byteLength u + g.skipOffset s 0) (ht : g.Takes s t b m) :
    ∃ m', IsMoved u m m' ∧ g.Takes (u ++ s) t b' m' :=
  ⟨_, isMoved_of_pos ht.pos, (h.takes_iff hskip).mpr ⟨m, isMoved_of_pos ht.pos, ht⟩⟩

/-- Where a derivation stands, one stands at the corresponding offset with the same symbols left. -/
theorem StandsAt.exists_isMoved (h : g.StandsAt s ss b)
    (hskip : g.skipOffset (u ++ s) 0 = byteLength u + g.skipOffset s 0) :
    ∃ b', IsMoved u b b' ∧ g.StandsAt (u ++ s) ss b' :=
  Standing.transfer isMoved_zero (fun _ _ _ _ hb ht => hb.takes hskip ht) h

theorem StandsAt.exists_of_append (h : g.StandsAt (u ++ s) ss b')
    (hskip : g.skipOffset (u ++ s) 0 = byteLength u + g.skipOffset s 0) :
    ∃ b, IsMoved u b b' ∧ g.StandsAt s ss b :=
  Standing.transfer (R := fun b' b => IsMoved u b b') isMoved_zero
    (fun _ _ _ _ hb ht => (hb.takes_iff hskip).mp ht) h

theorem IsMoved.canTake_iff (h : IsMoved u b b')
    (hskip : g.skipOffset (u ++ s) 0 = byteLength u + g.skipOffset s 0) :
    g.CanTake (u ++ s) t b' ↔ g.CanTake s t b := by
  refine exists_congr fun ss => ⟨fun hstands => ?_, fun hstands => ?_⟩
  · obtain ⟨k, hk, hstands⟩ := hstands.exists_of_append hskip
    exact h.left_unique hk ▸ hstands
  · obtain ⟨k, hk, hstands⟩ := hstands.exists_isMoved hskip
    exact h.right_unique hk ▸ hstands

/-- The last offsets where derivations stand correspond. -/
theorem IsFurthest.isMoved (h : g.IsFurthest s b) (h' : g.IsFurthest (u ++ s) b')
    (hskip : g.skipOffset (u ++ s) 0 = byteLength u + g.skipOffset s 0) : IsMoved u b b' := by
  obtain ⟨ss, hstands⟩ := h.stands
  obtain ⟨k', hk', hstands⟩ := hstands.exists_isMoved hskip
  have hle' := h'.le _ _ hstands
  obtain ⟨ss, hstands⟩ := h'.stands
  obtain ⟨k, hk, hstands⟩ := hstands.exists_of_append hskip
  have hle := h.le _ _ hstands
  rcases hk' with ⟨rfl, rfl⟩ | ⟨hpos, rfl⟩ <;> rcases hk with ⟨rfl, rfl⟩ | ⟨hpos', rfl⟩
  · exact isMoved_zero
  · omega
  · omega
  · exact Or.inr ⟨hpos, by omega⟩

/-- A text and the same text behind ignored text are derived alike. -/
theorem exists_derives_append_iff {r : Nat}
    (hskip : g.skipOffset (u ++ s) 0 = byteLength u + g.skipOffset s 0) :
    (∃ p, g.Derives (u ++ s) r 0 p ∧ g.skipOffset (u ++ s) p = byteLength (u ++ s)) ↔
      ∃ p, g.Derives s r 0 p ∧ g.skipOffset s p = byteLength s := by
  constructor
  · rintro ⟨b', ⟨p, hp, hr, hspans⟩, hend⟩
    have hback : ∀ t k' m' k, IsMoved u k k' → g.Takes (u ++ s) t k' m' →
        ∃ m, IsMoved u m m' ∧ g.Takes s t k m := fun _ _ _ _ hk ht => (hk.takes_iff hskip).mp ht
    obtain ⟨b, hb, hspans⟩ := hspans.transfer hback isMoved_zero
    rw [hb.skipOffset_eq hskip, byteLength_append] at hend
    exact ⟨b, ⟨p, hp, hr, hspans⟩, by omega⟩
  · rintro ⟨b, ⟨p, hp, hr, hspans⟩, hend⟩
    have hforth : ∀ t k m k', IsMoved u k k' → g.Takes s t k m →
        ∃ m', IsMoved u m m' ∧ g.Takes (u ++ s) t k' m' := fun _ _ _ _ hk ht => hk.takes hskip ht
    obtain ⟨b', hb, hspans⟩ := hspans.transfer hforth isMoved_zero
    refine ⟨b', ⟨p, hp, hr, hspans⟩, ?_⟩
    rw [hb.skipOffset_eq hskip, hend, byteLength_append]

end Grammar

/-! ## Diagnostics -/

open Chart in
/-- What a rejection says : it is for the place behind the ignored text that follows the last
offset at which a derivation stands. -/
theorem Grammar.WellFormed.exists_eq_locate (hg : g.WellFormed) {d : Diagnostic}
    (hd : (recognize g text).diagnostic = some d) : ∃ f expected, g.IsFurthest text f ∧
      d = Diagnostic.locate text (g.skipOffset text f) expected ∧
      (expected.Pairwise fun a b => utf8 a < utf8 b) ∧
      ∀ name, name ∈ expected ↔ ∃ t, g.CanTake text t f ∧ g.displayOf t = name := by
  unfold recognize at hd
  dsimp only at hd
  split_ifs at hd with hfinal
  · cases hd
  split at hd
  next c hc =>
    obtain rfl := Option.some.inj hd
    obtain ⟨hexact, -, -⟩ := furthest?_columns hg hc
    have hskip := g.skipOffset_byteLength_take text c.position
    have hoffset : byteLength text - byteLength (skipIgnored g.ignored c.rest) =
        g.skipOffset text (byteLength (text.take c.position)) := by
      rw [hexact.rest_eq]
      omega
    exact ⟨_, _, isFurthest_of_furthest? hg hc, by rw [diagnose, hoffset],
      pairwise_expectedNames c, fun name => mem_expectedNames_iff hg hexact⟩
  next hnone =>
    obtain rfl := Option.some.inj hd
    refine ⟨0, [], isFurthest_zero hg hnone, rfl, .nil, fun name => ?_⟩
    simp only [List.not_mem_nil, false_iff, not_exists, not_and]
    intro t ht _
    have ht' : g.CanTake text t (byteLength (text.take 0)) := by simpa using ht
    obtain ⟨item, hitem, -⟩ := (canTake_iff hg (Nat.zero_le _)).mp ht'
    exact furthest?_columns_eq_none hg hnone hitem

/-- Names in strict order are given by which names there are. -/
theorem Text.eq_of_pairwise_utf8_lt {as bs : List String}
    (has : as.Pairwise fun a b => utf8 a < utf8 b) (hbs : bs.Pairwise fun a b => utf8 a < utf8 b)
    (h : ∀ a, a ∈ as ↔ a ∈ bs) : as = bs :=
  have : Std.Irrefl fun a b : String => utf8 a < utf8 b := ⟨fun _ => List.lt_irrefl _⟩
  have : Std.Antisymm fun a b : String => utf8 a < utf8 b :=
    ⟨fun _ _ hab hba => absurd hba (List.lt_asymm hab)⟩
  has.eq_of_mem_iff hbs h

/-- Where a statement starts makes no difference. If what stands in front of it is passed over as
the text itself begins, then with and without it the text is accepted or not, and if it is not, then
the diagnostics expect the same terminals, have found the same, and their offsets differ by what
stands in front. -/
theorem recognize_append {source root : String} (h : Grammar.compile source root = .ok g)
    (hskip : g.skipOffset (u ++ s) 0 = byteLength u + g.skipOffset s 0) :
    ((recognize g (u ++ s)).accepted = true ↔ (recognize g s).accepted = true) ∧
      ((recognize g s).accepted = false → ∃ d d', (recognize g s).diagnostic = some d ∧
        (recognize g (u ++ s)).diagnostic = some d' ∧ d'.expected = d.expected ∧
        d'.found = d.found ∧ d'.offset = byteLength u + d.offset) := by
  have hg := Grammar.wellFormed_of_compile h
  have hiff : (recognize g (u ++ s)).accepted = true ↔ (recognize g s).accepted = true := by
    rw [recognize_accepted_iff_of_wellFormed hg, recognize_accepted_iff_of_wellFormed hg]
    exact Grammar.exists_derives_append_iff hskip
  refine ⟨hiff, fun hrejected => ?_⟩
  have hsome : ∀ text, (recognize g text).accepted = false →
      ∃ d, (recognize g text).diagnostic = some d := fun text hfalse =>
    Option.ne_none_iff_exists'.mp fun hnone => by
      simp [diagnostic_eq_none_iff.mp hnone] at hfalse
  obtain ⟨d, hd⟩ := hsome s hrejected
  obtain ⟨d', hd'⟩ := hsome (u ++ s) (by
    rw [← Bool.not_eq_true] at hrejected ⊢
    exact mt hiff.mp hrejected)
  obtain ⟨f, expected, hf, rfl, hsorted, hmem⟩ := hg.exists_eq_locate hd
  obtain ⟨f', expected', hf', rfl, hsorted', hmem'⟩ := hg.exists_eq_locate hd'
  have hmoved := hf.isMoved hf' hskip
  have hexpected : expected' = expected := eq_of_pairwise_utf8_lt hsorted' hsorted fun name => by
    rw [hmem, hmem']
    exact exists_congr fun t => and_congr_left fun _ => hmoved.canTake_iff hskip
  refine ⟨_, _, hd, hd', hexpected, ?_, ?_⟩
  · rw [hmoved.skipOffset_eq hskip, hexpected, Diagnostic.found_locate_append]
  · rw [hmoved.skipOffset_eq hskip, hexpected, Diagnostic.offset_locate_append]

/-- One letter or nothing, with blanks and comments ignored. -/
def commentedSource : String :=
  "s: | \"x\"\n%ignore / +/\n%ignore /#[^\\n]*\\n/\n"

theorem recognize_append_comment : ∃ g : Grammar, ∃ d d',
    Grammar.compile commentedSource "s" = .ok g ∧
    g.skipOffset ("# é\n".toList ++ " ]".toList) 0 =
      byteLength "# é\n".toList + g.skipOffset " ]".toList 0 ∧
    (recognize g " ]".toList).diagnostic = some d ∧
    (recognize g ("# é\n".toList ++ " ]".toList)).diagnostic = some d' ∧
    d'.expected = d.expected ∧ d'.found = d.found ∧ d'.offset = 5 + d.offset := by
  have hparts : (Grammar.compile commentedSource "s").toOption.any (fun g : Grammar =>
      g.productions.toList = [⟨g.root, []⟩, ⟨g.root, [.terminal 0]⟩] ∧
      g.skipOffset ("# é\n".toList ++ " ]".toList) 0 =
        byteLength "# é\n".toList + g.skipOffset " ]".toList 0 ∧
      g.skipOffset " ]".toList 0 ≠ byteLength " ]".toList ∧
      g.matchTerminal? 0 " ]".toList (g.skipOffset " ]".toList 0) = none) = true := by
    decide +kernel
  obtain ⟨g, h, hproductions, hskip, hend, hnone⟩ := exists_ok_of_any hparts
  obtain ⟨hiff, hdiagnostics⟩ := recognize_append h hskip
  have hrejected : (recognize g " ]".toList).accepted = false := by
    rw [← Bool.not_eq_true,
      recognize_accepted_iff_of_wellFormed (Grammar.wellFormed_of_compile h)]
    rintro ⟨k, ⟨p, hp, -, hspans⟩, hfinal⟩
    have hmem : p = ⟨g.root, []⟩ ∨ p = ⟨g.root, [.terminal 0]⟩ := by
      simpa [← Array.mem_toList_iff, hproductions] using hp
    obtain rfl | rfl := hmem
    · cases hspans
      exact hend hfinal
    · exact absurd (hnone.symm.trans (spans_terminal_iff.mp hspans)) (by simp)
  obtain ⟨d, d', hd, hd', hexpected, hfound, hoffset⟩ := hdiagnostics hrejected
  exact ⟨g, d, d', h, hskip, hd, hd', hexpected, hfound, hoffset⟩

end QueryGate
