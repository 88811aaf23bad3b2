import Mathlib.Tactic.SplitIfs
import QueryGate.Proofs.Grammar.Derivation

/-!
# How a grammar reads a text

A terminal takes a part of the text that is not empty (`isPrefix_of_take?`), and what is left when
ignored text is passed over is the end of the text (`isSuffix_skipIgnored`). So a terminal can be
followed by counting characters (`Grammar.readLength?`, `Grammar.Reads`), and derivations over
characters and over bytes are the same (`exists_derives_iff`).
-/

namespace QueryGate

open Text

/-! ## Terminals and ignored text -/

variable {ρ : Type} [Scanner ρ] {g : Grammar ρ} {t k m n : Nat} {s u text taken : List Char}

/-- A terminal takes a part of the text that is not empty. -/
theorem Terminal.isPrefix_of_take? {x : Terminal ρ} {reserved : List (List Char)}
    (h : x.take? reserved s = some taken) : taken <+: s ∧ taken ≠ [] := by
  unfold Terminal.take? at h
  obtain ⟨n, hn, h⟩ := Option.bind_eq_some_iff.mp h
  obtain ⟨hpos, hle⟩ := Scanner.nonempty?_le hn
  dsimp only at h
  split_ifs at h
  obtain rfl := Option.some.inj h
  refine ⟨List.take_prefix n s, fun hnil => ?_⟩
  have hlen := congrArg List.length hnil
  rw [List.length_take, List.length_nil] at hlen
  omega

theorem Grammar.isPrefix_of_take? (h : g.take? t s = some taken) : taken <+: s ∧ taken ≠ [] := by
  obtain ⟨x, -, h⟩ := Option.bind_eq_some_iff.mp h
  exact Terminal.isPrefix_of_take? h

theorem isSuffix_skipRound (ignored : List ρ) (s : List Char) :
    skipRound ignored s <:+ s := by
  induction ignored generalizing s with
  | nil => exact List.suffix_refl s
  | cons r rs ih => exact (ih _).trans (List.drop_suffix _ s)

/-- Passing over ignored text leaves the end of the text. -/
theorem isSuffix_skipIgnored (ignored : List ρ) (s : List Char) :
    skipIgnored ignored s <:+ s := by
  induction s using skipIgnored.induct ignored with
  | case1 s h ih =>
    rw [skipIgnored, if_pos h]
    exact ih.trans (isSuffix_skipRound ignored s)
  | case2 s h =>
    have hself : skipIgnored ignored s = s := by rw [skipIgnored, if_neg h]
    exact hself.symm ▸ List.suffix_refl s

/-! ## Counting characters -/

namespace Grammar

/-- Number of characters up to where a terminal ends, with the ignored text in front of it. -/
def readLength? (g : Grammar ρ) (t : Nat) (s : List Char) : Option Nat :=
  (g.take? t (skipIgnored g.ignored s)).map fun taken =>
    s.length - (skipIgnored g.ignored s).length + taken.length

/-- A terminal takes the piece from one character to another, ignored text included. -/
def Reads (g : Grammar ρ) (text : List Char) (t k m : Nat) : Prop :=
  ∃ n, g.readLength? t (text.drop k) = some n ∧ m = k + n

theorem readLength?_le (h : g.readLength? t s = some n) : 0 < n ∧ n ≤ s.length := by
  obtain ⟨taken, htake, rfl⟩ := Option.map_eq_some_iff.mp h
  obtain ⟨hpre, hne⟩ := isPrefix_of_take? htake
  have hlen := hpre.length_le
  have hskip := (isSuffix_skipIgnored g.ignored s).length_le
  have hpos := List.length_pos_iff.mpr hne
  exact ⟨by omega, by omega⟩

theorem Reads.lt (h : g.Reads text t k m) : k < m := by
  obtain ⟨n, hn, rfl⟩ := h
  have hpos := (readLength?_le hn).1
  omega

theorem Reads.le_length (h : g.Reads text t k m) : m ≤ text.length := by
  obtain ⟨n, hn, rfl⟩ := h
  obtain ⟨hpos, hle⟩ := readLength?_le hn
  rw [List.length_drop] at hle
  omega

/-! ## Bytes -/

theorem byteLength_take_append_drop (text : List Char) (k : Nat) :
    byteLength (text.take k) + byteLength (text.drop k) = byteLength text := by
  rw [← byteLength_append, List.take_append_drop]

theorem byteLength_eq_zero_iff : byteLength s = 0 ↔ s = [] := by
  cases s with
  | nil => simp
  | cons c s =>
    have hc := c.utf8Size_pos
    simp only [byteLength_cons, List.cons_ne_nil, iff_false]
    omega

/-- What stands in front of a byte offset. -/
theorem eq_of_byteLength_eq {u v t : List Char} (h : u ++ s = v ++ t)
    (hlen : byteLength u = byteLength v) : u = v := by
  rcases List.append_eq_append_iff.mp h with ⟨a, rfl, -⟩ | ⟨a, rfl, -⟩
  · rw [byteLength_append] at hlen
    rw [byteLength_eq_zero_iff.mp (show byteLength a = 0 by omega), List.append_nil]
  · rw [byteLength_append] at hlen
    rw [byteLength_eq_zero_iff.mp (show byteLength a = 0 by omega), List.append_nil]

theorem byteLength_take_lt (h : k < m) (hm : m ≤ text.length) :
    byteLength (text.take k) < byteLength (text.take m) := by
  obtain ⟨n, rfl⟩ := Nat.exists_eq_add_of_lt h
  have hne : (text.drop k).take (n + 1) ≠ [] := fun hnil => by
    have hlen := congrArg List.length hnil
    rw [List.length_take, List.length_drop, List.length_nil] at hlen
    omega
  have hpos : byteLength ((text.drop k).take (n + 1)) ≠ 0 := fun hzero =>
    hne (byteLength_eq_zero_iff.mp hzero)
  rw [Nat.add_assoc, List.take_add, byteLength_append]
  omega

theorem dropBytes?_byteLength_take (text : List Char) (k : Nat) :
    dropBytes? text (byteLength (text.take k)) = some (text.drop k) := by
  have h := dropBytes?_byteLength_append (text.take k) (text.drop k)
  rwa [List.take_append_drop] at h

/-- Behind a character, ignored text is passed over to the end of the text that is left. -/
theorem skipOffset_byteLength_take (g : Grammar ρ) (text : List Char) (k : Nat) :
    g.skipOffset text (byteLength (text.take k)) +
      byteLength (skipIgnored g.ignored (text.drop k)) = byteLength text := by
  rw [skipOffset, dropBytes?_byteLength_take]
  obtain ⟨u, hu⟩ := isSuffix_skipIgnored g.ignored (text.drop k)
  have hsum := byteLength_take_append_drop text k
  have hlen : byteLength u + byteLength (skipIgnored g.ignored (text.drop k)) =
      byteLength (text.drop k) := by rw [← byteLength_append, hu]
  dsimp only
  omega

/-- Behind a character, the offset is that of the characters up to the end of the ignored text. -/
theorem exists_skipOffset_eq (g : Grammar ρ) (text : List Char) (k : Nat) :
    ∃ u, text.take k ++ u ++ skipIgnored g.ignored (text.drop k) = text ∧
      u ++ skipIgnored g.ignored (text.drop k) = text.drop k ∧
        g.skipOffset text (byteLength (text.take k)) = byteLength (text.take k ++ u) := by
  obtain ⟨u, hu⟩ := isSuffix_skipIgnored g.ignored (text.drop k)
  have htext : text.take k ++ u ++ skipIgnored g.ignored (text.drop k) = text := by
    rw [List.append_assoc, hu, List.take_append_drop]
  have hsum := skipOffset_byteLength_take g text k
  have hlen := congrArg byteLength htext
  rw [byteLength_append] at hlen
  exact ⟨u, htext, hu, by omega⟩

theorem skipOffset_eq_byteLength_iff :
    g.skipOffset text (byteLength (text.take k)) = byteLength text ↔
      skipIgnored g.ignored (text.drop k) = [] := by
  have h := skipOffset_byteLength_take g text k
  rw [← byteLength_eq_zero_iff]
  omega

theorem matchTerminal?_append_iff {stop : Nat} {front start : List Char} :
    g.matchTerminal? t (front ++ start) (byteLength front) = some stop ↔
      ∃ taken, g.take? t start = some taken ∧ stop = byteLength (front ++ taken) := by
  rw [matchTerminal?, dropBytes?_byteLength_append, Option.bind_some]
  simp only [Option.map_eq_some_iff, byteLength_append, eq_comm (a := stop)]

/-- What a terminal takes is counted from the start of the text, ignored text included. -/
theorem takes_append_iff {v b : Nat} {front start : List Char} (htext : front ++ start = text)
    (hskip : g.skipOffset text v = byteLength front) : g.Takes text t v b ↔
      ∃ taken, g.take? t start = some taken ∧ b = byteLength (front ++ taken) := by
  rw [Takes, hskip, ← htext, matchTerminal?_append_iff]

/-- The bytes a terminal takes are those of the characters it takes. -/
theorem takes_byteLength_take_iff {b : Nat} (hk : k ≤ text.length) :
    g.Takes text t (byteLength (text.take k)) b ↔
      ∃ m, g.Reads text t k m ∧ b = byteLength (text.take m) := by
  obtain ⟨u, htext, hu, hskip⟩ := exists_skipOffset_eq g text k
  rw [takes_append_iff htext hskip]
  have hcount : (text.drop k).length - (skipIgnored g.ignored (text.drop k)).length = u.length := by
    have hlen := congrArg List.length hu
    rw [List.length_append] at hlen
    omega
  -- both ways the terminal takes the same characters
  have hend : ∀ taken, g.take? t (skipIgnored g.ignored (text.drop k)) = some taken →
      text.take (k + (u.length + taken.length)) = text.take k ++ u ++ taken := by
    intro taken htaken
    obtain ⟨rest, hrest⟩ := (isPrefix_of_take? htaken).1
    have hlen : (text.take k ++ u ++ taken).length = k + (u.length + taken.length) := by
      simp only [List.length_append, List.length_take]
      omega
    have hpre : text.take k ++ u ++ taken <+: text :=
      ⟨rest, by rw [List.append_assoc, hrest, htext]⟩
    rw [← hlen]
    exact (List.prefix_iff_eq_take.mp hpre).symm
  constructor
  · rintro ⟨taken, htaken, rfl⟩
    refine ⟨_, ⟨_, Option.map_eq_some_iff.mpr ⟨taken, htaken, rfl⟩, rfl⟩, ?_⟩
    rw [hcount, hend taken htaken]
  · rintro ⟨m, ⟨n, hn, rfl⟩, rfl⟩
    obtain ⟨taken, htaken, rfl⟩ := Option.map_eq_some_iff.mp hn
    exact ⟨taken, htaken, by rw [hcount, hend taken htaken]⟩

variable {r : Nat} {ss : List Symbol}

/-- A character of a text and the byte in front of it. -/
def AtByte (text : List Char) (k b : Nat) : Prop :=
  k ≤ text.length ∧ b = byteLength (text.take k)

theorem AtByte.unique {b : Nat} (h : AtByte text k b) (h' : AtByte text m b) : k = m := by
  obtain ⟨hk, rfl⟩ := h
  obtain ⟨hm, heq⟩ := h'
  rcases Nat.lt_trichotomy k m with hlt | rfl | hlt
  · exact absurd heq (Nat.ne_of_lt (byteLength_take_lt hlt hm))
  · rfl
  · exact absurd heq.symm (Nat.ne_of_lt (byteLength_take_lt hlt hk))

/-- What symbols derive does not depend on whether bytes or characters are counted. -/
theorem spans_takes_iff {i b b' : Nat} (hi : AtByte text i b) :
    Spans g.productions (g.Takes text) ss b b' ↔
      ∃ j, AtByte text j b' ∧ Spans g.productions (g.Reads text) ss i j := by
  constructor
  · intro h
    refine h.transfer (R := fun b k => AtByte text k b) (fun t b m k hk ht => ?_) hi
    obtain ⟨hle, rfl⟩ := hk
    obtain ⟨m', hreads, hm⟩ := (takes_byteLength_take_iff hle).mp ht
    exact ⟨m', ⟨hreads.le_length, hm⟩, hreads⟩
  · rintro ⟨j, hj, h⟩
    obtain ⟨b'', hb, hspans⟩ := h.transfer (R := AtByte text) (fun t k m b hk ht => by
      obtain ⟨hle, rfl⟩ := hk
      exact ⟨_, ⟨ht.le_length, rfl⟩, (takes_byteLength_take_iff hle).mpr ⟨m, ht, rfl⟩⟩) hi
    rwa [hj.2, ← hb.2]

/-- A rule derives a text up to its end if it derives so many characters that only ignored text
follows. -/
theorem exists_derives_iff :
    (∃ p, g.Derives text r 0 p ∧ g.skipOffset text p = byteLength text) ↔
      ∃ k, k ≤ text.length ∧ skipIgnored g.ignored (text.drop k) = [] ∧
        ∃ p ∈ g.productions, p.lhs = r ∧ Spans g.productions (g.Reads text) p.rhs 0 k := by
  have hstart : AtByte text 0 0 := ⟨Nat.zero_le _, by simp⟩
  constructor
  · rintro ⟨b, ⟨p, hp, hr, hspans⟩, hend⟩
    obtain ⟨k, ⟨hk, rfl⟩, hreads⟩ := (spans_takes_iff hstart).mp hspans
    exact ⟨k, hk, skipOffset_eq_byteLength_iff.mp hend, p, hp, hr, hreads⟩
  · rintro ⟨k, hk, hend, p, hp, hr, hspans⟩
    exact ⟨_, ⟨p, hp, hr, (spans_takes_iff hstart).mpr ⟨k, ⟨hk, rfl⟩, hspans⟩⟩,
      skipOffset_eq_byteLength_iff.mpr hend⟩

end Grammar

end QueryGate
