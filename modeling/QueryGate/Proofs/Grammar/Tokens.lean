import Mathlib.Data.List.DropRight
import QueryGate.Proofs.Grammar.Compiled
import QueryGate.Proofs.Regex.Literal

/-!
# Tokens

What a terminal takes, seen from the text : `Grammar.TakesAs g x tok rest` says that a terminal with
the lexeme `x` takes `tok` in front of `rest`. It depends on the expression of the lexeme, on what
follows a quoted word, and on the reserved words (`IsFor.takesAs_iff`). Where white space is passed
over, reading a piece of a text is taking a token behind white space (`readsAs_iff`).
-/

namespace QueryGate

open Text

theorem Terminal.take?_eq_some_iff {ρ : Type} [Scanner ρ] {x : Terminal ρ}
    {reserved : List (List Char)} {tok rest : List Char} :
    x.take? reserved (tok ++ rest) = some tok ↔
      tok ≠ [] ∧ Scanner.matchLength? x.regex (tok ++ rest) = some tok.length ∧
        (x.lexeme.isKeyword = true → rest.head?.any isWordChar = false) ∧
        (x.lexeme.isLiteral = false → upper tok ∉ reserved) := by
  unfold Terminal.take?
  constructor
  · intro h
    have hne := (Terminal.isPrefix_of_take? h).2
    obtain ⟨n, hn, h⟩ := Option.bind_eq_some_iff.mp h
    obtain ⟨hmatch, -⟩ := Scanner.nonempty?_eq_some_iff.mp hn
    have hle := Scanner.le_length hmatch
    dsimp only at h
    split_ifs at h with hword hreserved
    have htake := Option.some.inj h
    obtain rfl : n = tok.length := by
      have hlen := congrArg List.length htake
      rw [List.length_take] at hlen
      omega
    rw [List.drop_left] at hword
    rw [List.take_left] at hreserved
    refine ⟨hne, hmatch, fun hkeyword => ?_, fun hliteral hmem => hreserved ?_⟩
    · simpa [hkeyword] using hword
    · simpa [hliteral] using hmem
  · rintro ⟨hne, hmatch, hword, hreserved⟩
    have hn : Scanner.nonempty? x.regex (tok ++ rest) = some tok.length :=
      Scanner.nonempty?_eq_some_iff.mpr ⟨hmatch, List.length_pos_iff.mpr hne⟩
    refine Option.bind_eq_some_iff.mpr ⟨tok.length, hn, ?_⟩
    dsimp only
    rw [List.drop_left, List.take_left, if_neg, if_neg]
    · simp only [Bool.and_eq_true, Bool.not_eq_true', List.contains_iff_mem, not_and]
      exact hreserved
    · simp only [Bool.and_eq_true, not_and, Bool.not_eq_true]
      exact hword

namespace Grammar

variable {g : Grammar} {c : Collected} {root : String} {x : Lexeme} {r : Regex} {t k m : Nat}
  {s tok rest text : List Char} {w : List Char}

/-- A terminal with the lexeme takes a token in front of a text. -/
def TakesAs (g : Grammar) (x : Lexeme) (tok rest : List Char) : Prop :=
  ∃ t, g.lexemeOf? t = some x ∧ g.take? t (tok ++ rest) = some tok

/-- What a terminal takes is decided by its lexeme. -/
theorem IsFor.takesAs_iff (h : g.IsFor c root) (hr : x.Reads c.terminals r) :
    g.TakesAs x tok rest ↔ (∃ t, g.lexemeOf? t = some x) ∧ tok ≠ [] ∧
      r.matchLength? none (tok ++ rest) = some tok.length ∧
      (x.isKeyword = true → rest.head?.any isWordChar = false) ∧
      (x.isLiteral = false → upper tok ∉ g.reserved) := by
  have htake : ∀ t, g.lexemeOf? t = some x → (g.take? t (tok ++ rest) = some tok ↔ tok ≠ [] ∧
      r.matchLength? none (tok ++ rest) = some tok.length ∧
      (x.isKeyword = true → rest.head?.any isWordChar = false) ∧
      (x.isLiteral = false → upper tok ∉ g.reserved)) := by
    intro t ht
    obtain ⟨y, hy, rfl⟩ := Option.map_eq_some_iff.mp ht
    obtain rfl := (h.reads hy).unique hr
    rw [take?, hy, Option.bind_some, Terminal.take?_eq_some_iff, Scanner.matchLength?_regex]
  constructor
  · rintro ⟨t, ht, htok⟩
    exact ⟨⟨t, ht⟩, (htake t ht).mp htok⟩
  · rintro ⟨⟨t, ht⟩, htok⟩
    exact ⟨t, ht, (htake t ht).mpr htok⟩

theorem IsFor.exists_reads (h : g.IsFor c root) (ht : g.lexemeOf? t = some x) :
    ∃ r, x.Reads c.terminals r := by
  obtain ⟨y, hy, rfl⟩ := Option.map_eq_some_iff.mp ht
  exact ⟨y.regex, h.reads hy⟩

/-- A quoted text takes its characters, whatever their case where that is open. -/
theorem IsFor.takesAs_literal_iff (h : g.IsFor c root) {value : String} {anyCase : Bool} :
    g.TakesAs (.literal value anyCase) tok rest ↔
      (∃ t, g.lexemeOf? t = some (.literal value anyCase)) ∧ tok ≠ [] ∧
      Regex.Spells anyCase value.toList tok ∧
      ((Lexeme.literal value anyCase).isKeyword = true → rest.head?.any isWordChar = false) := by
  by_cases hex : ∃ t, g.lexemeOf? t = some (.literal value anyCase)
  · obtain ⟨t, ht⟩ := id hex
    obtain ⟨r, hr⟩ := h.exists_reads ht
    have hliteral : r = Regex.literalRegex value anyCase := by
      obtain ⟨p, rfl, hp⟩ := hr
      exact Regex.eq_literalRegex_of_anchored hp
    rw [h.takesAs_iff hr, hliteral, Regex.matchLength?_literalRegex_eq_some_iff]
    simp [Lexeme.isLiteral]
  · exact ⟨fun ⟨t, ht, _⟩ => absurd ⟨t, ht⟩ hex, fun htok => absurd htok.1 hex⟩

theorem IsFor.spells_of_takesAs (h : g.IsFor c root) {value : String} {anyCase : Bool}
    (htok : g.TakesAs (.literal value anyCase) tok rest) :
    Regex.Spells anyCase value.toList tok :=
  (h.takesAs_literal_iff.mp htok).2.2.1

/-- What a terminal takes does not depend on what follows, as long as its expression cannot reach
there and no word goes on there. -/
theorem IsFor.takesAs_congr (h : g.IsFor c root) {asciiWords : Bool} {u rest' : List Char}
    (hr : x.Reads c.terminals (.seq (.look .start asciiWords) r)) (hplain : r.isPlain = true)
    (hreach : ∀ n ∈ r.matchLength? none (tok ++ u ++ rest'), n ≤ (tok ++ u).length)
    (hword : rest'.head?.any isWordChar = false) (htok : g.TakesAs x tok (u ++ rest)) :
    g.TakesAs x tok (u ++ rest') := by
  obtain ⟨hex, hne, hmatch, hkeyword, hreserved⟩ := (h.takesAs_iff hr).mp htok
  refine (h.takesAs_iff hr).mpr ⟨hex, hne, ?_, fun hx => ?_, hreserved⟩
  · rw [Regex.matchLength?_anchored, ← List.append_assoc] at hmatch ⊢
    rw [← hmatch]
    refine Regex.matchLength?_congr hplain hreach fun n hn => ?_
    rw [Option.mem_def, hmatch] at hn
    rw [← Option.some.inj hn, List.length_append]
    exact Nat.le_add_right _ _
  · cases u with
    | nil => exact hword
    | cons d u => exact hkeyword hx

theorem TakesAs.ne_nil (h : g.TakesAs x tok rest) : tok ≠ [] := by
  obtain ⟨t, -, htok⟩ := h
  exact (isPrefix_of_take? htok).2

/-- The words of quoted texts are reserved. -/
theorem mem_reserved_ofDraft {source : String} {rootRule : Nat} {d : Draft Regex}
    {ignored : List Regex} (ht : (ofDraft source rootRule d ignored).lexemeOf? t = some x)
    (hx : x.keyword? = some w) : w ∈ (ofDraft source rootRule d ignored).reserved := by
  obtain ⟨y, hy, rfl⟩ := Option.map_eq_some_iff.mp ht
  exact List.mem_filterMap.mpr ⟨y, Array.mem_toList_iff.mpr (Array.mem_of_getElem? hy), hx⟩

theorem IsFor.mem_reserved (h : g.IsFor c root) (ht : g.lexemeOf? t = some x)
    (hx : x.keyword? = some w) : w ∈ g.reserved := by
  obtain ⟨source, rootRule, d, b, ignored, rfl, -⟩ := h
  exact mem_reserved_ofDraft ht hx

/-- Where runs of characters are passed over, all of them are. -/
theorem skipIgnored_eq_dropWhile {cls : Regex.CharClass} {asciiWords : Bool} (s : List Char) :
    skipIgnored [Regex.seq (.look .start asciiWords) (.plus true (.chars cls))] s =
      s.dropWhile cls.mem := by
  have hround : ∀ s, skipRound [Regex.seq (.look .start asciiWords) (.plus true (.chars cls))] s =
      s.dropWhile cls.mem := by
    intro s
    have hsplit := List.takeWhile_append_dropWhile (p := cls.mem) (l := s)
    have hdrop : s.drop (s.takeWhile cls.mem).length = s.dropWhile cls.mem :=
      calc s.drop (s.takeWhile cls.mem).length
          = (s.takeWhile cls.mem ++ s.dropWhile cls.mem).drop (s.takeWhile cls.mem).length := by
            rw [hsplit]
        _ = s.dropWhile cls.mem := List.drop_left
    change s.drop _ = _
    rw [Scanner.nonempty?, Scanner.matchLength?_regex, Regex.matchLength?_anchored,
      Regex.matchLength?, Regex.matchFrom_plus, ← hdrop]
    split_ifs with hnone
    · rw [hnone]
      rfl
    · rw [Nat.zero_add, Option.filter_some, if_pos (by simpa using Nat.pos_of_ne_zero hnone)]
      rfl
  rw [skipIgnored]
  split_ifs with hlt
  · rw [skipIgnored, hround, hround, List.dropWhile_idempotent, if_neg (Nat.lt_irrefl _)]
  · rw [hround] at hlt
    exact ((List.dropWhile_suffix cls.mem).eq_of_length_le (Nat.not_lt.mp hlt)).symm

/-- Behind white space a token is taken. -/
theorem readsAs_iff {p : Char → Bool} (hskip : ∀ s, skipIgnored g.ignored s = s.dropWhile p) :
    g.ReadsAs text x k m ↔ ∃ gap tok rest, text.drop k = gap ++ tok ++ rest ∧
      (∀ c ∈ gap, p c = true) ∧ (∀ c ∈ tok.head?, p c = false) ∧ g.TakesAs x tok rest ∧
      m = k + gap.length + tok.length := by
  have hlen : ∀ s : List Char,
      s.length - (s.dropWhile p).length = (s.takeWhile p).length := fun s => by
    have hsplit := congrArg List.length (List.takeWhile_append_dropWhile (p := p) (l := s))
    rw [List.length_append] at hsplit
    omega
  constructor
  · rintro ⟨t, ht, n, hn, rfl⟩
    obtain ⟨tok, htok, rfl⟩ := Option.map_eq_some_iff.mp hn
    rw [hskip] at htok ⊢
    obtain ⟨⟨rest, hrest⟩, hne⟩ := isPrefix_of_take? htok
    refine ⟨(text.drop k).takeWhile p, tok, rest, ?_, fun c hc => List.mem_takeWhile_imp hc, ?_,
      ⟨t, ht, hrest ▸ htok⟩, ?_⟩
    · rw [List.append_assoc, hrest, List.takeWhile_append_dropWhile]
    · intro c hc
      have hhead : ((text.drop k).dropWhile p).head? = some c := by
        rw [← hrest, List.head?_append_of_ne_nil _ hne]
        exact hc
      have hnot := List.head?_dropWhile_not p (text.drop k)
      rw [hhead] at hnot
      exact hnot
    · rw [hlen, Nat.add_assoc]
  · rintro ⟨gap, tok, rest, htext, hgap, hhead, ⟨t, ht, htok⟩, rfl⟩
    have hdrop : (text.drop k).dropWhile p = tok ++ rest := by
      rw [htext, List.append_assoc, List.dropWhile_append_of_pos hgap]
      obtain ⟨d, tok, rfl⟩ := List.exists_cons_of_ne_nil (isPrefix_of_take? htok).2
      exact List.dropWhile_cons_of_neg (by simpa using hhead d rfl)
    refine ⟨t, ht, gap.length + tok.length, ?_, by omega⟩
    refine Option.map_eq_some_iff.mpr ⟨tok, ?_, ?_⟩
    · rw [hskip, hdrop]
      exact htok
    · rw [hskip, hdrop, htext]
      simp only [List.length_append]
      omega

end Grammar

end QueryGate
