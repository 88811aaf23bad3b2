import QueryGate.Proofs.Statement.Cuts
import QueryGate.Proofs.Statement.Tails
import QueryGate.Statement.Normalize

/-!
# Trailing noise

Behind a statement there may be white space, separators, comments that are closed and directives,
in any number and order (`IsNoise`). Whatever a text is, they make no difference to what becomes
of it (`Normalizer.normalize_append_noise`), as long as they begin neither inside quotes nor inside
a comment, and no comment follows the text at once.

Each piece is looked at on its own : it is cut on its own (`IsNoise.endsOutside`,
`IsNoise.apart`), and what is left of it without comments is `Absorbed`.
-/

namespace QueryGate

open Text Statement

namespace Statement

variable {s t body item : List Char} {items : List (List Char)} {c : Char}

/-- A piece of what may stand behind a statement. A directive in front of another piece ends with
its name, since no piece begins with a part of an identifier (`IsNoise.head`). -/
inductive IsNoise : List Char → Prop
  | white {c : Char} (hc : isWhite c = true) : IsNoise [c]
  | separator : IsNoise [';']
  | lineComment {body : List Char} (hbody : '\n' ∉ body) :
      IsNoise (lineOpener ++ (body ++ ['\n']))
  | blockComment {body : List Char} (hbody : ¬['*', '/'] <:+: body) :
      IsNoise (blockOpener ++ (body ++ ['*', '/']))
  | directive {gap d : List Char} (hne : gap ≠ []) (hgap : ∀ c ∈ gap, isWhite c = true)
      (hd : Directive d) : IsNoise (gap ++ d)

theorem segments_lineComment (hbody : '\n' ∉ body) :
    segments (lineOpener ++ (body ++ ['\n'])) = [.lineComment body true, .plain '\n'] := by
  rw [segments_line (isLineBody_of_notMem hbody),
    segments_eq_map (List.forall_mem_singleton.mpr (by decide)), List.map_singleton]

theorem segments_blockComment (hbody : ¬['*', '/'] <:+: body) :
    segments (blockOpener ++ (body ++ ['*', '/'])) = [.blockComment body true] := by
  rw [segments_block (isBlockBody_of_not_isInfix hbody), segments_nil]

theorem endsOutside_of_forall (hs : ∀ c ∈ s, IsTailChar c) : EndsOutside s := by
  rw [endsOutside_iff, segments_of_isTailChar hs]
  simp [Segment.isClosed]

theorem withoutComments_of_forall (hs : ∀ c ∈ s, IsTailChar c) : withoutComments s = s := by
  have hleft : (s.map .plain).flatMap Segment.left = s.map .plain := by
    rw [List.flatMap_map, List.map_eq_flatMap]
    rfl
  rw [withoutComments_eq_flatMap, segments_of_isTailChar hs, hleft, ← segments_of_isTailChar hs,
    flatMap_text_segments]

namespace IsNoise

/-- What a piece begins with. -/
theorem head (h : IsNoise item) :
    ∀ c ∈ item.head?, c = ';' ∨ isWhite c = true ∨ c = '-' ∨ c = '/' := by
  cases h with
  | white hc => simpa using Or.inr (Or.inl hc)
  | separator => simp
  | lineComment => simp [lineOpener]
  | blockComment => simp [blockOpener]
  | directive hne hgap hd =>
    intro c hc
    rw [List.head?_append_of_ne_nil _ hne] at hc
    exact Or.inr (Or.inl (hgap c (List.mem_of_mem_head? hc)))

/-- A piece is a comment, or nothing in it begins one. -/
theorem isTailChar_or_comment (h : IsNoise item) : (∀ c ∈ item, IsTailChar c) ∨
    (∃ body, '\n' ∉ body ∧ item = lineOpener ++ (body ++ ['\n'])) ∨
    ∃ body, ¬['*', '/'] <:+: body ∧ item = blockOpener ++ (body ++ ['*', '/']) := by
  cases h with
  | white hc => exact Or.inl (List.forall_mem_singleton.mpr (Or.inr (Or.inl hc)))
  | separator => exact Or.inl (List.forall_mem_singleton.mpr (Or.inl rfl))
  | lineComment hbody => exact Or.inr (Or.inl ⟨_, hbody, rfl⟩)
  | blockComment hbody => exact Or.inr (Or.inr ⟨_, hbody, rfl⟩)
  | directive hne hgap hd =>
    exact Or.inl (List.forall_mem_append.mpr
      ⟨fun c hc => Or.inr (Or.inl (hgap c hc)), hd.isTailChar⟩)

theorem endsOutside (h : IsNoise item) : EndsOutside item := by
  rcases h.isTailChar_or_comment with hall | ⟨body, hbody, rfl⟩ | ⟨body, hbody, rfl⟩
  · exact endsOutside_of_forall hall
  · simp [endsOutside_iff, segments_lineComment hbody, Segment.isClosed]
  · simp [endsOutside_iff, segments_blockComment hbody, Segment.isClosed]

theorem getLast?_ne_hyphen (h : IsNoise item) : '-' ∉ item.getLast? := by
  rcases h.isTailChar_or_comment with hall | ⟨body, hbody, rfl⟩ | ⟨body, hbody, rfl⟩
  · exact fun hlast => (hall _ (List.mem_of_getLast? hlast)).opensNothing.2.1 rfl
  · simp [← List.append_assoc]
  · simp [List.getLast?_append]

/-- No comment begins where one piece ends and the next begins. -/
theorem apart (h : IsNoise item)
    (ht : ∀ c ∈ t.head?, c = ';' ∨ isWhite c = true ∨ c = '-' ∨ c = '/') : Apart item t := by
  intro a ha b hb hopener
  simp only [lineOpener, blockOpener, List.mem_cons, List.not_mem_nil, or_false,
    List.cons.injEq, and_true] at hopener
  rcases hopener with ⟨rfl, -⟩ | ⟨-, rfl⟩
  · exact h.getLast?_ne_hyphen ha
  · exact absurd (ht '*' hb) (by decide)

theorem absorbed (h : IsNoise item) : Absorbed (withoutComments item) := by
  cases h with
  | white hc =>
    rw [withoutComments_of_forall (List.forall_mem_singleton.mpr (Or.inr (Or.inl hc)))]
    exact absorbed_of_forall (List.forall_mem_singleton.mpr (Or.inr hc))
  | separator => exact absorbed_of_forall (List.forall_mem_singleton.mpr (Or.inl rfl))
  | lineComment hbody =>
    rw [withoutComments_eq_flatMap, segments_lineComment hbody]
    exact absorbed_of_forall (List.forall_mem_singleton.mpr (by decide))
  | blockComment hbody =>
    rw [withoutComments_eq_flatMap, segments_blockComment hbody]
    exact absorbed_of_forall (List.forall_mem_singleton.mpr (by decide))
  | directive hne hgap hd =>
    rw [withoutComments_of_forall (List.forall_mem_append.mpr
      ⟨fun c hc => Or.inr (Or.inl (hgap c hc)), hd.isTailChar⟩)]
    exact absorbed_directive hd hne hgap

/-- A directive with single spaces. -/
theorem spaced (k n : List Char) (hk : sameLetters k formatKeyword = true) (hne : n ≠ [])
    (hn : n.all isIdentChar = true) : IsNoise ([' '] ++ (k ++ [' '] ++ n)) :=
  have hspace : ∀ c ∈ [' '], isWhite c = true := List.forall_mem_singleton.mpr (by decide)
  .directive (by simp) hspace
    ⟨k, [' '], n, rfl, hk, by simp, hspace, by simp; decide, hne, List.all_eq_true.mp hn⟩

theorem head_flatten (h : ∀ item ∈ items, IsNoise item) :
    ∀ c ∈ items.flatten.head?, c = ';' ∨ isWhite c = true ∨ c = '-' ∨ c = '/' := by
  induction items with
  | nil => simp
  | cons item items ih =>
    obtain ⟨hitem, hitems⟩ := List.forall_mem_cons.mp h
    intro c hc
    rw [List.flatten_cons, List.head?_append, Option.mem_def, Option.or_eq_some_iff] at hc
    exact hc.elim (hitem.head c) fun hc => ih hitems c hc.2

/-- What is left of the pieces without comments is left of each one. -/
theorem absorbed_flatten (h : ∀ item ∈ items, IsNoise item) :
    Absorbed (withoutComments items.flatten) := by
  induction items with
  | nil => exact absorbed_nil
  | cons item items ih =>
    obtain ⟨hitem, hitems⟩ := List.forall_mem_cons.mp h
    rw [List.flatten_cons,
      withoutComments_append hitem.endsOutside (hitem.apart (head_flatten hitems))]
    exact hitem.absorbed.append (ih hitems)

end IsNoise

/-- Where white space or a separator follows, no comment begins at the end of a text. -/
theorem apart_of_head (ht : ∀ c ∈ t.head?, c = ';' ∨ isWhite c = true) : Apart s t :=
  apart_of_forall fun c hc => (ht c hc).elim Or.inl fun hwhite => Or.inr (Or.inl hwhite)

end Statement

/-- White space, separators, comments and directives behind a text make no difference. -/
theorem Normalizer.normalize_append_noise {n : Normalizer} {x : List Char}
    {items : List (List Char)} (hx : EndsOutside x) (hitems : ∀ item ∈ items, IsNoise item)
    (hhead : ∀ c ∈ items.flatten.head?, c = ';' ∨ isWhite c = true) :
    n.normalize (x ++ items.flatten) = n.normalize x := by
  rw [normalize, normalize, withoutComments_append hx (apart_of_head hhead),
    IsNoise.absorbed_flatten hitems]

/-- Behind a statement that ends in the keyword itself. -/
theorem Normalizer.normalize_append_noise_keyword :
    EndsOutside "SELECT ';' FORMAT".toList ∧
      (∀ item ∈ [";", " format Csv", "\n", "-- it's\n", "/* ; -- */", " FORMAT x_1", ";"],
        IsNoise item.toList) ∧
      (ofFormat "JSON").normalize
          "SELECT ';' FORMAT; format Csv\n-- it's\n/* ; -- */ FORMAT x_1;".toList =
        .query "SELECT ';' FORMAT FORMAT JSON".toList := by
  have hx : EndsOutside "SELECT ';' FORMAT".toList := by decide +kernel
  have hline : IsNoise "-- it's\n".toList :=
    .lineComment (show '\n' ∉ " it's".toList by decide)
  have hblock : IsNoise "/* ; -- */".toList :=
    .blockComment (show ¬['*', '/'] <:+: " ; -- ".toList by decide +kernel)
  have hitems : ∀ item ∈ [";", " format Csv", "\n", "-- it's\n", "/* ; -- */", " FORMAT x_1",
      ";"], IsNoise item.toList := by
    simp only [List.forall_mem_cons]
    exact ⟨.separator, .spaced "format".toList "Csv".toList (by decide) (by decide) (by decide),
      .white (by decide), hline, hblock,
      .spaced "FORMAT".toList "x_1".toList (by decide) (by decide) (by decide), .separator, nofun⟩
  have h := normalize_append_noise (n := ofFormat "JSON") hx (List.forall_mem_map.mpr hitems)
    fun c hc => Or.inl (Option.some.inj hc).symm
  refine ⟨hx, hitems, ?_⟩
  calc (ofFormat "JSON").normalize
        "SELECT ';' FORMAT; format Csv\n-- it's\n/* ; -- */ FORMAT x_1;".toList
      = (ofFormat "JSON").normalize ("SELECT ';' FORMAT".toList ++ ([";", " format Csv",
          "\n", "-- it's\n", "/* ; -- */", " FORMAT x_1", ";"].map String.toList).flatten) :=
        congrArg _ (by decide +kernel)
    _ = (ofFormat "JSON").normalize "SELECT ';' FORMAT".toList := h
    _ = .query "SELECT ';' FORMAT FORMAT JSON".toList := by decide +kernel

end QueryGate
