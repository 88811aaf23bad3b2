import QueryGate.Proofs.Statement.NormalForm
import QueryGate.Proofs.Statement.Tails

/-!
# Quotations

`quotations s` are the quoted parts of a text, with their marks; quotes in comments are none. Where
all of them are closed, normalizing keeps them as they are and in order, and the directive that is
put behind the statement stands outside them (`Normalizer.quotations_of_normalize`).

Comments are taken away between quotations (`quotations_withoutComments`). What is taken off the end
cannot reach into one, since no character of it is a quote mark (`endsOutside_of_append`).
-/

namespace QueryGate

open Text Statement

namespace Statement

variable {s t u b w body : List Char} {mark c : Char} {g g' : Segment}

/-- The quoted parts of a text. -/
def quotations (s : List Char) : List Segment :=
  (segments s).filter Segment.isQuoted

namespace Segment

/-- What is left where comments are taken away is no comment. -/
theorem left_of_mem_left (h : g' ∈ g.left) : g'.left = [g'] := by
  cases g with
  | quoted | plain =>
    obtain rfl := List.mem_singleton.mp h
    rfl
  | lineComment => cases h
  | blockComment =>
    obtain rfl := List.mem_singleton.mp h
    rfl

theorem isClosed_of_mem_left (hg : g.isQuoted = true → g.isClosed = true) (h : g' ∈ g.left) :
    g'.isClosed = true := by
  cases g with
  | quoted =>
    obtain rfl := List.mem_singleton.mp h
    exact hg rfl
  | lineComment => cases h
  | blockComment | plain =>
    obtain rfl := List.mem_singleton.mp h
    rfl

theorem filter_isQuoted_left (g : Segment) : g.left.filter isQuoted = [g].filter isQuoted := by
  cases g <;> rfl

end Segment

theorem quotations_withoutComments (s : List Char) :
    quotations (withoutComments s) = quotations s := by
  rw [quotations, segments_withoutComments, quotations]
  induction segments s with
  | nil => rfl
  | cons g gs ih =>
    rw [List.flatMap_cons, List.filter_append, ih, g.filter_isQuoted_left, ← List.filter_append,
      List.singleton_append]

theorem filter_isQuoted_map_plain (s : List Char) :
    (s.map Segment.plain).filter Segment.isQuoted = [] := by
  simp [Segment.isQuoted]

/-- Quotes that are open stay open if no mark of their kind follows. -/
theorem splitQuoted_append_eq_none (hmark : mark ≠ '\\') (hs : (splitQuoted mark s).2 = none)
    (ht : mark ∉ t) : (splitQuoted mark (s ++ t)).2 = none := by
  rcases splitQuoted_cases hmark (s ++ t) with ⟨body, rest, h, heq, hbody⟩ | h
  · -- the mark that closes them would stand in front of what follows
    rcases List.append_eq_append_iff.mp heq with ⟨a, rfl, rfl⟩ | ⟨a, rfl, hrest⟩
    · exact absurd (List.mem_append_right _ List.mem_cons_self) ht
    · cases a with
      | nil =>
        obtain rfl : mark :: rest = t := hrest
        exact absurd List.mem_cons_self ht
      | cons d a =>
        obtain ⟨rfl, -⟩ := List.cons.inj hrest
        rw [hbody a] at hs
        cases hs
  · rw [h]

theorem exists_comment_mem_segments {opener : List Char}
    (hopener : opener ∈ [lineOpener, blockOpener]) (s : List Char) :
    ∃ g ∈ segments (opener ++ s), g.left ≠ [g] := by
  simp only [List.mem_cons, List.not_mem_nil, or_false] at hopener
  rcases hopener with rfl | rfl
  · rw [lineOpener, List.cons_append, List.singleton_append, segments]
    exact ⟨_, List.mem_cons_self, List.cons_ne_nil _ _ ∘ Eq.symm⟩
  · rw [blockOpener, List.cons_append, List.singleton_append, segments]
    exact ⟨_, List.mem_cons_self, by simp [Segment.left]⟩

/-- No quotes are open in front of a tail behind which none are. -/
theorem endsOutside_of_append (hw : ∀ c ∈ w, IsTailChar c)
    (h : ∀ g ∈ segments (s ++ w), g.left = [g] ∧ g.isClosed = true) : EndsOutside s := by
  have hapart : Apart s w := apart_of_forall fun c hc => hw c (List.mem_of_mem_head? hc)
  rw [endsOutside_iff]
  induction s using segments_induction with
  | nil => simp
  | plain c s hc hl hb ih =>
    rw [List.cons_append, segments_plain hc (hapart.not_isPrefix (by simp) hl)
      (hapart.not_isPrefix (by simp) hb), List.forall_mem_cons] at h
    rw [segments_plain hc hl hb]
    exact List.forall_mem_cons.mpr ⟨rfl, ih h.2 hapart.of_cons⟩
  | quoted mark body s hmark hbody ih =>
    have hs : Apart s w := Apart.of_append (u := mark :: body ++ [mark]) (by simpa using hapart)
    rw [List.cons_append, List.append_assoc, List.cons_append, segments_quoted hmark hbody,
      List.forall_mem_cons] at h
    rw [segments_quoted hmark hbody]
    exact List.forall_mem_cons.mpr ⟨rfl, ih h.2 hs⟩
  | openQuoted mark body hmark hbody =>
    have hopen : (splitQuoted mark (body ++ w)).2 = none :=
      splitQuoted_append_eq_none (backslash_ne_of_isQuoteMark hmark) (by rw [hbody]) fun hmem => by
        simp [(hw mark hmem).opensNothing.1] at hmark
    rw [List.cons_append, segments_quote hmark, hopen] at h
    exact absurd (List.forall_mem_cons.mp h).1.2 (by simp [Segment.isClosed])
  | line | openLine =>
    rw [List.append_assoc] at h
    obtain ⟨g, hg, hcomment⟩ := exists_comment_mem_segments List.mem_cons_self _
    exact absurd (h g hg).1 hcomment
  | block | openBlock =>
    rw [List.append_assoc] at h
    obtain ⟨g, hg, hcomment⟩ :=
      exists_comment_mem_segments (List.mem_cons_of_mem _ List.mem_cons_self) _
    exact absurd (h g hg).1 hcomment

/-- A tail behind a text whose quotes are closed is cut into characters. -/
theorem segments_append_of_isTailChar (hs : EndsOutside s) (hw : ∀ c ∈ w, IsTailChar c) :
    segments (s ++ w) = segments s ++ w.map .plain := by
  rw [segments_append hs (apart_of_forall fun c hc => hw c (List.mem_of_mem_head? hc)),
    segments_of_isTailChar hw]

theorem quotations_append_of_isTailChar (hs : EndsOutside s) (hw : ∀ c ∈ w, IsTailChar c) :
    quotations (s ++ w) = quotations s := by
  rw [quotations, segments_append_of_isTailChar hs hw, List.filter_append,
    filter_isQuoted_map_plain, List.append_nil, quotations]

/-- Where all quotes of a text without comments are closed, the statement in it has all of them. -/
theorem quotations_of_withoutTail
    (hclosed : ∀ g ∈ segments s, g.left = [g] ∧ g.isClosed = true)
    (h : withoutTail s = some b) : EndsOutside b ∧ quotations b = quotations s := by
  obtain ⟨u, w, rfl, hu, hw⟩ := exists_eq_append_of_withoutTail h
  have hlead : ∀ c ∈ u, OpensNothing c :=
    fun c hc => IsTailChar.opensNothing (Or.inr (Or.inl (hu c hc)))
  rw [List.append_assoc, segments_append_of_forall hlead] at hclosed
  have hb : EndsOutside b :=
    endsOutside_of_append hw fun g hg => hclosed g (List.mem_append_right _ hg)
  refine ⟨hb, ?_⟩
  calc quotations b = quotations (b ++ w) := (quotations_append_of_isTailChar hb hw).symm
    _ = quotations (u ++ b ++ w) := by
        rw [List.append_assoc, quotations, quotations, segments_append_of_forall hlead,
          List.filter_append, filter_isQuoted_map_plain, List.nil_append]

end Statement

namespace Normalizer

variable {format : String} {x q : List Char}

/-- Quotations that are closed are those of the normalized query, with their marks and in order,
and the directive stands outside them. -/
theorem quotations_of_normalize
    (hf : ∀ c ∈ format.toList, c.isUpper = true ∨ c.isDigit = true ∨ c = '_')
    (hx : ∀ g ∈ quotations x, g.isClosed = true) (h : (ofFormat format).normalize x = .query q) :
    quotations q = quotations x ∧ (∀ g ∈ quotations q, g.isClosed = true) ∧
      ∃ b, q = b ++ (" FORMAT ".toList ++ format.toList) ∧
        segments q = segments b ++ (" FORMAT ".toList ++ format.toList).map .plain := by
  obtain ⟨b, htail, -, rfl⟩ := normalize_eq_query_iff.mp h
  have hclosed : ∀ g ∈ segments (withoutComments x), g.left = [g] ∧ g.isClosed = true := by
    intro g hg
    rw [segments_withoutComments, List.mem_flatMap] at hg
    obtain ⟨g', hg', hleft⟩ := hg
    exact ⟨Segment.left_of_mem_left hleft, Segment.isClosed_of_mem_left
      (fun hquoted => hx g' (List.mem_filter.mpr ⟨hg', hquoted⟩)) hleft⟩
  obtain ⟨hb, hquotations⟩ := quotations_of_withoutTail hclosed htail
  have hformat : (ofFormat format).format = format.toList :=
    upper_eq_self fun c hc => toNat_lt_of_isUpper_or_isDigit (hf c hc)
  have hspelled : [' '] ++ (formatKeyword ++ [' '] ++ format.toList) =
      " FORMAT ".toList ++ format.toList := by simp [formatKeyword]
  have hdirective : ∀ c ∈ " FORMAT ".toList ++ format.toList, IsTailChar c := by
    intro c hc
    rw [← hspelled] at hc
    rcases isIdentChar_or_eq_space_of_mem_directive
      (fun c hc => isIdentChar_of_isUpper_or_isDigit (hf c hc)) hc with hident | rfl
    · exact Or.inr (Or.inr hident)
    · exact Or.inr (Or.inl (by decide))
  rw [hformat, withFormat_eq, List.append_assoc, hspelled]
  have hsame : quotations (b ++ (" FORMAT ".toList ++ format.toList)) = quotations x := by
    rw [quotations_append_of_isTailChar hb hdirective, hquotations, quotations_withoutComments]
  exact ⟨hsame, hsame ▸ hx, b, rfl, segments_append_of_isTailChar hb hdirective⟩

/-- Comments and separators in quotes stay, quotes in comments do not count. -/
theorem quotations_of_normalize_comments :
    (∀ g ∈ quotations "SELECT 'a\\';--', \"/* b\" /* it's */ FROM t -- \"\n; FORMAT csv".toList,
        g.isClosed = true) ∧
      (ofFormat "JSON").normalize
          "SELECT 'a\\';--', \"/* b\" /* it's */ FROM t -- \"\n; FORMAT csv".toList =
        .query "SELECT 'a\\';--', \"/* b\"   FROM t FORMAT JSON".toList ∧
      quotations "SELECT 'a\\';--', \"/* b\"   FROM t FORMAT JSON".toList =
        [.quoted '\'' "a\\';--".toList true, .quoted '"' "/* b".toList true] := by
  have hx : ∀ g ∈ quotations
      "SELECT 'a\\';--', \"/* b\" /* it's */ FROM t -- \"\n; FORMAT csv".toList,
      g.isClosed = true := by decide +kernel
  have h : (ofFormat "JSON").normalize
      "SELECT 'a\\';--', \"/* b\" /* it's */ FROM t -- \"\n; FORMAT csv".toList =
        .query "SELECT 'a\\';--', \"/* b\"   FROM t FORMAT JSON".toList := by decide +kernel
  have hupper : "JSON".toList.all Char.isUpper = true := by decide
  have hsame := (quotations_of_normalize
    (fun c hc => Or.inl (List.all_eq_true.mp hupper c hc)) hx h).1
  exact ⟨hx, h, hsame.trans (by decide +kernel)⟩

end Normalizer

end QueryGate
