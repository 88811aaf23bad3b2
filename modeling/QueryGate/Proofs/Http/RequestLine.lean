import Mathlib.Data.List.SplitBy
import QueryGate.Http.Message
import QueryGate.Proofs.Text.Pieces
import QueryGate.Proofs.Text.Trim

/-!
# Request lines

A request whose first line gives method and path can be cut around them (`Addressed`,
`requestLine?_eq_some_iff`). Slashes and parameters behind the path are cut off again, and the body
stands where it stood, so they make no difference (`Addressed.requestLine?_extend`,
`Addressed.body_extend`).
-/

namespace QueryGate.Http

open Text

variable {s t w : List Char}

/-! ## Words -/

/-- A text of white space alone, or without any, is in one piece. -/
theorem splitBy_isWhite {white : Bool} (hne : s ≠ []) (h : ∀ c ∈ s, isWhite c = white) :
    (s.splitBy fun a b => isWhite a == isWhite b) = [s] := by
  refine List.splitBy_of_isChain hne (List.Pairwise.isChain ?_)
  exact List.pairwise_of_forall_mem_list fun a ha b hb => by simp [h a ha, h b hb]

theorem words_of_isWhite (h : ∀ c ∈ s, isWhite c = true) : words s = [] := by
  rcases eq_or_ne s [] with rfl | hne
  · rfl
  · simp [words, splitBy_isWhite hne h, List.all_eq_true.mpr h]

theorem words_of_not_isWhite (hne : w ≠ []) (h : ∀ c ∈ w, isWhite c = false) :
    words w = [w] := by
  obtain ⟨c, hc⟩ := List.exists_mem_of_ne_nil w hne
  have hall : w.all isWhite = false := List.all_eq_false.mpr ⟨c, hc, by simp [h c hc]⟩
  simp [words, splitBy_isWhite hne h, hall]

/-- No word goes across the border between white space and other characters. -/
theorem words_append (h : ∀ a ∈ s.getLast?, ∀ b ∈ t.head?, isWhite a ≠ isWhite b) :
    words (s ++ t) = words s ++ words t := by
  rw [words, List.splitBy_append fun a ha b hb => by simpa using h a ha b hb, List.filter_append]
  rfl

/-- White space in front of a text does not count. -/
theorem words_isWhite_append (h : ∀ c ∈ s, isWhite c = true) (t : List Char) :
    words (s ++ t) = words t := by
  obtain ⟨blank, ht, hblank⟩ := exists_eq_append_trimStart t
  have hdrop : ∀ u : List Char, (∀ c ∈ u, isWhite c = true) →
      words (u ++ trimStart t) = words (trimStart t) := by
    intro u hu
    rw [words_append, words_of_isWhite hu, List.nil_append]
    intro a ha b hb
    rw [hu a (List.mem_of_mem_getLast? ha), not_isWhite_of_mem_head?_trimStart hb]
    exact Bool.noConfusion
  calc words (s ++ t) = words ((s ++ blank) ++ trimStart t) := by rw [List.append_assoc, ← ht]
    _ = words (trimStart t) :=
        hdrop _ fun c hc => (List.mem_append.mp hc).elim (h c) (hblank c)
    _ = words (blank ++ trimStart t) := (hdrop _ hblank).symm
    _ = words t := by rw [← ht]

/-- What stands in front of white space is a word. -/
theorem words_word_append (hne : w ≠ []) (hw : ∀ c ∈ w, isWhite c = false)
    (ht : ∀ c ∈ t.head?, isWhite c = true) : words (w ++ t) = w :: words t := by
  rw [words_append, words_of_not_isWhite hne hw, List.singleton_append]
  intro a ha b hb
  rw [hw a (List.mem_of_mem_getLast? ha), ht b hb]
  exact Bool.noConfusion

/-- The first word of a text, with what stands around it. -/
theorem exists_eq_of_words_eq_cons {ws : List (List Char)} (h : words s = w :: ws) :
    ∃ blank t, s = blank ++ (w ++ t) ∧ (∀ c ∈ blank, isWhite c = true) ∧ w ≠ [] ∧
      (∀ c ∈ w, isWhite c = false) ∧ (∀ c ∈ t.head?, isWhite c = true) ∧ words t = ws := by
  obtain ⟨blank, hs, hblank⟩ := exists_eq_append_trimStart s
  obtain ⟨word, t, hword, hclean, ht⟩ : ∃ word t, trimStart s = word ++ t ∧
      (∀ c ∈ word, isWhite c = false) ∧ ∀ c ∈ t.head?, isWhite c = true := by
    refine ⟨_, _, (List.takeWhile_append_dropWhile (p := fun c => !isWhite c)).symm,
      fun c hc => by simpa using List.mem_takeWhile_imp hc, fun c hc => ?_⟩
    have hfirst := List.head?_dropWhile_not (fun c => !isWhite c) (trimStart s)
    rw [Option.mem_def.mp hc] at hfirst
    simpa using hfirst
  rw [hs, words_isWhite_append hblank, hword] at h
  have hne : word ≠ [] := by
    rintro rfl
    cases t with
    | nil => cases h
    | cons c t =>
      have hwhite := ht c rfl
      rw [not_isWhite_of_mem_head?_trimStart (s := s) (by rw [hword]; rfl)] at hwhite
      cases hwhite
  rw [words_word_append hne hclean ht] at h
  obtain ⟨rfl, rfl⟩ := List.cons.inj h
  exact ⟨blank, t, by rw [hs, hword], hblank, hne, hclean, ht, rfl⟩

/-! ## First lines -/

/-- The first line of a text; empty if there is none. -/
def firstLine (s : List Char) : List Char :=
  (lines s).head?.getD []

theorem firstLine_of_mem (hs : '\n' ∉ s) (t : List Char) :
    firstLine (s ++ '\n' :: t) = dropReturn s := by
  obtain ⟨piece, pieces, hpieces⟩ := List.exists_cons_of_ne_nil (splitAt_ne_nil '\n' t)
  simp [firstLine, lines, splitAt_append hs, hpieces]

theorem firstLine_of_not_mem (hs : '\n' ∉ s) : firstLine s = s := by
  cases s <;> simp [firstLine, lines, splitAt_eq_singleton hs]

/-- The first line goes on through a part without an end of a line. -/
theorem firstLine_append (hs : '\n' ∉ s) (hlast : s.getLast? ≠ some '\r') (t : List Char) :
    firstLine (s ++ t) = s ++ firstLine t := by
  by_cases ht : '\n' ∈ t
  · obtain ⟨u, v, rfl, hu⟩ := List.eq_append_cons_of_mem ht
    have hsu : '\n' ∉ s ++ u := fun h => (List.mem_append.mp h).elim hs hu
    rw [firstLine_of_mem hu, ← List.append_assoc, firstLine_of_mem hsu, dropReturn_append hlast]
  · have hst : '\n' ∉ s ++ t := fun h => (List.mem_append.mp h).elim hs ht
    rw [firstLine_of_not_mem hst, firstLine_of_not_mem ht]

theorem exists_eq_dropReturn_append (s : List Char) :
    ∃ t, s = dropReturn s ++ t ∧ ∀ c ∈ t, c = '\r' := by
  rw [dropReturn]
  split_ifs with h
  · have hlast : '\r' ∈ s.getLast? := by simpa using h
    exact ⟨['\r'], (List.dropLast_append_getLast? _ hlast).symm, by simp⟩
  · exact ⟨[], (List.append_nil s).symm, List.forall_mem_nil _⟩

/-- A text is its first line and what follows the line. -/
theorem exists_eq_firstLine_append (s : List Char) : ∃ t, s = firstLine s ++ t ∧
    '\n' ∉ firstLine s ∧ ∀ c ∈ t.head?, isWhite c = true := by
  by_cases hs : '\n' ∈ s
  · obtain ⟨u, v, rfl, hu⟩ := List.eq_append_cons_of_mem hs
    obtain ⟨t, ht, hreturn⟩ := exists_eq_dropReturn_append u
    rw [firstLine_of_mem hu]
    refine ⟨t ++ '\n' :: v, ?_, fun h => hu (mem_of_mem_dropReturn h), ?_⟩
    · rw [← List.append_assoc, ← ht]
    · cases t with
      | nil =>
        rintro c ⟨⟩
        decide
      | cons c t =>
        rintro c ⟨⟩
        rw [hreturn c List.mem_cons_self]
        decide
  · rw [firstLine_of_not_mem hs]
    exact ⟨[], (List.append_nil s).symm, hs, nofun⟩

/-- What the first line begins with is what the text begins with. -/
theorem isPrefix_firstLine (s : List Char) : firstLine s <+: s := by
  obtain ⟨t, ht, -⟩ := exists_eq_firstLine_append s
  exact ⟨t, ht.symm⟩

/-! ## Paths -/

/-- A request, cut around the method and the path in its first line. -/
structure Addressed where
  /-- What stands before the method. -/
  blank : List Char
  method : List Char
  /-- What stands between method and path. -/
  gap : List Char
  path : List Char
  /-- What follows the path, the headers and the body with it. -/
  rest : List Char
  isWhite_of_mem_blank : ∀ c ∈ blank, isWhite c = true
  method_ne_nil : method ≠ []
  not_isWhite_of_mem_method : ∀ c ∈ method, isWhite c = false
  gap_ne_nil : gap ≠ []
  isWhite_of_mem_gap : ∀ c ∈ gap, isWhite c = true
  /-- Nothing ends the first line in front of the path. -/
  not_mem : '\n' ∉ blank ∧ '\n' ∉ gap
  path_ne_nil : path ≠ []
  not_isWhite_of_mem_path : ∀ c ∈ path, isWhite c = false
  isWhite_of_mem_head? : ∀ c ∈ rest.head?, isWhite c = true

namespace Addressed

variable (a : Addressed) {extra : List Char}

/-- What stands in front of the end of the path. -/
def lead : List Char :=
  a.blank ++ (a.method ++ (a.gap ++ a.path))

/-- The text of a request. -/
def request : List Char :=
  a.lead ++ a.rest

/-- A request with more characters at the end of its path. -/
def extend (extra : List Char) (h : ∀ c ∈ extra, isWhite c = false) : Addressed :=
  { a with
    path := a.path ++ extra
    path_ne_nil := List.append_ne_nil_of_left_ne_nil a.path_ne_nil extra
    not_isWhite_of_mem_path := fun c hc =>
      (List.mem_append.mp hc).elim (a.not_isWhite_of_mem_path c) (h c) }

theorem not_mem_lead : '\n' ∉ a.lead := by
  have hword : ∀ w : List Char, (∀ c ∈ w, isWhite c = false) → '\n' ∉ w := fun w hw hmem =>
    absurd (hw _ hmem) (by decide)
  simp only [lead, List.mem_append, not_or]
  exact ⟨a.not_mem.1, hword _ a.not_isWhite_of_mem_method, a.not_mem.2,
    hword _ a.not_isWhite_of_mem_path⟩

theorem not_isWhite_of_mem_getLast?_lead : ∀ c ∈ a.lead.getLast?, isWhite c = false := by
  intro c hc
  have hlead : a.lead = (a.blank ++ a.method ++ a.gap) ++ a.path := by simp [lead]
  rw [hlead, List.getLast?_append_of_ne_nil _ a.path_ne_nil] at hc
  exact a.not_isWhite_of_mem_path c (List.mem_of_mem_getLast? hc)

theorem getLast?_lead_ne : a.lead.getLast? ≠ some '\r' := fun h =>
  absurd (a.not_isWhite_of_mem_getLast?_lead _ h) (by decide)

theorem words_firstLine :
    words (firstLine a.request) = a.method :: a.path :: words (firstLine a.rest) := by
  have hrest : ∀ c ∈ (firstLine a.rest).head?, isWhite c = true := fun c hc =>
    a.isWhite_of_mem_head? c (mem_head?_of_isPrefix (isPrefix_firstLine a.rest) hc)
  have hgap : ∀ c ∈ (a.gap ++ (a.path ++ firstLine a.rest)).head?, isWhite c = true := by
    intro c hc
    rw [List.head?_append_of_ne_nil _ a.gap_ne_nil] at hc
    exact a.isWhite_of_mem_gap c (List.mem_of_mem_head? hc)
  calc words (firstLine a.request)
      = words (a.blank ++ (a.method ++ (a.gap ++ (a.path ++ firstLine a.rest)))) := by
        rw [request, firstLine_append a.not_mem_lead a.getLast?_lead_ne]
        simp [lead]
    _ = a.method :: words (a.gap ++ (a.path ++ firstLine a.rest)) := by
        rw [words_isWhite_append a.isWhite_of_mem_blank,
          words_word_append a.method_ne_nil a.not_isWhite_of_mem_method hgap]
    _ = a.method :: a.path :: words (firstLine a.rest) := by
        rw [words_isWhite_append a.isWhite_of_mem_gap,
          words_word_append a.path_ne_nil a.not_isWhite_of_mem_path hrest]

end Addressed

theorem requestLine?_eq_some_iff_words {request method path : List Char} :
    requestLine? request = some (method, path) ↔
      ∃ p ws, words (firstLine request) = method :: p :: ws ∧ normalizePath p = path := by
  have hline : words ((lines request).head?.getD []) = words (firstLine request) := rfl
  rw [requestLine?, hline]
  split
  · next m p ws hwords => simp [hwords]
  · next hwords =>
    refine iff_of_false nofun ?_
    rintro ⟨p, ws, h, -⟩
    exact hwords _ _ _ h

/-- A first line of two words is one of a request with a path. -/
theorem exists_addressed_of_words {request method path : List Char} {ws : List (List Char)}
    (h : words (firstLine request) = method :: path :: ws) :
    ∃ a : Addressed, a.request = request ∧ a.method = method ∧ a.path = path := by
  obtain ⟨tail, htail, hline, htailWhite⟩ := exists_eq_firstLine_append request
  obtain ⟨blank, t, hmethod, hblank, hmne, hmclean, htWhite, ht⟩ := exists_eq_of_words_eq_cons h
  obtain ⟨gap, u, hpath, hgap, hpne, hpclean, huWhite, -⟩ := exists_eq_of_words_eq_cons ht
  have hgapne : gap ≠ [] := by
    rintro rfl
    have hfirst : path.head hpne ∈ t.head? := by
      rw [hpath, List.nil_append, List.head?_append_of_ne_nil _ hpne]
      exact List.head_mem_head? hpne
    have hwhite := htWhite _ hfirst
    rw [hpclean _ (List.head_mem hpne)] at hwhite
    cases hwhite
  have hrest : ∀ c ∈ (u ++ tail).head?, isWhite c = true := by
    intro c hc
    rw [List.head?_append] at hc
    rcases Option.or_eq_some_iff.mp hc with hu | ⟨-, htl⟩
    · exact huWhite c hu
    · exact htailWhite c htl
  rw [hmethod, hpath] at hline
  simp only [List.mem_append, not_or] at hline
  refine ⟨⟨blank, method, gap, path, u ++ tail, hblank, hmne, hmclean, hgapne, hgap,
    ⟨hline.1, hline.2.2.1⟩, hpne, hpclean, hrest⟩, ?_, rfl, rfl⟩
  rw [Addressed.request, Addressed.lead, htail, hmethod, hpath]
  simp

/-- A request has method and path exactly if it can be cut around them. -/
theorem requestLine?_eq_some_iff {request method path : List Char} :
    requestLine? request = some (method, path) ↔
      ∃ a : Addressed, a.request = request ∧ a.method = method ∧ normalizePath a.path = path := by
  rw [requestLine?_eq_some_iff_words]
  constructor
  · rintro ⟨p, ws, hwords, hpath⟩
    obtain ⟨a, hrequest, hmethod, rfl⟩ := exists_addressed_of_words hwords
    exact ⟨a, hrequest, hmethod, hpath⟩
  · rintro ⟨a, rfl, rfl, hpath⟩
    exact ⟨a.path, _, a.words_firstLine, hpath⟩

/-! ## Behind the path -/

/-- What makes no difference behind a path. -/
inductive IsIdle : List Char → Prop
  | slashes (n : Nat) : IsIdle (List.replicate n '/')
  | parameters {text : List Char} (h : ∀ c ∈ text, isWhite c = false) : IsIdle ('?' :: text)

theorem IsIdle.not_isWhite (h : IsIdle s) : ∀ c ∈ s, isWhite c = false := by
  cases h with
  | slashes n =>
    intro c hc
    obtain rfl := List.eq_of_mem_replicate hc
    decide
  | parameters h => exact List.forall_mem_cons.mpr ⟨by decide, h⟩

/-- In front of the parameters there are only slashes. -/
theorem IsIdle.takeWhile (h : IsIdle s) : ∀ c ∈ s.takeWhile (· != '?'), (c == '/') = true := by
  cases h with
  | slashes n => exact fun c hc =>
      beq_iff_eq.mpr (List.eq_of_mem_replicate ((List.takeWhile_subset _) hc))
  | parameters h => exact nofun

theorem normalizePath_append (h : IsIdle t) (s : List Char) :
    normalizePath (s ++ t) = normalizePath s := by
  have hbare : dropEndWhile (· == '/') ((s ++ t).takeWhile (· != '?')) =
      dropEndWhile (· == '/') (s.takeWhile (· != '?')) := by
    rw [List.takeWhile_append]
    split_ifs with hlength
    · rw [(List.takeWhile_prefix _).eq_of_length hlength,
        dropEndWhile_append_of_forall s h.takeWhile]
    · rfl
  rw [normalizePath, normalizePath, hbare]

/-- The empty line in front of a body does not begin in a part without ends of lines, unless the
part ends with a carriage return. -/
theorem behind?_append (hs : '\n' ∉ s) (hlast : s.getLast? ≠ some '\r') (t : List Char) :
    behind? (lineEnd ++ lineEnd) (s ++ t) = behind? (lineEnd ++ lineEnd) t := by
  induction s with
  | nil => rfl
  | cons c s ih =>
    rw [List.mem_cons, not_or] at hs
    have hstart : (lineEnd ++ lineEnd).isPrefixOf (c :: (s ++ t)) = false := by
      cases s with
      | nil =>
        have hc : '\r' ≠ c := fun h => hlast (by rw [h]; rfl)
        simp [lineEnd, List.isPrefixOf, hc]
      | cons d s =>
        have hd : '\n' ≠ d := fun h => hs.2 (by rw [h]; exact List.mem_cons_self)
        simp [lineEnd, List.isPrefixOf, hd]
    have hrest : s.getLast? ≠ some '\r' := fun h => hlast (by rw [List.getLast?_cons, h]; rfl)
    rw [List.cons_append, behind?, hstart, if_neg Bool.false_ne_true, ih hs.2 hrest]

namespace Addressed

variable (a : Addressed) {extra : List Char}

theorem body_request : body a.request = body a.rest := by
  rw [body, request, behind?_append a.not_mem_lead a.getLast?_lead_ne, body]

theorem body_extend (h : ∀ c ∈ extra, isWhite c = false) :
    body (a.extend extra h).request = body a.request := by
  rw [body_request, body_request]
  rfl

theorem requestLine?_request :
    requestLine? a.request = some (a.method, normalizePath a.path) :=
  requestLine?_eq_some_iff.mpr ⟨a, rfl, rfl, rfl⟩

theorem requestLine?_extend (h : IsIdle extra) :
    requestLine? (a.extend extra h.not_isWhite).request = requestLine? a.request := by
  rw [requestLine?_request, requestLine?_request]
  exact congrArg (fun p => some (a.method, p)) (normalizePath_append h a.path)

end Addressed

end QueryGate.Http
