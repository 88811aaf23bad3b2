import QueryGate.Proofs.Statement.Comments

/-!
# Segments of a text

A text is cut from the left into quoted parts, comments and single characters (`segments`), each
part of its own kind by the mark that ends it. A part that nothing ends is open and runs to the end
of the text.

* `flatMap_text_segments` : cutting loses nothing;
* `segments_append` : behind a text that ends outside quotes and comments a text is cut as it is cut
  alone;
* `segments_withoutComments` : without its comments a text is cut at the same places, and a space
  stands where a block comment stood.
-/

namespace QueryGate.Statement

open Text

variable {s t body rest : List Char} {mark c : Char}

/-- A part of a text. -/
inductive Segment where
  /-- What stands behind a quote mark, up to the next one of its kind. -/
  | quoted (mark : Char) (body : List Char) (closed : Bool)
  /-- What stands behind two hyphens, up to the end of the line. -/
  | lineComment (body : List Char) (closed : Bool)
  /-- What stands behind a slash and a star, up to the next star and slash. -/
  | blockComment (body : List Char) (closed : Bool)
  /-- A character of its own. -/
  | plain (c : Char)
  deriving DecidableEq, Repr

namespace Segment

/-- Whether what ends a part is there; the end of a line belongs to no comment. -/
def isClosed : Segment → Bool
  | quoted _ _ closed | lineComment _ closed | blockComment _ closed => closed
  | plain _ => true

/-- Whether it stands between quotes. -/
def isQuoted : Segment → Bool
  | quoted .. => true
  | _ => false

/-- The characters of a part, with what begins and ends it. -/
def text : Segment → List Char
  | quoted mark body closed => mark :: body ++ if closed then [mark] else []
  | lineComment body _ => lineOpener ++ body
  | blockComment body closed => blockOpener ++ body ++ if closed then ['*', '/'] else []
  | plain c => [c]

/-- What is left of a part if comments are taken away. -/
def left : Segment → List Segment
  | lineComment .. => []
  | blockComment .. => [plain ' ']
  | g => [g]

end Segment

/-! ## Where parts end -/

/-- What stands in front of the mark that closes quotes, and what stands behind it. A backslash
takes the next character along. -/
def splitQuoted (mark : Char) : List Char → List Char × Option (List Char)
  | [] => ([], none)
  | '\\' :: c :: s => ('\\' :: c :: (splitQuoted mark s).1, (splitQuoted mark s).2)
  | c :: s =>
    if c == mark then ([], some s) else (c :: (splitQuoted mark s).1, (splitQuoted mark s).2)

/-- What stands in front of the end of a line, and the rest from there on. -/
def splitLine : List Char → List Char × Option (List Char)
  | [] => ([], none)
  | c :: s => if c == '\n' then ([], some (c :: s)) else (c :: (splitLine s).1, (splitLine s).2)

/-- What stands in front of the first star and slash, and what stands behind them. -/
def splitBlock : List Char → List Char × Option (List Char)
  | [] => ([], none)
  | '*' :: '/' :: s => ([], some s)
  | c :: s => (c :: (splitBlock s).1, (splitBlock s).2)

theorem splitQuoted_cons (hescape : c ≠ '\\') : splitQuoted mark (c :: s) =
    if c == mark then ([], some s)
    else (c :: (splitQuoted mark s).1, (splitQuoted mark s).2) := by
  rw [splitQuoted]
  exact fun _ _ hc => absurd hc hescape

theorem splitBlock_cons (h : c = '*' → '/' ∉ s.head?) :
    splitBlock (c :: s) = (c :: (splitBlock s).1, (splitBlock s).2) := by
  rw [splitBlock]
  rintro s rfl rfl
  exact h rfl rfl

/-- What stands between quotes that are closed. -/
def IsQuotedBody (mark : Char) (body : List Char) : Prop :=
  ∀ t, splitQuoted mark (body ++ mark :: t) = (body, some t)

/-- What stands behind two hyphens on a line that ends. -/
def IsLineBody (body : List Char) : Prop :=
  ∀ t, splitLine (body ++ '\n' :: t) = (body, some ('\n' :: t))

/-- What stands in a block comment that is closed. -/
def IsBlockBody (body : List Char) : Prop :=
  ∀ t, splitBlock (body ++ '*' :: '/' :: t) = (body, some t)

theorem splitQuoted_cases (hmark : mark ≠ '\\') (s : List Char) :
    (∃ body rest, splitQuoted mark s = (body, some rest) ∧ s = body ++ mark :: rest ∧
      IsQuotedBody mark body) ∨ splitQuoted mark s = (s, none) := by
  fun_induction splitQuoted mark s with
  | case1 => exact Or.inr rfl
  | case2 c s ih =>
    rcases ih with ⟨body, rest, h, rfl, hbody⟩ | h
    · refine Or.inl ⟨'\\' :: c :: body, rest, by rw [h], rfl, fun t => ?_⟩
      rw [List.cons_append, List.cons_append, splitQuoted, hbody]
    · exact Or.inr (by rw [h])
  | case3 c s hescape hc =>
    obtain rfl := beq_iff_eq.mp hc
    refine Or.inl ⟨[], s, rfl, rfl, fun t => ?_⟩
    rw [List.nil_append, splitQuoted_cons hmark, if_pos hc]
  | case4 c s hescape hc ih =>
    rcases ih with ⟨body, rest, h, rfl, hbody⟩ | h
    · obtain ⟨d, tail, hcons⟩ := List.exists_cons_of_ne_nil (l := body ++ mark :: rest) (by simp)
      have hplain : c ≠ '\\' := fun hc => hescape d tail hc hcons
      refine Or.inl ⟨c :: body, rest, by rw [h], rfl, fun t => ?_⟩
      rw [List.cons_append, splitQuoted_cons hplain, if_neg hc, hbody]
    · exact Or.inr (by rw [h])

theorem splitLine_cases (s : List Char) :
    (∃ body rest, splitLine s = (body, some ('\n' :: rest)) ∧ s = body ++ '\n' :: rest ∧
      IsLineBody body) ∨ splitLine s = (s, none) := by
  fun_induction splitLine s with
  | case1 => exact Or.inr rfl
  | case2 c s hc =>
    obtain rfl := beq_iff_eq.mp hc
    exact Or.inl ⟨[], s, rfl, rfl, fun t => rfl⟩
  | case3 c s hc ih =>
    rcases ih with ⟨body, rest, h, rfl, hbody⟩ | h
    · refine Or.inl ⟨c :: body, rest, by rw [h], rfl, fun t => ?_⟩
      rw [List.cons_append, splitLine, if_neg hc, hbody]
    · exact Or.inr (by rw [h])

theorem splitBlock_cases (s : List Char) :
    (∃ body rest, splitBlock s = (body, some rest) ∧ s = body ++ '*' :: '/' :: rest ∧
      IsBlockBody body) ∨ splitBlock s = (s, none) := by
  fun_induction splitBlock s with
  | case1 => exact Or.inr rfl
  | case2 s => exact Or.inl ⟨[], s, rfl, rfl, fun t => rfl⟩
  | case3 c s hend ih =>
    rcases ih with ⟨body, rest, h, rfl, hbody⟩ | h
    · refine Or.inl ⟨c :: body, rest, by rw [h], rfl, fun t => ?_⟩
      rw [List.cons_append, splitBlock_cons ?_, hbody]
      rintro rfl hslash
      cases body with
      | nil => cases hslash
      | cons d body =>
        obtain rfl := Option.some.inj hslash
        exact hend _ rfl rfl
    · exact Or.inr (by rw [h])

theorem backslash_ne_of_isQuoteMark (h : isQuoteMark mark = true) : mark ≠ '\\' := by
  rintro rfl
  exact absurd h (by decide)

theorem length_splitQuoted_le (hmark : mark ≠ '\\') (s : List Char) :
    ((splitQuoted mark s).2.getD []).length ≤ s.length := by
  rcases splitQuoted_cases hmark s with ⟨body, rest, h, rfl, -⟩ | h
  · simp only [h, Option.getD_some, List.length_append, List.length_cons]
    omega
  · simp [h]

theorem length_splitLine_le (s : List Char) :
    ((splitLine s).2.getD []).length ≤ s.length := by
  rcases splitLine_cases s with ⟨body, rest, h, rfl, -⟩ | h
  · simp [h]
  · simp [h]

theorem length_splitBlock_le (s : List Char) :
    ((splitBlock s).2.getD []).length ≤ s.length := by
  rcases splitBlock_cases s with ⟨body, rest, h, rfl, -⟩ | h
  · simp only [h, Option.getD_some, List.length_append, List.length_cons]
    omega
  · simp [h]

/-! ## Cutting a text -/

/-- The parts of a text, in order. -/
def segments : List Char → List Segment
  | [] => []
  | '-' :: '-' :: s =>
    .lineComment (splitLine s).1 (splitLine s).2.isSome :: segments ((splitLine s).2.getD [])
  | '/' :: '*' :: s =>
    .blockComment (splitBlock s).1 (splitBlock s).2.isSome :: segments ((splitBlock s).2.getD [])
  | c :: s =>
    if isQuoteMark c then
      .quoted c (splitQuoted c s).1 (splitQuoted c s).2.isSome ::
        segments ((splitQuoted c s).2.getD [])
    else .plain c :: segments s
termination_by s => s.length
decreasing_by
  · have := length_splitLine_le s
    simp only [List.length_cons]
    omega
  · have := length_splitBlock_le s
    simp only [List.length_cons]
    omega
  · next hquote =>
    have := length_splitQuoted_le (backslash_ne_of_isQuoteMark hquote) s
    simp only [List.length_cons]
    omega
  · simp

/-! ### One part -/

@[simp] theorem segments_nil : segments [] = [] := by
  rw [segments]

theorem segments_plain (hc : isQuoteMark c = false) (hl : ¬lineOpener <+: c :: s)
    (hb : ¬blockOpener <+: c :: s) : segments (c :: s) = .plain c :: segments s := by
  rw [segments, if_neg (by simp [hc])]
  · rintro t rfl rfl
    exact hl ⟨t, rfl⟩
  · rintro t rfl rfl
    exact hb ⟨t, rfl⟩

theorem segments_quote (hmark : isQuoteMark mark = true) : segments (mark :: s) =
    .quoted mark (splitQuoted mark s).1 (splitQuoted mark s).2.isSome ::
      segments ((splitQuoted mark s).2.getD []) := by
  rw [segments, if_pos hmark]
  · rintro t rfl rfl
    cases hmark
  · rintro t rfl rfl
    cases hmark

theorem segments_quoted (hmark : isQuoteMark mark = true) (hbody : IsQuotedBody mark body)
    (s : List Char) :
    segments (mark :: (body ++ mark :: s)) = .quoted mark body true :: segments s := by
  rw [segments_quote hmark, hbody s]
  rfl

theorem segments_openQuoted (hmark : isQuoteMark mark = true)
    (hbody : splitQuoted mark body = (body, none)) :
    segments (mark :: body) = [.quoted mark body false] := by
  rw [segments_quote hmark, hbody]
  exact congrArg _ segments_nil

theorem segments_line (hbody : IsLineBody body) (s : List Char) :
    segments (lineOpener ++ (body ++ '\n' :: s)) =
      .lineComment body true :: segments ('\n' :: s) := by
  rw [lineOpener, List.cons_append, List.singleton_append, segments, hbody s]
  rfl

theorem segments_openLine (hbody : splitLine body = (body, none)) :
    segments (lineOpener ++ body) = [.lineComment body false] := by
  rw [lineOpener, List.cons_append, List.singleton_append, segments, hbody]
  exact congrArg _ segments_nil

theorem segments_block (hbody : IsBlockBody body) (s : List Char) :
    segments (blockOpener ++ (body ++ '*' :: '/' :: s)) =
      .blockComment body true :: segments s := by
  rw [blockOpener, List.cons_append, List.singleton_append, segments, hbody s]
  rfl

theorem segments_openBlock (hbody : splitBlock body = (body, none)) :
    segments (blockOpener ++ body) = [.blockComment body false] := by
  rw [blockOpener, List.cons_append, List.singleton_append, segments, hbody]
  exact congrArg _ segments_nil

/-- Induction along the parts of a text. -/
@[elab_as_elim]
theorem segments_induction {P : List Char → Prop} (s : List Char) (nil : P [])
    (plain : ∀ c s, isQuoteMark c = false → ¬lineOpener <+: c :: s → ¬blockOpener <+: c :: s →
      P s → P (c :: s))
    (quoted : ∀ mark body s, isQuoteMark mark = true → IsQuotedBody mark body → P s →
      P (mark :: (body ++ mark :: s)))
    (openQuoted : ∀ mark body, isQuoteMark mark = true → splitQuoted mark body = (body, none) →
      P (mark :: body))
    (line : ∀ body s, IsLineBody body → P ('\n' :: s) → P (lineOpener ++ (body ++ '\n' :: s)))
    (openLine : ∀ body, splitLine body = (body, none) → P (lineOpener ++ body))
    (block : ∀ body s, IsBlockBody body → P s → P (blockOpener ++ (body ++ '*' :: '/' :: s)))
    (openBlock : ∀ body, splitBlock body = (body, none) → P (blockOpener ++ body)) : P s := by
  fun_induction segments s with
  | case1 => exact nil
  | case2 s ih =>
    rcases splitLine_cases s with ⟨body, rest, h, rfl, hbody⟩ | h
    · rw [h] at ih
      exact line body rest hbody ih
    · exact openLine s h
  | case3 s ih =>
    rcases splitBlock_cases s with ⟨body, rest, h, rfl, hbody⟩ | h
    · rw [h] at ih
      exact block body rest hbody ih
    · exact openBlock s h
  | case4 c s hl hb hc ih =>
    rcases splitQuoted_cases (backslash_ne_of_isQuoteMark hc) s with ⟨body, rest, h, rfl, hbody⟩ | h
    · rw [h] at ih
      exact quoted c body rest hc hbody ih
    · exact openQuoted c s hc h
  | case5 c s hl hb hc ih =>
    refine plain c s (by simpa using hc) ?_ ?_ ih
    · rintro ⟨t, ht⟩
      obtain ⟨rfl, rfl⟩ := List.cons.inj ht
      exact hl t rfl rfl
    · rintro ⟨t, ht⟩
      obtain ⟨rfl, rfl⟩ := List.cons.inj ht
      exact hb t rfl rfl

/-- Cutting loses nothing. -/
theorem flatMap_text_segments (s : List Char) : (segments s).flatMap Segment.text = s := by
  induction s using segments_induction with
  | nil => simp
  | plain c s hc hl hb ih => simp [segments_plain hc hl hb, Segment.text, ih]
  | quoted mark body s hmark hbody ih => simp [segments_quoted hmark hbody, Segment.text, ih]
  | openQuoted mark body hmark hbody => simp [segments_openQuoted hmark hbody, Segment.text]
  | line body s hbody ih => simp [segments_line hbody, Segment.text, ih]
  | openLine body hbody => simp [segments_openLine hbody, Segment.text]
  | block body s hbody ih => simp [segments_block hbody, Segment.text, ih]
  | openBlock body hbody => simp [segments_openBlock hbody, Segment.text]

/-! ## Texts that end outside quotes and comments -/

/-- The text ends outside quotes and comments. -/
def EndsOutside (s : List Char) : Prop :=
  ∀ g ∈ (segments s).getLast?, g.isClosed = true

instance (s : List Char) : Decidable (EndsOutside s) :=
  inferInstanceAs (Decidable (∀ g ∈ (segments s).getLast?, g.isClosed = true))

/-- Behind an open part nothing stands. -/
theorem isClosed_of_mem_dropLast (s : List Char) :
    ∀ g ∈ (segments s).dropLast, g.isClosed = true := by
  have hcons : ∀ {g : Segment} {gs : List Segment}, g.isClosed = true →
      (∀ g ∈ gs.dropLast, g.isClosed = true) → ∀ g' ∈ (g :: gs).dropLast, g'.isClosed = true := by
    intro g gs hg hgs
    cases gs with
    | nil => simp
    | cons g' gs => exact List.forall_mem_cons.mpr ⟨hg, hgs⟩
  induction s using segments_induction with
  | nil => simp
  | plain c s hc hl hb ih =>
    rw [segments_plain hc hl hb]
    exact hcons rfl ih
  | quoted mark body s hmark hbody ih =>
    rw [segments_quoted hmark hbody]
    exact hcons rfl ih
  | openQuoted mark body hmark hbody => simp [segments_openQuoted hmark hbody]
  | line body s hbody ih =>
    rw [segments_line hbody]
    exact hcons rfl ih
  | openLine body hbody => simp [segments_openLine hbody]
  | block body s hbody ih =>
    rw [segments_block hbody]
    exact hcons rfl ih
  | openBlock body hbody => simp [segments_openBlock hbody]

theorem endsOutside_iff : EndsOutside s ↔ ∀ g ∈ segments s, g.isClosed = true := by
  constructor
  · intro h g hg
    rcases List.eq_nil_or_concat' (segments s) with hnil | ⟨gs, last, hgs⟩
    · rw [hnil] at hg
      cases hg
    · have hfront := isClosed_of_mem_dropLast s
      rw [EndsOutside, hgs, List.getLast?_concat] at h
      rw [hgs, List.dropLast_concat] at hfront
      rw [hgs, List.mem_append, List.mem_singleton] at hg
      rcases hg with hg | rfl
      · exact hfront g hg
      · exact h g rfl
  · exact fun h g hg => h g (List.mem_of_getLast? hg)

/-- No opener of a comment begins at the end of the one text and ends in the other. -/
def Apart (s t : List Char) : Prop :=
  ∀ a ∈ s.getLast?, ∀ b ∈ t.head?, [a, b] ∉ [lineOpener, blockOpener]

theorem Apart.of_cons (h : Apart (c :: s) t) : Apart s t := by
  intro a ha
  cases s with
  | nil => cases ha
  | cons d s => exact h a (by simpa [List.getLast?_cons_cons] using ha)

theorem Apart.of_append {u : List Char} (h : Apart (u ++ s) t) : Apart s t := by
  induction u with
  | nil => exact h
  | cons c u ih => exact ih h.of_cons

theorem Apart.not_isPrefix (h : Apart (c :: s) t) {opener : List Char}
    (hopener : opener ∈ [lineOpener, blockOpener]) (hs : ¬opener <+: c :: s) :
    ¬opener <+: c :: (s ++ t) := by
  obtain ⟨a, b, rfl, -⟩ := exists_eq_of_mem_openers hopener
  rw [pair_prefix_cons_iff] at hs ⊢
  rintro ⟨rfl, hb⟩
  cases s with
  | nil => exact h a rfl b hb hopener
  | cons d s => exact hs ⟨rfl, hb⟩

/-- Where a text ends outside quotes and comments, what stands behind it is cut on its own. -/
theorem segments_append (h : EndsOutside s) (hapart : Apart s t) :
    segments (s ++ t) = segments s ++ segments t := by
  rw [endsOutside_iff] at h
  induction s using segments_induction with
  | nil => rw [segments_nil, List.nil_append, List.nil_append]
  | plain c s hc hl hb ih =>
    rw [segments_plain hc hl hb, List.forall_mem_cons] at h
    rw [List.cons_append, segments_plain hc (hapart.not_isPrefix (by simp) hl)
      (hapart.not_isPrefix (by simp) hb), segments_plain hc hl hb, ih h.2 hapart.of_cons,
      List.cons_append]
  | quoted mark body s hmark hbody ih =>
    rw [segments_quoted hmark hbody, List.forall_mem_cons] at h
    have hs : Apart s t := Apart.of_append (u := mark :: body ++ [mark]) (by simpa using hapart)
    rw [List.cons_append, List.append_assoc, List.cons_append, segments_quoted hmark hbody,
      segments_quoted hmark hbody, ih h.2 hs, List.cons_append]
  | openQuoted mark body hmark hbody =>
    simp [segments_openQuoted hmark hbody, Segment.isClosed] at h
  | line body s hbody ih =>
    rw [segments_line hbody, List.forall_mem_cons] at h
    have hs : Apart ('\n' :: s) t :=
      Apart.of_append (u := lineOpener ++ body) (by simpa using hapart)
    rw [List.append_assoc, List.append_assoc, List.cons_append, segments_line hbody,
      segments_line hbody, ← List.cons_append, ih h.2 hs, List.cons_append]
  | openLine body hbody => simp [segments_openLine hbody, Segment.isClosed] at h
  | block body s hbody ih =>
    rw [segments_block hbody, List.forall_mem_cons] at h
    have hs : Apart s t :=
      Apart.of_append (u := blockOpener ++ body ++ ['*', '/']) (by simpa using hapart)
    rw [List.append_assoc, List.append_assoc, List.cons_append, List.cons_append,
      segments_block hbody, segments_block hbody, ih h.2 hs, List.cons_append]
  | openBlock body hbody => simp [segments_openBlock hbody, Segment.isClosed] at h

/-- Neither quotes nor comments begin with the character. -/
def OpensNothing (c : Char) : Prop :=
  isQuoteMark c = false ∧ c ≠ '-' ∧ c ≠ '/'

instance (c : Char) : Decidable (OpensNothing c) :=
  inferInstanceAs (Decidable (isQuoteMark c = false ∧ c ≠ '-' ∧ c ≠ '/'))

/-- A text of such characters is cut into characters, whatever stands behind it. -/
theorem segments_append_of_forall (hs : ∀ c ∈ s, OpensNothing c) :
    segments (s ++ t) = s.map .plain ++ segments t := by
  induction s with
  | nil => rfl
  | cons c s ih =>
    obtain ⟨⟨hquote, hhyphen, hslash⟩, hs⟩ := List.forall_mem_cons.mp hs
    rw [List.cons_append, segments_plain hquote, ih hs, List.map_cons, List.cons_append]
    · rw [lineOpener, pair_prefix_cons_iff]
      exact fun h => hhyphen h.1.symm
    · rw [blockOpener, pair_prefix_cons_iff]
      exact fun h => hslash h.1.symm

theorem segments_eq_map (hs : ∀ c ∈ s, OpensNothing c) :
    segments s = s.map .plain := by
  rw [← List.append_nil s, segments_append_of_forall hs, segments_nil, List.append_nil,
    List.append_nil]

/-! ## Taking comments away -/

theorem dropComments_text_cons_of_ne {q : Quote} (hq : q ≠ .outside) :
    dropComments (.text q) (c :: s) = c :: dropComments (.text (q.step c)) s :=
  dropComments_text_cons fun h => absurd h hq

theorem dropComments_inside (hmark : isQuoteMark mark = true) (s : List Char) :
    dropComments (.text (.inside mark)) s = (splitQuoted mark s).1 ++
      (splitQuoted mark s).2.elim [] fun rest => mark :: dropComments (.text .outside) rest := by
  fun_induction splitQuoted mark s with
  | case1 => simp [dropComments]
  | case2 c s ih =>
    have hescape : (Quote.inside mark).step '\\' = .escaped mark := rfl
    have hinside : (Quote.escaped mark).step c = .inside mark := rfl
    rw [dropComments_text_cons_of_ne (q := .inside mark) (by simp), hescape,
      dropComments_text_cons_of_ne (q := .escaped mark) (by simp), hinside, ih]
    rfl
  | case3 c s hescape hc =>
    obtain rfl := beq_iff_eq.mp hc
    have houtside : (Quote.inside c).step c = .outside := by
      simp [Quote.step, backslash_ne_of_isQuoteMark hmark]
    rw [dropComments_text_cons_of_ne (q := .inside c) (by simp), houtside]
    rfl
  | case4 c s hescape hc ih =>
    rw [dropComments_text_cons_of_ne (q := .inside mark) (by simp), Quote.step, if_neg hc]
    split_ifs with hback
    · -- a backslash at the end of the text takes nothing along
      obtain rfl : s = [] := by
        cases s with
        | nil => rfl
        | cons d s => exact (hescape d s (beq_iff_eq.mp hback) rfl).elim
      simp [dropComments, splitQuoted]
    · rw [ih, List.cons_append]

theorem dropComments_lineComment (s : List Char) : dropComments .lineComment s =
    (splitLine s).2.elim [] (dropComments (.text .outside)) := by
  fun_induction splitLine s with
  | case1 => simp [dropComments]
  | case2 c s hc =>
    obtain rfl := beq_iff_eq.mp hc
    simp [dropComments, Quote.step, isQuoteMark]
  | case3 c s hc ih => rw [dropComments, if_neg hc, ih]

theorem dropComments_blockComment (s : List Char) : dropComments (.blockComment false) s =
    (splitBlock s).2.elim [] (dropComments (.text .outside)) := by
  fun_induction splitBlock s with
  | case1 => simp [dropComments]
  | case2 s => simp [dropComments]
  | case3 c s hend ih =>
    have hstar : c = '*' → dropComments (.blockComment true) s =
        dropComments (.blockComment false) s := by
      rintro rfl
      cases s with
      | nil => simp [dropComments]
      | cons d s =>
        have hd : d ≠ '/' := by
          rintro rfl
          exact hend s rfl rfl
        simp [dropComments, hd]
    rw [dropComments, if_neg (by simp), ← ih]
    by_cases hc : c = '*'
    · rw [beq_iff_eq.mpr hc, hstar hc]
    · rw [beq_eq_false_iff_ne.mpr hc]

theorem dropComments_quote (hmark : isQuoteMark mark = true) (s : List Char) :
    dropComments (.text .outside) (mark :: s) =
      mark :: ((splitQuoted mark s).1 ++
        (splitQuoted mark s).2.elim [] fun rest => mark :: dropComments (.text .outside) rest) := by
  have hinside : Quote.outside.step mark = .inside mark := if_pos hmark
  rw [dropComments_text_cons, hinside, dropComments_inside hmark]
  refine fun _ => ⟨?_, ?_⟩
  · rw [lineOpener, pair_prefix_cons_iff]
    rintro ⟨rfl, -⟩
    cases hmark
  · rw [blockOpener, pair_prefix_cons_iff]
    rintro ⟨rfl, -⟩
    cases hmark

theorem dropComments_line (s : List Char) : dropComments (.text .outside) (lineOpener ++ s) =
    (splitLine s).2.elim [] (dropComments (.text .outside)) := by
  rw [lineOpener, List.cons_append, List.singleton_append, dropComments, dropComments_lineComment]

theorem dropComments_block (s : List Char) : dropComments (.text .outside) (blockOpener ++ s) =
    ' ' :: (splitBlock s).2.elim [] (dropComments (.text .outside)) := by
  rw [blockOpener, List.cons_append, List.singleton_append, dropComments,
    dropComments_blockComment]

theorem segments_space (s : List Char) : segments (' ' :: s) = .plain ' ' :: segments s :=
  segments_append_of_forall (s := [' ']) (List.forall_mem_singleton.mpr (by decide))

/-- What is left of a text without its comments is cut where the text was cut. -/
theorem segments_withoutComments (s : List Char) :
    segments (withoutComments s) = (segments s).flatMap Segment.left := by
  rw [withoutComments_eq_dropComments]
  induction s using segments_induction with
  | nil => simp [dropComments]
  | plain c s hc hl hb ih =>
    have hcons : dropComments (.text .outside) (c :: s) =
        c :: dropComments (.text .outside) s := by
      rw [dropComments_text_cons fun _ => ⟨hl, hb⟩, Quote.step_outside_of_not_isQuoteMark hc]
    -- the character does not open a comment with what is left behind it
    have hopener : ∀ opener ∈ [lineOpener, blockOpener],
        ¬opener <+: c :: dropComments (.text .outside) s := by
      intro opener hopener hprefix
      refine not_occursFrom_dropComments hopener (.text .outside) (c :: s) ?_
      rw [hcons]
      exact occursFrom_cons.mpr (Or.inl ⟨rfl, hprefix⟩)
    rw [hcons, segments_plain hc (hopener _ (by simp)) (hopener _ (by simp)), ih,
      segments_plain hc hl hb]
    rfl
  | quoted mark body s hmark hbody ih =>
    rw [dropComments_quote hmark, hbody s, segments_quoted hmark hbody]
    exact (segments_quoted hmark hbody _).trans (congrArg _ ih)
  | openQuoted mark body hmark hbody =>
    rw [dropComments_quote hmark, hbody, segments_openQuoted hmark hbody]
    exact (congrArg (fun s => segments (mark :: s)) (List.append_nil body)).trans
      (segments_openQuoted hmark hbody)
  | line body s hbody ih =>
    rw [dropComments_line, hbody s, segments_line hbody]
    exact ih
  | openLine body hbody =>
    rw [dropComments_line, hbody, segments_openLine hbody]
    exact segments_nil
  | block body s hbody ih =>
    rw [dropComments_block, hbody s, segments_block hbody, segments_space]
    exact congrArg _ ih
  | openBlock body hbody =>
    rw [dropComments_block, hbody, segments_openBlock hbody, segments_space]
    exact congrArg _ segments_nil

/-- Taking comments away keeps all other parts, and puts a space for each block comment. -/
theorem withoutComments_eq_flatMap (s : List Char) :
    withoutComments s = ((segments s).flatMap Segment.left).flatMap Segment.text := by
  rw [← segments_withoutComments, flatMap_text_segments]

theorem withoutComments_append (h : EndsOutside s) (hapart : Apart s t) :
    withoutComments (s ++ t) = withoutComments s ++ withoutComments t := by
  simp only [withoutComments_eq_flatMap, segments_append h hapart, List.flatMap_append]

end QueryGate.Statement
