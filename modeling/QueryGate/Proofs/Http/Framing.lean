import QueryGate.Proofs.Decimal.Natural
import QueryGate.Proofs.Http.RequestLine
import QueryGate.Proofs.Text.Letters

/-!
# Where bodies begin and how long they are

A response whose reason and type of content are on one line can be cut where its reader cuts it
(`Response.exists_framed`) : the first empty line stands in front of the body, whatever the body
holds, and the first header that states a length states that of the body in bytes.
-/

namespace QueryGate

open Text

namespace Text

variable {s t u : List Char} {c : Char}

theorem utf8ByteSize_ofList (s : List Char) : (String.ofList s).utf8ByteSize = byteLength s := by
  induction s with
  | nil => rfl
  | cons c s ih =>
    have hcons : String.ofList (c :: s) = String.singleton c ++ String.ofList s := by
      rw [String.singleton_eq_ofList, ← String.ofList_append, List.singleton_append]
    rw [hcons, String.utf8ByteSize_append, String.utf8ByteSize_singleton, ih, byteLength_cons]

theorem byteLength_toList (s : String) : byteLength s.toList = s.utf8ByteSize := by
  rw [← utf8ByteSize_ofList, String.ofList_toList]

theorem forall_bne_of_notMem (hs : c ∉ s) : ∀ d ∈ s, (d != c) = true := fun _ hd =>
  bne_iff_ne.mpr fun h => hs (h ▸ hd)

theorem splitFirst?_append (hs : c ∉ s) (t : List Char) :
    splitFirst? c (s ++ c :: t) = some (s, t) := by
  have hstop : ∀ d ∈ (c :: t).head?, (d != c) = false := by simp
  rw [splitFirst?, dropWhile_append_stop (forall_bne_of_notMem hs) hstop,
    takeWhile_append_stop (forall_bne_of_notMem hs) hstop]

/-- What stands in front of a separator begins as the text does. -/
theorem exists_eq_append_of_splitFirst? (hs : c ∉ s) {a b : List Char}
    (h : splitFirst? c (s ++ t) = some (a, b)) : ∃ u, a = s ++ u := by
  rw [splitFirst?] at h
  split at h
  · cases h
  · rw [List.takeWhile_append_of_pos (forall_bne_of_notMem hs)] at h
    exact ⟨_, (congrArg Prod.fst (Option.some.inj h)).symm⟩

/-- What begins and ends without white space still begins a text that is trimmed. -/
theorem isPrefix_trim (hhead : ∀ c ∈ s.head?, isWhite c = false)
    (hlast : ∀ c ∈ s.getLast?, isWhite c = false) (hne : s ≠ []) (t : List Char) :
    s <+: trim (s ++ t) := by
  have hstart : trimStart (s ++ t) = s ++ t := by
    rw [trimStart_eq_self_iff, List.head?_append_of_ne_nil _ hne]
    exact hhead
  obtain ⟨u, hu, -⟩ := exists_dropEndWhile_append_eq hlast t
  rw [trim, hstart]
  exact ⟨u, hu.symm⟩

theorem lower_isPrefix_of_sameLetters (hs : s <+: t) (h : sameLetters t u = true) :
    lower s <+: lower u := by
  rw [← beq_iff_eq.mp h]
  exact hs.map Char.toLower

/-- A line that is ended by a carriage return and a line feed is the first one. -/
theorem lines_append (hs : '\n' ∉ s) (t : List Char) :
    lines (s ++ '\r' :: '\n' :: t) = s :: lines t := by
  have hreturn : '\n' ∉ s ++ ['\r'] := by simpa using hs
  have hpieces : splitAt '\n' (s ++ '\r' :: '\n' :: t) = (s ++ ['\r']) :: splitAt '\n' t := by
    rw [← splitAt_append hreturn, List.append_assoc]
    rfl
  have hne := splitAt_ne_nil '\n' t
  have hdrop : dropReturn (s ++ ['\r']) = s := by simp [dropReturn]
  rw [lines, hpieces, List.dropLast_cons_of_ne_nil hne, List.getLast?_cons_of_ne_nil hne,
    List.map_cons, hdrop, List.cons_append]
  rfl

end Text

namespace Http

variable {s t text line name value part head rest : List Char} {ls before after : List (List Char)}
  {n : Nat}

/-! ## First places -/

/-- A part stands between two others in a text, and nowhere further ahead. -/
structure FirstAt (part text head rest : List Char) : Prop where
  eq_append : text = head ++ part ++ rest
  length_le : ∀ u v, text = u ++ part ++ v → head.length ≤ u.length

theorem behind?_eq_some_iff (hne : part ≠ []) :
    behind? part s = some rest ↔ ∃ head, FirstAt part s head rest := by
  induction s with
  | nil =>
    rw [behind?, if_neg (by simpa using hne)]
    refine iff_of_false (Option.some_ne_none rest).symm ?_
    rintro ⟨head, heq, -⟩
    simp_all
  | cons c s ih =>
    rw [behind?]
    split_ifs with hprefix
    · obtain ⟨t, ht⟩ := List.isPrefixOf_iff_prefix.mp hprefix
      rw [← ht, List.drop_left, Option.some_inj]
      constructor
      · rintro rfl
        exact ⟨[], rfl, fun _ _ _ => Nat.zero_le _⟩
      · rintro ⟨head, heq, hfirst⟩
        obtain rfl := List.eq_nil_of_length_eq_zero (Nat.le_zero.mp (hfirst [] t rfl))
        exact List.append_cancel_left heq
    · -- the part begins behind the first character
      have hcons : ∀ {u v}, c :: s = u ++ part ++ v → ∃ u', u = c :: u' ∧ s = u' ++ part ++ v := by
        intro u v heq
        cases u with
        | nil => exact absurd (List.isPrefixOf_iff_prefix.mpr ⟨v, heq.symm⟩) hprefix
        | cons d u =>
          obtain ⟨rfl, hs⟩ := List.cons.inj heq
          exact ⟨u, rfl, hs⟩
      rw [ih]
      constructor
      · rintro ⟨head, rfl, hfirst⟩
        refine ⟨c :: head, rfl, fun u v heq => ?_⟩
        obtain ⟨u, rfl, hs⟩ := hcons heq
        exact Nat.succ_le_succ (hfirst u v hs)
      · rintro ⟨head, heq, hfirst⟩
        obtain ⟨head, rfl, hs⟩ := hcons heq
        exact ⟨head, hs, fun u v h =>
          Nat.le_of_succ_le_succ (hfirst (c :: u) v (congrArg (List.cons c) h))⟩

theorem FirstAt.headOf?_eq (h : FirstAt (lineEnd ++ lineEnd) text head rest) :
    headOf? text = some head := by
  have hbehind : behind? (lineEnd ++ lineEnd) text = some rest :=
    (behind?_eq_some_iff (by decide)).mpr ⟨head, h⟩
  have hlength : text.length - rest.length - 4 = head.length := by
    rw [h.eq_append]
    simp only [List.length_append, lineEnd, List.length_cons, List.length_nil]
    omega
  rw [headOf?, hbehind, Option.map_some, hlength, h.eq_append, List.append_assoc, List.take_left]

/-! ## Lines of a head -/

/-- The text is not empty and ends no line. -/
structure IsLine (s : List Char) : Prop where
  ne_nil : s ≠ []
  return_notMem : '\r' ∉ s
  newline_notMem : '\n' ∉ s

theorem IsLine.append (hs : IsLine s) (hreturn : '\r' ∉ t) (hnewline : '\n' ∉ t) :
    IsLine (s ++ t) where
  ne_nil := List.append_ne_nil_of_left_ne_nil hs.ne_nil t
  return_notMem h := (List.mem_append.mp h).elim hs.return_notMem hreturn
  newline_notMem h := (List.mem_append.mp h).elim hs.newline_notMem hnewline

instance (s : List Char) : Decidable (IsLine s) :=
  decidable_of_iff (s ≠ [] ∧ '\r' ∉ s ∧ '\n' ∉ s)
    ⟨fun h => ⟨h.1, h.2.1, h.2.2⟩, fun h => ⟨h.ne_nil, h.return_notMem, h.newline_notMem⟩⟩

theorem IsLine.getLast?_ne (hs : IsLine s) : s.getLast? ≠ some '\r' := fun h =>
  hs.return_notMem (List.mem_of_getLast? h)

theorem lines_flatMap (hls : ∀ l ∈ ls, IsLine l) (t : List Char) :
    lines (ls.flatMap (· ++ lineEnd) ++ t) = ls ++ lines t := by
  induction ls with
  | nil => rfl
  | cons l ls ih =>
    rw [List.forall_mem_cons] at hls
    rw [List.flatMap_cons, List.append_assoc, List.append_assoc, lineEnd, List.cons_append,
      List.singleton_append, lines_append hls.1.newline_notMem, ← lineEnd, ih hls.2,
      List.cons_append]

/-- The end of one line is no empty line. -/
theorem behind?_lineEnd (ht : t.head? ≠ some '\r') :
    behind? (lineEnd ++ lineEnd) (lineEnd ++ t) = behind? (lineEnd ++ lineEnd) t := by
  cases t with
  | nil => rfl
  | cons c t =>
    have hc : '\r' ≠ c := fun h => ht (by rw [h]; rfl)
    simp [lineEnd, behind?, List.isPrefixOf, hc]

theorem behind?_flatMap (hls : ∀ l ∈ ls, IsLine l) (ht : t.head? ≠ some '\r') :
    behind? (lineEnd ++ lineEnd) (ls.flatMap (· ++ lineEnd) ++ t) =
      behind? (lineEnd ++ lineEnd) t := by
  induction ls with
  | nil => rfl
  | cons l ls ih =>
    rw [List.forall_mem_cons] at hls
    have hnext : (ls.flatMap (· ++ lineEnd) ++ t).head? ≠ some '\r' := by
      cases ls with
      | nil => exact ht
      | cons l' ls =>
        have hl' := hls.2 l' (List.mem_cons_self ..)
        rw [List.flatMap_cons, List.append_assoc, List.append_assoc,
          List.head?_append_of_ne_nil _ hl'.ne_nil]
        exact fun h => hl'.return_notMem (List.mem_of_mem_head? h)
    rw [List.flatMap_cons, List.append_assoc, List.append_assoc,
      behind?_append hls.1.newline_notMem hls.1.getLast?_ne, behind?_lineEnd hnext, ih hls.2]

/-! ## Lengths that are stated -/

/-- Whether a line is a header that states a length. -/
def StatesLength (line : List Char) : Prop :=
  ∃ h ∈ splitFirst? ':' line, sameLetters (trim h.1) contentLengthName = true

/-- The first line that states a length is the one that counts. -/
theorem contentLength_of_lines (hlines : lines text = before ++ line :: after)
    (hbefore : ∀ l ∈ before, ¬StatesLength l) (hline : splitFirst? ':' line = some (name, value))
    (hname : sameLetters (trim name) contentLengthName = true)
    (hvalue : (Decimal.readNatural Decimal.maxWord (trim value)).toOption = some n) :
    contentLength text = n := by
  have hnone : (before.filterMap (splitFirst? ':')).find?
      (fun h => sameLetters (trim h.1) contentLengthName) = none := by
    rw [List.find?_eq_none]
    intro h hh hsame
    obtain ⟨l, hl, hsplit⟩ := List.mem_filterMap.mp hh
    exact hbefore l hl ⟨h, hsplit, hsame⟩
  have hfirst : ((name, value) :: after.filterMap (splitFirst? ':')).find?
      (fun h => sameLetters (trim h.1) contentLengthName) = some (name, value) :=
    List.find?_cons_of_pos hname
  rw [contentLength, hlines, List.filterMap_append, List.filterMap_cons_some hline,
    List.find?_append, hnone, Option.none_or, hfirst, Option.bind_some, hvalue, Option.getD_some]

/-- No name that begins like this is that of a header that states a length. -/
def BeginsOther (s : List Char) : Prop :=
  s ≠ [] ∧ s.all (fun c => c != ':' && !isWhite c) = true ∧ ¬lower s <+: lower contentLengthName

instance (s : List Char) : Decidable (BeginsOther s) :=
  inferInstanceAs (Decidable (s ≠ [] ∧ s.all (fun c => c != ':' && !isWhite c) = true ∧
    ¬lower s <+: lower contentLengthName))

theorem BeginsOther.not_statesLength (hs : BeginsOther s) (hline : s <+: line) :
    ¬StatesLength line := by
  obtain ⟨hne, hall, hname⟩ := hs
  have hlead : ∀ c ∈ s, c ≠ ':' ∧ isWhite c = false := by simpa using hall
  obtain ⟨t, rfl⟩ := hline
  rintro ⟨⟨key, value⟩, hsplit, hsame⟩
  obtain ⟨u, rfl⟩ := exists_eq_append_of_splitFirst? (fun h => (hlead _ h).1 rfl) hsplit
  have hprefix : s <+: trim (s ++ u) := isPrefix_trim
    (fun c hc => (hlead c (List.mem_of_mem_head? hc)).2)
    (fun c hc => (hlead c (List.mem_of_mem_getLast? hc)).2) hne u
  exact hname (lower_isPrefix_of_sameLetters hprefix hsame)

/-! ## Responses -/

theorem not_isWhite_of_mem_toDigits {c : Char} (h : c ∈ Nat.toDigits 10 n) : isWhite c = false :=
  Statement.not_isWhite_of_isIdentChar
    (Statement.isIdentChar_of_isUpper_or_isDigit (Or.inr (Or.inl (isDigit_of_mem_toDigits h))))

theorem notMem_toDigits {c : Char} (hc : isWhite c = true) : c ∉ Nat.toDigits 10 n := fun h => by
  rw [not_isWhite_of_mem_toDigits h] at hc
  cases hc

namespace Response

variable {r : Response}

/-- The lines in front of the one that states the length. -/
def opening (r : Response) : List (List Char) :=
  ["HTTP/1.1 ".toList ++ Nat.toDigits 10 r.status ++ " ".toList ++ r.reason.toList,
    "Content-Type: ".toList ++ r.contentType.toList,
    "Access-Control-Allow-Origin: *".toList,
    "Access-Control-Allow-Methods: GET, POST, OPTIONS".toList,
    "Access-Control-Allow-Headers: Content-Type".toList]

/-- The line that states the length. -/
def lengthLine (r : Response) : List Char :=
  "Content-Length".toList ++ ':' :: ' ' :: Nat.toDigits 10 (byteLength r.body.toList)

/-- The line behind the one that states the length. -/
def closing : List Char := "Connection: close".toList

theorem map_toList_head (r : Response) :
    (Response.head r).map String.toList = r.opening ++ [r.lengthLine, closing] := by
  have hstatus : s!"HTTP/1.1 {r.status} {r.reason}".toList =
      "HTTP/1.1 ".toList ++ Nat.toDigits 10 r.status ++ " ".toList ++ r.reason.toList := by
    simp only [String.toList_append, Nat.toString_eq_repr, Nat.toList_repr]
    rfl
  have hlength : s!"Content-Length: {byteLength r.body.toList}".toList = r.lengthLine := by
    simp only [String.toList_append, Nat.toString_eq_repr, Nat.toList_repr]
    rfl
  rw [Response.head, List.map_cons, hstatus]
  simp only [List.map_cons, List.map_nil, hlength, String.toList_append]
  rfl

/-- What stands in front of the empty line. -/
def front (r : Response) : List Char :=
  (r.opening ++ [r.lengthLine]).flatMap (· ++ lineEnd) ++ closing

theorem text_eq (r : Response) :
    r.text = r.front ++ (lineEnd ++ lineEnd) ++ r.body.toList := by
  have hlines : r.head.flatMap (fun line => line.toList ++ lineEnd) =
      (r.opening ++ [r.lengthLine, closing]).flatMap (· ++ lineEnd) := by
    rw [← map_toList_head, List.flatMap_map]
  have hsplit : r.opening ++ [r.lengthLine, closing] =
      r.opening ++ [r.lengthLine] ++ [closing] := by simp
  rw [text, hlines, hsplit, List.flatMap_append, List.flatMap_singleton, front]
  simp only [List.append_assoc]

theorem isLine_lengthLine (r : Response) : IsLine r.lengthLine := by
  have hname : IsLine ("Content-Length".toList ++ [':', ' ']) := by decide
  have hline := hname.append (notMem_toDigits (n := byteLength r.body.toList) (by decide))
    (notMem_toDigits (by decide))
  rwa [List.append_assoc] at hline

theorem isLine_opening (hreason : '\r' ∉ r.reason.toList ∧ '\n' ∉ r.reason.toList)
    (htype : '\r' ∉ r.contentType.toList ∧ '\n' ∉ r.contentType.toList) :
    ∀ l ∈ r.opening, IsLine l := by
  have hversion : IsLine "HTTP/1.1 ".toList := by decide
  have hstatus : IsLine ("HTTP/1.1 ".toList ++ Nat.toDigits 10 r.status ++ " ".toList) :=
    (hversion.append (notMem_toDigits (by decide)) (notMem_toDigits (by decide))).append
      (by decide) (by decide)
  have hname : IsLine "Content-Type: ".toList := by decide
  simp only [opening, List.forall_mem_cons]
  exact ⟨hstatus.append hreason.1 hreason.2, hname.append htype.1 htype.2, by decide, by decide,
    by decide, List.forall_mem_nil _⟩

theorem not_statesLength_of_mem_opening : ∀ l ∈ r.opening, ¬StatesLength l := by
  have hversion : BeginsOther "HTTP/1.1".toList := by decide
  have htype : BeginsOther "Content-Type".toList := by decide
  have haccess : BeginsOther "Access".toList := by decide
  have hversionLine : "HTTP/1.1".toList <+: "HTTP/1.1 ".toList := by decide
  have htypeLine : "Content-Type".toList <+: "Content-Type: ".toList := by decide
  simp only [opening, List.forall_mem_cons]
  refine ⟨hversion.not_statesLength ?_, htype.not_statesLength ?_,
    haccess.not_statesLength (by decide), haccess.not_statesLength (by decide),
    haccess.not_statesLength (by decide), List.forall_mem_nil _⟩
  · rw [List.append_assoc, List.append_assoc]
    exact hversionLine.trans (List.prefix_append ..)
  · exact htypeLine.trans (List.prefix_append ..)

/-- Whatever follows the line that states the length, it is the one that counts. -/
theorem contentLength_append (hlines : ∀ l ∈ r.opening, IsLine l)
    (hsize : byteLength r.body.toList ≤ Decimal.maxWord) (t : List Char) :
    contentLength ((r.opening ++ [r.lengthLine]).flatMap (· ++ lineEnd) ++ t) =
      byteLength r.body.toList := by
  have hall : ∀ l ∈ r.opening ++ [r.lengthLine], IsLine l :=
    List.forall_mem_append.mpr ⟨hlines, List.forall_mem_singleton.mpr r.isLine_lengthLine⟩
  have hsplit : splitFirst? ':' r.lengthLine =
      some ("Content-Length".toList, ' ' :: Nat.toDigits 10 (byteLength r.body.toList)) :=
    splitFirst?_append (s := "Content-Length".toList) (by decide) _
  have htrim : trim (' ' :: Nat.toDigits 10 (byteLength r.body.toList)) =
      Nat.toDigits 10 (byteLength r.body.toList) := by
    have hblank := trim_append_append (s := [' ']) (u := [])
      (t := Nat.toDigits 10 (byteLength r.body.toList))
      (List.forall_mem_singleton.mpr (by decide)) (List.forall_mem_nil _)
    rw [List.append_nil, List.singleton_append] at hblank
    rw [hblank]
    exact trim_eq_self (fun c hc => not_isWhite_of_mem_toDigits (List.mem_of_mem_head? hc))
      fun c hc => not_isWhite_of_mem_toDigits (List.mem_of_mem_getLast? hc)
  have hfound : lines ((r.opening ++ [r.lengthLine]).flatMap (· ++ lineEnd) ++ t) =
      r.opening ++ r.lengthLine :: lines t := by
    rw [lines_flatMap hall, List.append_assoc, List.singleton_append]
  refine contentLength_of_lines hfound not_statesLength_of_mem_opening hsplit (by decide) ?_
  rw [htrim]
  exact Decimal.toOption_readNatural_toDigits hsize

theorem firstAt_text (hlines : ∀ l ∈ r.opening, IsLine l) :
    FirstAt (lineEnd ++ lineEnd) r.text r.front r.body.toList := by
  have hall : ∀ l ∈ r.opening ++ [r.lengthLine], IsLine l :=
    List.forall_mem_append.mpr ⟨hlines, List.forall_mem_singleton.mpr r.isLine_lengthLine⟩
  have hclosing : IsLine closing := by decide
  have hnext : (closing ++ (lineEnd ++ lineEnd ++ r.body.toList)).head? ≠ some '\r' := by
    rw [List.head?_append_of_ne_nil _ hclosing.ne_nil]
    decide
  have hbehind : behind? (lineEnd ++ lineEnd) r.text = some r.body.toList := by
    rw [text_eq, front, List.append_assoc, List.append_assoc, behind?_flatMap hall hnext,
      behind?_append hclosing.newline_notMem hclosing.getLast?_ne]
    rfl
  obtain ⟨head, hfirst⟩ := (behind?_eq_some_iff (by decide)).mp hbehind
  have hhead : head = r.front := by
    have heq := hfirst.eq_append
    rw [text_eq] at heq
    exact (List.append_cancel_right (List.append_cancel_right heq)).symm
  exact hhead ▸ hfirst

/-- A response whose reason and type of content end no line is cut into its head and its body where
the first empty line stands, and both in the head and in the whole text the length of the body in
UTF-8 is found. The body is a text that a machine can hold : its bytes are counted in 64 bits. -/
theorem exists_framed (hreason : '\r' ∉ r.reason.toList ∧ '\n' ∉ r.reason.toList)
    (htype : '\r' ∉ r.contentType.toList ∧ '\n' ∉ r.contentType.toList)
    (hsize : r.body.utf8ByteSize ≤ Decimal.maxWord) :
    ∃ head, FirstAt (lineEnd ++ lineEnd) r.text head r.body.toList ∧
      headOf? r.text = some head ∧
      behind? (lineEnd ++ lineEnd) r.text = some r.body.toList ∧
      contentLength head = r.body.utf8ByteSize ∧ contentLength r.text = r.body.utf8ByteSize := by
  have hlines := isLine_opening hreason htype
  have hfirst := firstAt_text hlines
  rw [← byteLength_toList] at hsize ⊢
  refine ⟨r.front, hfirst, hfirst.headOf?_eq,
    (behind?_eq_some_iff (by decide)).mpr ⟨r.front, hfirst⟩,
    contentLength_append hlines hsize _, ?_⟩
  rw [text_eq, front, List.append_assoc, List.append_assoc]
  exact contentLength_append hlines hsize _

/-- A response whose reason, type of content and body all look like headers. -/
def deceptive : Response where
  status := 422
  reason := "Content-Length: 1"
  contentType := "text/plain; Content-Length: 2"
  body := "é\r\n\r\nContent-Length: 3\r\n\r\n"

theorem exists_framed_deceptive :
    ('\r' ∉ deceptive.reason.toList ∧ '\n' ∉ deceptive.reason.toList) ∧
    ('\r' ∉ deceptive.contentType.toList ∧ '\n' ∉ deceptive.contentType.toList) ∧
    deceptive.body.utf8ByteSize ≤ Decimal.maxWord ∧
    behind? (lineEnd ++ lineEnd) deceptive.text = some deceptive.body.toList ∧
    contentLength deceptive.text = 27 := by
  have hreason : '\r' ∉ deceptive.reason.toList ∧ '\n' ∉ deceptive.reason.toList := by decide
  have htype : '\r' ∉ deceptive.contentType.toList ∧ '\n' ∉ deceptive.contentType.toList := by
    decide
  have hbytes : deceptive.body.utf8ByteSize = 27 := by decide
  have hsize : deceptive.body.utf8ByteSize ≤ Decimal.maxWord := by
    rw [hbytes]
    decide
  obtain ⟨head, -, -, hbody, -, hlength⟩ := exists_framed hreason htype hsize
  exact ⟨hreason, htype, hsize, hbody, hlength.trans hbytes⟩

end Response

end Http

end QueryGate
