import Mathlib.Tactic.IntervalCases
import Mathlib.Tactic.SplitIfs
import QueryGate.Json.Reader
import QueryGate.Json.Writer
import QueryGate.Proofs.Text.Readers

/-!
# Values that are written and read

A value that does not nest too deep and has integers of 64 bits for its numbers (`IsPlain`) is read
back from its text, whatever ends the value behind it (`readAt_write`, `read?_write`). Its text is
one line : characters below U+0020 are escaped (`toNat_of_mem_write`).
-/

namespace QueryGate.Json

open Text Decimal

variable {s t : List Char} {c : Char} {d : Nat} {v : Json}

/-! ## Strings -/

theorem hexValue?_hexDigit : ∀ n < 16, hexValue? (hexDigit n) = some n := by
  decide

theorem hexUnit?_hexDigit {n : Nat} (hn : n < 32) :
    hexUnit? '0' '0' (hexDigit (n / 16)) (hexDigit (n % 16)) = some n := by
  have hzero : hexValue? '0' = some 0 := rfl
  have hhigh := hexValue?_hexDigit (n / 16) (by omega)
  have hlow := hexValue?_hexDigit (n % 16) (by omega)
  simp only [hexUnit?, hzero, hhigh, hlow, Option.bind_eq_bind, Option.bind_some, Option.pure_def]
  congr 1
  omega

/-- A character that is escaped is read back. -/
theorem readStringBody_escapeChar (c : Char) (t : List Char) :
    readStringBody (escapeChar c ++ t) = (readStringBody t).map fun p => (c :: p.1, p.2) := by
  unfold escapeChar
  split_ifs with hquote hbackslash hfeed htab hreturn hback hform hcontrol
  · obtain rfl := beq_iff_eq.mp hquote
    rfl
  · obtain rfl := beq_iff_eq.mp hbackslash
    rfl
  · obtain rfl := beq_iff_eq.mp hfeed
    rfl
  · obtain rfl := beq_iff_eq.mp htab
    rfl
  · obtain rfl := beq_iff_eq.mp hreturn
    rfl
  · obtain rfl := beq_iff_eq.mp hback
    rfl
  · obtain rfl := beq_iff_eq.mp hform
    rfl
  · have hunit := hexUnit?_hexDigit hcontrol
    simp only [List.cons_append, List.nil_append]
    rw [readStringBody]
    simp only [hunit, Char.ofNat_toNat]
    rw [if_neg (by omega), if_neg (by omega)]
  · rw [beq_iff_eq] at hquote hbackslash
    rw [List.singleton_append, readStringBody.eq_def]
    simpa [hbackslash] using fun h => absurd h hcontrol

theorem readStringBody_append (s t : List Char) :
    readStringBody (s.flatMap escapeChar ++ '"' :: t) = some (s, t) := by
  induction s with
  | nil => rfl
  | cons c s ih =>
    rw [List.flatMap_cons, List.append_assoc, readStringBody_escapeChar, ih, Option.map_some]

theorem readString_quoted (s : String) (t : List Char) :
    readString (quoted s.toList ++ t) = some (s, t) := by
  have hbody := readStringBody_append s.toList t
  simp [readString, quoted, hbody]

/-! ## Numbers -/

/-- No number goes on here. -/
def EndsNumber (t : List Char) : Prop :=
  ∀ c ∈ t.head?, c.isDigit = false ∧ c ≠ '.' ∧ c ≠ 'e' ∧ c ≠ 'E'

theorem numberText_natCast (n : Nat) : numberText (.int n) = Nat.toDigits 10 n := by
  rw [numberText]
  exact (congrArg String.toList Nat.toString_eq_ofList_toDigits).trans String.toList_ofList

theorem numberText_negSucc (n : Nat) :
    numberText (.int (.negSucc n)) = '-' :: Nat.toDigits 10 (n + 1) := by
  have hrepr : (Nat.repr (n + 1)).toList = Nat.toDigits 10 (n + 1) := by
    rw [Nat.repr_eq_ofList_toDigits, String.toList_ofList]
  calc numberText (.int (.negSucc n)) = ("-" ++ Nat.repr (n + 1)).toList := rfl
    _ = '-' :: Nat.toDigits 10 (n + 1) := by rw [String.toList_append, hrepr]; rfl

theorem exists_toDigits_eq_cons (n : Nat) :
    ∃ c s, Nat.toDigits 10 n = c :: s ∧ c.isDigit = true := by
  obtain ⟨c, s, hs⟩ := List.exists_cons_of_ne_nil (Nat.toDigits_ne_nil (b := 10) (n := n))
  exact ⟨c, s, hs, isDigit_of_mem_toDigits (hs ▸ List.mem_cons_self ..)⟩

/-- Only zero begins with a zero. -/
theorem head?_toDigits_ne (n : Nat) (hn : 0 < n) : (Nat.toDigits 10 n).head? ≠ some '0' := by
  induction n using Nat.strong_induction_on with
  | _ n ih =>
    rcases Nat.lt_or_ge n 10 with hlt | hge
    · rw [Nat.toDigits_of_lt_base hlt]
      interval_cases n <;> decide
    · rw [Nat.toDigits_of_base_le (by decide) hge,
        List.head?_append_of_ne_nil _ Nat.toDigits_ne_nil]
      exact ih (n / 10) (by omega) (by omega)

theorem readWhole_toDigits (n : Nat) (ht : EndsNumber t) :
    readWhole (Nat.toDigits 10 n ++ t) = some (Nat.toDigits 10 n, t) := by
  have htake := takeWhile_append_stop (fun _ hc => isDigit_of_mem_toDigits (n := n) hc)
    (fun c hc => (ht c hc).1)
  have hdrop := dropWhile_append_stop (fun _ hc => isDigit_of_mem_toDigits (n := n) hc)
    (fun c hc => (ht c hc).1)
  rw [readWhole, htake, hdrop]
  rcases Nat.eq_zero_or_pos n with rfl | hn
  · rfl
  · have hhead := head?_toDigits_ne n hn
    split
    · exact absurd ‹_› Nat.toDigits_ne_nil
    · rename_i h
      exact absurd (congrArg List.head? h) hhead
    · rename_i h
      exact absurd (congrArg List.head? h) hhead
    · rfl

theorem readFraction_eq (ht : EndsNumber t) : readFraction t = some ([], t) := by
  unfold readFraction
  split
  · exact absurd rfl (ht _ rfl).2.1
  · rfl

theorem readPower_eq (ht : EndsNumber t) : readPower t = some (none, t) := by
  cases t with
  | nil => rfl
  | cons c t =>
    obtain ⟨-, -, hsmall, hlarge⟩ := ht c rfl
    simp [readPower, hsmall, hlarge]

theorem digitsValue_toDigits (n : Nat) : digitsValue (Nat.toDigits 10 n) = n :=
  foldl_toDigits n

theorem readNumber_toDigits {n : Nat} (hn : n < 2 ^ 64) (ht : EndsNumber t) :
    readNumber (Nat.toDigits 10 n ++ t) = some (.int n, t) := by
  obtain ⟨c, s, hs, hdigit⟩ := exists_toDigits_eq_cons n
  have hc : c ≠ '-' := fun h => absurd hdigit (by rw [h]; decide)
  have hwhole := readWhole_toDigits n ht
  have hvalue := digitsValue_toDigits n
  have hmax : n ≤ maxNat := Nat.le_sub_one_of_lt hn
  rw [hs] at hwhole hvalue ⊢
  rw [List.cons_append] at hwhole ⊢
  simp [readNumber, hc, hwhole, hvalue, readFraction_eq ht, readPower_eq ht, hmax]

theorem readNumber_negative {n : Nat} (hn : n < 2 ^ 63) (ht : EndsNumber t) :
    readNumber ('-' :: (Nat.toDigits 10 (n + 1) ++ t)) = some (.int (.negSucc n), t) := by
  have hmax : n + 1 ≤ Nat.pow 2 63 := hn
  simp [readNumber, readWhole_toDigits (n + 1) ht, readFraction_eq ht, readPower_eq ht,
    digitsValue_toDigits, hmax, Int.negSucc_eq]

/-! ## Lists -/

/-- A text begins with a character that is no blank and closes no list. -/
def BeginsPart (s : List Char) : Prop :=
  ∃ c rest, s = c :: rest ∧ c ∉ [' ', '\n', '\t', '\r', ']', '\x7d']

theorem skipBlanks_of_head (h : ∀ c ∈ s.head?, c ∉ [' ', '\n', '\t', '\r']) : skipBlanks s = s := by
  cases s with
  | nil => rfl
  | cons c s =>
    have hc := h c rfl
    simp only [List.mem_cons, List.not_mem_nil, or_false, not_or] at hc
    exact List.dropWhile_cons_of_neg (by simp [hc])

theorem BeginsPart.skipBlanks_append (h : BeginsPart s) (t : List Char) :
    skipBlanks (s ++ t) = s ++ t := by
  obtain ⟨c, rest, rfl, hc⟩ := h
  refine skipBlanks_of_head fun d hd => ?_
  obtain rfl := Option.some.inj hd
  simp_all

theorem BeginsPart.char_append_eq_none {close : Char} (h : BeginsPart s)
    (hclose : close = ']' ∨ close = '\x7d') (t : List Char) :
    Reader.char close (s ++ t) = none := by
  obtain ⟨c, rest, rfl, hc⟩ := h
  refine Reader.char_eq_none fun d hd hdc => ?_
  obtain rfl := Option.some.inj hd
  rcases hclose with rfl | rfl <;> simp_all

variable {α : Type} {item : Reader α} {f : α → List Char} {as : List α} {close : Char}

/-- Items with commas between them are read up to what closes the list. -/
theorem readListed_joinWith (hclose : close = ']' ∨ close = '\x7d')
    (hbegins : ∀ a ∈ as, BeginsPart (f a))
    (hread : ∀ a ∈ as, ∀ t, EndsNumber t → item (f a ++ t) = some (a, t)) (t : List Char) :
    readListed item close (joinWith [','] (as.map f) ++ close :: t) = some (as, t) := by
  have hblank : skipBlanks (close :: t) = close :: t := by
    rcases hclose with rfl | rfl <;> rfl
  have hends : EndsNumber (close :: t) := by
    rintro c hc
    obtain rfl := Option.some.inj hc
    rcases hclose with rfl | rfl <;> decide
  have hstop : afterBlanks (Reader.char ',') (close :: t) = none := by
    rw [afterBlanks, hblank]
    rcases hclose with rfl | rfl <;> rfl
  cases as with
  | nil =>
    rw [List.map_nil, joinWith_nil, List.nil_append, readListed, hblank, Reader.char_cons]
  | cons a as =>
    have hitems : Reader.sepBy1 (afterBlanks (Reader.char ',')) (afterBlanks item)
        (joinWith [','] ((a :: as).map f) ++ close :: t) = some (a :: as, close :: t) := by
      refine Reader.sepBy1_joinWith (P := EndsNumber) (List.cons_ne_nil a as) (by simp)
        (fun b hb u hu => ?_) (fun b hb u => ?_) (fun u c hc => ?_) hends hstop
      · rw [afterBlanks, (hbegins b hb).skipBlanks_append]
        exact hread b hb u hu
      · exact Reader.char_cons ..
      · obtain rfl := Option.some.inj hc
        decide
    have hnone : Reader.char close (skipBlanks (joinWith [','] ((a :: as).map f) ++ close :: t)) =
        none := by
      have ha := hbegins a (List.mem_cons_self ..)
      rw [List.map_cons, joinWith_cons, List.append_assoc, ha.skipBlanks_append,
        ha.char_append_eq_none hclose]
    rw [readListed, hnone]
    simp only [hitems, Option.bind_some, afterBlanks, hblank, Reader.char_cons, Option.map_some]

/-! ## Values -/

/-- A value without fractions, with integers of 64 bits, whose arrays and objects nest at most `d`
deep. -/
inductive IsPlain : Nat → Json → Prop
  | null {d : Nat} : IsPlain d null
  | bool {d : Nat} (b : Bool) : IsPlain d (bool b)
  | nat {d n : Nat} (h : n < 2 ^ 64) : IsPlain d (number (.int n))
  | negative {d n : Nat} (h : n < 2 ^ 63) : IsPlain d (number (.int (.negSucc n)))
  | string {d : Nat} (s : String) : IsPlain d (string s)
  | array {d : Nat} {items : List Json} (h : ∀ v ∈ items, IsPlain d v) :
      IsPlain (d + 1) (array items)
  | object {d : Nat} {fields : List (String × Json)} (h : ∀ f ∈ fields, IsPlain d f.2) :
      IsPlain (d + 1) (object fields)

theorem IsPlain.object_zip {keys : List String} {values : List Json}
    (h : ∀ v ∈ values, IsPlain d v) : IsPlain (d + 1) (.object (keys.zip values)) :=
  .object fun f hf => h f.2 (List.of_mem_zip hf).2

theorem IsPlain.stringOrNull (o : Option String) : IsPlain d (stringOrNull o) := by
  cases o with
  | none => exact .null
  | some s => exact .string s

/-- The text of a field. -/
def writeField (f : String × Json) : List Char :=
  quoted f.1.toList ++ ':' :: write f.2

theorem writeItems_eq (items : List Json) :
    writeItems items = joinWith [','] (items.map write) := by
  induction items with
  | nil => rfl
  | cons v items ih =>
    cases items with
    | nil => simp [writeItems, joinWith_cons]
    | cons w items => simp [writeItems, ih, joinWith_cons]

theorem writeFields_eq (fields : List (String × Json)) :
    writeFields fields = joinWith [','] (fields.map writeField) := by
  induction fields with
  | nil => rfl
  | cons f fields ih =>
    cases fields with
    | nil => simp [writeFields, writeField, joinWith_cons]
    | cons g fields => simp [writeFields, writeField, ih, joinWith_cons]

theorem beginsPart_quoted (s t : List Char) : BeginsPart (quoted s ++ t) :=
  ⟨'"', _, rfl, by decide⟩

theorem beginsPart_toDigits (n : Nat) : BeginsPart (Nat.toDigits 10 n) := by
  obtain ⟨c, s, hs, hc⟩ := exists_toDigits_eq_cons n
  refine ⟨c, s, hs, fun hmem => ?_⟩
  have hnone : ∀ d ∈ [' ', '\n', '\t', '\r', ']', '\x7d'], d.isDigit = false := by
    simp [Char.isDigit]
  exact absurd hc (by rw [hnone c hmem]; decide)

theorem IsPlain.beginsPart_write (h : IsPlain d v) : BeginsPart v.write := by
  cases h with
  | null => exact ⟨'n', _, rfl, by decide⟩
  | bool b => cases b <;> exact ⟨_, _, rfl, by decide⟩
  | nat h => rw [write, numberText_natCast]; exact beginsPart_toDigits _
  | negative h => rw [write, numberText_negSucc]; exact ⟨'-', _, rfl, by decide⟩
  | string s => exact ⟨'"', _, rfl, by decide⟩
  | array h => exact ⟨'[', _, rfl, by decide⟩
  | object h => exact ⟨'\x7b', _, rfl, by decide⟩

/-- What begins with a sign or a digit is read as a number. -/
theorem readAt_number {n : Number} (hhead : ∀ c ∈ s.head?, c = '-' ∨ c.isDigit = true)
    (hread : readNumber s = some (n, t)) : readAt d s = some (number n, t) := by
  cases s with
  | nil => exact absurd hread (by simp [readNumber, readWhole])
  | cons c s =>
    have hnumber : c = '-' ∨ c.isDigit = true := hhead c rfl
    have hother : ∀ b ∈ ['"', 't', 'f', 'n', '[', '\x7b'], c ≠ b := by
      rintro _ hb rfl
      have hnone : ∀ b ∈ ['"', 't', 'f', 'n', '[', '\x7b'], ¬(b = '-' ∨ b.isDigit = true) := by
        simp [Char.isDigit]
      exact hnone c hb hnumber
    simp only [List.forall_mem_cons] at hother
    obtain ⟨hquote, ht, hf, hn, hsquare, hcurly, -⟩ := hother
    cases d <;> simp [readAt, *]

theorem readAt_square (d : Nat) (s : List Char) :
    readAt (d + 1) ('[' :: s) = (readListed (readAt d) ']' s).map fun p => (array p.1, p.2) := by
  rw [readAt.eq_def]
  rfl

theorem readAt_curly (d : Nat) (s : List Char) :
    readAt (d + 1) ('\x7b' :: s) =
      (readListed (readField (readAt d)) '\x7d' s).map fun p => (object p.1, p.2) := by
  rw [readAt.eq_def]
  rfl

theorem readField_writeField {value : Reader Json} {f : String × Json}
    (hbegins : BeginsPart f.2.write) (hread : value (f.2.write ++ t) = some (f.2, t)) :
    readField value (writeField f ++ t) = some (f, t) := by
  have hcolon : skipBlanks (':' :: (f.2.write ++ t)) = ':' :: (f.2.write ++ t) := rfl
  rw [writeField, List.append_assoc, List.cons_append, readField, readString_quoted]
  simp only [Option.bind_some, afterBlanks, hcolon, Reader.char_cons,
    hbegins.skipBlanks_append, hread, Option.map_some]

/-- A plain value is read back from its text. -/
theorem readAt_write (h : IsPlain d v) (ht : EndsNumber t) :
    readAt d (v.write ++ t) = some (v, t) := by
  -- Only a number needs the condition on what follows it; an item is followed by a comma or by
  -- what closes its list, so that the condition holds again further inside.
  induction h generalizing t with
  | @null d =>
    have hword : Reader.word "null".toList (write null ++ t) = some ((), t) := Reader.word_append ..
    have hread : readAt d (write null ++ t) =
        (Reader.word "null".toList (write null ++ t)).map fun p => (null, p.2) := by
      rw [readAt.eq_def]; rfl
    rw [hread, hword, Option.map_some]
  | @bool d b =>
    have hword : ∀ w, Reader.word w (w ++ t) = some ((), t) := fun w => Reader.word_append ..
    have hread : readAt d (write (bool b) ++ t) =
        (Reader.word (write (bool b)) (write (bool b) ++ t)).map fun p => (bool b, p.2) := by
      rw [readAt.eq_def]; cases b <;> rfl
    rw [hread, hword, Option.map_some]
  | nat h =>
    rw [write, numberText_natCast]
    refine readAt_number (fun c hc => ?_) (readNumber_toDigits h ht)
    rw [List.head?_append_of_ne_nil _ Nat.toDigits_ne_nil] at hc
    exact .inr (isDigit_of_mem_toDigits (List.mem_of_mem_head? hc))
  | negative h =>
    rw [write, numberText_negSucc]
    refine readAt_number (fun c hc => ?_) (readNumber_negative h ht)
    exact .inl (Option.some.inj hc).symm
  | @string d s =>
    have hread : readAt d (write (string s) ++ t) =
        (readString (quoted s.toList ++ t)).map fun p => (string p.1, p.2) := by
      rw [readAt.eq_def]; rfl
    rw [hread, readString_quoted, Option.map_some]
  | @array d items h ih =>
    have hitems := readListed_joinWith (.inl rfl) (fun v hv => (h v hv).beginsPart_write)
      (fun v hv _ => ih v hv) t
    rw [write, writeItems_eq, List.cons_append, List.append_assoc, List.singleton_append,
      readAt_square, hitems, Option.map_some]
  | @object d fields h ih =>
    have hfields : readListed (readField (readAt d)) '\x7d'
        (joinWith [','] (fields.map writeField) ++ '\x7d' :: t) = some (fields, t) :=
      readListed_joinWith (.inr rfl) (fun f _ => beginsPart_quoted f.1.toList (':' :: f.2.write))
        (fun f hf _ hu => readField_writeField (h f hf).beginsPart_write (ih f hf hu)) t
    rw [write, writeFields_eq, List.cons_append, List.append_assoc, List.singleton_append,
      readAt_curly, hfields, Option.map_some]

/-- A plain value is the value of its text. -/
theorem read?_write (h : IsPlain maxDepth v) : read? v.write = some v := by
  have hblanks : skipBlanks v.write = v.write := by
    simpa using h.beginsPart_write.skipBlanks_append []
  have hread := readAt_write (t := []) h (by simp [EndsNumber])
  rw [List.append_nil] at hread
  rw [read?, afterBlanks, hblanks, hread]
  rfl

/-! ## Lines -/

theorem hexDigit_ne_newline : ∀ n < 16, '\n' ≠ hexDigit n := by
  decide

theorem newline_not_mem_escapeChar (c : Char) : '\n' ∉ escapeChar c := by
  unfold escapeChar
  split_ifs with hquote hbackslash hfeed htab hreturn hback hform hcontrol
  any_goals decide
  · have hhigh := hexDigit_ne_newline (c.toNat / 16) (by omega)
    have hlow := hexDigit_ne_newline (c.toNat % 16) (by omega)
    simp only [List.mem_cons, List.not_mem_nil, or_false, not_or]
    exact ⟨by decide, by decide, by decide, by decide, hhigh, hlow⟩
  · exact fun h => hfeed (beq_iff_eq.mpr (List.mem_singleton.mp h).symm)

theorem newline_not_mem_quoted (s : List Char) : '\n' ∉ quoted s := by
  simp [quoted, newline_not_mem_escapeChar]

theorem newline_not_mem_toDigits (n : Nat) : '\n' ∉ Nat.toDigits 10 n := fun h =>
  absurd (isDigit_of_mem_toDigits h) (by decide)

theorem newline_not_mem_joinWith {pieces : List (List Char)} (h : ∀ s ∈ pieces, '\n' ∉ s) :
    '\n' ∉ joinWith [','] pieces := by
  cases pieces with
  | nil => simp
  | cons s pieces =>
    rw [List.forall_mem_cons] at h
    simpa [joinWith_cons, h.1] using h.2

/-- Written text is a single line. -/
theorem newline_not_mem_write (h : IsPlain d v) : '\n' ∉ v.write := by
  induction h with
  | null => decide
  | bool b => cases b <;> decide
  | nat h => rw [write, numberText_natCast]; exact newline_not_mem_toDigits _
  | negative h =>
    rw [write, numberText_negSucc]
    simp [newline_not_mem_toDigits]
  | string s => exact newline_not_mem_quoted _
  | array h ih =>
    have hitems := newline_not_mem_joinWith (List.forall_mem_map.mpr ih)
    simp [write, writeItems_eq, hitems]
  | @object d fields h ih =>
    have hfield : ∀ f ∈ fields, '\n' ∉ writeField f := fun f hf => by
      simp [writeField, newline_not_mem_quoted, ih f hf]
    have hfields := newline_not_mem_joinWith (List.forall_mem_map.mpr hfield)
    simp [write, writeFields_eq, hfields]

end QueryGate.Json
