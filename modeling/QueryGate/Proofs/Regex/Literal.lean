import QueryGate.Grammar.Compile
import QueryGate.Proofs.Regex.Runs

/-!
# Patterns of quoted texts

The pattern written for a quoted text is read as its characters one after the other, or their case
orbits (`compile_ofLiteral`), so that the text itself decides what the terminal matches.
-/

namespace QueryGate.Regex

open TerminalPattern

variable {c : Char} {s cs : List Char} {names : List (List Char)} {fuel : Nat}
  {options items : List Pattern}

/-- A character as the pattern reader gives it. -/
def written (c : Char) : Pattern := .single ⟨c, false⟩

/-! ## Reading -/

theorem readBody_of_not_isMeta (hc : isMeta c = false) :
    readBody (fuel + 1) options items ⟨c :: s, false, names⟩ =
      readBody fuel options (written c :: items) ⟨s, false, names⟩ := by
  simp [isMeta] at hc
  rw [readBody]
  simp only [Cursor.skip]
  split <;> simp_all [Cursor.moveTo, written]

theorem readEscape_of_isMeta (hc : isMeta c = true) :
    readEscape ⟨c :: s, false, names⟩ = .ok (written c, ⟨s, false, names⟩) := by
  simp [isMeta] at hc
  rcases hc with rfl | rfl | rfl | rfl | rfl | rfl | rfl | rfl | rfl | rfl | rfl | rfl | rfl |
    rfl | rfl | rfl | rfl | rfl <;> rfl

theorem readBody_of_isMeta (hc : isMeta c = true) :
    readBody (fuel + 1) options items ⟨'\\' :: c :: s, false, names⟩ =
      readBody fuel options (written c :: items) ⟨s, false, names⟩ := by
  rw [readBody]
  change (readEscape ⟨c :: s, false, names⟩ >>= fun p =>
    readBody fuel options (p.1 :: items) p.2) = _
  rw [readEscape_of_isMeta hc]
  rfl

theorem readBody_caret : readBody (fuel + 1) options items ⟨'^' :: s, false, names⟩ =
    readBody fuel options (.anchor .caret :: items) ⟨s, false, names⟩ := by
  rw [readBody]
  rfl

/-- A quoted text is read character by character. -/
theorem readBody_escape : readBody (fuel + cs.length) options items ⟨escape cs ++ s, false, names⟩ =
    readBody fuel options ((cs.map written).reverse ++ items) ⟨s, false, names⟩ := by
  induction cs generalizing items with
  | nil => rfl
  | cons c cs ih =>
    have hescape : escape (c :: cs) ++ s =
        (if isMeta c then ['\\', c] else [c]) ++ (escape cs ++ s) := by
      rw [escape, List.flatMap_cons, List.append_assoc]
      rfl
    rw [hescape, List.length_cons, ← Nat.add_assoc]
    have hitems : ((c :: cs).map written).reverse ++ items =
        (cs.map written).reverse ++ written c :: items := by
      rw [List.map_cons, List.reverse_cons, List.append_assoc]
      rfl
    by_cases hc : isMeta c = true
    · rw [if_pos hc, hitems]
      exact (readBody_of_isMeta hc).trans ih
    · rw [if_neg hc, hitems]
      exact (readBody_of_not_isMeta (Bool.eq_false_iff.mpr hc)).trans ih

/-- The characters of a quoted text as one pattern. -/
def wordPattern (cs : List Char) : Pattern := concatOf (cs.map written).reverse

/-- A quoted text at the end of a group. -/
theorem readBody_word (hfuel : cs.length < fuel) :
    readBody fuel [] [] ⟨escape cs ++ ')' :: s, false, names⟩ =
      .ok (wordPattern cs, ⟨')' :: s, false, names⟩) := by
  obtain ⟨n, rfl⟩ : ∃ n, fuel = n + 1 + cs.length := ⟨fuel - 1 - cs.length, by omega⟩
  rw [readBody_escape, List.append_nil]
  rfl

/-- A group whose inside is known. -/
theorem readBody_group {start : List Char} {change : FlagChange} {inner : Pattern}
    (hopen : openGroup ⟨start ++ s, false, names⟩ = .ok ((change, true), ⟨s, false, names⟩))
    (hfree : freeSpacingAfter change false = false) {s' : List Char}
    (hinner : readBody fuel [] [] ⟨s, false, names⟩ = .ok (inner, ⟨')' :: s', false, names⟩)) :
    readBody (fuel + 1) options items ⟨'(' :: (start ++ s), false, names⟩ =
      readBody fuel options (.group change inner :: items) ⟨s', false, names⟩ := by
  rw [readBody]
  change (openGroup ⟨start ++ s, false, names⟩ >>= fun p => _) = _
  rw [hopen]
  change (readBody fuel [] [] ⟨s, freeSpacingAfter change false, names⟩ >>= fun p => _) = _
  rw [hfree, hinner]
  rfl

theorem openGroup_plain :
    openGroup ⟨['?', ':'] ++ s, false, names⟩ = .ok (([], true), ⟨s, false, names⟩) := rfl

theorem openGroup_anyCase : openGroup ⟨['?', 'i', ':'] ++ s, false, names⟩ =
    .ok (([(.anyCase, true)], true), ⟨s, false, names⟩) := rfl

/-- The pattern of a quoted text. -/
def quotedPattern (value : String) (anyCase : Bool) : Pattern :=
  if anyCase then .group [(.anyCase, true)] (wordPattern value.toList)
  else wordPattern value.toList

variable {value : String} {anyCase : Bool}

theorem readBody_ofLiteral (hfuel : value.toList.length + 2 < fuel) :
    readBody fuel [] [] ⟨ofLiteral value anyCase ++ ')' :: s, false, names⟩ =
      .ok (quotedPattern value anyCase, ⟨')' :: s, false, names⟩) := by
  cases anyCase with
  | false => exact readBody_word (by omega)
  | true =>
    have htext : ofLiteral value true ++ ')' :: s =
        '(' :: (['?', 'i', ':'] ++ (escape value.toList ++ ')' :: ')' :: s)) := by
      simp [ofLiteral, flagged]
    obtain ⟨n, rfl⟩ : ∃ n, fuel = n + 1 + 1 := ⟨fuel - 2, by omega⟩
    rw [htext, readBody_group openGroup_anyCase rfl (readBody_word (by omega))]
    rfl

theorem length_le_length_escape (cs : List Char) : cs.length ≤ (escape cs).length := by
  induction cs with
  | nil => exact Nat.le_refl _
  | cons c cs ih =>
    have hc : 1 ≤ (if isMeta c = true then ['\\', c] else [c]).length := by split_ifs <;> simp
    calc cs.length + 1 ≤ (escape cs).length + 1 := Nat.succ_le_succ ih
      _ ≤ (escape cs).length + (if isMeta c = true then ['\\', c] else [c]).length :=
        Nat.add_le_add_left hc _
      _ = (escape (c :: cs)).length := by
        rw [escape, escape, List.flatMap_cons, List.length_append, Nat.add_comm]

theorem length_le_length_ofLiteral (value : String) (anyCase : Bool) :
    value.toList.length ≤ (ofLiteral value anyCase).length := by
  have hle := length_le_length_escape value.toList
  cases anyCase with
  | false => exact hle
  | true =>
    simp only [ofLiteral, if_true, flagged, List.isEmpty_cons, Bool.false_eq_true, if_false,
      List.length_append, List.length_cons]
    omega

/-! ## Building -/

theorem reverse_cons_cons (p p' : Pattern) (ps : List Pattern) :
    ∃ q q' qs, (p :: p' :: ps).reverse = q :: q' :: qs := by
  match hrev : (p :: p' :: ps).reverse with
  | [] => simp at hrev
  | [q] =>
    have hlength := congrArg List.length hrev
    simp at hlength
  | q :: q' :: qs => exact ⟨q, q', qs, rfl⟩

theorem concatOf_reverse (parts : List Pattern) : concatOf parts.reverse = match parts with
    | [] => .empty
    | [p] => p
    | ps => .concat ps := by
  match parts with
  | [] => rfl
  | [p] => rfl
  | p :: p' :: ps =>
    obtain ⟨q, q', qs, hrev⟩ := reverse_cons_cons p p' ps
    rw [hrev]
    change Pattern.concat (q :: q' :: qs).reverse = _
    rw [← hrev, List.reverse_reverse]

theorem altOf_reverse (options : List Pattern) : altOf options.reverse = match options with
    | [] => .empty
    | [p] => p
    | ps => .alt ps := by
  match options with
  | [] => rfl
  | [p] => rfl
  | p :: p' :: ps =>
    obtain ⟨q, q', qs, hrev⟩ := reverse_cons_cons p p' ps
    rw [hrev]
    change Pattern.alt (q :: q' :: qs).reverse = _
    rw [← hrev, List.reverse_reverse]

theorem wordPattern_eq : wordPattern cs = match cs with
    | [] => .empty
    | [c] => written c
    | cs => .concat (cs.map written) := by
  rw [wordPattern, concatOf_reverse]
  match cs with
  | [] => rfl
  | [c] => rfl
  | c :: c' :: cs => rfl

theorem depth_wordPattern (cs : List Char) : (wordPattern cs).depth ≤ 1 := by
  have hall : ∀ cs : List Char, depthOfPatterns (cs.map written) = 0 := by
    intro cs
    induction cs with
    | nil => rfl
    | cons c cs ih =>
      change max 0 (depthOfPatterns (cs.map written)) = 0
      rw [ih]
      rfl
  rw [wordPattern_eq]
  split
  · exact Nat.zero_le _
  · exact Nat.zero_le _
  · exact Nat.succ_le_succ (Nat.le_of_eq (hall _))

theorem depth_quotedPattern (value : String) (anyCase : Bool) :
    (quotedPattern value anyCase).depth ≤ 2 := by
  have hword := depth_wordPattern value.toList
  cases anyCase with
  | false => exact Nat.le_succ_of_le hword
  | true => exact Nat.succ_le_succ hword

/-- The set of a character of a quoted text. -/
def literalClass (anyCase : Bool) (c : Char) : CharClass :=
  if anyCase then .ofList (caseOrbit c) else .single c

/-- The characters that may stand for a character of a quoted text. -/
def spellings (anyCase : Bool) (c : Char) : List Char :=
  if anyCase then caseOrbit c else [c]

theorem mem_literalClass_iff {d : Char} {anyCase : Bool} :
    (literalClass anyCase d).mem c = true ↔ c ∈ spellings anyCase d := by
  unfold literalClass spellings
  split_ifs
  · exact CharClass.mem_ofList _ _
  · rw [CharClass.mem_single, List.mem_singleton]

/-- A text consists of characters that may stand for those of a quoted text. -/
abbrev Spells (anyCase : Bool) (s tok : List Char) : Prop :=
  List.Forall₂ (fun d c => (literalClass anyCase d).mem c = true) s tok

theorem exists_mem_of_spells {tok : List Char} {anyCase : Bool} (h : Spells anyCase s tok)
    (hc : c ∈ tok) : ∃ d ∈ s, c ∈ spellings anyCase d := by
  induction h with
  | nil => cases hc
  | cons hhead _ ih =>
    rcases List.mem_cons.mp hc with rfl | hc
    · exact ⟨_, List.mem_cons_self .., mem_literalClass_iff.mp hhead⟩
    · obtain ⟨d, hd, hmem⟩ := ih hc
      exact ⟨d, List.mem_cons_of_mem _ hd, hmem⟩

/-- The expression of a quoted text. -/
def literalRegex (value : String) (anyCase : Bool) : Regex :=
  .seq (.look .start false) (sequence ((value.toList.map (literalClass anyCase)).map .chars))

/-- The bytes the characters of a quoted text take in an automaton. -/
def literalSize (value : String) (anyCase : Bool) : Nat :=
  Term.sizeOfParts ((value.toList.map (literalClass anyCase)).map .chars)

theorem sizeOfParts_chars_le {as : List CharClass} {bound : Nat} (h : ∀ a ∈ as, a.size ≤ bound) :
    Term.sizeOfParts (as.map .chars) ≤ as.length * bound := by
  induction as with
  | nil => exact Nat.zero_le _
  | cons a as ih =>
    obtain ⟨ha, has⟩ := List.forall_mem_cons.mp h
    calc Term.sizeOfParts ((a :: as).map .chars)
        = a.size + Term.sizeOfParts (as.map .chars) := rfl
      _ ≤ bound + as.length * bound := Nat.add_le_add ha (ih has)
      _ = (a :: as).length * bound := by rw [List.length_cons, Nat.succ_mul, Nat.add_comm]

theorem literalSize_le {bound : Nat}
    (h : ∀ c ∈ value.toList, (literalClass anyCase c).size ≤ bound) :
    literalSize value anyCase ≤ value.toList.length * bound := by
  rw [← List.length_map (literalClass anyCase)]
  refine sizeOfParts_chars_le fun a ha => ?_
  obtain ⟨c, hc, rfl⟩ := List.mem_map.mp ha
  exact h c hc

theorem build_written {f : Flags} (hf : f.unicode = true) (c : Char) :
    build f (written c) = .ok (.chars (literalClass f.anyCase c), f) := by
  unfold written build buildSingle literalClass
  cases f.anyCase <;> simp [hf, bind, Except.bind]

theorem buildAll_written {f : Flags} (hf : f.unicode = true) (cs : List Char) :
    buildAll f (cs.map written) = .ok ((cs.map (literalClass f.anyCase)).map .chars, f) := by
  induction cs with
  | nil => rfl
  | cons c cs ih =>
    rw [List.map_cons, buildAll, build_written hf]
    change (buildAll f (cs.map written) >>= fun p => _) = _
    rw [ih]
    rfl

theorem build_wordPattern {f : Flags} (hf : f.unicode = true) (cs : List Char) :
    build f (wordPattern cs) =
      .ok (.sequence ((cs.map (literalClass f.anyCase)).map .chars), f) := by
  rw [wordPattern_eq]
  split
  · rfl
  · exact build_written hf _
  · rw [build, buildAll_written hf]
    rfl

theorem build_quotedPattern : build {} (quotedPattern value anyCase) =
    .ok (.sequence ((value.toList.map (literalClass anyCase)).map .chars), {}) := by
  cases anyCase with
  | false => exact build_wordPattern rfl _
  | true =>
    change (build (Flags.apply {} [(.anyCase, true)]) (wordPattern value.toList) >>= fun p => _) = _
    rw [build_wordPattern rfl]
    rfl

/-- How the pattern of a terminal for a quoted text is read. -/
theorem readPattern_ofLiteral : readPattern ('^' :: grouped (ofLiteral value anyCase)) =
    .ok (.concat [.anchor .caret, .group [] (quotedPattern value anyCase)]) := by
  have htext : grouped (ofLiteral value anyCase) =
      '(' :: (['?', ':'] ++ (ofLiteral value anyCase ++ [')'])) := by
    simp [grouped]
  have hlength := length_le_length_ofLiteral value anyCase
  obtain ⟨n, hn, hfuel⟩ : ∃ n, value.toList.length + 2 < n ∧
      ('^' :: grouped (ofLiteral value anyCase)).length + 1 = n + 1 + 1 := by
    refine ⟨(ofLiteral value anyCase).length + 4, by omega, ?_⟩
    simp [grouped]
  have hbody : readBody (n + 1 + 1) [] [] ⟨'^' :: grouped (ofLiteral value anyCase), false, []⟩ =
      .ok (.concat [.anchor .caret, .group [] (quotedPattern value anyCase)], ⟨[], false, []⟩) := by
    rw [htext]
    rw [readBody_caret, readBody_group openGroup_plain rfl (readBody_ofLiteral hn)]
    cases n with
    | zero => omega
    | succ n => rfl
  have hdepth : (Pattern.concat [.anchor .caret, .group [] (quotedPattern value anyCase)]).depth ≤
      nestLimit := by
    have hquoted := depth_quotedPattern value anyCase
    have hlimit : nestLimit = 250 := rfl
    change max 0 (max ((quotedPattern value anyCase).depth + 1) 0) + 1 ≤ nestLimit
    omega
  rw [readPattern, hfuel, hbody]
  change (if nestLimit < _ then _ else _) = _
  rw [if_neg (by omega)]

/-- The expression of a terminal for a quoted text, unless the text is too long. -/
theorem compile_ofLiteral : compile ('^' :: grouped (ofLiteral value anyCase)) =
    if sizeLimit < 32 + literalSize value anyCase then .error .tooLarge
    else .ok (literalRegex value anyCase) := by
  let word : Term := .sequence ((value.toList.map (literalClass anyCase)).map .chars)
  have hbuild : build {} (.concat [.anchor .caret, .group [] (quotedPattern value anyCase)]) =
      .ok (.concat [.look .start false, word], {}) := by
    have hgroup : build {} (.group [] (quotedPattern value anyCase)) = .ok (word, {}) := by
      rw [build]
      change (build {} (quotedPattern value anyCase) >>= fun p => _) = _
      rw [build_quotedPattern]
      rfl
    have hgroups : buildAll {} [.group [] (quotedPattern value anyCase)] = .ok ([word], {}) := by
      rw [buildAll, hgroup]
      rfl
    rw [build, buildAll]
    change (buildAll {} [.group [] (quotedPattern value anyCase)] >>= fun p => _) >>= _ = _
    rw [hgroups]
    rfl
  have hsize : (Term.concat [.look .start false, word]).size = 32 + literalSize value anyCase :=
    calc (Term.concat [.look .start false, word]).size
        = 32 + Term.sizeOfParts [word] := rfl
      _ = 32 + literalSize value anyCase := by
        rw [Term.sizeOfParts_sequence, literalSize]
  have hexpand : (Term.concat [.look .start false, word]).expand = literalRegex value anyCase := by
    change Regex.seq (.look .start false) word.expand = _
    rw [Term.expand_sequence, List.map_map]
    rfl
  rw [compile, readPattern_ofLiteral]
  change (build {} _ >>= fun p => _) = _
  rw [hbuild, ← hsize, ← hexpand]
  rfl

theorem eq_literalRegex_of_anchored {name : String} {r : Regex}
    (h : Build.anchored name (ofLiteral value anyCase) = .ok r) :
    r = literalRegex value anyCase := by
  rw [Build.anchored, Scanner.compile_regex, compile_ofLiteral] at h
  split_ifs at h
  exact (Except.ok.inj h).symm

theorem anchored_ofLiteral (name : String) (hsize : 32 + literalSize value anyCase ≤ sizeLimit) :
    Build.anchored name (ofLiteral value anyCase) = .ok (literalRegex value anyCase) := by
  rw [Build.anchored, Scanner.compile_regex, compile_ofLiteral, if_neg (Nat.not_lt.mpr hsize)]

/-- A terminal for a quoted text takes its characters, whatever their case where that is open. -/
theorem matchLength?_literalRegex : (literalRegex value anyCase).matchLength? none s =
    if fits (value.toList.map (literalClass anyCase)) s then some value.toList.length
    else none := by
  rw [literalRegex, matchLength?_anchored, matchLength?, matchFrom_chars, Nat.zero_add,
    List.length_map]

theorem matchLength?_literalRegex_eq_some_iff {tok rest : List Char} :
    (literalRegex value anyCase).matchLength? none (tok ++ rest) = some tok.length ↔
      Spells anyCase value.toList tok := by
  have hmap := List.forall₂_map_left_iff (R := fun cls c => CharClass.mem cls c = true)
    (f := literalClass anyCase) (l := value.toList) (u := tok)
  rw [matchLength?_literalRegex, Spells, ← hmap, ← fits_append_iff (t := rest), List.length_map]
  simp

end QueryGate.Regex
