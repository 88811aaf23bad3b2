import QueryGate.Proofs.Ebnf.Expressions
import QueryGate.Proofs.Text.Letters
import QueryGate.Proofs.Text.Trim

/-!
# Reading definitions

What is written for a definition is read as the definition, with blanks behind it
(`readDefinition_text`).
-/

namespace QueryGate.Ebnf

open Text Reader

variable {d : Definition} {e : Expr} {name : String} {s t rest pad : List Char} {c : Char}

theorem not_isBlankChar_of_isNameStart (h : isNameStart c = true) : isBlankChar c = false :=
  not_isBlankChar_of_isItemStart (by simp [isItemStart, h])

theorem skipBlanks_name (h : isName s = true) (t : List Char) : skipBlanks (s ++ t) = s ++ t := by
  obtain ⟨c, u, rfl, hc⟩ := exists_of_isName h
  exact skipBlanks_cons (not_isBlankChar_of_isNameStart hc) _

theorem not_isNameChar_of_isBlankChar (h : isBlankChar c = true) :
    isNameChar c = false ∧ c ≠ '.' := by
  rcases isBlankChar_iff.mp h with rfl | rfl | rfl | rfl <;> decide

theorem exists_name_append (hname : isName name.toList = true) (t : List Char) :
    ∃ c u, name.toList ++ t = c :: u ∧ isNameStart c = true := by
  obtain ⟨c, u, hu, hc⟩ := exists_of_isName hname
  exact ⟨c, u ++ t, by rw [hu, List.cons_append], hc⟩

/-- A definition begins with a name or with the mark of directives. -/
theorem Definition.exists_text (h : d.isNormal = true) :
    ∃ c t, d.text = c :: t ∧ (isNameStart c = true ∨ c = '%') := by
  cases d with
  | rule name body =>
    simp only [isNormal, Bool.and_eq_true] at h
    obtain ⟨c, t, ht, hc⟩ := exists_name_append h.1.1 ([':', ' '] ++ body.text)
    exact ⟨c, t, by rw [text, List.append_assoc, ht], Or.inl hc⟩
  | terminal name body =>
    simp only [isNormal, Bool.and_eq_true] at h
    obtain ⟨c, t, ht, hc⟩ := exists_name_append h.1.1 ([':', ' '] ++ body.text)
    exact ⟨c, t, by rw [text, List.append_assoc, ht], Or.inl hc⟩
  | imports module names => exact ⟨'%', _, rfl, Or.inr rfl⟩
  | ignore body => exact ⟨'%', _, rfl, Or.inr rfl⟩

/-- Only blanks are passed over in front of an expression, if it is not empty. -/
theorem exists_skipBlanks_text (h : e.isNormal = true) (hpad : ∀ c ∈ pad, isBlankChar c = true) :
    ∃ pad', (∀ c ∈ pad', isBlankChar c = true) ∧ skipBlanks (e.text ++ pad) = e.text ++ pad' := by
  cases htext : e.text with
  | nil => exact ⟨[], by simp, skipBlanks_eq_nil hpad⟩
  | cons c t =>
    have hstart := Expr.isItemStart_of_mem_head?_text h c (by rw [htext]; rfl)
    exact ⟨pad, hpad, skipBlanks_cons (not_isBlankChar_of_isItemStart hstart) _⟩

theorem exists_readExpr_text (h : e.isNormal = true) (hpad : ∀ c ∈ pad, isBlankChar c = true) :
    ∃ pad', (∀ c ∈ pad', isBlankChar c = true) ∧
      readExpr (skipBlanks (e.text ++ pad)) = some (e, pad') := by
  obtain ⟨pad', hpad', hskip⟩ := exists_skipBlanks_text h hpad
  exact ⟨pad', hpad', by rw [hskip]; exact readExpr_text h (closes_of_blank hpad')⟩

/-! ## Rules and terminals -/

theorem readHead_append (hname : isName name.toList = true)
    (ht : ∀ c ∈ t.head?, isNameChar c = false ∧ c ≠ '.') :
    readHead (name.toList ++ t) = .ok (name, t) := by
  have hread := readName_append hname fun c hc => (ht c hc).1
  have hpoint : char '.' t = none := char_eq_none fun c hc => (ht c hc).2
  obtain ⟨c, u, hu, hc⟩ := exists_of_isName hname
  rw [hu, List.cons_append] at hread ⊢
  have hmark : c ≠ '?' ∧ c ≠ '!' := by
    constructor <;> rintro rfl <;> exact absurd hc (by decide)
  simp [readHead, hmark.1, hmark.2, hread, hpoint]

theorem exists_readNamed (hname : isName name.toList = true) (h : e.isNormal = true)
    (hpad : ∀ c ∈ pad, isBlankChar c = true) : ∃ pad', (∀ c ∈ pad', isBlankChar c = true) ∧
      readNamed (name.toList ++ ([':', ' '] ++ (e.text ++ pad))) =
        .ok (if isTerminalName name then .terminal name e else .rule name e, pad') := by
  obtain ⟨pad', hpad', hread⟩ := exists_readExpr_text h hpad
  have hhead : readHead (name.toList ++ ([':', ' '] ++ (e.text ++ pad))) =
      .ok (name, [':', ' '] ++ (e.text ++ pad)) := by
    refine readHead_append hname fun c hc => ?_
    obtain rfl := Option.some.inj hc
    decide
  have hcolon : spaced (char ':') ([':', ' '] ++ (e.text ++ pad)) =
      some ((), skipBlanks (e.text ++ pad)) :=
    (spaced_char (t := ' ' :: (e.text ++ pad)) rfl).trans (by rw [skipBlanks_space])
  refine ⟨pad', hpad', ?_⟩
  rw [readNamed, hhead]
  simp only [bind, Except.bind, hcolon, hread]

/-! ## Imports -/

/-- The path of an import, as the module's and the imported name. -/
theorem exists_path {module imported : List Char} (hmodule : module = [] ∨ isDotted module = true)
    (himported : isName imported = true) : ∃ path, (∀ s ∈ path ++ [imported], isName s = true) ∧
      joinWith ['.'] path = module ∧ joinWith ['.'] (path ++ [imported]) =
        (if module.isEmpty then [] else module ++ ['.']) ++ imported := by
  by_cases hempty : module = []
  · subst hempty
    exact ⟨[], by simpa using himported, rfl, by simp [joinWith]⟩
  · have hdotted := hmodule.resolve_left hempty
    refine ⟨splitAt '.' module, ?_, joinWith_splitAt '.' module, ?_⟩
    · exact List.forall_mem_append.mpr ⟨List.all_eq_true.mp hdotted, by simpa using himported⟩
    · rw [joinWith_append_singleton (splitAt_ne_nil '.' module), joinWith_splitAt]
      simp [hempty]

/-- An import of one name is no list. -/
theorem readImport_of_readDotted {path : List (List Char)}
    (hpath : readDotted s = some (path, rest))
    (hrest : ∀ c ∈ (skipBlanks rest).head?, c ≠ '(') :
    readImportList.orElse readImportOne s = readImportOne s := by
  refine orElse_of_eq_none ?_
  simp only [readImportList, hpath, Option.bind_some, spaced_char_eq_none hrest, Option.bind_none]

theorem readImport_own {path : List (List Char)}
    (hpath : ∀ s ∈ path ++ [name.toList], isName s = true)
    (hpad : ∀ c ∈ pad, isBlankChar c = true) :
    readImportList.orElse readImportOne (joinWith ['.'] (path ++ [name.toList]) ++ pad) =
      some (.imports (String.ofList (joinWith ['.'] path)) [(name, name)], pad) := by
  have hread : readDotted (joinWith ['.'] (path ++ [name.toList]) ++ pad) =
      some (path ++ [name.toList], pad) := readDotted_append (by simp) hpath fun c hc =>
        not_isNameChar_of_isBlankChar (hpad c (List.mem_of_mem_head? hc))
  have hnil : skipBlanks pad = [] := skipBlanks_eq_nil hpad
  have harrow : spaced (word ['-', '>']) pad = none := spaced_word_eq_none (by simp [hnil])
  rw [readImport_of_readDotted hread (by simp [hnil])]
  simp [readImportOne, hread, harrow]

theorem readImport_renamed {path : List (List Char)} {own : String}
    (hpath : ∀ s ∈ path ++ [name.toList], isName s = true) (hown : isName own.toList = true)
    (hpad : ∀ c ∈ pad, isBlankChar c = true) :
    readImportList.orElse readImportOne
      (joinWith ['.'] (path ++ [name.toList]) ++ ([' ', '-', '>', ' '] ++ (own.toList ++ pad))) =
        some (.imports (String.ofList (joinWith ['.'] path)) [(own, name)], pad) := by
  have hread : readDotted
      (joinWith ['.'] (path ++ [name.toList]) ++ ([' ', '-', '>', ' '] ++ (own.toList ++ pad))) =
        some (path ++ [name.toList], [' ', '-', '>', ' '] ++ (own.toList ++ pad)) :=
    readDotted_append (by simp) hpath fun c hc => by
      obtain rfl := Option.some.inj hc
      decide
  have hskip : skipBlanks ([' ', '-', '>', ' '] ++ (own.toList ++ pad)) =
      ['-', '>'] ++ ' ' :: (own.toList ++ pad) := rfl
  have harrow : spaced (word ['-', '>']) ([' ', '-', '>', ' '] ++ (own.toList ++ pad)) =
      some ((), own.toList ++ pad) := by
    rw [spaced_word hskip, skipBlanks_space, skipBlanks_name hown]
  have hname : readName (own.toList ++ pad) = some (own, pad) := readName_append hown fun c hc =>
    (not_isNameChar_of_isBlankChar (hpad c (List.mem_of_mem_head? hc))).1
  have hmark : ∀ c ∈ (skipBlanks ([' ', '-', '>', ' '] ++ (own.toList ++ pad))).head?, c ≠ '(' := by
    rw [hskip]
    simp
  rw [readImport_of_readDotted hread hmark]
  simp only [readImportOne, hread, harrow, hname, Option.bind_some, Option.map_some,
    List.getLast?_concat, List.dropLast_concat, Option.getD_some, String.ofList_toList]

theorem readImport_one {module own imported : String}
    (h : Definition.isImport module [(own, imported)] = true)
    (hpad : ∀ c ∈ pad, isBlankChar c = true) :
    readImportList.orElse readImportOne
      (Definition.importText module.toList [(own, imported)] ++ pad) =
        some (.imports module [(own, imported)], pad) := by
  simp only [Definition.isImport, Bool.and_eq_true, Bool.or_eq_true, List.isEmpty_iff] at h
  obtain ⟨⟨hmodule, hown⟩, himported⟩ := h
  obtain ⟨path, hpath, hjoin, htext⟩ := exists_path hmodule himported
  rw [Definition.importText, ← htext, List.append_assoc, ← String.ofList_toList (s := module),
    ← hjoin]
  by_cases hsame : own = imported
  · subst hsame
    rw [if_pos rfl]
    exact readImport_own hpath hpad
  · rw [if_neg hsame, List.append_assoc]
    exact readImport_renamed hpath hown hpad

/-- Names with commas between them. -/
theorem readNames_append {names : List String} (hne : names ≠ [])
    (hnames : ∀ n ∈ names, isName n.toList = true) (rest : List Char) :
    sepBy1 (spaced (char ',')) readName
      (joinWith [',', ' '] (names.map (·.toList)) ++ ')' :: rest) = some (names, ')' :: rest) := by
  have hcomma : ∀ n ∈ names, ∀ t : List Char,
      spaced (char ',') ([',', ' '] ++ (n.toList ++ t)) = some ((), n.toList ++ t) := by
    intro n hn t
    refine (spaced_char (t := ' ' :: (n.toList ++ t)) rfl).trans ?_
    rw [skipBlanks_space, skipBlanks_name (hnames n hn)]
  have hstop : spaced (char ',') (')' :: rest) = none := spaced_char_eq_none fun c hc => by
    obtain rfl := Option.some.inj hc
    decide
  refine sepBy1_joinWith (P := fun t => ∀ c ∈ t.head?, isNameChar c = false) hne
    (List.cons_ne_nil _ _) (fun n hn t ht => readName_append (hnames n hn) ht) hcomma
    (fun t c hc => ?_) (by simp [isNameChar]) hstop
  obtain rfl := Option.some.inj hc
  decide

theorem readImport_list {module : String} {names : List String}
    (hmodule : isDotted module.toList = true) (hne : names ≠ [])
    (hnames : ∀ n ∈ names, isName n.toList = true) (pad : List Char) :
    readImportList (module.toList ++ [' ', '('] ++ joinWith [',', ' '] (names.map (·.toList)) ++
      [')'] ++ pad) = some (.imports module (names.map fun n => (n, n)), skipBlanks pad) := by
  have htext : module.toList ++ [' ', '('] ++ joinWith [',', ' '] (names.map (·.toList)) ++
      [')'] ++ pad = joinWith ['.'] (splitAt '.' module.toList) ++
        ([' ', '('] ++ (joinWith [',', ' '] (names.map (·.toList)) ++ ')' :: pad)) := by
    simp [joinWith_splitAt]
  have hread := readDotted_append (t := [' ', '('] ++
    (joinWith [',', ' '] (names.map (·.toList)) ++ ')' :: pad)) (splitAt_ne_nil '.' module.toList)
      (List.all_eq_true.mp hmodule) fun c hc => by
        obtain rfl := Option.some.inj hc
        decide
  have hopening : spaced (char '(') ([' ', '('] ++
      (joinWith [',', ' '] (names.map (·.toList)) ++ ')' :: pad)) =
        some ((), joinWith [',', ' '] (names.map (·.toList)) ++ ')' :: pad) := by
    obtain ⟨n, names, rfl⟩ := List.exists_cons_of_ne_nil hne
    rw [List.map_cons, joinWith_cons, List.append_assoc,
      spaced_char (t := n.toList ++ _) rfl, skipBlanks_name (hnames n (List.mem_cons_self ..))]
  have hclosing : spaced (char ')') (')' :: pad) = some ((), skipBlanks pad) := spaced_char rfl
  rw [htext]
  simp only [readImportList, hread, hopening, readNames_append hne hnames, hclosing,
    Option.bind_some, Option.map_some]
  rw [joinWith_splitAt, String.ofList_toList]

/-- The names of an import are read, with blanks behind them. -/
theorem exists_readImport {module : String} {names : List (String × String)}
    (h : Definition.isImport module names = true) (hpad : ∀ c ∈ pad, isBlankChar c = true) :
    ∃ pad', (∀ c ∈ pad', isBlankChar c = true) ∧ readImportList.orElse readImportOne
      (Definition.importText module.toList names ++ pad) = some (.imports module names, pad') := by
  by_cases hone : names.length = 1
  · obtain ⟨⟨own, imported⟩, rfl⟩ := List.length_eq_one_iff.mp hone
    exact ⟨pad, hpad, readImport_one h hpad⟩
  · obtain ⟨own, hne, hnames, rfl, hdotted, htext⟩ := Definition.exists_names_of_isImport h hone
    rw [htext]
    exact ⟨[], by simp, orElse_of_eq_some (by
      rw [readImport_list hdotted hne hnames, skipBlanks_eq_nil hpad])⟩

/-! ## Definitions -/

/-- An import begins with a name. -/
theorem isNameStart_of_readImport {found : Definition × List Char}
    (h : readImportList.orElse readImportOne s = some found) :
    ∀ c ∈ s.head?, isNameStart c = true := by
  intro c hc
  by_contra hstart
  have hnone : readDotted s = none := by
    rw [readDotted, sepBy1, readNameChars_eq_none fun d hd => ?_]
    · rfl
    · obtain rfl := Option.mem_unique hc hd
      exact Bool.eq_false_iff.mpr hstart
  rw [orElse_of_eq_none (by rw [readImportList, hnone]; rfl), readImportOne, hnone] at h
  cases h

theorem exists_readDirective_imports {module : String} {names : List (String × String)}
    (h : Definition.isImport module names = true) (hpad : ∀ c ∈ pad, isBlankChar c = true) :
    ∃ pad', (∀ c ∈ pad', isBlankChar c = true) ∧
      readDirective ((Definition.imports module names).text ++ pad) =
        some (.imports module names, pad') := by
  obtain ⟨pad', hpad', hread⟩ := exists_readImport h hpad
  have hskip : skipBlanks (' ' :: (Definition.importText module.toList names ++ pad)) =
      Definition.importText module.toList names ++ pad := by
    rw [skipBlanks_space]
    exact skipBlanks_eq_self fun c hc =>
      not_isBlankChar_of_isNameStart (isNameStart_of_readImport hread c hc)
  refine ⟨pad', hpad', ?_⟩
  rw [Definition.text, Definition.directiveText, List.append_assoc, List.cons_append]
  refine orElse_of_eq_some ?_
  simp only [word_append, Option.bind_some, hskip, hread]

theorem exists_readDirective_ignore (h : e.isNormal = true)
    (hpad : ∀ c ∈ pad, isBlankChar c = true) :
    ∃ pad', (∀ c ∈ pad', isBlankChar c = true) ∧
      readDirective ((Definition.ignore e).text ++ pad) = some (.ignore e, pad') := by
  obtain ⟨pad', hpad', hread⟩ := exists_readExpr_text h hpad
  have hkeyword : word "%import".toList ("%ignore".toList ++ ' ' :: (e.text ++ pad)) = none := by
    simp [word]
  refine ⟨pad', hpad', ?_⟩
  rw [Definition.text, Definition.directiveText, List.append_assoc, List.cons_append]
  refine (orElse_of_eq_none (by rw [hkeyword]; rfl)).trans ?_
  simp only [word_append, Option.bind_some, skipBlanks_space, hread, Option.map_some]

theorem not_isWhite_of_isNameStart (h : isNameStart c = true) : isWhite c = false :=
  Statement.not_isWhite_of_isIdentChar (isNameChar_of_isNameStart h)

theorem readDefinition_named (hname : isName name.toList = true)
    (hread : readNamed (name.toList ++ t) = .ok (d, pad))
    (hpad : ∀ c ∈ pad, isBlankChar c = true) : readDefinition (name.toList ++ t) = .ok d := by
  obtain ⟨c, u, hu, hstart⟩ := exists_name_append hname t
  rw [hu] at hread ⊢
  have hskip : skipBlanks (c :: u) = c :: u :=
    skipBlanks_cons (not_isBlankChar_of_isNameStart hstart) u
  have hmark : ((c :: u).dropWhile isWhite).head? ≠ some '%' := by
    rw [List.dropWhile_cons_of_neg (by simp [not_isWhite_of_isNameStart hstart])]
    rintro heq
    obtain rfl := Option.some.inj heq
    exact absurd hstart (by decide)
  simp [readDefinition, hskip, hmark, hread, skipBlanks_eq_nil hpad, bind, Except.bind]

theorem readDefinition_directive (htext : ∃ t, d.text = '%' :: t)
    (hread : readDirective (d.text ++ rest) = some (d, pad))
    (hpad : ∀ c ∈ pad, isBlankChar c = true) : readDefinition (d.text ++ rest) = .ok d := by
  obtain ⟨t, ht⟩ := htext
  rw [ht, List.cons_append] at hread ⊢
  have hskip : skipBlanks ('%' :: (t ++ rest)) = '%' :: (t ++ rest) := rfl
  have hmark : (('%' :: (t ++ rest)).dropWhile isWhite).head? = some '%' := rfl
  simp [readDefinition, hskip, hmark, hread, skipBlanks_eq_nil hpad, bind, Except.bind]

/-- What is written for a definition is read as it. -/
theorem readDefinition_text (h : d.isNormal = true) (hpad : ∀ c ∈ pad, isBlankChar c = true) :
    readDefinition (d.text ++ pad) = .ok d := by
  cases d with
  | rule name body =>
    simp only [Definition.isNormal, Bool.and_eq_true, Bool.not_eq_true'] at h
    obtain ⟨⟨hname, hkind⟩, hbody⟩ := h
    obtain ⟨pad', hpad', hread⟩ := exists_readNamed hname hbody hpad
    rw [hkind, if_neg Bool.false_ne_true] at hread
    rw [Definition.text, List.append_assoc, List.append_assoc]
    exact readDefinition_named hname hread hpad'
  | terminal name body =>
    simp only [Definition.isNormal, Bool.and_eq_true] at h
    obtain ⟨⟨hname, hkind⟩, hbody⟩ := h
    obtain ⟨pad', hpad', hread⟩ := exists_readNamed hname hbody hpad
    rw [if_pos hkind] at hread
    rw [Definition.text, List.append_assoc, List.append_assoc]
    exact readDefinition_named hname hread hpad'
  | imports module names =>
    obtain ⟨pad', hpad', hread⟩ := exists_readDirective_imports h hpad
    exact readDefinition_directive ⟨_, rfl⟩ hread hpad'
  | ignore body =>
    obtain ⟨pad', hpad', hread⟩ := exists_readDirective_ignore h hpad
    exact readDefinition_directive ⟨_, rfl⟩ hread hpad'

end QueryGate.Ebnf
