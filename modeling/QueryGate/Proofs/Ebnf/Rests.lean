import Mathlib.Data.List.Infix
import Mathlib.Tactic.SplitIfs
import QueryGate.Ebnf.Reader

/-!
# What is left unread

The readers of a definition take what they read off the front of the text (`Reader.TakesFront`), so
where reading fails the rest is the end of the text (`isSuffix_of_readDefinition`).
-/

namespace QueryGate

namespace Text.Reader

variable {α β : Type} {p : Reader α} {s rest : List Char}

/-- What the reader leaves is the end of the text. -/
def TakesFront (p : Reader α) : Prop :=
  ∀ ⦃s a rest⦄, p s = some (a, rest) → rest <:+ s

theorem takesFront_char (c : Char) : TakesFront (char c) := by
  intro s a rest h
  cases s with
  | nil => cases h
  | cons d s =>
    rw [char] at h
    split_ifs at h
    obtain ⟨-, rfl⟩ := Prod.mk.inj (Option.some.inj h)
    exact List.suffix_cons ..

theorem takesFront_word (w : List Char) : TakesFront (word w) := by
  induction w with
  | nil =>
    intro s a rest h
    obtain ⟨-, rfl⟩ := Prod.mk.inj (Option.some.inj h)
    exact List.suffix_refl _
  | cons c w ih =>
    intro s a rest h
    cases s with
    | nil => cases h
    | cons d s =>
      rw [word] at h
      split_ifs at h
      exact (ih h).trans (List.suffix_cons ..)

theorem takesFront_run1 (test : Char → Bool) : TakesFront (run1 test) := by
  intro s a rest h
  rw [run1] at h
  split at h
  · cases h
  · obtain ⟨-, rfl⟩ := Prod.mk.inj (Option.some.inj h)
    exact List.dropWhile_suffix _

theorem TakesFront.orElse {q : Reader α} (hp : p.TakesFront) (hq : q.TakesFront) :
    TakesFront (p.orElse q) := by
  intro s a rest h
  rcases Option.or_eq_some_iff.mp h with h | ⟨-, h⟩
  · exact hp h
  · exact hq h

/-- Another value is made of what was read. -/
theorem TakesFront.map {f : α → β} (hp : p.TakesFront) :
    TakesFront fun s => (p s).map fun (a, rest) => (f a, rest) := by
  intro s b rest h
  obtain ⟨⟨a, rest'⟩, ha, heq⟩ := Option.map_eq_some_iff.mp h
  obtain ⟨-, rfl⟩ := Prod.mk.inj heq
  exact hp ha

theorem TakesFront.many (hp : p.TakesFront) (s : List Char) : (Reader.many p s).2 <:+ s := by
  fun_induction Reader.many p s with
  | case1 s a rest h _ as last hm ih =>
    rw [hm] at ih
    exact ih.trans (hp h)
  | case2 => exact List.suffix_refl _
  | case3 => exact List.suffix_refl _

theorem TakesFront.sepBy1 {sep : Reader Unit} (hsep : sep.TakesFront) (hp : p.TakesFront) :
    TakesFront (Reader.sepBy1 sep p) := by
  intro s as rest h
  obtain ⟨⟨a, t⟩, ha, heq⟩ := Option.map_eq_some_iff.mp h
  obtain ⟨-, rfl⟩ := Prod.mk.inj heq
  refine (TakesFront.many (fun s b rest hb => ?_) t).trans (hp ha)
  obtain ⟨⟨_, u⟩, hu, hb⟩ := Option.bind_eq_some_iff.mp hb
  exact (hp hb).trans (hsep hu)

end Text.Reader

namespace Ebnf

open Text Reader

variable {α : Type} {inner : Reader Expr} {s text rest : List Char}

theorem isSuffix_skipBlanks (s : List Char) : skipBlanks s <:+ s :=
  List.dropWhile_suffix _

theorem takesFront_spaced {p : Reader α} (hp : p.TakesFront) : TakesFront (spaced p) := by
  intro s a rest h
  obtain ⟨⟨a', t⟩, ht, heq⟩ := Option.map_eq_some_iff.mp h
  obtain ⟨-, rfl⟩ := Prod.mk.inj heq
  exact (isSuffix_skipBlanks t).trans ((hp ht).trans (isSuffix_skipBlanks s))

/-! ## Names, numbers and quoted texts -/

theorem takesFront_readNameChars : TakesFront readNameChars := by
  intro s a rest h
  cases s with
  | nil => cases h
  | cons c s =>
    rw [readNameChars] at h
    split_ifs at h
    obtain ⟨-, rfl⟩ := Prod.mk.inj (Option.some.inj h)
    exact (List.dropWhile_suffix _).trans (List.suffix_cons ..)

theorem takesFront_readName : TakesFront readName :=
  takesFront_readNameChars.map

theorem takesFront_readDotted : TakesFront readDotted :=
  (takesFront_char '.').sepBy1 takesFront_readNameChars

theorem takesFront_readBound : TakesFront readBound := by
  intro s n rest h
  obtain ⟨⟨digits, t⟩, ht, h⟩ := Option.bind_eq_some_iff.mp h
  dsimp only at h
  split_ifs at h
  obtain ⟨-, rfl⟩ := Prod.mk.inj (Option.some.inj h)
  exact takesFront_run1 _ ht

theorem takesFront_readStringBody : TakesFront readStringBody := by
  intro s cs rest h
  fun_induction readStringBody s generalizing cs with
  | case1 => cases h
  | case2 c s hquote =>
    obtain ⟨-, rfl⟩ := Prod.mk.inj (Option.some.inj h)
    exact List.suffix_cons ..
  | case3 => cases h
  | case4 c hquote hslash e s ih =>
    obtain ⟨⟨cs', t⟩, ht, heq⟩ := Option.map_eq_some_iff.mp h
    obtain ⟨-, rfl⟩ := Prod.mk.inj heq
    exact (ih ht).trans ((List.suffix_cons ..).trans (List.suffix_cons ..))
  | case5 c s hquote hslash ih =>
    obtain ⟨⟨cs', t⟩, ht, heq⟩ := Option.map_eq_some_iff.mp h
    obtain ⟨-, rfl⟩ := Prod.mk.inj heq
    exact (ih ht).trans (List.suffix_cons ..)

theorem takesFront_readString : TakesFront readString := by
  intro s cs rest h
  unfold readString at h
  split at h
  · exact (takesFront_readStringBody h).trans (List.suffix_cons ..)
  · cases h

theorem isSuffix_readCaseFlag (s : List Char) : (readCaseFlag s).2 <:+ s := by
  unfold readCaseFlag
  split
  · split_ifs
    · exact List.suffix_refl _
    · exact List.suffix_cons ..
  · exact List.suffix_refl _

theorem takesFront_readLiteral : TakesFront readLiteral := by
  intro s e rest h
  obtain ⟨⟨cs, t⟩, ht, heq⟩ := Option.map_eq_some_iff.mp h
  obtain ⟨-, rfl⟩ := Prod.mk.inj heq
  exact (isSuffix_readCaseFlag t).trans (takesFront_readString ht)

theorem takesFront_readRange : TakesFront readRange := by
  intro s e rest h
  obtain ⟨⟨a, s₁⟩, h₁, h⟩ := Option.bind_eq_some_iff.mp h
  obtain ⟨⟨_, s₂⟩, h₂, h⟩ := Option.bind_eq_some_iff.mp h
  obtain ⟨⟨b, s₃⟩, h₃, h⟩ := Option.bind_eq_some_iff.mp h
  have hend : s₃ <:+ s := (takesFront_readString h₃).trans
    ((takesFront_spaced (takesFront_word _) h₂).trans (takesFront_readString h₁))
  dsimp only at h
  split at h
  · split_ifs at h
    obtain ⟨-, rfl⟩ := Prod.mk.inj (Option.some.inj h)
    exact hend
  · cases h

theorem takesFront_readPatternBody : TakesFront readPatternBody := by
  intro s cs rest h
  fun_induction readPatternBody s generalizing cs with
  | case1 => cases h
  | case2 c s hslash =>
    obtain ⟨-, rfl⟩ := Prod.mk.inj (Option.some.inj h)
    exact List.suffix_cons ..
  | case3 => cases h
  | case4 c hslash hback e s ih =>
    obtain ⟨⟨cs', t⟩, ht, heq⟩ := Option.map_eq_some_iff.mp h
    obtain ⟨-, rfl⟩ := Prod.mk.inj heq
    exact (ih ht).trans ((List.suffix_cons ..).trans (List.suffix_cons ..))
  | case5 c s hslash hback ih =>
    obtain ⟨⟨cs', t⟩, ht, heq⟩ := Option.map_eq_some_iff.mp h
    obtain ⟨-, rfl⟩ := Prod.mk.inj heq
    exact (ih ht).trans (List.suffix_cons ..)

theorem takesFront_readPattern : TakesFront readPattern := by
  intro s e rest h
  obtain ⟨⟨_, body⟩, hbody, h⟩ := Option.bind_eq_some_iff.mp h
  obtain ⟨⟨cs, t⟩, ht, h⟩ := Option.bind_eq_some_iff.mp h
  dsimp only at h
  split_ifs at h
  obtain ⟨-, rfl⟩ := Prod.mk.inj (Option.some.inj h)
  exact (List.dropWhile_suffix _).trans
    ((takesFront_readPatternBody ht).trans (takesFront_char _ hbody))

theorem takesFront_readReference : TakesFront readReference := by
  intro s e rest h
  obtain ⟨⟨n, t⟩, ht, h⟩ := Option.bind_eq_some_iff.mp h
  dsimp only at h
  split_ifs at h
  obtain ⟨-, rfl⟩ := Prod.mk.inj (Option.some.inj h)
  exact takesFront_readName ht

/-! ## Expressions -/

theorem takesFront_readRepetition : TakesFront readRepetition := by
  have hcons : ∀ {c : Char} {s rest : List Char} {n n' : Nat × Option Nat},
      some (n, s) = some (n', rest) → rest <:+ c :: s := by
    intro c s rest n n' h
    obtain ⟨-, rfl⟩ := Prod.mk.inj (Option.some.inj h)
    exact List.suffix_cons ..
  intro s n rest h
  unfold readRepetition at h
  split at h
  · exact hcons h
  · exact hcons h
  · exact hcons h
  · obtain ⟨⟨_, s₁⟩, h₁, h⟩ := Option.bind_eq_some_iff.mp h
    obtain ⟨⟨least, s₂⟩, h₂, h⟩ := Option.map_eq_some_iff.mp h
    have hend : s₂ <:+ _ :=
      (takesFront_readBound h₂).trans (takesFront_spaced (takesFront_char _) h₁)
    dsimp only at h
    split at h
    · next m t hm =>
      obtain ⟨-, rfl⟩ := Prod.mk.inj h
      obtain ⟨⟨_, s₃⟩, h₃, hm⟩ := Option.bind_eq_some_iff.mp hm
      exact (takesFront_readBound hm).trans
        ((takesFront_spaced (takesFront_word _) h₃).trans hend)
    · obtain ⟨-, rfl⟩ := Prod.mk.inj h
      exact hend

theorem takesFront_readEnclosed (hinner : inner.TakesFront) (opening closing : Char) :
    TakesFront (readEnclosed inner opening closing) := by
  intro s e rest h
  obtain ⟨⟨_, s₁⟩, h₁, h⟩ := Option.bind_eq_some_iff.mp h
  obtain ⟨⟨e', s₂⟩, h₂, h⟩ := Option.bind_eq_some_iff.mp h
  obtain ⟨⟨_, s₃⟩, h₃, heq⟩ := Option.map_eq_some_iff.mp h
  obtain ⟨-, rfl⟩ := Prod.mk.inj heq
  exact (takesFront_char _ h₃).trans
    ((takesFront_spaced hinner h₂).trans (takesFront_char _ h₁))

theorem takesFront_readAtom (hinner : inner.TakesFront) : TakesFront (readAtom inner) :=
  (takesFront_readEnclosed hinner '(' ')').orElse <|
    ((takesFront_readEnclosed hinner '[' ']').map (f := (.rep · 0 (some 1)))).orElse <|
    takesFront_readRange.orElse <| takesFront_readLiteral.orElse <|
    takesFront_readPattern.orElse takesFront_readReference

theorem takesFront_readItem (hinner : inner.TakesFront) : TakesFront (readItem inner) := by
  intro s e rest h
  obtain ⟨⟨e', t⟩, ht, heq⟩ := Option.map_eq_some_iff.mp h
  have hend := takesFront_readAtom hinner ht
  dsimp only at heq
  split at heq
  · next hn =>
    obtain ⟨-, rfl⟩ := Prod.mk.inj heq
    exact (takesFront_readRepetition hn).trans hend
  · obtain ⟨-, rfl⟩ := Prod.mk.inj heq
    exact hend

theorem takesFront_readAlternative (hinner : inner.TakesFront) :
    TakesFront (readAlternative inner) := by
  have hitem : TakesFront fun t => readItem inner (skipBlanks t) := fun t e rest h =>
    (takesFront_readItem hinner h).trans (isSuffix_skipBlanks t)
  intro s e rest h
  have hend := hitem.many s
  unfold readAlternative at h
  dsimp only at h
  split at h
  · next hname =>
    obtain ⟨-, rfl⟩ := Prod.mk.inj (Option.some.inj h)
    obtain ⟨⟨_, t⟩, ht, hname⟩ := Option.bind_eq_some_iff.mp hname
    exact (takesFront_readName hname).trans
      ((takesFront_spaced (takesFront_word _) ht).trans hend)
  · obtain ⟨-, rfl⟩ := Prod.mk.inj (Option.some.inj h)
    exact hend

theorem takesFront_readChoice (hinner : inner.TakesFront) : TakesFront (readChoice inner) :=
  ((takesFront_spaced (takesFront_char '|')).sepBy1 (takesFront_readAlternative hinner)).map

theorem takesFront_readExprAt (depth : Nat) : TakesFront (readExprAt depth) := by
  induction depth with
  | zero => exact fun s e rest h => nomatch h
  | succ depth ih => exact takesFront_readChoice ih

theorem takesFront_readExpr : TakesFront readExpr :=
  fun _ _ _ h => takesFront_readExprAt _ h

/-! ## Definitions -/

theorem isSuffix_unmarked (s : List Char) : (match s with
    | c :: rest => if c == '?' || c == '!' then rest else s
    | [] => s) <:+ s := by
  split
  · split_ifs
    · exact List.suffix_cons ..
    · exact List.suffix_refl _
  · exact List.suffix_refl _

theorem isSuffix_of_readHead_error (h : readHead s = .error rest) : rest <:+ s := by
  unfold readHead at h
  dsimp only at h
  split at h
  · obtain rfl := Except.error.inj h
    exact isSuffix_unmarked s
  · cases h

theorem isSuffix_of_readHead {name : String} (h : readHead s = .ok (name, rest)) : rest <:+ s := by
  unfold readHead at h
  dsimp only at h
  split at h
  · cases h
  · next name' t hname =>
    obtain ⟨-, rfl⟩ := Prod.mk.inj (Except.ok.inj h)
    have hend : t <:+ s := (takesFront_readName hname).trans (isSuffix_unmarked s)
    have hpast : ∀ priority : Option (List Char × List Char), (∀ p ∈ priority, p.2 <:+ t) →
        (priority.map (·.2)).getD t <:+ t := by
      rintro (_ | p) hp
      · exact List.suffix_rfl
      · exact hp p rfl
    refine (hpast _ fun p hp => ?_).trans hend
    obtain ⟨⟨_, u⟩, hu, hdigits⟩ := Option.bind_eq_some_iff.mp hp
    have hsign : (if u.head? == some '-' then u.drop 1 else u) <:+ u := by
      split_ifs
      · exact List.drop_suffix ..
      · exact List.suffix_refl _
    exact (takesFront_run1 _ hdigits).trans (hsign.trans (takesFront_char _ hu))

theorem isSuffix_of_readNamed_error (h : readNamed s = .error rest) : rest <:+ s := by
  unfold readNamed at h
  cases hhead : readHead s with
  | error t =>
    rw [hhead] at h
    obtain rfl := Except.error.inj h
    exact isSuffix_of_readHead_error hhead
  | ok found =>
    obtain ⟨name, t⟩ := found
    have hend := isSuffix_of_readHead hhead
    simp only [hhead, bind, Except.bind] at h
    split at h
    · obtain rfl := Except.error.inj h
      exact (isSuffix_skipBlanks t).trans hend
    · next body hbody =>
      split at h
      · obtain rfl := Except.error.inj h
        exact (takesFront_spaced (takesFront_char _) hbody).trans hend
      · cases h

theorem isSuffix_of_readNamed {d : Definition} (h : readNamed s = .ok (d, rest)) : rest <:+ s := by
  unfold readNamed at h
  cases hhead : readHead s with
  | error t =>
    rw [hhead] at h
    cases h
  | ok found =>
    obtain ⟨name, t⟩ := found
    have hend := isSuffix_of_readHead hhead
    simp only [hhead, bind, Except.bind] at h
    split at h
    · cases h
    · next body hbody =>
      split at h
      · cases h
      · next e last he =>
        obtain ⟨-, rfl⟩ := Prod.mk.inj (Except.ok.inj h)
        exact (takesFront_readExpr he).trans
          ((takesFront_spaced (takesFront_char _) hbody).trans hend)

theorem takesFront_readImportList : TakesFront readImportList := by
  intro s d rest h
  obtain ⟨⟨path, s₁⟩, h₁, h⟩ := Option.bind_eq_some_iff.mp h
  obtain ⟨⟨_, s₂⟩, h₂, h⟩ := Option.bind_eq_some_iff.mp h
  obtain ⟨⟨names, s₃⟩, h₃, h⟩ := Option.bind_eq_some_iff.mp h
  obtain ⟨⟨_, s₄⟩, h₄, heq⟩ := Option.map_eq_some_iff.mp h
  obtain ⟨-, rfl⟩ := Prod.mk.inj heq
  calc s₄
    _ <:+ s₃ := takesFront_spaced (takesFront_char _) h₄
    _ <:+ s₂ := (takesFront_spaced (takesFront_char _)).sepBy1 takesFront_readName h₃
    _ <:+ s₁ := takesFront_spaced (takesFront_char _) h₂
    _ <:+ s := takesFront_readDotted h₁

theorem takesFront_readImportOne : TakesFront readImportOne := by
  intro s d rest h
  obtain ⟨⟨path, s₁⟩, h₁, heq⟩ := Option.map_eq_some_iff.mp h
  have hend := takesFront_readDotted h₁
  dsimp only at heq
  split at heq
  · next halias =>
    obtain ⟨-, rfl⟩ := Prod.mk.inj heq
    obtain ⟨⟨_, s₂⟩, h₂, halias⟩ := Option.bind_eq_some_iff.mp halias
    exact (takesFront_readName halias).trans
      ((takesFront_spaced (takesFront_word _) h₂).trans hend)
  · obtain ⟨-, rfl⟩ := Prod.mk.inj heq
    exact hend

theorem takesFront_readDirective : TakesFront readDirective := by
  refine TakesFront.orElse ?_ ?_
  · intro s d rest h
    obtain ⟨⟨_, t⟩, ht, h⟩ := Option.bind_eq_some_iff.mp h
    exact (takesFront_readImportList.orElse takesFront_readImportOne h).trans
      ((isSuffix_skipBlanks t).trans (takesFront_word _ ht))
  · intro s d rest h
    obtain ⟨⟨_, t⟩, ht, h⟩ := Option.bind_eq_some_iff.mp h
    exact (takesFront_readExpr.map h).trans
      ((isSuffix_skipBlanks t).trans (takesFront_word _ ht))

/-- Where a definition cannot be read, the rest is the end of its text. -/
theorem isSuffix_of_readDefinition (h : readDefinition text = .error rest) : rest <:+ text := by
  refine List.IsSuffix.trans ?_ (isSuffix_skipBlanks text)
  unfold readDefinition at h
  dsimp only at h
  split_ifs at h
  · cases hd : readDirective (skipBlanks text) with
    | none =>
      simp only [hd, bind, Except.bind] at h
      obtain rfl := Except.error.inj h
      exact List.suffix_refl _
    | some found =>
      obtain ⟨d, t⟩ := found
      simp only [hd, bind, Except.bind] at h
      split_ifs at h
      obtain rfl := Except.error.inj h
      exact (isSuffix_skipBlanks t).trans (takesFront_readDirective hd)
  · cases hd : readNamed (skipBlanks text) with
    | error t =>
      simp only [hd, bind, Except.bind] at h
      obtain rfl := Except.error.inj h
      exact isSuffix_of_readNamed_error hd
    | ok found =>
      obtain ⟨d, t⟩ := found
      simp only [hd, bind, Except.bind] at h
      split_ifs at h
      obtain rfl := Except.error.inj h
      exact (isSuffix_skipBlanks t).trans (isSuffix_of_readNamed hd)

end Ebnf

end QueryGate
