import QueryGate.Proofs.Shipped.Readings
import QueryGate.Proofs.Shipped.Rejected
import QueryGate.Proofs.Statement.NormalForm
import QueryGate.Request.Pipeline

/-!
# What passes the gates is accepted again

The engine is given the statement that the normalizer makes of a candidate, not the candidate that
was validated. Where the normalizer takes off no comment and finds the directive that the grammar
has read, the statement is accepted too (`validate_of_check_shipped`). Neither can be left out
(`exists_check_shipped_not_valid`) : the grammar reads comments as minus signs, and it reads
directives that the normalizer does not find.
-/

namespace QueryGate

open Ebnf Regex Text Statement

variable {g : Grammar} {text q : List Char}

theorem validate_recognize_iff :
    validate recognize g text = .ok () ↔ (recognize g text).accepted = true := by
  rw [← diagnostic_eq_none_iff]
  unfold validate
  cases h : (recognize g text).diagnostic with
  | none => simp [h, diagnostic_eq_none_iff.mp h]
  | some d => simp [h]

theorem checkQuery_eq_ok_iff {recognizer : Recognizer} {normalizer : Normalizer} :
    checkQuery recognizer normalizer g text = some (.ok q) ↔
      validate recognizer g text = .ok () ∧ normalizer.normalize text = .query q := by
  unfold checkQuery
  cases validate recognizer g text with
  | error d => simp
  | ok u =>
    cases normalizer.normalize text <;> simp

namespace Shipped

/-- A text that the shipped grammar accepts, in which the normalizer finds no comments and behind
which it finds the directive, is made into a statement that is accepted too. -/
theorem validate_of_check_shipped {m : Type → Type} [Monad m] {p : Pipeline m} {session : Session}
    (hshipped : Grammar.shipped = .ok session.catalog.current)
    (hrecognizer : p.recognizer = recognize) (hnormalizer : p.normalizer = .default)
    (hcomments : ∀ mark ∈ ["--", "/*"], ¬OccursOutside mark.toList text)
    (hdirective : ∃ before, endingOf (trimSeparators (trim text)) = .directive before)
    (h : p.check session text = some (.ok q)) :
    validate p.recognizer session.catalog.current q = .ok () := by
  rw [Pipeline.check, hrecognizer, hnormalizer, checkQuery_eq_ok_iff] at h
  obtain ⟨hvalid, hnormal⟩ := h
  obtain ⟨b, hb, -, rfl⟩ := Normalizer.normalize_eq_query_iff.mp hnormal
  rw [withoutComments_eq_self_iff.mpr hcomments] at hb
  have hformat : Normalizer.default.format = "JSON".toList := by decide
  rw [hrecognizer, hformat, validate_recognize_iff]
  exact (isShipped_of_shipped hshipped).accepted_withFormat (validate_recognize_iff.mp hvalid) hb
    hdirective

/-- A pipeline whose collaborators never answer. -/
def offline : Pipeline Option where
  model := ⟨"none", "none", .textOnly, fun _ _ => none⟩
  engine := ⟨"none", fun _ => none, none⟩
  clock := ⟨none, none, none⟩
  schema := .employees
  recognizer := recognize
  normalizer := .default

/-- The directive is written anew, and no separator stands behind it. -/
theorem validate_of_check_shipped_offline : ∃ session : Session,
    Grammar.shipped = .ok session.catalog.current ∧
      offline.check session "select(null)\nformat json;".toList =
        some (.ok "select(null) FORMAT JSON".toList) ∧
      validate recognize session.catalog.current "select(null) FORMAT JSON".toList = .ok () := by
  obtain ⟨g, hshipped, hfor, hignored⟩ := exists_shipped
  have hg : IsShipped g := ⟨hfor, hignored⟩
  have haccepted : (recognize g "select(null)\nformat json;".toList).accepted = true := by
    refine hg.accepted_of_derives 80 [selectLexeme, .literal "(" false, .literal "NULL" true,
      .literal ")" false, formatLexeme, jsonLexeme, separatorLexeme] ?_ ?_ ?_ <;> decide +kernel
  have hcheck : offline.check ⟨⟨none, Grammar.shippedRoot, g⟩, none⟩
      "select(null)\nformat json;".toList = some (.ok "select(null) FORMAT JSON".toList) :=
    checkQuery_eq_ok_iff.mpr ⟨validate_recognize_iff.mpr haccepted, by decide +kernel⟩
  exact ⟨_, hshipped, hcheck, validate_of_check_shipped hshipped rfl rfl
    (withoutComments_eq_self_iff.mp (by decide +kernel))
    ⟨"select(null)".toList, by decide +kernel⟩ hcheck⟩

/-! ## Where the two read a text differently -/

/-- Where two minus signs are taken for a comment, nothing is left of what was to be selected; and
where a directive is glued to a number, it is not found and another is put behind it. -/
theorem exists_check_shipped_not_valid : ∃ g, Grammar.shipped = .ok g ∧
    (∃ q, checkQuery recognize .default g "SELECT --NULL FORMAT JSON".toList = some (.ok q) ∧
      validate recognize g q ≠ .ok ()) ∧
    ∃ q, checkQuery recognize .default g "SELECT 1FORMAT JSON".toList = some (.ok q) ∧
      validate recognize g q ≠ .ok () := by
  obtain ⟨g, hshipped, hfor, hignored⟩ := exists_shipped
  have hg : IsShipped g := ⟨hfor, hignored⟩
  refine ⟨g, hshipped, ⟨"SELECT FORMAT JSON".toList, checkQuery_eq_ok_iff.mpr ⟨?_, ?_⟩, ?_⟩,
    ⟨"SELECT 1FORMAT JSON FORMAT JSON".toList, checkQuery_eq_ok_iff.mpr ⟨?_, ?_⟩, ?_⟩⟩
  · refine validate_recognize_iff.mpr (hg.accepted_of_derives 61 [selectLexeme,
      .literal "-" false, .literal "-" false, .literal "NULL" true, formatLexeme, jsonLexeme]
      ?_ ?_ ?_) <;> decide +kernel
  · decide +kernel
  · rw [Ne, validate_recognize_iff, hg.not_accepted_select]
    exact Bool.false_ne_true
  · refine validate_recognize_iff.mpr (hg.accepted_iff.mpr ⟨19, by decide, by simp,
      matches_readsAs (hg.matches_of_readAll? [] 61 [selectLexeme, .named "NUMBER", formatLexeme,
        jsonLexeme] ?_ ?_ ?_)⟩) <;> decide +kernel
  · decide +kernel
  · rw [Ne, validate_recognize_iff, hg.not_accepted_glued]
    exact Bool.false_ne_true

end Shipped

end QueryGate
