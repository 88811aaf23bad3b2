import QueryGate.Proofs.Json.Records
import QueryGate.Proofs.Json.Written
import QueryGate.Proofs.RequestLog.Basic

/-!
# Entries that are kept and lines that are written

Whatever becomes of the file of a log, the entries it keeps are the last ones recorded. A file that
can be written gets a line for each entry, from which the entry is read back
(`RequestLog.recent_and_lines`).
-/

namespace QueryGate

open Json

namespace LogEntry

variable {e : LogEntry}

/-- The time and the identifier of an entry are read back from their texts, and its numbers have 64
bits. -/
structure IsStorable (e : LogEntry) : Prop where
  time : Timestamp.ofText? e.time.text = some e.time
  request : Identifier.ofText? e.request.text = some e.request
  rows : ∀ n ∈ e.rowsReturned, n < 2 ^ 64
  elapsed : e.elapsedMs < 2 ^ 64

theorem stringAs?_ofList {α : Type} {read : List Char → Option α} {s : List Char} {a : α}
    (h : read s = some a) : stringAs? read (.string (String.ofList s)) = some a := by
  rw [stringAs?, Json.string?, Option.bind_some, String.toList_ofList, h]

/-- An entry is read back from its object. -/
theorem ofJson?_toJson (h : e.IsStorable) : ofJson? e.toJson = some e := by
  obtain ⟨r, hr, hfields⟩ := Record.exists_ofJson?_zip (by decide : keys.Nodup) e.values
  have htime : r.required? 0 (stringAs? Timestamp.ofText?) = some e.time :=
    (Record.required?_of_field (hfields 0 (by decide)) _).trans (stringAs?_ofList h.time)
  have hrequest : r.required? 1 (stringAs? Identifier.ofText?) = some e.request :=
    (Record.required?_of_field (hfields 1 (by decide)) _).trans (stringAs?_ofList h.request)
  have hquestion : r.required? 2 Json.string? = some e.question :=
    Record.required?_of_field (hfields 2 (by decide)) _
  have hquery : r.optional? 3 Json.string? = some e.generatedQuery :=
    Record.optional?_stringOrNull (hfields 3 (by decide))
  have hstate : r.required? 4 Json.string? = some e.finalState :=
    Record.required?_of_field (hfields 4 (by decide)) _
  have hkind : r.optional? 5 Json.string? = some e.errorKind :=
    Record.optional?_stringOrNull (hfields 5 (by decide))
  have hmessage : r.optional? 6 Json.string? = some e.errorMessage :=
    Record.optional?_stringOrNull (hfields 6 (by decide))
  have hrows : r.optional? 7 Json.nat? = some e.rowsReturned :=
    Record.optional?_of_field (hfields 7 (by decide)) fun n hn => ⟨nofun, nat?_nat (h.rows n hn)⟩
  have helapsed : r.required? 8 Json.nat? = some e.elapsedMs :=
    (Record.required?_of_field (hfields 8 (by decide)) _).trans (nat?_nat h.elapsed)
  rw [ofJson?, toJson, hr]
  simp only [Option.bind_eq_bind, Option.bind_some, Option.pure_def, htime, hrequest, hquestion,
    hquery, hstate, hkind, hmessage, hrows, helapsed]

theorem isPlain_toJson (h : e.IsStorable) (d : Nat) : IsPlain (d + 1) e.toJson := by
  have hrows : IsPlain d (e.rowsReturned.elim .null .nat) := by
    cases hn : e.rowsReturned with
    | none => exact .null
    | some n => exact .nat (h.rows n hn)
  have hvalues : ∀ v ∈ e.values, IsPlain d v := by
    simp only [values, List.forall_mem_cons]
    exact ⟨.string _, .string _, .string _, .stringOrNull _, .string _, .stringOrNull _,
      .stringOrNull _, hrows, .nat h.elapsed, nofun⟩
  exact .object_zip hvalues

end LogEntry

namespace RequestLog

variable {α : Type} {k n : Nat} {xs : List α} {log : RequestLog} {es : List LogEntry}

/-- The last of the last items. -/
theorem last_last : last k (last n xs) = last (min k (min n xs.length)) xs := by
  rw [last, length_last, last, List.drop_drop, last]
  congr 1
  omega

/-- A log that records an entry after something has happened to its file. -/
def recordAfter (log : RequestLog) (turn : (LogFile → LogFile) × LogEntry) : RequestLog :=
  { log with file := turn.1 log.file }.record turn.2

/-- What happens to the file does not touch the entries. -/
theorem entries_foldl_recordAfter (turns : List ((LogFile → LogFile) × LogEntry))
    {log log' : RequestLog} (hcapacity : log.capacity = log'.capacity)
    (hentries : log.entries = log'.entries) :
    (turns.foldl recordAfter log).entries = ((turns.map Prod.snd).foldl record log').entries := by
  induction turns generalizing log log' with
  | nil => exact hentries
  | cons turn turns ih =>
    refine ih hcapacity ?_
    simp only [recordAfter, record, hcapacity, hentries]

/-- The file gets the lines of all entries, in order. -/
theorem file_foldl_record {text : List Char} (h : log.file = .written text) :
    (es.foldl record log).file = .written (text ++ es.flatMap line) := by
  induction es generalizing log text with
  | nil => rw [List.flatMap_nil, List.append_nil, List.foldl_nil, h]
  | cons e es ih =>
    have hfile : (log.record e).file = .written (text ++ line e) := by
      simp only [record, append, h]
    rw [List.foldl_cons, ih hfile, List.flatMap_cons, List.append_assoc]

/-- Of any sequence of records the last ones are kept, whatever happens to the file; and a file
that starts empty and can be written gets a line for each entry, from which it is read back. -/
theorem recent_and_lines (n : Nat) :
    (∀ (file : LogFile) (turns : List ((LogFile → LogFile) × LogEntry)) (k : Nat),
      let log := turns.foldl recordAfter (.empty n file)
      let es := turns.map Prod.snd
      log.entries.length ≤ n ∧ log.entries = es.rtake n ∧
        log.recent k = es.rtake (min k (min n es.length))) ∧
    ∀ es : List LogEntry, (∀ e ∈ es, e.IsStorable) → ∃ lines : List (List Char),
      (es.foldl record (.empty n (.written []))).file = .written (lines.flatMap (· ++ ['\n'])) ∧
        lines.length = es.length ∧ (∀ l ∈ lines, '\n' ∉ l) ∧
        lines.map (fun l => (read? l).bind LogEntry.ofJson?) = es.map some := by
  refine ⟨fun file turns k => ?_, fun es hes => ?_⟩
  · intro log es
    have hentries : log.entries = es.rtake n :=
      (entries_foldl_recordAfter turns rfl rfl).trans (entries_foldl_record_empty n file es)
    have hlast : log.entries = last n es := hentries
    refine ⟨?_, hentries, ?_⟩
    · rw [hlast, length_last]
      exact Nat.min_le_left n es.length
    · rw [recent, hlast, last_last, last_eq_rtake]
  · have hplain : ∀ e ∈ es, IsPlain maxDepth e.toJson := fun e he => e.isPlain_toJson (hes e he) 126
    refine ⟨es.map fun e => e.toJson.write, ?_, List.length_map .., ?_, ?_⟩
    · rw [file_foldl_record rfl, List.nil_append, List.flatMap_map]
      rfl
    · exact List.forall_mem_map.mpr fun e he => newline_not_mem_write (hplain e he)
    · rw [List.map_map]
      refine List.map_congr_left fun e he => ?_
      rw [Function.comp_apply, read?_write (hplain e he), Option.bind_some,
        LogEntry.ofJson?_toJson (hes e he)]

/-- An entry whose texts have quotes, line breaks, control characters and letters beyond ASCII. -/
def awkwardEntry : LogEntry where
  time := .ofUnix 1709210096 789000000
  request := .ofRandom 7
  question := "wer \"fehlt\"?\r\nÜbersicht\u0001"
  generatedQuery := some "SELECT '\\n'\nFORMAT JSON"
  finalState := "executed"
  errorKind := none
  errorMessage := some ""
  rowsReturned := some 0
  elapsedMs := 12

theorem isStorable_awkwardEntry : awkwardEntry.IsStorable where
  time := by decide +kernel
  request := by decide +kernel
  rows := by decide
  elapsed := by decide

theorem lines_awkwardEntry :
    (∀ e ∈ [awkwardEntry, awkwardEntry], e.IsStorable) ∧ ∃ lines : List (List Char),
      ([awkwardEntry, awkwardEntry].foldl record (.empty 1 (.written []))).file =
          .written (lines.flatMap (· ++ ['\n'])) ∧
        lines.length = 2 ∧ (∀ l ∈ lines, '\n' ∉ l) ∧
        lines.map (fun l => (read? l).bind LogEntry.ofJson?) =
          [some awkwardEntry, some awkwardEntry] :=
  have h : ∀ e ∈ [awkwardEntry, awkwardEntry], e.IsStorable := by
    simpa using isStorable_awkwardEntry
  ⟨h, (recent_and_lines 1).2 _ h⟩

end RequestLog

end QueryGate
