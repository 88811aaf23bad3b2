import Mathlib.Data.List.Forall2
import QueryGate.Proofs.RequestLog.Basic
import QueryGate.Request.Pipeline

/-!
# Sessions over time

`Session.Follows` : what a session has become behind some outcomes. The same grammar is in use, and
the log, if one is kept, has an entry more for each outcome, in order.
-/

namespace QueryGate

/-- An entry of the log is for an outcome, at some time. -/
def Outcome.HasEntry (o : Outcome) (e : LogEntry) : Prop :=
  ∃ time elapsedMs, e = o.entry time elapsedMs

namespace Session

variable {session session' session'' : Session} {os os' : List Outcome}

/-- A session behind some outcomes. -/
structure Follows (session : Session) (os : List Outcome) (session' : Session) : Prop where
  catalog : session'.catalog = session.catalog
  log : ∀ log ∈ session.log, ∃ es : List LogEntry,
    session'.log = some (es.foldl RequestLog.record log) ∧ List.Forall₂ Outcome.HasEntry os es

theorem Follows.refl (session : Session) : session.Follows [] session where
  catalog := rfl
  log _ hlog := ⟨[], hlog, .nil⟩

theorem Follows.trans (h : session.Follows os session') (h' : session'.Follows os' session'') :
    session.Follows (os ++ os') session'' where
  catalog := h'.catalog.trans h.catalog
  log log hlog := by
    obtain ⟨es, hes, hentries⟩ := h.log log hlog
    obtain ⟨es', hes', hentries'⟩ := h'.log _ hes
    refine ⟨es ++ es', ?_, List.rel_append hentries hentries'⟩
    rw [hes', List.foldl_append]

end Session

end QueryGate
