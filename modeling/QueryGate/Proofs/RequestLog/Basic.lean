import Mathlib.Data.List.DropRight
import QueryGate.RequestLog.Basic

/-!
# What a log keeps

However many entries are recorded, the log keeps the last of all of them, up to its capacity
(`RequestLog.entries_foldl_record`).
-/

namespace QueryGate.RequestLog

variable {α : Type} {n : Nat} {xs ys : List α} {log : RequestLog} {es : List LogEntry}

theorem last_eq_rtake (n : Nat) (xs : List α) : last n xs = xs.rtake n :=
  rfl

theorem length_last : (last n xs).length = min n xs.length := by
  rw [last, List.length_drop]
  omega

theorem last_eq_self (h : xs.length ≤ n) : last n xs = xs := by
  rw [last, Nat.sub_eq_zero_of_le h, List.drop_zero]

/-- What has been dropped once would be dropped later on. -/
theorem last_last_append : last n (last n xs ++ ys) = last n (xs ++ ys) := by
  rcases Nat.le_total xs.length n with h | h
  · rw [last_eq_self h]
  · have hlast : (xs ++ ys).drop (xs.length - n) = last n xs ++ ys :=
      List.drop_append_of_le_length (Nat.sub_le _ _)
    calc last n (last n xs ++ ys) = (last n xs ++ ys).drop ys.length := by
          rw [last, List.length_append, length_last]
          congr 1
          omega
      _ = ((xs ++ ys).drop (xs.length - n)).drop ys.length := by rw [hlast]
      _ = last n (xs ++ ys) := by
          rw [List.drop_drop, last, List.length_append]
          congr 1
          omega

/-- Recording entries one by one keeps the last of all entries. -/
theorem entries_foldl_record (h : log.entries.length ≤ log.capacity) :
    (es.foldl record log).entries = last log.capacity (log.entries ++ es) := by
  induction es generalizing log with
  | nil => rw [List.append_nil, last_eq_self h, List.foldl_nil]
  | cons e es ih =>
    calc ((e :: es).foldl record log).entries
        = last log.capacity (last log.capacity (log.entries ++ [e]) ++ es) :=
          ih (length_last.trans_le (Nat.min_le_left _ _))
      _ = last log.capacity (log.entries ++ e :: es) := by
          rw [last_last_append, List.append_assoc, List.singleton_append]

theorem entries_foldl_record_empty (n : Nat) (file : LogFile) (es : List LogEntry) :
    (es.foldl record (.empty n file)).entries = es.rtake n := by
  rw [entries_foldl_record (Nat.zero_le _), ← last_eq_rtake]
  rfl

end QueryGate.RequestLog
