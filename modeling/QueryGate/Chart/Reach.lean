import Std.Data.HashSet

/-!
# Reachability

The nodes of a finite graph that can be reached from given ones, each found once.
-/

namespace QueryGate

variable {α : Type} [BEq α] [Hashable α]

/-- Nodes that have been met, and those of them whose successors have not been looked at. -/
structure Frontier (α : Type) [BEq α] [Hashable α] where
  seen : Std.HashSet α
  todo : List α

/-- Adds a node unless it has been met before. -/
def Frontier.add (f : Frontier α) (a : α) : Frontier α :=
  if f.seen.contains a then f else ⟨f.seen.insert a, a :: f.todo⟩

/-- Adds nodes one after the other. -/
def Frontier.addAll (f : Frontier α) (as : List α) : Frontier α :=
  as.foldl Frontier.add f

/-- Looks at the successors of up to `fuel` nodes; gives the nodes in reverse order. -/
def reachFrom (next : α → List α) : (fuel : Nat) → Frontier α → (found : List α) → List α
  | 0, _, found => found
  | fuel + 1, f, found =>
    match f.todo with
    | [] => found
    | a :: rest => reachFrom next fuel ((Frontier.mk f.seen rest).addAll (next a)) (a :: found)

/-- The nodes that can be reached from `start`, of which there are at most `bound`. -/
def reach (next : α → List α) (bound : Nat) (start : List α) : List α :=
  reachFrom next bound ((Frontier.mk ∅ []).addAll start) []

end QueryGate
