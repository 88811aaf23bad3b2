import QueryGate.Client.Responses
import QueryGate.Client.Chat

/-!
# The model of the settings

Which service a model is asked through is a matter of its kind.
-/

namespace QueryGate.Client

/-- The model that settings describe, for queries on a table. -/
def model {m : Type → Type} [Monad m] (t : Transport m) (settings : ModelSettings)
    (table : String) : Model m :=
  match settings.kind with
  | .constrained => Responses.model t settings table
  | .freeform => Chat.model t settings

end QueryGate.Client
