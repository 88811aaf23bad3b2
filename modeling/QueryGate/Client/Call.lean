import QueryGate.Json.Writer
import QueryGate.Settings.Basic

/-!
# Calls to services

A call posts JSON to an address and names its sender by a token. Whether a reply comes back is up
to the transport (`Transport.post`); a call whose token cannot stand in a header is not sent.
-/

namespace QueryGate.Client

/-- A request to a service. -/
structure Call where
  url : String
  /-- Who calls. -/
  token : String
  body : Json
  deriving Repr

/-- What a service sends back. -/
structure Reply where
  status : Nat
  body : String
  deriving DecidableEq, Repr

/-- Carries calls to services; an error tells why no reply came back. -/
structure Transport (m : Type → Type) where
  send : Call → m (Except String Reply)

/-- Whether a character can stand in the value of a header. -/
def isHeaderChar (c : Char) : Bool :=
  c == '\t' || (' ' ≤ c && c != '\x7f')

/-- The value of the header that names the sender. -/
def Call.authorization (c : Call) : String :=
  "Bearer " ++ c.token

/-- Whether a call can be put on the wire. -/
def Call.isSendable (c : Call) : Bool :=
  c.authorization.toList.all isHeaderChar

/-- The content type of calls. -/
def Call.contentType : String := "application/json"

/-- Sends a call, unless it cannot be put on the wire. -/
def Transport.post {m : Type → Type} [Monad m] (t : Transport m) (c : Call) :
    m (Except String Reply) :=
  if c.isSendable then t.send c else pure (.error "the token cannot stand in a header")

/-- Whether a status is one of success. -/
def Reply.isSuccess (r : Reply) : Bool :=
  200 ≤ r.status && r.status < 300

/-- The address of a path : slashes at the end of the base do not count. -/
def address (base path : String) : String :=
  Settings.trimSlashes base ++ path

end QueryGate.Client
