import QueryGate.Decimal.Natural
import QueryGate.Text.WhiteSpace
import QueryGate.Text.LowerCase

/-!
# Messages

Requests as they come in over a connection, and the responses to them. A request is read
leniently : its first line gives method and path (`requestLine?`), its headers end at the first
empty line (`headers`), its body follows the first empty line that is ended as the protocol has
it (`body`). A response states the length of its body in bytes (`Response.text`), where
`contentLength` finds it.
-/

namespace QueryGate.Http

open Text

/-- The end of a line in the protocol. -/
def lineEnd : List Char := ['\r', '\n']

/-- The words of a text between white space. -/
def words (s : List Char) : List (List Char) :=
  (s.splitBy fun a b => isWhite a == isWhite b).filter fun w => !w.all isWhite

/-- A path without parameters and slashes at its end; the root keeps its slash. -/
def normalizePath (path : List Char) : List Char :=
  let bare := dropEndWhile (· == '/') (path.takeWhile (· != '?'))
  if bare.isEmpty then ['/'] else bare

/-- Method and path of a request. -/
def requestLine? (request : List Char) : Option (List Char × List Char) :=
  match words ((lines request).head?.getD []) with
  | method :: path :: _ => some (method, normalizePath path)
  | _ => none

/-- Name and value of a header, as they stand in its line. -/
def header? (line : List Char) : Option (List Char × List Char) :=
  (splitFirst? ':' line).map fun (key, value) => (trim key, trim value)

/-- Sets the value of a key. -/
def setValue (key value : List Char) :
    List (List Char × List Char) → List (List Char × List Char)
  | [] => [(key, value)]
  | (k, v) :: rest => if k == key then (k, value) :: rest else (k, v) :: setValue key value rest

/-- The headers of a request, with their names in lower case. Of headers with one name the last
one counts. -/
def headers (request : List Char) : List (List Char × List Char) :=
  let block := ((lines request).drop 1).takeWhile fun line => !line.isEmpty
  (block.filterMap header?).foldl (fun known h => setValue (lowerAll h.1) h.2 known) []

/-- What follows a part of a text at its first occurrence. -/
def behind? (part : List Char) : List Char → Option (List Char)
  | [] => if part.isEmpty then some [] else none
  | c :: s => if part.isPrefixOf (c :: s) then some ((c :: s).drop part.length) else behind? part s

/-- The body of a request, without white space around it. -/
def body (request : List Char) : List Char :=
  trim ((behind? (lineEnd ++ lineEnd) request).getD [])

/-- The name of the header that states the length of the body. -/
def contentLengthName : List Char := "content-length".toList

/-- The length that the first such header states, wherever in the text it stands; 0 if it states
none. -/
def contentLength (text : List Char) : Nat :=
  let stated := ((lines text).filterMap (splitFirst? ':')).find? fun h =>
    sameLetters (trim h.1) contentLengthName
  (stated.bind fun h => (Decimal.readNatural Decimal.maxWord (trim h.2)).toOption).getD 0

/-- The answer to a request. -/
structure Response where
  status : Nat
  /-- The words for the status. -/
  reason : String
  contentType : String
  body : String
  deriving DecidableEq, Repr

/-- The lines in front of the body of a response. -/
def Response.head (r : Response) : List String :=
  [s!"HTTP/1.1 {r.status} {r.reason}",
    "Content-Type: " ++ r.contentType,
    "Access-Control-Allow-Origin: *",
    "Access-Control-Allow-Methods: GET, POST, OPTIONS",
    "Access-Control-Allow-Headers: Content-Type",
    s!"Content-Length: {byteLength r.body.toList}",
    "Connection: close"]

/-- The text of a response. -/
def Response.text (r : Response) : List Char :=
  r.head.flatMap (fun line => line.toList ++ lineEnd) ++ lineEnd ++ r.body.toList

/-- The bytes that are taken from a connection at a time. -/
def chunkSize : Nat := 4096

/-- The bytes after which no more are taken from a connection. -/
def requestLimit : Nat := 1024 * 1024

/-- The text in front of the first empty line. -/
def headOf? (s : List Char) : Option (List Char) :=
  (behind? (lineEnd ++ lineEnd) s).map fun rest => s.take (s.length - rest.length - 4)

/-- Whether no more is taken from a connection : the request has the length it states, or it is
too long. -/
def isComplete (received : List Char) : Bool :=
  (headOf? received).any (fun head =>
    byteLength head + 4 + contentLength head ≤ byteLength received) ||
    requestLimit < byteLength received

/-- What is taken from a connection over which a client sends its chunks. -/
def receive : (received : List Char) → (chunks : List (List Char)) → List Char
  | received, [] => received
  | received, chunk :: chunks =>
    if isComplete (received ++ chunk) then received ++ chunk
    else receive (received ++ chunk) chunks

end QueryGate.Http
