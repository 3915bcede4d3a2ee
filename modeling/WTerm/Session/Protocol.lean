import WTerm.Session.Lifecycle

/-!
# The terminal protocol

One turn of `terminal_ws`'s receive loop: a frame of the client is decoded and applied to
the session. Everything that is no input or resize message should be ignored here, since an
exception that leaves the loop ends the connection.
-/

namespace WTerm

/-- What `receive_text` yields for one frame: a `KeyError` for a binary frame, or a text
that `json.loads` turned into a value or refused. -/
inductive Received where
  | binary
  | text (parsed : Except PyException Json)

namespace Json

/-- The `type` member of a message. -/
def kind (members : List (PyStr × Json)) : PyStr :=
  match Json.get members (py ['t', 'y', 'p', 'e']) with
  | some (.str kind) => kind
  | _ => []

/-- The name of an input message. -/
def inputKind : PyStr := py ['i', 'n', 'p', 'u', 't']

/-- The name of a resize message. -/
def resizeKind : PyStr := py ['r', 'e', 's', 'i', 'z', 'e']

/-- The text of an input message. -/
def inputData? (members : List (PyStr × Json)) : Option PyStr :=
  match Json.get members (py ['d', 'a', 't', 'a']) with
  | some (.str data) => some data
  | _ => none

/-- The columns and rows of a resize message. -/
def size? (members : List (PyStr × Json)) : Option (ℤ × ℤ) :=
  match (Json.get members (py ['c', 'o', 'l', 's'])).bind asInt?,
    (Json.get members (py ['r', 'o', 'w', 's'])).bind asInt? with
  | some cols, some rows => some (cols, rows)
  | _, _ => none

end Json

/-- The status message about dropped input. -/
def droppedMessage : String := "입력이 밀려 일부를 버렸습니다 (세션이 입력을 읽지 않는 중)."

namespace Session

/-- The input branch: `write_input`, and a status if it reports dropped input. -/
def applyInput (s : Session) (now : Time) (data : PyStr) (results : List WriteResult) :
    Session × Except PyException Unit :=
  match s.writeInput now data results with
  | (s, .ok true) => (s.sendStatus droppedMessage, .ok ())
  | (s, .ok false) => (s, .ok ())
  | (s, .error e) => (s, .error e)

/-- A message that is a JSON object. -/
def applyMessage (s : Session) (now : Time) (members : List (PyStr × Json))
    (results : List WriteResult) : Session × Except PyException Unit :=
  if Json.kind members = Json.inputKind then
    match Json.inputData? members with
    | some data => s.applyInput now data results
    | none => (s, .ok ())
  else if Json.kind members = Json.resizeKind then
    match Json.size? members with
    | some (cols, rows) => (s.resize cols rows results, .ok ())
    | none => (s, .ok ())
  else (s, .ok ())

/-- One turn of the receive loop: the session after it, and the exception that leaves the
loop, if one does. Only `JSONDecodeError` is caught. -/
def handleFrame (s : Session) (now : Time) (frame : Received) (results : List WriteResult) :
    Session × Except PyException Unit :=
  match frame with
  | .binary => (s, .ok ())
  | .text (.error .jsonDecodeError) => (s, .ok ())
  | .text (.error e) => (s, .error e)
  | .text (.ok (.obj members)) => s.applyMessage now members results
  | .text (.ok _) => (s, .ok ())

end Session

end WTerm
