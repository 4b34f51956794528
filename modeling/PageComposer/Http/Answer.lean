import PageComposer.Access
import PageComposer.Http.Message
import PageComposer.Http.Status
import PageComposer.Json.Writer
import PageComposer.Log.Record
import PageComposer.Value.Height

/-!
# Answers

An error is answered with a report: its status, a message, the name of the status,
and a code, details and a path where there are any.  `Report.ofFault` says which
report a fault is answered with; a fault without one is unexpected, and its answer
says nothing about it.  A text with a surrogate on its own cannot be sent.
-/

namespace PageComposer.Http

/-- A report of an error. -/
structure Report where
  status : Value
  message : Value
  code : Value
  details : Value
  path : Value
  deriving DecidableEq, Repr

namespace Report

/-- The data of a report; what does not count is left out. -/
def toValue (report : Report) : Value :=
  let given (key : String) (value : Value) := if value.truthy then [(key, value)] else []
  .object [("error", .object ([("status_code", report.status), ("message", report.message),
    ("type", .str (Status.name report.status))] ++ given "error_code" report.code
      ++ given "details" report.details ++ given "path" report.path))]

/-- The report that gives nothing away. -/
def generic (status : Value) (path : String) : Report where
  status := status
  message := "An unexpected error occurred. Please try again later."
  code := ErrorCode.internalError.text
  details := .null
  path := path

/-- Details that are an object, or an object of what is wrong. -/
def violations : Value → Value
  | .object fields => .object fields
  | details => .object [("violations", details)]

/-- Details that are an object, and nothing else. -/
def objectOnly : Value → Value
  | .object fields => .object fields
  | _ => .null

/-- The report of a problem: a document that breaks the page grammar is answered with
its violations, all failures of rendering with one message, any other problem with its
own status, which has to compare with numbers, and with nothing more if that is a
server's. -/
def ofProblem (path : String) (problem : Problem) : Outcome Report :=
  let own (message details : Value) : Report :=
    ⟨.int 400, message, problem.code.text, details, path⟩
  match problem with
  | .invalidDocument .. =>
      .ok (own problem.message (.object [("violations", problem.details)]))
  | .rendering .. | .pluginNotAllowed _ | .pluginMissing _ | .pluginBadReturn ..
  | .registry .. => .ok (own "Render failed" (violations problem.details))
  | problem =>
      let status := problem.status
      if status.quantity?.isNone then .error (.misuse (.incomparable ">=" status.kind))
      else if Status.isAtLeast status 500 then .ok (generic status path)
      else .ok ⟨status, problem.message, problem.code.text, objectOnly problem.details, path⟩

/-- The report of an HTTP error. -/
def ofHttp (path : String) (status : Value) (detail : String) : Report :=
  let code :=
    if Status.code? status = some 404 then ErrorCode.resourceNotFound else .badRequest
  ⟨status, detail, code.text, .null, path⟩

/-- The report of a fault; an unexpected one goes on. -/
def ofFault (path : String) : Fault → Outcome Report
  | .problem problem => ofProblem path problem
  | .http status detail => .ok (ofHttp path status detail)
  | fault => .error fault

/-- What is wrong with an entry of a body. -/
def bodyEntry (field message type : String) : Value :=
  .object [("field", .str field), ("message", .str message), ("type", .str type)]

/-- The report of a body with an entry that cannot be used. -/
def ofEntry (path : String) (entry : Value) : Report :=
  ⟨.int 422, "Validation error", ErrorCode.badRequest.text,
    .object [("validation_errors", .list [entry])], path⟩

/-- The report of a body that cannot be used. -/
def ofBody (path : String) : Incoming.BodyFault → Report
  | .missing => ofEntry path (bodyEntry "" "Field required" "missing")
  | .notObject =>
      ofEntry path (bodyEntry "" "Input should be a valid dictionary" "dict_type")
  | .malformed offset =>
      ofEntry path (bodyEntry (toString offset) "JSON decode error" "json_invalid")
  | .unreadable => ofHttp path (.int 400) "There was an error parsing the body"

end Report

/-- What an answer carries. -/
inductive Content where
  | nothing
  | data (value : Value)
  | markup (text : String)
  deriving DecidableEq, Repr

/-- What an answer carries as a value. -/
def Content.toValue : Content → Value
  | .nothing => .str ""
  | .data value => value
  | .markup text => .str text

structure Answer where
  status : Value
  content : Content
  deriving DecidableEq, Repr

namespace Answer

/-- The content type of an answer. -/
def contentType? (answer : Answer) : Option String :=
  match answer.content with
  | .nothing => none
  | .data _ => some "application/json"
  | .markup _ => some "text/html; charset=utf-8"

mutual

/-- A value without infinities and not-a-numbers. -/
def writable : Value → Bool
  | .float value => value.isFinite
  | .list items => writableItems items
  | .object fields => writableFields fields
  | _ => true

def writableItems : List Value → Bool
  | [] => true
  | item :: rest => writable item && writableItems rest

def writableFields : List (String × Value) → Bool
  | [] => true
  | (_, value) :: rest => writable value && writableFields rest

end

/-- An answer with data, which has to be writable. -/
def ofData (status value : Value) : Outcome Answer :=
  if writable value then .ok ⟨status, .data value⟩ else .error (.refusal .notFinite)

/-- An answer with markup. -/
def ofMarkup (text : String) : Answer := ⟨.int 200, .markup text⟩

mutual

/-- A value whose texts read as with the surrogates that stand-ins stand in for. -/
def restored (standIns : Text.StandIns) : Value → Value
  | .str text => .str (standIns.restored text)
  | .list items => .list (restoredItems standIns items)
  | .object fields => .object (restoredFields standIns fields)
  | value => value

def restoredItems (standIns : Text.StandIns) : List Value → List Value
  | [] => []
  | item :: rest => restored standIns item :: restoredItems standIns rest

def restoredFields (standIns : Text.StandIns) :
    List (String × Value) → List (String × Value)
  | [] => []
  | (key, value) :: rest =>
      (standIns.restored key, restored standIns value) :: restoredFields standIns rest

end

/-- What an answer carries, as it reads with the surrogates that stand-ins stand in for. -/
def restoredContent (standIns : Text.StandIns) : Content → Content
  | .nothing => .nothing
  | .data value => .data (restored standIns value)
  | .markup text => .markup (standIns.restored text)

/-- The text that is sent. -/
def sentText : Content → String
  | .nothing => ""
  | .data value => Json.compact value
  | .markup text => text

/-- An answer as it is sent, given what stands in for surrogates in it, if anything does. -/
def sent (standIns : Option Text.StandIns) (answer : Answer) : Outcome Answer :=
  match standIns with
  | none => .ok answer
  | some standIns =>
      let content := restoredContent standIns answer.content
      match Text.surrogateRun? standIns 0 (sentText content).toList with
      | none => .ok { answer with content := content }
      | some run => .error (.misuse (.unsendable run))

mutual

/-- A value with null in place of every infinity and not-a-number. -/
def finite : Value → Value
  | .float value => if value.isFinite then .float value else .null
  | .list items => .list (finiteItems items)
  | .object fields => .object (finiteFields fields)
  | value => value

def finiteItems : List Value → List Value
  | [] => []
  | item :: rest => finite item :: finiteItems rest

def finiteFields : List (String × Value) → List (String × Value)
  | [] => []
  | (key, value) :: rest => (key, finite value) :: finiteFields rest

end

/-- The greatest height of an entry of a page in an answer. -/
def greatestHeight : Nat := 255

/-- An answer with a page, none of whose entries is too high. -/
def ofPage (page : Value) : Outcome Answer :=
  match page with
  | .object fields =>
      if fields.any fun entry => entry.2.height > greatestHeight then
        .error (.misuse .tooDeepAnswer)
      else .ok ⟨.int 200, .data (finite page)⟩
  | page => .ok ⟨.int 200, .data (finite page)⟩

/-- An answer with a report.  Its name is looked up under its status, and the status has to
compare with numbers. -/
def ofReport (report : Report) : Outcome Answer := do
  let status := report.status
  let _ ← Status.lookup status
  let answer ← ofData status report.toValue
  if status.quantity?.isNone then .error (.misuse (.incomparable "<" status.kind))
  else return answer

end Answer

/-- A line of the access log. -/
structure Access where
  method : String
  path : String
  status : Value
  /-- What an unexpected fault says, nothing after an answer that was meant. -/
  error : String
  deriving DecidableEq, Repr

namespace Access

/-- The level of the line goes by the status. -/
def level (access : Access) : Log.Level :=
  if Status.isAtLeast access.status 500 then .error
  else if Status.isAtLeast access.status 400 then .warning
  else .info

/-- The message of the line, given the text of the duration. -/
def message (access : Access) (duration : String) : String :=
  access.method ++ " " ++ access.path ++ " - " ++ access.status.display
    ++ " (" ++ duration ++ ")"
    ++ (if access.error.isEmpty then "" else " - Error: " ++ access.error)

end Access

end PageComposer.Http
