import PageComposer.Log.Template
import PageComposer.Text.Lines

/-!
# Log records

A record has a level, the name of a logger, a message template with its arguments,
and other attributes.  `Record.toValue` is the data of a structured log line, from
which only the time is left out; `Record.plainLine` is the line without structure.
-/

namespace PageComposer.Log

inductive Level where
  | unset
  | debug
  | info
  | warning
  | error
  | critical
  deriving DecidableEq, Repr

namespace Level

def all : List Level := [unset, debug, info, warning, error, critical]

def text : Level → String
  | unset => "NOTSET"
  | debug => "DEBUG"
  | info => "INFO"
  | warning => "WARNING"
  | error => "ERROR"
  | critical => "CRITICAL"

def severity : Level → Nat
  | unset => 0
  | debug => 10
  | info => 20
  | warning => 30
  | error => 40
  | critical => 50

/-- The level of a name in capitals; two levels have a second name. -/
def ofText? (text : String) : Option Level :=
  if text = "WARN" then some warning
  else if text = "FATAL" then some critical
  else all.find? fun level => level.text = text

/-- The capitals of a character that has ASCII letters for capitals; any other character
stands for itself. -/
def capitals (char : Char) : List Char :=
  match char with
  | 'ß' => ['S', 'S']
  | 'ı' => ['I']
  | 'ſ' => ['S']
  | 'ﬀ' => ['F', 'F']
  | 'ﬁ' => ['F', 'I']
  | 'ﬂ' => ['F', 'L']
  | 'ﬃ' => ['F', 'F', 'I']
  | 'ﬄ' => ['F', 'F', 'L']
  | 'ﬅ' | 'ﬆ' => ['S', 'T']
  | char => [char.toUpper]

/-- The level of a name in any case.  Two names are taken by other things: one by a text,
which is refused, and one by something that is no level at all. -/
def ofName (name : Value) : Outcome Level := do
  let name := String.ofList ((← name.text).toList.flatMap capitals)
  match ofText? name with
  | some level => return level
  | none =>
      if name = "BASIC_FORMAT" then
        .error (.refusal (.unknownLevel "%(levelname)s:%(name)s:%(message)s"))
      else if name = "_STYLES" then .error .wrongKind
      else .error .notAnObject

end Level

/-- What a record is about. -/
inductive Cause where
  | nothing
  /-- An error that says this. -/
  | error (text : String)
  /-- A value in the place of an error. -/
  | value (given : Value)
  deriving DecidableEq, Repr

namespace Cause

/-- A value in the place of an error, which has three parts; only an error without kind,
text and origin can be shown. -/
def ofParts (items : List Value) : Outcome String :=
  match items with
  | _ :: .null :: .null :: _ => .ok "NoneType: None"
  | _ :: _ :: _ :: _ => .error .notAnObject
  | _ => .error (.misuse .outOfRange)

/-- What a line shows of the cause, if it shows anything. -/
def text? : Cause → Outcome (Option String)
  | nothing => .ok none
  | error text => .ok (some (if text.isEmpty then "ValueError" else "ValueError: " ++ text))
  | value given =>
      if !given.truthy then .ok none
      else
        match given with
        | .object _ => .error (.misuse .missingKey)
        | .list items => do return some (← ofParts items)
        | .str text => do return some (← ofParts (text.toList.map fun char => .str char.toString))
        | _ => .error .wrongKind

end Cause

/-- A record by its attributes, the arguments of its message and its cause. -/
structure Record where
  attributes : Fields
  arguments : Arguments
  cause : Cause
  deriving DecidableEq, Repr

namespace Record

/-- The attributes that a line shows if the record has them. -/
def shown : List String := ["method", "path", "status_code", "duration_ms", "error_code"]

/-- A record with further attributes written over its own. -/
def make (logger : Value) (level : Level) (message : Value) (arguments : List Value)
    (extra : Fields) (error : Option String) : Record where
  attributes := Fields.merge [("name", logger), ("levelname", .str level.text),
    ("msg", message)] extra
  arguments :=
    match Fields.get? extra "args" with
    | some value => .ofValue value
    | none => .ofValues arguments
  cause :=
    match Fields.get? extra "exc_info" with
    | some value => .value value
    | none => (error.map Cause.error).getD .nothing

def attribute? (record : Record) (key : String) : Option Value :=
  Fields.get? record.attributes key

/-- Put the id of the request in progress on a record. -/
def withRequest (record : Record) (id : Value) : Record :=
  { record with attributes := Fields.insert record.attributes "request_id" id }

/-- The message with its arguments filled in; without arguments it stands as it is.  A
record whose way to make its message is written over has none. -/
def message (record : Record) : Outcome String :=
  let template := ((record.attribute? "msg").getD .null).display
  if (record.attribute? "getMessage").isSome then .error .wrongKind
  else if record.arguments = .none then .ok template
  else fill template record.arguments

/-- The data of a line. -/
def toValue (record : Record) : Outcome Value := do
  let message ← record.message
  let base := [
    ("level", (record.attribute? "levelname").getD .null),
    ("logger", (record.attribute? "name").getD .null),
    ("message", .str message),
    ("request_id", (record.attribute? "request_id").getD (.str ""))]
  let cause := (← record.cause.text?).map fun text => ("exception", Value.str text)
  let others := shown.filterMap fun key => (record.attribute? key).map fun value => (key, value)
  return .object (base ++ cause.toList ++ others)

/-- The line of a record at a time. -/
def plainLine (time : String) (level : Level) (message : String) : String :=
  time ++ " - " ++ level.text ++ " - " ++ message

end Record

/-- How log lines are written. -/
structure Configuration where
  level : Level
  structured : Bool
  deriving DecidableEq, Repr

namespace Configuration

/-- Lines below the level are not written, and neither are those without a level. -/
def admits (configuration : Configuration) (level : Level) : Bool :=
  level != .unset && configuration.level.severity ≤ level.severity

/-- The lines of a message in the course of a request: none when it is below the level,
data when lines are structured, and texts else; in the first of these, `time` stands for
the time. -/
def lines (configuration : Configuration) (logger time : String) (request : Value)
    (level : Level) (message : Value) : Outcome (List Value) :=
  if !configuration.admits level then .ok []
  else if configuration.structured then do
    return [← ((Record.make logger level message [] [] none).withRequest request).toValue]
  else .ok ((Text.lines (Record.plainLine time level message.display ++ "\n")).map .str)

end Configuration

end PageComposer.Log
