import PageComposer.Database.Dialect
import PageComposer.Database.File
import PageComposer.Database.Url
import PageComposer.Text.LowerCase

/-!
# Engines of databases

An engine knows how to open the database at an address.  `Engine.ofAddress` makes one: the
driver has to be at hand and must not block, a database in a file has no server, and the
options that the driver knows have to be of their kinds.  `Engine.connect` opens the
database.
-/

namespace PageComposer.Database

structure Engine where
  /-- The file, none for one without a name. -/
  file : Option String
  /-- The file is given by a reference. -/
  isReference : Bool
  /-- An isolation level, if there is one that the driver is told. -/
  isolation : Option String
  detectTypes : Option Int
  cachedStatements : Option Int
  deriving DecidableEq, Repr

namespace Engine

def trueTexts : List String := ["true", "yes", "on", "y", "t", "1"]

def falseTexts : List String := ["false", "no", "off", "n", "f", "0"]

/-- An option that is true or false; several values count as true. -/
def flag? (url : Url) (key : String) : Outcome (Option Bool) :=
  match url.option? key with
  | none => return none
  | some [value] =>
      let text := Text.lower (Text.strip value)
      if trueTexts.contains text then return some true
      else if falseTexts.contains text then return some false
      else .error (.refusal (.notAFlag text))
  | some _ => return some true

/-- An option that is a number. -/
def checkDecimal (url : Url) (key : String) : Outcome Unit :=
  match url.option? key with
  | none => return ()
  | some [value] =>
      if Text.isDecimal value then return () else .error (.refusal (.notANumber value))
  | some _ =>
      .error (.misuse (.mistyped "float() argument must be a string or a real number, not 'tuple'"))

/-- An option that is an integer. -/
def integer? (url : Url) (key : String) : Outcome (Option Int) :=
  match url.option? key with
  | none => return none
  | some [value] => return some (← Url.readInteger value)
  | some _ =>
      .error (.misuse (.mistyped ("int() argument must be a string, a bytes-like object or "
        ++ "a real number, not 'tuple'")))

/-- Several values as one text. -/
def valuesText (values : List String) : String :=
  "(" ++ String.intercalate ", " (values.map Text.quoted) ++ ")"

/-- The options that the driver knows. -/
def knownOptions : List String :=
  ["uri", "timeout", "isolation_level", "detect_types", "check_same_thread", "cached_statements"]

/-- A reference to a file with the options that the driver does not know. -/
def reference (url : Url) : Outcome (Option String) :=
  let pairs := (url.without knownOptions).sortedOptions.map fun option =>
    option.1 ++ "=" ++
      match option.2 with
      | [value] => value
      | values => valuesText values
  if pairs.isEmpty then return url.path
  else
    match url.path with
    | some path => return some (path ++ "?" ++ String.intercalate "&" pairs)
    | none =>
        .error (.misuse (.mistyped "unsupported operand type(s) for +=: 'NoneType' and 'str'"))

/-- The engine for a database in a file. -/
def ofFile (url : Url) : Outcome Engine := do
  if url.namesServer then .error (.denial (.serverNamed url.text))
  let isReference ← flag? url "uri"
  checkDecimal url "timeout"
  let isolation :=
    match url.option? "isolation_level" with
    | none | some [_] => none
    | some values => some (valuesText values)
  let detectTypes ← integer? url "detect_types"
  let _ ← flag? url "check_same_thread"
  let cachedStatements ← integer? url "cached_statements"
  let isReference := isReference.getD false
  let file ←
    if isReference then reference url
    else pure (some (if Url.isGiven url.path then url.path.getD "" else ":memory:"))
  return ⟨file, isReference, isolation, detectTypes, cachedStatements⟩

/-- The options that name add-ons, of which none is at hand. -/
def addOnOptions : List String := ["plugin", "plugins"]

/-- The engine for the database at an address. -/
def ofAddress (address : String) : Outcome Engine := do
  let url ← Url.parse address
  if let some (addOn :: _) := url.option? "plugin" then
    .error (.denial (.notFound "sqlalchemy.plugins" addOn))
  let url := url.without addOnOptions
  match ← Driver.ofName url.name with
  | .missing module => .error (.denial (.noModule module))
  | .blocking title => do
      let _ ← ofFile url
      .error (.denial (.blocking title))
  | .ready => ofFile url

/-- An integer of 32 bits. -/
def checkWord (value : Option Int) : Outcome Unit :=
  match value with
  | none => return ()
  | some value =>
      if Int32.minValue.toInt ≤ value ∧ value ≤ Int32.maxValue.toInt then return ()
      else .error (.misuse .tooLargeForWord)

/-- Open the database. -/
def connect (engine : Engine) : Outcome Unit := do
  checkWord engine.detectTypes
  if engine.isolation.isSome then .error (.refusal .unknownIsolation)
  checkWord engine.cachedStatements
  let file := (engine.file.getD "None").toList
  if file.contains '\x00' then .error (.refusal .nullInFileName)
  let opening :=
    if engine.isReference then Opening.ofReference file else .ok (Opening.ofPath file)
  match opening with
  | .error reason => .error (.denial (.unopened reason))
  | .ok opening =>
      match opening.obstacle? with
      | none => return ()
      | some reason => .error (.denial (.unopened reason))

end Engine

end PageComposer.Database
