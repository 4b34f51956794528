import PageComposer.Fault
import PageComposer.Json.Reader
import PageComposer.Page.Violation
import PageComposer.Text.LowerCase

/-!
# Settings

Settings come from named values and from environment texts, and fall back on
defaults; a named value wins over the environment.  A value's name is a field's name in
any case, and of several such values the first counts.  The name of an environment
entry is a field's name behind a fixed beginning, in any case.  Some named values, whose
names start with an underscore, are about the search itself: they make a `Lookup`.
-/

namespace PageComposer

structure Settings where
  appName : String
  appVersion : String
  debug : Bool
  environment : String
  defaultLocale : String
  bucketSalt : String
  buckets : List String
  pagesBackend : String
  pluginsBackend : String
  pluginsFile : String
  databaseUrl : String
  logJson : Bool
  deriving DecidableEq, Repr

namespace Settings

/-- A setting that cannot be used. -/
inductive Complaint where
  | notText
  | notFlag
  | unreadableFlag
  | notList
  deriving DecidableEq, Repr

/-- The name of a complaint. -/
def Complaint.code : Complaint → String
  | notText => "string_type"
  | notFlag => "bool_type"
  | unreadableFlag => "bool_parsing"
  | notList => "list_type"

/-- A complaint and the place it is about. -/
structure Issue where
  path : List String
  complaint : Complaint
  deriving DecidableEq, Repr

/-- Why there are no settings. -/
inductive Failure where
  /-- The environment text of a list is not JSON, or an environment name cannot be made. -/
  | unreadable
  /-- A value about the search is of a wrong kind, or the text of a list nests too deep. -/
  | fault (cause : Fault)
  | invalid (issues : List Issue)
  deriving DecidableEq, Repr

/-- A setting as it was read, or what is wrong with it. -/
abbrev Reading (Result : Type) := Except (List Issue) Result

def readText (key : String) : Value → Reading String
  | .str text => .ok text
  | _ => .error [⟨[key], .notText⟩]

def trueTexts : List String := ["1", "on", "t", "true", "y", "yes"]

def falseTexts : List String := ["0", "off", "f", "false", "n", "no"]

/-- A text with its ASCII letters in lower case. -/
def lowerAscii (text : String) : String := String.ofList (text.toList.map Char.toLower)

/-- The integer that a value is: an integer of 64 bits, or a whole double strictly between
the powers of two that bound those. -/
def narrowInt? : Value → Option Int
  | .int value =>
      if Int64.minValue.toInt ≤ value ∧ value ≤ Int64.maxValue.toInt then some value else none
  | .float value => value.toInt?.bind fun whole =>
      if Int64.minValue.toInt < whole ∧ whole ≤ Int64.maxValue.toInt then some whole else none
  | _ => none

/-- A truth value, a text that spells one, or the numbers zero and one. -/
def readFlag (key : String) (value : Value) : Reading Bool :=
  let failed (complaint : Complaint) : Reading Bool := .error [⟨[key], complaint⟩]
  match value with
  | .bool flag => .ok flag
  | .str text =>
      if trueTexts.contains (lowerAscii text) then .ok true
      else if falseTexts.contains (lowerAscii text) then .ok false
      else failed .unreadableFlag
  | value =>
      match narrowInt? value with
      | some 0 => .ok false
      | some 1 => .ok true
      | some _ => failed .unreadableFlag
      | none => failed .notFlag

/-- The texts of a list, or what is wrong with its items. -/
def readItems (key : String) (index : Nat) : List Value → Reading (List String)
  | [] => .ok []
  | item :: rest =>
      match item, readItems key (index + 1) rest with
      | .str text, .ok texts => .ok (text :: texts)
      | .str _, .error issues => .error issues
      | _, .ok _ => .error [⟨[key, toString index], .notText⟩]
      | _, .error issues => .error (⟨[key, toString index], .notText⟩ :: issues)

def readList (key : String) : Value → Reading (List String)
  | .list items => readItems key 0 items
  | _ => .error [⟨[key], .notList⟩]

/-- A field as it was given, or its default. -/
def field {Result : Type} (given : Fields) (key : String) (default : Result)
    (read : String → Value → Reading Result) : Reading Result :=
  match Fields.get? given key with
  | none => .ok default
  | some value => read key value

/-- Both results, or all issues of both readings. -/
def both {First Second Result : Type} (combine : First → Second → Result) :
    Reading First → Reading Second → Reading Result
  | .ok first, .ok second => .ok (combine first second)
  | .error issues, .ok _ => .error issues
  | .ok _, .error issues => .error issues
  | .error issues, .error others => .error (issues ++ others)

/-- The settings without any values given. -/
def default : Settings where
  appName := "CMS SDK"
  appVersion := "1.0.0"
  debug := false
  environment := "development"
  defaultLocale := "en"
  bucketSalt := "cms-ab"
  buckets := ["A", "B"]
  pagesBackend := "memory"
  pluginsBackend := "none"
  pluginsFile := "data/plugins_config.json"
  databaseUrl := "sqlite+aiosqlite:///./cms.db"
  logJson := false

/-- Settings from named values; every unusable value is reported, and unknown names
are passed over. -/
def ofValues (given : Fields) : Reading Settings :=
  let text (key : String) (default : String) := field given key default readText
  let flag (key : String) (default : Bool) := field given key default readFlag
  let start : Reading (String → Bool → String → String → String → List String →
      String → String → String → String → Bool → Settings) :=
    (text "app_name" default.appName).map Settings.mk
  let next {First Second : Type} (function : Reading (First → Second))
      (argument : Reading First) : Reading Second := both (fun f x => f x) function argument
  next (next (next (next (next (next (next (next (next (next (next start
    (text "app_version" default.appVersion))
    (flag "debug" default.debug))
    (text "environment" default.environment))
    (text "default_locale" default.defaultLocale))
    (text "ab_salt" default.bucketSalt))
    (field given "ab_buckets" default.buckets readList))
    (text "pages_backend" default.pagesBackend))
    (text "plugins_backend" default.pluginsBackend))
    (text "plugins_config_file" default.pluginsFile))
    (text "database_url" default.databaseUrl))
    (flag "log_json" default.logJson)

/-- The names of the fields. -/
def keys : List String := ["app_name", "app_version", "debug", "environment",
  "default_locale", "ab_salt", "ab_buckets", "pages_backend", "plugins_backend",
  "plugins_config_file", "database_url", "log_json"]

/-- The settings whose environment texts are JSON. -/
def listKeys : List String := ["ab_buckets"]

/-- How the values of fields are searched for. -/
structure Lookup where
  /-- What environment names begin with. -/
  mark : String
  /-- Names are the same only if their case is. -/
  minds : Bool
  /-- An environment entry with an empty text counts as none. -/
  skipsEmpty : Bool
  /-- The environment text that stands for null. -/
  nullText : Option String
  /-- What stands between the name of a list and the name of a part of it. -/
  partMark : Option String
  deriving DecidableEq, Repr

namespace Lookup

/-- What environment names begin with unless something else is said. -/
def standardMark : String := "CMS_"

/-- The text that a value is, if it is one. -/
def textOf? : Value → Option String
  | .str text => some text
  | _ => none

/-- The mark that a value says. -/
def markOf : Value → Except Failure String
  | .null => .ok standardMark
  | .str mark => .ok mark
  | .list _ | .object _ => .error .unreadable
  | _ => .error (.fault .wrongKind)

/-- Files and directories to read have to be texts; there are none of them. -/
def checkPaths : Value → Except Failure Unit
  | .null | .str _ | .object _ => .ok ()
  | .list paths =>
      if paths.all fun path => (textOf? path).isSome then .ok () else .error (.fault .wrongKind)
  | _ => .error (.fault .wrongKind)

/-- A bound on the parts of a name has to be a number. -/
def checkBound (bound : Value) : Except Failure Unit :=
  match bound with
  | .str _ | .list _ | .object _ => if bound.truthy then .error (.fault .wrongKind) else .ok ()
  | _ => .ok ()

/-- The search that values say. -/
def ofFields (given : Fields) : Except Failure Lookup := do
  let value (key : String) := Fields.getD given key
  checkBound (value "_env_nested_max_split")
  checkPaths (value "_env_file")
  let mark ← markOf (value "_env_prefix")
  return {
    mark := mark
    minds := (value "_case_sensitive").truthy
    skipsEmpty := (value "_env_ignore_empty").truthy
    nullText := textOf? (value "_env_parse_none_str")
    partMark := (textOf? (value "_env_nested_delimiter")).filter fun mark => !mark.isEmpty }

/-- A name as it is compared. -/
def name (lookup : Lookup) (text : String) : String :=
  if lookup.minds then text else Text.lower text

/-- The environment name of a field. -/
def environmentName (lookup : Lookup) (key : String) : String := lookup.name (lookup.mark ++ key)

/-- An environment entry counts. -/
def counts (lookup : Lookup) (entry : String × String) : Bool :=
  !(lookup.skipsEmpty && entry.2.isEmpty)

/-- The environment gives a part of a list. -/
def hasPart (lookup : Lookup) (environment : List (String × String)) (key : String) : Bool :=
  lookup.partMark.any fun mark =>
    environment.any fun entry =>
      lookup.counts entry
        && (lookup.environmentName key ++ mark).toList.isPrefixOf (lookup.name entry.1).toList

end Lookup

/-- How many steps of work are under way when the text of a list is read. -/
def readingSteps : Nat := 12

/-- The value of a list that an environment text writes. -/
def valueOfText (text : String) : Except Failure Value :=
  match Json.readWithin (.under readingSteps) text with
  | .ok value => .ok value
  | .error .tooDeep => .error (.fault (.misuse .tooDeep))
  | .error _ => .error .unreadable

/-- The value that the environment gives a field: of entries with the same name the last
counts, and parts of a list on their own make an object. -/
def environmentValue? (lookup : Lookup) (environment : List (String × String))
    (key : String) : Except Failure (Option Value) := do
  let found := environment.reverse.find? fun entry =>
    lookup.counts entry && lookup.name entry.1 = lookup.environmentName key
  match found with
  | none =>
      if listKeys.contains key && lookup.hasPart environment key then return some (.object [])
      else return none
  | some (_, text) =>
      if lookup.nullText = some text then return some .null
      else if listKeys.contains key then
        match ← valueOfText text with
        | .null => return none
        | value => return some value
      else return some (.str text)

/-- The values that the environment gives. -/
def environmentValues (lookup : Lookup) (environment : List (String × String)) :
    List String → Except Failure Fields
  | [] => .ok []
  | key :: rest => do
      let found ← environmentValue? lookup environment key
      let others ← environmentValues lookup environment rest
      return (found.map fun value => (key, value)).toList ++ others

/-- The values given to fields, each under the field's own name. -/
def givenValues (lookup : Lookup) (given : Fields) : Fields :=
  keys.filterMap fun key =>
    (given.find? fun entry => lookup.name entry.1 = key).map fun entry => (key, entry.2)

/-- Settings from an environment and named values. -/
def load (environment : List (String × String)) (given : Fields) : Except Failure Settings := do
  let lookup ← Lookup.ofFields given
  let found ← environmentValues lookup environment keys
  Lookup.checkPaths (Fields.getD given "_secrets_dir")
  match ofValues (Fields.merge found (givenValues lookup given)) with
  | .ok settings => return settings
  | .error issues => .error (.invalid issues)

/-- Settings as data. -/
def toValue (settings : Settings) : Value :=
  .object [
    ("app_name", .str settings.appName),
    ("app_version", .str settings.appVersion),
    ("debug", .bool settings.debug),
    ("environment", .str settings.environment),
    ("default_locale", .str settings.defaultLocale),
    ("ab_salt", .str settings.bucketSalt),
    ("ab_buckets", .list (settings.buckets.map .str)),
    ("pages_backend", .str settings.pagesBackend),
    ("plugins_backend", .str settings.pluginsBackend),
    ("plugins_config_file", .str settings.pluginsFile),
    ("database_url", .str settings.databaseUrl),
    ("log_json", .bool settings.logJson)]

end Settings

end PageComposer
