import PageComposer.Display
import PageComposer.Text.Surrogate

/-!
# Problems and faults

A `Problem` is an error that page composition reports by itself, one constructor for
each cause.  Its code, status, message and details follow from the cause, so hosts
branch on the code and never on the text.

A `Fault` is anything that can end an operation: a problem, an error raised by a
callback, a refusal by a database, or data of the wrong shape in the hands of an
operation that does not check it first.
-/

namespace PageComposer

/-- The stable codes of problems. -/
inductive ErrorCode where
  | invalidNode
  | invalidPage
  | pluginInvalid
  | pluginDuplicate
  | pluginNotRegistered
  | pluginInvalidParams
  | pluginInvalidMetadata
  | allowlistInvalid
  | renderPluginNotAllowed
  | renderPluginMissing
  | renderPluginBadReturn
  | renderFailed
  | serviceNotRegistered
  | circularDependency
  | middlewareInvalid
  | middlewareNextRepeated
  | resourceNotFound
  | badRequest
  | internalError
  deriving DecidableEq, Repr

namespace ErrorCode

def text : ErrorCode → String
  | invalidNode => "DSL_INVALID_NODE"
  | invalidPage => "DSL_INVALID_PAGE"
  | pluginInvalid => "PLUGIN_INVALID"
  | pluginDuplicate => "PLUGIN_DUPLICATE"
  | pluginNotRegistered => "PLUGIN_NOT_REGISTERED"
  | pluginInvalidParams => "PLUGIN_INVALID_PARAMS"
  | pluginInvalidMetadata => "PLUGIN_INVALID_METADATA"
  | allowlistInvalid => "ALLOWLIST_INVALID"
  | renderPluginNotAllowed => "RENDER_PLUGIN_NOT_ALLOWED"
  | renderPluginMissing => "RENDER_PLUGIN_MISSING"
  | renderPluginBadReturn => "RENDER_PLUGIN_BAD_RETURN"
  | renderFailed => "RENDER_FAILED"
  | serviceNotRegistered => "SERVICE_NOT_REGISTERED"
  | circularDependency => "CIRCULAR_DEPENDENCY"
  | middlewareInvalid => "MIDDLEWARE_INVALID"
  | middlewareNextRepeated => "MIDDLEWARE_NEXT_REPEATED"
  | resourceNotFound => "RESOURCE_NOT_FOUND"
  | badRequest => "BAD_REQUEST"
  | internalError => "INTERNAL_ERROR"

def all : List ErrorCode := [
  invalidNode, invalidPage, pluginInvalid, pluginDuplicate, pluginNotRegistered,
  pluginInvalidParams, pluginInvalidMetadata, allowlistInvalid, renderPluginNotAllowed,
  renderPluginMissing, renderPluginBadReturn, renderFailed, serviceNotRegistered,
  circularDependency, middlewareInvalid, middlewareNextRepeated, resourceNotFound,
  badRequest, internalError]

/-- The code that a value names. -/
def ofValue? (value : Value) : Option ErrorCode := all.find? fun code => value = .str code.text

end ErrorCode

/-- An error that composition reports by itself. -/
inductive Problem where
  /-- A problem of no more special kind. -/
  | general (message status : Value) (code : ErrorCode) (details : Value)
  /-- A node or page that breaks the page grammar. -/
  | invalidDocument (message : Value) (violations : Value) (code : ErrorCode)
  /-- A plugin, its metadata, its params or an allowlist that the registry refuses. -/
  | registry (message : Value) (code : ErrorCode) (details : Value)
  /-- A failure while a tree is rendered. -/
  | rendering (message : Value) (pluginType : Value) (code : ErrorCode)
  | pluginNotAllowed (pluginType : Value)
  | pluginMissing (pluginType : Value)
  | pluginBadReturn (pluginType : Value) (returned : String)
  /-- A service that cannot be resolved. -/
  | resolution (message : Value) (service : String) (code : ErrorCode)
  | serviceNotRegistered (service : String)
  | circularDependency (service : String) (chain : List String)
  /-- A malformed stack of middlewares, or a misuse of `next`. -/
  | middleware (message : Value) (code : ErrorCode)
  | pageNotFound (slug : Value)
  deriving DecidableEq, Repr

namespace Problem

/-- The name that callers know a problem's kind by. -/
def name : Problem → String
  | general .. => "CMSError"
  | invalidDocument .. => "ValidationError"
  | registry .. => "PluginRegistryError"
  | rendering .. => "RenderError"
  | pluginNotAllowed _ => "PluginNotAllowedError"
  | pluginMissing _ => "PluginMissingError"
  | pluginBadReturn .. => "PluginBadReturnError"
  | resolution .. => "ResolutionError"
  | serviceNotRegistered _ => "ServiceNotRegisteredError"
  | circularDependency .. => "CircularDependencyError"
  | middleware .. => "MiddlewareError"
  | pageNotFound _ => "PageNotFoundError"

/-- The kinds a problem belongs to, from its own to the most general. -/
def lineage (problem : Problem) : List String :=
  match problem with
  | general .. => [problem.name]
  | pluginNotAllowed _ | pluginMissing _ | pluginBadReturn .. =>
      [problem.name, "RenderError", "CMSError"]
  | serviceNotRegistered _ | circularDependency .. =>
      [problem.name, "ResolutionError", "CMSError"]
  | _ => [problem.name, "CMSError"]

/-- The message; it is a text unless a caller has given something else. -/
def message : Problem → Value
  | general message .. => message
  | invalidDocument message .. => message
  | registry message .. => message
  | rendering message .. => message
  | pluginNotAllowed pluginType => "Plugin not allowed: " ++ pluginType.display
  | pluginMissing pluginType => "Renderer plugin not found or invalid: " ++ pluginType.display
  | pluginBadReturn pluginType _ => "Plugin render must return a string: " ++ pluginType.display
  | resolution message .. => message
  | serviceNotRegistered service => "Service not registered: " ++ service
  | circularDependency service _ => "Circular dependency detected: " ++ service
  | middleware message _ => message
  | pageNotFound _ => "Page not found"

/-- The HTTP status that a host answers a problem with, unless it groups it. -/
def status : Problem → Value
  | general _ status .. => status
  | invalidDocument .. | registry .. | rendering .. | pluginNotAllowed _ | pluginMissing _
  | pluginBadReturn .. => .int 400
  | resolution .. | serviceNotRegistered _ | circularDependency .. | middleware .. => .int 500
  | pageNotFound _ => .int 404

def code : Problem → ErrorCode
  | general _ _ code _ => code
  | invalidDocument _ _ code => code
  | registry _ code _ => code
  | rendering _ _ code => code
  | pluginNotAllowed _ => .renderPluginNotAllowed
  | pluginMissing _ => .renderPluginMissing
  | pluginBadReturn .. => .renderPluginBadReturn
  | resolution _ _ code => code
  | serviceNotRegistered _ => .serviceNotRegistered
  | circularDependency .. => .circularDependency
  | middleware _ code => code
  | pageNotFound _ => .resourceNotFound

/-- The plugin type of a rendering problem. -/
def pluginType? : Problem → Option Value
  | rendering _ pluginType _ | pluginNotAllowed pluginType | pluginMissing pluginType
  | pluginBadReturn pluginType _ => some pluginType
  | _ => none

/-- The entry that names the plugin type, unless it is null. -/
def pluginEntry : Value → Fields
  | .null => []
  | pluginType => [("type", pluginType)]

/-- The structured details; a null stands for no details. -/
def details : Problem → Value
  | general _ _ _ details | registry _ _ details =>
      match details with
      | .null => .object []
      | details => details
  | invalidDocument _ violations _ => violations.orElse (.list [])
  | rendering _ pluginType _ | pluginNotAllowed pluginType | pluginMissing pluginType =>
      .object (pluginEntry pluginType)
  | pluginBadReturn pluginType returned =>
      .object (pluginEntry pluginType ++ [("returned", .str returned)])
  | resolution _ service _ | serviceNotRegistered service =>
      .object [("service", .str service)]
  | circularDependency service chain =>
      .object (("service", .str service) ::
        (if chain.isEmpty then [] else [("chain", .list (chain.map .str))]))
  | middleware .. => .object []
  | pageNotFound slug => .object [("slug", slug)]

/-- A second `next` of one middleware. -/
def nextRepeated : Problem := .middleware "next() called multiple times" .middlewareNextRepeated

end Problem

/-- Data of the wrong shape. -/
inductive Misuse where
  /-- An object is wanted where another value stands. -/
  | notAnObject
  /-- A value is of a kind that the operation cannot take. -/
  | wrongKind
  /-- A value is of a kind that the operation cannot take, and it says so. -/
  | mistyped (reason : String)
  /-- A value of this kind is called. -/
  | notCallable (kind : String)
  /-- A value of this kind is compared with an integer, by this sign. -/
  | incomparable (sign kind : String)
  /-- A value of this kind is to serve as a key. -/
  | notAKey (kind : String)
  /-- An object lacks a key that is taken for granted. -/
  | missingKey
  /-- A list lacks an item that is taken for granted. -/
  | outOfRange
  | zeroDivisor
  /-- An integer is too large for a double, or for a column of a table. -/
  | tooLarge
  /-- An integer is too large for one of 32 bits. -/
  | tooLargeForWord
  /-- A text is not JSON. -/
  | unreadable
  /-- A text that is to be sent has surrogates on their own. -/
  | unsendable (run : Text.SurrogateRun)
  /-- A text that takes one byte for each character has a character that fits in none. -/
  | tooWide
  /-- A text would take more memory than there is. -/
  | outOfMemory
  /-- Values or callbacks are nested too deep. -/
  | tooDeep
  /-- The values of an answer are nested too deep. -/
  | tooDeepAnswer
  deriving DecidableEq, Repr

/-- A value of the right kind that an operation refuses. -/
inductive Refusal where
  | pageWithoutSlug
  | storedPageWithoutSlug
  | unknownPagesBackend (name : String)
  | unknownPluginsBackend (name : String)
  | unknownLifetime (given : Value)
  | unknownErrorCode (given : Value)
  | unknownStatus (given : Value)
  /-- A text that is to be an integer. -/
  | notAnInteger (text : String)
  /-- A text that is to be a number. -/
  | notANumber (text : String)
  /-- A text that is to be true or false. -/
  | notAFlag (text : String)
  /-- Three names or more where two are wanted. -/
  | tooManyNames
  /-- No log level, but something else of that name. -/
  | unknownLevel (meant : String)
  | notFinite
  /-- An integer of so many digits where a limit is set. -/
  | oversizedInteger (limit digits : Nat)
  /-- An item that is to be a pair has another length. -/
  | notAPair (index length : Nat)
  /-- A message template that cannot be filled in. -/
  | template (reason : String)
  /-- No isolation level of a database. -/
  | unknownIsolation
  /-- The name of a file with a null character. -/
  | nullInFileName
  deriving DecidableEq, Repr

def Refusal.message : Refusal → String
  | pageWithoutSlug => "Page needs a slug (argument or meta.slug)"
  | storedPageWithoutSlug => "Page meta.slug is required to store a page"
  | unknownPagesBackend name => "Unknown pages backend: " ++ name
  | unknownPluginsBackend name => "Unknown plugins backend: " ++ name
  | unknownLifetime given => given.quoted ++ " is not a valid ServiceLifetime"
  | unknownErrorCode given => given.quoted ++ " is not a valid ErrorCode"
  | notAnInteger text =>
      "invalid literal for int() with base 10: "
        ++ String.ofList ((Text.quoted text).toList.take 200)
  | notANumber text => "could not convert string to float: " ++ Text.quoted text
  | notAFlag text => "String is not true/false: " ++ Text.quoted text
  | tooManyNames => "too many values to unpack (expected 2)"
  | unknownStatus given => given.quoted ++ " is not a valid HTTPStatus"
  | unknownLevel meant => "Unknown level: " ++ Text.quoted meant
  | notFinite => "Out of range float values are not JSON compliant"
  | oversizedInteger limit digits =>
      "Exceeds the limit (" ++ toString limit ++ " digits) for integer string conversion: "
        ++ "value has " ++ toString digits
        ++ " digits; use sys.set_int_max_str_digits() to increase the limit"
  | notAPair index length =>
      "dictionary update sequence element #" ++ toString index ++ " has length "
        ++ toString length ++ "; 2 is required"
  | template reason => reason
  | unknownIsolation => "isolation_level string must be '', 'DEFERRED', 'IMMEDIATE', or 'EXCLUSIVE'"
  | nullInFileName => "embedded null byte"

/-- Why a database does not do what it is asked to. -/
inductive Denial where
  /-- A text is no address of a database. -/
  | noAddress
  /-- This address names a server, and a database in a file has none. -/
  | serverNamed (address : String)
  /-- Among the things of a group there is none of this name. -/
  | notFound (group name : String)
  /-- Something else has the name where a driver is wanted. -/
  | notADriver (what : String)
  /-- The module that the driver needs is not at hand. -/
  | noModule (name : String)
  /-- The driver of this name blocks. -/
  | blocking (driver : String)
  /-- The database does not open. -/
  | unopened (reason : String)
  /-- The table has not been made that a statement with these parameters asks. -/
  | noTable (table statement : String) (parameters : List Value)
  /-- A value that no column can be compared with. -/
  | unsupported
  /-- A list or an object that is no key of a table. -/
  | wrongKey
  /-- A value that a column cannot be without. -/
  | required
  /-- A value that is none of those that a column holds. -/
  | unfit
  deriving DecidableEq, Repr

namespace Denial

/-- The greatest length of a parameter in a message. -/
def parameterLength : Nat := 300

/-- A parameter as messages show it; of a long one the middle is left out. -/
def shownParameter (parameter : Value) : String :=
  let text := parameter.quoted.toList
  if text.length ≤ parameterLength then parameter.quoted
  else
    String.ofList (text.take (parameterLength / 2))
      ++ " ... (" ++ toString (text.length - parameterLength) ++ " characters truncated) ... "
      ++ String.ofList (text.drop (text.length - parameterLength / 2))

/-- The parameters of a statement, with a comma after a single one. -/
def shownParameters (parameters : List Value) : String :=
  "(" ++ String.intercalate ", " (parameters.map shownParameter)
    ++ (if parameters.length = 1 then ",)" else ")")

/-- What the engine of the database says, with what it was asked. -/
def engineMessage (reason : String) (asked : List String) : String :=
  String.intercalate "\n" (("(sqlite3.OperationalError) " ++ reason) :: asked
    ++ ["(Background on this error at: https://sqlalche.me/e/21/e3q8)"])

def message : Denial → String
  | noAddress => "Could not parse SQLAlchemy URL from given URL string"
  | serverNamed address =>
      "Invalid SQLite URL: " ++ address ++ "\nValid SQLite URL forms are:\n"
        ++ " sqlite:///:memory: (or, sqlite://)\n sqlite:///relative/path/to/file.db\n"
        ++ " sqlite:////absolute/path/to/file.db"
  | notFound group name => "Can't load plugin: " ++ group ++ ":" ++ name
  | notADriver what => what ++ " has no attribute 'dialect'"
  | noModule name => "No module named " ++ Text.quoted name
  | blocking driver =>
      "The asyncio extension requires an async driver to be used. The loaded "
        ++ Text.quoted driver ++ " is not async."
  | unopened reason => engineMessage reason []
  | noTable table statement parameters =>
      engineMessage ("no such table: " ++ table) (("[SQL: " ++ statement ++ "]")
        :: (if parameters.isEmpty then []
          else ["[parameters: " ++ shownParameters parameters ++ "]"]))
  | unsupported => "no column can be compared with this value"
  | wrongKey => "the key has other parts"
  | required => "the column needs a value"
  | unfit => "the column cannot hold this value"

end Denial

/-- Anything that can end an operation. -/
inductive Fault where
  | problem (cause : Problem)
  /-- An error raised by a callback. -/
  | callback (message : String)
  /-- An HTTP error raised by a callback. -/
  | http (status : Value) (detail : String)
  | refusal (cause : Refusal)
  | misuse (cause : Misuse)
  | denial (cause : Denial)
  deriving DecidableEq, Repr

namespace Fault

abbrev notAnObject : Fault := .misuse .notAnObject

abbrev wrongKind : Fault := .misuse .wrongKind

def message : Fault → String
  | .problem cause => cause.message.display
  | .callback message => message
  | .http status detail => status.display ++ ": " ++ detail
  | .refusal cause => cause.message
  | .misuse .notAnObject => "an object is wanted here"
  | .misuse .wrongKind => "a value of another kind is wanted here"
  | .misuse (.mistyped reason) => reason
  | .misuse (.notCallable kind) => Text.quoted kind ++ " object is not callable"
  | .misuse (.incomparable sign kind) =>
      Text.quoted sign ++ " not supported between instances of " ++ Text.quoted kind
        ++ " and 'int'"
  | .misuse (.notAKey kind) => "unhashable type: " ++ Text.quoted kind
  | .misuse .missingKey => "a key is missing here"
  | .misuse .outOfRange => "an item is missing here"
  | .misuse .zeroDivisor => "integer modulo by zero"
  | .misuse .tooLarge => "int too large to convert to float"
  | .misuse .tooLargeForWord => "Python int too large to convert to C int"
  | .misuse .unreadable => "the text is not JSON"
  | .misuse (.unsendable run) =>
      "'utf-8' codec can't encode character"
        ++ (if run.length = 1 then
            " '\\u" ++ String.ofList (Text.hexDigits 4 run.first) ++ "' in position "
              ++ toString run.start
          else
            "s in position " ++ toString run.start ++ "-"
              ++ toString (run.start + run.length - 1))
        ++ ": surrogates not allowed"
  | .misuse .tooWide => "a character does not fit in a byte"
  | .misuse .outOfMemory => "the text is too long"
  | .misuse .tooDeep => "maximum recursion depth exceeded while calling a Python object"
  | .misuse .tooDeepAnswer =>
      "Error serializing to JSON: ValueError: Maximum serialization depth exceeded"
  | .denial cause => cause.message

end Fault

/-- The outcome of an operation that may fail. -/
abbrev Outcome := Except Fault

end PageComposer
