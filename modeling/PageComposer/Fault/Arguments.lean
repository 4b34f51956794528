import PageComposer.Access

/-!
# Problems from arguments

A host that tells of problems in data gives the name of a kind and the arguments of the
problem, by position or by name.  `Arguments.bind` gives every argument its name, and
`Problem.ofArguments` builds the problem; what is left out has a default for each kind.
-/

namespace PageComposer

/-- Arguments by position, then arguments by name. -/
structure Arguments where
  positional : List Value
  named : Fields
  deriving DecidableEq, Repr

namespace Arguments

/-- Give every argument its name.  No argument is given twice, none is unknown, and the
first `required` of the names have to be there. -/
def bind (arguments : Arguments) (names : List String) (required : Nat) : Outcome Fields :=
  let bound := names.zip arguments.positional
  let fields := bound ++ arguments.named
  if names.length < arguments.positional.length then .error .wrongKind
  else if arguments.named.any (fun entry => !names.contains entry.1 || Fields.has bound entry.1)
  then .error .wrongKind
  else if (names.take required).all (Fields.has fields) then .ok fields
  else .error .wrongKind

/-- The argument of the only parameter. -/
def only (arguments : Arguments) (name : String) : Outcome Value := do
  return Fields.getD (← arguments.bind [name] 1) name

end Arguments

namespace Problem

/-- The code that arguments give by name. -/
def codeByName? (arguments : Arguments) : Outcome (Option ErrorCode) :=
  match Fields.get? arguments.named "error_code" with
  | none => .ok none
  | some given =>
      match ErrorCode.ofValue? given with
      | some code => .ok (some code)
      | none => .error (.refusal (.unknownErrorCode given))

/-- The code of a problem: only by its name can one be given, for what stands in its
position is no code yet. -/
def codeOf (byName : Option ErrorCode) (fields : Fields) (default : ErrorCode) :
    Outcome ErrorCode :=
  match byName with
  | some code => .ok code
  | none => if Fields.has fields "error_code" then .error .notAnObject else .ok default

/-- The problem of a kind that is given by its name. -/
def ofArguments (name : String) (arguments : Arguments) : Outcome Problem := do
  let byName ← codeByName? arguments
  match name with
  | "CMSError" =>
      let fields ← arguments.bind ["message", "status_code", "error_code", "details"] 1
      return .general (Fields.getD fields "message")
        ((Fields.get? fields "status_code").getD (.int 500))
        (← codeOf byName fields .internalError) (Fields.getD fields "details")
  | "ValidationError" =>
      let fields ← arguments.bind ["message", "details", "error_code"] 1
      return .invalidDocument (Fields.getD fields "message") (Fields.getD fields "details")
        (← codeOf byName fields .invalidNode)
  | "PluginRegistryError" =>
      let fields ← arguments.bind ["message", "error_code", "details"] 1
      return .registry (Fields.getD fields "message")
        (← codeOf byName fields .pluginInvalid) (Fields.getD fields "details")
  | "RenderError" =>
      let fields ← arguments.bind ["message", "plugin_type", "error_code"] 1
      return .rendering (Fields.getD fields "message") (Fields.getD fields "plugin_type")
        (← codeOf byName fields .renderFailed)
  | "PluginNotAllowedError" => return .pluginNotAllowed (← arguments.only "plugin_type")
  | "PluginMissingError" => return .pluginMissing (← arguments.only "plugin_type")
  | "PluginBadReturnError" =>
      let fields ← arguments.bind ["plugin_type", "returned"] 1
      return .pluginBadReturn (Fields.getD fields "plugin_type")
        (Fields.getD fields "returned").kind
  | "ResolutionError" =>
      let fields ← arguments.bind ["message", "identifier", "error_code"] 3
      return .resolution (Fields.getD fields "message")
        (Fields.getD fields "identifier").display (← codeOf byName fields .internalError)
  | "ServiceNotRegisteredError" =>
      return .serviceNotRegistered (← arguments.only "identifier").display
  | "CircularDependencyError" =>
      let fields ← arguments.bind ["identifier", "chain"] 1
      let chain := Fields.getD fields "chain"
      let members ← if chain.truthy then chain.members else .ok []
      return .circularDependency (Fields.getD fields "identifier").display
        (members.map Value.display)
  | "MiddlewareError" =>
      let fields ← arguments.bind ["message", "error_code"] 1
      return .middleware (Fields.getD fields "message")
        (← codeOf byName fields .middlewareInvalid)
  | "PageNotFoundError" => return .pageNotFound (← arguments.only "slug")
  | _ => .error .notAnObject

end Problem

end PageComposer
