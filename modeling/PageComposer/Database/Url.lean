import PageComposer.Fault
import PageComposer.Http.Form
import PageComposer.Text.Numeral
import PageComposer.Text.WordChar

/-!
# Addresses of databases

The address of a database names a dialect and perhaps a driver, then maybe a user, a host,
the number of a service and a path, and options behind a question mark.  `Url.parse` takes
the longest part of a text that is an address and passes over the rest; `Url.text` writes an
address without giving its password away.
-/

namespace PageComposer.Database

structure Url where
  /-- The dialect, with the driver behind a plus sign if there is one. -/
  name : String
  user : Option String
  password : Option String
  host : Option String
  /-- The number of the service at the host. -/
  service : Option Int
  path : Option String
  /-- The values of each option, in order. -/
  options : List (String × List String)
  deriving DecidableEq, Repr

namespace Url

/-- What stands before the last occurrence of a character, and what after it. -/
def cutAtLast? (mark : Char) (text : List Char) : Option (List Char × List Char) :=
  let reversed := text.reverse
  match reversed.dropWhile (· ≠ mark) with
  | [] => none
  | _ :: before => some (before.reverse, (reversed.takeWhile (· ≠ mark)).reverse)

/-- The user and the password in front of an at sign, and what follows it. -/
def credentials (text : List Char) : Option (List Char) × Option (List Char) × List Char :=
  let (name, rest) := text.span fun char => char ≠ ':' && char ≠ '/'
  let userOnly :=
    match cutAtLast? '@' name with
    | some (user, after) => (some user, none, after ++ rest)
    | none => (none, none, text)
  match rest with
  | ':' :: secret =>
      match secret.dropWhile (· ≠ '@') with
      | _ :: after => (some name, some (secret.takeWhile (· ≠ '@')), after)
      | [] => userOnly
  | _ => userOnly

/-- The host, which may stand in brackets, and what follows it. -/
def hostPart (text : List Char) : Option (List Char) × List Char :=
  let (authority, rest) := text.span fun char => char ≠ '/' && char ≠ '?'
  let bracketed : Option (List Char × List Char) :=
    match authority with
    | '[' :: inner => (cutAtLast? ']' inner).filter fun parts => !parts.1.isEmpty
    | _ => none
  let (host, after) := bracketed.getD (authority.span (· ≠ ':'))
  (if host.isEmpty then none else some host, after ++ rest)

/-- The number of a service behind a colon, and what follows it. -/
def servicePart : List Char → Option (List Char) × List Char
  | ':' :: rest =>
      let (service, rest) := rest.span fun char => char ≠ '/' && char ≠ '?'
      (some service, rest)
  | rest => (none, rest)

/-- The path behind a slash, and what follows it. -/
def pathPart : List Char → Option (List Char) × List Char
  | '/' :: rest =>
      let (path, rest) := rest.span (· ≠ '?')
      (some path, rest)
  | rest => (none, rest)

/-- The options behind a question mark, up to the end of the line. -/
def queryPart : List Char → List Char
  | '?' :: rest => rest.takeWhile (· ≠ '\n')
  | _ => []

/-- Add a value to those of its option. -/
def addOption (options : List (String × List String)) (key value : String) :
    List (String × List String) :=
  if options.any fun option => option.1 = key then
    options.map fun option => if option.1 = key then (key, option.2 ++ [value]) else option
  else options ++ [(key, [value])]

/-- The options that a query gives; one without a value is none. -/
def optionsOf (query : String) : List (String × List String) :=
  ((Http.formPairs query).filter fun pair => !pair.2.isEmpty).foldl
    (fun options pair => addOption options pair.1 pair.2) []

/-- The most digits of an integer. -/
def greatestDigits : Nat := 4300

/-- The integer that a text writes. -/
def readInteger (text : String) : Outcome Int :=
  match Text.integerWithin greatestDigits text with
  | .ok value => .ok value
  | .error .malformed => .error (.refusal (.notAnInteger text))
  | .error (.oversized digits) => .error (.refusal (.oversizedInteger greatestDigits digits))

/-- The address that a text begins with. -/
def parse (text : String) : Outcome Url :=
  let (name, rest) := text.toList.span fun char => Text.isWordChar char || char = '+'
  match name, rest with
  | _ :: _, ':' :: '/' :: '/' :: rest => do
      let (user, password, rest) := credentials rest
      let (host, rest) := hostPart rest
      let (service, rest) := servicePart rest
      let (path, rest) := pathPart rest
      let service ← service.mapM fun service => readInteger (String.ofList service)
      let decoded (part : Option (List Char)) : Option String :=
        part.map fun part => Text.percentDecoded (String.ofList part)
      return {
        name := String.ofList name
        user := decoded user
        password := decoded password
        host := host.map String.ofList
        service := service
        path := decoded path
        options := optionsOf (String.ofList (queryPart rest)) }
  | _, _ => .error (.denial .noAddress)

/-- The values of an option. -/
def option? (url : Url) (key : String) : Option (List String) :=
  (url.options.find? fun option => option.1 = key).map Prod.snd

/-- An address without some of its options. -/
def without (url : Url) (keys : List String) : Url :=
  { url with options := url.options.filter fun option => !keys.contains option.1 }

/-- A part that is there and is not empty. -/
def isGiven (part : Option String) : Bool := part.any fun text => !text.isEmpty

/-- The address names a user, a password, a host or a service; the service zero does not
count. -/
def namesServer (url : Url) : Bool :=
  isGiven url.user || isGiven url.password || isGiven url.host || url.service.any (· ≠ 0)

/-- A name or a value of an option, as addresses write it. -/
def optionText (text : String) : String :=
  (Text.percentEncode [' '] text).map fun char => if char = ' ' then '+' else char

/-- The options of an address in the order of their names. -/
def sortedOptions (url : Url) : List (String × List String) :=
  url.options.mergeSort fun left right => left.1 ≤ right.1

/-- The address as a text, with marks in place of the password. -/
def text (url : Url) : String :=
  let secret := if url.password.isSome then ":***" else ""
  let user := url.user.map fun user => Text.percentEncode " +".toList user ++ secret ++ "@"
  let host := url.host.map fun host => if host.toList.contains ':' then "[" ++ host ++ "]" else host
  let service := url.service.map fun service => ":" ++ toString service
  let path := url.path.map fun path => "/" ++ Text.percentEncode " +/".toList path
  let pairs := url.sortedOptions.flatMap fun option =>
    option.2.map fun value => optionText option.1 ++ "=" ++ optionText value
  url.name ++ "://" ++ user.getD "" ++ host.getD "" ++ service.getD "" ++ path.getD ""
    ++ (if pairs.isEmpty then "" else "?" ++ String.intercalate "&" pairs)

end Url

end PageComposer.Database
