import PageComposer.Access
import PageComposer.Text.LowerCase

/-!
# Requests

What composition sees of a request, however it came in: headers under lower-case
names, query, cookies and the id of the user.
-/

namespace PageComposer

/-- What composition sees of a request. -/
structure Request where
  headers : Fields
  query : Value
  cookies : Value
  userId : Value
  deriving DecidableEq, Repr

namespace Request

/-- A request of nothing. -/
def empty : Request := ⟨[], .object [], .object [], .null⟩

/-- Headers under lower-case names; of names that differ only in case the last counts. -/
def lowerNames (headers : Fields) : Fields :=
  headers.foldl (fun lowered entry => Fields.insert lowered (Text.lower entry.1) entry.2) []

def ofValues (headers query cookies userId : Value) : Outcome Request := do
  return ⟨lowerNames (← headers.entries), query, cookies, userId⟩

/-- The header of a name in any case, or a default. -/
def header (request : Request) (name : String) (default : Value) : Value :=
  (Fields.get? request.headers (Text.lower name)).getD default

end Request

/-- The record that composition works on. -/
structure Context where
  tree : Value
  flags : Value
  locale : Value
  bucket : Value
  userId : Value
  /-- The request, unless it has been written over with something else. -/
  request? : Option Request
  deriving DecidableEq, Repr

namespace Context

/-- A context for a request, with nothing filled in. -/
def ofRequest (request : Request) : Context :=
  ⟨.null, .object [], .null, .null, .null, some request⟩

/-- The record as data, without its request. -/
def toValue (context : Context) : Value :=
  .object [("tree", context.tree), ("locale", context.locale), ("ab", context.bucket),
    ("flags", context.flags), ("user_id", context.userId)]

/-- The request, which has to be there. -/
def request (context : Context) : Outcome Request :=
  match context.request? with
  | some request => .ok request
  | none => .error .notAnObject

end Context

end PageComposer
