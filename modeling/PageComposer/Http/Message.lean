import PageComposer.Http.Cookie
import PageComposer.Http.Form
import PageComposer.Json.Reader
import PageComposer.Json.Writer
import PageComposer.Page.Node
import PageComposer.Request
import PageComposer.Text.Encoding

/-!
# HTTP messages

A request as it comes in, and what is read off it: the path, the entries of the
query, the headers, the cookies and the body.  Of a repeated header the first value
counts, of a repeated query entry the last.  In a body that is read as JSON, surrogates on
their own are kept by means of stand-ins.
-/

namespace PageComposer.Http

/-- A request; the target is the path, with the query behind a question mark. -/
structure Incoming where
  method : String
  target : String
  headers : List (String × String)
  body : String
  deriving DecidableEq, Repr

namespace Incoming

/-- The path that routes are found by. -/
def path (incoming : Incoming) : String := Text.before '?' incoming.target

/-- A character of a path as messages show it: number signs and backslashes are escaped,
tabs and line breaks left out. -/
def shownChar (char : Char) : List Char :=
  match char with
  | '#' => ['%', '2', '3']
  | '\\' => ['%', '5', 'C']
  | '\t' | '\n' | '\r' => []
  | char => [char]

/-- The path that messages show, which starts with a slash if there is one. -/
def shownPath (incoming : Incoming) : String :=
  let path := incoming.path.toList
  let rooted := if path.isEmpty || path.head? = some '/' then path else '/' :: path
  String.ofList (rooted.flatMap shownChar)

/-- The text of the query. -/
def queryText (incoming : Incoming) : String := (Text.partition '?' incoming.target).2.getD ""

/-- The entries of the query. -/
def query (incoming : Incoming) : Fields :=
  (formPairs incoming.queryText).foldl
    (fun read pair => Fields.insert read pair.1 (.str pair.2)) []

/-- The query and the headers come in as bytes, one for each character. -/
def checkBytes (incoming : Incoming) : Outcome Unit :=
  let fits (text : String) : Bool := text.toList.all fun char => char.toNat < 0x100
  if fits incoming.queryText && incoming.headers.all (fun header => fits header.1 && fits header.2)
  then .ok ()
  else .error (.misuse .tooWide)

/-- The first value of a header. -/
def header? (incoming : Incoming) (name : String) : Option String :=
  (incoming.headers.find? fun header => Text.lower header.1 = name).map Prod.snd

/-- The headers under lower-case names, each with its first value. -/
def headerFields (incoming : Incoming) : Fields :=
  incoming.headers.foldl (fun read header =>
    let name := Text.lower header.1
    if Fields.has read name then read else read ++ [(name, .str header.2)]) []

/-- The cookies of all cookie headers; later ones win. -/
def cookieFields (incoming : Incoming) : Fields :=
  (incoming.headers.filter fun header => Text.lower header.1 = "cookie").foldl
    (fun read header => Fields.merge read (cookies header.2)) []

/-- What composition sees of the request. -/
def toRequest (incoming : Incoming) : Request where
  headers := incoming.headerFields
  query := .object incoming.query
  cookies := .object incoming.cookieFields
  userId := .null

/-- The media type that a content type names, blank when it names none. -/
def mediaType (contentType : String) : String × String :=
  let named := Text.lower (Text.strip (Text.before ';' contentType))
  match Text.pieces '/' named with
  | [main, sub] => (main, sub)
  | _ => ("text", "plain")

/-- A body with this content type is read as JSON. -/
def holdsJson (contentType : String) : Bool :=
  let (main, sub) := mediaType contentType
  main = "application" && (sub = "json" || "+json".toList.isSuffixOf sub.toList)

/-- A body that is not what a route needs. -/
inductive BodyFault where
  | missing
  | notObject
  /-- A text that stops being JSON at a position. -/
  | malformed (offset : Nat)
  /-- Bytes that write no text, or a text past the limits of reading. -/
  | unreadable
  deriving DecidableEq, Repr

/-- An object that a body holds. -/
structure ObjectBody where
  value : Value
  /-- The characters that stand in for surrogates in it, if some do. -/
  standIns : Option Text.StandIns
  deriving DecidableEq, Repr

/-- How the documents in a body are read. -/
def ObjectBody.reading (body : ObjectBody) : Node.Reading := .ofDocumentsWith body.standIns

/-- An object that was read with stand-ins. -/
def ObjectBody.ofRead (standIns : Text.StandIns) (value : Value) : ObjectBody where
  value := value
  standIns :=
    if (Text.surrogateRun? standIns 0 (Json.compact value).toList).isSome then some standIns
    else none

/-- How many steps of work are under way when a body is read. -/
def bodySteps : Nat := 29

/-- The object of a body that holds JSON. -/
def jsonBody (incoming : Incoming) : Except BodyFault ObjectBody :=
  match Text.codesOf? incoming.body with
  | none => .error .unreadable
  | some codes =>
      let standIns := Text.StandIns.forText (codes.map Char.ofNat)
      match Json.readChars (.under bodySteps) standIns (codes.map standIns.charOf) with
      | .ok (.object fields) => .ok (.ofRead standIns (.object fields))
      | .ok .null => .error .missing
      | .ok _ => .error .notObject
      | .error (.malformed offset) => .error (.malformed offset)
      | .error _ => .error .unreadable

/-- The object that a body holds; only a content type for JSON makes it more than bytes. -/
def objectBody (incoming : Incoming) : Except BodyFault ObjectBody :=
  if incoming.body.isEmpty then .error .missing
  else if holdsJson ((incoming.header? "content-type").getD "") then jsonBody incoming
  else .error .notObject

end Incoming

end PageComposer.Http
