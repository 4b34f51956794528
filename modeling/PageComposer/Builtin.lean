import PageComposer.ListItem
import PageComposer.Markup
import PageComposer.Registry.Delivery

/-!
# Built-in plugins

Four plugins come with every site: `Container` wraps its children in a block
element, `TextBlock` is a run of text, `Image` an element of its own, and `List` a
list of texts.  Their schemas admit the params named here and no others, so the
bodies find what they look for.
-/

namespace PageComposer.Builtin

/-- The schema of values of one type. -/
def typed (name : TypeName) : Value := .object [("type", .str name.text)]

/-- The schema of texts out of a list. -/
def oneOf (choices : List String) : Value :=
  .object [("type", .str TypeName.string.text), ("enum", .list (choices.map .str))]

/-- The schema of objects with some keys that have to be there and no unknown ones. -/
def paramsSchema (required : List String) (properties : Fields) : Value :=
  .object ([("type", .str TypeName.object.text), ("additionalProperties", .bool false)]
    ++ (if required.isEmpty then [] else [("required", .list (required.map .str))])
    ++ [("properties", .object properties)])

def draft (name category description : String) (tags : List String) : MetadataDraft :=
  { MetadataDraft.named (.str name) with
    category := .str category
    description := .str description
    tags := .list (tags.map .str) }

/-- A plugin whose body only computes. -/
def plugin (id category description : String) (tags : List String) (schema : Value)
    (render : RenderArgs → Outcome String) : Plugin where
  id := .str id
  schema := schema
  metadata := some (draft id category description tags)
  body := some fun args => .ofOutcome (render args)

/-- A param, null when it is not given. -/
def param (args : RenderArgs) (name : String) : Outcome Value := args.params.lookup name

/-- A param that is taken for granted. -/
def requiredParam (args : RenderArgs) (name : String) : Outcome Value := do
  match Fields.get? (← args.params.entries) name with
  | some value => return value
  | none => .error (.misuse .missingKey)

/-- The tag of the params, or a default. -/
def tagOf (args : RenderArgs) (default : String) : Outcome String := do
  return ((← param args "tag").orElse (.str default)).display

namespace Container

def tags : List String := ["div", "section", "article", "main", "aside"]

def schema : Value :=
  paramsSchema [] [("class", typed .string), ("tag", oneOf tags)]

def render (args : RenderArgs) : Outcome String := do
  let tag ← tagOf args "div"
  return Markup.element tag (← param args "class") args.children

end Container

namespace TextBlock

def tags : List String := ["p", "h1", "h2", "h3", "span", "div"]

def schema : Value :=
  paramsSchema ["text"] [("text", typed .string), ("tag", oneOf tags), ("class", typed .string)]

def render (args : RenderArgs) : Outcome String := do
  let tag ← tagOf args "p"
  let className ← param args "class"
  return Markup.element tag className (Markup.escapeValue (← requiredParam args "text"))

end TextBlock

namespace Image

def schema : Value :=
  paramsSchema ["src"] [
    ("src", .object [("type", .str TypeName.string.text), ("minLength", .int 1)]),
    ("alt", typed .string),
    ("width", typed .number),
    ("height", typed .number),
    ("class", typed .string)]

/-- An attribute for a text that counts. -/
def optionalText (args : RenderArgs) (name : String) : Outcome (List String) := do
  let value ← param args name
  return if value.truthy then [Markup.attributeText name value] else []

/-- A number as a length: whole doubles without their fraction.  An integer has to be
in the range of doubles. -/
def length? : Value → Outcome (Option Value)
  | .int value =>
      match Binary64.ofInt? value with
      | some _ => .ok (some (.int value))
      | none => .error (.misuse .tooLarge)
  | .float value =>
      match value.toInt? with
      | some whole => .ok (some (.int whole))
      | none => .ok (some (.float value))
  | _ => .ok none

/-- An attribute for a number. -/
def optionalLength (args : RenderArgs) (name : String) : Outcome (List String) := do
  let length ← length? (← param args name)
  return (length.map (Markup.attributeText name)).toList

def render (args : RenderArgs) : Outcome String := do
  let src := Markup.attributeText "src" (← requiredParam args "src")
  let alt ← optionalText args "alt"
  let width ← optionalLength args "width"
  let height ← optionalLength args "height"
  let className ← optionalText args "class"
  return Markup.emptyElement "img" (src :: (alt ++ width ++ height ++ className))

end Image

namespace List

def schema : Value :=
  paramsSchema ["items"] [
    ("items", typed .array),
    ("ordered", typed .boolean),
    ("class", typed .string),
    ("itemClass", typed .string),
    ("itemKey", typed .string)]

/-- The elements of the items. -/
def elements (className key : Value) : List Value → Outcome String
  | [] => .ok ""
  | item :: rest => do
      let text ← ListItem.text key item
      let others ← elements className key rest
      return Markup.element "li" className (Markup.escape text) ++ others

def render (args : RenderArgs) : Outcome String := do
  let tag := if (← param args "ordered").truthy then "ol" else "ul"
  let itemClass ← param args "itemClass"
  let items ← ((← param args "items").orElse (.list [])).members
  let body ← elements itemClass (← param args "itemKey") items
  return Markup.element tag (← param args "class") body

end List

/-- The built-in plugins in the order of their registration. -/
def plugins : List Plugin := [
  plugin "Container" "layout" "Block element wrapping its children" ["layout", "block"]
    Container.schema Container.render,
  plugin "TextBlock" "content" "Paragraph or heading of plain text"
    ["text", "heading", "paragraph"] TextBlock.schema TextBlock.render,
  plugin "Image" "media" "Responsive image element" ["media", "img"]
    Image.schema Image.render,
  plugin "List" "content" "Ordered or unordered list of items" ["list", "items"]
    List.schema List.render]

/-- A registry after the registration of some plugins that have metadata of their own. -/
def registerAll (registry : Registry) : List Plugin → Outcome Registry
  | [] => .ok registry
  | plugin :: rest => do
      let (registry, _) ← registry.register plugin .absent
      registerAll registry rest

/-- A registry with the built-in plugins added to it. -/
def addTo (registry : Registry) : Outcome Registry := registerAll registry plugins

end PageComposer.Builtin
