import PageComposer.Display

/-!
# Markup

Text goes into markup with five characters replaced by entities, in content and in
attribute values alike; attribute values stand in double quotes.
-/

namespace PageComposer.Markup

/-- A character in markup. -/
def escapeChar (char : Char) : List Char :=
  if char = '&' then "&amp;".toList
  else if char = '<' then "&lt;".toList
  else if char = '>' then "&gt;".toList
  else if char = '"' then "&quot;".toList
  else if char = '\'' then "&#39;".toList
  else [char]

/-- A text in markup. -/
def escape (text : String) : String := String.ofList (text.toList.flatMap escapeChar)

/-- The text of a value in markup. -/
def escapeValue (value : Value) : String := escape value.display

/-- A name with a value. -/
def attributeText (name : String) (value : Value) : String :=
  name ++ "=\"" ++ escapeValue value ++ "\""

/-- A class attribute behind a blank, nothing for a value that does not count. -/
def classAttribute (value : Value) : String :=
  if value.truthy then " " ++ attributeText "class" value else ""

/-- An element with a class and a body that is markup already. -/
def element (tag : String) (className : Value) (body : String) : String :=
  "<" ++ tag ++ classAttribute className ++ ">" ++ body ++ "</" ++ tag ++ ">"

/-- An element without a body. -/
def emptyElement (tag : String) (attributes : List String) : String :=
  "<" ++ tag ++ " " ++ String.intercalate " " attributes ++ " />"

end PageComposer.Markup
