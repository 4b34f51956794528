import PageComposer.Request
import PageComposer.Text.Blank

/-!
# Locales

The locale of a request is its query entry `locale` or `lang`, else the primary tag
of the first language it accepts, else a default.
-/

namespace PageComposer.Locale

/-- The first subtag of a language tag, without blanks and in lower case. -/
def primaryTag (tag : String) : String := Text.lower (Text.strip (Text.before '-' tag))

/-- The primary tag of the first language of an Accept-Language header, whatever its
weight; none for an empty header or a wildcard. -/
def ofAcceptLanguage? (header : String) : Option String :=
  let first := Text.strip (Text.before ';' (Text.before ',' header))
  if first.isEmpty || first = "*" then none
  else
    let tag := primaryTag first
    if tag.isEmpty then none else some tag

/-- The primary tag that a header value gives, if it is a text that gives one. -/
def ofHeader : Value → Value
  | .str header => ((ofAcceptLanguage? header).map Value.str).getD .null
  | _ => .null

/-- The locale of a request. -/
def resolve (request : Request) (default : Value) : Outcome Value := do
  let query ← request.query.entries
  let accepted := ofHeader (request.header "accept-language" .null)
  let found := (Fields.getD query "locale").orElse
    ((Fields.getD query "lang").orElse (accepted.orElse default))
  match found with
  | .str text => return if text.isEmpty then default else found
  | _ => return default

end PageComposer.Locale
