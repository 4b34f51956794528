import PageComposer.Markup

/-!
# Reading markup back

`Markup.read` is a strict reader of markup: elements with start tags and matching end
tags, attributes in double quotes, `img` as the one element without content, and no
entities but the five that `escapeChar` writes.  It goes through a text character by
character, with a stack of the elements that are open.

`read_write` says that a forest is read back from its markup, whatever characters its
texts and attribute values hold.
-/

namespace PageComposer.Markup

abbrev Attribute := String × String

/-- What markup describes. -/
inductive Tree where
  | text (content : String)
  | element (tag : String) (attributes : List Attribute) (children : List Tree)
  /-- An element that cannot have content. -/
  | void (tag : String) (attributes : List Attribute)
  deriving Repr

/-! ### Writing -/

def writeText (content : String) : List Char := content.toList.flatMap escapeChar

def writeAttribute (entry : Attribute) : List Char :=
  ' ' :: (entry.1.toList ++ ('=' :: '"' :: (writeText entry.2 ++ ['"'])))

mutual

def Tree.write : Tree → List Char
  | .text content => writeText content
  | .element tag attributes children =>
      '<' :: (tag.toList ++ (attributes.flatMap writeAttribute ++ ('>' :: (writeAll children ++
        ('<' :: '/' :: (tag.toList ++ ['>']))))))
  | .void tag attributes =>
      '<' :: (tag.toList ++ (attributes.flatMap writeAttribute ++ [' ', '/', '>']))

def writeAll : List Tree → List Char
  | [] => []
  | tree :: rest => tree.write ++ writeAll rest

end

def write (forest : List Tree) : String := String.ofList (writeAll forest)

/-! ### Reading -/

def entities : List (List Char × Char) := [
  ("amp".toList, '&'), ("lt".toList, '<'), ("gt".toList, '>'), ("quot".toList, '"'),
  ("#39".toList, '\'')]

def entity? (name : List Char) : Option Char :=
  (entities.find? fun entry => entry.1 = name).map Prod.snd

def isNameChar (char : Char) : Bool :=
  ('a' ≤ char && char ≤ 'z') || ('A' ≤ char && char ≤ 'Z') || ('0' ≤ char && char ≤ '9')

def isName (name : String) : Bool := !name.isEmpty && name.toList.all isNameChar

/-- The tags of elements without content. -/
def voidTags : List String := ["img"]

/-- A start tag as far as it has been read. -/
structure Start where
  tag : String
  attributes : List Attribute
  deriving Repr

/-- Where in the markup a reader is, with what has been read of the thing it is in. -/
inductive Place where
  | content (pending : List Char)
  /-- In an entity, behind its ampersand. -/
  | entity (pending name : List Char)
  /-- Behind the bracket that opens a tag. -/
  | bracket
  | closing (name : List Char)
  | naming (name : List Char)
  /-- Behind a blank in a start tag. -/
  | spaced (start : Start)
  | attributeName (start : Start) (name : List Char)
  /-- Behind the sign between an attribute's name and its value. -/
  | assigned (start : Start) (name : String)
  | value (start : Start) (name : String) (pending : List Char)
  | valueEntity (start : Start) (name : String) (pending entity : List Char)
  /-- Behind a value. -/
  | valued (start : Start)
  /-- Behind the slash of an element without content. -/
  | slashed (start : Start)
  deriving Repr

/-- An open element, and what stands before it in the element around it. -/
structure Frame where
  start : Start
  before : List Tree
  deriving Repr

/-- A reader in the middle of a text. -/
structure Reader where
  frames : List Frame
  siblings : List Tree
  place : Place
  deriving Repr

namespace Reader

/-- The siblings with a text behind them, unless it is empty. -/
def flush (siblings : List Tree) (pending : List Char) : List Tree :=
  if pending.isEmpty then siblings else siblings ++ [.text (String.ofList pending)]

def push (reader : Reader) (start : Start) : Option Reader :=
  if start.tag ∈ voidTags then none
  else some ⟨⟨start, reader.siblings⟩ :: reader.frames, [], .content []⟩

/-- Leave the element that was entered last, which must have this tag. -/
def pop (reader : Reader) (tag : String) : Option Reader :=
  match reader.frames with
  | [] => none
  | frame :: outer =>
      if frame.start.tag = tag then
        some ⟨outer, frame.before ++
          [.element frame.start.tag frame.start.attributes reader.siblings], .content []⟩
      else none

def step (reader : Reader) (char : Char) : Option Reader :=
  let at_ (place : Place) : Option Reader := some { reader with place := place }
  match reader.place with
  | .content pending =>
      if char = '<' then some ⟨reader.frames, flush reader.siblings pending, .bracket⟩
      else if char = '&' then at_ (.entity pending [])
      else if char = '>' || char = '"' || char = '\'' then none
      else at_ (.content (pending ++ [char]))
  | .entity pending name =>
      if char = ';' then
        (entity? name).bind fun meant => at_ (.content (pending ++ [meant]))
      else at_ (.entity pending (name ++ [char]))
  | .bracket =>
      if char = '/' then at_ (.closing [])
      else if isNameChar char then at_ (.naming [char])
      else none
  | .closing name =>
      if char = '>' then reader.pop (String.ofList name)
      else if isNameChar char then at_ (.closing (name ++ [char]))
      else none
  | .naming name =>
      if char = '>' then reader.push ⟨String.ofList name, []⟩
      else if char = ' ' then at_ (.spaced ⟨String.ofList name, []⟩)
      else if isNameChar char then at_ (.naming (name ++ [char]))
      else none
  | .spaced start =>
      if char = '/' then at_ (.slashed start)
      else if isNameChar char then at_ (.attributeName start [char])
      else none
  | .attributeName start name =>
      if char = '=' then
        if String.ofList name ∈ start.attributes.map Prod.fst then none
        else at_ (.assigned start (String.ofList name))
      else if isNameChar char then at_ (.attributeName start (name ++ [char]))
      else none
  | .assigned start name => if char = '"' then at_ (.value start name []) else none
  | .value start name pending =>
      if char = '"' then
        at_ (.valued { start with
          attributes := start.attributes ++ [(name, String.ofList pending)] })
      else if char = '&' then at_ (.valueEntity start name pending [])
      else if char = '<' || char = '>' || char = '\'' then none
      else at_ (.value start name (pending ++ [char]))
  | .valueEntity start name pending entity =>
      if char = ';' then
        (entity? entity).bind fun meant => at_ (.value start name (pending ++ [meant]))
      else at_ (.valueEntity start name pending (entity ++ [char]))
  | .valued start =>
      if char = '>' then reader.push start
      else if char = ' ' then at_ (.spaced start)
      else none
  | .slashed start =>
      if char = '>' then
        if start.tag ∈ voidTags then
          some ⟨reader.frames, reader.siblings ++ [.void start.tag start.attributes], .content []⟩
        else none
      else none

def run (reader : Reader) (chars : List Char) : Option Reader := chars.foldlM step reader

def fresh : Reader := ⟨[], [], .content []⟩

/-- What has been read, if nothing is left open. -/
def finished? (reader : Reader) : Option (List Tree) :=
  match reader.frames, reader.place with
  | [], .content pending => some (flush reader.siblings pending)
  | _, _ => none

end Reader

/-- The forest that a text is the markup of, if it is any. -/
def read (text : String) : Option (List Tree) :=
  (Reader.fresh.run text.toList).bind Reader.finished?

/-! ### Forests that can be read back -/

/-- A forest that has markup of its own: names are names, attributes differ in their
names, texts are not empty and have no text right behind them, and only elements without
content are without it. -/
inductive Proper : List Tree → Prop where
  | nil : Proper []
  | text {content : String} {rest : List Tree} (given : content ≠ "")
      (apart : ∀ other, rest.head? ≠ some (.text other)) (others : Proper rest) :
      Proper (.text content :: rest)
  | element {tag : String} {attributes : List Attribute} {children rest : List Tree}
      (named : isName tag) (notVoid : tag ∉ voidTags)
      (attributesNamed : ∀ entry ∈ attributes, isName entry.1)
      (distinct : (attributes.map Prod.fst).Nodup)
      (below : Proper children) (others : Proper rest) :
      Proper (.element tag attributes children :: rest)
  | void {tag : String} {attributes : List Attribute} {rest : List Tree}
      (named : isName tag) (isVoid : tag ∈ voidTags)
      (attributesNamed : ∀ entry ∈ attributes, isName entry.1)
      (distinct : (attributes.map Prod.fst).Nodup) (others : Proper rest) :
      Proper (.void tag attributes :: rest)

/-! ### Characters in markup -/

/-- A character stands in markup for itself or as an entity. -/
theorem escapeChar_spec (char : Char) :
    (escapeChar char = [char] ∧ char ≠ '&' ∧ char ≠ '<' ∧ char ≠ '>' ∧ char ≠ '"' ∧
      char ≠ '\'') ∨
    ∃ name, escapeChar char = '&' :: (name ++ [';']) ∧ ';' ∉ name ∧ entity? name = some char := by
  by_cases isAmp : char = '&'
  · subst isAmp
    exact .inr ⟨"amp".toList, rfl, by decide, rfl⟩
  by_cases isLess : char = '<'
  · subst isLess
    exact .inr ⟨"lt".toList, rfl, by decide, rfl⟩
  by_cases isGreater : char = '>'
  · subst isGreater
    exact .inr ⟨"gt".toList, rfl, by decide, rfl⟩
  by_cases isQuote : char = '"'
  · subst isQuote
    exact .inr ⟨"quot".toList, rfl, by decide, rfl⟩
  by_cases isApostrophe : char = '\''
  · subst isApostrophe
    exact .inr ⟨"#39".toList, rfl, by decide, rfl⟩
  have plain : escapeChar char = [char] := by
    simp [escapeChar, isAmp, isLess, isGreater, isQuote, isApostrophe]
  exact .inl ⟨plain, isAmp, isLess, isGreater, isQuote, isApostrophe⟩

theorem ne_of_isNameChar {char : Char} (inName : isNameChar char = true) (other : Char)
    (outside : isNameChar other = false) : char ≠ other := by
  rintro rfl
  simp [inName] at outside

namespace Reader

variable {frames : List Frame} {siblings : List Tree}

theorem run_append (reader : Reader) (first second : List Char) :
    reader.run (first ++ second) = (reader.run first).bind fun reader => reader.run second := by
  simp [run, List.foldlM_append]

theorem run_cons (reader : Reader) (char : Char) (rest : List Char) :
    reader.run (char :: rest) = (reader.step char).bind fun reader => reader.run rest := by
  simp [run]

@[simp] theorem run_nil (reader : Reader) : reader.run [] = some reader := rfl

theorem run_append_of_some {reader between : Reader} {first : List Char}
    (reached : reader.run first = some between) (second : List Char) :
    reader.run (first ++ second) = between.run second := by
  rw [run_append, reached, Option.bind_some]

theorem run_cons_of_some {reader between : Reader} {char : Char}
    (reached : reader.step char = some between) (rest : List Char) :
    reader.run (char :: rest) = between.run rest := by
  rw [run_cons, reached, Option.bind_some]

/-- A reader that takes in the pieces of single characters one by one takes in all of
them. -/
theorem run_pieces (place : List Char → Place) {piece : Char → List Char}
    {fits : Char → Prop} {chars : List Char}
    (takes : ∀ before char, fits char →
      run ⟨frames, siblings, place before⟩ (piece char) =
        some ⟨frames, siblings, place (before ++ [char])⟩)
    (fit : ∀ char ∈ chars, fits char) (before : List Char) :
    run ⟨frames, siblings, place before⟩ (chars.flatMap piece) =
      some ⟨frames, siblings, place (before ++ chars)⟩ := by
  induction chars generalizing before with
  | nil => simp
  | cons char rest induction =>
      rw [List.forall_mem_cons] at fit
      rw [List.flatMap_cons, run_append_of_some (takes before char fit.1), induction fit.2]
      simp

theorem run_chars (place : List Char → Place) {fits : Char → Prop} {chars : List Char}
    (takes : ∀ before char, fits char →
      step ⟨frames, siblings, place before⟩ char =
        some ⟨frames, siblings, place (before ++ [char])⟩)
    (fit : ∀ char ∈ chars, fits char) (before : List Char) :
    run ⟨frames, siblings, place before⟩ chars =
      some ⟨frames, siblings, place (before ++ chars)⟩ := by
  have single (before : List Char) (char : Char) (fit : fits char) :
      run ⟨frames, siblings, place before⟩ [char] =
        some ⟨frames, siblings, place (before ++ [char])⟩ := by
    rw [run_cons_of_some (takes before char fit), run_nil]
  have pieces := run_pieces place single fit before
  rwa [List.flatMap_singleton'] at pieces

/-! ### Texts and values -/

theorem run_writeText (pending : List Char) (content : String) :
    run ⟨frames, siblings, .content pending⟩ (writeText content) =
      some ⟨frames, siblings, .content (pending ++ content.toList)⟩ := by
  refine run_pieces .content (fun before char (_ : True) => ?_) (fun _ _ => trivial) pending
  rcases escapeChar_spec char with ⟨plain, notAmp, notLess, notGreater, notQuote,
    notApostrophe⟩ | ⟨name, written, inside, meant⟩
  · rw [plain]
    simp [run, step, notAmp, notLess, notGreater, notQuote, notApostrophe]
  · have begun : step ⟨frames, siblings, .content before⟩ '&' =
        some ⟨frames, siblings, .entity before []⟩ := rfl
    have named : run ⟨frames, siblings, .entity before []⟩ name =
        some ⟨frames, siblings, .entity before name⟩ :=
      run_chars (.entity before) (fun before char (other : char ≠ ';') => by simp [step, other])
        (fun char member same => inside (same ▸ member)) []
    rw [written, run_cons_of_some begun, run_append_of_some named]
    simp [run, step, meant]

theorem run_value_writeText (start : Start) (name : String) (pending : List Char)
    (content : String) :
    run ⟨frames, siblings, .value start name pending⟩ (writeText content) =
      some ⟨frames, siblings, .value start name (pending ++ content.toList)⟩ := by
  refine run_pieces (.value start name) (fun before char (_ : True) => ?_)
    (fun _ _ => trivial) pending
  rcases escapeChar_spec char with ⟨plain, notAmp, notLess, notGreater, notQuote,
    notApostrophe⟩ | ⟨entity, written, inside, meant⟩
  · rw [plain]
    simp [run, step, notAmp, notLess, notGreater, notQuote, notApostrophe]
  · have begun : step ⟨frames, siblings, .value start name before⟩ '&' =
        some ⟨frames, siblings, .valueEntity start name before []⟩ := rfl
    have named : run ⟨frames, siblings, .valueEntity start name before []⟩ entity =
        some ⟨frames, siblings, .valueEntity start name before entity⟩ :=
      run_chars (.valueEntity start name before)
        (fun before char (other : char ≠ ';') => by simp [step, other])
        (fun char member same => inside (same ▸ member)) []
    rw [written, run_cons_of_some begun, run_append_of_some named]
    simp [run, step, meant]

/-! ### Tags -/

theorem run_naming {name : List Char} (named : ∀ char ∈ name, isNameChar char = true)
    (before : List Char) :
    run ⟨frames, siblings, .naming before⟩ name =
      some ⟨frames, siblings, .naming (before ++ name)⟩ := by
  refine run_chars .naming (fun before char inName => ?_) named before
  simp [step, inName, ne_of_isNameChar inName '>' (by decide),
    ne_of_isNameChar inName ' ' (by decide)]

theorem run_closing {name : List Char} (named : ∀ char ∈ name, isNameChar char = true)
    (before : List Char) :
    run ⟨frames, siblings, .closing before⟩ name =
      some ⟨frames, siblings, .closing (before ++ name)⟩ := by
  refine run_chars .closing (fun before char inName => ?_) named before
  simp [step, inName, ne_of_isNameChar inName '>' (by decide)]

theorem run_attributeName {start : Start} {name : List Char}
    (named : ∀ char ∈ name, isNameChar char = true) (before : List Char) :
    run ⟨frames, siblings, .attributeName start before⟩ name =
      some ⟨frames, siblings, .attributeName start (before ++ name)⟩ := by
  refine run_chars (.attributeName start) (fun before char inName => ?_) named before
  simp [step, inName, ne_of_isNameChar inName '=' (by decide)]

/-- A name has a first character, and all of its characters are those of names. -/
theorem exists_cons_of_isName {name : String} (named : isName name = true) :
    ∃ first rest, name.toList = first :: rest ∧ isNameChar first = true ∧
      ∀ char ∈ rest, isNameChar char = true := by
  simp only [isName, Bool.and_eq_true, Bool.not_eq_true', List.all_eq_true] at named
  obtain ⟨given, all⟩ := named
  cases chars : name.toList with
  | nil =>
      rw [String.toList_eq_nil_iff] at chars
      simp [chars] at given
  | cons first rest =>
      rw [chars, List.forall_mem_cons] at all
      exact ⟨first, rest, rfl, all.1, all.2⟩

/-- Behind the tag of a start tag and the attributes that follow it. -/
def behind (tag : String) : List Attribute → Place
  | [] => .naming tag.toList
  | attributes => .valued ⟨tag, attributes⟩

theorem step_behind_blank (tag : String) (attributes : List Attribute) :
    step ⟨frames, siblings, behind tag attributes⟩ ' ' =
      some ⟨frames, siblings, .spaced ⟨tag, attributes⟩⟩ := by
  cases attributes <;> simp [behind, step]

theorem step_behind_end {tag : String} (attributes : List Attribute)
    (notVoid : tag ∉ voidTags) :
    step ⟨frames, siblings, behind tag attributes⟩ '>' =
      some ⟨⟨⟨tag, attributes⟩, siblings⟩ :: frames, [], .content []⟩ := by
  cases attributes <;> simp [behind, step, push, notVoid]

theorem behind_concat (tag : String) (attributes : List Attribute) (entry : Attribute) :
    behind tag (attributes ++ [entry]) = .valued ⟨tag, attributes ++ [entry]⟩ := by
  cases attributes <;> rfl

theorem run_writeAttribute {tag : String} {attributes : List Attribute} {entry : Attribute}
    (named : isName entry.1 = true) (new : entry.1 ∉ attributes.map Prod.fst) :
    run ⟨frames, siblings, behind tag attributes⟩ (writeAttribute entry) =
      some ⟨frames, siblings, behind tag (attributes ++ [entry])⟩ := by
  obtain ⟨name, content⟩ := entry
  obtain ⟨first, rest, chars, inName, allInName⟩ := exists_cons_of_isName named
  simp only at chars new
  have begun : step ⟨frames, siblings, .spaced ⟨tag, attributes⟩⟩ first =
      some ⟨frames, siblings, .attributeName ⟨tag, attributes⟩ [first]⟩ := by
    simp [step, inName, ne_of_isNameChar inName '/' (by decide)]
  have whole : String.ofList (first :: rest) = name := by rw [← chars, String.ofList_toList]
  have assigned : step ⟨frames, siblings, .attributeName ⟨tag, attributes⟩ (first :: rest)⟩ '=' =
      some ⟨frames, siblings, .assigned ⟨tag, attributes⟩ name⟩ := by
    simp only [step, whole, if_true, new, if_false]
  have opened : step ⟨frames, siblings, .assigned ⟨tag, attributes⟩ name⟩ '"' =
      some ⟨frames, siblings, .value ⟨tag, attributes⟩ name []⟩ := rfl
  rw [writeAttribute, run_cons_of_some (step_behind_blank tag attributes), chars,
    List.cons_append, run_cons_of_some begun,
    run_append_of_some (run_attributeName allInName [first]), List.singleton_append,
    run_cons_of_some assigned, run_cons_of_some opened,
    run_append_of_some (run_value_writeText _ name [] content), behind_concat]
  simp [run, step]

theorem run_writeAttributes {tag : String} (done : List Attribute) {attributes : List Attribute}
    (named : ∀ entry ∈ attributes, isName entry.1 = true)
    (distinct : ((done ++ attributes).map Prod.fst).Nodup) :
    run ⟨frames, siblings, behind tag done⟩ (attributes.flatMap writeAttribute) =
      some ⟨frames, siblings, behind tag (done ++ attributes)⟩ := by
  induction attributes generalizing done with
  | nil => simp
  | cons entry rest induction =>
      rw [List.forall_mem_cons] at named
      have new : entry.1 ∉ done.map Prod.fst := by
        rw [List.map_append, List.nodup_append] at distinct
        exact fun member => distinct.2.2 _ member _ (by simp) rfl
      rw [List.flatMap_cons, run_append_of_some (run_writeAttribute named.1 new),
        induction _ named.2 (by simpa using distinct)]
      simp

theorem run_startTag {tag : String} {attributes : List Attribute} (tagNamed : isName tag = true)
    (named : ∀ entry ∈ attributes, isName entry.1 = true)
    (distinct : (attributes.map Prod.fst).Nodup) :
    run ⟨frames, siblings, .bracket⟩ (tag.toList ++ attributes.flatMap writeAttribute) =
      some ⟨frames, siblings, behind tag attributes⟩ := by
  obtain ⟨first, rest, chars, inName, allInName⟩ := exists_cons_of_isName tagNamed
  have begun : step ⟨frames, siblings, .bracket⟩ first =
      some ⟨frames, siblings, .naming [first]⟩ := by
    simp [step, inName, ne_of_isNameChar inName '/' (by decide)]
  have started : run ⟨frames, siblings, .bracket⟩ tag.toList =
      some ⟨frames, siblings, behind tag []⟩ := by
    rw [chars, run_cons_of_some begun, run_naming allInName [first], behind, chars]
    rfl
  rw [run_append_of_some started]
  exact run_writeAttributes [] named distinct

/-! ### Forests -/

@[simp] theorem flush_nil (siblings : List Tree) : flush siblings [] = siblings := rfl

theorem flush_toList {content : String} (siblings : List Tree) (given : content ≠ "") :
    flush siblings content.toList = siblings ++ [.text content] := by
  simp [flush, given]

theorem step_bracket (pending : List Char) :
    step ⟨frames, siblings, .content pending⟩ '<' =
      some ⟨frames, flush siblings pending, .bracket⟩ := rfl

theorem run_endTag (start : Start) {before : List Tree} (named : isName start.tag = true)
    (pending : List Char) :
    run ⟨⟨start, before⟩ :: frames, siblings, .content pending⟩
        ('<' :: '/' :: (start.tag.toList ++ ['>'])) =
      some ⟨frames, before ++ [.element start.tag start.attributes (flush siblings pending)],
        .content []⟩ := by
  have slash : step ⟨⟨start, before⟩ :: frames, flush siblings pending, .bracket⟩ '/' =
      some ⟨⟨start, before⟩ :: frames, flush siblings pending, .closing []⟩ := rfl
  have inName : ∀ char ∈ start.tag.toList, isNameChar char = true := by
    obtain ⟨first, rest, chars, inName, allInName⟩ := exists_cons_of_isName named
    rw [chars, List.forall_mem_cons]
    exact ⟨inName, allInName⟩
  rw [run_cons_of_some (step_bracket pending), run_cons_of_some slash,
    run_append_of_some (run_closing inName [])]
  simp [run, step, pop]

theorem run_element {tag : String} {attributes : List Attribute} {inside : List Char}
    {inner : List Tree} {left : List Char} (tagNamed : isName tag = true)
    (notVoid : tag ∉ voidTags) (named : ∀ entry ∈ attributes, isName entry.1 = true)
    (distinct : (attributes.map Prod.fst).Nodup)
    (reached : run ⟨⟨⟨tag, attributes⟩, siblings⟩ :: frames, [], .content []⟩ inside =
      some ⟨⟨⟨tag, attributes⟩, siblings⟩ :: frames, inner, .content left⟩) :
    run ⟨frames, siblings, .bracket⟩
        (tag.toList ++ (attributes.flatMap writeAttribute ++ ('>' :: (inside ++
          ('<' :: '/' :: (tag.toList ++ ['>'])))))) =
      some ⟨frames, siblings ++ [.element tag attributes (flush inner left)], .content []⟩ := by
  rw [← List.append_assoc, run_append_of_some (run_startTag tagNamed named distinct),
    run_cons_of_some (step_behind_end attributes notVoid), run_append_of_some reached,
    run_endTag ⟨tag, attributes⟩ tagNamed]

theorem run_voidTag {tag : String} {attributes : List Attribute} (tagNamed : isName tag = true)
    (isVoid : tag ∈ voidTags) (named : ∀ entry ∈ attributes, isName entry.1 = true)
    (distinct : (attributes.map Prod.fst).Nodup) :
    run ⟨frames, siblings, .bracket⟩
        (tag.toList ++ (attributes.flatMap writeAttribute ++ [' ', '/', '>'])) =
      some ⟨frames, siblings ++ [.void tag attributes], .content []⟩ := by
  rw [← List.append_assoc, run_append_of_some (run_startTag tagNamed named distinct),
    run_cons_of_some (step_behind_blank tag attributes)]
  simp [run, step, isVoid]

/-- A proper forest is read where it stands: its trees come behind the siblings that were
there.  A text may still be pending, unless the forest begins with another one. -/
theorem run_writeAll {forest : List Tree} (proper : Proper forest) :
    ∀ (frames : List Frame) (siblings : List Tree) (pending : List Char),
      (pending ≠ [] → ∀ content, forest.head? ≠ some (.text content)) →
      ∃ after left, run ⟨frames, siblings, .content pending⟩ (writeAll forest) =
          some ⟨frames, after, .content left⟩ ∧
        flush after left = flush siblings pending ++ forest := by
  induction proper with
  | nil =>
      intro frames siblings pending _
      exact ⟨siblings, pending, by simp [writeAll], by simp⟩
  | @text content rest given apart _ others =>
      intro frames siblings pending notText
      -- Two texts side by side would be read as one.
      obtain rfl : pending = [] := by
        apply Classical.byContradiction
        intro left
        exact notText left content rfl
      obtain ⟨after, left, reached, flushed⟩ := others frames siblings content.toList
        (fun _ => apart)
      refine ⟨after, left, ?_, ?_⟩
      · rw [writeAll, Tree.write, run_append_of_some (run_writeText [] content)]
        exact reached
      · rw [flushed, flush_toList siblings given]
        simp
  | @element tag attributes children rest named notVoid attributesNamed distinct _ _ below
      others =>
      intro frames siblings pending _
      obtain ⟨inner, innerLeft, insideReached, insideFlushed⟩ := below
        (⟨⟨tag, attributes⟩, flush siblings pending⟩ :: frames) [] []
        (fun given => absurd rfl given)
      obtain ⟨after, left, reached, flushed⟩ := others frames
        (flush siblings pending ++ [.element tag attributes children]) []
        (fun given => absurd rfl given)
      refine ⟨after, left, ?_, ?_⟩
      · rw [writeAll, Tree.write, List.cons_append, run_cons_of_some (step_bracket pending),
          run_append_of_some (run_element named notVoid attributesNamed distinct insideReached)]
        rw [insideFlushed]
        exact reached
      · rw [flushed]
        simp
  | @void tag attributes rest named isVoid attributesNamed distinct _ others =>
      intro frames siblings pending _
      obtain ⟨after, left, reached, flushed⟩ := others frames
        (flush siblings pending ++ [.void tag attributes]) [] (fun given => absurd rfl given)
      refine ⟨after, left, ?_, ?_⟩
      · rw [writeAll, Tree.write, List.cons_append, run_cons_of_some (step_bracket pending),
          run_append_of_some (run_voidTag named isVoid attributesNamed distinct)]
        exact reached
      · rw [flushed]
        simp

end Reader

/-- A proper forest is what its markup is read back to. -/
theorem read_write {forest : List Tree} (proper : Proper forest) :
    read (write forest) = some forest := by
  obtain ⟨after, left, reached, flushed⟩ := Reader.run_writeAll proper [] [] []
    (fun given => absurd rfl given)
  rw [read, write, String.toList_ofList, Reader.fresh, reached]
  simpa [Reader.finished?] using flushed

end PageComposer.Markup
