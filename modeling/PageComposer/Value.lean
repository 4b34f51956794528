import PageComposer.Number

/-!
# Data values

`Value` is the data that pages, params and settings are made of.  Objects keep
their keys in order, and integers stay apart from doubles.  `Fields` is the body
of an object: the first entry of a key counts, and writing to a key that is there
already keeps its place.
-/

namespace PageComposer

/-- A value of the data format. -/
inductive Value where
  | null
  | bool (value : Bool)
  | int (value : Int)
  | float (value : Binary64)
  | str (text : String)
  | list (items : List Value)
  | object (fields : List (String × Value))
  deriving Repr, Inhabited

/-- A text is a value. -/
instance : Coe String Value := ⟨Value.str⟩

/-- The entries of an object, in order. -/
abbrev Fields := List (String × Value)

namespace Value

mutual

/-- Values are equal when they are built alike, key order included. -/
def decEq : (left right : Value) → Decidable (left = right)
  | .null, .null => isTrue rfl
  | .bool left, .bool right =>
      if same : left = right then isTrue (by rw [same]) else isFalse (by simpa using same)
  | .int left, .int right =>
      if same : left = right then isTrue (by rw [same]) else isFalse (by simpa using same)
  | .float left, .float right =>
      if same : left = right then isTrue (by rw [same]) else isFalse (by simpa using same)
  | .str left, .str right =>
      if same : left = right then isTrue (by rw [same]) else isFalse (by simpa using same)
  | .list left, .list right =>
      match decEqItems left right with
      | isTrue same => isTrue (by rw [same])
      | isFalse differ => isFalse (by simpa using differ)
  | .object left, .object right =>
      match decEqFields left right with
      | isTrue same => isTrue (by rw [same])
      | isFalse differ => isFalse (by simpa using differ)
  | .null, .bool _ | .null, .int _ | .null, .float _ | .null, .str _ | .null, .list _
  | .null, .object _ | .bool _, .null | .bool _, .int _ | .bool _, .float _
  | .bool _, .str _ | .bool _, .list _ | .bool _, .object _ | .int _, .null
  | .int _, .bool _ | .int _, .float _ | .int _, .str _ | .int _, .list _
  | .int _, .object _ | .float _, .null | .float _, .bool _ | .float _, .int _
  | .float _, .str _ | .float _, .list _ | .float _, .object _ | .str _, .null
  | .str _, .bool _ | .str _, .int _ | .str _, .float _ | .str _, .list _
  | .str _, .object _ | .list _, .null | .list _, .bool _ | .list _, .int _
  | .list _, .float _ | .list _, .str _ | .list _, .object _ | .object _, .null
  | .object _, .bool _ | .object _, .int _ | .object _, .float _ | .object _, .str _
  | .object _, .list _ => isFalse nofun

def decEqItems : (left right : List Value) → Decidable (left = right)
  | [], [] => isTrue rfl
  | [], _ :: _ | _ :: _, [] => isFalse nofun
  | left :: lefts, right :: rights =>
      match left.decEq right, decEqItems lefts rights with
      | isTrue head, isTrue tail => isTrue (by rw [head, tail])
      | isFalse head, _ => isFalse (by simp [head])
      | _, isFalse tail => isFalse (by simp [tail])

def decEqFields : (left right : List (String × Value)) → Decidable (left = right)
  | [], [] => isTrue rfl
  | [], _ :: _ | _ :: _, [] => isFalse nofun
  | (key₁, left) :: lefts, (key₂, right) :: rights =>
      match instDecidableEqString key₁ key₂, left.decEq right, decEqFields lefts rights with
      | isTrue key, isTrue head, isTrue tail => isTrue (by rw [key, head, tail])
      | isFalse key, _, _ => isFalse (by simp [key])
      | _, isFalse head, _ => isFalse (by simp [head])
      | _, _, isFalse tail => isFalse (by simp [tail])

end

instance : DecidableEq Value := Value.decEq

/-- Absent, false, zero and empty values do not count as given. -/
def truthy : Value → Bool
  | .null => false
  | .bool value => value
  | .int value => value != 0
  | .float value => !value.isZero
  | .str text => !text.isEmpty
  | .list items => !items.isEmpty
  | .object fields => !fields.isEmpty

/-- The name of a value's kind, as reports give it. -/
def kind : Value → String
  | .null => "NoneType"
  | .bool _ => "bool"
  | .int _ => "int"
  | .float _ => "float"
  | .str _ => "str"
  | .list _ => "list"
  | .object _ => "dict"

/-- The number that an integer or a double is; truth values are none. -/
def number? : Value → Option Number
  | .int value => some (.int value)
  | .float value => some (.float value)
  | _ => none

/-- Lists and objects cannot name anything: they serve neither as keys nor as ids. -/
def canBeKey : Value → Bool
  | .list _ | .object _ => false
  | _ => true

/-- A given value, or a second choice in place of one that does not count. -/
def orElse (value other : Value) : Value := if value.truthy then value else other

end Value

namespace Fields

/-- The value under a key. -/
def get? (fields : Fields) (key : String) : Option Value :=
  match fields with
  | [] => none
  | (name, value) :: rest => if name = key then some value else get? rest key

/-- The value under a key, null when there is none. -/
def getD (fields : Fields) (key : String) : Value := (get? fields key).getD .null

def has (fields : Fields) (key : String) : Bool := (get? fields key).isSome

/-- Write a value under a key: in its place if the key is there, else at the end. -/
def insert (fields : Fields) (key : String) (value : Value) : Fields :=
  match fields with
  | [] => [(key, value)]
  | (name, old) :: rest =>
      if name = key then (name, value) :: rest else (name, old) :: insert rest key value

/-- The entries of the second object written over the first. -/
def merge (fields others : Fields) : Fields :=
  others.foldl (fun merged entry => insert merged entry.1 entry.2) fields

/-- The entries with every key but one. -/
def erase (fields : Fields) (key : String) : Fields :=
  fields.filter fun entry => entry.1 ≠ key

def keys (fields : Fields) : List String := fields.map Prod.fst

/-- After a write the key has the written value, and every other key what it had. -/
theorem get?_insert (fields : Fields) (key other : String) (value : Value) :
    get? (insert fields key value) other =
      if key = other then some value else get? fields other := by
  induction fields with
  | nil => by_cases same : key = other <;> simp [insert, get?, same]
  | cons entry rest induction =>
      obtain ⟨name, old⟩ := entry
      by_cases found : name = key
      · subst found
        by_cases same : name = other <;> simp [insert, get?, same]
      · by_cases same : name = other
        · subst same
          simp [insert, get?, found, Ne.symm found]
        · simp [insert, get?, found, same, induction]

/-- Without a key, every other key has what it had. -/
theorem get?_erase (fields : Fields) (key other : String) :
    get? (erase fields key) other = if key = other then none else get? fields other := by
  induction fields with
  | nil => simp [erase, get?]
  | cons entry rest induction =>
      obtain ⟨name, old⟩ := entry
      unfold erase at induction ⊢
      by_cases found : name = key
      · subst found
        by_cases same : name = other <;> simp_all [get?]
      · by_cases same : name = other
        · subst same
          simp [get?, found, Ne.symm found]
        · simp_all [get?]

end Fields

end PageComposer
