import PageComposer.Display
import PageComposer.Value.Equality

/-!
# Values under values

A collection of values under keys that are values themselves.  Keys that are loosely the
same are one key: one, true and a double of that value.  `Keyed.get?_insert` says that a
write is seen under its key, however the key is spelled.
-/

namespace PageComposer

/-- Keys with their values, in the order in which the keys came in. -/
abbrev Keyed := List (Value × Value)

namespace Keyed

/-- The value under a key. -/
def get? (entries : Keyed) (key : Value) : Option Value :=
  (entries.find? fun entry => entry.1.looselySame key).map Prod.snd

/-- Write under a key: in its place, and in its first spelling, if the key is there, else
at the end. -/
def insert (key value : Value) : Keyed → Keyed
  | [] => [(key, value)]
  | (other, old) :: rest =>
      if other.looselySame key then (other, value) :: rest
      else (other, old) :: insert key value rest

/-- A written value is found under its key. -/
theorem get?_insert (entries : Keyed) (key value : Value) (same : key.looselySame key) :
    get? (insert key value entries) key = some value := by
  induction entries with
  | nil => simp [insert, get?, same]
  | cons entry rest induction =>
      obtain ⟨other, old⟩ := entry
      by_cases found : other.looselySame key
      · simp [insert, get?, found]
      · simpa [insert, get?, found] using induction

/-- The entries by the texts of their keys; of keys with one text the last counts. -/
def byText (entries : Keyed) : Fields :=
  entries.foldl (fun fields entry => Fields.insert fields entry.1.display entry.2) []

end Keyed

end PageComposer
