import PageComposer.Request
import PageComposer.Sha1

/-!
# Buckets

A visitor is put into one of several labelled buckets by a number drawn from the
digest of the visitor's identity and a salt.  The same identity, salt and labels
give the same bucket every time; nothing is stored.  The digest is one of bytes, so
an identity or a salt with a surrogate on its own in it gives none.
-/

namespace PageComposer.Bucket

/-- The labels used when none are given. -/
def defaultLabels : List Value := [.str "A", .str "B"]

def defaultSalt : Value := .str "cms-ab"

/-- The number drawn for a text: the leading word of its digest.  A surrogate on its own has
no bytes to digest. -/
def drawn (standIns : Option Text.StandIns) (text : String) : Outcome Nat :=
  match Text.encoded standIns text with
  | .ok text => .ok (Sha1.leadingWord text)
  | .error run => .error (.misuse (.unsendable run))

/-- A number in a range whose end the modulus gives; it has the modulus's sign. -/
def remainder (word : Nat) (modulus : Int) : Outcome Int :=
  if modulus = 0 then .error (.misuse .zeroDivisor) else .ok (Int.fmod word modulus)

/-- A number drawn for a text, reduced to a range. -/
def reduce (standIns : Option Text.StandIns) (text : String) (modulus : Int) :
    Outcome Int := do
  remainder (← drawn standIns text) modulus

/-- A whole number reduced by a double that is not zero; the remainder has the double's
sign, as a zero too. -/
def doubleRemainder (whole : Nat) (modulus : Binary64) : Binary64 :=
  if modulus.isNaN then .nan
  else if modulus.isInfinite then
    if whole = 0 then .zero modulus.negative
    else if modulus.negative then .infinity true
    else .nearest false whole 1
  else
    let units := whole * Binary64.one % modulus.magnitude
    if units = 0 then .zero modulus.negative
    else if modulus.negative then .nearest true (modulus.magnitude - units) Binary64.one
    else .nearest false units Binary64.one

/-- A number drawn for a text, reduced by a number of any kind. -/
def reduceBy (standIns : Option Text.StandIns) (text : String) (modulus : Value) :
    Outcome Value := do
  let word ← drawn standIns text
  match modulus with
  | .bool flag => return .int (← remainder word (if flag then 1 else 0))
  | .int modulus => return .int (← remainder word modulus)
  | .float modulus =>
      if modulus.isZero then .error (.misuse .zeroDivisor)
      else return .float (doubleRemainder word modulus)
  | _ => .error .wrongKind

/-- The text that stands for a visitor: the user id, if ids are looked at, else the
header `x-user-id`, else the cookie `abid`, else a name shared by all strangers. -/
def identity (context : Context) (source : Value) : Outcome String := do
  let userId ←
    if source ≠ .str "user-id" then .ok .null
    else if context.userId.truthy then .ok context.userId
    else context.request.map Request.userId
  if userId.truthy then return userId.display
  let request ← context.request
  let header := request.header "x-user-id" .null
  if header.truthy then return header.display
  let cookie ← request.cookies.lookup "abid"
  return if cookie.truthy then cookie.display else "anon"

/-- The given labels, or the default ones in place of none. -/
def labels (given : Value) : Outcome (List Value) := do
  let members ← given.members
  return if members.isEmpty then defaultLabels else members

/-- The label of a bucket for an identity. -/
def choose (standIns : Option Text.StandIns) (identity : String) (salt : Value)
    (labels : List Value) : Outcome Value := do
  let index ← reduce standIns (identity ++ ":" ++ salt.display) labels.length
  return labels.getD index.toNat .null

/-- The bucket of an identity among the given labels. -/
def assign (standIns : Option Text.StandIns) (identity : String) (salt given : Value) :
    Outcome Value := do
  choose standIns identity salt (← labels given)

end PageComposer.Bucket
