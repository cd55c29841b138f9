/-
What an identity provider asserts about the person who signed in.

`Claims` is what the provider sent, taken from its JSON object: the id is turned into text, the
names fall back to the two halves of the full name, and everything else is kept as it came.  An
`Assertion` is the form the workflows take, in which every field is a text or missing.
-/
import Enrollment.Json.Writer
import Enrollment.Text.Blank

namespace Enrollment

/-- The identity that a provider vouches for; `uid` becomes the login. -/
structure Assertion where
  uid : String
  email : Option String := none
  firstName : Option String := none
  lastName : Option String := none
  locale : Option String := none
  picture : Option String := none
deriving DecidableEq

/-- The claims of a provider, those beside the id in the form in which they came. -/
structure Claims where
  uid : String
  email : Json
  firstName : Json
  lastName : Json
  locale : Json
  picture : Json

/-- The first of two values that is present. -/
def firstPresent (a b : Json) : Json := if a.isPresent then a else b

/-- Whether a value is something other than null. -/
def isNull : Json → Bool
  | .null => true
  | _ => false

/-- A full name cut at its first space. -/
def splitName (name : String) : String × Option String :=
  let (first, last) := Text.cutAt ' ' name.toList
  (String.ofList first, last.bind fun l => if l.isEmpty then none else some (String.ofList l))

/-- The claims in a provider's object. -/
def Claims.ofJson (j : Json) : Claims :=
  let id := firstPresent (firstPresent (j.field "sub") (j.field "id")) (.str "")
  let given := j.field "given_name"
  let family := j.field "family_name"
  let name := j.field "name"
  let (first, last) :=
    if isNull given && isNull family && name.isPresent then
      let (first, last) := splitName name.plain
      (Json.str first, Json.ofText? last)
    else (given, family)
  { uid := id.plain, email := j.field "email", firstName := first, lastName := last,
    locale := j.field "locale", picture := j.field "picture" }

/-- The assertion that the claims amount to; a claim that is no text counts as missing. -/
def Claims.assertion (c : Claims) : Assertion :=
  { uid := c.uid, email := c.email.text?, firstName := c.firstName.text?,
    lastName := c.lastName.text?, locale := c.locale.text?, picture := c.picture.text? }

end Enrollment
