/-
Password hashes in their written form, `$variant$v=version$m=..,t=..,p=..$salt$tag`.

`Hash.read?` accepts exactly the well-formed hashes: numbers without leading zeros, base64 without
filling and without stray bits, and every field within its bounds.  `Profile.read?` is more lenient;
it takes what is needed to say by which parameters a hash was made.
-/
import Enrollment.Text.Base64
import Enrollment.Text.Digit

namespace Enrollment.Credential

open Enrollment.Text

/-- The variants of the hash function. -/
inductive Variant where
  | d
  | i
  | id
deriving DecidableEq

/-- The name of a variant. -/
def Variant.name : Variant → String
  | .d => "argon2d"
  | .i => "argon2i"
  | .id => "argon2id"

/-- All variants. -/
def Variant.all : List Variant := [.d, .i, .id]

/-- The variant of a name. -/
def Variant.ofName? (s : String) : Option Variant := all.find? (·.name = s)

/-- What a hash costs to compute, and by which variant and version it is computed. -/
structure Cost where
  variant : Variant
  version : Nat
  memory : Nat
  time : Nat
  lanes : Nat
deriving DecidableEq

/-- The cost of a new hash. -/
def Cost.current : Cost := ⟨.id, 19, 65536, 3, 4⟩

/-- The length in bytes of the salt of a new hash. -/
def saltLength : Nat := 16

/-- The length in bytes of the tag of a new hash. -/
def tagLength : Nat := 32

/-- The version of a hash that does not name its version. -/
def firstVersion : Nat := 16

/-- A hash: how it was made, the salt, and the tag that a password has to reproduce. -/
structure Hash where
  cost : Cost
  salt : List UInt8
  tag : List UInt8
deriving DecidableEq

/-! ### The written form -/

/-- Bytes in base64 without filling. -/
def bare (bytes : List UInt8) : List Char := (Base64.encode bytes).filter (· ≠ '=')

/-- A hash in its written form. -/
def Hash.text (h : Hash) : String :=
  "$" ++ h.cost.variant.name ++ "$v=" ++ toString h.cost.version ++ "$m=" ++
    toString h.cost.memory ++ ",t=" ++ toString h.cost.time ++ ",p=" ++ toString h.cost.lanes ++
    "$" ++ String.ofList (bare h.salt) ++ "$" ++ String.ofList (bare h.tag)

/-- The bytes written in base64 without filling; every text has at most one reading, and bytes
have one written form. -/
def bytes? (cs : List Char) : Option (List UInt8) := do
  let bytes ← Base64.decode? cs
  if bare bytes = cs then some bytes else none

/-- A number of at most 32 bits, without leading zeros. -/
def number? (cs : List Char) : Option Nat :=
  if cs.isEmpty || !cs.all Char.isDigit || (cs.head? = some '0' && cs.length ≠ 1) then none
  else
    let n := cs.foldl (fun n c => 10 * n + (c.toNat - 48)) 0
    if n < 0x100000000 then some n else none

/-- The number of a field `name=number`. -/
def field? (name : Char) : List Char → Option Nat
  | c :: '=' :: rest => if c = name then number? rest else none
  | _ => none

/-- The hash of its fields, in order. -/
def Hash.ofFields? (name : List Char) (version : Nat) (costs salt tag : List Char) :
    Option Hash := do
  let variant ← Variant.ofName? (String.ofList name)
  match splitAt ',' costs with
  | [m, t, p] =>
    let cost := ⟨variant, version, ← field? 'm' m, ← field? 't' t, ← field? 'p' p⟩
    return ⟨cost, ← bytes? salt, ← bytes? tag⟩
  | _ => none

/-- Whether every field of a hash is within its bounds. -/
def Hash.inBounds (h : Hash) : Bool :=
  8 ≤ h.salt.length && 4 ≤ h.tag.length && 1 ≤ h.cost.time && 1 ≤ h.cost.lanes &&
    h.cost.lanes < 0x1000000 && 8 ≤ h.cost.memory && 8 * h.cost.lanes ≤ h.cost.memory

/-- The hash that a text spells. -/
def Hash.read? (s : String) : Option Hash := do
  let h ← match splitAt '$' s.toList with
    | [[], name, version, costs, salt, tag] => ofFields? name (← field? 'v' version) costs salt tag
    | [[], name, costs, salt, tag] => ofFields? name firstVersion costs salt tag
    | _ => none
  if h.inBounds then some h else none

/-! ### By which parameters a hash was made -/

/-- The parameters of a hash, as far as they count for its renewal. -/
structure Profile where
  variant : Variant
  version : Int
  memory : Int
  time : Int
  lanes : Int
  saltLength : Nat
  tagLength : Nat
deriving DecidableEq

/-- The profile of a new hash. -/
def Profile.current : Profile :=
  let c := Cost.current
  ⟨c.variant, c.version, c.memory, c.time, c.lanes, Credential.saltLength, Credential.tagLength⟩

/-- How many bytes `n` characters of base64 without filling carry. -/
def carriedBytes (n : Nat) : Nat :=
  n / 4 * 3 + (if n % 4 = 3 then 2 else if n % 4 = 2 then 1 else 0)

/-- A parameter `name=value`, whatever its name. -/
def parameter? (cs : List Char) : Option (String × Int) :=
  match splitAt '=' cs with
  | [name, value] => (readInteger? (String.ofList value)).map (String.ofList name, ·)
  | _ => none

/-- The names of the parameters that a profile needs, and there are no others. -/
def parameterNames : List String := ["v", "m", "t", "p"]

/-- The profile that the fields of a hash describe; of two parameters of one name the later
counts. -/
def Profile.ofFields? (name version costs salt tag : List Char) : Option Profile := do
  let variant ← Variant.ofName? (String.ofList name)
  let given ← (version :: splitAt ',' costs).mapM parameter?
  let value (k : String) : Option Int := (given.reverse.find? (·.1 = k)).map (·.2)
  if given.all (·.1 ∈ parameterNames) then
    return ⟨variant, ← value "v", ← value "m", ← value "t", ← value "p",
      carriedBytes salt.length, carriedBytes tag.length⟩
  else none

/-- The profile of the hash that a text spells.  A hash without a version counts as one of another
version than any in use. -/
def Profile.read? (s : String) : Option Profile :=
  match splitAt '$' s.toList with
  | [[], name, version, costs, salt, tag] => ofFields? name version costs salt tag
  | [[], name, costs, salt, tag] => ofFields? name "v=18".toList costs salt tag
  | _ => none

end Enrollment.Credential
