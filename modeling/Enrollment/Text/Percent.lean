/-
Percent-encoding of a text as one component of a URL.

The text is taken as UTF-8.  ASCII letters, digits and `_`, `.`, `-`, `~` stand for themselves;
every other byte is written `%` and two capital hexadecimal digits.
-/
namespace Enrollment.Text

/-- One hexadecimal digit, capital. -/
def hexDigit (n : Nat) : Char := if n < 10 then Char.ofNat (48 + n) else Char.ofNat (55 + n)

/-- The bytes of a text in UTF-8. -/
def utf8Bytes (s : String) : List UInt8 := s.toList.flatMap String.utf8EncodeChar

/-- The characters that stand for themselves in a component of a URL. -/
def isUnreserved (c : Char) : Bool :=
  c.isAlphanum || c = '_' || c = '.' || c = '-' || c = '~'

/-- One byte of a component. -/
def percentByte (b : UInt8) : List Char :=
  if isUnreserved (Char.ofNat b.toNat) then [Char.ofNat b.toNat]
  else ['%', hexDigit (b.toNat / 16), hexDigit (b.toNat % 16)]

/-- A text as a component of a URL. -/
def percentEncode (s : String) : String := String.ofList ((utf8Bytes s).flatMap percentByte)

end Enrollment.Text
