/-
Encoded words: text beyond ASCII inside the header of a message.

A word is written `=?charset?method?text?=`.  The method is base64 or a form in which most ASCII
letters stand for themselves, whichever is shorter (`encode`); `decode?` reads both.
-/
import Enrollment.Text.Base64
import Enrollment.Text.Percent

namespace Enrollment.Mail.EncodedWord

open Enrollment.Text

/-- The characters that stand for themselves in the quoting method. -/
def isPlain (c : Char) : Bool := c.isAlphanum || c ∈ ['-', '!', '*', '+', '/']

/-- One byte in the quoting method. -/
def quotedByte (b : UInt8) : List Char :=
  if b = 32 then ['_']
  else if isPlain (Char.ofNat b.toNat) then [Char.ofNat b.toNat]
  else ['=', hexDigit (b.toNat / 16), hexDigit (b.toNat % 16)]

/-- A text as an encoded word. -/
def encode (s : String) : String :=
  let bytes := utf8Bytes s
  let plain := bytes.flatMap quotedByte
  String.ofList <|
    if Base64.encodedLength bytes.length < plain.length then
      "=?utf-8?b?".toList ++ Base64.encode bytes ++ ['?', '=']
    else "=?utf-8?q?".toList ++ plain ++ ['?', '=']

/-! ### Reading -/

/-- The value of a hexadecimal digit. -/
def hexValue? (c : Char) : Option Nat :=
  if c.isDigit then some (c.toNat - 48)
  else if 'a' ≤ c ∧ c ≤ 'f' then some (c.toNat - 87)
  else if 'A' ≤ c ∧ c ≤ 'F' then some (c.toNat - 55)
  else none

/-- The bytes of a text in the quoting method. -/
def unquote : List Char → List UInt8
  | '=' :: a :: b :: rest =>
    match hexValue? a, hexValue? b with
    | some x, some y => UInt8.ofNat (16 * x + y) :: unquote rest
    | _, _ => 61 :: unquote (a :: b :: rest)
  | '_' :: rest => 32 :: unquote rest
  | c :: rest => String.utf8EncodeChar c ++ unquote rest
  | [] => []
termination_by cs => cs.length

/-- The text of bytes in a character set; a set that is not known is read as ASCII. -/
def textOf? (charset : String) (bytes : List UInt8) : Option String :=
  let charset := String.ofList (charset.toList.map Char.toLower)
  if charset ∈ ["utf-8", "utf8"] then String.fromUTF8? ⟨bytes.toArray⟩
  else if charset ∈ ["iso-8859-1", "latin-1", "latin1"] ∨ bytes.all (· < 128) then
    some (String.ofList (bytes.map fun b => Char.ofNat b.toNat))
  else none

/-- The text that the inside of an encoded word stands for. -/
def decode? (charset method text : List Char) : Option String :=
  let charset := String.ofList (charset.takeWhile (· ≠ '*'))
  match method with
  | ['b'] => (Base64.decode? text).bind (textOf? charset)
  | ['B'] => (Base64.decode? text).bind (textOf? charset)
  | ['q'] => textOf? charset (unquote text)
  | ['Q'] => textOf? charset (unquote text)
  | _ => none

end Enrollment.Mail.EncodedWord
