/-
Passwords: hashed, verified, and drawn at random for accounts whose password nobody is to know.

The derivation of a tag from a password is a parameter.  Nothing here depends on how it computes,
only on its giving the same tag for the same input.
-/
import Enrollment.Account.Failure
import Enrollment.Credential.Derivation

namespace Enrollment.Credential

open Enrollment.Text

/-- A new hash of a password. -/
def hash (derive : Derivation) (salt : List UInt8) (password : String) : String :=
  Hash.text ⟨.current, salt, derive .current tagLength salt (utf8Bytes password)⟩

/-- The part of a text that stands before its first NUL. -/
def beforeNul (s : String) : String := String.ofList (s.toList.takeWhile (· ≠ '\x00'))

/-- Whether a password is the one that was hashed.  The hash is looked for before the first NUL of
the text.  A text that has none there fits no password; one that is not even ASCII is a failure. -/
def verify (derive : Derivation) (password text : String) : Except Failure Bool :=
  match notAscii? text with
  | some run => .error (.notAscii run)
  | none =>
    match Hash.read? (beforeNul text) with
    | none => .ok false
    | some h => .ok (derive h.cost h.tag.length h.salt (utf8Bytes password) = h.tag)

/-- Whether a hash was made by other parameters than those of a new one. -/
def needsRehash (text : String) : Except Failure Bool :=
  match Profile.read? text with
  | none => .error .notAHash
  | some p => .ok (p ≠ .current)

/-! ### Random passwords -/

/-- The characters of random passwords. -/
def alphabet : List Char :=
  "abcdefghijklmnopqrstuvwxyzABCDEFGHIJKLMNOPQRSTUVWXYZ0123456789!@#$%^&*()-_=+".toList

/-- The character for a drawn number. -/
def letter (n : Nat) : Char := alphabet.get ⟨n % alphabet.length, Nat.mod_lt _ (by decide)⟩

/-- The length of a random password when none is asked for. -/
def usualLength : Int := 25

/-- A random password of a given length, one drawn number for each character. -/
def random (draw : Nat → Nat) (length : Int) : Except Failure String :=
  if length < 1 then .error .passwordLengthNotPositive
  else .ok (String.ofList ((List.range length.toNat).map fun i => letter (draw i)))

/-- A password that was drawn is as long as it was asked for, with characters of the alphabet. -/
theorem random_eq_ok {draw : Nat → Nat} {length : Int} {p : String}
    (h : random draw length = .ok p) :
    1 ≤ length ∧ p.length = length.toNat ∧ ∀ c ∈ p.toList, c ∈ alphabet := by
  rw [random] at h
  split at h
  · cases h
  · rename_i hlength
    cases h
    refine ⟨Int.not_lt.mp hlength, by simp, fun c hc => ?_⟩
    obtain ⟨i, -, rfl⟩ := List.mem_map.mp (String.toList_ofList ▸ hc)
    exact List.get_mem _ _

end Enrollment.Credential
