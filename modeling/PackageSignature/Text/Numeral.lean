/-! Reading unsigned numerals of a given base under an upper bound, and writing
hexadecimal numerals of a least width. -/

namespace PackageSignature.Text

inductive NumeralError where
  | empty
  | invalidDigit
  | tooLarge
deriving DecidableEq, Repr

namespace NumeralError

def message : NumeralError → String
  | empty => "cannot parse integer from empty string"
  | invalidDigit => "invalid digit found in string"
  | tooLarge => "number too large to fit in target type"

end NumeralError

namespace Numeral

def digit? (c : Char) : Option Nat :=
  let n := c.toNat
  if 48 ≤ n ∧ n ≤ 57 then some (n - 48)
  else if 65 ≤ n ∧ n ≤ 70 then some (n - 55)
  else if 97 ≤ n ∧ n ≤ 102 then some (n - 87)
  else none

def digitOf? (base : Nat) (c : Char) : Option Nat :=
  (digit? c).filter (· < base)

/-- Reads the remaining digits from the left. A character that is no digit is
reported even where the digits before it are about to exceed the bound, and the
bound is reported as soon as a digit exceeds it. -/
def readDigits (base bound : Nat) : Nat → List Char → Except NumeralError Nat
  | value, [] => .ok value
  | value, c :: rest =>
      match digitOf? base c with
      | none => .error .invalidDigit
      | some digit =>
          if bound < value * base + digit then
            .error .tooLarge
          else
            readDigits base bound (value * base + digit) rest

/-- Reads a numeral up to the bound. One plus sign may stand in front; a sign alone
is no number, and a minus sign is no digit. -/
def read (base bound : Nat) : List Char → Except NumeralError Nat
  | [] => .error .empty
  | ['+'] => .error .invalidDigit
  | '+' :: rest => readDigits base bound 0 rest
  | text => readDigits base bound 0 text

def hex (width n : Nat) : String :=
  let digits := Nat.toDigits 16 n
  String.ofList (List.replicate (width - digits.length) '0' ++ digits)

def markedHex (width n : Nat) : String :=
  "0x" ++ hex width n

end Numeral

end PackageSignature.Text
