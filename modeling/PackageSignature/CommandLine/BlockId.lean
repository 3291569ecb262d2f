import PackageSignature.Text.Blank
import PackageSignature.Text.Numeral
/-! The id of a signer block as it is written on a command line: in decimal, or in
hexadecimal behind a mark, where underscores may separate digits. -/

namespace PackageSignature.CommandLine

structure BlockIdError where
  text : String
  error : Text.NumeralError
deriving DecidableEq, Repr

namespace BlockIdError

def message (error : BlockIdError) : String :=
  s!"invalid block id '{error.text}': {error.error.message}"

end BlockIdError

namespace BlockId

def largest : Nat := 4294967295

def readNumber : List Char → Except Text.NumeralError Nat
  | '0' :: 'x' :: digits => Text.Numeral.read 16 largest (digits.filter (· != '_'))
  | '0' :: 'X' :: digits => Text.Numeral.read 16 largest (digits.filter (· != '_'))
  | digits => Text.Numeral.read 10 largest digits

def ofText (text : String) : Except BlockIdError UInt32 :=
  let trimmed := Text.trimBlanks text.toList
  match readNumber trimmed with
  | .ok n => .ok (UInt32.ofNat n)
  | .error error => .error { text := String.ofList trimmed, error }

end BlockId

end PackageSignature.CommandLine
