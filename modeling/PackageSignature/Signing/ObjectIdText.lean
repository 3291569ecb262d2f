import PackageSignature.Der.ObjectId
import PackageSignature.Text.Numeral
import PackageSignature.Text.Split
/-! Reading an object identifier from its path in decimal. An identifier that is read may
be shorter than one that a certificate can hold, and a number whose front group is just
128 comes out as another number; all other paths are encoded as they are. -/

namespace PackageSignature.Signing.ObjectIdText

/-- How many bytes are reserved for a number of a path. A number has more than 28 bits
from `0x10000000` on, but a fifth byte is only reserved from twice that on. -/
def arcWidth (n : Nat) : Nat :=
  if n < 0x80 then 1
  else if n < 0x4000 then 2
  else if n < 0x200000 then 3
  else if n < 0x20000000 then 4
  else 5

/-- Fills the reserved bytes in front of those already written, one group of seven bits
after another, from the back. A rest of at most 128 is the front group: it takes the
first byte, and the bytes that it leaves in between are zero. There is no encoding if
the bytes are used up before that. -/
def fillArc? : Nat → Nat → Bytes → Option Bytes
  | 0, _, _ => none
  | room + 1, n, behind =>
      let mark := if behind.isEmpty then 0 else 0x80
      if n ≤ 0x80 then
        some (UInt8.ofNat (n ||| mark) :: (Bytes.zeros room ++ behind))
      else
        fillArc? room (n / 128) (UInt8.ofNat (n % 128 + mark) :: behind)

def encodeArc? (n : Nat) : Option Bytes :=
  fillArc? (arcWidth n) n []

/-- A number of a path, of which the lowest 32 bits count. It has no sign. Between two
points there may be no digits, which say zero. -/
def arc? (digits : List Char) : Option Nat := do
  let values ← digits.mapM (Text.Numeral.digitOf? 10)
  return values.foldl (fun value digit => (value * 10 + digit) % 0x100000000) 0

def maxLength : Nat := 38

def ofArcs? : List Nat → Option Der.ObjectId
  | first :: second :: third :: others => do
      if 2 < first ∨ 39 < second then
        none
      else
        let encoded ← (third :: others).mapM encodeArc?
        let content := UInt8.ofNat (40 * first + second) :: encoded.flatten
        if content.length ≤ maxLength then some { content } else none
  | _ => none

def read? (text : List Char) : Option Der.ObjectId :=
  if text.head? = some '.' ∨ text.getLast? = some '.' then
    none
  else
    ((Text.split '.' text).mapM arc?).bind ofArcs?

end PackageSignature.Signing.ObjectIdText
