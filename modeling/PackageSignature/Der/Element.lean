import PackageSignature.Bytes
/-! Elements of DER: a tag of one byte, a length in the fewest bytes, and a content of
that length. Reading consumes elements from the front of a byte string; a structure
counts only if its content is used up. -/

namespace PackageSignature.Der

structure Element where
  tag : UInt8
  content : Bytes
deriving DecidableEq, Repr

namespace Tag

def boolean : UInt8 := 0x01
def integer : UInt8 := 0x02
def bitString : UInt8 := 0x03
def octetString : UInt8 := 0x04
def null : UInt8 := 0x05
def objectId : UInt8 := 0x06
def utf8String : UInt8 := 0x0c
def printableString : UInt8 := 0x13
def teletexString : UInt8 := 0x14
def ia5String : UInt8 := 0x16
def utcTime : UInt8 := 0x17
def generalizedTime : UInt8 := 0x18
def sequence : UInt8 := 0x30
def set : UInt8 := 0x31

def explicit (number : UInt8) : UInt8 := 0xa0 + number
def implicit (number : UInt8) : UInt8 := 0x80 + number

def isContextual (tag : UInt8) : Bool := tag &&& 0xc0 == 0x80

def number (tag : UInt8) : UInt8 := tag &&& 0x1f

def universal : List UInt8 :=
  [0x01, 0x02, 0x03, 0x04, 0x05, 0x06, 0x09, 0x0a, 0x0c, 0x12, 0x13, 0x14, 0x15, 0x16, 0x17,
    0x18, 0x1a, 0x1e, 0x30, 0x31]

/-- Whether a byte is a tag: a known universal one, or one of another class whose
number fits in the byte. -/
def isValid (tag : UInt8) : Bool :=
  if tag < 0x40 then universal.contains tag else number tag != 0x1f

end Tag

abbrev Reader := StateT Bytes Option

namespace Reader

def byte : Reader UInt8 := fun input =>
  match input with
  | [] => none
  | first :: rest => some (first, rest)

def take (count : Nat) : Reader Bytes := fun input =>
  if count ≤ input.length then some (input.take count, input.drop count) else none

def atEnd : Reader Bool := fun input => some (input.isEmpty, input)

def maxLength : Nat := 0x0fffffff

/-- A length. One below 128 is its own byte. Any other stands in the fewest bytes,
up to four, behind a byte that tells their number. -/
def length : Reader Nat := do
  let first ← byte
  if first < 0x80 then
    return first.toNat
  let count := first.toNat - 0x80
  guard (1 ≤ count && count ≤ 4)
  let value := Bytes.toNatBE (← take count)
  guard (0x80 ≤ value && Bytes.widthOf value == count && value ≤ maxLength)
  return value

def element : Reader Element := do
  let tag ← byte
  guard (Tag.isValid tag)
  let content ← take (← length)
  return { tag, content }

def content (tag : UInt8) : Reader Bytes := do
  let next ← element
  guard (next.tag == tag)
  return next.content

def peek? : Reader (Option UInt8) := fun input =>
  match input with
  | [] => some (none, [])
  | first :: rest => if Tag.isValid first then some (some first, first :: rest) else none

def complete {α : Type} (reader : Reader α) (input : Bytes) : Option α :=
  match reader.run input with
  | some (value, []) => some value
  | _ => none

/-- The next element, which has to have the given tag and a content that the reader
uses up. -/
def within {α : Type} (tag : UInt8) (reader : Reader α) : Reader α := do
  let inner ← content tag
  complete reader inner

def sequence {α : Type} (reader : Reader α) : Reader α :=
  within Tag.sequence reader

def manyUpTo {α : Type} (reader : Reader α) : Nat → Reader (List α)
  | 0 => do
      guard (← atEnd)
      return []
  | fuel + 1 => do
      if ← atEnd then
        return []
      let value ← reader
      return value :: (← manyUpTo reader fuel)

def many {α : Type} (reader : Reader α) : Reader (List α) := do
  manyUpTo reader (← get).length

/-- The field with the given number among the fields of a context, if it is there.
Fields with smaller numbers in front of it are passed over, at most `fuel` of them. -/
def optionalUpTo {α : Type} (tag : UInt8) (reader : Reader α) : Nat → Reader (Option α)
  | 0 => failure
  | fuel + 1 => do
      let some next ← peek? | return none
      if Tag.isContextual next && Tag.number next ≤ Tag.number tag then
        if Tag.number next == Tag.number tag then
          return some (← within tag reader)
        let _ ← element
        optionalUpTo tag reader fuel
      else
        return none

def optional {α : Type} (tag : UInt8) (reader : Reader α) : Reader (Option α) := do
  optionalUpTo tag reader ((← get).length + 1)

def rest : Reader Bytes := fun input => some (input, [])

end Reader

def encodeLength (length : Nat) : Bytes :=
  if length < 0x80 then
    [UInt8.ofNat length]
  else
    let width := Bytes.widthOf length
    UInt8.ofNat (0x80 + width) :: Bytes.ofNatBE width length

namespace Element

def header (element : Element) : Bytes :=
  element.tag :: encodeLength element.content.length

def toBytes (element : Element) : Bytes :=
  element.header ++ element.content

end Element

def encode (tag : UInt8) (content : Bytes) : Bytes :=
  Element.toBytes { tag, content }

def encodeSequence (parts : List Bytes) : Bytes :=
  encode Tag.sequence parts.flatten

end PackageSignature.Der
