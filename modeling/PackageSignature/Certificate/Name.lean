import PackageSignature.Der.Value
import PackageSignature.Text.Blank
/-! Names of subjects and issuers: a sequence of sets of attributes, and their text. The
text lists the sets from the last to the first, separated by commas, and the
attributes of a set in a fixed order, separated by plus signs. -/

namespace PackageSignature

structure Attribute where
  kind : Der.ObjectId
  value : Der.Element
deriving DecidableEq, Repr

namespace Attribute

def content (entry : Attribute) : Bytes :=
  entry.kind.toBytes ++ entry.value.toBytes

def toBytes (entry : Attribute) : Bytes :=
  Der.encode Der.Tag.sequence entry.content

def read : Der.Reader Attribute :=
  Der.Reader.sequence do
    let kind ← Der.ObjectId.read
    let value ← Der.Reader.element
    return { kind, value }

/-- The numbers by which the attributes of a set are ordered, compared one by one: the
length of the whole, length and bytes of the kind, then tag, length and bytes of the
value. -/
def sortKey (entry : Attribute) : List Nat :=
  [entry.content.length, entry.kind.content.length] ++
    entry.kind.content.map UInt8.toNat ++
    [entry.value.tag.toNat, entry.value.content.length] ++
    entry.value.content.map UInt8.toNat

def precedes (first second : Attribute) : Bool :=
  first.sortKey < second.sortKey

def insert? (entry : Attribute) : List Attribute → Option (List Attribute)
  | [] => some [entry]
  | first :: rest =>
      if precedes entry first then
        some (entry :: first :: rest)
      else if precedes first entry then
        (insert? entry rest).map (first :: ·)
      else
        none

def sort? (attributes : List Attribute) : Option (List Attribute) :=
  attributes.foldlM (fun sorted entry => insert? entry sorted) []

def directoryNames : List (Nat × String) :=
  [(3, "CN"), (4, "SN"), (5, "SERIALNUMBER"), (6, "C"), (7, "L"), (8, "ST"), (9, "STREET"),
    (10, "O"), (11, "OU"), (12, "TITLE"), (13, "DESCRIPTION"), (15, "BUSINESSCATEGORY"),
    (17, "POSTALCODE"), (41, "NAME"), (42, "GIVENNAME"), (44, "GENERATIONQUALIFIER"),
    (46, "DNQUALIFIER"), (65, "PSEUDONYM")]

def names : List (Der.ObjectId × String) :=
  directoryNames.map (fun entry => (Der.ObjectId.ofArcs [2, 5, 4, entry.1], entry.2)) ++
    [(Der.ObjectId.ofArcs [0, 9, 2342, 19200300, 100, 1, 25], "DC"),
      (Der.ObjectId.ofArcs [0, 9, 2342, 19200300, 100, 1, 1], "UID"),
      (Der.ObjectId.ofArcs [1, 2, 840, 113549, 1, 9, 1], "EMAIL")]

def nameOf? (kind : Der.ObjectId) : Option String :=
  (names.find? (fun entry => entry.1 == kind)).map Prod.snd

def isPrintable (byte : UInt8) : Bool :=
  (0x30 ≤ byte && byte ≤ 0x39) || (0x41 ≤ byte && byte ≤ 0x5a) || (0x61 ≤ byte && byte ≤ 0x7a) ||
    [0x20, 0x27, 0x28, 0x29, 0x2b, 0x2c, 0x2d, 0x2e, 0x2f, 0x3a, 0x3d, 0x3f].contains byte

def text? (value : Der.Element) : Option String :=
  if value.tag = Der.Tag.printableString then
    if value.content.all isPrintable then value.content.toText? else none
  else if value.tag = Der.Tag.utf8String then
    value.content.toText?
  else if value.tag = Der.Tag.ia5String ∨ value.tag = Der.Tag.teletexString then
    if value.content.all (· < 0x80) then value.content.toText? else none
  else
    none

def isSpecial (c : Char) : Bool :=
  ['"', '+', ',', ';', '<', '>', '\\'].contains c

def escapeChar (c : Char) : List Char :=
  if isSpecial c then
    ['\\', c]
  else if c.toNat < 0x20 ∨ c.toNat = 0x7f then
    '\\' :: Bytes.hexDigits [UInt8.ofNat c.toNat]
  else
    [c]

def escapeRest : List Char → List Char
  | [] => []
  | [' '] => ['\\', ' ']
  | c :: rest => escapeChar c ++ escapeRest rest

/-- Marks what would be misread: a number sign or a space in front, a space at the end,
and everywhere the special characters and the control characters. -/
def escape : List Char → List Char
  | '#' :: rest => ['\\', '#'] ++ escapeRest rest
  | ' ' :: rest => ['\\', ' '] ++ escapeRest rest
  | text => escapeRest text

/-- The text of an attribute. One without a name, or with a value that is not text,
shows its path and the encoding of its value. -/
def text (entry : Attribute) : String :=
  match nameOf? entry.kind, text? entry.value with
  | some name, some value => name ++ "=" ++ String.ofList (escape value.toList)
  | _, _ => entry.kind.text ++ "=#" ++ entry.value.toBytes.toHex

end Attribute

structure Name where
  /-- The sets, from the widest to the narrowest. -/
  parts : List (List Attribute)
deriving DecidableEq, Repr

namespace Name

def readPart : Der.Reader (List Attribute) := do
  let attributes ← Der.Reader.within Der.Tag.set (Der.Reader.many Attribute.read)
  (Attribute.sort? attributes : Option (List Attribute))

def read : Der.Reader Name :=
  Der.Reader.sequence do
    return { parts := ← Der.Reader.many readPart }

def toBytes (name : Name) : Bytes :=
  Der.encodeSequence (name.parts.map (fun part =>
    Der.encode Der.Tag.set (part.flatMap Attribute.toBytes)))

def text (name : Name) : String :=
  String.intercalate "," (name.parts.reverse.map (fun part =>
    String.intercalate "+" (part.map Attribute.text)))

end Name

end PackageSignature
