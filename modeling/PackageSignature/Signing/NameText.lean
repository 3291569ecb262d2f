import PackageSignature.Certificate.Name
import PackageSignature.Signing.ObjectIdText
/-! Reading a name from its text. The sets of attributes are separated by commas and
stored in reverse, and the attributes of a set are separated by plus signs. -/

namespace PackageSignature.Signing.NameText

/-- Cuts a text at a separator that is not marked. The two characters in front decide:
a separator behind a backslash is marked, unless another backslash is in front of
that. `older` and `old` are those characters. -/
def splitFrom (separator : Char) : Option Char → Option Char → List Char → List (List Char)
  | _, _, [] => [[]]
  | older, old, c :: rest =>
      let pieces := splitFrom separator old (some c) rest
      if c = separator ∧ (old ≠ some '\\' ∨ older = some '\\') then
        [] :: pieces
      else
        match pieces with
        | [] => [[c]]
        | piece :: others => (c :: piece) :: others

def split (separator : Char) (text : List Char) : List (List Char) :=
  splitFrom separator none none text

/-- The bytes that a text stands for once its marks are resolved: a mark is followed by
a special character or by the two digits of a byte. A mark that the text breaks off says
nothing. -/
def unescape? : List Char → Option Bytes
  | [] => some []
  | ['\\'] => some []
  | '\\' :: c :: rest =>
      if [' ', '"', '#', '=', '\\', '+', ',', ';', '<', '>'].contains c then
        (unescape? rest).map (Bytes.ofText (String.singleton c) ++ ·)
      else
        match Text.Numeral.digit? c, rest with
        | none, _ => none
        | some _, [] => some []
        | some high, low :: others => do
            let low ← Text.Numeral.digit? low
            let bytes ← unescape? others
            return UInt8.ofNat (16 * high + low) :: bytes
  | c :: rest => (unescape? rest).map (Bytes.ofText (String.singleton c) ++ ·)

def longNames : List (String × String) :=
  [("commonname", "CN"), ("surname", "SN"), ("countryname", "C"), ("localityname", "L"),
    ("stateorprovincename", "ST"), ("streetaddress", "STREET"), ("organizationname", "O"),
    ("organizationalunitname", "OU"), ("domaincomponent", "DC"), ("userid", "UID"),
    ("emailaddress", "EMAIL")]

def kindOfName? (name : String) : Option Der.ObjectId :=
  let short := ((longNames.lookup name.toLower).getD name).toUpper
  (Attribute.names.find? (fun entry => entry.2 == short)).map Prod.fst

def bytesOfHex? : List Char → Option Bytes
  | [] => some []
  | high :: low :: rest => do
      let first ← Text.Numeral.digit? high
      let second ← Text.Numeral.digit? low
      let bytes ← bytesOfHex? rest
      return UInt8.ofNat (16 * first + second) :: bytes
  | [_] => none

def textTag (kind : Der.ObjectId) : UInt8 :=
  if some kind = kindOfName? "C" ∨ some kind = kindOfName? "SERIALNUMBER" then
    Der.Tag.printableString
  else if some kind = kindOfName? "DC" then Der.Tag.ia5String
  else Der.Tag.utf8String

def value? (kind : Der.ObjectId) : List Char → Option Der.Element
  | '#' :: digits => (bytesOfHex? digits).bind (Der.Reader.complete Der.Reader.element)
  | text => (unescape? text).map (fun content => { tag := textTag kind, content })

def attribute? (text : List Char) : Option Attribute := do
  let name := text.takeWhile (· != '=')
  match text.dropWhile (· != '=') with
  | [] => none
  | _ :: rest =>
      let kind ← (kindOfName? (String.ofList name)) <|> ObjectIdText.read? name
      return { kind, value := ← value? kind rest }

def part? (text : List Char) : Option (List Attribute) := do
  Attribute.sort? (← (split '+' text).mapM attribute?)

def ofText? (text : String) : Option Name := do
  let parts ← (split ',' text.toList).mapM part?
  return { parts := parts.reverse }

end PackageSignature.Signing.NameText
