import PackageSignature.Bytes
import PackageSignature.Text.Numeral
/-! Reading JSON without interpreting it. Texts and numbers stay as they are written, so a
part that nobody asks for only has to be well formed: what a text means is found out
when it is asked for, and may then turn out to be nothing. -/

namespace PackageSignature.Json

inductive Raw where
  | word (letters : List Char)
  | number (letters : List Char)
  | text (letters : List Char)
  | array (items : List Raw)
  /-- Values under names, which are given by what stands between their quotes. -/
  | object (members : List (List Char × Raw))

namespace Raw

def isSpace (c : Char) : Bool :=
  c == ' ' || c == '\n' || c == '\r' || c == '\t'

def skipSpace (input : List Char) : List Char :=
  input.dropWhile isSpace

def isDigit (c : Char) : Bool :=
  '0' ≤ c && c ≤ '9'

def digits? (input : List Char) : Option (List Char × List Char) :=
  match input.takeWhile isDigit with
  | [] => none
  | digits => some (digits, input.dropWhile isDigit)

def wholePart? (input : List Char) : Option (List Char × List Char) :=
  match input with
  | '0' :: rest =>
      match rest with
      | next :: _ => if isDigit next then none else some (['0'], rest)
      | [] => some (['0'], [])
  | _ => digits? input

def fraction? (input : List Char) : Option (List Char × List Char) :=
  match input with
  | '.' :: rest => (digits? rest).map (fun (digits, left) => ('.' :: digits, left))
  | _ => some ([], input)

def exponent? (input : List Char) : Option (List Char × List Char) :=
  match input with
  | mark :: rest =>
      if mark = 'e' ∨ mark = 'E' then
        let unsigned :=
          match rest with
          | '+' :: behind => behind
          | '-' :: behind => behind
          | _ => rest
        (digits? unsigned).map (fun (digits, left) => (mark :: digits, left))
      else
        some ([], input)
  | [] => some ([], [])

/-- A number and what is left. The sign of an exponent is not kept. -/
def number? (input : List Char) : Option (List Char × List Char) := do
  let (sign, unsigned) :=
    match input with
    | '-' :: rest => (['-'], rest)
    | _ => ([], input)
  let (whole, behindWhole) ← wholePart? unsigned
  let (fraction, behindFraction) ← fraction? behindWhole
  let (exponent, left) ← exponent? behindFraction
  return (sign ++ whole ++ fraction ++ exponent, left)

/-- What stands before the closing quote, and what is left behind that. A mark is
followed by a letter that it goes with or by four hexadecimal digits, and there are no
control characters. -/
def untilQuote? : List Char → Option (List Char × List Char)
  | [] => none
  | '"' :: rest => some ([], rest)
  | '\\' :: 'u' :: a :: b :: c :: d :: rest =>
      if [a, b, c, d].all (fun digit => (Text.Numeral.digit? digit).isSome) then
        (untilQuote? rest).map (fun (letters, left) =>
          ('\\' :: 'u' :: a :: b :: c :: d :: letters, left))
      else
        none
  | '\\' :: c :: rest =>
      if ['"', '\\', '/', 'b', 'f', 'n', 'r', 't'].contains c then
        (untilQuote? rest).map (fun (letters, left) => ('\\' :: c :: letters, left))
      else
        none
  | c :: rest =>
      if c.toNat < 0x20 ∨ c = '\\' then
        none
      else
        (untilQuote? rest).map (fun (letters, left) => (c :: letters, left))

def word? (input : List Char) : Option (List Char × List Char) :=
  (["null".toList, "true".toList, "false".toList].find? (fun word => word.isPrefixOf input)).map
    (fun word => (word, input.drop word.length))

mutual

def value? (fuel : Nat) (input : List Char) : Option (Raw × List Char) :=
  match fuel with
  | 0 => none
  | fuel + 1 =>
      match skipSpace input with
      | '"' :: rest => (untilQuote? rest).map (fun (letters, left) => (text letters, left))
      | '[' :: rest =>
          match skipSpace rest with
          | ']' :: left => some (array [], left)
          | _ => (items? fuel rest).map (fun (items, left) => (array items, left))
      | '\x7b' :: rest =>
          match skipSpace rest with
          | '\x7d' :: left => some (object [], left)
          | _ => (members? fuel rest).map (fun (members, left) => (object members, left))
      | start =>
          match word? start with
          | some (letters, left) => some (word letters, left)
          | none => (number? start).map (fun (letters, left) => (number letters, left))

def items? (fuel : Nat) (input : List Char) : Option (List Raw × List Char) :=
  match fuel with
  | 0 => none
  | fuel + 1 => do
      let (item, behind) ← value? fuel input
      match skipSpace behind with
      | ',' :: rest =>
          let (items, left) ← items? fuel rest
          return (item :: items, left)
      | ']' :: left => return ([item], left)
      | _ => none

def members? (fuel : Nat) (input : List Char) : Option (List (List Char × Raw) × List Char) :=
  match fuel with
  | 0 => none
  | fuel + 1 =>
      match skipSpace input with
      | '"' :: inside => do
          let (name, behindName) ← untilQuote? inside
          match skipSpace behindName with
          | ':' :: start =>
              let (value, behind) ← value? fuel start
              match skipSpace behind with
              | ',' :: rest =>
                  let (members, left) ← members? fuel rest
                  return ((name, value) :: members, left)
              | '\x7d' :: left => return ([(name, value)], left)
              | _ => none
          | _ => none
      | _ => none

end

/-- The value that a text consists of. Each level and each item takes up a character,
so the length of the text is fuel enough. -/
def ofText? (input : List Char) : Option Raw :=
  match value? (2 * input.length + 2) input with
  | some (value, left) => if (skipSpace left).isEmpty then some value else none
  | none => none

def charOf? (unit : Nat) : Option Char :=
  if 0xd800 ≤ unit ∧ unit ≤ 0xdfff then none else some (Char.ofNat unit)

def unitOf? (digits : List Char) : Option Nat := do
  let values ← digits.mapM Text.Numeral.digit?
  return values.foldl (fun unit digit => 16 * unit + digit) 0

def unmark (c : Char) : Char :=
  match c with
  | 'b' => Char.ofNat 8
  | 'f' => Char.ofNat 12
  | 'n' => '\n'
  | 'r' => '\r'
  | 't' => '\t'
  | _ => c

/-- The text that is written between quotes. A code unit for half a character has to be
followed by one for the other half. -/
def unescape? : List Char → Option (List Char)
  | [] => some []
  | '\\' :: 'u' :: a :: b :: c :: d :: rest => do
      let first ← unitOf? [a, b, c, d]
      if 0xd800 ≤ first && first ≤ 0xdbff then
        match rest with
        | '\\' :: 'u' :: e :: f :: g :: h :: others =>
            let second ← unitOf? [e, f, g, h]
            if 0xdc00 ≤ second && second ≤ 0xdfff then
              let text ← unescape? others
              return Char.ofNat (0x10000 + (first - 0xd800) * 0x400 + (second - 0xdc00)) :: text
            else
              none
        | _ => none
      else
        let char ← charOf? first
        let text ← unescape? rest
        return char :: text
  | '\\' :: c :: rest => (unescape? rest).map (unmark c :: ·)
  | c :: rest => (unescape? rest).map (c :: ·)

end Raw

end PackageSignature.Json
