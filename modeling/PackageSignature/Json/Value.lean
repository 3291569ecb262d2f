import PackageSignature.Text.Numeral
/-! Values of JSON and their text over several lines, where each level is moved in by two
spaces. -/

namespace PackageSignature.Json

inductive Value where
  | null
  | number (n : Nat)
  | text (text : String)
  | array (items : List Value)
  | object (members : List (String × Value))

def escapeChar (c : Char) : List Char :=
  if c = '"' then ['\\', '"']
  else if c = '\\' then ['\\', '\\']
  else if c.toNat = 8 then ['\\', 'b']
  else if c.toNat = 12 then ['\\', 'f']
  else if c = '\n' then ['\\', 'n']
  else if c = '\r' then ['\\', 'r']
  else if c = '\t' then ['\\', 't']
  else if c.toNat < 32 then '\\' :: 'u' :: (Text.Numeral.hex 4 c.toNat).toList
  else [c]

def quote (text : String) : String :=
  "\"" ++ String.ofList (text.toList.flatMap escapeChar) ++ "\""

def newLine (depth : Nat) : String :=
  "\n" ++ String.ofList (List.replicate (2 * depth) ' ')

namespace Value

mutual

def print (depth : Nat) : Value → String
  | null => "null"
  | number n => toString n
  | text content => quote content
  | array [] => "[]"
  | array (item :: items) =>
      "[" ++ newLine (depth + 1) ++ print (depth + 1) item ++ printItems (depth + 1) items ++
        newLine depth ++ "]"
  | object [] => "\x7b\x7d"
  | object (member :: members) =>
      "\x7b" ++ newLine (depth + 1) ++ printMember (depth + 1) member ++
        printMembers (depth + 1) members ++ newLine depth ++ "\x7d"

def printItems (depth : Nat) : List Value → String
  | [] => ""
  | item :: items => "," ++ newLine depth ++ print depth item ++ printItems depth items

def printMember (depth : Nat) : String × Value → String
  | (name, value) => quote name ++ ": " ++ print depth value

def printMembers (depth : Nat) : List (String × Value) → String
  | [] => ""
  | member :: members =>
      "," ++ newLine depth ++ printMember depth member ++ printMembers depth members

end

def pretty (value : Value) : String :=
  print 0 value

end Value

end PackageSignature.Json
