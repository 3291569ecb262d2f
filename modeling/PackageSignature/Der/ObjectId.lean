import PackageSignature.Der.Element
/-! Object identifiers: paths of numbers that name algorithms, curves and attributes. -/

namespace PackageSignature.Der

structure ObjectId where
  content : Bytes
deriving DecidableEq, Repr

namespace ObjectId

/-- Reads the numbers of a path behind its first byte: each one in base 128, in at
most five bytes, where the fifth may hold four bits. `value` and `count` are those
of the number being read. -/
def readArcs : Nat → Nat → Bytes → Option (List Nat)
  | _, 0, [] => some []
  | _, _ + 1, [] => none
  | value, count, byte :: rest =>
      if 4 ≤ count ∧ 16 ≤ byte.toNat then
        none
      else
        let next := (value * 128 + byte.toNat % 128) % 0x100000000
        if byte < 0x80 then
          (readArcs 0 0 rest).map (next :: ·)
        else
          readArcs next (count + 1) rest

def arcs? : Bytes → Option (List Nat)
  | [] => none
  | first :: rest =>
      if first < 120 then
        (readArcs 0 0 rest).map (fun others => first.toNat / 40 :: first.toNat % 40 :: others)
      else
        none

/-- The identifier with the given content, if it is a path of three numbers or more
in at most 39 bytes. -/
def ofContent? (content : Bytes) : Option ObjectId :=
  if 3 ≤ content.length ∧ content.length ≤ 39 ∧ (arcs? content).isSome then
    some { content }
  else
    none

def read : Reader ObjectId := do
  ofContent? (← Reader.content Tag.objectId)

def arcs (id : ObjectId) : List Nat :=
  (arcs? id.content).getD []

def text (id : ObjectId) : String :=
  String.intercalate "." (id.arcs.map toString)

def encodeArc (n : Nat) (behind : Bytes) : Bytes :=
  if n < 128 then
    UInt8.ofNat (n + if behind.isEmpty then 0 else 128) :: behind
  else
    encodeArc (n / 128) (UInt8.ofNat (n % 128 + if behind.isEmpty then 0 else 128) :: behind)
termination_by n
decreasing_by omega

def ofArcs : List Nat → ObjectId
  | first :: second :: others =>
      { content := UInt8.ofNat (40 * first + second) :: others.flatMap (encodeArc · []) }
  | _ => { content := [] }

def toBytes (id : ObjectId) : Bytes :=
  encode Tag.objectId id.content

end ObjectId

end PackageSignature.Der
