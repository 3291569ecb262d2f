import PackageSignature.Bytes
import PackageSignature.Sha2.Constants
/-! The SHA-2 family of hash functions. Its members differ in the width of their words,
in the amounts by which they rotate and shift, in where they start and in how much of
the final state they keep; everything else is shared. -/

namespace PackageSignature

structure Sha2.Mixing where
  first : Nat
  second : Nat
  /-- The third rotation, or the shift where a word of the schedule is mixed. -/
  third : Nat

structure Sha2 (width : Nat) where
  constants : List (BitVec width)
  initial : List (BitVec width)
  upper : Sha2.Mixing
  lower : Sha2.Mixing
  /-- How the oldest but one word of the schedule is mixed. -/
  older : Sha2.Mixing
  /-- How the newest but one word of the schedule is mixed. -/
  newer : Sha2.Mixing
  size : Nat

namespace Sha2

variable {width : Nat}

def wordSize (_ : Sha2 width) : Nat := width / 8

def blockSize (family : Sha2 width) : Nat := 16 * family.wordSize

structure Registers (width : Nat) where
  a : BitVec width
  b : BitVec width
  c : BitVec width
  d : BitVec width
  e : BitVec width
  f : BitVec width
  g : BitVec width
  h : BitVec width

namespace Registers

def ofList (words : List (BitVec width)) : Registers width where
  a := words.getD 0 0
  b := words.getD 1 0
  c := words.getD 2 0
  d := words.getD 3 0
  e := words.getD 4 0
  f := words.getD 5 0
  g := words.getD 6 0
  h := words.getD 7 0

def toList (r : Registers width) : List (BitVec width) :=
  [r.a, r.b, r.c, r.d, r.e, r.f, r.g, r.h]

def add (r s : Registers width) : Registers width :=
  ofList (List.zipWith (· + ·) r.toList s.toList)

end Registers

def Mixing.rotations (mixing : Mixing) (word : BitVec width) : BitVec width :=
  word.rotateRight mixing.first ^^^ word.rotateRight mixing.second ^^^
    word.rotateRight mixing.third

def Mixing.rotationsAndShift (mixing : Mixing) (word : BitVec width) : BitVec width :=
  word.rotateRight mixing.first ^^^ word.rotateRight mixing.second ^^^ (word >>> mixing.third)

def nextWord (family : Sha2 width) (window : List (BitVec width)) : BitVec width :=
  family.newer.rotationsAndShift (window.getD 14 0) + window.getD 9 0 +
    family.older.rotationsAndShift (window.getD 1 0) + window.getD 0 0

def round (family : Sha2 width) (r : Registers width) (word : BitVec width) : Registers width :=
  let choice := (r.e &&& r.f) ^^^ (~~~r.e &&& r.g)
  let majority := (r.a &&& r.b) ^^^ (r.a &&& r.c) ^^^ (r.b &&& r.c)
  let forward := r.h + family.lower.rotations r.e + choice + word
  { a := forward + family.upper.rotations r.a + majority
    b := r.a
    c := r.b
    d := r.c
    e := r.d + forward
    f := r.e
    g := r.f
    h := r.g }

/-- The remaining rounds. The window holds the next sixteen words of the schedule. -/
def rounds (family : Sha2 width) :
    List (BitVec width) → List (BitVec width) → Registers width → Registers width
  | [], _, registers => registers
  | _, [], registers => registers
  | constant :: constants, word :: window, registers =>
      rounds family constants (window ++ [nextWord family (word :: window)])
        (round family registers (constant + word))

def compress (family : Sha2 width) (state : Registers width) (block : Bytes) : Registers width :=
  let words := (Bytes.chunks family.wordSize block).map
    (fun word => BitVec.ofNat width (Bytes.toNatBE word))
  state.add (rounds family family.constants words state)

/-- The message with its end marked and its length in bits behind it, filled with
zero bytes in between to a whole number of blocks. -/
def pad (family : Sha2 width) (message : Bytes) : Bytes :=
  let length := message.length
  let used := length + 1 + 2 * family.wordSize
  let gap := (family.blockSize - used % family.blockSize) % family.blockSize
  message ++ 0x80 :: (Bytes.zeros gap ++ Bytes.ofNatBE (2 * family.wordSize) (8 * length))

def hash (family : Sha2 width) (message : Bytes) : Bytes :=
  let last := (Bytes.chunks family.blockSize (family.pad message)).foldl family.compress
    (Registers.ofList family.initial)
  (last.toList.flatMap (fun word => Bytes.ofNatBE family.wordSize word.toNat)).take family.size

def sha256 : Sha2 32 where
  constants := (cubeRoots.take 64).map (fun bits => BitVec.ofNat 32 (bits >>> 32))
  initial := (squareRoots.take 8).map (fun bits => BitVec.ofNat 32 (bits >>> 32))
  upper := ⟨2, 13, 22⟩
  lower := ⟨6, 11, 25⟩
  older := ⟨7, 18, 3⟩
  newer := ⟨17, 19, 10⟩
  size := 32

def sha512 : Sha2 64 where
  constants := cubeRoots.map (BitVec.ofNat 64)
  initial := (squareRoots.take 8).map (BitVec.ofNat 64)
  upper := ⟨28, 34, 39⟩
  lower := ⟨14, 18, 41⟩
  older := ⟨1, 8, 7⟩
  newer := ⟨19, 61, 6⟩
  size := 64

/-- SHA-384 starts elsewhere than SHA-512 and keeps less of the state. -/
def sha384 : Sha2 64 :=
  { sha512 with
    initial := (squareRoots.drop 8).map (BitVec.ofNat 64)
    size := 48 }

end Sha2

end PackageSignature
