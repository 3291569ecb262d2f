import PackageSignature.Arithmetic.Modular
import PackageSignature.Bytes
/-! Two elliptic curves over prime fields, the group of their points, and the encoding
of points. A curve is the set of pairs with `y² = x³ - 3x + b` and a point at infinity. -/

namespace PackageSignature

inductive Curve where
  | p256
  | p384
deriving DecidableEq, Repr

structure Point where
  x : Nat
  y : Nat
deriving DecidableEq, Repr

namespace Curve

def name : Curve → String
  | p256 => "P-256"
  | p384 => "P-384"

def width : Curve → Nat
  | p256 => 32
  | p384 => 48

/-- The size of the field. It leaves three when divided by four. -/
def prime : Curve → Nat
  | p256 => 0xffffffff00000001000000000000000000000000ffffffffffffffffffffffff
  | p384 =>
      0xfffffffffffffffffffffffffffffffffffffffffffffffffffffffffffffffeffffffff0000000000000000ffffffff

def constant : Curve → Nat
  | p256 => 0x5ac635d8aa3a93e7b3ebbd55769886bc651d06b0cc53b0f63bce3c3e27d2604b
  | p384 =>
      0xb3312fa7e23ee7e4988e056be3f82d19181d9c6efe8141120314088f5013875ac656398d8a2ed19d2a85c8edd3ec2aef

def order : Curve → Nat
  | p256 => 0xffffffff00000000ffffffffffffffffbce6faada7179e84f3b9cac2fc632551
  | p384 =>
      0xffffffffffffffffffffffffffffffffffffffffffffffffc7634d81f4372ddf581a0db248b0a77aecec196accc52973

def generator : Curve → Point
  | p256 =>
      { x := 0x6b17d1f2e12c4247f8bce6e563a440f277037d812deb33a0f4a13945d898c296
        y := 0x4fe342e2fe1a7f9b8ee7eb4a7c0f9e162bce33576b315ececbb6406837bf51f5 }
  | p384 =>
      { x := 0xaa87ca22be8b05378eb1c71ef320ad746e1d3b628ba79b9859f741e082542a385502f25dbf55296c3a545e3872760ab7
        y := 0x3617de4a96262c6f5d9e98bf9292dc29f8f41dbd289a147ce9da3113b5f0b8c00a60b1ce1d7e819d7a431d7c90ea0e5f }

def cubic (curve : Curve) (x : Nat) : Nat :=
  let p := curve.prime
  Modular.sub p (x * x % p * x + curve.constant) (3 * x)

def contains (curve : Curve) (point : Point) : Bool :=
  point.x < curve.prime && point.y < curve.prime &&
    point.y * point.y % curve.prime == curve.cubic point.x

def squareRoot? (curve : Curve) (a : Nat) : Option Nat :=
  let p := curve.prime
  let root := Modular.pow p a ((p + 1) / 4)
  if root * root % p = a % p then some root else none

/-- The point over `x` whose second coordinate is the root that the test accepts, or
else the other root. -/
def pointOver? (curve : Curve) (x : Nat) (accepts : Nat → Bool) : Option Point :=
  if x < curve.prime then
    (curve.squareRoot? (curve.cubic x)).map (fun root =>
      if accepts root then { x, y := root } else { x, y := Modular.sub curve.prime 0 root })
  else
    none

/-! ### The group

Sums are computed on triples `(x, y, z)` that stand for the pair `(x / z², y / z³)`,
so that no step needs a division. A triple with `z = 0` is the point at infinity. -/

structure Triple where
  x : Nat
  y : Nat
  z : Nat

namespace Triple

def infinity : Triple := ⟨1, 1, 0⟩

def ofPoint (point : Point) : Triple := ⟨point.x, point.y, 1⟩

def double (p : Nat) (a : Triple) : Triple :=
  if a.z = 0 ∨ a.y = 0 then
    infinity
  else
    let square := a.y * a.y % p
    let zSquare := a.z * a.z % p
    let product := 4 * a.x * square % p
    let slope := 3 * Modular.sub p a.x zSquare * (a.x + zSquare) % p
    let x := Modular.sub p (slope * slope) (2 * product)
    let y := Modular.sub p (slope * Modular.sub p product x) (8 * square * square)
    ⟨x, y, 2 * a.y * a.z % p⟩

def add (p : Nat) (a b : Triple) : Triple :=
  if a.z = 0 then b
  else if b.z = 0 then a
  else
    let aSquare := a.z * a.z % p
    let bSquare := b.z * b.z % p
    let aX := a.x * bSquare % p
    let bX := b.x * aSquare % p
    let aY := a.y * bSquare % p * b.z % p
    let bY := b.y * aSquare % p * a.z % p
    if aX = bX then
      if aY = bY then double p a else infinity
    else
      let run := Modular.sub p bX aX
      let rise := Modular.sub p bY aY
      let runSquare := run * run % p
      let runCube := runSquare * run % p
      let product := aX * runSquare % p
      let x := Modular.sub p (rise * rise) (runCube + 2 * product)
      let y := Modular.sub p (rise * Modular.sub p product x) (aY * runCube)
      ⟨x, y, a.z * b.z % p * run % p⟩

def multiply (p : Nat) (factor : Nat) (a : Triple) : Triple :=
  if factor = 0 then
    infinity
  else
    let half := multiply p (factor / 2) (double p a)
    if factor % 2 = 0 then half else add p half a
termination_by factor
decreasing_by omega

def toPoint? (p : Nat) (a : Triple) : Option Point :=
  if a.z = 0 then
    none
  else
    let inverse := Modular.inverse p a.z
    let square := inverse * inverse % p
    some { x := a.x * square % p, y := a.y * (square * inverse % p) % p }

end Triple

def combine? (curve : Curve) (first : Nat) (a : Point) (second : Nat) (b : Point) :
    Option Point :=
  let p := curve.prime
  Triple.toPoint? p (Triple.add p (Triple.multiply p first (Triple.ofPoint a))
    (Triple.multiply p second (Triple.ofPoint b)))

def multiply? (curve : Curve) (factor : Nat) (a : Point) : Option Point :=
  let p := curve.prime
  Triple.toPoint? p (Triple.multiply p factor (Triple.ofPoint a))

def encodePoint (curve : Curve) (point : Point) : Bytes :=
  0x04 :: (Bytes.ofNatBE curve.width point.x ++ Bytes.ofNatBE curve.width point.y)

/-- The point in an encoding: both coordinates, or the first one with the parity of
the second, or the first one alone, which stands for the point with the smaller
second coordinate. -/
def decodePoint? (curve : Curve) : Bytes → Option Point
  | [] => none
  | mark :: body =>
      if mark = 0x04 then
        let point : Point :=
          { x := Bytes.toNatBE (body.take curve.width), y := Bytes.toNatBE (body.drop curve.width) }
        if body.length = 2 * curve.width ∧ curve.contains point then some point else none
      else if body.length = curve.width then
        let x := Bytes.toNatBE body
        if mark = 0x02 ∨ mark = 0x03 then
          curve.pointOver? x (fun y => y % 2 == mark.toNat % 2)
        else if mark = 0x05 then
          curve.pointOver? x (fun y => y ≤ Modular.sub curve.prime 0 y)
        else
          none
      else
        none

end Curve

end PackageSignature
