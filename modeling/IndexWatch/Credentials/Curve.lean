import IndexWatch.Credentials.Residue

/-! The elliptic curves of signing keys: `y² = x³ - 3x + b` over a prime field.

Points are kept in Jacobian coordinates, where `(x, y, z)` stands for `(x / z², y / z³)` and `z = 0`
for the point at infinity, so that only one division is needed at the end. -/

namespace IndexWatch.Credentials

/-- A curve with its base point and its group order; `object` is its identifier in keys. -/
structure Curve where
  object : List UInt8
  bytes : Nat
  field : Nat
  coefficient : Nat
  order : Nat
  baseX : Nat
  baseY : Nat

namespace Curve

def p256 : Curve where
  object := [0x2A, 0x86, 0x48, 0xCE, 0x3D, 0x03, 0x01, 0x07]
  bytes := 32
  field := 0xffffffff00000001000000000000000000000000ffffffffffffffffffffffff
  coefficient := 0x5ac635d8aa3a93e7b3ebbd55769886bc651d06b0cc53b0f63bce3c3e27d2604b
  order := 0xffffffff00000000ffffffffffffffffbce6faada7179e84f3b9cac2fc632551
  baseX := 0x6b17d1f2e12c4247f8bce6e563a440f277037d812deb33a0f4a13945d898c296
  baseY := 0x4fe342e2fe1a7f9b8ee7eb4a7c0f9e162bce33576b315ececbb6406837bf51f5

def p384 : Curve where
  object := [0x2B, 0x81, 0x04, 0x00, 0x22]
  bytes := 48
  field := 0xfffffffffffffffffffffffffffffffffffffffffffffffffffffffffffffffeffffffff0000000000000000ffffffff
  coefficient := 0xb3312fa7e23ee7e4988e056be3f82d19181d9c6efe8141120314088f5013875ac656398d8a2ed19d2a85c8edd3ec2aef
  order := 0xffffffffffffffffffffffffffffffffffffffffffffffffc7634d81f4372ddf581a0db248b0a77aecec196accc52973
  baseX := 0xaa87ca22be8b05378eb1c71ef320ad746e1d3b628ba79b9859f741e082542a385502f25dbf55296c3a545e3872760ab7
  baseY := 0x3617de4a96262c6f5d9e98bf9292dc29f8f41dbd289a147ce9da3113b5f0b8c00a60b1ce1d7e819d7a431d7c90ea0e5f

def p521 : Curve where
  object := [0x2B, 0x81, 0x04, 0x00, 0x23]
  bytes := 66
  field := 0x1ffffffffffffffffffffffffffffffffffffffffffffffffffffffffffffffffffffffffffffffffffffffffffffffffffffffffffffffffffffffffffffffffff
  coefficient := 0x051953eb9618e1c9a1f929a21a0b68540eea2da725b99b315f3b8b489918ef109e156193951ec7e937b1652c0bd3bb1bf073573df883d2c34f1ef451fd46b503f00
  order := 0x1fffffffffffffffffffffffffffffffffffffffffffffffffffffffffffffffffffa51868783bf2f966b7fcc0148f709a5d03bb5c9b8899c47aebb6fb71e91386409
  baseX := 0xc6858e06b70404e9cd9e3ecb662395b4429c648139053fb521f828af606b4d3dbaa14b5e77efe75928fe1dc127a2ffa8de3348b3c1856a429bf97e7e31c2e5bd66
  baseY := 0x11839296a789a3bc0045c8a5fb42c7d1bd998f54449579b446817afbd17273e662c97ee72995ef42640c550b9013fad0761353c7086a272c24088be94769fd16650

def all : List Curve := [p256, p384, p521]

/-- A point in Jacobian coordinates. -/
structure Point where
  x : Nat
  y : Nat
  z : Nat

def infinity : Point := ⟨1, 1, 0⟩

def sub (curve : Curve) (a b : Nat) : Nat := Residue.sub curve.field a b

def mul (curve : Curve) (a b : Nat) : Nat := Residue.mul curve.field a b

def double (curve : Curve) (p : Point) : Point :=
  if p.z = 0 ∨ p.y = 0 then infinity
  else
    let zz := curve.mul p.z p.z
    let yy := curve.mul p.y p.y
    let s := 4 * curve.mul p.x yy % curve.field
    let m := 3 * curve.mul (curve.sub p.x zz) ((p.x + zz) % curve.field) % curve.field
    let x := curve.sub (curve.mul m m) (2 * s)
    let y := curve.sub (curve.mul m (curve.sub s x)) (8 * curve.mul yy yy)
    ⟨x, y, 2 * curve.mul p.y p.z % curve.field⟩

def add (curve : Curve) (p q : Point) : Point :=
  if p.z = 0 then q
  else if q.z = 0 then p
  else
    let pzz := curve.mul p.z p.z
    let qzz := curve.mul q.z q.z
    let u := curve.mul p.x qzz
    let v := curve.mul q.x pzz
    let s := curve.mul p.y (curve.mul qzz q.z)
    let t := curve.mul q.y (curve.mul pzz p.z)
    if u = v then (if s = t then curve.double p else infinity)
    else
      let h := curve.sub v u
      let r := curve.sub t s
      let hh := curve.mul h h
      let hhh := curve.mul h hh
      let w := curve.mul u hh
      let x := curve.sub (curve.mul r r) (hhh + 2 * w)
      let y := curve.sub (curve.mul r (curve.sub w x)) (curve.mul s hhh)
      ⟨x, y, curve.mul h (curve.mul p.z q.z)⟩

/-- A multiple of a point. The first number bounds the factor's bits. -/
def multipleFrom (curve : Curve) : Nat → Nat → Point → Point
  | 0, _, _ => infinity
  | fuel + 1, k, p =>
    if k = 0 then infinity
    else
      let rest := multipleFrom curve fuel (k / 2) (curve.double p)
      if k % 2 = 1 then curve.add p rest else rest

def multiple (curve : Curve) (k : Nat) (p : Point) : Point := curve.multipleFrom (k.log2 + 1) k p

/-- The public point of a secret factor. -/
def publicPoint (curve : Curve) (secret : Nat) : Nat × Nat :=
  let p := curve.multiple secret ⟨curve.baseX, curve.baseY, 1⟩
  let zi := Residue.inverse curve.field p.z
  let zz := curve.mul zi zi
  (curve.mul p.x zz, curve.mul p.y (curve.mul zz zi))

end Curve

end IndexWatch.Credentials
