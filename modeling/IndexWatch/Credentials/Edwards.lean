import IndexWatch.Credentials.Residue
import IndexWatch.Sha512

/-! The twisted Edwards curve of Ed25519 keys: `y² - x² = 1 + d·x²·y²`.

Points are kept in extended coordinates, where `(x, y, z, t)` stands for `(x / z, y / z)` and
`t = x · y / z`, so that addition has no special cases. -/

namespace IndexWatch.Credentials.Edwards

/-- `2 ^ 255 - 19`. -/
def prime : Nat := 0x7fffffffffffffffffffffffffffffffffffffffffffffffffffffffffffffed

/-- The constant `d` of the curve. -/
def coefficient : Nat := 0x52036cee2b6ffe738cc740797779e89800700a4d4141d8ab75eb4dca135978a3

structure Point where
  x : Nat
  y : Nat
  z : Nat
  t : Nat

def neutral : Point := ⟨0, 1, 1, 0⟩

/-- The base point. -/
def base : Point :=
  let x := 0x216936d3cd6e53fec0a4e231fdd6dc5c692cc7609525a7b2c9562d608f25d51a
  let y := 0x6666666666666666666666666666666666666666666666666666666666666658
  ⟨x, y, 1, Residue.mul prime x y⟩

def add (p q : Point) : Point :=
  let a := Residue.mul prime (Residue.sub prime p.y p.x) (Residue.sub prime q.y q.x)
  let b := Residue.mul prime (p.y + p.x) (q.y + q.x)
  let c := Residue.mul prime (2 * coefficient * p.t) q.t
  let d := Residue.mul prime (2 * p.z) q.z
  let e := Residue.sub prime b a
  let f := Residue.sub prime d c
  let g := d + c
  let h := b + a
  ⟨Residue.mul prime e f, Residue.mul prime g h, Residue.mul prime f g, Residue.mul prime e h⟩

/-- A multiple of a point. The first number bounds the factor's bits. -/
def multipleFrom : Nat → Nat → Point → Point
  | 0, _, _ => neutral
  | fuel + 1, k, p =>
    if k = 0 then neutral
    else
      let rest := multipleFrom fuel (k / 2) (add p p)
      if k % 2 = 1 then add p rest else rest

def multiple (k : Nat) (p : Point) : Point := multipleFrom (k.log2 + 1) k p

/-- A number in bytes, the lowest first. -/
def ofBytes (bytes : List UInt8) : Nat := bytes.foldr (fun b n => b.toNat + 256 * n) 0

/-- The bytes of a number, the lowest first. -/
def toBytes : Nat → Nat → List UInt8
  | 0, _ => []
  | count + 1, n => .ofNat (n % 256) :: toBytes count (n / 256)

/-- A point in thirty-two bytes: its `y`, and in the highest bit the parity of its `x`. -/
def Point.encode (p : Point) : List UInt8 :=
  let inverse := Residue.inverse prime p.z
  let x := Residue.mul prime p.x inverse
  let y := Residue.mul prime p.y inverse
  toBytes 32 (y + x % 2 * Nat.pow 2 255)

/-- The factor that a seed stands for: a multiple of eight whose highest bit is the one of `2 ^ 254`. -/
def factor (seed : List UInt8) : Nat :=
  let n := ofBytes ((Sha512.digest seed).take 32)
  n / 8 % Nat.pow 2 251 * 8 + Nat.pow 2 254

/-- The public key that belongs to a seed. -/
def publicKey (seed : List UInt8) : List UInt8 := (multiple (factor seed) base).encode

end IndexWatch.Credentials.Edwards
