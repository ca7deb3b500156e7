/-! Arithmetic with the residues of a prime number. -/

namespace IndexWatch.Credentials.Residue

/-- The difference of two residues. -/
def sub (p a b : Nat) : Nat := (a + p - b % p) % p

def mul (p a b : Nat) : Nat := a * b % p

/-- A power of a residue. The first number bounds the exponent's bits. -/
def powerFrom (p : Nat) : Nat → Nat → Nat → Nat
  | 0, _, _ => 1
  | fuel + 1, a, e =>
    if e = 0 then 1
    else
      let half := powerFrom p fuel (mul p a a) (e / 2)
      if e % 2 = 1 then mul p a half else half

def power (p a e : Nat) : Nat := powerFrom p (e.log2 + 1) a e

/-- The residue whose product with `a` is one, where `a` is not zero. -/
def inverse (p a : Nat) : Nat := power p a (p - 2)

end IndexWatch.Credentials.Residue
