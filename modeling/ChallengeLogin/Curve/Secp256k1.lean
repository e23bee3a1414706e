namespace ChallengeLogin.Curve

def fieldOrder : Nat :=
  0xfffffffffffffffffffffffffffffffffffffffffffffffffffffffefffffc2f

def groupOrder : Nat :=
  0xfffffffffffffffffffffffffffffffebaaedce6af48a03bbfd25e8cd0364141

-- Field operations on residues below the order
namespace Field

def add (a b : Nat) : Nat := (a + b) % fieldOrder

def sub (a b : Nat) : Nat := (a + (fieldOrder - b % fieldOrder)) % fieldOrder

def mul (a b : Nat) : Nat := a * b % fieldOrder

-- a ^ e, squaring once for each binary digit of the exponent
def pow (a e : Nat) : Nat :=
  if h : e = 0 then 1
  else
    let half := pow (mul a a) (e / 2)
    if e % 2 = 1 then mul a half else half
termination_by e
decreasing_by omega

-- The inverse, by Fermat's little theorem
def inv (a : Nat) : Nat := pow a (fieldOrder - 2)

-- A root, if there is one. The order is 3 modulo 4.
def sqrt (a : Nat) : Option Nat :=
  let r := pow a ((fieldOrder + 1) / 4)
  if mul r r = a % fieldOrder then some r else none

end Field

structure Point where
  x : Nat
  y : Nat
  z : Nat
deriving DecidableEq, Repr

namespace Point

open ChallengeLogin.Curve.Field

def neutral : Point := ⟨1, 1, 0⟩

def ofAffine (x y : Nat) : Point := ⟨x, y, 1⟩

-- The affine coordinates; the neutral point has none.
def toAffine (p : Point) : Option (Nat × Nat) :=
  if p.z = 0 then none
  else
    let i := inv p.z
    let i₂ := mul i i
    some (mul p.x i₂, mul p.y (mul i₂ i))

def double (p : Point) : Point :=
  if p.z = 0 || p.y = 0 then neutral
  else
    let y₂ := mul p.y p.y
    let s := mul 4 (mul p.x y₂)
    let m := mul 3 (mul p.x p.x)
    let x := sub (mul m m) (mul 2 s)
    let y := sub (mul m (sub s x)) (mul 8 (mul y₂ y₂))
    ⟨x, y, mul 2 (mul p.y p.z)⟩

def add (p q : Point) : Point :=
  if p.z = 0 then q
  else if q.z = 0 then p
  else
    let pz := mul p.z p.z
    let qz := mul q.z q.z
    let u₁ := mul p.x qz
    let u₂ := mul q.x pz
    let s₁ := mul p.y (mul qz q.z)
    let s₂ := mul q.y (mul pz p.z)
    if u₁ = u₂ then
      if s₁ = s₂ then double p else neutral
    else
      let h := sub u₂ u₁
      let r := sub s₂ s₁
      let h₂ := mul h h
      let h₃ := mul h₂ h
      let v := mul u₁ h₂
      let x := sub (sub (mul r r) h₃) (mul 2 v)
      let y := sub (mul r (sub v x)) (mul s₁ h₃)
      ⟨x, y, mul h (mul p.z q.z)⟩

def neg (p : Point) : Point := ⟨p.x, sub 0 p.y, p.z⟩

-- k • p, by doubling.
def smul (k : Nat) (p : Point) : Point :=
  if h : k = 0 then neutral
  else
    let rest := smul (k / 2) (double p)
    if k % 2 = 1 then add p rest else rest
termination_by k
decreasing_by omega

def generator : Point :=
  ofAffine 0x79be667ef9dcbbac55a06295ce870b07029bfcdb2dce28d959f2815b16f81798
    0x483ada7726a3c4655da4fbfc0e1108a8fd17b448a68554199c47d08ffb10d4b8

-- The point with this x coordinate and an even y, if x is a residue that has one.
def liftX (x : Nat) : Option Point :=
  if fieldOrder ≤ x then none
  else
    (sqrt (Field.add (mul x (mul x x)) 7)).map fun y =>
      ofAffine x (if y % 2 = 0 then y else fieldOrder - y)

end Point

end ChallengeLogin.Curve
