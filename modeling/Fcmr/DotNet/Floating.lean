import Fcmr.DotNet.DecimalArithmetic

/-! Arithmetic of `System.Double` on finite numbers: the exact result, rounded to the
nearest double, a tie to the even one. -/
namespace Fcmr.DotNet

def scaledDiv (base n d : Nat) (e : Int) : Nat :=
  divEven (n * base ^ (-e).toNat) (d * base ^ e.toNat)

/-- The power of the base that the leading digit of `n / d` counts, from the powers that
those of `n` and `d` count. -/
def leadingPower (base n d : Nat) (log : Nat → Nat) : Int :=
  let e : Int := log n - log d
  if n * base ^ (-e).toNat < d * base ^ e.toNat then e - 1 else e

namespace Double

/-- The nearest double. From 1024 on the exponent is too large, which gives infinity. -/
def ofRat (q : ℚ) : Double :=
  let sign := if q < 0 then 2 ^ 63 else 0
  if q = 0 then ⟨0⟩
  else
    let n := q.num.natAbs
    let e := max (leadingPower 2 n q.den Nat.log2) (-1022)
    -- A significand that is rounded up to 2 ^ 53 carries into the exponent.
    let magnitude := (e + 1022).toNat * 2 ^ 52 + scaledDiv 2 n q.den (e - 52)
    ⟨UInt64.ofNat (sign + min magnitude (0x7FF * 2 ^ 52))⟩

def exponent (x : Double) : Nat := x.bits.toNat / 2 ^ 52 % 2 ^ 11
def fraction (x : Double) : Nat := x.bits.toNat % 2 ^ 52
def isNegative (x : Double) : Bool := 2 ^ 63 ≤ x.bits.toNat
def isNaN (x : Double) : Bool := x.exponent == 0x7FF && x.fraction != 0

def toRat (x : Double) : ℚ :=
  let significand := if x.exponent = 0 then x.fraction else 2 ^ 52 + x.fraction
  let e : Int := max x.exponent 1 - 1075
  (if x.isNegative then -1 else 1) * (significand * 2 ^ e.toNat : Nat) / (2 ^ (-e).toNat : Nat)

def add (left right : Double) : Double := ofRat (left.toRat + right.toRat)
def mul (left right : Double) : Double := ofRat (left.toRat * right.toRat)
def div (left right : Double) : Double := ofRat (left.toRat / right.toRat)

/-- Doubles in their order, infinities included. Both zeros are zero. -/
def order (x : Double) : Int :=
  if x.isNegative then -(x.bits.toNat % 2 ^ 63 : Nat) else x.bits.toNat

/-- `<`, which is false of what is not a number. -/
def lt (left right : Double) : Bool :=
  !left.isNaN && !right.isNaN && left.order < right.order

def min (left right : Double) : Double := if left.lt right then left else right

def clamp (x low high : Double) : Double :=
  if x.lt low then low else if high.lt x then high else x

def round (x : Double) (places : Nat) : Double :=
  let power := ofRat (10 ^ places : Nat)
  let scaled := (x.mul power).toRat
  let units : Int := divEven scaled.num.natAbs scaled.den
  div (ofRat (if scaled < 0 then -units else units)) power

end Double

example : ((Double.ofRat (1 / 10)).add (Double.ofRat (2 / 10))).bits = 0x3FD3333333333334 := by
  decide +kernel

end Fcmr.DotNet
