/-!
Binary floating point numbers of 64 bits, as natural numbers. Values are exact; the operations
round to the nearest number, a tie to the even one.
-/

namespace WordingAudit.Binary64

/-- The bit that says a number is negative. -/
def signBit : Nat := Nat.pow 2 63

/-- The bits of a number without its sign. -/
def magnitude (bits : Nat) : Nat := bits % signBit

def isNegative (bits : Nat) : Bool := signBit ≤ bits

/-- The significand and the exponent of 2: the value is `(parts b).1 * 2 ^ (parts b).2`. -/
def parts (bits : Nat) : Nat × Int :=
  let fraction : Nat := magnitude bits % Nat.pow 2 52
  let exponent : Nat := magnitude bits / Nat.pow 2 52
  if exponent = 0 then (fraction, -1074) else (fraction + Nat.pow 2 52, (exponent : Int) - 1075)

/-- A significand with an exponent of 2, as a fraction. -/
def fraction (significand : Nat) (exponent : Int) : Nat × Nat :=
  if 0 ≤ exponent then (significand * Nat.pow 2 exponent.toNat, 1)
  else (significand, Nat.pow 2 (-exponent).toNat)

/-- The whole number nearest to a quotient, a tie to the even one. -/
def divideEven (n d : Nat) : Nat :=
  let q := n / d
  let twice := 2 * (n % d)
  if d < twice || (twice = d && q % 2 = 1) then q + 1 else q

/-- The whole part of `n / d / 2 ^ e`. -/
def scaled (n d : Nat) (e : Int) : Nat :=
  if 0 ≤ e then n / (d * Nat.pow 2 e.toNat) else n * Nat.pow 2 (-e).toNat / d

/-- The exponent with which the significand of `n / d` has 53 bits, or the least exponent. -/
def exponentFor (n d : Nat) : Int :=
  let guess := max ((n.log2 : Int) - d.log2 - 52) (-1074)
  if Nat.pow 2 53 ≤ scaled n d guess then guess + 1
  else if scaled n d guess < Nat.pow 2 52 then max (guess - 1) (-1074)
  else guess

/-- The bits of the number nearest to `n / d`, unless it is too large. -/
def ofFraction? (n d : Nat) : Option Nat :=
  if n = 0 then some 0
  else
    let e := exponentFor n d
    let m :=
      if 0 ≤ e then divideEven n (d * Nat.pow 2 e.toNat)
      else divideEven (n * Nat.pow 2 (-e).toNat) d
    let bits :=
      if m < Nat.pow 2 52 then m else (e + 1075).toNat * Nat.pow 2 52 + (m - Nat.pow 2 52)
    if bits < 2047 * Nat.pow 2 52 then some bits else none

/-- The product of two numbers that are not negative, unless it is too large. -/
def mul? (a b : Nat) : Option Nat :=
  let (m, e) := parts a
  let (n, f) := parts b
  let (p, q) := fraction (m * n) (e + f)
  ofFraction? p q

/-- The quotient of two numbers that are not negative, the second not zero. -/
def div? (a b : Nat) : Option Nat :=
  let (m, e) := parts a
  let (n, f) := parts b
  let (p, q) := fraction m (e - f)
  ofFraction? p (q * n)

/-- The number nearest to a power of ten. -/
def powerOfTen? (n : Nat) : Option Nat := ofFraction? (Nat.pow 10 n) 1

/-- The number `value * 10 ^ exponent` for a number that is not negative, rounding after each
factor: powers of ten come in steps of at most 308. -/
def scaleByTen? (value : Nat) (exponent : Int) : Nat → Option Nat
  | 0 => some 0
  | fuel + 1 =>
    if value = 0 then some 0
    else if exponent.natAbs ≤ 308 then
      (powerOfTen? exponent.natAbs).bind fun p =>
        if 0 ≤ exponent then mul? value p else div? value p
    else if 0 ≤ exponent then none
    else
      ((powerOfTen? 308).bind fun p => div? value p).bind fun v =>
        scaleByTen? v (exponent + 308) fuel

/-- The number read from a whole significand and an exponent of ten, unless it is too large. -/
def ofDecimal? (significand : Nat) (exponent : Int) : Option Nat :=
  (ofFraction? significand 1).bind fun value => scaleByTen? value exponent 8

end WordingAudit.Binary64
