import WordingAudit.Json.Binary64
import WordingAudit.Text

/-!
The text of a binary floating point number: the fewest digits that read back as the same number,
and of those the nearest.
-/

namespace WordingAudit.Binary64

/-- The fraction `significand * 2 ^ exponent` in units of `10 ^ place`. -/
def inUnits (significand : Nat) (exponent place : Int) : Nat × Nat :=
  let (n, d) := fraction significand exponent
  if 0 ≤ place then (n, d * Nat.pow 10 place.toNat) else (n * Nat.pow 10 (-place).toNat, d)

/-- A whole number of units of `10 ^ place` reads back as the same number. -/
def readsBack (bits : Nat) (place : Int) (k : Nat) : Bool :=
  let back :=
    if 0 ≤ place then ofFraction? (k * Nat.pow 10 place.toNat) 1
    else ofFraction? k (Nat.pow 10 (-place).toNat)
  back = some (magnitude bits)

/-- The whole number of units of `10 ^ place` that reads back as the same number: of the two next
to the value, the nearer one. -/
def digitsAt? (bits : Nat) (place : Int) : Option Nat :=
  let (m, e) := parts bits
  let (n, d) := inUnits m e place
  let nearest := divideEven n d
  let other := if nearest = n / d then nearest + 1 else n / d
  [nearest, other].find? (readsBack bits place)

/-- The place of the first digit: the largest power of ten not above the value. -/
def firstPlace (bits : Nat) : Int :=
  let (m, e) := parts bits
  let (n, d) := fraction m e
  let guess : Int := ((Nat.toDigits 10 n).length : Int) - (Nat.toDigits 10 d).length
  let (n', d') := inUnits m e guess
  if d' ≤ n' then guess else guess - 1

/-- The digits with which the number reads back and the place of the last one: the coarsest of
the places tried, from `place` on. -/
def shortestFrom (bits : Nat) (place : Int) : Nat → Nat × Int
  | 0 => ((digitsAt? bits place).getD 0, place)
  | more + 1 =>
    match digitsAt? bits place with
    | some k => (k, place)
    | none => shortestFrom bits (place - 1) more

/-- Digits without the zeros at their end, and how many those were. -/
def dropZeros (digits : Text) : Text × Nat :=
  let kept := (digits.reverse.dropWhile (· = '0')).reverse
  (kept, digits.length - kept.length)

/-- The decimal text of a number. Values from 0.0001 up to 10 ^ 16 are written with a point and a
digit on each side of it, others with an exponent that has a sign and two digits at least. -/
def toText (bits : Nat) : Text :=
  let sign : Text := if isNegative bits then ['-'] else []
  if magnitude bits = 0 then sign ++ Text.of "0.0"
  else
    let (k, place) := shortestFrom bits (firstPlace bits) 17
    let (digits, zeros) := dropZeros (Nat.toDigits 10 k)
    let point : Int := digits.length + (place + zeros)
    let exponent := point - 1
    if exponent < -4 || 16 ≤ exponent then
      let mantissa :=
        match digits with
        | [d] => [d]
        | d :: rest => d :: '.' :: rest
        | [] => []
      let size := Text.ofNat exponent.natAbs
      let size := if size.length < 2 then '0' :: size else size
      sign ++ mantissa ++ ['e', if exponent < 0 then '-' else '+'] ++ size
    else if point ≤ 0 then sign ++ Text.of "0." ++ List.replicate (-point).toNat '0' ++ digits
    else if digits.length ≤ point.toNat then
      sign ++ digits ++ List.replicate (point.toNat - digits.length) '0' ++ Text.of ".0"
    else sign ++ digits.take point.toNat ++ ['.'] ++ digits.drop point.toNat

end WordingAudit.Binary64
