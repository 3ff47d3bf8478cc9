import WordingAudit.Text

/-!
Punycode: the characters of a host label that are not ASCII are written behind the others, as the
distances between them in digits of base 36.
-/

namespace WordingAudit.Punycode

/-- The digit of a value below 36. -/
def digit (n : Nat) : Char := if n < 26 then Char.ofNat (97 + n) else Char.ofNat (22 + n)

/-- The value from which on the digit at a position is not the last one. -/
def threshold (position bias : Nat) : Nat :=
  if position ≤ bias then 1 else if bias + 26 ≤ position then 26 else position - bias

theorem threshold_pos (position bias : Nat) : 0 < threshold position bias := by
  unfold threshold
  split
  · omega
  · split <;> omega

/-- A distance in digits from a position on. -/
def digits (bias position : Nat) (n : Nat) : Text :=
  let t := threshold position bias
  if t ≤ n then
    digit (t + (n - t) % (36 - t)) :: digits bias (position + 36) ((n - t) / (36 - t))
  else [digit n]
termination_by n
decreasing_by
  have := threshold_pos position bias
  exact Nat.lt_of_le_of_lt (Nat.div_le_self _ _) (by omega)

/-- Divides a distance by 35 until it is small, and counts 36 for each division. -/
def shrink (distance count : Nat) : Nat × Nat :=
  if 455 < distance then shrink (distance / 35) (count + 36) else (distance, count)
termination_by distance
decreasing_by exact Nat.div_lt_self (by omega) (by omega)

/-- The bias for the next distance. -/
def adapt (distance count : Nat) (first : Bool) : Nat :=
  let start := if first then distance / 700 else distance / 2
  let (rest, steps) := shrink (start + start / count) 0
  steps + 36 * rest / (rest + 38)

/-- Where the encoding of a label stands. -/
structure State where
  written : Text
  distance : Nat
  bias : Nat
  handled : Nat

/-- Goes over one character of the label while the characters of code `code` are written. -/
def step (basic code : Nat) (s : State) (c : Char) : State :=
  if c.toNat < code then { s with distance := s.distance + 1 }
  else if c.toNat = code then
    { written := s.written ++ digits s.bias 36 s.distance
      distance := 0
      bias := adapt s.distance (s.handled + 1) (s.handled = basic)
      handled := s.handled + 1 }
  else s

/-- Writes the characters of each code in turn. -/
def writeCodes (label : Text) (basic : Nat) (next : Nat) (s : State) : List Nat → State
  | [] => s
  | code :: rest =>
    let s := { s with distance := s.distance + (code - next) * (s.handled + 1) }
    let s := label.foldl (step basic code) s
    writeCodes label basic (code + 1) { s with distance := s.distance + 1 } rest

/-- The label in ASCII characters. -/
def encode (label : Text) : Text :=
  let basic := label.filter fun c => c.toNat < 128
  let codes := ((label.map Char.toNat).filter fun n => 128 ≤ n).mergeSort.eraseDups
  let start : State := ⟨if basic.isEmpty then [] else basic ++ ['-'], 0, 72, basic.length⟩
  (writeCodes label basic.length 128 start codes).written

end WordingAudit.Punycode
