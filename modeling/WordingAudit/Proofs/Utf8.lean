import Mathlib.Algebra.Group.Nat.Defs
import WordingAudit.Text.Utf8

/-!
Octets that are a text give it back, whether gaps are refused or filled: there are none.
-/

namespace WordingAudit.Utf8

theorem toNat_ofNat_of_lt {n : Nat} (h : n < 256) : (UInt8.ofNat n).toNat = n := by
  rw [UInt8.toNat_ofNat']
  exact Nat.mod_eq_of_lt h

/-- An octet that is owed and lies within its bounds adds six bits. -/
theorem readTail_cons {low high value owed bits : Nat} {rest : List UInt8} (hbits : bits < 64)
    (hlow : low ≤ 0x80 + bits) (hhigh : 0x80 + bits ≤ high) :
    readTail low high value (owed + 1) (UInt8.ofNat (0x80 + bits) :: rest) =
      readTail 0x80 0xBF (64 * value + bits) owed rest := by
  have hoctet : (UInt8.ofNat (0x80 + bits)).toNat = 0x80 + bits := toNat_ofNat_of_lt (by omega)
  rw [readTail, hoctet, if_pos ⟨hlow, hhigh⟩, Nat.add_sub_cancel_left]

/-- The bounds of the octet after the first leave out what is too long for its character, and the
numbers that are no characters. -/
theorem lead?_two {n : Nat} (h : 0x80 ≤ n) (h' : n < 0x800) :
    lead? (0xC0 + n / 64) = some (1, 0x80, 0xBF, n / 64) := by
  rw [lead?, if_neg (by omega), if_pos (by omega), Nat.add_sub_cancel_left]

theorem lead?_three {n : Nat} (h : 0x800 ≤ n) (h' : n < 0x10000)
    (hchar : n < 0xD800 ∨ 0xDFFF < n) : ∃ low high,
      lead? (0xE0 + n / 64 ^ 2) = some (2, low, high, n / 64 ^ 2) ∧
        low ≤ 0x80 + n / 64 % 64 ∧ 0x80 + n / 64 % 64 ≤ high := by
  rw [lead?, if_neg (by omega), if_neg (by omega)]
  by_cases hfirst : 0xE0 + n / 64 ^ 2 = 0xE0
  · rw [if_pos hfirst]
    exact ⟨0xA0, 0xBF, by simp; omega, by omega, by omega⟩
  · rw [if_neg hfirst]
    by_cases hsurrogate : 0xE0 + n / 64 ^ 2 = 0xED
    · rw [if_pos hsurrogate]
      exact ⟨0x80, 0x9F, by simp; omega, by omega, by omega⟩
    · rw [if_neg hsurrogate, if_pos (by omega), Nat.add_sub_cancel_left]
      exact ⟨0x80, 0xBF, rfl, by omega, by omega⟩

theorem lead?_four {n : Nat} (h : 0x10000 ≤ n) (h' : n < 0x110000) : ∃ low high,
    lead? (0xF0 + n / 64 ^ 3) = some (3, low, high, n / 64 ^ 3) ∧
      low ≤ 0x80 + n / 64 ^ 2 % 64 ∧ 0x80 + n / 64 ^ 2 % 64 ≤ high := by
  rw [lead?, if_neg (by omega), if_neg (by omega), if_neg (by omega), if_neg (by omega),
    if_neg (by omega)]
  by_cases hfirst : 0xF0 + n / 64 ^ 3 = 0xF0
  · rw [if_pos hfirst]
    exact ⟨0x90, 0xBF, by simp; omega, by omega, by omega⟩
  · rw [if_neg hfirst]
    by_cases hlast : 0xF0 + n / 64 ^ 3 < 0xF4
    · rw [if_pos hlast, Nat.add_sub_cancel_left]
      exact ⟨0x80, 0xBF, rfl, by omega, by omega⟩
    · rw [if_neg hlast, if_pos (by omega)]
      exact ⟨0x80, 0x8F, by simp; omega, by omega, by omega⟩

theorem readTail_zero (low high value : Nat) (rest : List UInt8) :
    readTail low high value 0 rest = (some (Char.ofNat value), rest) := rfl

/-- A character has a first octet, and is read from it and the others. -/
theorem readChar_encodeChar (c : Char) : ∃ b tail, encodeChar c = b :: tail ∧
    ∀ rest, readChar b (tail ++ rest) = (some c, rest) := by
  have hvalid : c.toNat < 0xD800 ∨ 0xDFFF < c.toNat ∧ c.toNat < 0x110000 := c.valid
  have hvalue : Char.ofNat c.toNat = c := Char.ofNat_toNat c
  have hlead {b : Nat} {low high value owed : Nat} (hb : b < 256)
      (h : lead? b = some (owed, low, high, value)) (rest : List UInt8) :
      readChar (UInt8.ofNat b) rest = readTail low high value owed rest := by
    have hlong : ¬b < 0x80 := by
      intro hshort
      rw [lead?, if_pos (by omega)] at h
      cases h
    rw [readChar, toNat_ofNat_of_lt hb, if_neg hlong, h]
  rw [encodeChar]
  dsimp only [Nat.pow_eq]
  by_cases hone : c.toNat < 0x80
  · rw [if_pos hone]
    refine ⟨_, _, rfl, fun rest => ?_⟩
    rw [readChar, toNat_ofNat_of_lt (by omega), if_pos hone, hvalue]
    rfl
  · rw [if_neg hone]
    by_cases htwo : c.toNat < 0x800
    · rw [if_pos htwo]
      refine ⟨_, _, rfl, fun rest => ?_⟩
      have hsum : 64 * (c.toNat / 64) + c.toNat / 64 ^ 0 % 64 = c.toNat := by omega
      rw [hlead (by omega) (lead?_two (by omega) htwo), List.singleton_append,
        readTail_cons (by omega) (by omega) (by omega), readTail_zero, hsum, hvalue]
    · rw [if_neg htwo]
      by_cases hthree : c.toNat < 0x10000
      · rw [if_pos hthree]
        refine ⟨_, _, rfl, fun rest => ?_⟩
        obtain ⟨low, high, hfirst, hlow, hhigh⟩ :=
          lead?_three (by omega) hthree (hvalid.imp id And.left)
        have hsum : 64 * (64 * (c.toNat / 64 ^ 2) + c.toNat / 64 % 64) +
            c.toNat / 64 ^ 0 % 64 = c.toNat := by omega
        rw [hlead (by omega) hfirst, List.cons_append, List.singleton_append,
          readTail_cons (by omega) hlow hhigh,
          readTail_cons (by omega) (by omega) (by omega), readTail_zero, hsum, hvalue]
      · rw [if_neg hthree]
        refine ⟨_, _, rfl, fun rest => ?_⟩
        obtain ⟨low, high, hfirst, hlow, hhigh⟩ := lead?_four (n := c.toNat) (by omega) (by omega)
        have hsum : 64 * (64 * (64 * (c.toNat / 64 ^ 3) + c.toNat / 64 ^ 2 % 64) +
            c.toNat / 64 ^ 1 % 64) + c.toNat / 64 ^ 0 % 64 = c.toNat := by omega
        rw [hlead (by omega) hfirst, List.cons_append, List.cons_append, List.singleton_append,
          readTail_cons (by omega) hlow hhigh, readTail_cons (by omega) (by omega) (by omega),
          readTail_cons (by omega) (by omega) (by omega), readTail_zero, hsum, hvalue]

/-- The octets of a text are read as its characters, without a gap. -/
theorem readAll_encode {fuel : Nat} {t : Text} (h : (encode t).length ≤ fuel) :
    readAll fuel (encode t) = t.map some := by
  induction t generalizing fuel with
  | nil => cases fuel <;> rfl
  | cons c rest ih =>
      obtain ⟨b, tail, hencode, hread⟩ := readChar_encodeChar c
      have hall : encode (c :: rest) = b :: (tail ++ encode rest) := by
        rw [encode, List.flatMap_cons, hencode]
        rfl
      rw [hall] at h ⊢
      rw [List.length_cons, List.length_append] at h
      cases fuel with
      | zero => omega
      | succ fuel =>
          rw [readAll, hread]
          dsimp only
          rw [ih (by omega)]
          rfl

theorem decode?_encode (t : Text) : decode? (encode t) = some t := by
  rw [decode?, readAll_encode (Nat.le_refl _), List.mapM_map]
  exact List.mapM_pure.trans (congrArg some (List.map_id t))

theorem decodeLossy_encode (t : Text) : decodeLossy (encode t) = t := by
  rw [decodeLossy, readAll_encode (Nat.le_refl _), List.map_map]
  exact List.map_id t

end WordingAudit.Utf8
