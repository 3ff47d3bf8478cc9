import WordingAudit.Json.Document

/-!
The numbers in a document that is read. A whole number has at most 64 bits, wherever it stands:
larger ones are read as floating point numbers.
-/

namespace WordingAudit.Document

/-- No whole number in the document is too large. -/
inductive Sized : Document → Prop
  | null : Sized .null
  | bool (b : Bool) : Sized (.bool b)
  | int (n : Int) (h : n.toNat ≤ maxUnsigned) : Sized (.int n)
  | float (bits : Nat) : Sized (.float bits)
  | str (t : Text) : Sized (.str t)
  | unusable : Sized .unusable
  | broken : Sized .broken
  | arr {items : List Document} (complete : Bool) (h : ∀ d ∈ items, Sized d) :
      Sized (.arr items complete)
  | obj {members : List (Option Text × Document)} (complete : Bool) (h : ∀ m ∈ members, Sized m.2) :
      Sized (.obj members complete)

/-! ### Numbers -/

theorem takeDigits_le {significand : Nat} (h : significand ≤ maxUnsigned) (t : Text) :
    (takeDigits significand t).1 ≤ maxUnsigned := by
  induction t generalizing significand with
  | nil => exact h
  | cons c rest ih =>
      rw [takeDigits]
      split
      · rename_i hfits
        rw [Bool.and_eq_true, decide_eq_true_eq] at hfits
        exact ih hfits.2
      · exact h

theorem sized_withSign (negative : Bool) (bits : Option Nat) : (withSign negative bits).Sized := by
  cases bits with
  | none => exact .unusable
  | some bits => exact .float _

theorem sized_readExponent (negative : Bool) (significand : Nat) (exponent : Int) (t : Text) :
    (readExponent negative significand exponent t).1.Sized := by
  unfold readExponent
  -- The sign does not matter.
  split
  all_goals
    dsimp only
    split
    · exact .broken
    · split
      · split
        · exact .unusable
        · exact sized_withSign negative (some 0)
      · exact sized_withSign _ _

theorem sized_readScale (negative : Bool) (significand : Nat) (exponent : Int) (t : Text) :
    (readScale negative significand exponent t).1.Sized := by
  unfold readScale
  split
  · exact sized_readExponent _ _ _ _
  · exact sized_readExponent _ _ _ _
  · exact sized_withSign _ _

theorem sized_readPlaces (negative : Bool) (significand : Nat) (exponent : Int) (t : Text) :
    (readPlaces negative significand exponent t).1.Sized := by
  unfold readPlaces
  dsimp only
  split
  · exact .broken
  · exact sized_readScale _ _ _ _

theorem sized_readNumber (negative : Bool) (t : Text) : (readNumber negative t).1.Sized := by
  unfold readNumber
  split
  · exact .broken
  · rename_i c rest
    have hvalue := takeDigits_le (Nat.zero_le maxUnsigned) (c :: rest)
    dsimp only
    split
    · exact .broken
    · split
      · exact .broken
      · split
        · exact sized_readPlaces _ _ _ _
        · exact sized_readExponent _ _ _ _
        · exact sized_readExponent _ _ _ _
        · split
          · exact sized_withSign _ _
          · split
            · exact .int _ hvalue
            · split
              · exact sized_withSign _ _
              · refine .int _ ?_
                omega

/-! ### Values -/

theorem sized_readWord {word : Text} {value : Document} (h : value.Sized) (t : Text) :
    (readWord word value t).1.Sized := by
  rw [readWord]
  split
  · exact h
  · exact .broken

theorem sized_readValue {fuel : Nat} (hitems : ∀ t, ∀ d ∈ (readItems fuel t).1, d.Sized)
    (hmembers : ∀ t, ∀ m ∈ (readMembers fuel t).1, m.2.Sized) (t : Text) :
    (readValue (fuel + 1) t).1.Sized := by
  rw [readValue]
  split
  · exact .broken
  · split
    · exact .broken
    · exact .unusable
    · exact .str _
  · split
    · exact .arr _ nofun
    · exact .arr _ (hitems _)
  · split
    · exact .obj _ nofun
    · exact .obj _ (hmembers _)
  · exact sized_readNumber _ _
  · exact sized_readWord .null _
  · exact sized_readWord (.bool true) _
  · exact sized_readWord (.bool false) _
  · split
    · exact sized_readNumber _ _
    · exact .broken

theorem sized_readItems {fuel : Nat} (hvalue : ∀ t, (readValue fuel t).1.Sized)
    (hitems : ∀ t, ∀ d ∈ (readItems fuel t).1, d.Sized) (t : Text) :
    ∀ d ∈ (readItems (fuel + 1) t).1, d.Sized := by
  rw [readItems]
  dsimp only
  split
  · exact List.forall_mem_cons.mpr ⟨hvalue _, hitems _⟩
  · exact List.forall_mem_singleton.mpr (hvalue _)
  · exact List.forall_mem_singleton.mpr (hvalue _)

theorem sized_readMembers {fuel : Nat} (hvalue : ∀ t, (readValue fuel t).1.Sized)
    (hmembers : ∀ t, ∀ m ∈ (readMembers fuel t).1, m.2.Sized) (t : Text) :
    ∀ m ∈ (readMembers (fuel + 1) t).1, m.2.Sized := by
  rw [readMembers]
  split
  · split
    · nofun
    · split
      · dsimp only
        split
        · exact List.forall_mem_cons.mpr ⟨hvalue _, hmembers _⟩
        · exact List.forall_mem_singleton.mpr (hvalue _)
        · exact List.forall_mem_singleton.mpr (hvalue _)
      · exact List.forall_mem_singleton.mpr .broken
  · nofun

/-- The induction is on the fuel, for values, items and members at once. -/
theorem sized_of_fuel (fuel : Nat) : (∀ t, (readValue fuel t).1.Sized) ∧
    (∀ t, ∀ d ∈ (readItems fuel t).1, d.Sized) ∧
    ∀ t, ∀ m ∈ (readMembers fuel t).1, m.2.Sized := by
  induction fuel with
  | zero => exact ⟨fun _ => .broken, fun _ => nofun, fun _ => nofun⟩
  | succ fuel ih =>
      obtain ⟨hvalue, hitems, hmembers⟩ := ih
      exact ⟨sized_readValue hitems hmembers, sized_readItems hvalue hitems,
        sized_readMembers hvalue hmembers⟩

/-- What is read from a text has no whole number that is too large. -/
theorem sized_read (t : Text) : (Document.read t).1.Sized :=
  (sized_of_fuel (2 * t.length + 2)).1 t

end WordingAudit.Document
