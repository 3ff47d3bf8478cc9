import WordingAudit.Json.Document
import WordingAudit.Json.Printer

/-!
Reading what was written. The text of a value without floating point numbers is read as that value,
whatever follows it, as long as that does not go on with a number.
-/

namespace WordingAudit

namespace Json

/-- The value has no numbers but whole ones that are not negative and have at most 64 bits. -/
inductive Whole : Json → Prop
  | null : Whole .null
  | bool (b : Bool) : Whole (.bool b)
  | int (n : Nat) (h : n ≤ Document.maxUnsigned) : Whole (.int n)
  | str (t : Text) : Whole (.str t)
  | arr {items : List Json} (h : ∀ v ∈ items, Whole v) : Whole (.arr items)
  | obj {members : List (Text × Json)} (h : ∀ m ∈ members, Whole m.2) : Whole (.obj members)

end Json

namespace Document

variable {fuel : Nat} {rest : Text}

theorem skip_of_not_blank {c : Char} (h : isBlank c = false) : skip (c :: rest) = c :: rest := by
  rw [skip, List.dropWhile_cons_of_neg (by simp [h])]

/-! ### Texts -/

theorem codeUnit?_fourDigits {n : Nat} (h : n < 32) :
    ∃ a b c d, Json.fourDigits n = [a, b, c, d] ∧ codeUnit? a b c d = some n := by
  have hall : ∀ n < 32,
      Json.fourDigits n = ['0', '0', Nat.digitChar (n / 16), Nat.digitChar (n % 16)] ∧
        codeUnit? '0' '0' (Nat.digitChar (n / 16)) (Nat.digitChar (n % 16)) = some n := by decide
  exact ⟨_, _, _, _, hall n h⟩

theorem readUnits?_shortEscape {c plain : Char} (hc : c ≠ 'u') (h : shortEscape? c = some plain) :
    readUnits? (fuel + 1) ('\\' :: c :: rest) =
      (readUnits? fuel rest).map fun p => (.inr plain :: p.1, p.2) := by
  rw [readUnits?]
  · rw [h]
    cases readUnits? fuel rest <;> rfl
  · exact fun _ _ _ _ _ heq _ => hc heq

theorem pair?_inl {unit : Nat} (h : unit < 0xD800) (units : List (Nat ⊕ Char)) :
    pair? (.inl unit :: units) = (pair? units).map (Char.ofNat unit :: ·) := by
  rw [pair?.eq_def]
  exact if_pos (.inl h)

/-- A character is read as one code unit or one plain character, and that stands for it. -/
theorem readUnits?_encodeChar (c : Char) : ∃ unit : Nat ⊕ Char,
    (∀ fuel rest, readUnits? (fuel + 1) (Json.encodeChar c ++ rest) =
      (readUnits? fuel rest).map fun p => (unit :: p.1, p.2)) ∧
    ∀ units, pair? (unit :: units) = (pair? units).map (c :: ·) := by
  unfold Json.encodeChar
  split
  · exact ⟨_, fun _ _ => readUnits?_shortEscape (by decide) rfl, fun _ => rfl⟩
  · exact ⟨_, fun _ _ => readUnits?_shortEscape (by decide) rfl, fun _ => rfl⟩
  · exact ⟨_, fun _ _ => readUnits?_shortEscape (by decide) rfl, fun _ => rfl⟩
  · exact ⟨_, fun _ _ => readUnits?_shortEscape (by decide) rfl, fun _ => rfl⟩
  · exact ⟨_, fun _ _ => readUnits?_shortEscape (by decide) rfl, fun _ => rfl⟩
  · exact ⟨_, fun _ _ => readUnits?_shortEscape (by decide) rfl, fun _ => rfl⟩
  · exact ⟨_, fun _ _ => readUnits?_shortEscape (by decide) rfl, fun _ => rfl⟩
  · rename_i hquote hbackslash _ _ _ _ _
    by_cases hcontrol : c.toNat < 32
    · obtain ⟨d₁, d₂, d₃, d₄, hdigits, hunit⟩ := codeUnit?_fourDigits hcontrol
      refine ⟨.inl c.toNat, fun fuel rest => ?_, fun units => ?_⟩
      · rw [if_pos hcontrol, hdigits]
        simp only [List.cons_append, List.nil_append]
        rw [readUnits?, hunit]
        cases readUnits? fuel rest <;> rfl
      · rw [pair?_inl (by omega), Char.ofNat_toNat]
    · refine ⟨.inr c, fun fuel rest => ?_, fun _ => rfl⟩
      rw [if_neg hcontrol, List.singleton_append, readUnits?, if_neg hcontrol]
      · exact hquote
      · exact fun _ _ _ _ _ heq _ => hbackslash heq
      · exact fun _ _ heq _ => hbackslash heq

theorem readUnits?_text (t : Text) {fuel : Nat} (h : t.length < fuel) (rest : Text) :
    ∃ units, readUnits? fuel (t.flatMap Json.encodeChar ++ '"' :: rest) = some (units, rest) ∧
      pair? units = some t := by
  induction t generalizing fuel with
  | nil =>
      obtain ⟨fuel, rfl⟩ := Nat.exists_eq_succ_of_ne_zero (Nat.ne_of_gt h)
      exact ⟨[], rfl, rfl⟩
  | cons c t ih =>
      obtain ⟨fuel, rfl⟩ := Nat.exists_eq_succ_of_ne_zero (Nat.ne_of_gt (Nat.zero_lt_of_lt h))
      obtain ⟨units, hread, hpair⟩ := ih (Nat.lt_of_succ_lt_succ h)
      obtain ⟨unit, hchar, hunit⟩ := readUnits?_encodeChar c
      refine ⟨unit :: units, ?_, ?_⟩
      · rw [List.flatMap_cons, List.append_assoc, hchar, hread]
        rfl
      · rw [hunit, hpair]
        rfl

theorem length_le_flatMap_encodeChar (t : Text) :
    t.length ≤ (t.flatMap Json.encodeChar).length := by
  induction t with
  | nil => exact Nat.le_refl 0
  | cons c t ih =>
      have hc : 0 < (Json.encodeChar c).length := by
        unfold Json.encodeChar
        split
        any_goals exact Nat.succ_pos _
        split <;> exact Nat.succ_pos _
      rw [List.flatMap_cons, List.length_append, List.length_cons]
      omega

/-- A text is read to its closing quote. -/
theorem readString?_text (t rest : Text) :
    readString? (t.flatMap Json.encodeChar ++ '"' :: rest) = some (some t, rest) := by
  have hlength := length_le_flatMap_encodeChar t
  have hfuel : t.length < (t.flatMap Json.encodeChar ++ '"' :: rest).length + 1 := by
    rw [List.length_append]
    omega
  obtain ⟨units, hread, hpair⟩ := readUnits?_text t hfuel rest
  rw [readString?, hread, ← hpair]
  rfl

/-! ### Numbers -/

/-- A text does not go on with a number. -/
def EndsNumber (t : Text) : Prop :=
  ∀ c ∈ t.head?, c.isDigit = false ∧ c ≠ '.' ∧ c ≠ 'e' ∧ c ≠ 'E'

theorem le_ofDigitChars (digits : Text) (significand : Nat) :
    significand ≤ Nat.ofDigitChars 10 digits significand := by
  induction digits generalizing significand with
  | nil => exact Nat.le_refl significand
  | cons c rest ih =>
      rw [Nat.ofDigitChars_cons]
      have hrest := ih (10 * significand + (c.toNat - '0'.toNat))
      omega

theorem takeDigits_of_endsNumber (h : EndsNumber rest) (significand : Nat) :
    takeDigits significand rest = (significand, 0, rest) := by
  cases rest with
  | nil => rfl
  | cons c rest =>
      obtain ⟨hdigit, -⟩ := h c rfl
      simp [takeDigits, hdigit]

/-- All digits of a number that fits are taken. -/
theorem takeDigits_append {digits : Text} {significand : Nat}
    (hdigits : ∀ c ∈ digits, c.isDigit = true)
    (hfits : Nat.ofDigitChars 10 digits significand ≤ maxUnsigned) (h : EndsNumber rest) :
    takeDigits significand (digits ++ rest) =
      (Nat.ofDigitChars 10 digits significand, digits.length, rest) := by
  induction digits generalizing significand with
  | nil => exact takeDigits_of_endsNumber h significand
  | cons c digits ih =>
      obtain ⟨hc, hrest⟩ := List.forall_mem_cons.mp hdigits
      rw [Nat.ofDigitChars_cons] at hfits ⊢
      have hnext : 10 * significand + (c.toNat - 48) ≤ maxUnsigned :=
        Nat.le_trans (le_ofDigitChars digits _) hfits
      have htake : takeDigits (10 * significand + (c.toNat - 48)) (digits ++ rest) = _ :=
        ih hrest hfits
      rw [List.cons_append, takeDigits, if_pos (by simp [hc, hnext]), htake]
      rfl

theorem countDigits_of_endsNumber (h : EndsNumber rest) : countDigits rest = (0, rest) := by
  cases rest with
  | nil => rfl
  | cons c rest =>
      obtain ⟨hdigit, -⟩ := h c rfl
      rw [countDigits, List.dropWhile_cons_of_neg (by simp [hdigit]), Nat.sub_self]

/-- Only zero is written with a zero first. -/
theorem eq_zero_of_ofNat {n : Nat} {rest : Text} (h : Text.ofNat n = '0' :: rest) : n = 0 := by
  induction n using Nat.strongRecOn generalizing rest with
  | ind n ih =>
      rw [Text.ofNat, Nat.toDigits_eq_if (by decide)] at h
      split at h
      · exact Nat.digitChar_eq_zero.mp (List.cons.inj h).1
      · rename_i hten
        cases hfront : Text.ofNat (n / 10) with
        | nil => exact absurd hfront Nat.toDigits_ne_nil
        | cons c front =>
            rw [Text.ofNat] at hfront
            rw [hfront, List.cons_append] at h
            obtain ⟨rfl, -⟩ := List.cons.inj h
            have hzero := ih (n / 10) (by omega) hfront
            omega

/-- The digits of a number that fits are read as that number. -/
theorem readNumber_ofNat {n : Nat} (hn : n ≤ maxUnsigned) (h : EndsNumber rest) :
    readNumber false (Text.ofNat n ++ rest) = (int n, rest) := by
  have hdigits : ∀ c ∈ Text.ofNat n, c.isDigit = true :=
    fun c hc => Nat.isDigit_of_mem_toDigits (by decide) (Nat.le_refl 10) hc
  have hvalue : Nat.ofDigitChars 10 (Text.ofNat n) 0 = n := Nat.ofDigitChars_ten_toDigits
  have htake := takeDigits_append hdigits (hvalue.symm ▸ hn) h
  rw [hvalue] at htake
  cases hfirst : Text.ofNat n with
  | nil => exact absurd hfirst Nat.toDigits_ne_nil
  | cons c digits =>
      have hzero : ¬ (c = '0' && 1 < (c :: digits).length + 0) = true := by
        intro hboth
        rw [Bool.and_eq_true, decide_eq_true_eq, decide_eq_true_eq] at hboth
        obtain ⟨rfl, hlong⟩ := hboth
        obtain rfl := eq_zero_of_ofNat hfirst
        rw [← hfirst] at hlong
        exact absurd hlong (by decide)
      rw [hfirst] at hdigits htake
      have hc := hdigits c List.mem_cons_self
      rw [List.cons_append] at htake ⊢
      rw [readNumber]
      simp only [hc, htake, countDigits_of_endsNumber h, hzero]
      rw [if_neg (by decide), if_neg Bool.false_ne_true]
      split
      · exact absurd rfl (h '.' rfl).2.1
      · exact absurd rfl (h 'e' rfl).2.2.1
      · exact absurd rfl (h 'E' rfl).2.2.2
      · rfl

/-! ### Values -/

/-- A text begins with a character that is no blank and does not close an array. -/
def Opens (t : Text) : Prop := ∃ c t', t = c :: t' ∧ isBlank c = false ∧ c ≠ ']'

theorem isBlank_of_isDigit {c : Char} (h : c.isDigit = true) : isBlank c = false := by
  have hne : ∀ d : Char, d.isDigit = false → c ≠ d := by
    rintro d hd rfl
    rw [h] at hd
    cases hd
  simp [isBlank, hne]

theorem exists_digit_ofNat (n : Nat) : ∃ c t, Text.ofNat n = c :: t ∧ c.isDigit = true := by
  cases hfirst : Text.ofNat n with
  | nil => exact absurd hfirst Nat.toDigits_ne_nil
  | cons c t =>
      have hmem : c ∈ Text.ofNat n := hfirst ▸ List.mem_cons_self
      exact ⟨c, t, rfl, Nat.isDigit_of_mem_toDigits (by decide) (Nat.le_refl 10) hmem⟩

theorem render_natCast (n : Nat) : (Json.int n).render = Text.ofNat n := by
  rw [Json.render, Json.renderInt, if_neg (by omega), Int.natAbs_natCast]

theorem Opens.append {t : Text} (h : Opens t) (t' : Text) : Opens (t ++ t') := by
  obtain ⟨c, rest, rfl, hc⟩ := h
  exact ⟨c, rest ++ t', rfl, hc⟩

theorem opens_render {v : Json} (h : v.Whole) : Opens v.render := by
  cases h with
  | null => exact ⟨'n', _, rfl, rfl, by decide⟩
  | bool b => cases b with
    | true => exact ⟨'t', _, rfl, rfl, by decide⟩
    | false => exact ⟨'f', _, rfl, rfl, by decide⟩
  | int n =>
      obtain ⟨c, t, hfirst, hc⟩ := exists_digit_ofNat n
      refine ⟨c, t, (render_natCast n).trans hfirst, isBlank_of_isDigit hc, ?_⟩
      rintro rfl
      cases hc
  | str t => exact ⟨'"', _, rfl, rfl, by decide⟩
  | arr => exact ⟨'[', _, rfl, rfl, by decide⟩
  | obj => exact ⟨'\x7b', _, rfl, rfl, by decide⟩

theorem readValue_digit {c : Char} {t : Text} (h : c.isDigit = true) :
    readValue (fuel + 1) (c :: t) = readNumber false (c :: t) := by
  rw [readValue, skip_of_not_blank (isBlank_of_isDigit h)]
  split
  case h_1 heq => cases heq
  case h_9 heq =>
      cases heq
      exact if_pos h
  all_goals
    rename_i heq
    cases heq
    cases h

/-- What a value is read as when its text is followed by another. -/
def ReadsBack (v : Json) : Prop :=
  ∀ fuel rest, v.render.length ≤ fuel → EndsNumber rest →
    readValue fuel (v.render ++ rest) = (ofJson v, rest)

theorem renderText_append (t rest : Text) :
    Json.renderText t ++ rest = '"' :: (t.flatMap Json.encodeChar ++ '"' :: rest) := by
  simp [Json.renderText]

theorem readsBack_str (t : Text) : ReadsBack (.str t) := by
  intro fuel rest hfuel _
  cases fuel with
  | zero => simp [Json.render, Json.renderText] at hfuel
  | succ fuel =>
      rw [Json.render, renderText_append, readValue, skip_of_not_blank rfl]
      simp only [readString?_text]
      rfl

theorem readsBack_int {n : Nat} (hn : n ≤ maxUnsigned) : ReadsBack (.int n) := by
  intro fuel rest hfuel hrest
  rw [render_natCast] at hfuel ⊢
  have hnumber := readNumber_ofNat hn hrest
  obtain ⟨c, t, hfirst, hc⟩ := exists_digit_ofNat n
  rw [hfirst] at hfuel hnumber ⊢
  cases fuel with
  | zero => cases hfuel
  | succ fuel => exact (readValue_digit hc).trans hnumber

theorem endsNumber_cons (c : Char) (t : Text)
    (h : c.isDigit = false ∧ c ≠ '.' ∧ c ≠ 'e' ∧ c ≠ 'E') : EndsNumber (c :: t) := by
  rintro _ ⟨⟩
  exact h

theorem renderItems_cons_cons (v w : Json) (items : List Json) :
    Json.renderItems (v :: w :: items) = v.render ++ ',' :: Json.renderItems (w :: items) := by
  rw [Json.renderItems, List.append_assoc]
  · rfl
  · exact List.cons_ne_nil w items

/-- Items are read up to the bracket after the last one. -/
theorem readItems_renderItems {items : List Json} (hitems : ∀ v ∈ items, ReadsBack v)
    (hne : items ≠ []) {fuel : Nat} (hfuel : (Json.renderItems items).length < fuel) (rest : Text) :
    readItems fuel (Json.renderItems items ++ ']' :: rest) = (ofItems items, true, rest) := by
  induction items generalizing fuel with
  | nil => exact absurd rfl hne
  | cons v items ih =>
      obtain ⟨hv, hitems⟩ := List.forall_mem_cons.mp hitems
      obtain ⟨fuel, rfl⟩ := Nat.exists_eq_succ_of_ne_zero (Nat.ne_of_gt (Nat.zero_lt_of_lt hfuel))
      cases items with
      | nil =>
          rw [Json.renderItems] at hfuel ⊢
          rw [readItems, hv fuel _ (by omega) (endsNumber_cons ']' rest (by decide))]
          rfl
      | cons w items =>
          rw [renderItems_cons_cons, List.length_append, List.length_cons] at hfuel
          rw [renderItems_cons_cons, List.append_assoc, List.cons_append, readItems,
            hv fuel _ (by omega) (endsNumber_cons ',' _ (by decide))]
          have hrest : readItems fuel (Json.renderItems (w :: items) ++ ']' :: rest) = _ :=
            ih hitems (List.cons_ne_nil w items) (by omega)
          simp only [skip_of_not_blank (show isBlank ',' = false from rfl), hrest]
          rfl

theorem readValue_items {t t' : Text} {items : List Document} {complete : Bool} (h : Opens t)
    (hitems : readItems fuel t = (items, complete, t')) :
    readValue (fuel + 1) ('[' :: t) = (arr items complete, t') := by
  obtain ⟨c, rest, rfl, hblank, hclose⟩ := h
  rw [readValue, skip_of_not_blank rfl]
  simp only [skip_of_not_blank hblank]
  split
  · rename_i heq
    exact absurd (List.cons.inj heq).1 hclose
  · rw [hitems]

theorem readsBack_arr {items : List Json} (hitems : ∀ v ∈ items, v.Whole ∧ ReadsBack v) :
    ReadsBack (.arr items) := by
  intro fuel rest hfuel _
  have hrender : (Json.arr items).render ++ rest =
      '[' :: (Json.renderItems items ++ ']' :: rest) := by simp [Json.render]
  have hlength : (Json.arr items).render.length = (Json.renderItems items).length + 2 := by
    simp [Json.render]
  obtain ⟨fuel, rfl⟩ := Nat.exists_eq_succ_of_ne_zero (n := fuel) (by omega)
  rw [hrender]
  cases items with
  | nil => rfl
  | cons v items =>
      have hopens := opens_render (hitems v List.mem_cons_self).1
      refine readValue_items ?_ (readItems_renderItems (fun v hv => (hitems v hv).2)
        (List.cons_ne_nil v items) (by omega) rest)
      cases items with
      | nil => exact hopens.append _
      | cons w items =>
          rw [renderItems_cons_cons, List.append_assoc]
          exact hopens.append _

theorem renderMembers_cons_cons (m n : Text × Json) (members : List (Text × Json)) :
    Json.renderMembers (m :: n :: members) =
      Json.renderText m.1 ++ ':' :: (m.2.render ++ ',' :: Json.renderMembers (n :: members)) := by
  rw [Json.renderMembers]
  · simp
  · exact List.cons_ne_nil n members

theorem readMembers_last {key : Text} {v : Json} (hv : ReadsBack v)
    (hfuel : v.render.length ≤ fuel) (rest : Text) :
    readMembers (fuel + 1) (Json.renderText key ++ ':' :: (v.render ++ '\x7d' :: rest)) =
      ([(some key, ofJson v)], true, rest) := by
  have hvalue := hv fuel ('\x7d' :: rest) hfuel (endsNumber_cons '\x7d' rest (by decide))
  rw [renderText_append, readMembers, skip_of_not_blank rfl]
  simp only [readString?_text, skip_of_not_blank (show isBlank ':' = false from rfl),
    skip_of_not_blank (show isBlank '\x7d' = false from rfl), hvalue]

theorem readMembers_more {key : Text} {v : Json} {members : List (Option Text × Document)}
    {complete : Bool} {t : Text} (hv : ReadsBack v) (hfuel : v.render.length ≤ fuel)
    (hmembers : readMembers fuel rest = (members, complete, t)) :
    readMembers (fuel + 1) (Json.renderText key ++ ':' :: (v.render ++ ',' :: rest)) =
      ((some key, ofJson v) :: members, complete, t) := by
  have hvalue := hv fuel (',' :: rest) hfuel (endsNumber_cons ',' rest (by decide))
  rw [renderText_append, readMembers, skip_of_not_blank rfl]
  simp only [readString?_text, skip_of_not_blank (show isBlank ':' = false from rfl),
    skip_of_not_blank (show isBlank ',' = false from rfl), hvalue, hmembers]

/-- Members are read up to the brace after the last one. -/
theorem readMembers_renderMembers {members : List (Text × Json)}
    (hmembers : ∀ m ∈ members, ReadsBack m.2) (hne : members ≠ []) {fuel : Nat}
    (hfuel : (Json.renderMembers members).length < fuel) (rest : Text) :
    readMembers fuel (Json.renderMembers members ++ '\x7d' :: rest) =
      (ofMembers members, true, rest) := by
  induction members generalizing fuel with
  | nil => exact absurd rfl hne
  | cons m members ih =>
      obtain ⟨hv, hmembers⟩ := List.forall_mem_cons.mp hmembers
      obtain ⟨fuel, rfl⟩ := Nat.exists_eq_succ_of_ne_zero (Nat.ne_of_gt (Nat.zero_lt_of_lt hfuel))
      cases members with
      | nil =>
          have hrender : Json.renderMembers [m] ++ '\x7d' :: rest =
              Json.renderText m.1 ++ ':' :: (m.2.render ++ '\x7d' :: rest) := by
            simp [Json.renderMembers]
          rw [Json.renderMembers, List.length_append] at hfuel
          rw [hrender]
          exact readMembers_last hv (by omega) rest
      | cons n members =>
          have hrender : Json.renderMembers (m :: n :: members) ++ '\x7d' :: rest =
              Json.renderText m.1 ++ ':' :: (m.2.render ++
                ',' :: (Json.renderMembers (n :: members) ++ '\x7d' :: rest)) := by
            simp [renderMembers_cons_cons]
          simp only [renderMembers_cons_cons, List.length_append, List.length_cons] at hfuel
          rw [hrender]
          exact readMembers_more hv (by omega)
            (ih hmembers (List.cons_ne_nil n members) (by omega))

theorem readValue_members {t t' : Text} {members : List (Option Text × Document)}
    {complete : Bool} (h : readMembers fuel ('"' :: t) = (members, complete, t')) :
    readValue (fuel + 1) ('\x7b' :: '"' :: t) = (obj members complete, t') := by
  have hvalue : readValue (fuel + 1) ('\x7b' :: '"' :: t) =
      (obj (readMembers fuel ('"' :: t)).1 (readMembers fuel ('"' :: t)).2.1,
        (readMembers fuel ('"' :: t)).2.2) := rfl
  rw [hvalue, h]

theorem readsBack_obj {members : List (Text × Json)} (hmembers : ∀ m ∈ members, ReadsBack m.2) :
    ReadsBack (.obj members) := by
  intro fuel rest hfuel _
  have hrender : (Json.obj members).render ++ rest =
      '\x7b' :: (Json.renderMembers members ++ '\x7d' :: rest) := by simp [Json.render]
  have hlength : (Json.obj members).render.length = (Json.renderMembers members).length + 2 := by
    simp [Json.render]
  obtain ⟨fuel, rfl⟩ := Nat.exists_eq_succ_of_ne_zero (n := fuel) (by omega)
  rw [hrender]
  cases members with
  | nil => rfl
  | cons m members =>
      obtain ⟨t, ht⟩ : ∃ t, Json.renderMembers (m :: members) = '"' :: t := by
        cases members with
        | nil => exact ⟨_, rfl⟩
        | cons n members => exact ⟨_, rfl⟩
      have hread : readMembers fuel (Json.renderMembers (m :: members) ++ '\x7d' :: rest) = _ :=
        readMembers_renderMembers hmembers (List.cons_ne_nil m members) (by omega) rest
      rw [ht, List.cons_append] at hread ⊢
      exact readValue_members hread

theorem readsBack_of_whole {v : Json} (h : v.Whole) : ReadsBack v := by
  induction h with
  | null =>
      intro fuel rest hfuel _
      obtain ⟨fuel, rfl⟩ := Nat.exists_eq_succ_of_ne_zero (n := fuel) (by rintro rfl; cases hfuel)
      rfl
  | bool b =>
      intro fuel rest hfuel _
      obtain ⟨fuel, rfl⟩ := Nat.exists_eq_succ_of_ne_zero (n := fuel)
        (by rintro rfl; cases b <;> cases hfuel)
      cases b <;> rfl
  | int n hn => exact readsBack_int hn
  | str t => exact readsBack_str t
  | arr h ih => exact readsBack_arr fun v hv => ⟨h v hv, ih v hv⟩
  | obj h ih => exact readsBack_obj ih

/-- A value is read from its text, without anything left. -/
theorem read_render {v : Json} (h : v.Whole) : Document.read v.render = (ofJson v, true) := by
  have hread := readsBack_of_whole h (2 * v.render.length + 2) [] (by omega) (fun _ h => nomatch h)
  rw [List.append_nil] at hread
  rw [Document.read, hread]
  rfl

end Document

end WordingAudit
