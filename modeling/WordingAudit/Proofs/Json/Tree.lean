import Mathlib.Data.List.Induction
import Mathlib.Data.List.Nodup
import WordingAudit.Json.Document
import WordingAudit.Proofs.Lists

/-!
JSON values as trees. An array and an object are made of values, each under a segment of a path: a
key, or an index in decimal digits. In a value that was read from a text the keys of each object are
different, so that a path leads to one place.
-/

namespace WordingAudit.Json

variable {v x : Json} {c : Text × Json} {path : List Text}

/-- A value that is neither null nor made of other values. -/
def isScalar : Json → Bool
  | null => false
  | arr _ => false
  | obj _ => false
  | _ => true

/-- The values that a value is made of, each with its segment. -/
def children : Json → List (Text × Json)
  | arr items => items.zipIdx.map fun item => (Text.ofNat item.2, item.1)
  | obj members => members
  | _ => []

/-- What a path leads to. -/
def at? (v : Json) : List Text → Option Json
  | [] => some v
  | segment :: rest => (v.children.lookup segment).bind fun child => child.at? rest

/-- Scalars with their paths, as they stand under a segment. -/
def under (segment : Text) (scalars : List (List Text × Json)) : List (List Text × Json) :=
  scalars.map fun s => (segment :: s.1, s.2)

mutual

/-- The scalars in a value, depth first in the order of the document, each with its path. -/
def scalars : Json → List (List Text × Json)
  | null => []
  | arr items => itemScalars 0 items
  | obj members => memberScalars members
  | v => [([], v)]

def memberScalars : List (Text × Json) → List (List Text × Json)
  | [] => []
  | (key, v) :: rest => under key (scalars v) ++ memberScalars rest

def itemScalars (index : Nat) : List Json → List (List Text × Json)
  | [] => []
  | v :: rest => under (Text.ofNat index) (scalars v) ++ itemScalars (index + 1) rest

end

mutual

/-- The keys of each object in a value, at every depth. -/
def objectKeys : Json → List (List Text)
  | arr items => itemKeys items
  | obj members => members.map (·.1) :: memberKeys members
  | _ => []

def memberKeys : List (Text × Json) → List (List Text)
  | [] => []
  | (_, v) :: rest => objectKeys v ++ memberKeys rest

def itemKeys : List Json → List (List Text)
  | [] => []
  | v :: rest => objectKeys v ++ itemKeys rest

end

/-- No object has two members with the same key. A value that is read from a text is such a one
(`distinct_of_read?`). -/
def Distinct (v : Json) : Prop := ∀ keys ∈ v.objectKeys, keys.Nodup

instance (v : Json) : Decidable v.Distinct :=
  inferInstanceAs (Decidable (∀ _ ∈ _, _))

/-! ### Comparing values -/

mutual

/-- Whether two values are the same. -/
def same : Json → Json → Bool
  | null, null => true
  | bool a, bool b => a = b
  | int a, int b => a = b
  | float a, float b => a = b
  | str a, str b => a = b
  | arr a, arr b => sameItems a b
  | obj a, obj b => sameMembers a b
  | _, _ => false

def sameItems : List Json → List Json → Bool
  | [], [] => true
  | v :: a, w :: b => same v w && sameItems a b
  | _, _ => false

def sameMembers : List (Text × Json) → List (Text × Json) → Bool
  | [], [] => true
  | (k, v) :: a, (l, w) :: b => k = l && same v w && sameMembers a b
  | _, _ => false

end

mutual

theorem same_iff : ∀ v w : Json, same v w = true ↔ v = w
  | null, w => by cases w <;> simp [same]
  | bool _, w => by cases w <;> simp [same]
  | int _, w => by cases w <;> simp [same]
  | float _, w => by cases w <;> simp [same]
  | str _, w => by cases w <;> simp [same]
  | arr a, w => by cases w <;> simp [same, sameItems_iff a]
  | obj a, w => by cases w <;> simp [same, sameMembers_iff a]

theorem sameItems_iff : ∀ a b : List Json, sameItems a b = true ↔ a = b
  | [], b => by cases b <;> simp [sameItems]
  | v :: a, b => by cases b <;> simp [sameItems, same_iff v, sameItems_iff a]

theorem sameMembers_iff : ∀ a b : List (Text × Json), sameMembers a b = true ↔ a = b
  | [], b => by cases b <;> simp [sameMembers]
  | (_, v) :: a, b => by
      cases b <;> simp [sameMembers, Prod.ext_iff, same_iff v, sameMembers_iff a]

end

instance : DecidableEq Json := fun v w => decidable_of_iff _ (same_iff v w)

/-! ### One level of a tree -/

theorem mem_children_arr {items : List Json} :
    c ∈ (arr items).children ↔ ∃ i, items[i]? = some c.2 ∧ c.1 = Text.ofNat i := by
  simp only [children, List.mem_map, Prod.exists, List.mem_zipIdx_iff_getElem?]
  constructor
  · rintro ⟨item, i, hitem, rfl⟩
    exact ⟨i, hitem, rfl⟩
  · rintro ⟨i, hitem, hsegment⟩
    exact ⟨c.2, i, hitem, Prod.ext hsegment.symm rfl⟩

/-- What holds of a value whenever it holds of the values it is made of holds of every value. -/
theorem induct {P : Json → Prop} (step : ∀ v, (∀ c ∈ v.children, P c.2) → P v) (v : Json) : P v :=
  have leaf {v : Json} (h : v.children = []) : P v :=
    step v fun _ hc => absurd (h ▸ hc) List.not_mem_nil
  @Json.rec P (fun items => ∀ v ∈ items, P v) (fun members => ∀ m ∈ members, P m.2) (fun m => P m.2)
    (leaf rfl) (fun _ => leaf rfl) (fun _ => leaf rfl) (fun _ => leaf rfl) (fun _ => leaf rfl)
    (fun _ hitems => step _ fun _ hc =>
      have ⟨_, hitem, _⟩ := mem_children_arr.mp hc
      hitems _ (List.mem_of_getElem? hitem))
    (fun _ hmembers => step _ hmembers)
    (fun _ h => absurd h List.not_mem_nil)
    (fun _ _ hfirst hrest => List.forall_mem_cons.mpr ⟨hfirst, hrest⟩)
    (fun _ h => absurd h List.not_mem_nil)
    (fun _ _ hfirst hrest => List.forall_mem_cons.mpr ⟨hfirst, hrest⟩)
    (fun _ _ h => h) v

theorem memberScalars_eq (members : List (Text × Json)) :
    memberScalars members = members.flatMap fun c => under c.1 c.2.scalars := by
  induction members with
  | nil => rfl
  | cons m rest ih => rw [memberScalars, ih, List.flatMap_cons]

theorem itemScalars_eq (index : Nat) (items : List Json) :
    itemScalars index items =
      (items.zipIdx index).flatMap fun item => under (Text.ofNat item.2) item.1.scalars := by
  induction items generalizing index with
  | nil => rfl
  | cons v rest ih => rw [itemScalars, ih, List.zipIdx_cons, List.flatMap_cons]

/-- The scalars of a value are those of the values it is made of, unless it is one itself. -/
theorem scalars_eq (v : Json) :
    v.scalars =
      if v.isScalar then [([], v)] else v.children.flatMap fun c => under c.1 c.2.scalars := by
  cases v with
  | arr items =>
      rw [scalars, itemScalars_eq, children, List.flatMap_map]
      rfl
  | obj members =>
      rw [scalars, memberScalars_eq]
      rfl
  | _ => rfl

theorem children_of_isScalar (h : v.isScalar = true) : v.children = [] := by
  cases v with
  | arr items => cases h
  | obj members => cases h
  | _ => rfl

theorem mem_under {segment : Text} {scalars : List (List Text × Json)} :
    (path, x) ∈ under segment scalars ↔ ∃ rest, path = segment :: rest ∧ (rest, x) ∈ scalars := by
  simp only [under, List.mem_map, Prod.mk.injEq, Prod.exists]
  constructor
  · rintro ⟨rest, y, hmem, rfl, rfl⟩
    exact ⟨rest, rfl, hmem⟩
  · rintro ⟨rest, rfl, hmem⟩
    exact ⟨rest, x, hmem, rfl, rfl⟩

theorem mem_scalars :
    (path, x) ∈ v.scalars ↔ (v.isScalar = true ∧ path = [] ∧ x = v) ∨
      ∃ c ∈ v.children, ∃ rest, path = c.1 :: rest ∧ (rest, x) ∈ c.2.scalars := by
  rw [scalars_eq]
  by_cases h : v.isScalar = true
  · simp [h, children_of_isScalar h]
  · simp [h, mem_under]

theorem isScalar_of_mem_scalars (h : (path, x) ∈ v.scalars) : x.isScalar = true := by
  induction v using induct generalizing path with
  | step v ih =>
      rcases mem_scalars.mp h with ⟨hscalar, -, rfl⟩ | ⟨c, hc, rest, -, hrest⟩
      · exact hscalar
      · exact ih c hc hrest

theorem memberKeys_eq (members : List (Text × Json)) :
    memberKeys members = members.flatMap fun m => m.2.objectKeys := by
  induction members with
  | nil => rfl
  | cons m rest ih => rw [memberKeys, ih, List.flatMap_cons]

theorem itemKeys_eq (items : List Json) : itemKeys items = items.flatMap objectKeys := by
  induction items with
  | nil => rfl
  | cons v rest ih => rw [itemKeys, ih, List.flatMap_cons]

/-- What holds of the keys of every object in a value holds of its own keys, if it is an object, and
of those in the values it is made of. -/
theorem forall_objectKeys {P : List Text → Prop} :
    (∀ keys ∈ v.objectKeys, P keys) ↔ (∀ members, v = obj members → P (members.map (·.1))) ∧
      ∀ c ∈ v.children, ∀ keys ∈ c.2.objectKeys, P keys := by
  cases v with
  | arr items =>
      rw [objectKeys, itemKeys_eq, List.forall_mem_flatMap, and_iff_right nofun]
      constructor
      · intro h c hc
        obtain ⟨i, hi, -⟩ := mem_children_arr.mp hc
        exact h c.2 (List.mem_of_getElem? hi)
      · intro h v hv
        obtain ⟨i, hi⟩ := List.mem_iff_getElem?.mp hv
        exact h (Text.ofNat i, v) (mem_children_arr.mpr ⟨i, hi, rfl⟩)
  | obj members =>
      rw [objectKeys, memberKeys_eq, List.forall_mem_cons, List.forall_mem_flatMap]
      simp [children]
  | _ => simp [objectKeys, children]

/-! ### Values with different keys -/

theorem nodup_segments_arr (items : List Json) : ((arr items).children.map (·.1)).Nodup := by
  have hsegments : (arr items).children.map (·.1) =
      (List.range' 0 items.length).map Text.ofNat := by
    rw [children, List.map_map, ← List.zipIdx_map_snd 0 items, List.map_map]
    rfl
  rw [hsegments]
  exact List.Nodup.map (fun _ _ => Text.ofNat_injective) List.nodup_range'

/-- The keys in a value are different when siblings stand under different segments, at every
level. -/
theorem distinct_iff :
    v.Distinct ↔ (v.children.map (·.1)).Nodup ∧ ∀ c ∈ v.children, c.2.Distinct := by
  rw [Distinct, forall_objectKeys]
  apply and_congr_left'
  cases v with
  | arr items => exact ⟨fun _ => nodup_segments_arr items, fun _ => nofun⟩
  | obj members => exact ⟨fun h => h members rfl, fun h => by rintro _ ⟨⟩; exact h⟩
  | _ => exact ⟨fun _ => List.nodup_nil, fun _ => nofun⟩

theorem Distinct.segments (h : v.Distinct) : (v.children.map (·.1)).Nodup := (distinct_iff.mp h).1

theorem Distinct.child (h : v.Distinct) (hc : c ∈ v.children) : c.2.Distinct :=
  (distinct_iff.mp h).2 c hc

/-- The scalars of a value are what paths lead to. -/
theorem mem_scalars_iff_at? (h : v.Distinct) :
    (path, x) ∈ v.scalars ↔ v.at? path = some x ∧ x.isScalar = true := by
  induction path generalizing v with
  | nil =>
      rw [mem_scalars, at?, Option.some_inj]
      constructor
      · rintro (⟨hscalar, -, rfl⟩ | ⟨c, -, rest, heq, -⟩)
        · exact ⟨rfl, hscalar⟩
        · cases heq
      · rintro ⟨rfl, hscalar⟩
        exact .inl ⟨hscalar, rfl, rfl⟩
  | cons segment rest ih =>
      rw [mem_scalars, at?, Option.bind_eq_some_iff]
      constructor
      · rintro (⟨-, heq, -⟩ | ⟨⟨key, child⟩, hc, rest', heq, hrest⟩)
        · cases heq
        · obtain ⟨rfl, rfl⟩ := List.cons.inj heq
          obtain ⟨hat, hscalar⟩ := (ih (h.child hc)).mp hrest
          exact ⟨⟨child, (lookup_eq_some_iff_mem h.segments).mpr hc, hat⟩, hscalar⟩
      · rintro ⟨⟨child, hlookup, hat⟩, hscalar⟩
        have hc := mem_of_lookup hlookup
        exact .inr ⟨(segment, child), hc, rest, rfl, (ih (h.child hc)).mpr ⟨hat, hscalar⟩⟩

/-- Different scalars have different paths. -/
theorem Distinct.paths (h : v.Distinct) : (v.scalars.map (·.1)).Nodup := by
  induction v using induct with
  | step v ih =>
      rw [scalars_eq]
      split
      · exact List.nodup_singleton _
      · have hunder (c : Text × Json) : (under c.1 c.2.scalars).map (·.1) =
            (c.2.scalars.map (·.1)).map (c.1 :: ·) := by
          simp [under]
        rw [List.map_flatMap, List.nodup_flatMap]
        constructor
        · intro c hc
          rw [hunder]
          exact (ih c hc (h.child hc)).map fun _ _ heq => (List.cons.inj heq).2
        · refine (List.pairwise_map.mp h.segments).imp fun {c d} hne => ?_
          change ((under c.1 c.2.scalars).map (·.1)).Disjoint ((under d.1 d.2.scalars).map (·.1))
          rw [hunder, hunder, List.disjoint_left]
          intro path hpath hother
          obtain ⟨_, -, rfl⟩ := List.mem_map.mp hpath
          obtain ⟨_, -, heq⟩ := List.mem_map.mp hother
          exact hne (List.cons.inj heq).1.symm

/-! ### Values that are read -/

theorem mem_put {members : List (Text × Json)} {key : Text} {value : Json} {m : Text × Json}
    (h : m ∈ put members key value) : m ∈ members ∨ m = (key, value) := by
  induction members with
  | nil => exact .inr (List.mem_singleton.mp h)
  | cons first rest ih =>
      obtain ⟨k, v⟩ := first
      rw [put] at h
      by_cases hk : k = key
      · rw [if_pos hk, hk] at h
        rcases List.mem_cons.mp h with rfl | h
        · exact .inr rfl
        · exact .inl (List.mem_cons_of_mem _ h)
      · rw [if_neg hk] at h
        rcases List.mem_cons.mp h with rfl | h
        · exact .inl List.mem_cons_self
        · exact (ih h).imp_left (List.mem_cons_of_mem _)

theorem nodup_put {members : List (Text × Json)} (h : (members.map (·.1)).Nodup) (key : Text)
    (value : Json) : ((put members key value).map (·.1)).Nodup := by
  induction members with
  | nil => exact List.nodup_singleton key
  | cons first rest ih =>
      obtain ⟨k, v⟩ := first
      obtain ⟨hfirst, hrest⟩ := List.nodup_cons.mp h
      rw [put]
      by_cases hk : k = key
      · rw [if_pos hk]
        exact h
      · rw [if_neg hk]
        refine List.nodup_cons.mpr ⟨fun hmem => ?_, ih hrest⟩
        obtain ⟨m, hm, hkey⟩ := List.mem_map.mp hmem
        rcases mem_put hm with hm | rfl
        · exact hfirst (List.mem_map.mpr ⟨m, hm, hkey⟩)
        · exact hk hkey.symm

theorem unique_append_singleton (members : List (Text × Json)) (m : Text × Json) :
    unique (members ++ [m]) = put (unique members) m.1 m.2 := by
  rw [unique, List.foldl_append]
  rfl

theorem nodup_unique (members : List (Text × Json)) : ((unique members).map (·.1)).Nodup := by
  induction members using List.reverseRecOn with
  | nil => exact List.nodup_nil
  | append_singleton init m ih =>
      rw [unique_append_singleton]
      exact nodup_put ih m.1 m.2

theorem mem_of_mem_unique {members : List (Text × Json)} {m : Text × Json}
    (h : m ∈ unique members) : m ∈ members := by
  induction members using List.reverseRecOn with
  | nil => exact h
  | append_singleton init last ih =>
      rw [unique_append_singleton] at h
      rcases mem_put h with h | h
      · exact List.mem_append_left [last] (ih h)
      · exact List.mem_append_right init (List.mem_singleton.mpr h)

theorem settleItems_eq (items : List Json) : settleItems items = items.map settle := by
  induction items with
  | nil => rfl
  | cons v rest ih => rw [settleItems, ih, List.map_cons]

theorem settleMembers_eq (members : List (Text × Json)) :
    settleMembers members = members.map fun m => (m.1, m.2.settle) := by
  induction members with
  | nil => rfl
  | cons m rest ih => rw [settleMembers, ih, List.map_cons]

theorem distinct_settle (v : Json) : v.settle.Distinct := by
  induction v using induct with
  | step v ih =>
      rw [distinct_iff]
      cases v with
      | arr items =>
          rw [settle, settleItems_eq]
          refine ⟨nodup_segments_arr _, fun c hc => ?_⟩
          obtain ⟨i, hitem, -⟩ := mem_children_arr.mp hc
          rw [List.getElem?_map, Option.map_eq_some_iff] at hitem
          obtain ⟨item, hitem, hvalue⟩ := hitem
          rw [← hvalue]
          exact ih (Text.ofNat i, item) (mem_children_arr.mpr ⟨i, hitem, rfl⟩)
      | obj members =>
          rw [settle, settleMembers_eq]
          refine ⟨nodup_unique _, fun c hc => ?_⟩
          obtain ⟨m, hm, rfl⟩ := List.mem_map.mp (mem_of_mem_unique hc)
          exact ih m hm
      | _ => simp [settle, children]

theorem distinct_of_read? {t : Text} (h : Json.read? t = some v) : v.Distinct := by
  rw [read?] at h
  dsimp only at h
  split at h
  · obtain ⟨parsed, -, rfl⟩ := Option.map_eq_some_iff.mp h
    exact distinct_settle parsed
  · cases h

end WordingAudit.Json
