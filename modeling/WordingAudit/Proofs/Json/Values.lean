import Mathlib.Data.List.Forall2
import WordingAudit.Json.Document

/-!
Documents that are values: they have no mistakes, and are nested no deeper than is allowed. Such a
document is known by its value.
-/

namespace WordingAudit

theorem forall₂_of_mapM_eq_some {α β : Type} {f : α → Option β} {l : List α} {r : List β}
    (h : l.mapM f = some r) : List.Forall₂ (fun a b => f a = some b) l r := by
  induction l generalizing r with
  | nil =>
      cases h
      exact .nil
  | cons a rest ih =>
      rw [List.mapM_cons] at h
      obtain ⟨b, hb, h⟩ := Option.bind_eq_some_iff.mp h
      obtain ⟨bs, hbs, h⟩ := Option.bind_eq_some_iff.mp h
      cases h
      exact .cons hb (ih hbs)

theorem eq_map_of_forall₂ {α β : Type} {f : β → α} {l : List α} {r : List β}
    (h : List.Forall₂ (fun a b => a = f b) l r) : l = r.map f := by
  rw [← List.forall₂_eq_eq_eq, List.forall₂_map_right_iff]
  exact h

namespace Document

theorem ofItems_eq (items : List Json) : ofItems items = items.map ofJson := by
  induction items with
  | nil => rfl
  | cons v rest ih => rw [ofItems, ih, List.map_cons]

theorem ofMembers_eq (members : List (Text × Json)) :
    ofMembers members = members.map fun m => (some m.1, ofJson m.2) := by
  induction members with
  | nil => rfl
  | cons m rest ih => rw [ofMembers, ih, List.map_cons]

theorem eq_ofJson_of_value? {nesting : Nat} {d : Document} {v : Json}
    (h : d.value? nesting = some v) : d = ofJson v := by
  induction nesting generalizing d v with
  | zero =>
      cases d with
      | arr items complete => cases h
      | obj members complete => cases h
      | unusable => cases h
      | broken => cases h
      | _ =>
          cases h
          rfl
  | succ nesting ih =>
      cases d with
      | arr items complete =>
          cases complete with
          | false => cases h
          | true =>
              obtain ⟨values, hvalues, rfl⟩ := Option.map_eq_some_iff.mp h
              have hitems : items = values.map ofJson :=
                eq_map_of_forall₂ ((forall₂_of_mapM_eq_some hvalues).imp fun _ _ h => ih h)
              rw [ofJson, ofItems_eq, hitems]
      | obj members complete =>
          cases complete with
          | false => cases h
          | true =>
              obtain ⟨values, hvalues, rfl⟩ := Option.map_eq_some_iff.mp h
              refine (congrArg (obj · true) (eq_map_of_forall₂ ?_)).trans
                (congrArg (obj · true) (ofMembers_eq values).symm)
              refine (forall₂_of_mapM_eq_some hvalues).imp fun m value hm => ?_
              obtain ⟨key, hkey, hm⟩ := Option.bind_eq_some_iff.mp hm
              obtain ⟨v, hv, rfl⟩ := Option.map_eq_some_iff.mp hm
              exact Prod.ext hkey (ih hv)
      | unusable => cases h
      | broken => cases h
      | _ =>
          cases h
          rfl

end Document

namespace Json

/-- The value is nested no deeper than is allowed. -/
def Fits (nesting : Nat) (v : Json) : Prop := (Document.ofJson v).value? nesting = some v

variable {nesting : Nat}

theorem Fits.items {items : List Json} (h : (arr items).Fits nesting) :
    ∃ inner, nesting = inner + 1 ∧ ∀ v ∈ items, v.Fits inner := by
  cases nesting with
  | zero => cases h
  | succ inner =>
      refine ⟨inner, rfl, ?_⟩
      rw [Fits, Document.ofJson, Document.ofItems_eq, Document.value?, if_pos rfl] at h
      obtain ⟨values, hvalues, hsame⟩ := Option.map_eq_some_iff.mp h
      obtain rfl : values = items := by simpa using hsame
      have hall := List.forall₂_map_left_iff.mp (forall₂_of_mapM_eq_some hvalues)
      intro v hv
      exact List.forall₂_same.mp hall v hv

theorem Fits.members {members : List (Text × Json)} (h : (obj members).Fits nesting) :
    ∃ inner, nesting = inner + 1 ∧ ∀ m ∈ members, m.2.Fits inner := by
  cases nesting with
  | zero => cases h
  | succ inner =>
      refine ⟨inner, rfl, ?_⟩
      rw [Fits, Document.ofJson, Document.ofMembers_eq, Document.value?, if_pos rfl] at h
      obtain ⟨values, hvalues, hsame⟩ := Option.map_eq_some_iff.mp h
      obtain rfl : values = members := by simpa using hsame
      have hall := List.forall₂_map_left_iff.mp (forall₂_of_mapM_eq_some hvalues)
      intro m hm
      obtain ⟨v, hv, hpair⟩ := Option.map_eq_some_iff.mp (List.forall₂_same.mp hall m hm)
      rw [← hpair] at hv ⊢
      exact hv

end Json

end WordingAudit
