import WordingAudit.Proofs.Collection
import WordingAudit.Proofs.Flattening

/-!
Wordings that are kept flat. An object made of the entries of a document has these entries again,
whether it is read as a nested document or as a flat one. So the keys that the wordings define do
not depend on the form in which they are kept.
-/

namespace WordingAudit

open Traced

/-- The source is a file of this format, and its text stands for the value. -/
structure World.Holds (w : World) (source : Text) (format : ResourceFormat) (value : Json) :
    Prop where
  place : Locator.ofSource source = .ok (.file source format)
  content : ∃ text, w.files.readText source = .ok text ∧ Json.read? text = some value

namespace Wordings

variable {v : Json} {members : List (Text × Json)}

theorem keys_of_holds {w : World} {source : Text} {format : ResourceFormat} {value : Json}
    (h : w.Holds source format value) (list : List CompiledSubstitution) :
    (keys w (some source) list).run.value = .ok (KeySet.ofList
      (CompiledSubstitution.applyAll list (entries format source value).value.keys)) := by
  obtain ⟨text, htext, hvalue⟩ := h.content
  have hread : readJson source text = .ok value := by
    rw [readJson, hvalue]
    rfl
  rw [keys_value, h.place, Except.bind, load_file_value, htext, Except.mapError, Except.bind, hread]
  rfl

@[simp] theorem keyOf_singleton (key : Text) : keyOf [key] = key := by
  cases key <;> rfl

/-- An object whose members are scalars holds these, each under its own key. -/
theorem scalars_obj (h : ∀ m ∈ members, m.2.isScalar = true) :
    (Json.obj members).scalars = members.map fun m => ([m.1], m.2) := by
  rw [Json.scalars, Json.memberScalars_eq, List.map_eq_flatMap]
  refine List.flatMap_congr fun m hm => ?_
  rw [Json.scalars_eq, if_pos (h m hm)]
  rfl

theorem ofList_of_perm (h : members.Perm (flatten v)) : Entries.ofList members = flatten v := by
  have hkeys : ((flatten v).map (·.1)).Nodup := (ascending_flatten v).nodup
  have hdistinct : (members.map (·.1)).Nodup := (h.map (·.1)).nodup_iff.mpr hkeys
  exact Entries.eq_of_perm (Entries.ascending_ofList members) (ascending_flatten v)
    ((Entries.perm_ofList hdistinct).trans h)

theorem flatten_of_perm (h : members.Perm (flatten v)) : flatten (.obj members) = flatten v := by
  have hpairs : ((members.map fun m => ([m.1], m.2)).map fun s => (keyOf s.1, s.2)) = members := by
    simp [Function.comp_def]
  have hkeys : members.filter (fun e => !e.1.isEmpty) = members := by
    refine List.filter_eq_self.mpr fun m hm => ?_
    simpa using (mem_flatten.mp (h.mem_iff.mp hm)).1
  rw [flatten_eq, scalars_obj fun m hm => isScalar_of_mem_flatten (h.mem_iff.mp hm), hpairs, hkeys]
  exact ofList_of_perm h

/-- An object made of the entries of a document, in any order, has the same entries in either
format. The keys that a nested file defines are those of both flat files made of it. -/
theorem entries_flattened (v : Json) :
    (∀ members : List (Text × Json), members.Perm (flatten v) →
      flatten (.obj members) = flatten v ∧
      ∀ source, entries .nested source (.obj members) = pure (flatten v) ∧
        entries .flat source (.obj members) = pure (flatten v)) ∧
    ∀ (w : World) (nested json arb : Text) (members others : List (Text × Json)),
      members.Perm (flatten v) → others.Perm (flatten v) → w.Holds nested .nested v →
      w.Holds json .nested (.obj members) → w.Holds arb .flat (.obj others) →
      ∀ list : List CompiledSubstitution,
        let found := KeySet.ofList (CompiledSubstitution.applyAll list (flatten v).keys)
        (keys w (some nested) list).run.value = .ok found ∧
        (keys w (some json) list).run.value = .ok found ∧
        (keys w (some arb) list).run.value = .ok found := by
  constructor
  · intro members hperm
    refine ⟨flatten_of_perm hperm, fun source => ⟨?_, ?_⟩⟩
    · rw [entries, flatten_of_perm hperm]
    · rw [entries, ofList_of_perm hperm]
  · intro w nested json arb members others hmembers hothers hnested hjson harb list found
    refine ⟨keys_of_holds hnested list, ?_, ?_⟩
    · rw [keys_of_holds hjson, entries, flatten_of_perm hmembers]
      rfl
    · rw [keys_of_holds harb, entries, ofList_of_perm hothers]
      rfl

/-- A nested file with members that come to the same keys, and two flat files made of it. -/
def flattenedWorld : World where
  files := {
    top := .directory [
      (Text.of "n.json", .file (Utf8.encode (Text.of ("\x7b\"\": [\"k\", null, \x7b\x7d], " ++
        "\"0\": 7, \"a\": \x7b\"\": \x7b\"b\": 1\x7d\x7d, \"a..b\": true\x7d")))),
      (Text.of "f.json", .file (Utf8.encode (Text.of "\x7b\"a..b\": true, \"0\": 7\x7d"))),
      (Text.of "f.arb", .file (Utf8.encode (Text.of "\x7b\"0\": 7, \"a..b\": true\x7d")))]
    workingDirectory := [] }
  server := none

theorem entries_flattened_sample :
    let members := [(Text.of "a..b", Json.bool true), (['0'], .int 7)]
    members.Perm (flatten (.obj collidingMembers)) ∧
    members.reverse.Perm (flatten (.obj collidingMembers)) ∧
    flattenedWorld.Holds (Text.of "n.json") .nested (.obj collidingMembers) ∧
    flattenedWorld.Holds (Text.of "f.json") .nested (.obj members) ∧
    flattenedWorld.Holds (Text.of "f.arb") .flat (.obj members.reverse) ∧
    flatten (.obj members) = flatten (.obj collidingMembers) ∧
    ∃ list, Substitution.compileAll [⟨Text.of "\\.", some ['-']⟩] = .ok list ∧
      let found : KeySet := ⟨[['0'], Text.of "a-.b"], by decide⟩
      (keys flattenedWorld (some (Text.of "n.json")) list).run.value = .ok found ∧
      (keys flattenedWorld (some (Text.of "f.json")) list).run.value = .ok found ∧
      (keys flattenedWorld (some (Text.of "f.arb")) list).run.value = .ok found := by
  intro members
  have hperm : members.Perm (flatten (.obj collidingMembers)) := by decide
  have hreverse : members.reverse.Perm (flatten (.obj collidingMembers)) := by decide
  have hnested : flattenedWorld.Holds (Text.of "n.json") .nested (.obj collidingMembers) :=
    ⟨rfl, _, rfl, by decide +kernel⟩
  have hjson : flattenedWorld.Holds (Text.of "f.json") .nested (.obj members) :=
    ⟨rfl, _, rfl, by decide +kernel⟩
  have harb : flattenedWorld.Holds (Text.of "f.arb") .flat (.obj members.reverse) :=
    ⟨rfl, _, rfl, by decide +kernel⟩
  have hfound : (Substitution.compileAll [⟨Text.of "\\.", some ['-']⟩]).map (fun list =>
      KeySet.ofList (CompiledSubstitution.applyAll list (flatten (.obj collidingMembers)).keys)) =
        .ok ⟨[['0'], Text.of "a-.b"], by decide⟩ := by decide +kernel
  obtain ⟨list, hlist, hfound⟩ := Result.map_eq_ok.mp hfound
  obtain ⟨hentries, hkeys⟩ := entries_flattened (.obj collidingMembers)
  refine ⟨hperm, hreverse, hnested, hjson, harb, (hentries members hperm).1, list, hlist, ?_⟩
  rw [← hfound]
  exact hkeys _ _ _ _ _ _ hperm hreverse hnested hjson harb list

end Wordings

end WordingAudit
