import WordingAudit.Proofs.Collection
import WordingAudit.Proofs.Composition

/-!
The keys of a report. However they are found, none of them is empty, and they stand in ascending
order, so that none is there twice.
-/

namespace WordingAudit

open Traced

namespace KeySet

/-- Keys in ascending order, none of them empty. -/
structure Proper (s : KeySet) : Prop where
  ascending : Ascending s.toList
  nonempty : [] ∉ s.toList

theorem proper_ofList {keys : List Text} (h : [] ∉ keys) : (ofList keys).Proper :=
  ⟨(ofList keys).ascending, fun hnil => h (mem_ofList.mp hnil)⟩

end KeySet

theorem CompiledRule.nil_not_mem_applyAll (rules : List CompiledRule) (t : Text) :
    [] ∉ (applyAll rules t).value := by
  rw [applyAll_value, List.mem_flatMap]
  rintro ⟨r, -, hnil⟩
  exact CompiledStep.ne_nil_of_mem_keys hnil rfl

theorem CompiledSubstitution.nil_not_mem_applyAll (list : List CompiledSubstitution)
    (keys : List Text) : [] ∉ applyAll list keys := by
  rw [applyAll, List.mem_filter]
  rintro ⟨-, hfull⟩
  cases hfull

/-- Keys of a scan are taken from its files by the rules. -/
theorem Project.nil_not_mem_scan {w : World} {root : Text} {project : ProjectRules}
    {found : ScanOutcome} (h : (scan w root project).run.value = .ok found) : [] ∉ found.keys := by
  rw [scan_value, Result.bind_eq_ok] at h
  obtain ⟨entries, -, h⟩ := h
  rw [← List.map_id entries] at h
  obtain ⟨files, hadds, -⟩ := scanEntries_spec h
  rw [hadds.keys, List.nil_append, List.mem_flatMap]
  rintro ⟨f, -, hnil⟩
  exact CompiledRule.nil_not_mem_applyAll project.rules _ hnil

theorem Project.proper_keys {w : World} {root : Option Text} {project : Option ProjectRules}
    {s : KeySet} (h : (keys w root project).run.value = .ok s) : s.Proper := by
  cases root with
  | none => cases h
  | some root =>
      cases project with
      | none => cases h
      | some project =>
          rw [keys_value] at h
          split at h
          · cases h
          · obtain ⟨found, hscan, rfl⟩ := Result.map_eq_ok.mp h
            exact KeySet.proper_ofList (nil_not_mem_scan hscan)

theorem Wordings.proper_keys {w : World} {source : Option Text}
    {list : List CompiledSubstitution} {s : KeySet}
    (h : (keys w source list).run.value = .ok s) : s.Proper := by
  cases source with
  | none => cases h
  | some source =>
      rw [keys_value, Result.bind_eq_ok] at h
      obtain ⟨place, -, h⟩ := h
      obtain ⟨found, -, rfl⟩ := Result.map_eq_ok.mp h
      exact KeySet.proper_ofList (CompiledSubstitution.nil_not_mem_applyAll list _)

/-- A comparison picks from the keys of a side. -/
theorem Comparison.proper_diff (c : Comparison) {first second : KeySet} (hfirst : first.Proper)
    (hsecond : second.Proper) (side : Side) :
    (c.diff first.toList second.toList side).value.Proper := by
  refine ⟨(c.diff first.toList second.toList side).value.ascending, fun hnil => ?_⟩
  cases side with
  | first => exact hfirst.nonempty (mem_select_first.mp hnil).1
  | second => exact hsecond.nonempty (mem_select_second.mp hnil).1

namespace Audit

variable {w : World} {c : Config} {s : KeySet}

theorem proper_projectKeys (h : (projectKeys w c).run.value = .ok s) : s.Proper := by
  rw [projectKeys_value, Result.bind_eq_ok] at h
  obtain ⟨project, -, h⟩ := h
  exact Project.proper_keys (Result.mapError_eq_ok.mp h)

theorem proper_fileKeys (h : (fileKeys w c).run.value = .ok s) : s.Proper := by
  rw [fileKeys_value, Result.bind_eq_ok] at h
  obtain ⟨list, -, h⟩ := h
  exact Wordings.proper_keys (Result.mapError_eq_ok.mp h)

theorem proper_orphanKeys {side : Side} (h : (orphanKeys w c side).run.value = .ok s) :
    s.Proper := by
  rw [orphanKeys, value_run_bind, Result.bind_eq_ok] at h
  obtain ⟨comparison, -, h⟩ := h
  rw [value_run_bind, Result.bind_eq_ok] at h
  obtain ⟨project, hproject, h⟩ := h
  rw [value_run_bind, Result.bind_eq_ok] at h
  obtain ⟨file, hfile, h⟩ := h
  cases h
  exact comparison.proper_diff (proper_projectKeys hproject) (proper_fileKeys hfile) side

/-- Whatever the settings are, checked or not, the keys of every mode are in order. -/
theorem proper_collect {mode : Mode} (h : (collect w c mode).run.value = .ok s) : s.Proper := by
  cases mode with
  | allProject => exact proper_projectKeys h
  | allFile => exact proper_fileKeys h
  | orphanProject => exact proper_orphanKeys h
  | orphanFile => exact proper_orphanKeys h

/-- The keys of a report are in strictly ascending order, each is there once, and none is empty. -/
theorem report_proper {path : Text} {mode : Mode} {report : Report}
    (h : outcome w path mode = .ok report) :
    report.mode = mode ∧ report.keys.toList.Pairwise (· < ·) ∧ report.keys.toList.Nodup ∧
      ∀ key ∈ report.keys.toList, key ≠ [] := by
  rw [outcome, run, value_run_bind, Result.bind_eq_ok] at h
  obtain ⟨config, -, h⟩ := h
  rw [value_run_bind, Result.bind_eq_ok] at h
  obtain ⟨keys, hkeys, h⟩ := h
  cases h
  have hproper := proper_collect hkeys
  refine ⟨rfl, hproper.ascending, hproper.ascending.nodup, ?_⟩
  rintro key hkey rfl
  exact hproper.nonempty hkey

/-- A project whose only text is replaced by nothing, and wordings with an empty key. Were the empty
text a key of the project, it would be a part of every other key. -/
def emptyKeyWorld : World where
  files := {
    top := .directory [
      (Text.of "c.json", .file (Utf8.encode (Text.of ("\x7b\"projectSourcePath\": \"p\", " ++
        "\"projectSourceParser\": \x7b\"rules\": [\x7b\"type\": \"replace\", " ++
        "\"pattern\": \"^a$\"\x7d]\x7d, \"wordingsSource\": \"w.arb\", \"include\": true\x7d")))),
      (Text.of "p", .directory [(Text.of "a.js", .file (Utf8.encode (Text.of "a")))]),
      (Text.of "w.arb",
        .file (Utf8.encode (Text.of "\x7b\"b.a\": \"\", \"\": \"\", \"b\": \"\"\x7d")))]
    workingDirectory := [] }
  server := none

theorem report_proper_sample :
    ∃ report, outcome emptyKeyWorld (Text.of "c.json") .orphanFile = .ok report ∧
      report.keys.toList = [Text.of "b", Text.of "b.a"] ∧
      report.mode = .orphanFile ∧ report.keys.toList.Pairwise (· < ·) ∧
      report.keys.toList.Nodup ∧ ∀ key ∈ report.keys.toList, key ≠ [] := by
  have hreport : outcome emptyKeyWorld (Text.of "c.json") .orphanFile =
      .ok ⟨.orphanFile, ⟨[Text.of "b", Text.of "b.a"], by decide⟩⟩ := by decide +kernel
  exact ⟨_, hreport, rfl, report_proper hreport⟩

end Audit

end WordingAudit
