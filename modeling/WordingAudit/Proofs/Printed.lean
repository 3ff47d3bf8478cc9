import WordingAudit.CommandLine.Run
import WordingAudit.Proofs.Lists
import WordingAudit.Proofs.Modes

/-!
The printed report as a reader sees it, line by line. The last line is the total. The lines before
it are the keys when no key holds the end of a line, and a reader can tell from the total: a key
with line ends takes more lines than it counts for.
-/

namespace WordingAudit

namespace Text

/-- The lines of a text in which the last one has an end as well. -/
def lines (t : Text) : List Text := (splitAll t '\n').dropLast

theorem lines_flatMap (texts : List Text) :
    lines (texts.flatMap fun t => t ++ ['\n']) = texts.flatMap fun t => splitAll t '\n' := by
  rw [lines, splitAll_flatMap, List.dropLast_concat]

/-- There are as many pieces as texts only if nothing separates in any of them. -/
theorem length_flatMap_splitAll_eq_iff {texts : List Text} {c : Char} :
    (texts.flatMap fun t => splitAll t c).length = texts.length ↔ ∀ t ∈ texts, c ∉ t := by
  rw [length_flatMap_splitAll, Nat.add_eq_left, List.count_eq_zero, List.mem_flatten]
  simp only [not_exists, not_and]

theorem flatMap_splitAll_eq_self_iff {texts : List Text} {c : Char} :
    (texts.flatMap fun t => splitAll t c) = texts ↔ ∀ t ∈ texts, c ∉ t := by
  constructor
  · exact fun h => length_flatMap_splitAll_eq_iff.mp (congrArg List.length h)
  · intro h
    have hwhole : ∀ t ∈ texts, splitAll t c = [t] := fun t ht => splitAll_of_not_mem (h t ht)
    rw [List.flatMap_congr hwhole, List.flatMap_singleton']

end Text

namespace Report

/-- What a reader of a printed report takes for the keys: its lines up to the last. -/
def keyLines (printed : Text) : List Text := printed.lines.dropLast

theorem totalLine_plain (r : Report) :
    r.totalLine false =
      Text.of "TOTAL " ++ Text.ofNat r.keys.size ++ Text.of "  " ++ r.mode.label :=
  rfl

theorem newline_not_mem_totalLine (r : Report) : '\n' ∉ r.totalLine false := by
  have hlabel : '\n' ∉ r.mode.label := by
    cases r.mode <;> decide
  have hdigits : '\n' ∉ Text.ofNat r.keys.size := fun hmem => by
    have hdigit := Nat.isDigit_of_mem_toDigits (by decide) (by decide) hmem
    cases hdigit
  rw [totalLine_plain]
  simp only [List.mem_append, not_or]
  exact ⟨⟨⟨by decide, hdigits⟩, by decide⟩, hlabel⟩

theorem lines_text (r : Report) :
    (r.text false).lines =
      (r.keys.toList.flatMap fun key => Text.splitAll key '\n') ++ [r.totalLine false] := by
  rw [text, Text.lines_flatMap, lines, List.flatMap_append, List.flatMap_singleton,
    Text.splitAll_of_not_mem r.newline_not_mem_totalLine]

theorem keyLines_text (r : Report) :
    keyLines (r.text false) = r.keys.toList.flatMap fun key => Text.splitAll key '\n' := by
  rw [keyLines, lines_text, List.dropLast_concat]

end Report

namespace Audit

open CommandLine (Arguments)
open Report (keyLines)

variable {w : World} {path : Text} {mode : Mode} {report : Report}

theorem mode_of_outcome (h : outcome w path mode = .ok report) : report.mode = mode := by
  rw [outcome, run, Traced.value_run_bind, Result.bind_eq_ok] at h
  obtain ⟨config, -, h⟩ := h
  rw [Traced.value_run_bind, Result.bind_eq_ok] at h
  obtain ⟨keys, -, h⟩ := h
  cases h
  rfl

/-- The command prints the report of the audit that its arguments ask for. -/
theorem stdout_of_outcome (h : outcome w path mode = .ok report) {words : List Text} {a : Arguments}
    (hwords : Arguments.ofWords words = .ok a) (hconfig : a.config = some path)
    (hmode : a.mode = mode) (color : Bool) :
    (CommandLine.run w color words).status = .success ∧
      (CommandLine.run w color words).stdout = report.text color := by
  have hvalue : (CommandLine.execute w color a).run.value = .ok (.success, report.text color) := by
    rw [CommandLine.execute, hconfig]
    dsimp only
    rw [hmode, (Traced.run_bind_ok h _).1]
    rfl
  rw [CommandLine.run, hwords]
  dsimp only
  rw [hvalue]
  exact ⟨rfl, rfl⟩

/-- A successful run prints the lines of every key in order and then the total with the number of
the keys. The lines before the total are as many as the keys and the ends of lines in them together,
so they are as many as the total says exactly when no key holds such an end; and this is exactly
when they are the keys. -/
theorem printed_report {w : World} {path : Text} {mode : Mode} {report : Report}
    (h : outcome w path mode = .ok report) :
    (∀ words a, Arguments.ofWords words = .ok a → a.config = some path → a.mode = mode →
      (CommandLine.run w false words).status = .success ∧
        (CommandLine.run w false words).stdout = report.text false) ∧
    (report.text false).lines =
      (report.keys.toList.flatMap fun key => Text.splitAll key '\n') ++
        [Text.of "TOTAL " ++ Text.ofNat report.keys.size ++ Text.of "  " ++ mode.label] ∧
    (keyLines (report.text false)).length =
      report.keys.size + report.keys.toList.flatten.count '\n' ∧
    ((keyLines (report.text false)).length = report.keys.size ↔
      ∀ key ∈ report.keys.toList, '\n' ∉ key) ∧
    (keyLines (report.text false) = report.keys.toList ↔
      ∀ key ∈ report.keys.toList, '\n' ∉ key) := by
  have hlines := report.lines_text
  rw [Report.totalLine_plain, mode_of_outcome h] at hlines
  rw [Report.keyLines_text]
  exact ⟨fun words a hwords hconfig ha => stdout_of_outcome h hwords hconfig ha false, hlines,
    Text.length_flatMap_splitAll _ _, Text.length_flatMap_splitAll_eq_iff,
    Text.flatMap_splitAll_eq_self_iff⟩

/-- Wordings in a document, and settings that name it. -/
def wordingsWorld (document : String) : World where
  files := {
    top := .directory [
      (Text.of "c.json", .file (Utf8.encode (Text.of "\x7b\"wordingsSource\": \"w.json\"\x7d"))),
      (Text.of "w.json", .file (Utf8.encode (Text.of document)))]
    workingDirectory := [] }
  server := none

/-- The words that ask for the keys of the wordings. -/
def wordingsWords : List Text :=
  [Text.of "-c", Text.of "c.json", Text.of "--show-all-file-keys"]

/-- Keys without ends of lines are read back from what is printed; from a key with one, a reader
gets two lines, where the total counts one. -/
theorem printed_report_sample :
    outcome (wordingsWorld "\x7b\"b\": [\"\"], \"a c\": \"\"\x7d") (Text.of "c.json") .allFile =
        .ok ⟨.allFile, ⟨[Text.of "a c", Text.of "b.0"], by decide⟩⟩ ∧
      (CommandLine.run (wordingsWorld "\x7b\"b\": [\"\"], \"a c\": \"\"\x7d") false
        wordingsWords).stdout = Text.of "a c\nb.0\nTOTAL 2  file keys\n" ∧
      keyLines (Text.of "a c\nb.0\nTOTAL 2  file keys\n") = [Text.of "a c", Text.of "b.0"] ∧
      (keyLines (CommandLine.run (wordingsWorld "\x7b\"a\\nb\": \"\"\x7d") false
        wordingsWords).stdout).length = 1 + 1 := by
  have hwords : Arguments.ofWords wordingsWords = .ok ⟨some (Text.of "c.json"), .allFile, false⟩ := by
    decide
  have hplain : outcome (wordingsWorld "\x7b\"b\": [\"\"], \"a c\": \"\"\x7d")
      (Text.of "c.json") .allFile =
        .ok ⟨.allFile, ⟨[Text.of "a c", Text.of "b.0"], by decide⟩⟩ := by decide +kernel
  have hbroken : outcome (wordingsWorld "\x7b\"a\\nb\": \"\"\x7d") (Text.of "c.json") .allFile =
      .ok ⟨.allFile, ⟨[Text.of "a\nb"], by decide⟩⟩ := by decide +kernel
  obtain ⟨hstdout, -, -, -, hread⟩ := printed_report hplain
  obtain ⟨hstdout', -, hlength, -⟩ := printed_report hbroken
  refine ⟨hplain, (hstdout wordingsWords _ hwords rfl rfl).2, hread.mpr (by decide), ?_⟩
  rw [(hstdout' wordingsWords _ hwords rfl rfl).2]
  exact hlength

/-- Two keys, one of them with the end of a line in it, are printed on three lines and do not come
back. Nor could they: other keys are printed in the same way. -/
theorem printed_report_ambiguous :
    ∃ report other,
      outcome (wordingsWorld "\x7b\"a\\nb\": \"\", \"c\": \"\"\x7d") (Text.of "c.json") .allFile =
        .ok report ∧
      outcome (wordingsWorld "\x7b\"a\": \"\", \"b\\nc\": \"\"\x7d") (Text.of "c.json") .allFile =
        .ok other ∧
      report.text false = Text.of "a\nb\nc\nTOTAL 2  file keys\n" ∧
      (keyLines (report.text false)).length ≠ report.keys.size ∧
      keyLines (report.text false) ≠ report.keys.toList ∧
      other.text false = report.text false ∧ other.keys ≠ report.keys :=
  ⟨⟨.allFile, ⟨[Text.of "a\nb", Text.of "c"], by decide⟩⟩,
    ⟨.allFile, ⟨[Text.of "a", Text.of "b\nc"], by decide⟩⟩,
    by decide +kernel, by decide +kernel, by decide, by decide, by decide, by decide, by decide⟩

end Audit

end WordingAudit
