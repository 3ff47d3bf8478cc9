import WordingAudit.Config.Encode
import WordingAudit.Proofs.Json.Writing
import WordingAudit.Proofs.Ranges
import WordingAudit.Proofs.Spelling

/-!
Settings that are written and read again. Whatever text settings are read from, the text that they
are written as is read as the same settings: nothing is lost, and writing once more changes nothing.
-/

namespace WordingAudit

/-! ### Rules -/

namespace Rule

variable {r : Rule} {nesting depth : Nat}

theorem forall_stepMembers {s : Step} {P : Json → Prop} (hstr : ∀ t, P (.str t))
    (hint : ∀ p, ∀ n : Nat, s = .extract p (some n) → P (.int n)) :
    ∀ m ∈ stepMembers s, P m.2 := by
  cases s with
  | extract p g =>
      cases g with
      | none =>
          exact List.forall_mem_cons.mpr ⟨hstr _, List.forall_mem_singleton.mpr (hstr p)⟩
      | some n =>
          exact List.forall_mem_cons.mpr ⟨hstr _, List.forall_mem_cons.mpr ⟨hstr p,
            List.forall_mem_singleton.mpr (hint p n rfl)⟩⟩
  | replace p t =>
      cases t with
      | none =>
          exact List.forall_mem_cons.mpr ⟨hstr _, List.forall_mem_singleton.mpr (hstr p)⟩
      | some t =>
          exact List.forall_mem_cons.mpr ⟨hstr _, List.forall_mem_cons.mpr ⟨hstr p,
            List.forall_mem_singleton.mpr (hstr t)⟩⟩
  | ignore p =>
      exact List.forall_mem_cons.mpr ⟨hstr _, List.forall_mem_singleton.mpr (hstr p)⟩

theorem writtenStep_obj (s : Step) {next : Option Json} {after : Option Json → Prop}
    (h : after next) :
    WrittenStep s after
      (.obj (stepMembers s ++ (next.map fun v => (Text.of "next", v)).toList)) := by
  cases s with
  | extract p g =>
      cases g <;> cases next <;> exact .object rfl (.cons (.inl rfl) (.cons (.inl rfl) .nil)) h
        (.cons rfl (.cons rfl .nil)) rfl
  | replace p t =>
      cases t <;> cases next <;> exact .object rfl (.cons (.inl rfl) (.cons (.inl rfl) .nil)) h
        (.cons rfl (.cons rfl .nil)) rfl
  | ignore p =>
      cases next <;> exact .object rfl (.cons (.inl rfl) .nil) h (.cons rfl .nil) rfl

/-- A rule is written in one of its spellings. -/
theorem spelled_encode (r : Rule) : r.Spelled r.encode := by
  obtain ⟨s, rest⟩ := r
  induction rest generalizing s with
  | nil =>
      have hlast : WrittenNext [] none := .inl rfl
      have hwritten := writtenStep_obj s hlast
      rwa [Option.map_none, Option.toList_none, List.append_nil] at hwritten
  | cons t rest ih =>
      have hnext : WrittenNext (t :: rest) (some (encodeChain t rest)) := ⟨_, rfl, ih t⟩
      exact writtenStep_obj s hnext

theorem fits_encode (h : r.steps.length ≤ nesting) : r.encode.Fits nesting := by
  obtain ⟨s, rest⟩ := r
  induction rest generalizing s nesting with
  | nil =>
      obtain ⟨nesting, rfl⟩ := Nat.exists_eq_succ_of_ne_zero (Nat.ne_of_gt h)
      exact .obj (forall_stepMembers Json.fits_str fun _ n _ => Json.fits_int n)
  | cons t rest ih =>
      obtain ⟨nesting, rfl⟩ := Nat.exists_eq_succ_of_ne_zero
        (Nat.ne_of_gt (Nat.lt_of_lt_of_le (Nat.succ_pos _) h))
      refine .obj (List.forall_mem_append.mpr ⟨?_, List.forall_mem_singleton.mpr ?_⟩)
      · exact forall_stepMembers Json.fits_str fun _ n _ => Json.fits_int n
      · exact ih t (Nat.le_of_succ_le_succ h)

theorem decode_encode (h : r.InRange nesting) : decode nesting (.ofJson r.encode) = .ok r :=
  decodeWithin_spelled (spelled_encode r) (fits_encode h.length)

theorem whole_encode (h : r.InRange depth) : r.encode.Whole := by
  obtain ⟨s, rest⟩ := r
  obtain ⟨-, hgroups⟩ := h
  induction rest generalizing s with
  | nil => exact .obj (forall_stepMembers .str fun p n hs => .int n
      (hgroups p n (hs ▸ List.mem_cons_self)))
  | cons t rest ih =>
      refine .obj (List.forall_mem_append.mpr ⟨?_, List.forall_mem_singleton.mpr ?_⟩)
      · exact forall_stepMembers .str fun p n hs => .int n (hgroups p n (hs ▸ List.mem_cons_self))
      · exact ih t fun p n hmem => hgroups p n (List.mem_cons_of_mem s hmem)

end Rule

/-! ### Values for fields -/

theorem memberOf_eq (key : String) (v : Option Json) :
    memberOf key v = (v.map fun v => (Text.of key, v)).toList := by
  cases v <;> rfl

/-- A list is left out when it is empty. -/
def listValue {α : Type} (encode : α → Json) (list : List α) : Option Json :=
  if list.isEmpty then none else some (.arr (list.map encode))

theorem listMember_eq {α : Type} (key : String) (encode : α → Json) (list : List α) :
    listMember key encode list = memberOf key (listValue encode list) := by
  cases list <;> rfl

section Whole

variable {α : Type} {encode : α → Json}

theorem whole_of_some {v : Json} (h : v.Whole) : ∀ w, some v = some w → w.Whole := by
  rintro _ ⟨⟩
  exact h

theorem whole_of_map {value : Option α} (h : ∀ a, value = some a → (encode a).Whole) :
    ∀ w, value.map encode = some w → w.Whole := by
  intro w hw
  obtain ⟨a, ha, rfl⟩ := Option.map_eq_some_iff.mp hw
  exact h a ha

theorem whole_of_listValue {list : List α} (h : ∀ a ∈ list, (encode a).Whole) :
    ∀ w, listValue encode list = some w → w.Whole := by
  intro w hw
  rw [listValue] at hw
  split at hw
  · cases hw
  · cases hw
    exact .arr (List.forall_mem_map.mpr h)

end Whole

/-- A field for a list is set to that list, if it is empty before. -/
theorem Record.setIf_list {σ α : Type} {nesting : Nat} {field : Field σ} {encode : α → Json}
    {list : List α} {read : Nat → Document → Decoded α} (store : List α → σ)
    (h : ∀ a ∈ list, read nesting (.ofJson (encode a)) = .ok a)
    (hput : ∀ d, field.put (nesting + 1) d (store []) = (d.list read (nesting + 1)).map store) :
    setIf (nesting + 1) (store []) field (listValue encode list) = .ok (store list) := by
  cases list with
  | nil => rfl
  | cons a rest => exact setIf_value store (Document.list_of_items h) hput

/-! ### Older extractions and substitutions -/

namespace LegacyMatch

/-- The values of the fields in order. -/
def values (m : LegacyMatch) : List (Option Json) :=
  [some (.str m.pattern), m.group.map fun n : Nat => .int n]

theorem encode_eq (m : LegacyMatch) : m.encode = .obj (Record.named record.fields m.values) := by
  obtain ⟨p, g⟩ := m
  cases g <;> rfl

theorem separate : Record.Separate record.fields := by
  constructor <;> simp [record, Text.of]

theorem decode_encode (m : LegacyMatch) (nesting : Nat) :
    record.decode (nesting + 1) (.ofJson m.encode) = .ok m := by
  have hassign : Record.assign nesting {} (Record.written record.fields m.values) =
      .ok ⟨some m.pattern, m.group⟩ :=
    Record.assign_written rfl (Record.assign_written (Record.setIf_optional
      (fun g => (⟨some m.pattern, g⟩ : Draft)) (Rule.readAs_group (.inl rfl)) fun _ => rfl) rfl)
  rw [encode_eq]
  exact Record.decode_named separate hassign rfl

theorem whole_encode {m : LegacyMatch}
    (h : ∀ n, m.group = some n → n ≤ Document.maxUnsigned) : m.encode.Whole := by
  rw [encode_eq]
  refine Record.whole_named ?_
  simp only [values, List.forall_mem_cons, List.not_mem_nil, false_imp_iff, implies_true, and_true]
  exact ⟨whole_of_some (.str m.pattern), whole_of_map fun n hn => .int n (h n hn)⟩

end LegacyMatch

namespace Substitution

/-- The values of the fields in order. -/
def values (s : Substitution) : List (Option Json) :=
  [some (.str s.pattern), s.replacement.map .str]

theorem encode_eq (s : Substitution) : s.encode = .obj (Record.named record.fields s.values) := by
  obtain ⟨p, t⟩ := s
  cases t <;> rfl

theorem separate : Record.Separate record.fields := by
  constructor <;> simp [record, Text.of]

theorem decode_encode (s : Substitution) (nesting : Nat) :
    record.decode (nesting + 1) (.ofJson s.encode) = .ok s := by
  have hassign : Record.assign nesting {} (Record.written record.fields s.values) =
      .ok ⟨some s.pattern, s.replacement⟩ :=
    Record.assign_written rfl (Record.assign_written (Record.setIf_optional
      (fun t => (⟨some s.pattern, t⟩ : Draft)) (Rule.readAs_text (.inl rfl)) fun _ => rfl) rfl)
  rw [encode_eq]
  exact Record.decode_named separate hassign rfl

theorem whole_encode (s : Substitution) : s.encode.Whole := by
  rw [encode_eq]
  refine Record.whole_named ?_
  simp only [values, List.forall_mem_cons, List.not_mem_nil, false_imp_iff, implies_true, and_true]
  exact ⟨whole_of_some (.str s.pattern), whole_of_map fun t _ => .str t⟩

end Substitution

/-! ### Settings -/

namespace ProjectSettings

variable {depth : Nat} {s : ProjectSettings}

/-- The values of the fields in order. -/
def values (s : ProjectSettings) : List (Option Json) :=
  [s.extensions.map fun list => .arr (list.map .str), listValue Rule.encode s.rules,
    listValue LegacyMatch.encode s.legacyMatches, listValue Substitution.encode s.replaces]

theorem encode_eq (s : ProjectSettings) :
    s.encode = .obj (Record.named record.fields s.values) := by
  simp only [encode, values, record, Record.named_cons, Record.named_nil, listMember_eq,
    memberOf_eq, List.append_assoc, List.append_nil]

theorem separate : Record.Separate record.fields := by
  constructor <;> simp [record, Text.of]

/-- Extensions are written even when there are none, since settings without extensions are others
than settings with an empty list of them. -/
theorem readAs_extensions (extensions : Option (List Text)) (nesting : Nat) :
    Record.ReadAs (decodeTexts (nesting + 1))
      (extensions.map fun list => .arr (list.map .str)) extensions := by
  cases extensions with
  | none => rfl
  | some list =>
      exact Result.map_eq_ok.mpr ⟨list, Document.list_of_items fun _ _ => rfl, rfl⟩

theorem decode_encode (h : s.InRange (depth + 1)) :
    record.decode (depth + 3) (.ofJson s.encode) = .ok s := by
  have hassign : Record.assign (depth + 2) {} (Record.written record.fields s.values) = .ok s := by
    refine Record.assign_written (Record.setIf_optional
      (fun list => ({ extensions := list } : ProjectSettings))
      (readAs_extensions s.extensions (depth + 1)) fun _ => rfl) ?_
    refine Record.assign_written (Record.setIf_list
      (fun list => ({ extensions := s.extensions, rules := list } : ProjectSettings))
      (fun r hr => Rule.decode_encode (h.rules r hr)) fun _ => rfl) ?_
    refine Record.assign_written (Record.setIf_list
      (fun list => (⟨s.extensions, s.rules, list, []⟩ : ProjectSettings))
      (fun m _ => LegacyMatch.decode_encode m depth) fun _ => rfl) ?_
    exact Record.assign_written (Record.setIf_list
      (fun list => (⟨s.extensions, s.rules, s.legacyMatches, list⟩ : ProjectSettings))
      (fun t _ => Substitution.decode_encode t depth) fun _ => rfl) rfl
  rw [encode_eq]
  exact Record.decode_named separate hassign rfl

theorem whole_encode (h : s.InRange depth) : s.encode.Whole := by
  have hextensions : ∀ list : List Text, (Json.arr (list.map .str)).Whole :=
    fun list => .arr (List.forall_mem_map.mpr fun t _ => .str t)
  rw [encode_eq]
  refine Record.whole_named ?_
  simp only [values, List.forall_mem_cons, List.not_mem_nil, false_imp_iff, implies_true, and_true]
  refine ⟨?extensions, ?rules, ?legacy, ?replaces⟩
  case extensions => exact whole_of_map fun list _ => hextensions list
  case rules => exact whole_of_listValue fun r hr => Rule.whole_encode (h.rules r hr)
  case legacy => exact whole_of_listValue fun m hm => LegacyMatch.whole_encode (h.groups m hm)
  case replaces => exact whole_of_listValue fun t _ => t.whole_encode

end ProjectSettings

namespace WordingsSettings

/-- The values of the fields in order. -/
def values (s : WordingsSettings) : List (Option Json) :=
  [listValue Substitution.encode s.replaces]

theorem encode_eq (s : WordingsSettings) :
    s.encode = .obj (Record.named record.fields s.values) := by
  simp only [encode, values, record, Record.named_cons, Record.named_nil, listMember_eq,
    memberOf_eq, List.append_nil]

theorem separate : Record.Separate record.fields := by
  constructor <;> simp [record, Text.of]

theorem decode_encode (s : WordingsSettings) (nesting : Nat) :
    record.decode (nesting + 3) (.ofJson s.encode) = .ok s := by
  have hassign : Record.assign (nesting + 2) {} (Record.written record.fields s.values) = .ok s :=
    Record.assign_written (Record.setIf_list WordingsSettings.mk
      (fun t _ => Substitution.decode_encode t nesting) fun _ => rfl) rfl
  rw [encode_eq]
  exact Record.decode_named separate hassign rfl

theorem whole_encode (s : WordingsSettings) : s.encode.Whole := by
  rw [encode_eq]
  exact Record.whole_named (List.forall_mem_singleton.mpr
    (whole_of_listValue fun t _ => t.whole_encode))

end WordingsSettings

namespace Config

variable {depth : Nat} {c : Config}

/-- The values of the fields in order. The last four are always there. -/
def values (c : Config) : List (Option Json) :=
  [c.projectPath.map .str, c.project.map ProjectSettings.encode, c.wordingsSource.map .str,
    some c.wordings.encode, some ((c.wildcard.map Json.str).getD .null),
    some (.bool c.acceptPart), some (.int c.fetchTimeout)]

theorem encode_eq (c : Config) : c.encode = .obj (Record.named record.fields c.values) := by
  simp only [encode, values, record, Record.named_cons, Record.named_nil, memberOf_eq,
    List.append_assoc, Option.map_some, Option.toList_some, List.append_nil, List.cons_append,
    List.nil_append]

theorem separate : Record.Separate record.fields := by
  constructor <;> simp [record, Text.of]

theorem readAs_text (wanted : Text) (t : Option Text) :
    Record.ReadAs (Document.text wanted) (t.map .str) t := by
  cases t <;> rfl

theorem readAs_project (h : ∀ s, c.project = some s → s.InRange (depth + 1)) :
    Record.ReadAs (ProjectSettings.record.decode (depth + 3))
      (c.project.map ProjectSettings.encode) c.project := by
  cases hproject : c.project with
  | none => rfl
  | some s => exact Result.map_eq_ok.mpr ⟨s, ProjectSettings.decode_encode (h s hproject), rfl⟩

/-- Having no wildcard is written as null, since a document that says nothing of it has one. -/
theorem read_wildcard (wanted : Text) (t : Option Text) :
    (Document.ofJson ((t.map Json.str).getD .null)).optional (Document.text wanted) = .ok t := by
  cases t <;> rfl

theorem decode_encode (h : c.InRange (depth + 1)) :
    record.decode (depth + 4) (.ofJson c.encode) = .ok c := by
  -- The fields are set in order; those that come later keep what they are when nothing is stated.
  have hassign : Record.assign (depth + 3) {} (Record.written record.fields c.values) = .ok c := by
    refine Record.assign_written (Record.setIf_optional
      (fun t => ({ projectPath := t } : Config)) (readAs_text _ c.projectPath) fun _ => rfl) ?_
    refine Record.assign_written (Record.setIf_optional
      (fun s => ({ projectPath := c.projectPath, project := s } : Config))
      (readAs_project h.project) fun _ => rfl) ?_
    refine Record.assign_written (Record.setIf_optional
      (fun source => ({
        projectPath := c.projectPath, project := c.project, wordingsSource := source } : Config))
      (readAs_text _ c.wordingsSource) fun _ => rfl) ?_
    refine Record.assign_written (Record.setIf_value
      (fun s => ({
        projectPath := c.projectPath, project := c.project, wordingsSource := c.wordingsSource,
        wordings := s } : Config))
      (WordingsSettings.decode_encode c.wordings depth) fun _ => rfl) ?_
    refine Record.assign_written (Record.setIf_value
      (fun t => ({
        projectPath := c.projectPath, project := c.project, wordingsSource := c.wordingsSource,
        wordings := c.wordings, wildcard := t } : Config))
      (read_wildcard _ c.wildcard) fun _ => rfl) ?_
    refine Record.assign_written (Record.setIf_value
      (fun part => ({
        projectPath := c.projectPath, project := c.project, wordingsSource := c.wordingsSource,
        wordings := c.wordings, wildcard := c.wildcard, acceptPart := part } : Config))
      (rfl : (Document.bool c.acceptPart).boolean = .ok c.acceptPart) fun _ => rfl) ?_
    exact Record.assign_written (Record.setIf_value
      (Config.mk c.projectPath c.project c.wordingsSource c.wordings c.wildcard c.acceptPart)
      (Document.natural_natCast _ c.fetchTimeout) fun _ => rfl) rfl
  rw [encode_eq]
  exact Record.decode_named separate hassign rfl

theorem whole_encode (h : c.InRange depth) : c.encode.Whole := by
  rw [encode_eq]
  refine Record.whole_named ?_
  simp only [values, List.forall_mem_cons, List.not_mem_nil, false_imp_iff, implies_true, and_true]
  refine ⟨?path, ?project, ?source, ?wordings, ?wildcard, ?part, ?timeout⟩
  case path => exact whole_of_map fun t _ => .str t
  case project => exact whole_of_map fun s hs => ProjectSettings.whole_encode (h.project s hs)
  case source => exact whole_of_map fun t _ => .str t
  case wordings => exact whole_of_some c.wordings.whole_encode
  case wildcard =>
    cases c.wildcard with
    | none => exact whole_of_some .null
    | some t => exact whole_of_some (.str t)
  case part => exact whole_of_some (.bool _)
  case timeout => exact whole_of_some (.int _ h.timeout)

/-- Settings in range are read from the text that they are written as. -/
theorem read_render (h : c.InRange (Document.maxNesting - 3)) : read c.encode.render = .ok c := by
  have hread := Document.read_render (whole_encode h)
  refine Result.mapError_eq_ok.mpr (decodeText_eq_ok.mpr ?_)
  rw [hread]
  exact ⟨decode_encode h, rfl⟩

/-- Settings that were read are read again from the text that they are written as, and are then
written as the same text. -/
theorem read_render_encode {t : Text} (h : read t = .ok c) :
    read c.encode.render = .ok c ∧
      (read c.encode.render).map (fun again => again.encode.render) = .ok c.encode.render := by
  have hread := read_render (inRange_of_read h)
  exact ⟨hread, Result.map_eq_ok.mpr ⟨c, hread, rfl⟩⟩

/-- Settings in which nothing is left out, with older names, a rule inside a rule and the largest
numbers. -/
def sampleText : Text :=
  Text.of "\x7b\"projectSourcePath\":\"src\", \"wordingsSource\":\"en.arb\"," ++
    Text.of "\"include\":true, \"fetchTimeoutSecs\":18446744073709551615," ++
    Text.of "\"wildcard\":null, \"wordingsSourceParser\":" ++
    Text.of "\x7b\"replaces\":[\x7b\"regex\":\"-\", \"by\":\"_\"\x7d]\x7d," ++
    Text.of "\"projectSourceParser\": \x7b\"extensions\":[\"js\", \".ts\"]," ++
    Text.of "\"matches\":[\x7b\"regex\":\"k\", \"position\":2\x7d]," ++
    Text.of "\"replaces\":[\x7b\"pattern\":\"p\"\x7d]," ++
    Text.of "\"rules\":[[\"match\", \"a(b)\", 18446744073709551615," ++
    Text.of "\x7b\"type\":\"replace\", \"regex\":\"\\u00e9\", \"by\":\"\"\x7d]]\x7d\x7d"

def sampleConfig : Config :=
  { projectPath := some (Text.of "src")
    project := some {
      extensions := some [Text.of "js", Text.of ".ts"]
      rules := [⟨.extract (Text.of "a(b)") (some Document.maxUnsigned),
        [.replace (Text.of "é") (some [])]⟩]
      legacyMatches := [⟨Text.of "k", some 2⟩]
      replaces := [⟨Text.of "p", none⟩] }
    wordingsSource := some (Text.of "en.arb")
    wordings := { replaces := [⟨Text.of "-", some (Text.of "_")⟩] }
    wildcard := none
    acceptPart := true
    fetchTimeout := Document.maxUnsigned }

theorem read_render_encode_sample :
    read sampleText = .ok sampleConfig ∧ read sampleConfig.encode.render = .ok sampleConfig ∧
      (read sampleConfig.encode.render).map (fun again => again.encode.render) =
        .ok sampleConfig.encode.render := by
  have hread : read sampleText = .ok sampleConfig := by decide +kernel
  exact ⟨hread, read_render_encode hread⟩

end Config

end WordingAudit
