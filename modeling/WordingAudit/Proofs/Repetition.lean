import WordingAudit.Proofs.Spelling

/-!
Rules in which a field is written twice, under its two names or under one. However deep that is, it
is the error with which the whole rule is refused. A rule is read from all its other spellings.
-/

namespace WordingAudit.Rule

/-- A value that stands for a field of some step of this kind. -/
def Takes (kind : StepKind) (names : List Text) (v : Json) : Prop :=
  ∃ s : Step, s.kind = kind ∧ ∃ value, (names, value) ∈ kind.names.zip s.values ∧
    Writes value (some v)

/-- A JSON value would be a rule, but somewhere in it an object has a field twice, under one name or
under two. -/
inductive SpelledTwice : Json → Prop
  /-- All values are as they should be, with a rule in the place of each rule that follows, unless
  that one has a field twice as well. -/
  | here {kind : StepKind} {members : List (Text × Json)}
      (type : Json.valuesOf members [typeKey] = [.str kind.name])
      (own : ∀ names ∈ kind.names, ∀ v ∈ Json.valuesOf members names, Takes kind names v)
      (after : ∀ v ∈ Json.valuesOf members nextNames,
        v ≠ .null → (¬ ∃ r : Rule, r.Spelled v) → SpelledTwice v)
      (twice : ∃ names ∈ kind.names ++ [nextNames], 2 ≤ (Json.valuesOf members names).length) :
      SpelledTwice (.obj members)
  | inside {s : Step} {v w : Json} (step : WrittenStep s (fun next => next = some w) v)
      (twice : SpelledTwice w) : SpelledTwice v

/-- A rule has a field with this name. -/
def IsFieldName (name : Text) : Prop :=
  ∃ kind : StepKind, ∃ names ∈ kind.names ++ [nextNames], names.head? = some name

/-! ### Values that fields take -/

variable {readNext : Document → Decoded Rule} {kind : StepKind} {nesting : Nat} {f : Field Draft}
  {v : Json} {draft : Draft}

theorem set_own {s : Step} {value : Option Json}
    (h : (f, value) ∈ (fields readNext s.kind).zip s.values) (hwrites : Writes value (some v)) :
    ∃ next, Record.set nesting draft (f, v) = .ok next := by
  cases s with
  | extract p g =>
      simp only [fields, Step.kind, Step.values, List.zip_cons_cons, List.zip_nil_right,
        List.mem_cons, List.not_mem_nil, or_false, Prod.mk.injEq] at h
      rcases h with ⟨rfl, rfl⟩ | ⟨rfl, rfl⟩
      · obtain rfl := Option.some.inj (eq_of_writes_some hwrites)
        exact ⟨_, rfl⟩
      · exact ⟨_, Result.map_eq_ok.mpr ⟨_, readAs_group hwrites, rfl⟩⟩
  | replace p t =>
      simp only [fields, Step.kind, Step.values, List.zip_cons_cons, List.zip_nil_right,
        List.mem_cons, List.not_mem_nil, or_false, Prod.mk.injEq] at h
      rcases h with ⟨rfl, rfl⟩ | ⟨rfl, rfl⟩
      · obtain rfl := Option.some.inj (eq_of_writes_some hwrites)
        exact ⟨_, rfl⟩
      · exact ⟨_, Result.map_eq_ok.mpr ⟨_, readAs_text hwrites, rfl⟩⟩
  | ignore p =>
      simp only [fields, Step.kind, Step.values, List.zip_cons_cons, List.zip_nil_right,
        List.mem_cons, List.not_mem_nil, or_false, Prod.mk.injEq] at h
      obtain ⟨rfl, rfl⟩ := h
      obtain rfl := Option.some.inj (eq_of_writes_some hwrites)
      exact ⟨_, rfl⟩

theorem set_of_takes (hf : f ∈ fields readNext kind) (h : Takes kind f.spellings v) :
    ∃ next, Record.set nesting draft (f, v) = .ok next := by
  obtain ⟨s, rfl, value, hmem, hwrites⟩ := h
  have hzip : (f.spellings, value) ∈ ((fields readNext s.kind).map (·.spellings)).zip s.values := by
    rw [fields_spellings, ← List.append_nil s.values, List.zip_append (values_length s).symm]
    exact List.mem_append_left _ hmem
  rw [List.zip_map_left] at hzip
  obtain ⟨⟨g, _⟩, hg, heq⟩ := List.mem_map.mp hzip
  obtain ⟨hspellings, rfl⟩ := Prod.mk.inj heq
  obtain rfl := eq_of_spellings (List.of_mem_zip hg).1 hf hspellings
  exact set_own hg hwrites

/-- The values that are there for the fields of a step are put into them, or a rule that follows has
a field twice. -/
theorem repeating_of_takes (readNext : Document → Decoded Rule) (kind : StepKind)
    {list : List (Field Draft × Json)}
    (hown : ∀ s ∈ list, s.1 ∈ fields readNext kind ∧
      (Takes kind s.1.spellings s.2 ∨ s.1.spellings = nextNames ∧
        ((∃ r, (Document.ofJson s.2).optional readNext = .ok r) ∨ ∃ name, IsFieldName name ∧
          (Document.ofJson s.2).optional readNext = .error (.duplicateField name)))) :
    Record.Repeating IsFieldName nesting list := by
  intro s hs draft
  obtain ⟨hf, htakes | ⟨hnames, hnext⟩⟩ := hown s hs
  · exact .inl (set_of_takes hf htakes)
  · obtain ⟨g, hg, hgnames, hset⟩ := exists_next readNext kind
    have hsame : s = (g, s.2) :=
      Prod.ext (eq_of_spellings hf hg (hnames.trans hgnames.symm)) rfl
    rw [hsame, hset]
    rcases hnext with ⟨r, hr⟩ | ⟨name, hname, herror⟩
    · exact .inl ⟨_, Result.map_eq_ok.mpr ⟨r, hr, rfl⟩⟩
    · exact .inr ⟨name, hname, Result.map_eq_error.mpr herror⟩

theorem exists_mem_zip {values written : List (Option Json)} {all : List (List Text)}
    {names : List Text} (h : List.Forall₂ Writes values written)
    (hmem : (names, some v) ∈ all.zip written) :
    ∃ value, (names, value) ∈ all.zip values ∧ Writes value (some v) := by
  induction h generalizing all with
  | nil => simp at hmem
  | cons hfirst _ ih =>
      cases all with
      | nil => simp at hmem
      | cons first all =>
          rcases List.mem_cons.mp hmem with heq | hmem
          · obtain ⟨rfl, rfl⟩ := Prod.mk.inj heq
            exact ⟨_, List.mem_cons_self, hfirst⟩
          · obtain ⟨value, hvalue, hwrites⟩ := ih hmem
            exact ⟨value, List.mem_cons_of_mem _ hvalue, hwrites⟩

/-- What is written for a step and for a rule after it that has a field twice: the value of that
rule is refused, and the others are not. -/
theorem repeating_written (nesting : Nat) {s : Step} {values : List (Option Json)} {w : Json}
    (own : List.Forall₂ Writes s.values values) (hnull : w ≠ .null)
    (hw : ∃ name, IsFieldName name ∧ readNext (.ofJson w) = .error (.duplicateField name)) :
    Record.Repeating IsFieldName nesting
        (Record.written (fields readNext s.kind) (values ++ [some w])) ∧
      ∃ t ∈ Record.written (fields readNext s.kind) (values ++ [some w]), ∀ draft next,
        Record.set nesting draft t ≠ .ok next := by
  obtain ⟨name, hname, herror⟩ := hw
  have hrefused : (Document.ofJson w).optional readNext = .error (.duplicateField name) :=
    (Document.optional_of_ne_null hnull readNext).trans (Result.map_eq_error.mpr herror)
  have hzip : ((fields readNext s.kind).zip (values ++ [some w])).map (Prod.map (·.spellings) id) =
      s.kind.names.zip values ++ [(nextNames, some w)] := by
    rw [← List.zip_map_left, fields_spellings,
      List.zip_append ((values_length s).symm.trans own.length_eq)]
    rfl
  constructor
  · refine repeating_of_takes readNext s.kind fun t ht => ?_
    have hmem := Record.mem_written.mp ht
    refine ⟨(List.of_mem_zip hmem).1, ?_⟩
    have hnames := List.mem_map_of_mem (f := Prod.map (·.spellings) id) hmem
    rw [hzip, List.mem_append, List.mem_singleton] at hnames
    rcases hnames with hnames | hnames
    · exact .inl ⟨s, rfl, exists_mem_zip own hnames⟩
    · obtain ⟨hnext, hvalue⟩ := Prod.mk.inj hnames
      rw [Option.some.inj hvalue]
      exact .inr ⟨hnext, .inr ⟨name, hname, hrefused⟩⟩
  · have hlast : (nextNames, some w) ∈ s.kind.names.zip values ++ [(nextNames, some w)] :=
      List.mem_append_right _ (List.mem_singleton_self _)
    rw [← hzip] at hlast
    obtain ⟨⟨f, _⟩, hf, heq⟩ := List.mem_map.mp hlast
    obtain ⟨hnames, rfl⟩ := Prod.mk.inj heq
    refine ⟨(f, w), Record.mem_written.mpr hf, fun draft next hnext => ?_⟩
    obtain ⟨g, hg, hgnames, hset⟩ := exists_next readNext s.kind
    have hsame := eq_of_spellings (List.of_mem_zip hf).1 hg (hnames.trans hgnames.symm)
    rw [hsame, hset, hrefused] at hnext
    cases hnext

theorem ne_null_of_spelledTwice (h : SpelledTwice v) : v ≠ .null := by
  cases h with
  | here => nofun
  | inside step => exact ne_null_of_writtenStep step

theorem isFieldName_of_mem (hf : f ∈ fields readNext kind) : IsFieldName f.name :=
  ⟨kind, f.spellings, fields_spellings readNext kind ▸ List.mem_map_of_mem hf,
    fields_head readNext kind f hf⟩

/-- An object that is refused, with no other reason to refuse it, is refused for a field that is
there twice. -/
theorem decodeWithin_obj_error {inner : Bool} {members : List (Text × Json)}
    (hfits : ∀ m ∈ members, m.2.Fits nesting)
    (htype : Json.valuesOf members [typeKey] = [.str kind.name])
    (hrepeating : Record.Repeating IsFieldName nesting
      (Record.settings (fields (decodeWithin true nesting) kind) members))
    (hrefused : ((Record.settings (fields (decodeWithin true nesting) kind) members).map
        fun s => s.1.name).Nodup → ∀ final,
      Record.assign nesting {} (Record.settings (fields (decodeWithin true nesting) kind) members) ≠
        .ok final) :
    ∃ name, IsFieldName name ∧
      decodeWithin inner (nesting + 1) (.ofJson (.obj members)) =
        .error (.duplicateField name) := by
  rw [decodeWithin_obj hfits htype]
  rw [← settings_others] at hrepeating hrefused
  have hnames : ∀ s ∈ Record.settings (fields (decodeWithin true nesting) kind)
      (members.filter fun m => m.1 ≠ typeKey), IsFieldName s.1.name :=
    fun s hs => isFieldName_of_mem (Record.mem_settings hs).1
  rcases Record.putMembers_ok_or (r := record (decodeWithin true nesting) kind) {} [] hrepeating
    hnames with ⟨final, hfinal⟩ | ⟨name, hname, herror⟩
  · obtain ⟨hnodup, -, hassign⟩ := Record.assign_of_putMembers hfinal
    exact absurd hassign (hrefused hnodup final)
  · exact ⟨name, hname, Result.bind_eq_error.mpr (.inl herror)⟩

theorem repeating_settings {members : List (Text × Json)}
    (hown : ∀ names ∈ kind.names, ∀ v ∈ Json.valuesOf members names, Takes kind names v)
    (hafter : ∀ v ∈ Json.valuesOf members nextNames,
      (∃ r, (Document.ofJson v).optional readNext = .ok r) ∨ ∃ name, IsFieldName name ∧
        (Document.ofJson v).optional readNext = .error (.duplicateField name)) :
    Record.Repeating IsFieldName nesting (Record.settings (fields readNext kind) members) := by
  refine repeating_of_takes readNext kind fun s hs => ?_
  obtain ⟨hf, hvalue⟩ := Record.mem_settings hs
  have hnames : s.1.spellings ∈ kind.names ++ [nextNames] :=
    fields_spellings readNext kind ▸ List.mem_map_of_mem hf
  rcases List.mem_append.mp hnames with hnames | hnames
  · exact ⟨hf, .inl (hown _ hnames _ hvalue)⟩
  · have hnext := List.mem_singleton.mp hnames
    exact ⟨hf, .inr ⟨hnext, hafter _ (hnext ▸ hvalue)⟩⟩

/-- Where a field is there twice, it is refused. -/
theorem decodeWithin_spelledTwice {inner : Bool} (h : SpelledTwice v) (hfits : v.Fits nesting) :
    ∃ name, IsFieldName name ∧
      decodeWithin inner nesting (.ofJson v) = .error (.duplicateField name) := by
  induction h generalizing inner nesting with
  | @here kind members htype hown hafter htwice ih =>
      obtain ⟨depth, rfl, hmembers⟩ := hfits.members
      have hnext : ∀ v ∈ Json.valuesOf members nextNames,
          (∃ r, (Document.ofJson v).optional (decodeWithin true depth) = .ok r) ∨
            ∃ name, IsFieldName name ∧
              (Document.ofJson v).optional (decodeWithin true depth) =
                .error (.duplicateField name) := by
        intro v hv
        obtain ⟨m, hm, rfl⟩ := List.mem_map.mp hv
        have hdeep := hmembers m (List.mem_filter.mp hm).1
        by_cases hnull : m.2 = .null
        · rw [hnull]
          exact .inl ⟨none, rfl⟩
        · rw [Document.optional_of_ne_null hnull]
          by_cases hrule : ∃ r : Rule, r.Spelled m.2
          · obtain ⟨r, hr⟩ := hrule
            exact .inl ⟨some r, Result.map_eq_ok.mpr ⟨r, decodeWithin_spelled hr hdeep, rfl⟩⟩
          · obtain ⟨name, hname, herror⟩ := ih m.2 hv hnull hrule hdeep
            exact .inr ⟨name, hname, Result.map_eq_error.mpr herror⟩
      refine decodeWithin_obj_error hmembers htype (repeating_settings hown hnext) ?_
      intro hnodup final _
      obtain ⟨names, hnames, hlength⟩ := htwice
      rw [← fields_spellings (decodeWithin true depth) kind] at hnames
      obtain ⟨f, hf, rfl⟩ := List.mem_map.mp hnames
      have hle := Record.valuesOf_length_le (fields_disjoint _ kind) hf hnodup
      omega
  | @inside s v w hstep htwice ih =>
      have hnull := ne_null_of_spelledTwice htwice
      cases hstep with
      | @object members values next htype hown hnext hfields hlast =>
          subst hnext
          obtain ⟨depth, rfl, hmembers⟩ := hfits.members
          have hmem : w ∈ Json.valuesOf members nextNames := by simp [hlast]
          obtain ⟨m, hm, rfl⟩ := List.mem_map.mp hmem
          have hdeep := hmembers m (List.mem_filter.mp hm).1
          have hperm := settings_perm_written (decodeWithin true depth) hfields hlast
          obtain ⟨hrepeating, t, ht, hstops⟩ := repeating_written depth hown hnull (ih hdeep)
          refine decodeWithin_obj_error hmembers htype
            (fun u hu => hrepeating u (hperm.mem_iff.mp hu)) fun _ final hassign => ?_
          obtain ⟨before, after, hset⟩ :=
            Record.exists_set_of_assign hassign t (hperm.mem_iff.mpr ht)
          exact hstops before after hset
      | @array items missing values next hown hnext hitems =>
          subst hnext
          obtain ⟨depth, rfl, hall⟩ := hfits.items
          obtain ⟨-, hall⟩ := List.forall_mem_cons.mp hall
          have hmem : some w ∈ items.map some ++ List.replicate missing none := by simp [hitems]
          have hdeep := hall w (by simpa using hmem)
          obtain ⟨hrepeating, t, ht, hstops⟩ := repeating_written depth hown hnull (ih hdeep)
          rw [← hitems, Record.written_items] at hrepeating ht
          rw [decodeWithin_arr hall]
          rcases Record.assign_ok_or {} hrepeating with
            ⟨final, hfinal⟩ | ⟨name, hname, herror⟩
          · obtain ⟨before, after, hset⟩ := Record.exists_set_of_assign hfinal t ht
            exact absurd hset (hstops before after)
          · exact ⟨name, hname, Result.bind_eq_error.mpr
              (.inl ((Record.putItems_eq items).trans herror))⟩

/-- A rule is read from every one of its spellings, and where a field is there twice that is the
error. -/
theorem decode_spellings {d : Document} (h : d.value? nesting = some v) :
    (∀ r : Rule, r.Spelled v → decode nesting d = .ok r) ∧
      (SpelledTwice v →
        ∃ name, IsFieldName name ∧ decode nesting d = .error (.duplicateField name)) := by
  have hfits : v.Fits nesting := by
    rw [Json.Fits, ← Document.eq_ofJson_of_value? h]
    exact h
  rw [Document.eq_ofJson_of_value? h]
  exact ⟨fun r hr => decodeWithin_spelled hr hfits,
    fun htwice => decodeWithin_spelledTwice htwice hfits⟩

/-- A rule of two steps: the outer one is an object whose type comes last and the inner one an array
without its last field. -/
def mixedSpelling : Json :=
  .obj [(Text.of "position", .int 2), (Text.of "note", .arr [.null]),
    (Text.of "next", .arr [.str (Text.of "replace"), .str (Text.of "b"), .null]),
    (Text.of "regex", .str (Text.of "a(b)(c)")), (Text.of "type", .str (Text.of "match"))]

/-- A rule whose second step has a pattern under both names. -/
def doubleSpelling : Json :=
  .arr [.str (Text.of "ignore"), .str (Text.of "a"),
    .obj [(Text.of "pattern", .str (Text.of "b")), (Text.of "type", .str (Text.of "ignore")),
      (Text.of "regex", .str (Text.of "c"))]]

theorem decode_spellings_sample :
    (Document.ofJson mixedSpelling).value? 2 = some mixedSpelling ∧
      (Document.ofJson doubleSpelling).value? 2 = some doubleSpelling ∧
      decode 2 (.ofJson mixedSpelling) =
        .ok ⟨.extract (Text.of "a(b)(c)") (some 2), [.replace (Text.of "b") none]⟩ ∧
      ∃ name, IsFieldName name ∧
        decode 2 (.ofJson doubleSpelling) = .error (.duplicateField name) := by
  have hinner : WrittenStep (.replace (Text.of "b") none) (WrittenNext [])
      (.arr [.str (Text.of "replace"), .str (Text.of "b"), .null]) :=
    @WrittenStep.array _ _ [.str (Text.of "b"), .null] 1 [some (.str (Text.of "b")), some .null]
      none (.cons (.inl rfl) (.cons (.inr ⟨rfl, rfl⟩) .nil)) (.inl rfl) rfl
  have hmixed : Spelled ⟨.extract (Text.of "a(b)(c)") (some 2), [.replace (Text.of "b") none]⟩
      mixedSpelling :=
    .object rfl (.cons (.inl rfl) (.cons (.inl rfl) .nil)) ⟨_, rfl, hinner⟩
      (.cons rfl (.cons rfl .nil)) rfl
  have htext : ∀ t, Takes .ignore [Text.of "pattern", Text.of "regex"] (.str t) :=
    fun t => ⟨.ignore t, rfl, some (.str t), List.mem_cons_self, .inl rfl⟩
  have hlast : SpelledTwice (.obj [(Text.of "pattern", .str (Text.of "b")),
      (Text.of "type", .str (Text.of "ignore")), (Text.of "regex", .str (Text.of "c"))]) := by
    refine @SpelledTwice.here .ignore _ rfl (List.forall_mem_singleton.mpr ?_)
      (fun v hv => absurd hv List.not_mem_nil) ⟨_, List.mem_cons_self, Nat.le_refl 2⟩
    exact List.forall_mem_cons.mpr ⟨htext _, List.forall_mem_singleton.mpr (htext _)⟩
  have hdouble : SpelledTwice doubleSpelling :=
    .inside (@WrittenStep.array (.ignore (Text.of "a")) _ [.str (Text.of "a"), _] 0
      [some (.str (Text.of "a"))] _ (.cons (.inl rfl) .nil) rfl rfl) hlast
  exact ⟨rfl, rfl, (decode_spellings rfl).1 _ hmixed, (decode_spellings rfl).2 hdouble⟩

end WordingAudit.Rule
