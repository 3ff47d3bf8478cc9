import WordingAudit.Config.Basic
import WordingAudit.Proofs.Files.Joining

/-!
Settings that are taken relative to a directory. Only the two paths in them change, and of these only
what was relative; a place of wordings stays the same kind of place, as neither its beginning nor its
end can come about by putting a directory in front of it.
-/

namespace WordingAudit

namespace Locator

open WordingAudit.Path (opening isAbsolute)

variable {base source : Text}

/-- The beginnings by which an address is known. -/
def schemes : List Text := [Text.of "http://", Text.of "https://"]

theorem isUrl_iff : isUrl source = true ↔ ∃ scheme ∈ schemes, scheme <+: source := by
  simp [isUrl, schemes, Text.startsWith_iff]

theorem slash_of_concat_mem : ∀ scheme ∈ schemes, ∀ before ∈ scheme.inits,
    before ++ ['/'] = scheme → ['/'] <:+ before := by
  decide

theorem concat_mem_of_slash : ∀ scheme ∈ schemes, ∀ before ∈ scheme.inits, ['/'] <:+ before →
    before ++ ['/'] = scheme ∨ before = scheme := by
  decide

/-- The slash that a directory is given does not make it the beginning of an address: there are two
slashes in that beginning, and a directory that ends in the first is not given another. -/
theorem isUrl_opening (hbase : isUrl base = false) : isUrl (opening base) = false := by
  by_cases hempty : base = []
  · rw [hempty]
    rfl
  · rcases Path.opening_cases hempty with ⟨hopening, -⟩ | ⟨hopening, hslash⟩
    · rwa [hopening]
    · rw [hopening, ← Bool.not_eq_true, isUrl_iff]
      rintro ⟨scheme, hscheme, hbegins⟩
      rcases List.prefix_concat_iff.mp hbegins with rfl | hbegins
      · have hinit : base ∈ (base ++ ['/']).inits := (List.mem_inits _ _).mpr (List.prefix_append _ _)
        exact hslash (slash_of_concat_mem _ hscheme _ hinit rfl)
      · exact Bool.false_ne_true (hbase.symm.trans (isUrl_iff.mpr ⟨scheme, hscheme, hbegins⟩))

/-- A path below a directory is no address, unless one of the two is. -/
theorem isUrl_join (hbase : isUrl base = false) (hsource : isUrl source = false) :
    isUrl (Path.join base source) = false := by
  cases hrelative : isAbsolute source with
  | true => rwa [Path.join_of_absolute hrelative]
  | false =>
      rw [Path.join_of_relative hrelative]
      rcases Path.opening_eq_nil_or base with hnil | hslash
      · rwa [hnil, List.nil_append]
      · rw [← Bool.not_eq_true, isUrl_iff]
        rintro ⟨scheme, hscheme, hbegins⟩
        have hnot : ¬scheme <+: opening base := fun h =>
          Bool.false_ne_true ((isUrl_opening hbase).symm.trans (isUrl_iff.mpr ⟨scheme, hscheme, h⟩))
        have hinit : opening base ∈ scheme.inits := (List.mem_inits _ _).mpr
          ((List.prefix_or_prefix_of_prefix hbegins (List.prefix_append _ source)).resolve_left hnot)
        rcases concat_mem_of_slash scheme hscheme _ hinit hslash with rfl | heq
        · -- the second slash would have to come from the source
          have hroot : ['/'] <+: source := (List.prefix_append_right_inj _).mp hbegins
          exact Bool.false_ne_true (hrelative.symm.trans (Path.isAbsolute_iff.mpr hroot))
        · exact hnot (heq ▸ List.prefix_refl _)

/-- Two texts are taken for the same kind of place, or neither can be used. -/
inductive SameKind (source source' : Text) : Prop
  | url (h : ofSource source = .ok (.url source)) (h' : ofSource source' = .ok (.url source'))
  | file (format : ResourceFormat) (h : ofSource source = .ok (.file source format))
      (h' : ofSource source' = .ok (.file source' format))
  | unsupported (h : ofSource source = .error (.unsupportedFormat source))
      (h' : ofSource source' = .error (.unsupportedFormat source'))

theorem ofSource_of_isUrl (h : isUrl source = true) : ofSource source = .ok (.url source) := if_pos h

/-- What a file is taken for in a directory is decided by its own name. -/
theorem ofSource_join (hbase : isUrl base = false) (hsource : isUrl source = false) :
    ofSource (Path.join base source) =
      if Text.endsWith source (Text.of ".arb") then .ok (.file (Path.join base source) .flat)
      else if Text.endsWith source (Text.of ".json") then .ok (.file (Path.join base source) .nested)
      else .error (.unsupportedFormat (Path.join base source)) := by
  have hslash : '/' ∉ Text.of ".arb" ∧ '/' ∉ Text.of ".json" := by decide
  rw [ofSource, isUrl_join hbase hsource, if_neg Bool.false_ne_true,
    Path.endsWith_join hslash.1, Path.endsWith_join hslash.2]

/-- A file stays a file with the same layout in whatever directory it is looked for. -/
theorem sameKind_join (hbase : isUrl base = false) (hsource : isUrl source = false) :
    SameKind source (Path.join base source) := by
  have halone := ofSource.eq_1 source
  have hjoined := ofSource_join hbase hsource
  rw [if_neg (by simp [hsource])] at halone
  by_cases hflat : Text.endsWith source (Text.of ".arb") = true
  · rw [if_pos hflat] at halone hjoined
    exact .file .flat halone hjoined
  · rw [if_neg hflat] at halone hjoined
    by_cases hnested : Text.endsWith source (Text.of ".json") = true
    · rw [if_pos hnested] at halone hjoined
      exact .file .nested halone hjoined
    · rw [if_neg hnested] at halone hjoined
      exact .unsupported halone hjoined

end Locator

namespace Config

open WordingAudit.Path (isAbsolute)

variable {base : Text}

/-- A place of wordings in a directory: an address stays what it is. -/
def sourceIn (base source : Text) : Text :=
  if Locator.isUrl source then source else Path.join base source

theorem resolvePaths_eq (c : Config) (base : Text) :
    c.resolvePaths base =
      { c with
        projectPath := c.projectPath.map (Path.join base)
        wordingsSource := c.wordingsSource.map (sourceIn base) } := rfl

theorem sourceIn_eq_self {source : Text}
    (h : Locator.isUrl source = true ∨ isAbsolute source = true) (base : Text) :
    sourceIn base source = source := by
  rw [sourceIn]
  split
  · rfl
  · rename_i hurl
    exact Path.join_of_absolute (h.resolve_left hurl) base

theorem sameKind_sourceIn (hbase : Locator.isUrl base = false) (source : Text) :
    Locator.SameKind source (sourceIn base source) := by
  rw [sourceIn]
  cases hurl : Locator.isUrl source with
  | true => exact .url (Locator.ofSource_of_isUrl hurl) (Locator.ofSource_of_isUrl hurl)
  | false => exact Locator.sameKind_join hbase hurl

/-- What has been put into an absolute directory can be put nowhere else. -/
theorem sourceIn_sourceIn (hbase : isAbsolute base = true) (other source : Text) :
    sourceIn other (sourceIn base source) = sourceIn base source := by
  apply sourceIn_eq_self
  rw [sourceIn]
  cases hurl : Locator.isUrl source with
  | true => exact .inl hurl
  | false => exact .inr (Path.isAbsolute_join_of_absolute hbase source)

/-- Putting settings into a directory leaves addresses and absolute paths as they are, and all other
settings. A place of wordings is taken for what it was taken for before. Settings that have been put
into an absolute directory stay there, whatever directory comes next. -/
theorem resolvePaths_keeps (c : Config) (hbase : Locator.isUrl base = false) :
    ((∀ path, c.projectPath = some path → isAbsolute path = true →
        (c.resolvePaths base).projectPath = some path) ∧
      (∀ source, c.wordingsSource = some source →
        Locator.isUrl source = true ∨ isAbsolute source = true →
          (c.resolvePaths base).wordingsSource = some source) ∧
      ((c.resolvePaths base).projectPath.isSome = c.projectPath.isSome ∧
        (c.resolvePaths base).wordingsSource.isSome = c.wordingsSource.isSome) ∧
      { c.resolvePaths base with
        projectPath := c.projectPath
        wordingsSource := c.wordingsSource } = c) ∧
    (∀ source, c.wordingsSource = some source →
      ∃ resolved, (c.resolvePaths base).wordingsSource = some resolved ∧
        Locator.SameKind source resolved) ∧
    (isAbsolute base = true →
      ∀ other, (c.resolvePaths base).resolvePaths other = c.resolvePaths base) := by
  refine ⟨⟨fun path hpath habsolute => ?_, fun source hsource hkept => ?_, ⟨?_, ?_⟩, rfl⟩,
    fun source hsource => ⟨sourceIn base source, ?_, sameKind_sourceIn hbase source⟩,
    fun habsolute other => ?_⟩
  · rw [resolvePaths_eq, hpath]
    exact congrArg some (Path.join_of_absolute habsolute base)
  · rw [resolvePaths_eq, hsource]
    exact congrArg some (sourceIn_eq_self hkept base)
  · exact Option.isSome_map
  · exact Option.isSome_map
  · rw [resolvePaths_eq, hsource]
    rfl
  · have hpath : ∀ path, Path.join other (Path.join base path) = Path.join base path := fun path =>
      Path.join_of_absolute (Path.isAbsolute_join_of_absolute habsolute path) other
    have hsource := sourceIn_sourceIn habsolute other
    simp only [resolvePaths_eq, Option.map_map, Function.comp_def, hpath, hsource]

/-- A directory that lacks one slash to be an address, and a name that is an ending and no more. -/
theorem resolvePaths_keeps_sample :
    Locator.isUrl (Text.of "http:/") = false ∧
      (∃ resolved, ({ wordingsSource := some (Text.of ".json") : Config }.resolvePaths
          (Text.of "http:/")).wordingsSource = some resolved ∧
        Locator.SameKind (Text.of ".json") resolved) ∧
      Locator.isUrl (Text.of "/d.arb") = false ∧ isAbsolute (Text.of "/d.arb") = true ∧
      (({ projectPath := some [], wordingsSource := some [] : Config }.resolvePaths
          (Text.of "/d.arb")).resolvePaths (Text.of "http://x")).wordingsSource =
        some (Text.of "/d.arb/") := by
  have hscheme : Locator.isUrl (Text.of "http:/") = false := by decide
  have hroot : Locator.isUrl (Text.of "/d.arb") = false := by decide
  have habsolute : isAbsolute (Text.of "/d.arb") = true := by decide
  obtain ⟨-, hkinds, -⟩ := resolvePaths_keeps { wordingsSource := some (Text.of ".json") } hscheme
  obtain ⟨-, -, hstays⟩ :=
    resolvePaths_keeps { projectPath := some [], wordingsSource := some [] } hroot
  refine ⟨hscheme, hkinds _ rfl, hroot, habsolute, ?_⟩
  rw [hstays habsolute]
  decide

end Config

end WordingAudit
