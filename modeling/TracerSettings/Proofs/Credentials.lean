import TracerSettings.Proofs.Stack.FirstHit
import TracerSettings.Section.Credentials

namespace TracerSettings

namespace FileSystem

/-- A file holds text that is not blank. -/
def Fills (files : FileSystem) (path : String) : Prop :=
  ∃ content, files.readText path = .ok content ∧ Text.trim content ≠ ""

end FileSystem

namespace Credentials

variable {files : FileSystem} {st : Stack}

theorem fromFile_eq_none_iff {s : Setting} :
    (fromFile files st s).value = none ↔
      ∀ hit, st.find? s.names = some hit → ¬files.Fills hit.value := by
  rw [fromFile, Noted.value_bind, Stack.value_text?]
  cases st.find? s.names with
  | none => simp
  | some hit =>
      simp only [Option.map_some, Option.some.injEq, forall_eq', FileSystem.Fills]
      cases files.readText hit.value with
      | error failure => simp
      | ok content => simp [Text.nonBlank]

theorem fromFile_ne_empty {s : Setting} {key : String}
    (h : (fromFile files st s).value = some key) : key ≠ "" := by
  rw [fromFile, Noted.value_bind] at h
  split at h
  · cases h
  · split at h
    · exact (Text.nonBlank_eq_some h).2
    · cases h

/-- Where the key of a generation may stand. -/
def Generation.Admits (g : Generation) (o : Origin) : Prop :=
  if g.environmentOnly then o = .environment else o ≠ .process

theorem Generation.direct_eq_none_iff {g : Generation} :
    (g.direct st).value = none ↔
      ∀ source ∈ st.sources, g.Admits source.origin →
        ∀ name ∈ g.key.names, ∀ value, ¬source.Tells name value := by
  unfold direct Admits
  split
  · exact Stack.textFrom?_eq_none_iff
  · exact Stack.textOutside?_eq_none_iff

theorem Generation.direct_ne_empty {g : Generation} {key : String}
    (h : (g.direct st).value = some key) : key ≠ "" := by
  unfold direct at h
  split at h
  · rw [Stack.textFrom?_eq] at h
    exact Stack.text?_ne_empty h
  · rw [Stack.textOutside?_eq] at h
    exact Stack.text?_ne_empty h

/-- Neither the sources nor the file of a generation have a key. -/
structure Generation.Missing (files : FileSystem) (st : Stack) (g : Generation) : Prop where
  direct : ∀ source ∈ st.sources, g.Admits source.origin →
    ∀ name ∈ g.key.names, ∀ value, ¬source.Tells name value
  file : ∀ hit, st.find? g.file.names = some hit → ¬files.Fills hit.value

theorem Generation.value_resolve (g : Generation) :
    (g.resolve files st).value = ((fromFile files st g.file).value <|> (g.direct st).value) := rfl

theorem Generation.resolve_eq_none_iff {g : Generation} :
    (g.resolve files st).value = none ↔ g.Missing files st := by
  rw [Generation.value_resolve, Option.orElse_eq_orElse, Option.orElse_eq_or, Option.or_eq_none_iff,
    fromFile_eq_none_iff, Generation.direct_eq_none_iff]
  exact ⟨fun ⟨hfile, hdirect⟩ => ⟨hdirect, hfile⟩, fun h => ⟨h.file, h.direct⟩⟩

theorem Generation.resolve_ne_empty {g : Generation} {key : String}
    (h : (g.resolve files st).value = some key) : key ≠ "" := by
  rw [Generation.value_resolve, Option.orElse_eq_orElse, Option.orElse_eq_or,
    Option.or_eq_some_iff] at h
  rcases h with h | ⟨-, h⟩
  · exact fromFile_ne_empty h
  · exact direct_ne_empty h

theorem value_firstKey (generations : List Generation) :
    (firstKey files st generations).value =
      generations.findSome? fun g => (g.resolve files st).value := by
  induction generations with
  | nil => rfl
  | cons g rest ih =>
      rw [firstKey, Noted.value_bind, List.findSome?_cons, ← ih]
      cases (g.resolve files st).value <;> rfl

theorem firstKey_ne_empty {generations : List Generation} {key : String}
    (h : (firstKey files st generations).value = some key) : key ≠ "" := by
  rw [value_firstKey] at h
  obtain ⟨g, -, hg⟩ := List.exists_of_findSome?_eq_some h
  exact Generation.resolve_ne_empty hg

theorem firstKey_eq_none_iff {generations : List Generation} :
    (firstKey files st generations).value = none ↔ ∀ g ∈ generations, g.Missing files st := by
  simp only [value_firstKey, List.findSome?_eq_none_iff, Generation.resolve_eq_none_iff]

/-- There is no API key: none outside of process properties, none of an older generation in the
environment, and none in a file that a setting of any generation names. -/
structure ApiKeyMissing (files : FileSystem) (sources : List Source) : Prop where
  direct : ∀ source ∈ sources, source.origin ≠ .process →
    ∀ value, ¬source.Tells "api-key" value
  older : ∀ source ∈ sources, source.origin = .environment →
    ∀ key ∈ ["profiling.api-key", "profiling.apikey"], ∀ value, ¬source.Tells key value
  file : ∀ key ∈ ["api-key-file", "profiling.api-key-file", "profiling.apikey.file"], ∀ hit,
    (Stack.ofSources sources).find? [key] = some hit → ¬files.Fills hit.value

theorem resolveApiKey_eq_none_iff {sources : List Source} :
    (resolveApiKey files (.ofSources sources)).value = none ↔ ApiKeyMissing files sources := by
  rw [resolveApiKey, firstKey_eq_none_iff]
  simp only [apiKeyGenerations, List.forall_mem_cons]
  constructor
  · rintro ⟨hnew, hold, holdest, -⟩
    constructor
    case direct =>
      intro source hsource horigin
      exact hnew.direct source (Stack.mem_ofSources.2 hsource) horigin _ List.mem_cons_self
    case older =>
      intro source hsource horigin
      simp only [List.forall_mem_cons, List.not_mem_nil, false_implies, implies_true, and_true]
      have hsource := Stack.mem_ofSources.2 hsource
      exact ⟨hold.direct source hsource horigin _ List.mem_cons_self,
        holdest.direct source hsource horigin _ List.mem_cons_self⟩
    case file =>
      simp only [List.forall_mem_cons, List.not_mem_nil, false_implies, implies_true, and_true]
      exact ⟨hnew.file, hold.file, holdest.file⟩
  · intro h
    have hfile := h.file
    simp only [List.forall_mem_cons] at hfile
    obtain ⟨hfile, hfileOld, hfileOldest, -⟩ := hfile
    refine ⟨⟨?_, hfile⟩, ⟨?_, hfileOld⟩, ⟨?_, hfileOldest⟩, fun _ hg => absurd hg List.not_mem_nil⟩
    · intro source hsource horigin name hname
      obtain rfl := List.mem_singleton.1 hname
      exact h.direct source (Stack.mem_ofSources.1 hsource) horigin
    · intro source hsource horigin name hname
      obtain rfl := List.mem_singleton.1 hname
      exact h.older source (Stack.mem_ofSources.1 hsource) horigin _ List.mem_cons_self
    · intro source hsource horigin name hname
      obtain rfl := List.mem_singleton.1 hname
      exact h.older source (Stack.mem_ofSources.1 hsource) horigin _
        (List.mem_cons_of_mem _ List.mem_cons_self)

end Credentials

end TracerSettings
