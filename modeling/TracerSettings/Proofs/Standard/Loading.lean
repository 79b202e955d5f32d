import TracerSettings.Proofs.Build.Shared
import TracerSettings.Standard

namespace TracerSettings

theorem size_of_fromUTF8? {bytes : ByteArray} {text : String}
    (h : String.fromUTF8? bytes = some text) : text.utf8ByteSize = bytes.size := by
  unfold String.fromUTF8? at h
  split at h
  · cases h
    rfl
  · cases h

namespace FileSystem

def Misses (files : FileSystem) (path : String) : Prop := files.read path = .error .notFound

/-- A file holds a document of limited size, whose settings make a source. -/
def Holds (files : FileSystem) (path : String) (source : Source) : Prop :=
  ∃ bytes text v, files.read path = .ok bytes ∧ String.fromUTF8? bytes = some text ∧
    bytes.size ≤ Source.sizeLimit ∧ Toml.read? text = some v ∧
      source = .document (some path) (v.leaves "")

/-- Why a file that is not simply missing makes no source. -/
inductive Spoils (files : FileSystem) (path : String) : Prop
  | unreadable {failure : FileFailure} (hread : files.read path = .error failure)
      (hfound : failure ≠ .notFound)
  | undecodable {bytes : ByteArray} (hread : files.read path = .ok bytes)
      (htext : String.fromUTF8? bytes = none)
  | oversized {bytes : ByteArray} {text : String} (hread : files.read path = .ok bytes)
      (htext : String.fromUTF8? bytes = some text) (hsize : Source.sizeLimit < bytes.size)
  | malformed {bytes : ByteArray} {text : String} (hread : files.read path = .ok bytes)
      (htext : String.fromUTF8? bytes = some text) (hvalue : Toml.read? text = none)

theorem misses_or_spoils_or_holds (files : FileSystem) (path : String) :
    files.Misses path ∨ files.Spoils path ∨ ∃ source, files.Holds path source := by
  cases hread : files.read path with
  | error failure =>
      by_cases hmissing : failure = .notFound
      · subst hmissing
        exact .inl hread
      · exact .inr (.inl (.unreadable hread hmissing))
  | ok bytes =>
      right
      cases htext : String.fromUTF8? bytes with
      | none => exact .inl (.undecodable hread htext)
      | some text =>
          cases hvalue : Toml.read? text with
          | none => exact .inl (.malformed hread htext hvalue)
          | some v =>
              by_cases hsize : Source.sizeLimit < bytes.size
              · exact .inl (.oversized hread htext hsize)
              · exact .inr ⟨_, bytes, text, v, hread, htext, Nat.le_of_not_lt hsize, hvalue, rfl⟩

end FileSystem

namespace Source

variable {fault : String → String} {files : FileSystem} {path : String} {source : Source}

theorem tryLoad_of_misses (h : files.Misses path) : tryLoad fault files path = .ok none := by
  rw [FileSystem.Misses] at h
  simp only [tryLoad, FileSystem.readText, h]

theorem tryLoad_of_holds (h : files.Holds path source) :
    tryLoad fault files path = .ok (some source) := by
  obtain ⟨bytes, text, v, hread, htext, hsize, hvalue, rfl⟩ := h
  have hlimit : ¬sizeLimit < text.utf8ByteSize := by
    rw [size_of_fromUTF8? htext]
    exact Nat.not_lt_of_le hsize
  simp only [tryLoad, FileSystem.readText, hread, htext, if_neg hlimit, ofToml, hvalue,
    Except.map]

theorem tryLoad_of_spoils (h : files.Spoils path) : ∃ e, tryLoad fault files path = .error e := by
  cases h with
  | unreadable hread hfound =>
      simp only [tryLoad, FileSystem.readText, hread]
      exact ⟨_, rfl⟩
  | undecodable hread htext =>
      simp only [tryLoad, FileSystem.readText, hread, htext]
      exact ⟨_, rfl⟩
  | oversized hread htext hsize =>
      rw [← size_of_fromUTF8? htext] at hsize
      simp only [tryLoad, FileSystem.readText, hread, htext, if_pos hsize]
      exact ⟨_, rfl⟩
  | malformed hread htext hvalue =>
      simp only [tryLoad, FileSystem.readText, hread, htext, ofToml, hvalue]
      split
      · exact ⟨_, rfl⟩
      · exact ⟨_, rfl⟩

end Source

namespace Standard

variable {fault : String → String} {files : FileSystem} {path : String} {source : Source}

theorem loadFile_of_misses (h : files.Misses path) : loadFile fault files path = .nothing := by
  rw [loadFile, Source.tryLoad_of_misses h]

theorem loadFile_of_holds (h : files.Holds path source) :
    loadFile fault files path = ⟨some source, [.loaded path], []⟩ := by
  rw [loadFile, Source.tryLoad_of_holds h]

theorem loadFile_of_spoils (h : files.Spoils path) :
    ∃ reason, loadFile fault files path =
      ⟨none, [], [.report (.unreadableFile Setting.configFile.key path reason)]⟩ := by
  obtain ⟨e, he⟩ := Source.tryLoad_of_spoils h
  exact ⟨e.message, by rw [loadFile, he]⟩

theorem source_loadFile_iff : (loadFile fault files path).source = some source ↔
    files.Holds path source := by
  constructor
  · intro hsource
    rcases files.misses_or_spoils_or_holds path with h | h | ⟨held, h⟩
    · rw [loadFile_of_misses h] at hsource
      cases hsource
    · obtain ⟨reason, hload⟩ := loadFile_of_spoils h
      rw [hload] at hsource
      cases hsource
    · rw [loadFile_of_holds h] at hsource
      cases hsource
      exact h
  · intro h
    rw [loadFile_of_holds h]

theorem notes_loadFile (fault : String → String) (files : FileSystem) (path : String) :
    (∃ reason, files.Spoils path ∧ (loadFile fault files path).notes =
        [.report (.unreadableFile Setting.configFile.key path reason)]) ∨
      ¬files.Spoils path ∧ (loadFile fault files path).notes = [] := by
  by_cases hspoils : files.Spoils path
  · obtain ⟨reason, hload⟩ := loadFile_of_spoils hspoils
    exact .inl ⟨reason, hspoils, by rw [hload]⟩
  · right
    refine ⟨hspoils, ?_⟩
    rcases files.misses_or_spoils_or_holds path with h | h | ⟨held, h⟩
    · rw [loadFile_of_misses h, Loaded.nothing]
    · exact absurd h hspoils
    · rw [loadFile_of_holds h]

section Load

variable {s : Standard}

theorem load_of_path? (h : s.path? = some path) :
    s.load fault files = loadFile fault files path := by
  rw [load, h, Option.map_some, Option.getD_some]

theorem load_of_no_path (h : s.path? = none) : s.load fault files = .nothing := by
  rw [load, h, Option.map_none, Option.getD_none]

theorem source_load_iff : (s.load fault files).source = some source ↔
    ∃ path, s.path? = some path ∧ files.Holds path source := by
  cases hpath : s.path? with
  | none => simp [load_of_no_path hpath, Loaded.nothing]
  | some path => simp [load_of_path? hpath, source_loadFile_iff]

theorem report_load_iff : (∃ reason, (s.load fault files).notes =
      [.report (.unreadableFile Setting.configFile.key path reason)]) ↔
    s.path? = some path ∧ files.Spoils path := by
  cases hpath : s.path? with
  | none => simp [load_of_no_path hpath, Loaded.nothing]
  | some tried =>
      rw [load_of_path? hpath]
      rcases notes_loadFile fault files tried with ⟨reason, hspoils, hnotes⟩ | ⟨hspoils, hnotes⟩
      · rw [hnotes]
        constructor
        · rintro ⟨reason', h⟩
          cases h
          exact ⟨rfl, hspoils⟩
        · rintro ⟨hsame, -⟩
          cases hsame
          exact ⟨reason, rfl⟩
      · rw [hnotes]
        constructor
        · rintro ⟨reason, h⟩
          cases h
        · rintro ⟨hsame, h⟩
          cases hsame
          exact absurd h hspoils

theorem silent_load_iff : (s.load fault files).notes = [] ↔
    ∀ path, s.path? = some path → ¬files.Spoils path := by
  cases hpath : s.path? with
  | none => simp [load_of_no_path hpath, Loaded.nothing]
  | some tried =>
      rw [load_of_path? hpath]
      rcases notes_loadFile fault files tried with ⟨reason, hspoils, hnotes⟩ | ⟨hspoils, hnotes⟩
      · simp [hnotes, hspoils]
      · simp [hnotes, hspoils]

end Load

/-- What comes of loading the file of some standard sources, whatever is at its path. -/
structure Undisturbed (readName : Url.Host.NameReader) (fault : String → String)
    (files : FileSystem) (s : Standard) : Prop where
  sources : s.sources (s.load fault files) =
    [s.overrides, s.process, s.environment] ++ (s.load fault files).source.toList ++ [s.captured]
  source_iff (source : Source) : (s.load fault files).source = some source ↔
    ∃ path, s.path? = some path ∧ files.Holds path source
  report_iff (path : String) :
    (∃ reason, (s.load fault files).notes =
        [.report (.unreadableFile "trace.config" path reason)]) ↔
      s.path? = some path ∧ files.Spoils path
  silent_iff : (s.load fault files).notes = [] ↔ ∀ path, s.path? = some path → ¬files.Spoils path
  missing (path : String) : s.path? = some path → files.Misses path →
    (s.load fault files).source = none ∧ (s.load fault files).notes = []
  config : (s.load fault files).source = none → ∀ before before',
    (Build.ofSources readName files (s.sources (s.load fault files)) before).result.map
        Resolved.config =
      (Build.ofSources readName files [s.overrides, s.process, s.environment, s.captured]
        before').result.map Resolved.config

/-- The given sources are always in the stack, in their order, with the file between them if it
holds a document and in no other case. Only a file that is there and holds none is reported, once;
and without a file the build is that of the other sources. -/
theorem undisturbed_load (readName : Url.Host.NameReader) (fault : String → String)
    (files : FileSystem) (s : Standard) : s.Undisturbed readName fault files where
  sources := rfl
  source_iff _ := source_load_iff
  report_iff _ := report_load_iff
  silent_iff := silent_load_iff
  missing path hpath hmisses := by
    rw [load_of_path? hpath, loadFile_of_misses hmisses]
    exact ⟨rfl, rfl⟩
  config hnone before before' := by
    rw [sources, hnone, Build.config_ofSources, Build.config_ofSources]
    rfl

end Standard

end TracerSettings
