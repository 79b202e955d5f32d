import TracerSettings.Build
import TracerSettings.FileSystem
import TracerSettings.Proofs.Journal

namespace TracerSettings.Build

def resolution (b : Build) : List Event :=
  match b.result with
  | .error _ => []
  | .ok r => [.resolved r.config.service.name r.config.agent.url r.loadedFiles.length]

/-- How a build continues a journal by what the same build leaves in an empty one. -/
structure Continues (b : Build) (before : Journal) (fresh : Build) : Prop where
  config : b.result.map Resolved.config = fresh.result.map Resolved.config
  diagnostics : b.journal.diagnostics = before.diagnostics ++ before.newIn b.journal
  news : before.newIn b.journal =
    fresh.journal.diagnostics.filter fun d => d ∉ before.diagnostics
  once : b.journal.diagnostics.Nodup
  collected : b.journal.collected =
    before.collected ++ fresh.journal.collected.filter fun entry => entry.1 ∉ before.keys
  events : b.events = (before.newIn b.journal).map .diagnostic ++ b.resolution

/-- A build that comes to the same and leaves its journal as it was. -/
structure Repeats (again b : Build) : Prop where
  result : again.result = b.result
  journal : again.journal = b.journal
  events : again.events = b.resolution

def resolvedIn (j : Journal) (sources : List Source) (c : Config) : Resolved :=
  ⟨c, j.snapshot, j.diagnostics, sources.filterMap Source.location⟩

section Parts

variable (readName : Url.Host.NameReader) (files : FileSystem) (sources : List Source)
  (before : Journal)

theorem journal_ofSources :
    (ofSources readName files sources before).journal =
      before.absorb (configOf readName files sources).notes := by
  simp only [ofSources]
  cases h : (configOf readName files sources).value <;> rfl

theorem result_ofSources :
    (ofSources readName files sources before).result =
      (config readName files sources).map
        (resolvedIn (before.absorb (configOf readName files sources).notes) sources) := by
  simp only [ofSources, config]
  cases h : (configOf readName files sources).value <;> rfl

variable {readName files sources before} in
theorem exists_eq_resolvedIn {r : Resolved}
    (h : (ofSources readName files sources before).result = .ok r) :
    ∃ c, r = resolvedIn (ofSources readName files sources before).journal sources c := by
  rw [result_ofSources, ← journal_ofSources] at h
  cases hconfig : config readName files sources with
  | error e =>
      rw [hconfig] at h
      cases h
  | ok c =>
      rw [hconfig] at h
      exact ⟨c, (Except.ok.inj h).symm⟩

theorem events_ofSources :
    (ofSources readName files sources before).events =
      (before.log (configOf readName files sources).notes).map .diagnostic ++
        (ofSources readName files sources before).resolution := by
  simp only [ofSources, resolution]
  cases h : (configOf readName files sources).value with
  | error e => exact (List.append_nil _).symm
  | ok c => rfl

theorem config_ofSources :
    (ofSources readName files sources before).result.map Resolved.config =
      config readName files sources := by
  rw [result_ofSources]
  cases config readName files sources <;> rfl

end Parts

theorem newIn_absorb (j : Journal) (notes : List Note) :
    j.newIn (j.absorb notes) = j.log notes := by
  rw [Journal.newIn, Journal.diagnostics_absorb, List.drop_left]

theorem resolution_congr {b b' : Build} (h : b.result = b'.result) :
    b.resolution = b'.resolution := by
  rw [resolution, h, resolution]

theorem continues_empty (readName : Url.Host.NameReader) (files : FileSystem)
    (sources : List Source) {before : Journal} (hbefore : before.diagnostics.Nodup) :
    (ofSources readName files sources before).Continues before
      (ofSources readName files sources .empty) := by
  have hjournal := journal_ofSources readName files sources before
  constructor
  case config => rw [config_ofSources, config_ofSources]
  case diagnostics => rw [hjournal, newIn_absorb, Journal.diagnostics_absorb]
  case news => rw [hjournal, newIn_absorb, journal_ofSources, Journal.log_eq_filter]
  case once =>
    rw [hjournal]
    exact Journal.nodup_absorb hbefore _
  case collected =>
    rw [hjournal, journal_ofSources, Journal.collected_absorb, Journal.entered_eq_filter]
  case events => rw [events_ofSources, hjournal, newIn_absorb]

theorem repeats_ofSources (readName : Url.Host.NameReader) (files : FileSystem)
    (sources : List Source) (before : Journal) :
    (ofSources readName files sources (ofSources readName files sources before).journal).Repeats
      (ofSources readName files sources before) := by
  have hjournal := journal_ofSources readName files sources before
  have hresult :
      (ofSources readName files sources
          (ofSources readName files sources before).journal).result =
        (ofSources readName files sources before).result := by
    rw [result_ofSources, result_ofSources, hjournal, Journal.absorb_absorb]
  constructor
  case result => exact hresult
  case journal => rw [journal_ofSources, hjournal, Journal.absorb_absorb]
  case events =>
    rw [events_ofSources, hjournal, Journal.log_absorb, ← hjournal, List.map_nil, List.nil_append]
    exact resolution_congr hresult

/-- A build on a journal whose diagnostics differ from one another resolves what it resolves on an
empty one, and adds to the journal and to the log what is not there yet. Built once more on what
that leaves behind, it comes to the same and adds nothing. -/
theorem ofSources_continues (readName : Url.Host.NameReader) (files : FileSystem)
    (sources : List Source) (before : Journal) (hbefore : before.diagnostics.Nodup) :
    (ofSources readName files sources before).Continues before
        (ofSources readName files sources .empty) ∧
      (ofSources readName files sources (ofSources readName files sources before).journal).Repeats
        (ofSources readName files sources before) :=
  ⟨continues_empty readName files sources hbefore, repeats_ofSources readName files sources before⟩

def prior : Journal where
  diagnostics :=
    [.unsupportedStrategy "id.generation.strategy" "SEQUENTIAL",
      .unrecognizedValue "profiling.enabled" "maybe"]
  collected := [("service", ⟨"shop", .environment⟩)]

def unreadable : List Source :=
  [.pairs .process [("service", "web"), ("profiling.enabled", "maybe"), ("trace.enabled", "?")]]

def unreadableOn (before : Journal) : Build :=
  ofSources Url.Host.readName (FileTree.directory []).fileSystem unreadable before

theorem ofSources_continues_prior :
    prior.diagnostics.Nodup ∧
      (unreadableOn prior).Continues prior (unreadableOn .empty) ∧
        (unreadableOn (unreadableOn prior).journal).Repeats (unreadableOn prior) :=
  ⟨by decide,
    ofSources_continues Url.Host.readName (FileTree.directory []).fileSystem unreadable prior
      (by decide)⟩

end TracerSettings.Build
