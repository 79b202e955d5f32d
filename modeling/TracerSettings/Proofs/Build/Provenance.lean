import Mathlib.Data.List.Nodup
import TracerSettings.Build
import TracerSettings.FileSystem
import TracerSettings.Proofs.Build.Shared
import TracerSettings.Proofs.Config.Provenance

namespace TracerSettings

/-- A source has a value for a setting on which it is heard. -/
def Source.Supplies (source : Source) (s : Setting) : Prop :=
  admits s.key source.origin = true ∧ ∃ name ∈ s.names, ∃ value, source.Tells name value

/-- How sources account for what is collected of the setting of a row. -/
structure Provenance (sources : List Source) (row : Row) (c : Collected) : Prop where
  highest : ∀ source ∈ sources, source.Supplies row.setting → c.origin.rank ≤ source.origin.rank
  supplied : c.origin ≠ .default →
    ∃ source ∈ sources, source.Supplies row.setting ∧ source.origin = c.origin
  default : c.origin = .default ↔ ∀ source ∈ sources, ¬source.Supplies row.setting
  /-- A setting that is not merged has the value of the first source of that rank, there under the
  first name that has one. -/
  firstHit : ∀ builtIn, row.way = .firstHit builtIn → c.origin ≠ .default → ∃ place hit,
    ((Stack.ofSources sources).heard row.setting).HasFirst [] row.setting.names place hit ∧
      c = ⟨Journal.shown row.setting.key hit.value, hit.origin⟩
  builtIn : c.origin = .default → row.way = .firstHit (some c.value)

variable {sources : List Source} {s : Setting} {hit : Hit}

namespace Stack

theorem find?_heard_eq_none_iff :
    ((ofSources sources).heard s).find? s.names = none ↔
      ∀ source ∈ sources, ¬source.Supplies s := by
  rw [find?_eq_none_iff, heard, admitting_ofSources]
  simp only [mem_ofSources, List.mem_filter, Source.Supplies, not_and, not_exists, and_imp]

theorem supplies_of_find?_heard (h : ((ofSources sources).heard s).find? s.names = some hit) :
    ∃ source ∈ sources, source.Supplies s ∧ source.origin = hit.origin := by
  obtain ⟨place, hfirst⟩ := find?_eq_some_iff.1 h
  obtain ⟨source, hsource, horigin, -, hname, htells⟩ := hfirst.has
  have hmem := List.mem_of_getElem? hsource
  rw [heard, admitting, List.mem_filter] at hmem
  obtain ⟨hmem, hadmits⟩ := hmem
  exact ⟨source, mem_ofSources.1 hmem,
    ⟨hadmits, hit.key, List.mem_of_getElem? hname, hit.value, htells⟩, horigin⟩

theorem rank_le_of_supplies (h : ((ofSources sources).heard s).find? s.names = some hit)
    {source : Source} (hsource : source ∈ sources) (hsupplies : source.Supplies s) :
    hit.origin.rank ≤ source.origin.rank := by
  obtain ⟨hadmits, name, hname, value, htells⟩ := hsupplies
  rw [heard, admitting_ofSources] at h
  cases hhit : source.hit? s.names with
  | none => exact absurd htells (Source.hit?_eq_none_iff.1 hhit name hname value)
  | some hit' =>
      have hmem : source ∈ (ofSources (sources.filter fun s' => admits s.key s'.origin)).sources :=
        mem_ofSources.2 (List.mem_filter.2 ⟨hsource, hadmits⟩)
      have hle := rank_le_of_find? h (List.mem_filterMap.2 ⟨source, hmem, hhit⟩)
      rwa [(Source.hit?_eq_some hhit).1] at hle

end Stack

section Accounts

variable (hdefault : ∀ source ∈ sources, source.origin ≠ .default)
include hdefault

theorem provenance_of_find? {way : Way} {text : String}
    (hfind : ((Stack.ofSources sources).heard s).find? s.names = some hit)
    (htext : ∀ builtIn, way = .firstHit builtIn → text = Journal.shown s.key hit.value) :
    Provenance sources ⟨s, way⟩ ⟨text, hit.origin⟩ := by
  obtain ⟨supplier, hsupplier, hsupplies, horigin⟩ := Stack.supplies_of_find?_heard hfind
  have hne : hit.origin ≠ .default := horigin ▸ hdefault supplier hsupplier
  constructor
  case highest => exact fun source => Stack.rank_le_of_supplies hfind
  case supplied => exact fun _ => ⟨supplier, hsupplier, hsupplies, horigin⟩
  case default =>
    exact ⟨fun h => absurd h hne, fun h => absurd hsupplies (h supplier hsupplier)⟩
  case firstHit =>
    intro builtIn hway _
    obtain ⟨place, hfirst⟩ := Stack.find?_eq_some_iff.1 hfind
    exact ⟨place, hit, hfirst, congrArg (Collected.mk · hit.origin) (htext builtIn hway)⟩
  case builtIn => exact fun h => absurd h hne

theorem provenance_of_accounts {row : Row} {value : String} {origin : Origin}
    (hplain : row.way.builtIn?.isSome = true → isSecretKey row.setting.key = false)
    (h : ((Stack.ofSources sources).heard row.setting).Accounts row value origin) :
    Provenance sources row ⟨Journal.shown row.setting.key value, origin⟩ := by
  cases h with
  | found builtIn hfind => exact provenance_of_find? hdefault hfind fun _ _ => rfl
  | merged _ hfind =>
      exact provenance_of_find? hdefault hfind fun _ hway => Way.noConfusion hway
  | builtIn hfind =>
      have hnone := Stack.find?_heard_eq_none_iff.1 hfind
      have hshown : Journal.shown _ value = value := if_neg (by rw [hplain rfl]; decide)
      rw [hshown]
      constructor
      case highest => exact fun source hsource hsupplies => absurd hsupplies (hnone source hsource)
      case supplied => exact fun h => absurd rfl h
      case default => exact ⟨fun _ => hnone, fun _ => rfl⟩
      case firstHit => exact fun _ _ h => absurd rfl h
      case builtIn => exact fun _ => rfl

end Accounts

structure Sourced (sources : List Source) (key : String) (c : Collected) : Prop where
  known : ∃ row ∈ Config.rows, row.setting.key = key
  provenance : ∀ row ∈ Config.rows, row.setting.key = key → Provenance sources row c

namespace Build

theorem configOf_collects (hdefault : ∀ source ∈ sources, source.origin ≠ .default)
    (readName : Url.Host.NameReader) (files : FileSystem) (seen : List String) :
    (configOf readName files sources).Collects seen
      ((Stack.ofSources sources).Explains Config.rows) := by
  have hlowest : ∀ source ∈ sources, source.origin.rank ≤ Origin.captured.rank := by
    have hrank : ∀ o ∈ Origin.ranked, o ≠ .default → o.rank ≤ Origin.captured.rank := by decide
    exact fun source hsource => hrank _ (Origin.mem_ranked _) (hdefault source hsource)
  simp only [configOf, Noted.collects_bind, Config.check_collects, and_true]
  apply Config.resolve_collects
  intro hit hhit
  rw [Stack.resolveExcluding_singleton, Stack.value_resolve] at hhit
  exact Stack.find?_of_admitting hlowest hhit

theorem sourced_of_mem (hdefault : ∀ source ∈ sources, source.origin ≠ .default)
    (readName : Url.Host.NameReader) (files : FileSystem) {before : Journal}
    (hfresh : before.collected = []) {key : String} {c : Collected}
    (h : (key, c) ∈ (ofSources readName files sources before).journal.collected) :
    Sourced sources key c := by
  rw [journal_ofSources, Journal.collected_absorb, hfresh, List.nil_append,
    Journal.entered_eq_map] at h
  obtain ⟨⟨_, found⟩, hfirst, hentry⟩ := List.mem_map.1 h
  obtain ⟨rfl, rfl⟩ := Prod.mk.inj hentry
  obtain ⟨row, hrow, hkey, haccounts⟩ := configOf_collects hdefault readName files _ _ hfirst
  have hprovenance := provenance_of_accounts hdefault (Config.isSecretKey_of_builtIn row hrow)
    haccounts
  rw [hkey] at hprovenance
  refine ⟨⟨row, hrow, hkey⟩, fun row' hrow' hkey' => ?_⟩
  obtain rfl := List.inj_on_of_nodup_map Config.nodup_keys hrow hrow' (hkey.trans hkey'.symm)
  exact hprovenance

/-- Every entry that a build collects has the origin of the highest source that is heard on it and
supplies it, and the value that stands there first unless values are merged; where there is no such
source, it has the origin of defaults and the built-in value. -/
theorem ofSources_sourced (hdefault : ∀ source ∈ sources, source.origin ≠ .default)
    (readName : Url.Host.NameReader) (files : FileSystem) {before : Journal}
    (hfresh : before.collected = []) :
    (∀ key c, (key, c) ∈ (ofSources readName files sources before).journal.collected →
        Sourced sources key c) ∧
      ∀ r, (ofSources readName files sources before).result = .ok r →
        ∀ key c, (key, c) ∈ r.collected → Sourced sources key c := by
  refine ⟨fun key c => sourced_of_mem hdefault readName files hfresh, ?_⟩
  intro r hr key c hmem
  obtain ⟨config, rfl⟩ := exists_eq_resolvedIn hr
  exact sourced_of_mem hdefault readName files hfresh (List.mem_mergeSort.1 hmem)

def assorted : List Source :=
  [.pairs .captured [("service", "program")],
    .document (some "/app.toml") [("civisibility.enabled", "0"), ("profiling.api-key", "key"),
      ("trace.tags", "a:1")],
    .pairs .process [("civisibility.enabled", " 1 "), ("api-key", "key")],
    .environment Source.usualStart [("DD_TAGS", "b:2"), ("DD_API_KEY", " environment key ")]]

def assortedBuild : Build :=
  ofSources Url.Host.readName (FileTree.directory []).fileSystem assorted .empty

theorem collected_assorted :
    assortedBuild.journal.collected.head? = some ("civisibility.enabled", ⟨"1", .process⟩) := by
  rw [assortedBuild, journal_ofSources, Journal.collected_absorb, configOf, Stack.ofSources_eq]
  decide +kernel

theorem ofSources_assorted :
    (∀ source ∈ assorted, source.origin ≠ .default) ∧ Journal.empty.collected = [] ∧
      assortedBuild.journal.collected.head? = some ("civisibility.enabled", ⟨"1", .process⟩) ∧
      (∀ key c, (key, c) ∈ assortedBuild.journal.collected → Sourced assorted key c) ∧
      ∀ r, assortedBuild.result = .ok r →
        ∀ key c, (key, c) ∈ r.collected → Sourced assorted key c :=
  ⟨by decide, rfl, collected_assorted, ofSources_sourced (by decide) _ _ rfl⟩

end Build

end TracerSettings
