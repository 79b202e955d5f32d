import TracerSettings.Proofs.Credentials
import TracerSettings.Proofs.Text.Blank

namespace TracerSettings

namespace Source

variable {s : Source} {name value : String}

theorem Tells.trim_eq (h : s.Tells name value) : Text.trim value = value := by
  obtain ⟨raw, -, rfl, -⟩ := h
  exact Text.trim_trim raw

end Source

theorem Stack.trim_value_of_find? {st : Stack} {names : List String} {hit : Hit}
    (h : st.find? names = some hit) : Text.trim hit.value = hit.value := by
  obtain ⟨source, -, hsource⟩ := List.mem_filterMap.1 (List.mem_of_head? h)
  obtain ⟨-, _, -, htells, -⟩ := Source.hit?_eq_some_iff.1 hsource
  exact htells.trim_eq

namespace Credentials

variable {files : FileSystem} {sources : List Source} {g : Generation} {key : String}

instance (g : Generation) (o : Origin) : Decidable (g.Admits o) :=
  inferInstanceAs (Decidable (if g.environmentOnly then o = .environment else o ≠ .process))

def Generation.directHit? (sources : List Source) (g : Generation) : Option Hit :=
  (Stack.ofSources (sources.filter fun source => g.Admits source.origin)).find? g.key.names

def Generation.fileHit? (sources : List Source) (g : Generation) : Option Hit :=
  (Stack.ofSources sources).find? g.file.names

/-- The key of a generation: what its file holds, unless that is blank or no text, and else what is
set directly. -/
inductive Generation.HasKey (files : FileSystem) (sources : List Source) (g : Generation) :
    String → Prop
  | file {hit : Hit} {content : String} (hhit : g.fileHit? sources = some hit)
      (hread : files.readText hit.value = .ok content) (hcontent : Text.trim content ≠ "") :
      g.HasKey files sources (Text.trim content)
  | direct {hit : Hit} (hfile : ∀ hit, g.fileHit? sources = some hit → ¬files.Fills hit.value)
      (hhit : g.directHit? sources = some hit) : g.HasKey files sources hit.value

def unreadable? (files : FileSystem) (s : Setting) (path : String) : Option Diagnostic :=
  match files.readText path with
  | .ok _ => none
  | .error failure => some (.unreadableFile s.key path failure.message)

def Generation.complaint? (files : FileSystem) (sources : List Source) (g : Generation) :
    Option Diagnostic :=
  (g.fileHit? sources).bind fun hit => unreadable? files g.file hit.value

def Generation.traces (files : FileSystem) (sources : List Source) (g : Generation) : List Note :=
  (g.directHit? sources).toList.map (fun hit => .collect g.key.key hit.value hit.origin) ++
    (g.fileHit? sources).toList.map (fun hit => .collect g.file.key hit.value hit.origin) ++
      (g.complaint? files sources).toList.map .report

theorem fromFile_eq_some_iff {st : Stack} {s : Setting} :
    (fromFile files st s).value = some key ↔
      ∃ hit content, st.find? s.names = some hit ∧ files.readText hit.value = .ok content ∧
        Text.trim content = key ∧ key ≠ "" := by
  rw [fromFile, Noted.value_bind, Stack.value_text?]
  cases st.find? s.names with
  | none => simp
  | some hit =>
      simp only [Option.map_some, Option.some.injEq, exists_and_left, exists_eq_left']
      cases files.readText hit.value with
      | error failure => simp
      | ok content =>
          simp only [Noted.value_pure, Except.ok.injEq, exists_eq_left']
          constructor
          · intro h
            obtain ⟨rfl, hne⟩ := Text.nonBlank_eq_some h
            exact ⟨rfl, hne⟩
          · rintro ⟨rfl, hne⟩
            exact if_neg hne

theorem notes_fromFile (st : Stack) (s : Setting) :
    (fromFile files st s).notes =
      (st.find? s.names).toList.map (fun hit => .collect s.key hit.value hit.origin) ++
        ((st.find? s.names).bind fun hit => unreadable? files s hit.value).toList.map .report := by
  rw [fromFile, Noted.notes_bind, Stack.notes_text?, Stack.value_text?]
  apply congrArg
  cases st.find? s.names with
  | none => rfl
  | some hit =>
      simp only [Option.map_some, Option.bind_some, unreadable?]
      cases files.readText hit.value <;> rfl

namespace Generation

theorem filter_admits_of_environmentOnly (h : g.environmentOnly = true) (sources : List Source) :
    sources.filter (fun source => g.Admits source.origin) =
      Source.withOrigin .environment sources := by
  apply List.filter_congr
  intro source _
  rw [Bool.eq_iff_iff, decide_eq_true_iff, beq_iff_eq, Admits, if_pos h]

theorem direct_ofSources (sources : List Source) (g : Generation) :
    g.direct (.ofSources sources) =
      (Stack.ofSources (sources.filter fun source => g.Admits source.origin)).text? g.key := by
  rw [direct]
  split
  case isTrue h => rw [filter_admits_of_environmentOnly h, Stack.textFrom?_ofSources]
  case isFalse h =>
    have hadmits : (fun source : Source => decide (g.Admits source.origin)) =
        fun source => source.origin != .process := by
      funext source
      rw [Bool.eq_iff_iff, decide_eq_true_iff, bne_iff_ne, Admits, if_neg h]
    rw [Stack.textOutside?_eq, Stack.admitting_ofSources, hadmits]

theorem value_direct_ofSources (sources : List Source) (g : Generation) :
    (g.direct (.ofSources sources)).value = (g.directHit? sources).map Hit.value := by
  rw [direct_ofSources, Stack.value_text?, directHit?]

theorem resolve_eq_some_iff :
    (g.resolve files (.ofSources sources)).value = some key ↔ g.HasKey files sources key := by
  rw [value_resolve, Option.orElse_eq_orElse, Option.orElse_eq_or, Option.or_eq_some_iff,
    fromFile_eq_some_iff, fromFile_eq_none_iff, value_direct_ofSources, Option.map_eq_some_iff]
  constructor
  · rintro (⟨hit, content, hhit, hread, rfl, hcontent⟩ | ⟨hfile, hit, hhit, rfl⟩)
    · exact .file hhit hread hcontent
    · exact .direct hfile hhit
  · rintro (⟨hhit, hread, hcontent⟩ | ⟨hfile, hhit⟩)
    · exact .inl ⟨_, _, hhit, hread, rfl, hcontent⟩
    · exact .inr ⟨hfile, _, hhit, rfl⟩

theorem notes_resolve (files : FileSystem) (sources : List Source) (g : Generation) :
    (g.resolve files (.ofSources sources)).notes = g.traces files sources := by
  rw [resolve, Noted.notes_bind, Noted.notes_bind, Noted.notes_pure, List.append_nil,
    direct_ofSources, Stack.notes_text?, notes_fromFile, traces, ← List.append_assoc]
  rfl

theorem reports_traces (files : FileSystem) (sources : List Source) (g : Generation) :
    reports (g.traces files sources) = (g.complaint? files sources).toList := by
  rw [traces, reports_append, reports_append, Stack.reports_collected, Stack.reports_collected,
    reports_map_report, List.nil_append, List.nil_append]

end Generation

/-- A search through generations: the key that it ends with, and the generations that it goes
through until then. A generation is passed only if it has no key. -/
inductive Takes (files : FileSystem) (sources : List Source) :
    List Generation → Option String → List Generation → Prop
  | exhausted : Takes files sources [] none []
  | found {g : Generation} {rest : List Generation} {key : String}
      (hkey : g.HasKey files sources key) : Takes files sources (g :: rest) (some key) [g]
  | passed {g : Generation} {rest consulted : List Generation} {key? : Option String}
      (hnone : ∀ key, ¬g.HasKey files sources key)
      (hrest : Takes files sources rest key? consulted) :
      Takes files sources (g :: rest) key? (g :: consulted)

section Search

variable {generations consulted : List Generation} {key? : Option String}

theorem exists_takes (files : FileSystem) (sources : List Source) (generations : List Generation) :
    ∃ key? consulted, Takes files sources generations key? consulted := by
  induction generations with
  | nil => exact ⟨none, [], .exhausted⟩
  | cons g rest ih =>
      by_cases h : ∃ key, g.HasKey files sources key
      · obtain ⟨key, hkey⟩ := h
        exact ⟨some key, [g], .found hkey⟩
      · obtain ⟨key?, consulted, hrest⟩ := ih
        exact ⟨key?, g :: consulted, .passed (not_exists.1 h) hrest⟩

theorem Takes.firstKey_eq (h : Takes files sources generations key? consulted) :
    firstKey files (.ofSources sources) generations =
      ⟨key?, consulted.flatMap (Generation.traces files sources)⟩ := by
  induction h with
  | exhausted => rfl
  | found hkey =>
      apply Noted.ext
      · rw [firstKey, Noted.value_bind, Generation.resolve_eq_some_iff.2 hkey, Noted.value_pure]
      · rw [firstKey, Noted.notes_bind, Generation.resolve_eq_some_iff.2 hkey, Noted.notes_pure,
          Generation.notes_resolve, List.append_nil, List.flatMap_singleton]
  | @passed g rest consulted key? hnone hrest ih =>
      have hvalue : (g.resolve files (.ofSources sources)).value = none := by
        rw [Option.eq_none_iff_forall_ne_some]
        exact fun key => mt Generation.resolve_eq_some_iff.1 (hnone key)
      apply Noted.ext
      · rw [firstKey, Noted.value_bind, hvalue, ih]
      · rw [firstKey, Noted.notes_bind, hvalue, ih, Generation.notes_resolve, List.flatMap_cons]

theorem Takes.isPrefix (h : Takes files sources generations key? consulted) :
    consulted <+: generations := by
  induction h with
  | exhausted => exact List.prefix_rfl
  | found hkey => exact List.prefix_append [_] _
  | passed hnone hrest ih => exact List.cons_prefix_cons.2 ⟨rfl, ih⟩

theorem Takes.hasKey (h : Takes files sources generations (some key) consulted) :
    ∃ g ∈ consulted, g.HasKey files sources key := by
  generalize hkey? : some key = key? at h
  induction h with
  | exhausted => cases hkey?
  | found hkey =>
      cases hkey?
      exact ⟨_, List.mem_singleton_self _, hkey⟩
  | passed hnone hrest ih =>
      obtain ⟨g, hg, hkey⟩ := ih hkey?
      exact ⟨g, List.mem_cons_of_mem _ hg, hkey⟩

end Search

theorem Generation.setting_of_complaint? {d : Diagnostic}
    (h : g.complaint? files sources = some d) : d.setting = g.file.key := by
  obtain ⟨hit, -, h⟩ := Option.bind_eq_some_iff.1 h
  rw [unreadable?] at h
  split at h
  · cases h
  · cases h
    rfl

theorem Generation.HasKey.trimmed (h : g.HasKey files sources key) :
    key ≠ "" ∧ Text.trim key = key := by
  cases h with
  | file hhit hread hcontent => exact ⟨hcontent, Text.trim_trim _⟩
  | direct hfile hhit =>
      exact ⟨Stack.value_ne_empty_of_mem_hits (List.mem_of_head? hhit),
        Stack.trim_value_of_find? hhit⟩

/-- The rules of the search for an API key: what it ends with, what it leaves behind, and that a
generation is complained about once. -/
structure ApiKeyTaken (files : FileSystem) (sources : List Source) (key? : Option String)
    (notes : List Note) (consulted : List Generation) : Prop where
  takes : Takes files sources apiKeyGenerations key? consulted
  noted : notes = consulted.flatMap (Generation.traces files sources)
  reported : reports notes = consulted.filterMap (Generation.complaint? files sources)
  kept : (Journal.empty.absorb notes).diagnostics =
    consulted.filterMap (Generation.complaint? files sources)
  trimmed : ∀ key ∈ key?, key ≠ "" ∧ Text.trim key = key

theorem resolveApiKey_takesFirst (files : FileSystem) (sources : List Source) :
    apiKeyGenerations.map (fun g => (g.key.names, g.file.names, g.environmentOnly)) =
        [(["api-key"], ["api-key-file"], false),
          (["profiling.api-key"], ["profiling.api-key-file"], true),
          (["profiling.apikey"], ["profiling.apikey.file"], true)] ∧
      ∃ consulted, ApiKeyTaken files sources (resolveApiKey files (.ofSources sources)).value
        (resolveApiKey files (.ofSources sources)).notes consulted := by
  refine ⟨rfl, ?_⟩
  obtain ⟨key?, consulted, htakes⟩ := exists_takes files sources apiKeyGenerations
  rw [resolveApiKey, htakes.firstKey_eq]
  have hreported : reports (consulted.flatMap (Generation.traces files sources)) =
      consulted.filterMap (Generation.complaint? files sources) := by
    rw [reports, List.filterMap_flatMap, List.filterMap_eq_flatMap_toList]
    exact List.flatMap_congr fun g _ => Generation.reports_traces files sources g
  refine ⟨consulted, ?takes, ?noted, ?reported, ?kept, ?trimmed⟩
  case takes => exact htakes
  case noted => rfl
  case reported => exact hreported
  case kept =>
    rw [Journal.diagnostics_absorb_empty, hreported]
    apply unique_of_nodup
    -- Diagnostics on two generations differ in the setting.
    have hfiles : consulted.Pairwise fun g g' => g.file.key ≠ g'.file.key := by
      have hall : (apiKeyGenerations.map fun g => g.file.key).Nodup := by decide
      exact (List.pairwise_map.1 hall).sublist htakes.isPrefix.sublist
    apply hfiles.filterMap
    rintro g g' hne d hd d' hd' rfl
    rw [← Generation.setting_of_complaint? hd, ← Generation.setting_of_complaint? hd'] at hne
    exact hne rfl
  case trimmed =>
    rintro key rfl
    obtain ⟨g, -, hkey⟩ := htakes.hasKey
    exact hkey.trimmed

end Credentials

end TracerSettings
