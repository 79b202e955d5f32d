import Mathlib.Data.List.Nodup
import TracerSettings.Proofs.Build.Reads
import TracerSettings.Proofs.Source.Agreement

namespace TracerSettings

theorem lookup_map {f : String → String} {key : String} {entries : List (String × String)}
    (h : ∀ entry ∈ entries, f entry.1 = f key → entry.1 = key) :
    (entries.map fun (k, v) => (f k, v)).lookup (f key) = entries.lookup key := by
  induction entries with
  | nil => rfl
  | cons entry rest ih =>
      obtain ⟨k, v⟩ := entry
      obtain ⟨hentry, hrest⟩ := List.forall_mem_cons.1 h
      by_cases hk : k = key
      · subst hk
        simp
      · have hf : f key ≠ f k := fun heq => hk (hentry heq.symm)
        simp only [List.map_cons, List.lookup_cons, beq_false_of_ne hf,
          beq_false_of_ne (Ne.symm hk)]
        exact ih hrest

theorem lastValue?_map {f : String → String} {key : String} {values : List (String × String)}
    (h : ∀ entry ∈ values, f entry.1 = f key → entry.1 = key) :
    lastValue? (values.map fun (k, v) => (f k, v)) (f key) = lastValue? values key := by
  rw [lastValue?, lastValue?, ← List.map_reverse]
  exact lookup_map fun entry hentry => h entry (List.mem_reverse.1 hentry)

theorem Config.variableCharacters_apart :
    (keys.map fun key => key.toList.map Source.variableCharacter).Nodup ∧
      ∀ cs ∈ keys.map fun key => key.toList.map Source.variableCharacter,
        ¬cs <:+ Setting.initializationType.toList := by
  decide +kernel

namespace Source

/-- Settings, each in the variable named after it. -/
def inVariables (start : String) (values : List (String × String)) : Source :=
  .environment start (values.map fun (key, value) => (variableName start key, value))

theorem nodup_variableNames (start : String) : (Config.keys.map (variableName start)).Nodup := by
  have h := Config.variableCharacters_apart.1
  rw [List.Nodup, List.pairwise_map] at h ⊢
  exact h.imp fun hne heq => hne (map_eq_of_variableName_eq heq)

theorem variableName_ne_initializationType {key : String} (hkey : key ∈ Config.keys)
    (start : String) : variableName start key ≠ Setting.initializationType := by
  intro heq
  apply Config.variableCharacters_apart.2 _ (List.mem_map_of_mem hkey)
  rw [← heq, toList_variableName]
  exact List.suffix_append _ _

variable {values : List (String × String)}

theorem lookup_inVariables (hvalues : ∀ entry ∈ values, entry.1 ∈ Config.keys) {key : String}
    (hkey : key ∈ Config.keys) (start : String) :
    (inVariables start values).lookup key = lastValue? values key := by
  apply lastValue?_map
  exact fun entry hentry =>
    List.inj_on_of_nodup_map (nodup_variableNames start) (hvalues entry hentry) hkey

theorem lookupRaw_inVariables (hvalues : ∀ entry ∈ values, entry.1 ∈ Config.keys)
    (start : String) : (inVariables start values).lookupRaw Setting.initializationType = none := by
  rw [inVariables, lookupRaw, lastValue?, List.lookup_eq_none_iff]
  intro held hheld
  obtain ⟨entry, hentry, rfl⟩ := List.mem_map.1 (List.mem_reverse.1 hheld)
  have hne := variableName_ne_initializationType (hvalues entry hentry) start
  exact bne_iff_ne.2 hne.symm

structure ServesAlike (s s' : Source) : Prop where
  tells : TellsAlike Config.keys s s'
  raw : s.lookupRaw Setting.initializationType = s'.lookupRaw Setting.initializationType

theorem ServesAlike.refl (s : Source) : ServesAlike s s :=
  ⟨tellsAlike_of_present rfl rfl fun _ _ => rfl, rfl⟩

theorem servesAlike_inVariables (hvalues : ∀ entry ∈ values, entry.1 ∈ Config.keys)
    (start : String) : ServesAlike (inVariables start values) (.pairs .environment values) where
  tells := by
    refine tellsAlike_of_present ?_ ?_ fun key hkey => ?_
    · rfl
    · rfl
    · rw [present, lookup_inVariables hvalues hkey, present, lookup]
  raw := lookupRaw_inVariables hvalues start

end Source

namespace Build

variable {sources sources' : List Source}

theorem ofSources_servesAlike (h : List.Forall₂ Source.ServesAlike sources sources')
    (readName : Url.Host.NameReader) (files : FileSystem) (before : Journal) :
    ofSources readName files sources before = ofSources readName files sources' before := by
  have htells : List.Forall₂ (Source.TellsAlike Config.keys) sources sources' :=
    h.imp fun _ _ halike => halike.tells
  have hraw : (Stack.ofSources sources).raw? Setting.initializationType =
      (Stack.ofSources sources').raw? Setting.initializationType :=
    Stack.raw?_ofSources_congr h (fun _ _ halike => halike.tells.origin)
      fun _ _ halike => halike.raw
  have hconfig : configOf readName files sources = configOf readName files sources' := by
    rw [configOf, Config.resolve_congr (Stack.agreeOn_reads htells) hraw, configOf]
  have hloaded : sources.filterMap Source.location = sources'.filterMap Source.location :=
    filterMap_eq_of_forall₂ htells fun _ _ halike => halike.location
  simp only [ofSources, hconfig, hloaded]

/-- Settings of a configuration have variables of their own, whatever these start with. An
environment that holds settings in them builds, among any other sources, what the settings
themselves build in its place. -/
theorem ofSources_inVariables {values : List (String × String)}
    (hvalues : ∀ entry ∈ values, entry.1 ∈ Config.keys) (start : String)
    (above below : List Source) (readName : Url.Host.NameReader) (files : FileSystem)
    (before : Journal) :
    (Config.keys.map (Source.variableName start)).Nodup ∧
      ofSources readName files (above ++ .inVariables start values :: below) before =
        ofSources readName files (above ++ .pairs .environment values :: below) before := by
  refine ⟨Source.nodup_variableNames start, ?_⟩
  have hrefl (sources : List Source) : List.Forall₂ Source.ServesAlike sources sources :=
    List.forall₂_same.2 fun s _ => Source.ServesAlike.refl s
  apply ofSources_servesAlike
  exact List.rel_append (hrefl above)
    (.cons (Source.servesAlike_inVariables hvalues start) (hrefl below))

def separated : List (String × String) :=
  [("profiling.api-key", "old"), ("profiling.apikey", "oldest"), ("trace.tags", " a:1 "),
    ("tags", "b:2"), ("trace.request_header.tags", "x-id:id"), ("secure.random", "")]

theorem ofSources_separated :
    (∀ entry ∈ separated, entry.1 ∈ Config.keys) ∧
      (Config.keys.map (Source.variableName Source.usualStart)).Nodup ∧
      ofSources Url.Host.readName (FileTree.directory []).fileSystem
          ([.environment "" [(Setting.initializationType, "snap-start")]] ++
            .inVariables Source.usualStart separated :: [.pairs .captured [("service", "program")]])
          .empty =
        ofSources Url.Host.readName (FileTree.directory []).fileSystem
          ([.environment "" [(Setting.initializationType, "snap-start")]] ++
            .pairs .environment separated :: [.pairs .captured [("service", "program")]])
          .empty :=
  ⟨by decide +kernel, ofSources_inVariables (by decide +kernel) Source.usualStart _ _ _ _ _⟩

end Build

end TracerSettings
