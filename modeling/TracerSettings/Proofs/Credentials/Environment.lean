import TracerSettings.FileSystem
import TracerSettings.Proofs.Credentials.Generations

namespace TracerSettings

theorem Stack.find?_ofSources_of_origin {sources : List Source} {o : Origin} {names : List String}
    (h : ∀ hit, (ofSources sources).find? names = some hit → hit.origin = o) :
    (ofSources sources).find? names = (ofSources (Source.withOrigin o sources)).find? names := by
  have hhits : (ofSources (Source.withOrigin o sources)).hits names =
      ((ofSources sources).hits names).filter fun hit => hit.origin == o := by
    rw [← hits_admitting (ofSources sources) (· == o) names, admitting_ofSources,
      Source.withOrigin]
  rw [find?] at h
  rw [find?, find?, hhits]
  cases hfound : (ofSources sources).hits names with
  | nil => rfl
  | cons hit rest =>
      have horigin : hit.origin = o := h hit (by rw [hfound]; rfl)
      rw [List.filter_cons, if_pos (beq_iff_eq.2 horigin)]
      rfl

namespace Credentials

variable {files : FileSystem} {sources sources' : List Source} {g : Generation}

def newest : Generation := ⟨.apiKey, .apiKeyFile, false⟩

def older : List Generation := apiKeyGenerations.filter Generation.environmentOnly

theorem apiKeyGenerations_eq : apiKeyGenerations = newest :: older := rfl

section Congruence

variable {st st' : Stack}

theorem value_fromFile_congr {s : Setting}
    (h : (st.find? s.names).map Hit.value = (st'.find? s.names).map Hit.value) :
    (fromFile files st s).value = (fromFile files st' s).value := by
  rw [fromFile, Noted.value_bind, Stack.value_text?, h, fromFile, Noted.value_bind,
    Stack.value_text?]

theorem Generation.value_resolve_congr
    (hdirect : (g.directHit? sources).map Hit.value = (g.directHit? sources').map Hit.value)
    (hfile : (g.fileHit? sources).map Hit.value = (g.fileHit? sources').map Hit.value) :
    (g.resolve files (.ofSources sources)).value =
      (g.resolve files (.ofSources sources')).value := by
  rw [value_resolve, value_resolve, value_fromFile_congr hfile, value_direct_ofSources, hdirect,
    value_direct_ofSources]

end Congruence

theorem Generation.directHit?_of_mem_older (hg : g ∈ older) (sources : List Source) :
    g.directHit? sources =
      (Stack.ofSources (Source.withOrigin .environment sources)).find? g.key.names := by
  rw [directHit?, filter_admits_of_environmentOnly (List.mem_filter.1 hg).2]

/-- Sources that agree in those of the environment, and in what they have for the newest generation
of the API key. -/
structure AgreeOnKey (sources sources' : List Source) : Prop where
  environment : Source.withOrigin .environment sources = Source.withOrigin .environment sources'
  direct : (newest.directHit? sources).map Hit.value = (newest.directHit? sources').map Hit.value
  file : (newest.fileHit? sources).map Hit.value = (newest.fileHit? sources').map Hit.value

/-- Whether older keys come from the environment only: sources that agree there have the same key
if the newest generation finds the same. -/
def EnvironmentOnly (files : FileSystem) : Prop :=
  ∀ sources sources', AgreeOnKey sources sources' →
    (resolveApiKey files (.ofSources sources)).value =
      (resolveApiKey files (.ofSources sources')).value

/-- An older generation has different files in two lists of sources, and some source outside of the
environment is behind that. -/
structure NamedOutside (g : Generation) (sources sources' : List Source) : Prop where
  differs : (g.fileHit? sources).map Hit.value ≠ (g.fileHit? sources').map Hit.value
  outside : ∃ hit, (g.fileHit? sources = some hit ∨ g.fileHit? sources' = some hit) ∧
    hit.origin ≠ .environment

/-- How far the API key of sources that agree in the environment can differ. -/
structure EnvironmentBound (files : FileSystem) (sources sources' : List Source) : Prop where
  direct : ∀ g ∈ older, g.directHit? sources = g.directHit? sources'
  newest : ∀ key, newest.HasKey files sources key →
    (resolveApiKey files (.ofSources sources)).value = some key ∧
      (resolveApiKey files (.ofSources sources')).value = some key
  /-- Other keys differ only by a file that some source outside of the environment names. -/
  file : (resolveApiKey files (.ofSources sources)).value ≠
      (resolveApiKey files (.ofSources sources')).value →
    ∃ g ∈ older, NamedOutside g sources sources'

namespace AgreeOnKey

variable (h : AgreeOnKey sources sources')

include h

theorem directHit?_eq (hg : g ∈ older) : g.directHit? sources = g.directHit? sources' := by
  rw [Generation.directHit?_of_mem_older hg, h.environment, Generation.directHit?_of_mem_older hg]

theorem fileHit?_eq (hin : ∀ hit, g.fileHit? sources = some hit → hit.origin = .environment)
    (hin' : ∀ hit, g.fileHit? sources' = some hit → hit.origin = .environment) :
    g.fileHit? sources = g.fileHit? sources' := by
  rw [Generation.fileHit?, Stack.find?_ofSources_of_origin hin, h.environment,
    ← Stack.find?_ofSources_of_origin hin', Generation.fileHit?]

theorem namedOutside (hdiffers : (g.fileHit? sources).map Hit.value ≠
    (g.fileHit? sources').map Hit.value) : NamedOutside g sources sources' := by
  refine ⟨hdiffers, ?_⟩
  by_contra hnone
  push Not at hnone
  apply hdiffers
  rw [h.fileHit?_eq (fun hit hhit => hnone hit (.inl hhit)) fun hit hhit => hnone hit (.inr hhit)]

theorem value_newest (files : FileSystem) :
    (newest.resolve files (.ofSources sources)).value =
      (newest.resolve files (.ofSources sources')).value :=
  Generation.value_resolve_congr h.direct h.file

end AgreeOnKey

theorem value_resolveApiKey (files : FileSystem) (sources : List Source) :
    (resolveApiKey files (.ofSources sources)).value =
      (newest.resolve files (.ofSources sources)).value.or
        (older.findSome? fun g => (g.resolve files (.ofSources sources)).value) := by
  rw [resolveApiKey, value_firstKey, apiKeyGenerations_eq, List.findSome?_cons]
  cases (newest.resolve files (.ofSources sources)).value <;> rfl

theorem resolveApiKey_environmentBound (hagree : AgreeOnKey sources sources')
    (files : FileSystem) : EnvironmentBound files sources sources' := by
  constructor
  case direct => exact fun g hg => hagree.directHit?_eq hg
  case newest =>
    intro key hkey
    have hvalue := Generation.resolve_eq_some_iff.2 hkey
    have hvalue' := (hagree.value_newest files).symm.trans hvalue
    rw [value_resolveApiKey, value_resolveApiKey, hvalue, hvalue']
    exact ⟨rfl, rfl⟩
  case file =>
    intro hdiffers
    by_contra hnone
    push Not at hnone
    apply hdiffers
    -- Generations whose files are named alike have the same keys, the newest one first.
    rw [value_resolveApiKey, value_resolveApiKey, hagree.value_newest]
    congr 1
    rw [← List.head?_filterMap, ← List.head?_filterMap]
    refine congrArg List.head? (List.filterMap_congr fun g hg => ?_)
    apply Generation.value_resolve_congr
    · rw [hagree.directHit?_eq hg]
    · by_contra hfile
      exact hnone g hg (hagree.namedOutside hfile)

def keyFile : FileSystem := (FileTree.directory [("key", .file "secret\n".toUTF8)]).fileSystem

def inEnvironment : List Source :=
  [.environment Source.usualStart [("DD_PROFILING_APIKEY", "old"), ("DD_API_KEY_FILE", "/none")]]

def heldOutside : List Source :=
  [.pairs .process [("api-key", "seen"), ("profiling.api-key", "process")],
    .document none [("profiling.api-key", "file"), ("profiling.apikey", "file")]] ++
      inEnvironment

theorem resolveApiKey_environmentBound_heldOutside :
    AgreeOnKey heldOutside inEnvironment ∧
      (resolveApiKey keyFile (.ofSources heldOutside)).value = some "old" ∧
      EnvironmentBound keyFile heldOutside inEnvironment := by
  have hagree : AgreeOnKey heldOutside inEnvironment := by
    constructor
    case environment => rfl
    case direct =>
      rw [Generation.directHit?, Generation.directHit?, Stack.ofSources_eq, Stack.ofSources_eq]
      decide +kernel
    case file =>
      rw [Generation.fileHit?, Generation.fileHit?, Stack.ofSources_eq, Stack.ofSources_eq]
      decide +kernel
  have hkey : (resolveApiKey keyFile (.ofSources heldOutside)).value = some "old" := by
    rw [Stack.ofSources_eq]
    decide +kernel
  exact ⟨hagree, hkey, resolveApiKey_environmentBound hagree keyFile⟩

def namedByProcess : List Source := [.pairs .process [("profiling.api-key-file", "/key")]]

/-- It is the key that the file holds, and there would be none without the property. -/
theorem not_environmentOnly_keyFile : ¬EnvironmentOnly keyFile := by
  intro honly
  have hagree : AgreeOnKey namedByProcess [] := by
    constructor
    case environment => rfl
    case direct =>
      rw [Generation.directHit?, Generation.directHit?, Stack.ofSources_eq, Stack.ofSources_eq]
      decide +kernel
    case file =>
      rw [Generation.fileHit?, Generation.fileHit?, Stack.ofSources_eq, Stack.ofSources_eq]
      decide +kernel
  have hkey : (resolveApiKey keyFile (.ofSources namedByProcess)).value = some "secret" := by
    rw [Stack.ofSources_eq]
    decide +kernel
  have hnone : (resolveApiKey keyFile (.ofSources [])).value = none := by
    rw [Stack.ofSources_eq]
    decide +kernel
  have hsame := honly namedByProcess [] hagree
  rw [hkey, hnone] at hsame
  cases hsame

end Credentials

end TracerSettings
