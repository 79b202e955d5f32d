import TracerSettings.Build
import TracerSettings.FileSystem
import TracerSettings.Proofs.Config.Reads
import TracerSettings.Proofs.Stack.Pairwise

namespace TracerSettings

/-- Sources that differ at most in what they have for keys on which they are not heard. -/
structure Source.HeardAlike (s s' : Source) : Prop where
  origin : s.origin = s'.origin
  location : s.location = s'.location
  lookup : ∀ key, admits key s.origin = true → s.lookup key = s'.lookup key
  lookupRaw : ∀ name, s.lookupRaw name = s'.lookupRaw name

theorem Source.HeardAlike.hit?_eq {s s' : Source} (h : s.HeardAlike s') {names : List String}
    (hnames : ∀ name ∈ names, admits name s.origin = true) : s.hit? names = s'.hit? names := by
  apply Source.hit?_congr h.origin
  intro name hname
  rw [present, h.lookup name (hnames name hname), present]

theorem lastValue?_append_of_unheard {o : Origin} {extra values : List (String × String)}
    (h : ∀ pair ∈ extra, admits pair.1 o = false) {key : String} (hkey : admits key o = true) :
    lastValue? (extra ++ values) key = lastValue? values key := by
  have hnone : extra.reverse.lookup key = none := by
    apply List.lookup_eq_none_iff.2
    intro pair hpair
    have hne : key ≠ pair.1 := by
      rintro rfl
      exact Bool.false_ne_true ((h pair (List.mem_reverse.1 hpair)).symm.trans hkey)
    exact bne_iff_ne.2 hne
  rw [lastValue?, List.reverse_append, List.lookup_append, hnone, Option.or_none, lastValue?]

theorem Source.heardAlike_pairs {o : Origin} {extra : List (String × String)}
    (h : ∀ pair ∈ extra, admits pair.1 o = false) (values : List (String × String)) :
    (Source.pairs o (extra ++ values)).HeardAlike (.pairs o values) where
  origin := rfl
  location := rfl
  lookup _ hkey := lastValue?_append_of_unheard h hkey
  lookupRaw _ := rfl

theorem Source.heardAlike_document {extra : List (String × String)}
    (h : ∀ pair ∈ extra, admits pair.1 .file = false) (place : Option String)
    (leaves : List (String × String)) :
    (Source.document place (extra ++ leaves)).HeardAlike (.document place leaves) where
  origin := rfl
  location := rfl
  lookup _ hkey := lastValue?_append_of_unheard h hkey
  lookupRaw _ := rfl

variable {sources sources' : List Source}

namespace Stack

theorem agreeOn_of_heardAlike (h : List.Forall₂ Source.HeardAlike sources sources')
    {settings : List Setting}
    (hopen : ∀ s ∈ settings, ∀ name ∈ s.names, name ∉ credentialKeys) :
    AgreeOn settings (ofSources sources) (ofSources sources') := by
  intro s hs
  apply hits_ofSources_congr h fun _ _ halike => halike.origin
  intro source source' halike
  apply halike.hit?_eq
  intro name hname
  rw [admits_of_notMem (hopen s hs name hname)]

theorem heardAlike_secrets (h : List.Forall₂ Source.HeardAlike sources sources') :
    HeardAlike Credentials.secrets (ofSources sources) (ofSources sources') := by
  have hnames : ∀ s ∈ Credentials.secrets, s.names = [s.key] := by decide
  intro s hs
  apply hits_admitting_ofSources_congr h fun _ _ halike => halike.origin
  intro source source' halike hadmits
  apply halike.hit?_eq
  rw [hnames s hs, List.forall_mem_singleton]
  exact hadmits

end Stack

namespace Build

/-- What sources have for a credential where they are not heard on it changes nothing: the same
comes of the build, in full, on every journal. -/
theorem ofSources_heardAlike (h : List.Forall₂ Source.HeardAlike sources sources')
    (readName : Url.Host.NameReader) (files : FileSystem) (before : Journal) :
    ofSources readName files sources before = ofSources readName files sources' before := by
  obtain ⟨hopen, hfiles⟩ := List.forall_mem_append.1 Config.notMem_credentialKeys
  have hraw : (Stack.ofSources sources).raw? Setting.initializationType =
      (Stack.ofSources sources').raw? Setting.initializationType :=
    Stack.raw?_ofSources_congr h (fun _ _ halike => halike.origin)
      fun _ _ halike => halike.lookupRaw _
  have hconfig : configOf readName files sources = configOf readName files sources' := by
    rw [configOf, Config.resolve_heard_congr (Stack.agreeOn_of_heardAlike h hopen)
      (Stack.agreeOn_of_heardAlike h hfiles) (Stack.heardAlike_secrets h) hraw, configOf]
  have hloaded : sources.filterMap Source.location = sources'.filterMap Source.location :=
    filterMap_eq_of_forall₂ h fun _ _ halike => halike.location
  simp only [ofSources, hconfig, hloaded]

def olderOffers : List (String × String) :=
  [("profiling.api-key", "older"), ("profiling.apikey", "oldest")]

def offering (properties leaves : List (String × String)) : List Source :=
  [.pairs .process (properties ++ [("service", "shop"), ("api-key-file", "/key")]),
    .document (some "/app.toml") (leaves ++ [("api-key", "file key")]),
    .environment Source.usualStart [("DD_APPLICATION_KEY", "environment key")]]

def outspoken : List Source :=
  offering ([("api-key", "key"), ("application-key", "other")] ++ olderOffers) olderOffers

def discreet : List Source := offering [] []

theorem heardAlike_outspoken : List.Forall₂ Source.HeardAlike outspoken discreet := by
  refine .cons ?_ (.cons ?_ (.cons ⟨rfl, rfl, fun _ _ => rfl, fun _ => rfl⟩ .nil))
  · exact Source.heardAlike_pairs (by decide +kernel) _
  · exact Source.heardAlike_document (by decide +kernel) _ _

theorem ofSources_outspoken :
    List.Forall₂ Source.HeardAlike outspoken discreet ∧
      ofSources Url.Host.readName (FileTree.directory []).fileSystem outspoken .empty =
        ofSources Url.Host.readName (FileTree.directory []).fileSystem discreet .empty :=
  ⟨heardAlike_outspoken, ofSources_heardAlike heardAlike_outspoken _ _ .empty⟩

end Build

end TracerSettings
