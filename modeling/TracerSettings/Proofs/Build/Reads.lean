import TracerSettings.Build
import TracerSettings.FileSystem
import TracerSettings.Proofs.Config.Reads
import TracerSettings.Proofs.Stack.FirstHit
import TracerSettings.Proofs.Stack.Pairwise

namespace TracerSettings

def Config.keys : List String := reads.flatMap Setting.names

namespace Source

/-- Sources that differ at most in what they hold under other keys, in padding, and in what is
blank. -/
structure TellsAlike (keys : List String) (s s' : Source) : Prop where
  origin : s.origin = s'.origin
  location : s.location = s'.location
  tells : ∀ key ∈ keys, ∀ value, s.Tells key value ↔ s'.Tells key value

theorem TellsAlike.present_eq {keys : List String} {s s' : Source} (h : TellsAlike keys s s')
    {key : String} (hkey : key ∈ keys) : s.present key = s'.present key := by
  apply Option.ext
  intro value
  rw [present_eq_some_iff, present_eq_some_iff, h.tells key hkey]

theorem tellsAlike_of_present {keys : List String} {s s' : Source} (horigin : s.origin = s'.origin)
    (hlocation : s.location = s'.location) (h : ∀ key ∈ keys, s.present key = s'.present key) :
    TellsAlike keys s s' where
  origin := horigin
  location := hlocation
  tells key hkey value := by rw [← present_eq_some_iff, h key hkey, present_eq_some_iff]

end Source

variable {sources sources' : List Source}

theorem Stack.agreeOn_reads (h : List.Forall₂ (Source.TellsAlike Config.keys) sources sources') :
    AgreeOn Config.reads (ofSources sources) (ofSources sources') := by
  intro s hs
  apply hits_ofSources_congr h fun _ _ halike => halike.origin
  intro t t' halike
  apply Source.hit?_congr halike.origin
  intro name hname
  exact halike.present_eq (List.mem_flatMap.2 ⟨s, hs, hname⟩)

namespace Build

/-- Sources that tell the same under the keys of a configuration, and whose stacks know the same
kind of start, are built alike, whatever else is in them. -/
theorem ofSources_tellsAlike (h : List.Forall₂ (Source.TellsAlike Config.keys) sources sources')
    (hraw : (Stack.ofSources sources).raw? Setting.initializationType =
      (Stack.ofSources sources').raw? Setting.initializationType)
    (readName : Url.Host.NameReader) (files : FileSystem) (before : Journal) :
    ofSources readName files sources before = ofSources readName files sources' before := by
  have hconfig : configOf readName files sources = configOf readName files sources' := by
    rw [configOf, Config.resolve_congr (Stack.agreeOn_reads h) hraw, configOf]
  have hloaded : sources.filterMap Source.location = sources'.filterMap Source.location :=
    filterMap_eq_of_forall₂ h fun _ _ halike => halike.location
  simp only [ofSources, hconfig, hloaded]

def padded : List Source :=
  [.document (some "/app.toml") [("service", "\tshop "), ("trace.tags", "  "), ("colour", "red")],
    .environment Source.usualStart [("DD_TAGS", " a:1, b"), ("DD_SITE", "")],
    .pairs .process [("propagation.style.extract", "\n"), ("api-key", " key")]]

def bare : List Source :=
  [.document (some "/app.toml") [("service", "shop")],
    .environment Source.usualStart [("DD_TAGS", "a:1, b ")],
    .pairs .process [("api-key", "key"), ("trace.tag", "a:2")]]

theorem tellsAlike_padded : List.Forall₂ (Source.TellsAlike Config.keys) padded bare := by
  refine .cons ?_ (.cons ?_ (.cons ?_ .nil))
  · exact Source.tellsAlike_of_present rfl rfl (by decide +kernel)
  · -- The environments tell the same under all names, those of unknown settings included.
    have hpresent (name : String) :
        (lastValue? [("DD_TAGS", " a:1, b"), ("DD_SITE", "")] name).bind Text.nonBlank =
          (lastValue? [("DD_TAGS", "a:1, b ")] name).bind Text.nonBlank := by
      by_cases htags : name = "DD_TAGS"
      · subst htags
        decide +kernel
      · by_cases hsite : name = "DD_SITE"
        · subst hsite
          decide +kernel
        · simp [lastValue?, List.lookup_cons, beq_false_of_ne htags, beq_false_of_ne hsite]
    exact Source.tellsAlike_of_present rfl rfl fun _ _ => hpresent _
  · exact Source.tellsAlike_of_present rfl rfl (by decide +kernel)

theorem raw?_padded : (Stack.ofSources padded).raw? Setting.initializationType =
    (Stack.ofSources bare).raw? Setting.initializationType := by
  rw [Stack.ofSources_eq, Stack.ofSources_eq]
  decide +kernel

theorem ofSources_padded :
    List.Forall₂ (Source.TellsAlike Config.keys) padded bare ∧
      (Stack.ofSources padded).raw? Setting.initializationType =
        (Stack.ofSources bare).raw? Setting.initializationType ∧
      ofSources Url.Host.readName (FileTree.directory []).fileSystem padded .empty =
        ofSources Url.Host.readName (FileTree.directory []).fileSystem bare .empty :=
  ⟨tellsAlike_padded, raw?_padded, ofSources_tellsAlike tellsAlike_padded raw?_padded _ _
    .empty⟩

end Build

end TracerSettings
