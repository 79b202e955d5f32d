import TracerSettings.Proofs.Build.Failure
import TracerSettings.Proofs.Config.Coherence
import TracerSettings.Proofs.Stack.FirstHit
import TracerSettings.Proofs.Stack.Merged

namespace TracerSettings

open OrderedMap Stack

namespace Source

/-- What a source has for the tags of traces: the text under their own key, or the one under the
older key if there is none. -/
inductive TraceTags (s : Source) : String → Prop
  | own {text : String} (h : s.Tells "trace.tags" text) : s.TraceTags text
  | older {text : String} (hown : ∀ own, ¬s.Tells "trace.tags" own) (h : s.Tells "tags" text) :
      s.TraceTags text

def GlobalTags (s : Source) (text : String) : Prop := s.Tells "trace.global.tags" text

def Defines (s : Source) (Has : Source → String → Prop) (key value : String) : Prop :=
  ∃ text, Has s text ∧ (Pairs.read .comma text).value.get? key = some value

variable {s : Source} {text : String}

theorem firstPresent_traceTags :
    (s.firstPresent Setting.traceTags.names).map Prod.snd = some text ↔ s.TraceTags text := by
  have hfirst : (s.firstPresent Setting.traceTags.names).map Prod.snd =
      (s.present "trace.tags").or (s.present "tags") := by
    simp only [firstPresent, Setting.traceTags, Setting.names, List.findSome?_cons,
      List.findSome?_nil]
    cases s.present "trace.tags" <;> cases s.present "tags" <;> rfl
  rw [hfirst, Option.or_eq_some_iff, present_eq_some_iff, present_eq_none_iff, present_eq_some_iff]
  constructor
  · rintro (h | ⟨hown, h⟩)
    · exact .own h
    · exact .older hown h
  · rintro (h | ⟨hown, h⟩)
    · exact .inl h
    · exact .inr ⟨hown, h⟩

theorem firstPresent_globalTags :
    (s.firstPresent Setting.globalTags.names).map Prod.snd = some text ↔ s.GlobalTags text := by
  have hfirst : (s.firstPresent Setting.globalTags.names).map Prod.snd =
      s.present "trace.global.tags" := by
    simp only [firstPresent, Setting.globalTags, Setting.named, Setting.names, List.findSome?_cons,
      List.findSome?_nil]
    cases s.present "trace.global.tags" <;> rfl
  rw [hfirst, present_eq_some_iff, GlobalTags]

end Source

/-- A tag has the value that the highest one of the sources gives it that give it any. -/
def HighestTag (Has : Source → String → Prop) (sources : List Source) (key value : String) : Prop :=
  ∃ s, Tops (fun s => ∃ value, s.Defines Has key value) sources s ∧ s.Defines Has key value

section Merged

variable {sources : List Source} {s : Setting} {Has : Source → String → Prop} {key value : String}

theorem defines_iff
    (hhas : ∀ (source : Source) text,
      (source.firstPresent s.names).map Prod.snd = some text ↔ Has source text)
    (source : Source) (value : String) :
    ((source.firstPresent s.names).bind fun found =>
        (Pairs.read .comma found.2).value.get? key) = some value ↔
      source.Defines Has key value := by
  have hmap : ((source.firstPresent s.names).bind fun found =>
      (Pairs.read .comma found.2).value.get? key) =
        ((source.firstPresent s.names).map Prod.snd).bind fun text =>
          (Pairs.read .comma text).value.get? key := by
    rw [Option.bind_map]
    rfl
  rw [hmap, Option.bind_eq_some_iff, Source.Defines]
  simp only [hhas]

theorem get?_mergedMap (st : Stack) (s : Setting) (key : String) :
    (st.mergedMap s).value.get? key = st.sources.findSome? fun source =>
      (source.firstPresent s.names).bind fun found =>
        (Pairs.read .comma found.2).value.get? key := by
  have hmerges : st.Merges (Pairs.read .comma) [s] (st.mergedAll (Pairs.read .comma) [s]) :=
    merges_mergedAll st [s]
  rw [mergedMap_eq_mergedAll, hmerges.highest, List.reverse_singleton, List.findSome?_singleton]

theorem highestTag_of_get?
    (hhas : ∀ (source : Source) text,
      (source.firstPresent s.names).map Prod.snd = some text ↔ Has source text)
    (h : ((ofSources sources).mergedMap s).value.get? key = some value) :
    HighestTag Has sources key value := by
  rw [get?_mergedMap] at h
  obtain ⟨source, htops, hvalue⟩ := tops_of_findSome? h
  simp only [Option.isSome_iff_exists, defines_iff hhas] at htops hvalue
  exact ⟨source, htops, hvalue⟩

theorem get?_mergedMap_eq_none_iff
    (hhas : ∀ (source : Source) text,
      (source.firstPresent s.names).map Prod.snd = some text ↔ Has source text) :
    ((ofSources sources).mergedMap s).value.get? key = none ↔
      ∀ source ∈ sources, ∀ value, ¬source.Defines Has key value := by
  rw [get?_mergedMap, List.findSome?_eq_none_iff]
  simp only [mem_ofSources, Option.eq_none_iff_forall_ne_some, ne_eq, defines_iff hhas]

end Merged

/-- Which of the two settings of tags a tag has its value from. -/
inductive LayeredTag (sources : List Source) (key : String) : Option String → Prop
  | trace {value : String} (h : HighestTag Source.TraceTags sources key value) :
      LayeredTag sources key (some value)
  | global {value : String}
      (htrace : ∀ source ∈ sources, ∀ other, ¬source.Defines Source.TraceTags key other)
      (h : HighestTag Source.GlobalTags sources key value) : LayeredTag sources key (some value)
  | none (htrace : ∀ source ∈ sources, ∀ other, ¬source.Defines Source.TraceTags key other)
      (hglobal : ∀ source ∈ sources, ∀ other, ¬source.Defines Source.GlobalTags key other) :
      LayeredTag sources key none

/-- The value of a tag. A version and an environment that are known fix the tags of their names. -/
inductive TagOf (sources : List Source) (env version : Option String) (key : String) :
    Option String → Prop
  | version {value : String} (hkey : key = "version") (h : version = some value) :
      TagOf sources env version key (some value)
  | env {value : String} (hkey : key = "env") (h : env = some value) :
      TagOf sources env version key (some value)
  | layered {value : Option String} (hversion : key = "version" → version = none)
      (henv : key = "env" → env = none) (h : LayeredTag sources key value) :
      TagOf sources env version key value

theorem TagOf.of_traceTags {sources : List Source} {env version found : Option String}
    {key value : String} (htag : TagOf sources env version key found) {source : Source}
    (hsource : source ∈ sources) (h : source.Defines Source.TraceTags key value) :
    ∃ value, found = some value ∧
      (HighestTag Source.TraceTags sources key value ∨ key = "env" ∧ env = some value ∨
        key = "version" ∧ version = some value) := by
  cases htag with
  | version hkey hversion => exact ⟨_, rfl, .inr (.inr ⟨hkey, hversion⟩)⟩
  | env hkey henv => exact ⟨_, rfl, .inr (.inl ⟨hkey, henv⟩)⟩
  | layered _ _ hlayered =>
      cases hlayered with
      | trace htop => exact ⟨_, rfl, .inl htop⟩
      | global htrace _ => exact absurd h (htrace source hsource value)
      | none htrace _ => exact absurd h (htrace source hsource value)

namespace Service

variable {sources : List Source} {env version : Option String} {key value : String}

theorem get?_withTag (tags : OrderedMap) (s : Setting) (value : Option String) (key : String) :
    (withTag tags s value).get? key =
      if key = s.key then value.or (tags.get? key) else tags.get? key := by
  cases value with
  | none => simp [withTag]
  | some value => rw [withTag, get?_insert, Option.some_or]

theorem layeredTag_get? (sources : List Source) (key : String) :
    LayeredTag sources key ((((ofSources sources).mergedMap .globalTags).value.extend
      ((ofSources sources).mergedMap .traceTags).value).get? key) := by
  rw [get?_extend ((ofSources sources).wellFormed_mergedMap .traceTags).nodup]
  cases htrace : ((ofSources sources).mergedMap .traceTags).value.get? key with
  | some value =>
      exact .trace (highestTag_of_get? (fun _ _ => Source.firstPresent_traceTags) htrace)
  | none =>
      rw [get?_mergedMap_eq_none_iff fun _ _ => Source.firstPresent_traceTags] at htrace
      rw [Option.none_or]
      cases hglobal : ((ofSources sources).mergedMap .globalTags).value.get? key with
      | some value =>
          exact .global htrace
            (highestTag_of_get? (fun _ _ => Source.firstPresent_globalTags) hglobal)
      | none =>
          rw [get?_mergedMap_eq_none_iff fun _ _ => Source.firstPresent_globalTags] at hglobal
          exact .none htrace hglobal

theorem tagOf_withTag {tags : OrderedMap} (h : LayeredTag sources key (tags.get? key)) :
    TagOf sources env version key
      ((withTag (withTag tags .env env) .version version).get? key) := by
  have henvKey : Setting.env.key = "env" := rfl
  have hversionKey : Setting.version.key = "version" := rfl
  rw [get?_withTag, get?_withTag, henvKey, hversionKey]
  by_cases hversion : key = "version"
  · have hne : ¬key = "env" := by
      rw [hversion]
      decide
    rw [if_pos hversion, if_neg hne]
    cases version with
    | some value => exact .version hversion rfl
    | none => exact .layered (fun _ => rfl) (fun henv => absurd henv hne) h
  · rw [if_neg hversion]
    by_cases henv : key = "env"
    · rw [if_pos henv]
      cases env with
      | some value => exact .env henv rfl
      | none => exact .layered (fun hkey => absurd hkey hversion) (fun _ => rfl) h
    · rw [if_neg henv]
      exact .layered (fun hkey => absurd hkey hversion) (fun hkey => absurd hkey henv) h

structure LayersTags (sources : List Source) (service : Service) : Prop where
  env (value : String) : service.env = some value ↔ (ofSources sources).Tells .env value
  version (value : String) :
    service.version = some value ↔ (ofSources sources).Tells .version value
  tag (key : String) :
    TagOf sources service.env service.version key (service.tags.get? key)
  once : service.tags.keys.Nodup
  beats {source : Source} {key value : String} (hsource : source ∈ sources)
    (h : source.Defines Source.TraceTags key value) :
    ∃ found, service.tags.get? key = some found ∧
      (HighestTag Source.TraceTags sources key found ∨ key = "env" ∧ service.env = some found ∨
        key = "version" ∧ service.version = some found)

theorem layersTags_resolve (sources : List Source) :
    LayersTags sources (resolve (.ofSources sources)).value := by
  have htag (key : String) : TagOf sources (resolve (.ofSources sources)).value.env
      (resolve (.ofSources sources)).value.version key
      ((resolve (.ofSources sources)).value.tags.get? key) :=
    tagOf_withTag (layeredTag_get? sources key)
  constructor
  case env => exact fun value => value_text?_eq_some_iff
  case version => exact fun value => value_text?_eq_some_iff
  case tag => exact htag
  case once => exact (coherent_resolve (.ofSources sources)).tags.nodup
  case beats =>
    intro source key value hsource h
    exact (htag key).of_traceTags hsource h

end Service

namespace Build

/-- The tags of the service of a build that succeeds. -/
theorem service_layersTags {readName : Url.Host.NameReader} {files : FileSystem}
    {sources : List Source} {before : Journal} {r : Resolved}
    (h : (ofSources readName files sources before).result = .ok r) :
    Service.LayersTags sources r.config.service := by
  rw [config_eq_resolve h]
  exact Service.layersTags_resolve sources

def layered : List Source :=
  [.document (some "/app.toml") [("trace.tags", "team=file,env=file"), ("tags", "old=file"),
      ("version", "2")],
    .environment Source.usualStart [("DD_TAGS", "team=variable"), ("DD_ENV", " ")],
    .pairs .override [("trace.global.tags", "team=global,zone=global,version=global")]]

theorem service_layersTags_layered : ∃ r,
    (ofSources Url.Host.readName (FileTree.directory []).fileSystem layered .empty).result = .ok r ∧
      Service.LayersTags layered r.config.service ∧
      r.config.service.tags.entries =
        [("team", "variable"), ("zone", "global"), ("version", "2"), ("env", "file")] := by
  have hunset : (Stack.ofSources layered).find? Setting.ciVisibility.names = none := by
    rw [Stack.ofSources_eq]
    decide +kernel
  obtain ⟨r, h⟩ := exists_result_of_find?_eq_none hunset Url.Host.readName
    (FileTree.directory []).fileSystem .empty
  refine ⟨r, h, service_layersTags h, ?_⟩
  have hservice : r.config.service = (Service.resolve (.ofSources layered)).value := by
    rw [config_eq_resolve h]
    rfl
  rw [hservice, Stack.ofSources_eq]
  decide +kernel

end Build

end TracerSettings
