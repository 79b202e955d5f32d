import TracerSettings.Proofs.OrderedMap.Rendered
import TracerSettings.Proofs.Pairs.Tags
import TracerSettings.Proofs.Stack.Collected
import TracerSettings.Section.Trace

namespace TracerSettings.Stack

open OrderedMap

variable {sources : List Source} {mapping : TagMapping} {settings front back : List Setting}
  {s : Setting}

section MergedAll

variable {read : String → Reading OrderedMap}

theorem map_fst_collections_mergeOnto (st : Stack) (read : String → Reading OrderedMap)
    (s : Setting) (base : OrderedMap) :
    ∀ key ∈ (collections (st.mergeOnto read s base).notes).map Prod.fst, key = s.key := by
  rw [collections_mergeOnto, List.map_map]
  exact List.forall_mem_map.2 fun _ _ => rfl

theorem key_mem_of_collections_foldlM (st : Stack) (settings : List Setting) (base : OrderedMap) :
    ∀ key ∈ (collections (settings.foldlM (fun m s => st.mergeOnto read s m) base).notes).map
        Prod.fst, key ∈ settings.map Setting.key := by
  induction settings generalizing base with
  | nil => exact fun _ hkey => hkey
  | cons s settings ih =>
      rw [List.foldlM_cons, Noted.notes_bind, collections_append, List.map_append,
        List.forall_mem_append]
      constructor
      · intro key hkey
        rw [map_fst_collections_mergeOnto st read s base key hkey]
        exact List.mem_cons_self
      · exact fun key hkey => List.mem_cons_of_mem s.key (ih _ key hkey)

theorem lookup_collections_mergedAll (st : Stack) (read : String → Reading OrderedMap)
    (hkeys : ((front ++ s :: back).map Setting.key).Nodup) :
    (collections (st.mergedAll read (front ++ s :: back)).notes).lookup s.key =
      (st.find? s.names).map fun hit =>
        ⟨(st.mergedAll read (front ++ [s])).value.render, hit.origin⟩ := by
  rw [List.map_append, List.map_cons, List.nodup_append, List.nodup_cons] at hkeys
  obtain ⟨-, ⟨hback, -⟩, hdisjoint⟩ := hkeys
  have hfront : s.key ∉ front.map Setting.key :=
    fun hmem => hdisjoint _ hmem _ List.mem_cons_self rfl
  have hvalue : (st.mergedAll read (front ++ [s])).value =
      (st.mergeOnto read s (st.mergedAll read front).value).value := by
    rw [mergedAll, List.foldlM_append]
    rfl
  -- Under this key neither the settings before it nor those behind it collect anything.
  rw [hvalue, mergedAll, List.foldlM_append, Noted.notes_bind, List.foldlM_cons, Noted.notes_bind,
    collections_append, collections_append, List.lookup_append, List.lookup_append,
    lookup_eq_none_of_notMem (mt (key_mem_of_collections_foldlM st front .empty s.key) hfront),
    lookup_eq_none_of_notMem (mt (key_mem_of_collections_foldlM st back _ s.key) hback),
    Option.none_or, Option.or_none, collections_mergeOnto]
  cases st.find? s.names with
  | none => rfl
  | some hit => exact List.lookup_cons_self

end MergedAll

theorem value_mergedTags (st : Stack) (mapping : TagMapping) (settings : List Setting) :
    (st.mergedTags mapping settings).value =
      (mapping.read (",".intercalate (st.allTexts settings))).value :=
  (merges_mergedAll st settings).value

theorem value_mergedTags_append (st : Stack) (mapping : TagMapping) (front back : List Setting) :
    (st.mergedTags mapping (front ++ back)).value =
      (st.mergedTags mapping front).value.extend (st.mergedTags mapping back).value := by
  rw [value_mergedTags, value_mergedTags, value_mergedTags, allTexts, List.flatMap_append]
  exact value_readText_append _ _

theorem nodup_mergedTags (st : Stack) (mapping : TagMapping) (settings : List Setting) :
    (st.mergedTags mapping settings).value.keys.Nodup :=
  (wellFormed_mergedTags st mapping settings).nodup

theorem unsigned_mergedTags (st : Stack) (mapping : TagMapping) (settings : List Setting) :
    ∀ key ∈ (st.mergedTags mapping settings).value.keys, '=' ∉ key.toList := by
  rw [value_mergedTags]
  exact fun key => TagMapping.unsigned_of_mem_keys

theorem render_extend_eq_iff (st : Stack) (mapping : TagMapping) (front : List Setting)
    (s : Setting) :
    ((st.mergedTags mapping front).value.extend (st.mergedTags mapping [s]).value).render =
        (st.mergedTags mapping [s]).value.render ↔
      (st.mergedTags mapping front).value.keys <+: (st.mergedTags mapping [s]).value.keys := by
  have hown := nodup_mergedTags st mapping [s]
  rw [← extend_eq_right_iff hown]
  constructor
  · apply eq_of_render_eq
    · rw [← value_mergedTags_append]
      exact unsigned_mergedTags st mapping _
    · exact unsigned_mergedTags st mapping [s]
    · apply compatible_extend _ hown
      rw [← value_mergedTags_append]
      exact nodup_mergedTags st mapping _
  · exact congrArg render

/-- What a journal says of settings if each one that is set stands there with the tags that it alone
comes to, under the origin of the highest source that sets it. -/
def Attributed (sources : List Source) (mapping : TagMapping) (settings : List Setting)
    (j : Journal) : Prop :=
  ∀ s ∈ settings, (∃ source ∈ sources, source.Sets s) →
    ∃ top, Tops (·.Sets s) sources top ∧
      j.get? s.key = some ⟨((ofSources sources).mergedTags mapping [s]).value.render, top.origin⟩

/-- What a journal says of settings that are merged in turn. -/
structure CollectsTotals (sources : List Source) (mapping : TagMapping) (settings : List Setting)
    (j : Journal) : Prop where
  unset : ∀ s ∈ settings, (¬∃ source ∈ sources, source.Sets s) → j.get? s.key = none
  total : ∀ front s back, settings = front ++ s :: back → (∃ source ∈ sources, source.Sets s) →
    ∃ top, Tops (·.Sets s) sources top ∧
      j.get? s.key = some ⟨(((ofSources sources).mergedTags mapping front).value.extend
        ((ofSources sources).mergedTags mapping [s]).value).render, top.origin⟩
  attributed : Attributed sources mapping settings j ↔
    ∀ front s back, settings = front ++ s :: back → (∃ source ∈ sources, source.Sets s) →
      ((ofSources sources).mergedTags mapping front).value.keys <+:
        ((ofSources sources).mergedTags mapping [s]).value.keys

theorem find?_eq_none_of_unset (h : ¬∃ source ∈ sources, source.Sets s) :
    (ofSources sources).find? s.names = none :=
  find?_eq_none_iff.2 fun source hsource name hname value htells =>
    h ⟨source, mem_ofSources.1 hsource, name, hname, value, htells⟩

section Absorbed

variable {before : Journal}

theorem get?_absorb_mergedTags (hsplit : settings = front ++ s :: back)
    (hkeys : (settings.map Setting.key).Nodup) (hnew : s.key ∉ before.keys)
    (hplain : isSecretKey s.key = false) :
    (before.absorb ((ofSources sources).mergedTags mapping settings).notes).get? s.key =
      ((ofSources sources).find? s.names).map fun hit =>
        ⟨(((ofSources sources).mergedTags mapping front).value.extend
          ((ofSources sources).mergedTags mapping [s]).value).render, hit.origin⟩ := by
  subst hsplit
  rw [Journal.get?_absorb_of_plain hnew hplain, ← value_mergedTags_append]
  exact lookup_collections_mergedAll (ofSources sources) mapping.read hkeys

theorem exists_tops_of_set (hsplit : settings = front ++ s :: back)
    (hkeys : (settings.map Setting.key).Nodup) (hnew : s.key ∉ before.keys)
    (hplain : isSecretKey s.key = false) (hset : ∃ source ∈ sources, source.Sets s) :
    ∃ top, Tops (·.Sets s) sources top ∧
      (before.absorb ((ofSources sources).mergedTags mapping settings).notes).get? s.key =
        some ⟨(((ofSources sources).mergedTags mapping front).value.extend
          ((ofSources sources).mergedTags mapping [s]).value).render, top.origin⟩ := by
  obtain ⟨hit, hfind⟩ := exists_find?_of_sets hset
  obtain ⟨top, htops, horigin⟩ := exists_tops_of_find? hfind
  refine ⟨top, htops, ?_⟩
  rw [get?_absorb_mergedTags hsplit hkeys hnew hplain, hfind, Option.map_some, horigin]

/-- Settings that are merged in turn, each collected for the first time and none of them secret, are
collected with running totals. -/
theorem mergedTags_collectsTotals (hkeys : (settings.map Setting.key).Nodup)
    (hnew : ∀ s ∈ settings, s.key ∉ before.keys)
    (hplain : ∀ s ∈ settings, isSecretKey s.key = false) :
    CollectsTotals sources mapping settings
      (before.absorb ((ofSources sources).mergedTags mapping settings).notes) := by
  constructor
  case unset =>
    intro s hs hunset
    obtain ⟨front, back, hsplit⟩ := List.append_of_mem hs
    rw [get?_absorb_mergedTags hsplit hkeys (hnew s hs) (hplain s hs),
      find?_eq_none_of_unset hunset]
    rfl
  case total =>
    intro front s back hsplit hset
    have hs : s ∈ settings := hsplit ▸ List.mem_append_cons_self
    exact exists_tops_of_set hsplit hkeys (hnew s hs) (hplain s hs) hset
  case attributed =>
    constructor
    · intro hattributed front s back hsplit hset
      have hs : s ∈ settings := hsplit ▸ List.mem_append_cons_self
      obtain ⟨_, -, hown⟩ := hattributed s hs hset
      obtain ⟨_, -, hfound⟩ := exists_tops_of_set hsplit hkeys (hnew s hs) (hplain s hs) hset
      rw [hown] at hfound
      rw [← render_extend_eq_iff]
      exact (congrArg Collected.value (Option.some.inj hfound)).symm
    · intro hstarts s hs hset
      obtain ⟨front, back, hsplit⟩ := List.append_of_mem hs
      obtain ⟨top, htops, hfound⟩ :=
        exists_tops_of_set hsplit hkeys (hnew s hs) (hplain s hs) hset
      refine ⟨top, htops, ?_⟩
      rw [hfound, (render_extend_eq_iff _ mapping front s).2 (hstarts front s back hsplit hset)]

end Absorbed

def twoHeaders : List Source :=
  [.pairs .process [("trace.header.tags", "a"), ("trace.request_header.tags", "b")]]

theorem mergedTags_collectsTotals_twoHeaders :
    ([Setting.headerTags, .requestHeaderTags].map Setting.key).Nodup ∧
      (∀ s ∈ [Setting.headerTags, .requestHeaderTags], s.key ∉ collectedBefore.keys) ∧
      (∀ s ∈ [Setting.headerTags, .requestHeaderTags], isSecretKey s.key = false) ∧
      CollectsTotals twoHeaders HeaderTags.requestMapping [.headerTags, .requestHeaderTags]
        (collectedBefore.absorb ((ofSources twoHeaders).mergedTags HeaderTags.requestMapping
          [.headerTags, .requestHeaderTags]).notes) := by
  have hkeys : ([Setting.headerTags, .requestHeaderTags].map Setting.key).Nodup := by decide
  have hnew : ∀ s ∈ [Setting.headerTags, .requestHeaderTags], s.key ∉ collectedBefore.keys := by
    decide
  have hplain : ∀ s ∈ [Setting.headerTags, .requestHeaderTags], isSecretKey s.key = false := by
    decide +kernel
  exact ⟨hkeys, hnew, hplain, mergedTags_collectsTotals hkeys hnew hplain⟩

/-- The second of two header settings is collected with the tag of the first one too. -/
theorem not_attributed_twoHeaders :
    ¬Attributed twoHeaders HeaderTags.requestMapping [.headerTags, .requestHeaderTags]
      (collectedBefore.absorb ((ofSources twoHeaders).mergedTags HeaderTags.requestMapping
        [.headerTags, .requestHeaderTags]).notes) := by
  intro hattributed
  have hset : ∃ source ∈ twoHeaders, source.Sets .requestHeaderTags :=
    ⟨_, List.mem_cons_self, "trace.request_header.tags", List.mem_cons_self, "b",
      Source.present_eq_some_iff.1 (by decide +kernel)⟩
  obtain ⟨top, -, hown⟩ := hattributed .requestHeaderTags (by simp) hset
  have htext : ((ofSources twoHeaders).mergedTags HeaderTags.requestMapping
      [.requestHeaderTags]).value.render = "b=http.request.headers.b" := by
    rw [ofSources_eq]
    decide +kernel
  have hfound : (collectedBefore.absorb ((ofSources twoHeaders).mergedTags
      HeaderTags.requestMapping [.headerTags, .requestHeaderTags]).notes).get?
        Setting.requestHeaderTags.key =
      some ⟨"a=http.request.headers.a,b=http.request.headers.b", .process⟩ := by
    rw [ofSources_eq]
    decide +kernel
  rw [hfound, htext] at hown
  have htexts : "a=http.request.headers.a,b=http.request.headers.b" = "b=http.request.headers.b" :=
    congrArg Collected.value (Option.some.inj hown)
  exact absurd htexts (by decide)

end TracerSettings.Stack
