import TracerSettings.Proofs.Pairs.Entries
import TracerSettings.Proofs.Stack.FirstHit
import TracerSettings.Proofs.Stack.Merged

namespace TracerSettings

/-- A source sets a setting under its key or under one of its other names. -/
def Source.Sets (source : Source) (s : Setting) : Prop :=
  ∃ name ∈ s.names, ∃ value, source.Tells name value

namespace Stack

variable {sources : List Source} {s : Setting} {hit : Hit}

theorem isSome_hit?_iff {source : Source} :
    (source.hit? s.names).isSome = true ↔ source.Sets s := by
  rw [Option.isSome_iff_ne_none, ne_eq, Source.hit?_eq_none_iff, Source.Sets]
  simp

theorem exists_tops_of_find? (h : (ofSources sources).find? s.names = some hit) :
    ∃ top, Tops (·.Sets s) sources top ∧ hit.origin = top.origin := by
  rw [find?, hits, List.head?_filterMap] at h
  obtain ⟨top, htops, hhit⟩ := tops_of_findSome? h
  simp only [isSome_hit?_iff] at htops
  exact ⟨top, htops, (Source.hit?_eq_some hhit).1⟩

theorem exists_find?_of_sets (h : ∃ source ∈ sources, source.Sets s) :
    ∃ hit, (ofSources sources).find? s.names = some hit := by
  obtain ⟨source, hsource, name, hname, value, htells⟩ := h
  rw [← Option.isSome_iff_exists, Option.isSome_iff_ne_none]
  exact fun hnone => find?_eq_none_iff.1 hnone source (mem_ofSources.2 hsource) name hname value
    htells

theorem collections_collectMerged (st : Stack) (names : List String) (key text : String) :
    collections (st.collectMerged names key text).notes =
      (st.find? names).toList.map fun hit => (key, ⟨text, hit.origin⟩) := by
  rw [collectMerged]
  cases st.find? names <;> rfl

theorem collections_mergeOnto (st : Stack) (read : String → Reading OrderedMap) (s : Setting)
    (base : OrderedMap) :
    collections (st.mergeOnto read s base).notes =
      (st.find? s.names).toList.map fun hit =>
        (s.key, ⟨(st.mergeOnto read s base).value.render, hit.origin⟩) := by
  rw [← collections_collectMerged]
  simp only [mergeOnto, Noted.notes_bind, collections_append, reportAll, collections_map_report,
    List.nil_append, Noted.notes_pure]
  exact List.append_nil _

theorem collections_mergedSet (st : Stack) (s : Setting) :
    collections (st.mergedSet s).notes =
      (st.find? s.names).toList.map fun hit =>
        (s.key, ⟨",".intercalate (st.mergedSet s).value, hit.origin⟩) := by
  rw [← collections_collectMerged]
  simp only [mergedSet, Noted.notes_bind, collections_append, Noted.notes_pure]
  exact List.append_nil _

theorem render_mergedMap_readsBack (st : Stack) (s : Setting) :
    Pairs.read .comma (st.mergedMap s).value.render = .clean (st.mergedMap s).value := by
  have hmerges : st.Merges (Pairs.read .comma) [s] (st.mergedAll (Pairs.read .comma) [s]) :=
    merges_mergedAll st [s]
  rw [mergedMap_eq_mergedAll, hmerges.value]
  exact (Pairs.read_accounts .comma _).rendered

theorem joined_mergedSet_readsBack (st : Stack) (s : Setting) :
    tokenSet .comma (",".intercalate (st.mergedSet s).value) = (st.mergedSet s).value := by
  rw [value_mergedSet]
  exact ((tokenizes .comma).joinedSet _).2

/-- A setting is collected with a text that is read back as a value. -/
def CollectedAs {α : Type} (j : Journal) (s : Setting) (origin : Origin) (Reads : String → α → Prop)
    (value : α) : Prop :=
  ∃ text, j.get? s.key = some ⟨text, origin⟩ ∧ Reads text value

/-- Merged maps and merged sets are collected so that they are read back, by the reader of the
sources and without a token left out, under the origin of the highest source that sets them. -/
theorem merged_readsBack {before : Journal} (hset : ∃ source ∈ sources, source.Sets s)
    (hnew : s.key ∉ before.keys) (hplain : isSecretKey s.key = false) :
    ∃ top, Tops (·.Sets s) sources top ∧
      CollectedAs (before.absorb ((ofSources sources).mergedMap s).notes) s top.origin
        (fun text m => Pairs.read .comma text = .clean m) ((ofSources sources).mergedMap s).value ∧
      CollectedAs (before.absorb ((ofSources sources).mergedSet s).notes) s top.origin
        (fun text items => tokenSet .comma text = items)
        ((ofSources sources).mergedSet s).value := by
  obtain ⟨hit, hfind⟩ := exists_find?_of_sets hset
  obtain ⟨top, htops, horigin⟩ := exists_tops_of_find? hfind
  refine ⟨top, htops, ⟨_, ?_, render_mergedMap_readsBack _ s⟩,
    ⟨_, ?_, joined_mergedSet_readsBack _ s⟩⟩
  · rw [Journal.get?_absorb_of_plain hnew hplain, mergedMap, collections_mergeOnto, hfind,
      ← horigin]
    exact List.lookup_cons_self
  · rw [Journal.get?_absorb_of_plain hnew hplain, collections_mergedSet, hfind, ← horigin]
    exact List.lookup_cons_self

def spoiltOnTop : List Source :=
  [.environment Source.usualStart [("DD_TAGS", " b = 2, a = , c=x=y"), ("DD_TRACE_TAGS", " ")],
    .pairs .process [("trace.tags", "oops, =1")], .pairs .captured [("trace.tags", "a=0,a=1")]]

def collectedBefore : Journal := ⟨[], [("tags", ⟨"d=4", .override⟩)]⟩

theorem merged_readsBack_spoiltOnTop :
    (∃ source ∈ spoiltOnTop, source.Sets .traceTags) ∧
      Setting.traceTags.key ∉ collectedBefore.keys ∧ isSecretKey Setting.traceTags.key = false ∧
      ((ofSources spoiltOnTop).mergedMap .traceTags).value.entries =
        [("a", ""), ("b", "2"), ("c", "x=y")] ∧
      ∃ top, Tops (·.Sets .traceTags) spoiltOnTop top ∧
        CollectedAs (collectedBefore.absorb ((ofSources spoiltOnTop).mergedMap .traceTags).notes)
          .traceTags top.origin (fun text m => Pairs.read .comma text = .clean m)
          ((ofSources spoiltOnTop).mergedMap .traceTags).value ∧
        CollectedAs (collectedBefore.absorb ((ofSources spoiltOnTop).mergedSet .traceTags).notes)
          .traceTags top.origin (fun text items => tokenSet .comma text = items)
          ((ofSources spoiltOnTop).mergedSet .traceTags).value := by
  have hset : ∃ source ∈ spoiltOnTop, source.Sets .traceTags :=
    ⟨.pairs .process [("trace.tags", "oops, =1")], by simp [spoiltOnTop], "trace.tags",
      List.mem_cons_self, "oops, =1", Source.present_eq_some_iff.1 (by decide +kernel)⟩
  have hnew : Setting.traceTags.key ∉ collectedBefore.keys := by decide
  have hplain : isSecretKey Setting.traceTags.key = false := by decide +kernel
  have hmerged : ((ofSources spoiltOnTop).mergedMap .traceTags).value.entries =
      [("a", ""), ("b", "2"), ("c", "x=y")] := by
    rw [ofSources_eq]
    decide +kernel
  exact ⟨hset, hnew, hplain, hmerged, merged_readsBack hset hnew hplain⟩

end Stack

end TracerSettings
