import TracerSettings.Proofs.Pairs
import TracerSettings.Proofs.Reports
import TracerSettings.Proofs.Stack.Ranking

namespace TracerSettings

theorem findSome?_flatMap {α β γ : Type} (f : α → List β) (g : β → Option γ) (l : List α) :
    (l.flatMap f).findSome? g = l.findSome? fun a => (f a).findSome? g := by
  simp only [← List.head?_filterMap, List.filterMap_flatMap, List.head?_flatMap]

theorem findSome?_filterMap {α β γ : Type} (f : α → Option β) (g : β → Option γ) (l : List α) :
    (l.filterMap f).findSome? g = l.findSome? fun a => (f a).bind g := by
  rw [← List.head?_filterMap, List.filterMap_filterMap, List.head?_filterMap]

def Diagnostic.leftOut? : Diagnostic → Option Rejected
  | .invalidValue _ token reason => some ⟨token, reason⟩
  | _ => none

theorem map_leftOut?_invalidValues (setting : String) (rejected : List Rejected) :
    (invalidValues setting rejected).map Diagnostic.leftOut? = rejected.map some := by
  rw [invalidValues, List.map_map]
  rfl

namespace Stack

open OrderedMap

variable {entry : String → Except String (String × String)}

/-- What the sources say of a setting, the lowest rank first. -/
def texts (st : Stack) (names : List String) : List String :=
  st.sources.reverse.filterMap fun source => (source.firstPresent names).map Prod.snd

def allTexts (st : Stack) (settings : List Setting) : List String :=
  settings.flatMap fun s => st.texts s.names

theorem texts_eq (st : Stack) (names : List String) :
    st.texts names = (st.layers names).map Hit.value := by
  rw [texts, layers, hits, List.filterMap_reverse, List.map_reverse, List.map_filterMap]
  congr 2
  funext source
  rw [Source.hit?, Option.map_map]
  rfl

theorem reverse_texts (st : Stack) (names : List String) :
    (st.texts names).reverse =
      st.sources.filterMap fun source => (source.firstPresent names).map Prod.snd := by
  rw [texts, List.filterMap_reverse, List.reverse_reverse]

def mergedAll (st : Stack) (read : String → Reading OrderedMap) (settings : List Setting) :
    Noted OrderedMap :=
  settings.foldlM (fun m s => st.mergeOnto read s m) .empty

theorem mergedMap_eq_mergedAll (st : Stack) (s : Setting) :
    st.mergedMap s = st.mergedAll (Pairs.read .comma) [s] := by
  rw [mergedAll, List.foldlM_cons]
  simp only [List.foldlM_nil, bind_pure]
  rfl

theorem value_mergeOnto (st : Stack) (read : String → Reading OrderedMap) (s : Setting)
    (base : OrderedMap) :
    (st.mergeOnto read s base).value =
      ((st.texts s.names).map fun text => (read text).value).foldl extend base := by
  rw [texts_eq, List.map_map, List.foldl_map]
  rfl

theorem reports_mergeOnto (st : Stack) (read : String → Reading OrderedMap) (s : Setting)
    (base : OrderedMap) :
    reports (st.mergeOnto read s base).notes =
      (st.layers s.names).flatMap fun hit => invalidValues hit.key (read hit.value).rejected := by
  have hcollect (text : String) : reports (st.collectMerged s.names s.key text).notes = [] := by
    rw [collectMerged]
    split <;> rfl
  simp only [mergeOnto, Noted.notes_bind, reports_append, hcollect, List.nil_append, reportAll,
    reports_map_report, Noted.notes_pure]
  exact List.append_nil _

theorem leftOut_mergeOnto (st : Stack) (read : String → Reading OrderedMap) (s : Setting)
    (base : OrderedMap) :
    (reports (st.mergeOnto read s base).notes).map Diagnostic.leftOut? =
      ((st.texts s.names).flatMap fun text => (read text).rejected).map some := by
  simp only [reports_mergeOnto, List.map_flatMap, map_leftOut?_invalidValues, texts_eq,
    List.flatMap_map]

theorem value_mergedAll (st : Stack) (read : String → Reading OrderedMap)
    (settings : List Setting) :
    (st.mergedAll read settings).value =
      ((st.allTexts settings).map fun text => (read text).value).foldl extend empty := by
  have hfold (base : OrderedMap) :
      (settings.foldlM (fun m s => st.mergeOnto read s m) base).value =
        ((st.allTexts settings).map fun text => (read text).value).foldl extend base := by
    induction settings generalizing base with
    | nil => rfl
    | cons s settings ih =>
        rw [List.foldlM_cons, Noted.value_bind, ih, value_mergeOnto, allTexts, allTexts,
          List.flatMap_cons, List.map_append, List.foldl_append]
  exact hfold empty

theorem leftOut_mergedAll (st : Stack) (read : String → Reading OrderedMap)
    (settings : List Setting) :
    (reports (st.mergedAll read settings).notes).map Diagnostic.leftOut? =
      ((st.allTexts settings).flatMap fun text => (read text).rejected).map some := by
  have hfold (base : OrderedMap) :
      (reports (settings.foldlM (fun m s => st.mergeOnto read s m) base).notes).map
          Diagnostic.leftOut? =
        ((st.allTexts settings).flatMap fun text => (read text).rejected).map some := by
    induction settings generalizing base with
    | nil => rfl
    | cons s settings ih =>
        rw [List.foldlM_cons, Noted.notes_bind, reports_append, List.map_append, ih,
          leftOut_mergeOnto, allTexts, allTexts, List.flatMap_cons, List.flatMap_append,
          List.map_append]
  exact hfold empty

theorem mergedAll_reportsOn (st : Stack) (read : String → Reading OrderedMap)
    (settings : List Setting) : (st.mergedAll read settings).ReportsOn settings :=
  Noted.reportsOn_foldlM (fun _ hs _ => st.mergeOnto_reportsOn hs _ _) .empty

/-- What settings come to that are merged in turn. -/
structure Merges (st : Stack) (read : String → Reading OrderedMap) (settings : List Setting)
    (merged : Noted OrderedMap) : Prop where
  value : merged.value = (read (",".intercalate (st.allTexts settings))).value
  leftOut : (reports merged.notes).map Diagnostic.leftOut? =
    (read (",".intercalate (st.allTexts settings))).rejected.map some
  reported : ∀ d ∈ reports merged.notes, ∃ s ∈ settings, d.setting ∈ s.names
  highest (key : String) : merged.value.get? key =
    settings.reverse.findSome? fun s => st.sources.findSome? fun source =>
      (source.firstPresent s.names).bind fun (_, text) => (read text).value.get? key
  once : merged.value.keys.Nodup
  order : merged.value.keys =
    unique ((st.allTexts settings).flatMap fun text => (read text).value.keys)

theorem findSome?_reverse_allTexts {γ : Type} (st : Stack) (settings : List Setting)
    (g : String → Option γ) :
    (st.allTexts settings).reverse.findSome? g =
      settings.reverse.findSome? fun s => st.sources.findSome? fun source =>
        (source.firstPresent s.names).bind fun found => g found.2 := by
  rw [allTexts, List.reverse_flatMap, findSome?_flatMap]
  congr 1
  funext s
  rw [Function.comp_apply, reverse_texts, findSome?_filterMap]
  simp only [Option.bind_map]
  rfl

theorem merges_mergedAll (st : Stack) (settings : List Setting) :
    st.Merges (readText entry) settings (st.mergedAll (readText entry) settings) := by
  have hvalue : (st.mergedAll (readText entry) settings).value =
      (readText entry (",".intercalate (st.allTexts settings))).value := by
    rw [value_mergedAll, value_readText_intercalate]
  constructor
  case value => exact hvalue
  case leftOut => rw [leftOut_mergedAll, rejected_readText_intercalate]
  case reported =>
    exact fun d hd => (st.mergedAll_reportsOn (readText entry) settings d hd).named
  case highest =>
    intro key
    have hnodup : ∀ m ∈ (st.allTexts settings).map fun text => (readText entry text).value,
        m.keys.Nodup :=
      List.forall_mem_map.2 fun text _ => nodup_keys_readText text
    rw [value_mergedAll, get?_foldl_extend hnodup, get?_empty, Option.or_none, ← List.map_reverse,
      List.findSome?_map, findSome?_reverse_allTexts]
    rfl
  case once =>
    rw [hvalue]
    exact nodup_keys_readText _
  case order =>
    rw [value_mergedAll, keys_foldl_extend, List.flatMap_map]
    rfl

theorem value_mergedSet (st : Stack) (s : Setting) :
    (st.mergedSet s).value = tokenSet .comma (",".intercalate (st.texts s.names)) := by
  rw [tokenSet, tokens_intercalate, texts_eq, List.flatMap_map, ← unique_flatMap_unique]
  rfl

/-- Whatever merges the sources of a setting reads all their texts as one. -/
theorem merged_eq_read (sources : List Source) (s : Setting) (mapping : TagMapping)
    (settings : List Setting) :
    (ofSources sources).Merges (Pairs.read .comma) [s] ((ofSources sources).mergedMap s) ∧
      (ofSources sources).Merges mapping.read settings
        ((ofSources sources).mergedTags mapping settings) ∧
      ((ofSources sources).mergedSet s).value =
        tokenSet .comma (",".intercalate ((ofSources sources).texts s.names)) := by
  refine ⟨?_, ?_, value_mergedSet _ s⟩
  · rw [mergedMap_eq_mergedAll]
    exact merges_mergedAll _ [s]
  · exact merges_mergedAll _ settings

example :
    let low : Source := .pairs .file [("tags", "b=2, a=3,, c=4")]
    let high : Source := .pairs .override [("trace.tags", "a=1, b, d=")]
    (mergedMap ⟨[high, low]⟩ .traceTags).value.entries =
      [("b", "2"), ("a", "1"), ("c", "4"), ("d", "")] := by
  decide +kernel

end Stack

end TracerSettings
