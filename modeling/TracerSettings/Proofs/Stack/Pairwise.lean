import Mathlib.Data.List.Forall2
import TracerSettings.Proofs.Stack.Hits
import TracerSettings.Proofs.Stack.Ranking

namespace TracerSettings

variable {R : Source → Source → Prop} {sources sources' : List Source}

theorem map_eq_of_forall₂ {γ : Type} {f : Source → γ} (h : List.Forall₂ R sources sources')
    (hf : ∀ s s', R s s' → f s = f s') : sources.map f = sources'.map f := by
  induction h with
  | nil => rfl
  | cons hs _ ih => rw [List.map_cons, List.map_cons, hf _ _ hs, ih]

theorem filterMap_eq_of_forall₂ {γ : Type} {f : Source → Option γ}
    (h : List.Forall₂ R sources sources') (hf : ∀ s s', R s s' → f s = f s') :
    sources.filterMap f = sources'.filterMap f := by
  have hmap := congrArg (List.filterMap id) (map_eq_of_forall₂ h hf)
  rwa [List.filterMap_map, List.filterMap_map, Function.id_comp] at hmap

namespace Source

theorem forall₂_withOrigin (h : List.Forall₂ R sources sources')
    (horigin : ∀ s s', R s s' → s.origin = s'.origin) (o : Origin) :
    List.Forall₂ R (withOrigin o sources) (withOrigin o sources') := by
  apply List.rel_filter _ h
  intro s s' hs
  simp only [horigin s s' hs]

theorem hit?_congr {s s' : Source} {names : List String} (horigin : s.origin = s'.origin)
    (h : ∀ name ∈ names, s.present name = s'.present name) : s.hit? names = s'.hit? names := by
  have hfirst : s.firstPresent names = s'.firstPresent names := by
    induction names with
    | nil => rfl
    | cons name rest ih =>
        obtain ⟨hname, hrest⟩ := List.forall_mem_cons.1 h
        rw [firstPresent, firstPresent, List.findSome?_cons, List.findSome?_cons, hname]
        rw [firstPresent, firstPresent] at ih
        rw [ih hrest]
  rw [hit?, hit?, hfirst, horigin]

end Source

namespace Stack

theorem forall₂_ofSources (h : List.Forall₂ R sources sources')
    (horigin : ∀ s s', R s s' → s.origin = s'.origin) :
    List.Forall₂ R (ofSources sources).sources (ofSources sources').sources := by
  rw [sources_ofSources, sources_ofSources]
  induction Origin.ranked with
  | nil => exact .nil
  | cons o origins ih => exact List.rel_append (Source.forall₂_withOrigin h horigin o) ih

theorem hits_ofSources_congr {names : List String} (h : List.Forall₂ R sources sources')
    (horigin : ∀ s s', R s s' → s.origin = s'.origin)
    (hhit : ∀ s s', R s s' → s.hit? names = s'.hit? names) :
    (ofSources sources).hits names = (ofSources sources').hits names :=
  filterMap_eq_of_forall₂ (forall₂_ofSources h horigin) hhit

theorem hits_admitting_ofSources_congr {admits : Origin → Bool} {names : List String}
    (h : List.Forall₂ R sources sources') (horigin : ∀ s s', R s s' → s.origin = s'.origin)
    (hhit : ∀ s s', R s s' → admits s.origin = true → s.hit? names = s'.hit? names) :
    ((ofSources sources).admitting admits).hits names =
      ((ofSources sources').admitting admits).hits names := by
  rw [hits, admitting, List.filterMap_filter, hits, admitting, List.filterMap_filter]
  apply filterMap_eq_of_forall₂ (forall₂_ofSources h horigin)
  intro s s' hs
  rw [← horigin s s' hs]
  cases hadmits : admits s.origin with
  | false => rfl
  | true => simpa using hhit s s' hs hadmits

theorem raw?_ofSources_congr {name : String} (h : List.Forall₂ R sources sources')
    (horigin : ∀ s s', R s s' → s.origin = s'.origin)
    (hraw : ∀ s s', R s s' → s.lookupRaw name = s'.lookupRaw name) :
    (ofSources sources).raw? name = (ofSources sources').raw? name := by
  have hfound := filterMap_eq_of_forall₂ (forall₂_ofSources h horigin) hraw
  have hfirst := congrArg List.head? hfound
  rw [List.head?_filterMap, List.head?_filterMap] at hfirst
  rw [raw?, hfirst, raw?]

end Stack

end TracerSettings
