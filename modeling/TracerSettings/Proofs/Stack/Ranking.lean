import Mathlib.Data.List.Basic
import TracerSettings.Stack

namespace TracerSettings

def Source.withOrigin (o : Origin) (sources : List Source) : List Source :=
  sources.filter fun s => s.origin == o

theorem Source.precedes_iff {s t : Source} : s.precedes t = true ↔ s.origin.rank ≤ t.origin.rank :=
  decide_eq_true_iff

theorem Source.precedes_trans (r s t : Source) (hrs : r.precedes s = true)
    (hst : s.precedes t = true) : r.precedes t = true :=
  precedes_iff.2 (Nat.le_trans (precedes_iff.1 hrs) (precedes_iff.1 hst))

theorem Source.precedes_total (s t : Source) : (s.precedes t || t.precedes s) = true := by
  simp only [Bool.or_eq_true, precedes_iff]
  exact Nat.le_total s.origin.rank t.origin.rank

namespace Stack

open Source

theorem mem_ofSources {sources : List Source} {s : Source} :
    s ∈ (ofSources sources).sources ↔ s ∈ sources :=
  List.mem_mergeSort

theorem withOrigin_ofSources (sources : List Source) (o : Origin) :
    withOrigin o (ofSources sources).sources = withOrigin o sources := by
  have hpair : (withOrigin o sources).Pairwise fun s t => s.precedes t = true := by
    apply List.pairwise_of_forall_mem_list
    intro s hs t ht
    have hs' : s.origin = o := by simpa using (List.mem_filter.1 hs).2
    have ht' : t.origin = o := by simpa using (List.mem_filter.1 ht).2
    exact precedes_iff.2 (Nat.le_of_eq (by rw [hs', ht']))
  have hsub : (withOrigin o sources).Sublist (ofSources sources).sources :=
    List.sublist_mergeSort precedes_trans precedes_total hpair List.filter_sublist
  have hfilter := hsub.filter fun s => s.origin == o
  have hperm := (List.mergeSort_perm sources Source.precedes).filter fun s => s.origin == o
  rw [withOrigin, List.filter_filter] at hfilter
  simp only [Bool.and_self] at hfilter
  exact (hfilter.eq_of_length hperm.length_eq.symm).symm

theorem withOrigin_append_filter {o : Origin} {sources : List Source}
    (hranked : sources.Pairwise fun s t => s.precedes t = true)
    (hfirst : ∀ s ∈ sources, o.rank ≤ s.origin.rank) :
    withOrigin o sources ++ sources.filter (fun s => !(s.origin == o)) = sources := by
  induction sources with
  | nil => rfl
  | cons s rest ih =>
      obtain ⟨hs, hrest⟩ := List.pairwise_cons.1 hranked
      by_cases ho : s.origin = o
      · have h := ih hrest fun t ht => hfirst t (List.mem_cons_of_mem s ht)
        simpa [withOrigin, ho] using h
      · have hrank : o.rank ≠ s.origin.rank := fun h => ho (Origin.rank_injective h.symm)
        have hlt : o.rank < s.origin.rank :=
          Nat.lt_of_le_of_ne (hfirst s List.mem_cons_self) hrank
        have hne : ∀ t ∈ s :: rest, ¬t.origin = o := by
          intro t ht
          rcases List.mem_cons.1 ht with rfl | ht
          · exact ho
          · rintro rfl
            exact Nat.not_le_of_lt hlt (precedes_iff.1 (hs t ht))
        have hnone : withOrigin o (s :: rest) = [] :=
          List.filter_eq_nil_iff.2 fun t ht => by simpa using hne t ht
        have hall : (s :: rest).filter (fun t => !(t.origin == o)) = s :: rest :=
          List.filter_eq_self.2 fun t ht => by simpa using hne t ht
        rw [hnone, hall, List.nil_append]

theorem flatMap_withOrigin {origins : List Origin} {sources : List Source}
    (horigins : origins.Pairwise (·.rank < ·.rank))
    (hranked : sources.Pairwise fun s t => s.precedes t = true)
    (hmem : ∀ s ∈ sources, s.origin ∈ origins) :
    origins.flatMap (withOrigin · sources) = sources := by
  induction origins generalizing sources with
  | nil =>
      cases sources with
      | nil => rfl
      | cons s rest => exact absurd (hmem s List.mem_cons_self) List.not_mem_nil
  | cons o origins ih =>
      obtain ⟨hlt, horigins⟩ := List.pairwise_cons.1 horigins
      have hfirst : ∀ s ∈ sources, o.rank ≤ s.origin.rank := by
        intro s hs
        rcases List.mem_cons.1 (hmem s hs) with h | h
        · exact Nat.le_of_eq (congrArg Origin.rank h.symm)
        · exact Nat.le_of_lt (hlt _ h)
      have hrest : origins.flatMap (withOrigin · sources) =
          sources.filter fun s => !(s.origin == o) := by
        rw [← ih horigins (hranked.filter _)]
        · apply List.flatMap_congr
          intro o' ho'
          have hne : o' ≠ o := fun h => Nat.lt_irrefl _ (h ▸ hlt o' ho')
          simp only [withOrigin, List.filter_filter]
          apply List.filter_congr
          intro s _
          by_cases hs : s.origin = o'
          · simp [hs, hne]
          · simp [hs]
        · intro s hs
          obtain ⟨hs, hne⟩ := List.mem_filter.1 hs
          rcases List.mem_cons.1 (hmem s hs) with h | h
          · simp [h] at hne
          · exact h
      rw [List.flatMap_cons, hrest]
      exact withOrigin_append_filter hranked hfirst

theorem sources_ofSources (sources : List Source) :
    (ofSources sources).sources = Origin.ranked.flatMap (withOrigin · sources) := by
  have h := flatMap_withOrigin Origin.pairwise_rank_ranked
    (List.pairwise_mergeSort precedes_trans precedes_total sources) fun s _ =>
      Origin.mem_ranked s.origin
  simp only [← withOrigin_ofSources sources]
  exact h.symm

theorem ofSources_eq (sources : List Source) :
    ofSources sources = ⟨Origin.ranked.flatMap (withOrigin · sources)⟩ :=
  congrArg Stack.mk (sources_ofSources sources)

theorem admitting_ofSources (sources : List Source) (admits : Origin → Bool) :
    (ofSources sources).admitting admits =
      ofSources (sources.filter fun s => admits s.origin) := by
  rw [ofSources_eq, ofSources_eq, admitting]
  simp only [withOrigin, List.filter_flatMap, List.filter_filter, Bool.and_comm]

theorem filter_ofSources (p : Source → Bool) (sources : List Source) :
    (ofSources sources).sources.filter p = (ofSources (sources.filter p)).sources := by
  rw [sources_ofSources, sources_ofSources, List.filter_flatMap]
  simp only [withOrigin, List.filter_filter, Bool.and_comm]

section Tops

/-- Of the sources that meet a condition this one stands highest: no other has an origin of a higher
rank, and none that is given before it one of the same rank. -/
structure Tops (p : Source → Prop) (sources : List Source) (s : Source) : Prop where
  meets : p s
  placed : ∃ front back, sources = front ++ s :: back ∧
    (∀ t ∈ front, p t → s.origin.rank < t.origin.rank) ∧
      ∀ t ∈ back, p t → s.origin.rank ≤ t.origin.rank

theorem tops_of_head? {p : Source → Bool} {sources : List Source} {s : Source}
    (h : ((ofSources sources).sources.filter p).head? = some s) :
    Tops (fun s => p s = true) sources s := by
  obtain ⟨rest, hrest⟩ := List.head?_eq_some_iff.1 h
  have hmeets : p s = true := (List.mem_filter.1 (List.mem_of_head? h)).2
  have hranked : (s :: rest).Pairwise fun s t => s.precedes t = true := by
    rw [← hrest]
    exact (List.pairwise_mergeSort precedes_trans precedes_total sources).filter p
  have hle {t : Source} (ht : t ∈ sources) (hp : p t = true) : s.origin.rank ≤ t.origin.rank := by
    have hmem : t ∈ s :: rest := hrest ▸ List.mem_filter.2 ⟨mem_ofSources.2 ht, hp⟩
    rcases List.mem_cons.1 hmem with rfl | hmem
    · exact Nat.le_refl _
    · exact precedes_iff.1 ((List.pairwise_cons.1 hranked).1 t hmem)
  -- Among the sources of its own origin the source comes first before they are ranked too.
  have hown : (withOrigin s.origin (sources.filter p)).head? = some s := by
    rw [← withOrigin_ofSources, ← filter_ofSources, hrest, withOrigin, List.filter_cons_of_pos]
    · rfl
    · exact beq_self_eq_true _
  obtain ⟨own, hown⟩ := List.head?_eq_some_iff.1 hown
  rw [withOrigin, List.filter_filter, List.filter_eq_cons_iff] at hown
  obtain ⟨front, back, hsources, hfront, -⟩ := hown
  refine ⟨hmeets, front, back, hsources, fun t ht hp => ?_, fun t ht hp => ?_⟩
  · have hmem : t ∈ sources := hsources ▸ List.mem_append_left _ ht
    have hne : s.origin.rank ≠ t.origin.rank := by
      intro hrank
      apply hfront t ht
      simp [Origin.rank_injective hrank, hp]
    exact Nat.lt_of_le_of_ne (hle hmem hp) hne
  · have hmem : t ∈ sources := hsources ▸ List.mem_append_right _ (List.mem_cons_of_mem s ht)
    exact hle hmem hp

theorem tops_of_findSome? {β : Type} {f : Source → Option β} {sources : List Source} {b : β}
    (h : (ofSources sources).sources.findSome? f = some b) :
    ∃ s, Tops (fun s => (f s).isSome = true) sources s ∧ f s = some b := by
  obtain ⟨above, s, below, hsources, hs, habove⟩ := List.findSome?_eq_some_iff.1 h
  refine ⟨s, tops_of_head? ?_, hs⟩
  have hnone : above.filter (fun s => (f s).isSome) = [] :=
    List.filter_eq_nil_iff.2 fun t ht => by simp [habove t ht]
  rw [hsources, List.filter_append, hnone, List.nil_append, List.filter_cons_of_pos (by simp [hs])]
  rfl

end Tops

section Hits

variable {front back : List Source} {s s' : Source} {names : List String}

theorem hits_ofSources (sources : List Source) (names : List String) :
    (ofSources sources).hits names = Origin.ranked.flatMap fun o =>
      sources.filterMap fun s => if s.origin == o then s.hit? names else none := by
  rw [hits, sources_ofSources, List.filterMap_flatMap]
  simp only [Source.withOrigin, List.filterMap_filter]

theorem hits_ofSources_replace (horigin : s.origin = s'.origin)
    (hhit : s.hit? names = s'.hit? names) :
    (ofSources (front ++ s :: back)).hits names =
      (ofSources (front ++ s' :: back)).hits names := by
  simp only [hits_ofSources, List.filterMap_append, List.filterMap_cons, horigin, hhit]

theorem hits_ofSources_erase (hhit : s.hit? names = none) :
    (ofSources (front ++ s :: back)).hits names = (ofSources (front ++ back)).hits names := by
  simp only [hits_ofSources, List.filterMap_append, List.filterMap_cons, hhit, ite_self]

end Hits

end Stack

end TracerSettings
