import TracerSettings.FileSystem
import TracerSettings.Proofs.Build.Failure
import TracerSettings.Proofs.Stack.FirstHit

namespace TracerSettings

open Stack

namespace Stack

variable {sources : List Source} {names : List String} {hit : Hit} {o : Origin}

theorem find?_admitting_iff_of_above (habove : hit.origin.rank < o.rank) :
    ((ofSources sources).admitting (· != o)).find? names = some hit ↔
      (ofSources sources).find? names = some hit := by
  have hne : hit.origin ≠ o := fun h => Nat.lt_irrefl _ (h ▸ habove)
  rw [find?, find?, hits_admitting]
  constructor
  · intro h
    have hmem := (List.mem_filter.1 (List.mem_of_head? h)).1
    cases hhits : (ofSources sources).hits names with
    | nil => exact absurd hmem (hhits ▸ List.not_mem_nil)
    | cons top rest =>
        have hfind : (ofSources sources).find? names = some top := by
          rw [find?, hhits, List.head?_cons]
        have htop : top.origin ≠ o := by
          rintro rfl
          exact Nat.not_le_of_lt habove (rank_le_of_find? hfind hmem)
        rwa [hhits, List.filter_cons, if_pos (bne_iff_ne.2 htop)] at h
  · intro h
    obtain ⟨rest, hrest⟩ := List.head?_eq_some_iff.1 h
    rw [hrest, List.filter_cons, if_pos (bne_iff_ne.2 hne), List.head?_cons]

theorem origin_eq_default_of_not_above {st : Stack}
    (h : (st.admitting (· != .captured)).find? names = some hit)
    (hbelow : ¬hit.origin.rank < Origin.captured.rank) : hit.origin = .default := by
  rw [find?, hits_admitting] at h
  have hne : hit.origin ≠ .captured :=
    bne_iff_ne.1 (List.mem_filter.1 (List.mem_of_head? h)).2
  revert hne hbelow
  cases hit.origin <;> decide

theorem exists_mem_hits_iff (sources : List Source) (admits : Origin → Prop)
    (names : List String) :
    (∃ hit ∈ (ofSources sources).hits names, admits hit.origin) ↔
      ∃ s ∈ sources, admits s.origin ∧ ¬s.Silent names := by
  constructor
  · rintro ⟨hit, hmem, hadmits⟩
    obtain ⟨s, hs, hhit⟩ := List.mem_filterMap.1 hmem
    refine ⟨s, mem_ofSources.1 hs, (Source.hit?_eq_some hhit).1 ▸ hadmits, fun hsilent => ?_⟩
    exact nomatch hhit.symm.trans (Source.hit?_eq_none_iff.2 hsilent)
  · rintro ⟨s, hs, hadmits, hsilent⟩
    cases hhit : s.hit? names with
    | none => exact absurd (Source.hit?_eq_none_iff.1 hhit) hsilent
    | some hit =>
        exact ⟨hit, List.mem_filterMap.2 ⟨s, mem_ofSources.2 hs, hhit⟩,
          (Source.hit?_eq_some hhit).1 ▸ hadmits⟩

end Stack

namespace Service

variable {sources : List Source} {hit : Hit}

/-- The name is what one look-up in all sources finds, or else the default. It counts as set where
the source that supplies it stands above the captured environment. -/
structure FollowsRanks (st : Stack) (s : Service) : Prop where
  name : s.name = (st.resolve .service).value.elim "unnamed-service" Hit.value
  setByUser : s.nameSetByUser = true ↔
    ∃ hit, (st.resolve .service).value = some hit ∧ hit.origin.rank < Origin.captured.rank

/-- A source of defaults names the service, and no source above the captured environment does. -/
structure NamedByDefault (sources : List Source) : Prop where
  named : ∃ s ∈ sources, s.origin = .default ∧ ¬s.Silent ["service", "service.name"]
  above : ∀ s ∈ sources, s.origin.rank < Origin.captured.rank →
    s.Silent ["service", "service.name"]

def userHit? (sources : List Source) : Option Hit :=
  ((ofSources sources).admitting (· != .captured)).find? Setting.service.names

theorem resolve_eq_of_userHit? (h : userHit? sources = some hit) :
    (resolve (.ofSources sources)).value.name = hit.value ∧
      (resolve (.ofSources sources)).value.nameSetByUser = true := by
  have hname : (resolveName (.ofSources sources)).value = (hit.value, true) := by
    rw [resolveName, resolveExcluding_singleton, Noted.value_bind, value_resolve]
    simp only [userHit?] at h
    rw [h]
    rfl
  exact ⟨congrArg Prod.fst hname, congrArg Prod.snd hname⟩

theorem resolve_eq_of_userHit?_eq_none (h : userHit? sources = none) :
    (resolve (.ofSources sources)).value.name =
        ((ofSources sources).find? Setting.service.names).elim default.name Hit.value ∧
      (resolve (.ofSources sources)).value.nameSetByUser = false := by
  have hname : (resolveName (.ofSources sources)).value =
      (((ofSources sources).find? Setting.service.names).elim default.name Hit.value, false) := by
    rw [resolveName, resolveExcluding_singleton, Noted.value_bind, value_resolve]
    simp only [userHit?] at h
    rw [h]
    simp only [textOr, Noted.value_bind, value_text?]
    cases (ofSources sources).find? Setting.service.names <;> rfl
  exact ⟨congrArg Prod.fst hname, congrArg Prod.snd hname⟩

theorem namedByDefault_iff :
    NamedByDefault sources ↔ ∃ hit, userHit? sources = some hit ∧ hit.origin = .default := by
  have hnamed := exists_mem_hits_iff sources (· = .default) Setting.service.names
  have habove := exists_mem_hits_iff sources (·.rank < Origin.captured.rank) Setting.service.names
  constructor
  · rintro ⟨hdefault, hsilent⟩
    obtain ⟨low, hlow, horigin⟩ := hnamed.2 hdefault
    have hmem : low ∈ ((ofSources sources).hits Setting.service.names).filter
        fun hit => hit.origin != .captured :=
      List.mem_filter.2 ⟨hlow, by rw [horigin]; decide⟩
    cases huser : userHit? sources with
    | none =>
        rw [userHit?, find?, hits_admitting, List.head?_eq_none_iff] at huser
        exact absurd hmem (huser ▸ List.not_mem_nil)
    | some hit =>
        refine ⟨hit, rfl, origin_eq_default_of_not_above huser fun hrank => ?_⟩
        have hfind := (find?_admitting_iff_of_above hrank).1 huser
        obtain ⟨s, hs, hrank, hspeaks⟩ := habove.1 ⟨hit, List.mem_of_head? hfind, hrank⟩
        exact hspeaks (hsilent s hs hrank)
  · rintro ⟨hit, huser, horigin⟩
    have hmem := List.mem_of_head? huser
    rw [hits_admitting] at hmem
    refine ⟨hnamed.1 ⟨hit, (List.mem_filter.1 hmem).1, horigin⟩, fun s hs hrank => ?_⟩
    -- A name from above would be found before the one of the source of defaults.
    by_contra hspeaks
    obtain ⟨top, htop, htopRank⟩ := habove.2 ⟨s, hs, hrank, hspeaks⟩
    cases hfind : (ofSources sources).find? Setting.service.names with
    | none =>
        rw [find?, List.head?_eq_none_iff] at hfind
        exact absurd htop (hfind ▸ List.not_mem_nil)
    | some first =>
        have hfirst : first.origin.rank < Origin.captured.rank :=
          Nat.lt_of_le_of_lt (rank_le_of_find? hfind htop) htopRank
        have heq := huser.symm.trans ((find?_admitting_iff_of_above hfirst).2 hfind)
        rw [← Option.some.inj heq, horigin] at hfirst
        exact absurd hfirst (by decide)

theorem followsRanks_iff :
    FollowsRanks (ofSources sources) (resolve (.ofSources sources)).value ↔
      ¬NamedByDefault sources := by
  have hresolve := value_resolve (ofSources sources) .service
  rw [namedByDefault_iff]
  cases huser : userHit? sources with
  | none =>
      obtain ⟨hname, hset⟩ := resolve_eq_of_userHit?_eq_none huser
      refine iff_of_true ⟨?_, ?_⟩ fun ⟨_, hhit, _⟩ => nomatch hhit
      · rw [hname, hresolve]
        rfl
      · rw [hset, hresolve]
        refine iff_of_false Bool.false_ne_true fun ⟨hit, hfind, hrank⟩ => ?_
        exact nomatch huser.symm.trans ((find?_admitting_iff_of_above hrank).2 hfind)
  | some hit =>
      obtain ⟨hname, hset⟩ := resolve_eq_of_userHit? huser
      by_cases hrank : hit.origin.rank < Origin.captured.rank
      · have hfind := (find?_admitting_iff_of_above hrank).1 huser
        refine iff_of_true ⟨?_, ?_⟩ ?_
        · rw [hname, hresolve, hfind]
          rfl
        · rw [hset, hresolve]
          exact iff_of_true rfl ⟨hit, hfind, hrank⟩
        · rintro ⟨_, hhit, horigin⟩
          obtain rfl := Option.some.inj hhit
          rw [horigin] at hrank
          exact absurd hrank (by decide)
      · have horigin := origin_eq_default_of_not_above huser hrank
        refine iff_of_false (fun h => ?_) (not_not_intro ⟨hit, rfl, horigin⟩)
        obtain ⟨top, hfind, htop⟩ := h.setByUser.1 hset
        rw [hresolve] at hfind
        have heq := huser.symm.trans ((find?_admitting_iff_of_above htop).2 hfind)
        exact hrank (Option.some.inj heq ▸ htop)

theorem resolve_of_namedByDefault (h : NamedByDefault sources) :
    ∃ hit, (ofSources (Source.withOrigin .default sources)).find? Setting.service.names = some hit ∧
      (resolve (.ofSources sources)).value.name = hit.value ∧
        (resolve (.ofSources sources)).value.nameSetByUser = true := by
  obtain ⟨hit, huser, horigin⟩ := namedByDefault_iff.1 h
  refine ⟨hit, ?_, resolve_eq_of_userHit? huser⟩
  rw [userHit?, find?, hits_admitting] at huser
  have hsub : (ofSources (Source.withOrigin .default sources)).hits Setting.service.names =
      (((ofSources sources).hits Setting.service.names).filter fun hit =>
        hit.origin != .captured).filter fun hit => hit.origin == .default := by
    rw [Source.withOrigin, ← admitting_ofSources sources (· == .default), hits_admitting,
      List.filter_filter]
    apply List.filter_congr
    intro hit _
    cases hit.origin <;> rfl
  obtain ⟨rest, hrest⟩ := List.head?_eq_some_iff.1 huser
  rw [find?, hsub, hrest, List.filter_cons, if_pos (beq_iff_eq.2 horigin), List.head?_cons]

end Service

namespace Build

/-- The service of a build that succeeds is named by the ranks of the sources, as long as it is not
named by a source of defaults; then that one names it, over the captured environment. -/
theorem ofSources_namesService {readName : Url.Host.NameReader} {files : FileSystem}
    {sources : List Source} {before : Journal} {r : Resolved}
    (h : (ofSources readName files sources before).result = .ok r) :
    (Service.FollowsRanks (.ofSources sources) r.config.service ↔
        ¬Service.NamedByDefault sources) ∧
      (Service.NamedByDefault sources → ∃ hit,
        (Stack.ofSources (Source.withOrigin .default sources)).find? Setting.service.names =
            some hit ∧
          r.config.service.name = hit.value ∧ r.config.service.nameSetByUser = true) := by
  rw [config_eq_resolve h]
  exact ⟨Service.followsRanks_iff, Service.resolve_of_namedByDefault⟩

def namedInVariable : List Source :=
  [.pairs .captured [("service", "binary")], .pairs .default [("service", "fallback")],
    .environment Source.usualStart [("DD_SERVICE", " "), ("DD_SERVICE_NAME", " checkout ")]]

theorem ofSources_namedInVariable : ∃ r,
    (ofSources Url.Host.readName (FileTree.directory []).fileSystem namedInVariable
      .empty).result = .ok r ∧
      Service.FollowsRanks (.ofSources namedInVariable) r.config.service := by
  have hunset : (Stack.ofSources namedInVariable).find? Setting.ciVisibility.names = none := by
    rw [Stack.ofSources_eq]
    decide +kernel
  obtain ⟨r, h⟩ := exists_result_of_find?_eq_none hunset Url.Host.readName
    (FileTree.directory []).fileSystem .empty
  refine ⟨r, h, (ofSources_namesService h).1.2 fun hnamed => ?_⟩
  have hvariable : Source.Tells
      (.environment Source.usualStart [("DD_SERVICE", " "), ("DD_SERVICE_NAME", " checkout ")])
      "service.name" "checkout" :=
    Source.present_eq_some_iff.1 (by decide +kernel)
  exact hnamed.above _ (by simp [namedInVariable]) (by decide) "service.name" (by simp) _ hvariable

def defaultBesideCaptured : List Source :=
  [.pairs .captured [("service", "binary")], .pairs .default [("service", "fallback")]]

theorem not_followsRanks_defaultBesideCaptured : ∃ r,
    (ofSources Url.Host.readName (FileTree.directory []).fileSystem defaultBesideCaptured
      .empty).result = .ok r ∧
      ¬Service.FollowsRanks (.ofSources defaultBesideCaptured) r.config.service := by
  have hunset :
      (Stack.ofSources defaultBesideCaptured).find? Setting.ciVisibility.names = none := by
    rw [Stack.ofSources_eq]
    decide +kernel
  obtain ⟨r, h⟩ := exists_result_of_find?_eq_none hunset Url.Host.readName
    (FileTree.directory []).fileSystem .empty
  refine ⟨r, h, fun hfollows => ?_⟩
  have hname : r.config.service.name = "fallback" := by
    have hservice :
        r.config.service = (Service.resolve (.ofSources defaultBesideCaptured)).value := by
      rw [config_eq_resolve h]
      rfl
    rw [hservice, Stack.ofSources_eq]
    decide +kernel
  have hranked : ((Stack.ofSources defaultBesideCaptured).resolve .service).value =
      some ⟨"binary", .captured, "service"⟩ := by
    rw [Stack.ofSources_eq]
    decide +kernel
  have hbinary := hfollows.name
  rw [hname, hranked] at hbinary
  exact absurd hbinary (by decide)

end Build

end TracerSettings
