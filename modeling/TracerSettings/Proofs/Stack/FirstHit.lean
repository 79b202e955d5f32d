import Mathlib.Data.Prod.Lex
import Mathlib.Order.Bounds.Basic
import TracerSettings.Proofs.Journal
import TracerSettings.Proofs.Stack.Hits
import TracerSettings.Proofs.Stack.Ranking

namespace TracerSettings

theorem findSome?_eq_some_iff_getElem? {α β : Type} {f : α → Option β} {l : List α} {b : β} :
    l.findSome? f = some b ↔
      ∃ (i : ℕ) (a : α), l[i]? = some a ∧ f a = some b ∧
        ∀ j < i, ∀ a', l[j]? = some a' → f a' = none := by
  constructor
  · intro h
    obtain ⟨before, a, after, rfl, ha, hbefore⟩ := List.findSome?_eq_some_iff.1 h
    have hlength : (before ++ a :: after)[before.length]? = some a := by
      rw [List.getElem?_append_right le_rfl, Nat.sub_self, List.getElem?_cons_zero]
    refine ⟨before.length, a, hlength, ha, ?_⟩
    intro j hj a' ha'
    rw [List.getElem?_append_left hj] at ha'
    exact hbefore a' (List.mem_of_getElem? ha')
  · rintro ⟨i, a, hi, ha, hbefore⟩
    obtain ⟨hlt, rfl⟩ := List.getElem?_eq_some_iff.1 hi
    refine List.findSome?_eq_some_iff.2 ⟨l.take i, l[i], l.drop (i + 1), ?_, ha, ?_⟩
    · rw [List.getElem_cons_drop, List.take_append_drop]
    · intro a' ha'
      obtain ⟨j, hj, rfl⟩ := List.mem_take_iff_getElem.1 ha'
      have hj' : j < i := by omega
      exact hbefore j hj' _ (List.getElem?_eq_getElem _)

namespace Source

/-- A source tells under a name what it holds there, trimmed, unless that is blank. -/
def Tells (s : Source) (name value : String) : Prop :=
  ∃ raw, s.lookup name = some raw ∧ Text.trim raw = value ∧ value ≠ ""

variable {s : Source} {names : List String} {name value : String} {hit : Hit}

theorem present_eq_some_iff : s.present name = some value ↔ s.Tells name value := by
  rw [present, Option.bind_eq_some_iff]
  constructor
  · rintro ⟨raw, hraw, h⟩
    obtain ⟨rfl, hne⟩ := Text.nonBlank_eq_some h
    exact ⟨raw, hraw, rfl, hne⟩
  · rintro ⟨raw, hraw, rfl, hne⟩
    exact ⟨raw, hraw, if_neg hne⟩

theorem present_eq_none_iff : s.present name = none ↔ ∀ value, ¬s.Tells name value := by
  simp only [Option.eq_none_iff_forall_ne_some, ne_eq, present_eq_some_iff]

theorem hit?_eq_none_iff :
    s.hit? names = none ↔ ∀ name ∈ names, ∀ value, ¬s.Tells name value := by
  simp only [hit?, firstPresent, Option.map_eq_none_iff, List.findSome?_eq_none_iff,
    present_eq_none_iff]

theorem hit?_eq_some_iff :
    s.hit? names = some hit ↔
      s.origin = hit.origin ∧ ∃ j : ℕ, names[j]? = some hit.key ∧ s.Tells hit.key hit.value ∧
        ∀ i < j, ∀ name, names[i]? = some name → ∀ value, ¬s.Tells name value := by
  obtain ⟨value, origin, key⟩ := hit
  simp only [hit?, firstPresent, Option.map_eq_some_iff, findSome?_eq_some_iff_getElem?,
    Option.map_eq_none_iff, present_eq_some_iff, present_eq_none_iff, Prod.exists]
  constructor
  · rintro ⟨_, _, ⟨j, name, hname, ⟨found, hfound, hpair⟩, hbefore⟩, hhit⟩
    obtain ⟨rfl, rfl⟩ := Prod.mk.inj hpair
    obtain ⟨rfl, rfl, rfl⟩ := Hit.mk.inj hhit
    exact ⟨rfl, j, hname, hfound, hbefore⟩
  · rintro ⟨rfl, j, hname, htells, hbefore⟩
    exact ⟨key, value, ⟨j, key, hname, ⟨value, htells, rfl⟩, hbefore⟩, rfl⟩

def Silent (s : Source) (names : List String) : Prop :=
  ∀ name ∈ names, ∀ value, ¬s.Tells name value

theorem hit?_of_tells {earlier later : List String} {key : String} (hearlier : s.Silent earlier)
    (h : s.Tells key value) :
    s.hit? (earlier ++ key :: later) = some ⟨value, s.origin, key⟩ := by
  have hfirst : s.firstPresent (earlier ++ key :: later) = some (key, value) := by
    rw [firstPresent, List.findSome?_eq_some_iff]
    refine ⟨earlier, key, later, rfl, ?_, fun name hname => ?_⟩
    · rw [present_eq_some_iff.2 h, Option.map_some]
    · rw [present_eq_none_iff.2 (hearlier name hname), Option.map_none]
  rw [hit?, hfirst, Option.map_some]

end Source

namespace Stack

/-- The positions of a source in a stack and of a name in a list of names. -/
abbrev Place := ℕ ×ₗ ℕ

/-- What a stack has at a place, unless the origin of the source there is excluded. -/
def HasAt (st : Stack) (excluded : List Origin) (names : List String) (place : Place)
    (hit : Hit) : Prop :=
  ∃ source, st.sources[(ofLex place).1]? = some source ∧ source.origin = hit.origin ∧
    hit.origin ∉ excluded ∧ names[(ofLex place).2]? = some hit.key ∧
      source.Tells hit.key hit.value

/-- What a stack has at the least place where it has anything. -/
structure HasFirst (st : Stack) (excluded : List Origin) (names : List String) (place : Place)
    (hit : Hit) : Prop where
  has : st.HasAt excluded names place hit
  least : IsLeast {p | ∃ h, st.HasAt excluded names p h} place

section Places

variable {st st' : Stack} {excluded : List Origin} {names : List String} {place place' : Place}
  {hit hit' : Hit}

theorem HasAt.unique (h : st.HasAt excluded names place hit)
    (h' : st.HasAt excluded names place hit') : hit = hit' := by
  obtain ⟨source, hsource, horigin, -, hkey, raw, hraw, hvalue, -⟩ := h
  obtain ⟨source', hsource', horigin', -, hkey', raw', hraw', hvalue', -⟩ := h'
  obtain rfl : source = source' := Option.some.inj (hsource.symm.trans hsource')
  have hkeys : hit.key = hit'.key := Option.some.inj (hkey.symm.trans hkey')
  have hraws : raw = raw' := Option.some.inj (hraw.symm.trans (hkeys ▸ hraw'))
  obtain ⟨value, origin, key⟩ := hit
  obtain ⟨value', origin', key'⟩ := hit'
  exact Hit.mk.injEq .. ▸ ⟨hvalue.symm.trans (hraws ▸ hvalue'), horigin.symm.trans horigin', hkeys⟩

theorem HasFirst.unique (h : st.HasFirst excluded names place hit)
    (h' : st.HasFirst excluded names place' hit') : hit = hit' :=
  h.has.unique (h.least.unique h'.least ▸ h'.has)

theorem HasFirst.of_take_eq (h : st.HasFirst excluded names place hit)
    (htake : st'.sources.take ((ofLex place).1 + 1) = st.sources.take ((ofLex place).1 + 1)) :
    st'.HasFirst excluded names place hit := by
  have hsource {i : ℕ} (hi : i ≤ (ofLex place).1) : st'.sources[i]? = st.sources[i]? := by
    have hlt : i < (ofLex place).1 + 1 := Nat.lt_succ_of_le hi
    rw [← List.getElem?_take_of_lt hlt, htake, List.getElem?_take_of_lt hlt]
  have hhas : st'.HasAt excluded names place hit := by
    obtain ⟨source, hplace, hrest⟩ := h.has
    exact ⟨source, (hsource le_rfl).trans hplace, hrest⟩
  refine ⟨hhas, ⟨hit, hhas⟩, ?_⟩
  rintro p ⟨hit', source, hplace, hrest⟩
  by_cases hle : (ofLex p).1 ≤ (ofLex place).1
  · exact h.least.2 ⟨hit', source, (hsource hle).symm.trans hplace, hrest⟩
  · exact Prod.Lex.le_iff.2 (.inl (Nat.lt_of_not_le hle))

end Places

variable {st : Stack} {excluded : List Origin} {s : Setting} {hit : Hit}

def admittedHit? (excluded : List Origin) (names : List String) (source : Source) : Option Hit :=
  if source.origin ∈ excluded then none else source.hit? names

theorem value_resolveExcluding (st : Stack) (excluded : List Origin) (s : Setting) :
    (st.resolveExcluding excluded s).value =
      st.sources.findSome? (admittedHit? excluded s.names) := by
  rw [resolveExcluding, value_resolve, find?, hits, admitting, List.filterMap_filter,
    List.head?_filterMap]
  congr 1
  funext source
  by_cases h : source.origin ∈ excluded
  · simp [admittedHit?, h]
  · simp [admittedHit?, h]

theorem notes_resolve (st : Stack) (s : Setting) :
    (st.resolve s).notes =
      (st.resolve s).value.toList.map fun hit => .collect s.key hit.value hit.origin := by
  rw [value_resolve, resolve]
  cases st.find? s.names <;> rfl

theorem notes_text? (st : Stack) (s : Setting) :
    (st.text? s).notes =
      (st.find? s.names).toList.map fun hit => .collect s.key hit.value hit.origin := by
  rw [text?, Noted.notes_bind, Noted.notes_pure, List.append_nil, notes_resolve, value_resolve]

theorem reports_collected (key : String) (hit? : Option Hit) :
    reports (hit?.toList.map fun hit => .collect key hit.value hit.origin) = [] := by
  cases hit? <;> rfl

theorem reports_resolve (st : Stack) (s : Setting) : reports (st.resolve s).notes = [] := by
  rw [notes_resolve, reports_collected]

theorem reports_text? (st : Stack) (s : Setting) : reports (st.text? s).notes = [] := by
  rw [text?, Noted.notes_bind, Noted.notes_pure, List.append_nil, reports_resolve]

/-- A stack tells of a setting what it finds first. -/
def Tells (st : Stack) (s : Setting) (value : String) : Prop :=
  ∃ hit, st.find? s.names = some hit ∧ hit.value = value

theorem Tells.unique {st : Stack} {s : Setting} {value value' : String}
    (h : st.Tells s value) (h' : st.Tells s value') : value = value' := by
  obtain ⟨hit, hhit, rfl⟩ := h
  obtain ⟨hit', hhit', rfl⟩ := h'
  rw [Option.some.inj (hhit.symm.trans hhit')]

theorem value_text?_eq_some_iff {st : Stack} {s : Setting} {value : String} :
    (st.text? s).value = some value ↔ st.Tells s value := by
  rw [value_text?, Option.map_eq_some_iff, Tells]

theorem notes_resolveExcluding (st : Stack) (excluded : List Origin) (s : Setting) :
    (st.resolveExcluding excluded s).notes =
      (st.resolveExcluding excluded s).value.toList.map fun hit =>
        .collect s.key hit.value hit.origin :=
  notes_resolve _ s

theorem resolveExcluding_ext {st st' : Stack}
    (h : (st.resolveExcluding excluded s).value = (st'.resolveExcluding excluded s).value) :
    st.resolveExcluding excluded s = st'.resolveExcluding excluded s := by
  apply Noted.ext h
  rw [notes_resolveExcluding, notes_resolveExcluding, h]

theorem hasFirst_of_resolveExcluding (h : (st.resolveExcluding excluded s).value = some hit) :
    ∃ place, st.HasFirst excluded s.names place hit := by
  rw [value_resolveExcluding, findSome?_eq_some_iff_getElem?] at h
  obtain ⟨i, source, hsource, hhit, habove⟩ := h
  have hadmitted : source.origin ∉ excluded := by
    intro hmem
    simp [admittedHit?, hmem] at hhit
  rw [admittedHit?, if_neg hadmitted, Source.hit?_eq_some_iff] at hhit
  obtain ⟨horigin, j, hname, htells, hbefore⟩ := hhit
  have hhas : st.HasAt excluded s.names (toLex (i, j)) hit :=
    ⟨source, hsource, horigin, horigin ▸ hadmitted, hname, htells⟩
  refine ⟨toLex (i, j), hhas, ⟨hit, hhas⟩, ?_⟩
  rintro p ⟨hit', source', hsource', horigin', hadmitted', hname', htells'⟩
  rw [Prod.Lex.le_iff, ofLex_toLex]
  rcases Nat.lt_trichotomy (ofLex p).1 i with hlt | heq | hgt
  · -- A source above has no name with a value.
    have hnone := habove _ hlt source' hsource'
    rw [admittedHit?, if_neg (horigin' ▸ hadmitted'), Source.hit?_eq_none_iff] at hnone
    exact absurd htells' (hnone _ (List.mem_of_getElem? hname') _)
  · -- In the same source no name before has a value.
    right
    refine ⟨heq.symm, Nat.le_of_not_lt fun hlt => ?_⟩
    obtain rfl : source = source' := Option.some.inj (hsource.symm.trans (heq ▸ hsource'))
    exact hbefore _ hlt _ hname' _ htells'
  · exact .inl hgt

theorem resolveExcluding_eq_none_iff :
    (st.resolveExcluding excluded s).value = none ↔
      ∀ source ∈ st.sources, source.origin ∉ excluded →
        ∀ name ∈ s.names, ∀ value, ¬source.Tells name value := by
  simp only [value_resolveExcluding, List.findSome?_eq_none_iff, admittedHit?, ite_eq_left_iff,
    Source.hit?_eq_none_iff]

theorem resolveExcluding_eq_some_iff :
    (st.resolveExcluding excluded s).value = some hit ↔
      ∃ place, st.HasFirst excluded s.names place hit := by
  refine ⟨hasFirst_of_resolveExcluding, ?_⟩
  rintro ⟨place, h⟩
  cases hvalue : (st.resolveExcluding excluded s).value with
  | none =>
      obtain ⟨source, hsource, horigin, hadmitted, hname, htells⟩ := h.has
      exact absurd htells (resolveExcluding_eq_none_iff.1 hvalue source
        (List.mem_of_getElem? hsource) (horigin ▸ hadmitted) _ (List.mem_of_getElem? hname) _)
  | some hit' =>
      obtain ⟨place', h'⟩ := hasFirst_of_resolveExcluding hvalue
      rw [h.unique h']

theorem resolveExcluding_nil (st : Stack) (s : Setting) :
    st.resolveExcluding [] s = st.resolve s :=
  congrArg (Stack.resolve · s) st.admitting_true

theorem find?_eq_none_iff :
    st.find? s.names = none ↔
      ∀ source ∈ st.sources, ∀ name ∈ s.names, ∀ value, ¬source.Tells name value := by
  rw [← value_resolve, ← resolveExcluding_nil, resolveExcluding_eq_none_iff]
  simp only [List.not_mem_nil, not_false_eq_true, forall_const]

theorem find?_eq_some_iff :
    st.find? s.names = some hit ↔ ∃ place, st.HasFirst [] s.names place hit := by
  rw [← value_resolve, ← resolveExcluding_nil, resolveExcluding_eq_some_iff]

theorem find?_of_silent {above below : List Source} {source : Source} {names : List String}
    (hst : st.sources = above ++ source :: below) (habove : ∀ source ∈ above, source.Silent names)
    (hhit : source.hit? names = some hit) : st.find? names = some hit := by
  have hnone : above.filterMap (·.hit? names) = [] :=
    List.filterMap_eq_nil_iff.2 fun above habove' =>
      Source.hit?_eq_none_iff.2 (habove above habove')
  rw [find?, hits, hst, List.filterMap_append, hnone, List.nil_append, List.filterMap_cons, hhit]
  rfl

theorem textOutside?_eq_none_iff {o : Origin} :
    (st.textOutside? o s).value = none ↔
      ∀ source ∈ st.sources, source.origin ≠ o →
        ∀ name ∈ s.names, ∀ value, ¬source.Tells name value := by
  have hvalue : (st.textOutside? o s).value =
      (st.resolveExcluding [o] s).value.map Hit.value := rfl
  rw [hvalue, Option.map_eq_none_iff, resolveExcluding_eq_none_iff]
  simp only [List.mem_singleton, ne_eq]

theorem textFrom?_eq_none_iff {o : Origin} :
    (st.textFrom? o s).value = none ↔
      ∀ source ∈ st.sources, source.origin = o →
        ∀ name ∈ s.names, ∀ value, ¬source.Tells name value := by
  have hvalue : (st.textFrom? o s).value =
      (st.resolveExcluding (st.origins.filter (· != o)) s).value.map Hit.value := rfl
  have hother {source : Source} (hsource : source ∈ st.sources) :
      source.origin ∉ st.origins.filter (· != o) ↔ source.origin = o := by
    have horigin : source.origin ∈ st.origins := List.mem_map_of_mem hsource
    simp [horigin]
  rw [hvalue, Option.map_eq_none_iff, resolveExcluding_eq_none_iff]
  exact forall₂_congr fun source hsource => by rw [hother hsource]

theorem textFrom?_ofSources (sources : List Source) (o : Origin) (s : Setting) :
    (ofSources sources).textFrom? o s = (ofSources (Source.withOrigin o sources)).text? s := by
  rw [textFrom?_eq, admitting_ofSources, Source.withOrigin]

theorem value_textFrom? (sources : List Source) (o : Origin) (s : Setting) :
    ((ofSources sources).textFrom? o s).value =
      (Source.withOrigin o sources).findSome? fun source =>
        (source.firstPresent s.names).map Prod.snd := by
  have hsources : ((ofSources sources).admitting (· == o)).sources =
      Source.withOrigin o sources :=
    withOrigin_ofSources sources o
  rw [textFrom?_eq, value_text?, find?, hits, hsources, List.head?_filterMap, List.map_findSome?]
  congr 1
  funext source
  simp only [Function.comp_apply, Source.hit?, Option.map_map]
  rfl

section Ranked

variable {sources : List Source} {names : List String}

theorem pairwise_hits (sources : List Source) (names : List String) :
    ((ofSources sources).hits names).Pairwise fun hit hit' =>
      hit.origin.rank ≤ hit'.origin.rank := by
  have hranked := List.pairwise_mergeSort Source.precedes_trans Source.precedes_total sources
  apply hranked.filterMap
  intro source source' hprecedes hit hhit hit' hhit'
  rw [(Source.hit?_eq_some hhit).1, (Source.hit?_eq_some hhit').1]
  exact Source.precedes_iff.1 hprecedes

theorem rank_le_of_find? (h : (ofSources sources).find? names = some hit) {hit' : Hit}
    (h' : hit' ∈ (ofSources sources).hits names) : hit.origin.rank ≤ hit'.origin.rank := by
  have hpairwise := pairwise_hits sources names
  rw [find?, List.head?_eq_some_iff] at h
  obtain ⟨rest, hrest⟩ := h
  rw [hrest] at h' hpairwise
  rcases List.mem_cons.1 h' with rfl | hmem
  · exact le_rfl
  · exact (List.pairwise_cons.1 hpairwise).1 hit' hmem

theorem find?_of_admitting {o : Origin} (hlowest : ∀ source ∈ sources, source.origin.rank ≤ o.rank)
    (h : ((ofSources sources).admitting (· != o)).find? names = some hit) :
    (ofSources sources).find? names = some hit := by
  rw [find?, hits_admitting] at h
  obtain ⟨hmem, hne⟩ := List.mem_filter.1 (List.mem_of_head? h)
  obtain ⟨source, hsource, hhit⟩ := List.mem_filterMap.1 hmem
  have hle : hit.origin.rank ≤ o.rank := by
    rw [(Source.hit?_eq_some hhit).1]
    exact hlowest source (mem_ofSources.1 hsource)
  cases hhits : (ofSources sources).hits names with
  | nil =>
      rw [hhits] at hmem
      exact absurd hmem List.not_mem_nil
  | cons top rest =>
      have hfind : (ofSources sources).find? names = some top := by
        rw [find?, hhits, List.head?_cons]
      have htop : top.origin ≠ o := by
        -- What comes after a hit of the lowest origin is of that origin too.
        rintro rfl
        have hrank := Nat.le_antisymm hle (rank_le_of_find? hfind hmem)
        exact bne_iff_ne.1 hne (Origin.rank_injective hrank)
      simp only [hhits, List.filter_cons, bne_iff_ne.2 htop, if_true, List.head?_cons] at h
      rw [hfind, h]

end Ranked

/-- The rules of a look-up in ranked sources. -/
structure FindsFirst (sources : List Source) (excluded : List Origin) (s : Setting) : Prop where
  absent : ((ofSources sources).resolveExcluding excluded s).value = none ↔
    ∀ source ∈ sources, source.origin ∉ excluded →
      ∀ name ∈ s.names, ∀ value, ¬source.Tells name value
  found (hit : Hit) : ((ofSources sources).resolveExcluding excluded s).value = some hit ↔
    ∃ place, (ofSources sources).HasFirst excluded s.names place hit
  offered : ((ofSources sources).resolveExcluding excluded s).notes =
    ((ofSources sources).resolveExcluding excluded s).value.toList.map fun hit =>
      .collect s.key hit.value hit.origin
  kept (j : Journal) : j.absorb ((ofSources sources).resolveExcluding excluded s).notes =
    ((ofSources sources).resolveExcluding excluded s).value.elim j fun hit =>
      if s.key ∈ j.keys then j
      else ⟨j.diagnostics, j.collected ++
        [(s.key, ⟨if isSecretKey s.key then mask else hit.value, hit.origin⟩)]⟩
  excludingNone : (ofSources sources).resolveExcluding [] s = (ofSources sources).resolve s
  deleted : (ofSources sources).resolveExcluding excluded s =
    (ofSources (sources.filter fun source => source.origin ∉ excluded)).resolve s
  fromOne (o : Origin) :
    (ofSources sources).textFrom? o s = (ofSources (Source.withOrigin o sources)).text? s ∧
      ((ofSources sources).textFrom? o s).value =
        (Source.withOrigin o sources).findSome? fun source =>
          (source.firstPresent s.names).map Prod.snd
  isSet : (ofSources sources).isSet s = ((ofSources sources).resolve s).value.isSome
  below {place : Place} {hit : Hit} {sources' : List Source}
    (h : (ofSources sources).HasFirst excluded s.names place hit)
    (htake : (ofSources sources').sources.take ((ofLex place).1 + 1) =
      (ofSources sources).sources.take ((ofLex place).1 + 1)) :
    (ofSources sources').resolveExcluding excluded s =
      (ofSources sources).resolveExcluding excluded s

theorem findsFirst (sources : List Source) (excluded : List Origin) (s : Setting) :
    FindsFirst sources excluded s := by
  constructor
  case absent => simp only [resolveExcluding_eq_none_iff, mem_ofSources]
  case found => exact fun hit => resolveExcluding_eq_some_iff
  case offered => exact notes_resolveExcluding _ excluded s
  case kept =>
    intro j
    rw [notes_resolveExcluding]
    cases ((ofSources sources).resolveExcluding excluded s).value with
    | none => rfl
    | some hit => exact j.absorb_collect s.key hit.value hit.origin
  case excludingNone => exact congrArg (Stack.resolve · s) (admitting_true _)
  case deleted =>
    rw [resolveExcluding, admitting_ofSources]
    simp only [List.contains_eq_mem, decide_not]
  case fromOne => exact fun o => ⟨textFrom?_ofSources sources o s, value_textFrom? sources o s⟩
  case isSet => rw [isSet, value_resolve]
  case below =>
    intro place hit sources' h htake
    apply resolveExcluding_ext
    rw [resolveExcluding_eq_some_iff.2 ⟨place, h⟩,
      resolveExcluding_eq_some_iff.2 ⟨place, h.of_take_eq htake⟩]

end Stack

end TracerSettings
