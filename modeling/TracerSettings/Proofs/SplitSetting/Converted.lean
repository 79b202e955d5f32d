import TracerSettings.Proofs.SplitSetting
import TracerSettings.Proofs.Stack.FirstHit

namespace TracerSettings

/-- Of some keys one is given, by one or more sources and always with the same text, and no source
has a value for any other. -/
structure OnlyGiven (sources : List Source) (keys : List String) (key raw : String) : Prop where
  given : ∃ source ∈ sources, source.lookup key = some raw
  only : ∀ source ∈ sources, ∀ k ∈ keys, ∀ value ∈ source.present k,
    k = key ∧ value = Text.trim raw

section OnlyGiven

variable {sources : List Source} {keys : List String} {key k raw : String}

theorem OnlyGiven.find?_eq_none (h : OnlyGiven sources keys key raw) (hk : k ∈ keys)
    (hne : k ≠ key) : (Stack.ofSources sources).find? [k] = none := by
  have hnames : (Setting.named k).names = [k] := rfl
  rw [← hnames, Stack.find?_eq_none_iff]
  intro source hsource name hname value htells
  rw [List.mem_singleton.1 hname, ← Source.present_eq_some_iff] at htells
  exact hne (h.only source (Stack.mem_ofSources.1 hsource) k hk value htells).1

theorem OnlyGiven.tells (h : OnlyGiven sources keys key raw) (hkey : key ∈ keys)
    (hraw : Text.trim raw ≠ "") :
    (Stack.ofSources sources).Tells (.named key) (Text.trim raw) := by
  obtain ⟨given, hgiven, hlookup⟩ := h.given
  cases hfind : (Stack.ofSources sources).find? (Setting.named key).names with
  | none =>
      rw [Stack.find?_eq_none_iff] at hfind
      exact absurd ⟨raw, hlookup, rfl, hraw⟩
        (hfind given (Stack.mem_ofSources.2 hgiven) key List.mem_cons_self _)
  | some hit =>
      obtain ⟨place, hfirst⟩ := Stack.find?_eq_some_iff.1 hfind
      obtain ⟨source, hsource, -, -, hname, htells⟩ := hfirst.has
      have hhit : hit.key = key := List.mem_singleton.1 (List.mem_of_getElem? hname)
      rw [hhit, ← Source.present_eq_some_iff] at htells
      have hmem := Stack.mem_ofSources.1 (List.mem_of_getElem? hsource)
      exact ⟨hit, hfind, (h.only source hmem key hkey hit.value htells).2⟩

end OnlyGiven

section Variants

variable {α : Type} [DecidableEq α] [Choice α] {st : Stack} {delimiters : Delimiters}
  {key raw : String} {items : List α}

theorem Stack.variants_of_find?_eq_none (h : st.find? [key] = none) :
    (st.variants delimiters key : List α) = [] := by
  rw [variants, h]

theorem Stack.variants_of_tells (h : st.Tells (.named key) raw)
    (hread : (tokens delimiters raw).map Choice.read? = items.map some) :
    (st.variants delimiters key : List α) = items.eraseDups := by
  obtain ⟨hit, hfind, rfl⟩ := h
  have hitems : (tokens delimiters hit.value).filterMap Choice.read? = items := by
    have hid := congrArg (List.filterMap id) hread
    rw [List.filterMap_map, List.filterMap_map] at hid
    exact hid.trans List.filterMap_some
  have hvariants : (st.variants delimiters key : List α) =
      unique ((tokens delimiters hit.value).filterMap Choice.read?) := by
    rw [variants, show st.find? [key] = some hit from hfind]
  rw [hvariants, hitems, unique_eq_eraseDups]

omit [DecidableEq α]

theorem Stack.unknown_of_find?_eq_none (h : st.find? [key] = none) :
    st.unknown α delimiters key = [] := by
  rw [unknown, h]

theorem Stack.unknown_of_tells (h : st.Tells (.named key) raw)
    (hread : (tokens delimiters raw).map Choice.read? = items.map some) :
    st.unknown α delimiters key = [] := by
  obtain ⟨hit, hfind, rfl⟩ := h
  have hnone : (tokens delimiters hit.value).filter
      (fun word => (Choice.read? word : Option α).isNone) = [] := by
    rw [List.filter_eq_nil_iff]
    intro word hword
    have hmem := List.mem_map_of_mem (f := (Choice.read? : String → Option α)) hword
    obtain ⟨a, -, ha⟩ := List.mem_map.1 (hread ▸ hmem)
    rw [← ha]
    exact Bool.false_ne_true
  rw [unknown, show st.find? [key] = some hit from hfind]
  simp only [hnone]
  rfl

end Variants

namespace SplitSetting

variable {Old New : Type} [DecidableEq Old] [DecidableEq New] [Choice Old] [Choice New]
  {setting : SplitSetting Old New} {sources : List Source} {d : Direction} {raw : String}
  {old : List Old}

/-- One direction is converted from some deprecated values, the other one is at the defaults, and
the conversion is the only report. -/
structure Converts (setting : SplitSetting Old New) (d : Direction) (old : List Old)
    (run : Noted (ReconciledSetting Old New)) : Prop where
  values : (run.value.side d).values = (old.flatMap setting.successors).eraseDups
  legacy : (run.value.side d).legacy = old.eraseDups
  outcome : (run.value.side d).outcome = .deprecatedConverted (setting.deprecated.key d)
  other (d' : Direction) (h : d' ≠ d) :
    run.value.side d' = ⟨setting.defaultCurrent, setting.defaultLegacy, .default⟩
  reported : reports run.notes =
    [.deprecatedConverted (setting.deprecated.key d) (namesText old.eraseDups)
      (setting.current.key d) (namesText (old.flatMap setting.successors).eraseDups)]
  kept : (Journal.empty.absorb run.notes).diagnostics = reports run.notes

section Keys

omit [DecidableEq Old] [DecidableEq New] [Choice Old] [Choice New]

theorem common_mem_keys (setting : SplitSetting Old New) : setting.common ∈ setting.keys :=
  List.mem_cons_self

theorem current_mem_keys (setting : SplitSetting Old New) (d : Direction) :
    setting.current.key d ∈ setting.keys := by
  cases d <;> simp [keys, DirectionKeys.key]

theorem deprecated_mem_keys (setting : SplitSetting Old New) (d : Direction) :
    setting.deprecated.key d ∈ setting.keys := by
  cases d <;> simp [keys, DirectionKeys.key]

theorem ne_deprecated (hkeys : setting.keys.Nodup) (d : Direction) :
    setting.common ≠ setting.deprecated.key d ∧
      (∀ d', setting.current.key d' ≠ setting.deprecated.key d) ∧
      ∀ d' ≠ d, setting.deprecated.key d' ≠ setting.deprecated.key d := by
  simp only [keys, List.nodup_cons, List.mem_cons, List.not_mem_nil, or_false, not_or] at hkeys
  obtain ⟨⟨-, -, hce, hci⟩, ⟨-, hee, hei⟩, ⟨hie, hii⟩, hei', -⟩ := hkeys
  cases d with
  | extract =>
      refine ⟨hce, fun d' => ?_, fun d' hd' => ?_⟩
      · cases d' <;> assumption
      · cases d' with
        | extract => exact absurd rfl hd'
        | inject => exact Ne.symm hei'
  | inject =>
      refine ⟨hci, fun d' => ?_, fun d' hd' => ?_⟩
      · cases d' <;> assumption
      · cases d' with
        | extract => exact hei'
        | inject => exact absurd rfl hd'

end Keys

section Owed

omit [DecidableEq Old]

theorem owed_converted (hconvert : setting.convert old ≠ []) :
    setting.owed d ⟨[], [], old⟩ =
      [.deprecatedConverted (setting.deprecated.key d) (namesText old) (setting.current.key d)
        (namesText (setting.convert old))] := by
  simp [owed, hconvert]

theorem owed_nothing (setting : SplitSetting Old New) (d : Direction) :
    setting.owed d ⟨[], [], []⟩ = [] := by
  simp [owed, convert, unique]

end Owed

omit [Choice Old] [Choice New] in
theorem convert_eraseDups (setting : SplitSetting Old New) (old : List Old) :
    setting.convert old.eraseDups = (old.flatMap setting.successors).eraseDups := by
  rw [convert, ← unique_eq_eraseDups, unique_unique_flatMap, unique_eq_eraseDups]

omit [Choice Old] [Choice New] in
theorem convert_eraseDups_ne_nil (hne : old.flatMap setting.successors ≠ []) :
    setting.convert old.eraseDups ≠ [] := by
  obtain ⟨a, rest, h⟩ := List.exists_cons_of_ne_nil hne
  rw [convert_eraseDups, h, List.eraseDups_cons]
  exact List.cons_ne_nil _ _

section Run

variable (hkeys : setting.keys.Nodup)
  (h : OnlyGiven sources setting.keys (setting.deprecated.key d) raw)

include hkeys h

theorem said_of_ne {d' : Direction} (hd' : d' ≠ d) :
    setting.said (.ofSources sources) d' = ⟨[], [], []⟩ := by
  obtain ⟨hcommon, hcurrent, hdeprecated⟩ := ne_deprecated hkeys d
  rw [said, Stack.variants_of_find?_eq_none (h.find?_eq_none setting.common_mem_keys hcommon),
    Stack.variants_of_find?_eq_none (h.find?_eq_none (setting.current_mem_keys d') (hcurrent d')),
    Stack.variants_of_find?_eq_none
      (h.find?_eq_none (setting.deprecated_mem_keys d') (hdeprecated d' hd'))]

theorem toldOf_of_ne {d' : Direction} (hd' : d' ≠ d) :
    setting.toldOf (.ofSources sources) d' = [] := by
  obtain ⟨-, hcurrent, hdeprecated⟩ := ne_deprecated hkeys d
  rw [toldOf, said_of_ne hkeys h hd', owed_nothing,
    Stack.unknown_of_find?_eq_none (h.find?_eq_none (setting.current_mem_keys d') (hcurrent d')),
    Stack.unknown_of_find?_eq_none
      (h.find?_eq_none (setting.deprecated_mem_keys d') (hdeprecated d' hd'))]
  rfl

variable (hread : (tokens setting.deprecatedDelimiters (Text.trim raw)).map Choice.read? =
    old.map some) (hraw : Text.trim raw ≠ "")

include hread hraw

theorem said_self : setting.said (.ofSources sources) d = ⟨[], [], old.eraseDups⟩ := by
  obtain ⟨hcommon, hcurrent, -⟩ := ne_deprecated hkeys d
  rw [said, Stack.variants_of_find?_eq_none (h.find?_eq_none setting.common_mem_keys hcommon),
    Stack.variants_of_find?_eq_none (h.find?_eq_none (setting.current_mem_keys d) (hcurrent d)),
    Stack.variants_of_tells (h.tells (setting.deprecated_mem_keys d) hraw) hread]

theorem toldOf_self (hne : old.flatMap setting.successors ≠ []) :
    setting.toldOf (.ofSources sources) d =
      [.deprecatedConverted (setting.deprecated.key d) (namesText old.eraseDups)
        (setting.current.key d) (namesText (old.flatMap setting.successors).eraseDups)] := by
  obtain ⟨-, hcurrent, -⟩ := ne_deprecated hkeys d
  rw [toldOf, said_self hkeys h hread hraw, owed_converted (convert_eraseDups_ne_nil hne),
    convert_eraseDups,
    Stack.unknown_of_find?_eq_none (h.find?_eq_none (setting.current_mem_keys d) (hcurrent d)),
    Stack.unknown_of_tells (h.tells (setting.deprecated_mem_keys d) hraw) hread]
  rfl

theorem converts_reconcile (hne : old.flatMap setting.successors ≠ []) :
    setting.Converts d old (setting.reconcile (.ofSources sources)) := by
  have hself := decided_reconcile setting (.ofSources sources) d
  rw [said_self hkeys h hread hraw] at hself
  have hconvert := convert_eraseDups_ne_nil hne
  have hold : old.eraseDups ≠ [] := by
    intro hnil
    simp [hnil, convert, unique] at hconvert
  have hunknown : (Stack.ofSources sources).unknown New setting.currentDelimiters setting.common =
      [] :=
    Stack.unknown_of_find?_eq_none
      (h.find?_eq_none setting.common_mem_keys (ne_deprecated hkeys d).1)
  have hreports : reports (setting.reconcile (.ofSources sources)).notes =
      [.deprecatedConverted (setting.deprecated.key d) (namesText old.eraseDups)
        (setting.current.key d) (namesText (old.flatMap setting.successors).eraseDups)] := by
    rw [reports_reconcile, told, hunknown, List.nil_append]
    cases d with
    | extract =>
        rw [toldOf_self hkeys h hread hraw hne, toldOf_of_ne hkeys h Direction.noConfusion]
        rfl
    | inject =>
        rw [toldOf_self hkeys h hread hraw hne, toldOf_of_ne hkeys h Direction.noConfusion]
        rfl
  constructor
  case values => rw [(hself.converted rfl rfl hconvert).1, convert_eraseDups]
  case legacy => rw [hself.legacy, if_neg hold]
  case outcome => exact (hself.converted rfl rfl hconvert).2
  case other =>
    intro d' hd'
    rw [value_reconcile_side, said_of_ne hkeys h hd', settle_nil]
    exact congrArg Noted.value (if_pos rfl)
  case reported => exact hreports
  case kept =>
    rw [Journal.diagnostics_absorb_empty, hreports]
    exact unique_of_nodup (List.pairwise_singleton _ _)

end Run

end SplitSetting

namespace Propagation

theorem LegacyStyle.plain : Choice.Plain LegacyStyle .commaOrBlank where
  name_ne s := by cases s <;> decide
  solid s := by cases s <;> exact Text.forall_mem_of_all (by decide)
  ofName?_name := ofName?_name

theorem LegacyStyle.current_ne_nil (s : LegacyStyle) : s.current ≠ [] := by
  cases s <;> exact List.cons_ne_nil _ _

/-- Legacy styles that are listed under a legacy key and are all that is given of the setting are
converted, in whatever letter case and between whatever delimiters they stand. -/
theorem reconcile_converts {sources : List Source} {d : Direction} {raw : String}
    {old : List LegacyStyle} (hraw : Choice.Lists .commaOrBlank old raw.toList)
    (h : OnlyGiven sources styles.keys (styles.deprecated.key d) raw) :
    styles.Converts d old (styles.reconcile (.ofSources sources)) := by
  have hread : (tokens .commaOrBlank (Text.trim raw)).map Choice.read? = old.map some := by
    have hblank (c : Char) (hc : Text.isBlank c = true) :
        Delimiters.commaOrBlank.contains c = true := by
      rw [Delimiters.contains, hc, Bool.or_true]
    rw [tokens_trim hblank, ← hraw.read?_tokens LegacyStyle.plain, String.ofList_toList]
  have hne : old.flatMap styles.successors ≠ [] := by
    obtain ⟨s, rest, rfl⟩ := List.exists_cons_of_ne_nil hraw.ne_nil
    rw [List.flatMap_cons]
    exact List.append_ne_nil_of_left_ne_nil s.current_ne_nil _
  have htrim : Text.trim raw ≠ "" := by
    intro hempty
    rw [hempty] at hread
    exact hraw.ne_nil (List.map_eq_nil_iff.1 hread.symm)
  exact SplitSetting.converts_reconcile (by decide) h hread htrim hne

def legacyText : String := ",B3 haystack,\tb3\nDataDog "

def legacySources : List Source :=
  [.pairs .override [("service", "shop"), ("trace.propagation.style", " ")],
    .environment "DD" [("DD_PROPAGATION_STYLE_INJECT", legacyText)]]

theorem lists_legacyText :
    Choice.Lists .commaOrBlank [LegacyStyle.b3, .haystack, .b3, .datadog] legacyText.toList := by
  have htext : legacyText.toList =
      [','] ++ ("B3".toList ++ ' ' :: ([] ++ ("haystack".toList ++ ',' ::
        (['\t'] ++ ("b3".toList ++ '\n' :: ([] ++ ("DataDog".toList ++ [' '] ))))))) := by
    decide +kernel
  rw [htext]
  refine .more (Text.forall_mem_of_all (by decide)) (by decide) rfl ?_
  refine .more (Text.forall_mem_of_all (by decide)) (by decide) rfl ?_
  refine .more (Text.forall_mem_of_all (by decide)) (by decide) rfl ?_
  exact .last (Text.forall_mem_of_all (by decide)) (by decide) (Text.forall_mem_of_all (by decide))

theorem onlyGiven_legacySources :
    OnlyGiven legacySources styles.keys (styles.deprecated.key .inject) legacyText where
  given := ⟨_, List.mem_cons_of_mem _ List.mem_cons_self, by decide +kernel⟩
  only := by decide +kernel

theorem reconcile_legacySources :
    Choice.Lists .commaOrBlank [LegacyStyle.b3, .haystack, .b3, .datadog] legacyText.toList ∧
      OnlyGiven legacySources styles.keys (styles.deprecated.key .inject) legacyText ∧
      styles.Converts .inject [.b3, .haystack, .b3, .datadog]
        (styles.reconcile (.ofSources legacySources)) :=
  ⟨lists_legacyText, onlyGiven_legacySources,
    reconcile_converts lists_legacyText onlyGiven_legacySources⟩

end Propagation

end TracerSettings
