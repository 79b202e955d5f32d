import TracerSettings.Config
import TracerSettings.Proofs.OrderedMap
import TracerSettings.Proofs.SplitSetting

namespace TracerSettings

section Parts

theorem Scalar.between_within {α : Type} {kind : Scalar α} {low high default : α}
    (hdefault : kind.between low high default = true) (setting : String) (value : α) :
    kind.between low high (kind.within setting low high default value).value = true := by
  unfold within
  split
  · assumption
  · exact hdefault

theorem Scalar.between_int64 {low high value : Int} :
    Scalar.int64.between low high value = true ↔ low ≤ value ∧ value ≤ high := by
  simp [between, int64, integer]

theorem StatusSet.exists_contains_read {fallback : StatusSet}
    (h : ∃ code, fallback.contains code = true) (raw : String) :
    ∃ code, (read raw fallback).value.contains code = true := by
  simp only [read]
  split
  · exact h
  case isFalse hread => simpa [isEmpty_iff] using hread

theorem Stack.exists_contains_statuses {default : StatusSet} (st : Stack)
    (h : ∃ code, default.contains code = true) (s : Setting) :
    ∃ code, (st.statuses s default).value.contains code = true := by
  rw [statuses, Noted.value_bind]
  cases (st.resolve s).value with
  | none => exact h
  | some hit => exact StatusSet.exists_contains_read h hit.value

end Parts

namespace SplitSetting

variable {Old New : Type} [DecidableEq Old] [DecidableEq New] [Choice Old] [Choice New]
  {setting : SplitSetting Old New}

theorem values_reconcile (hdefault : setting.defaultCurrent ≠ [] ∧ setting.defaultCurrent.Nodup)
    (st : Stack) (d : Direction) :
    ((setting.reconcile st).value.side d).values ≠ [] ∧
      ((setting.reconcile st).value.side d).values.Nodup := by
  rw [value_reconcile_side]
  exact values_settle (fun values => values ≠ [] ∧ values.Nodup) _
    (fun h => ⟨h, nodup_variants st _ _⟩) (fun h => ⟨h, nodup_variants st _ _⟩)
    (fun h => ⟨h, nodup_unique _⟩) hdefault

theorem legacy_reconcile (hdefault : setting.defaultLegacy ≠ [] ∧ setting.defaultLegacy.Nodup)
    (st : Stack) (d : Direction) :
    ((setting.reconcile st).value.side d).legacy ≠ [] ∧
      ((setting.reconcile st).value.side d).legacy.Nodup := by
  rw [value_reconcile_side, legacy_settle, orDefault]
  split
  · exact hdefault
  case isFalse h => exact ⟨by simpa using h, nodup_variants st _ _⟩

end SplitSetting

structure Agent.Coherent (a : Agent) : Prop where
  usesDefault : a.usesDefault = true →
    a.host = default.host ∧ a.port = default.port ∧ a.url = default.url ∧
      a.socket = default.socket ∧ a.pipe = default.pipe

namespace Agent

theorem isComplete_complete {e : Endpoint} (h : e.isComplete = true) (st : Stack) :
    (complete st e).value.isComplete = true := by
  unfold complete
  split
  · exact h
  case isFalse hsocket =>
    obtain ⟨hhost, hport⟩ : e.host.isSome = true ∧ e.port.isSome = true := by
      simpa [Endpoint.isComplete, hsocket] using h
    simp [Endpoint.isComplete, hhost, hport]

theorem coherent_resolveWith (readUrl : String → Except UrlError Url) (st : Stack) :
    (resolveWith readUrl st).value.Coherent := by
  constructor
  intro h
  simp only [resolveWith, Noted.value_bind, Noted.value_pure, Bool.and_eq_true,
    Option.isNone_iff_eq_none] at h ⊢
  obtain ⟨⟨⟨hhost, hport⟩, hsocket⟩, hpipe⟩ := h
  generalize hwritten : (writtenEndpoint readUrl (st.text? .agentUrl).value).value = written at *
  have hincomplete : written.isComplete = false := by
    rw [Bool.eq_false_iff]
    intro hcomplete
    have hendpoint := isComplete_complete hcomplete st
    simp [Endpoint.isComplete, hhost, hsocket] at hendpoint
  rw [hhost, hport, hsocket, hpipe, hincomplete]
  exact ⟨rfl, rfl, rfl, rfl, rfl⟩

end Agent

structure Service.Coherent (s : Service) : Prop where
  tags : s.tags.WellFormed
  serviceMapping : s.serviceMapping.WellFormed

namespace Service

theorem wellFormed_withTag {tags : OrderedMap} (h : tags.WellFormed) {s : Setting} (hs : s.key ≠ "")
    (value : Option String) : (withTag tags s value).WellFormed := by
  cases value with
  | none => exact h
  | some value => exact h.insert hs value

theorem coherent_resolve (st : Stack) : (resolve st).value.Coherent where
  tags := by
    have hglobal := st.wellFormed_mergedMap .globalTags
    have htags := hglobal.extend (st.wellFormed_mergedMap .traceTags)
    exact wellFormed_withTag (wellFormed_withTag htags (by decide) _) (by decide) _
  serviceMapping := st.wellFormed_mergedMap .serviceMapping

end Service

structure Propagation.Coherent (p : Propagation) : Prop where
  extract : p.extract ≠ [] ∧ p.extract.Nodup
  inject : p.inject ≠ [] ∧ p.inject.Nodup
  legacyExtract : p.legacyExtract ≠ [] ∧ p.legacyExtract.Nodup
  legacyInject : p.legacyInject ≠ [] ∧ p.legacyInject.Nodup

theorem Propagation.coherent_resolve (st : Stack) : (resolve st).value.Coherent where
  extract := SplitSetting.values_reconcile (by decide) st .extract
  inject := SplitSetting.values_reconcile (by decide) st .inject
  legacyExtract := SplitSetting.legacy_reconcile (by decide) st .extract
  legacyInject := SplitSetting.legacy_reconcile (by decide) st .inject

structure LongRunning.Coherent (l : LongRunning) : Prop where
  initialFlush : l.enabled = true → 10 ≤ l.initialFlush ∧ l.initialFlush ≤ 450
  flush : l.enabled = true → 20 ≤ l.flush ∧ l.flush ≤ 450

theorem LongRunning.coherent_resolve (st : Stack) : (resolve st).value.Coherent := by
  rw [resolve, Noted.value_bind]
  cases (st.switch .longRunning default.enabled).value with
  | false => exact ⟨fun h => absurd h Bool.false_ne_true, fun h => absurd h Bool.false_ne_true⟩
  | true =>
      exact ⟨fun _ => Scalar.between_int64.1 (Scalar.between_within (by decide) _ _),
        fun _ => Scalar.between_int64.1 (Scalar.between_within (by decide) _ _)⟩

structure HeaderTags.Coherent (h : HeaderTags) : Prop where
  legacy : h.legacyParsing = true → h.response = .empty
  request : h.request.WellFormed
  response : h.response.WellFormed

theorem HeaderTags.coherent_resolve (st : Stack) : (resolve st).value.Coherent := by
  rw [resolve, Noted.value_bind]
  split
  · exact ⟨fun _ => rfl, st.wellFormed_mergedMap _, OrderedMap.wellFormed_empty⟩
  · exact ⟨fun h => absurd h Bool.false_ne_true, st.wellFormed_mergedTags _ _,
      st.wellFormed_mergedTags _ _⟩

structure Trace.Coherent (t : Trace) : Prop where
  minSpans : t.partialFlush = false → t.partialFlushMinSpans = 0
  keepLatency : t.keepLatency = true ↔ t.partialFlush = false ∧ 0 < t.keepLatencyMillis
  longRunning : t.longRunning.Coherent
  headerTags : t.headerTags.Coherent
  baggageMapping : t.baggageMapping.WellFormed
  serverErrors : ∃ code, t.serverErrors.contains code = true
  clientErrors : ∃ code, t.clientErrors.contains code = true

theorem Trace.coherent_resolve (st : Stack) : (resolve st).value.Coherent := by
  have hlong := LongRunning.coherent_resolve st
  have hheaders := HeaderTags.coherent_resolve st
  have hbaggage := st.wellFormed_mergedTags baggageTags [.baggageMapping]
  have hserver := st.exists_contains_statuses
    (show ∃ code, default.serverErrors.contains code = true from ⟨500, by decide +kernel⟩)
    .serverErrorStatuses
  have hclient := st.exists_contains_statuses
    (show ∃ code, default.clientErrors.contains code = true from ⟨400, by decide +kernel⟩)
    .clientErrorStatuses
  rw [resolve, Noted.value_bind]
  -- Whether a number of spans is asked for at all depends on the first switch.
  cases (st.switch .partialFlush default.partialFlush).value with
  | true =>
      exact ⟨fun h => absurd h.symm Bool.false_ne_true,
        iff_of_false Bool.false_ne_true fun h => Bool.false_ne_true h.1.symm,
        hlong, hheaders, hbaggage, hserver, hclient⟩
  | false =>
      exact ⟨fun _ => rfl, decide_eq_true_iff.trans (and_iff_right rfl).symm,
        hlong, hheaders, hbaggage, hserver, hclient⟩

structure Profiling.Coherent (p : Profiling) : Prop where
  managed : p.enablement = .auto ∨ p.enablement = .injected →
    p.startDelaySeconds = default.startDelaySeconds ∧ p.startForceFirst = default.startForceFirst
  tags : p.tags.WellFormed

namespace Profiling

theorem value_managed {α : Type} [DecidableEq α] {mode : Enablement}
    (h : mode = .auto ∨ mode = .injected) (kind : Scalar α) (s : Setting) (default value : α) :
    (managed kind s mode default value).value = default := by
  have hmode : mode.isManaged = true := by rcases h with rfl | rfl <;> rfl
  rw [managed, hmode]
  split
  case isTrue hvalue => simpa using hvalue
  case isFalse => rfl

theorem coherent_resolve (st : Stack) : (resolve st).value.Coherent where
  managed h := ⟨value_managed h _ _ _ _, value_managed h _ _ _ _⟩
  tags := st.wellFormed_mergedMap .profilingTags

end Profiling

theorem RuntimeMetrics.enabled_of_jmxFetch {st : Stack} (h : (resolve st).value.jmxFetch = true) :
    (resolve st).value.enabled = true := by
  rw [resolve, Noted.value_bind] at h ⊢
  cases hon : (st.switch .runtimeMetrics default.enabled).value with
  | true => rfl
  | false =>
      rw [hon] at h
      exact absurd h Bool.false_ne_true

theorem LogSubmission.product_eq_iff {st : Stack} {ciVisibility : Bool} :
    (resolve st ciVisibility).value.product = "citest" ↔ ciVisibility = true := by
  cases ciVisibility
  · exact iff_of_false (show default.product ≠ "citest" by decide) Bool.false_ne_true
  · exact iff_of_true rfl rfl

/-- Everything in a configuration that goes together. -/
structure Config.Coherent (c : Config) : Prop where
  service : c.service.Coherent
  agent : c.agent.Coherent
  propagation : c.propagation.Coherent
  trace : c.trace.Coherent
  profiling : c.profiling.Coherent
  jmxFetch : c.runtimeMetrics.jmxFetch = true → c.runtimeMetrics.enabled = true
  product : c.logSubmission.product = "citest" ↔ c.ciVisibility.enabled = true
  apiKey : c.ciVisibility.enabled = true → c.ciVisibility.agentless = true →
    ∃ key, c.credentials.apiKey = some key ∧ key ≠ ""

namespace Config

theorem hasApiKey_iff {c : Config} :
    c.hasApiKey = true ↔ ∃ key, c.credentials.apiKey = some key ∧ key ≠ "" := by
  rw [hasApiKey]
  cases c.credentials.apiKey <;> simp

theorem coherent_resolve {readName : Url.Host.NameReader} {files : FileSystem} {st : Stack}
    (h : (resolve readName files st).value.ciVisibility.enabled = true →
      (resolve readName files st).value.ciVisibility.agentless = true →
        (resolve readName files st).value.hasApiKey = true) :
    (resolve readName files st).value.Coherent where
  service := Service.coherent_resolve st
  agent := Agent.coherent_resolveWith (Url.readWith readName) st
  propagation := Propagation.coherent_resolve st
  trace := Trace.coherent_resolve st
  profiling := Profiling.coherent_resolve st
  jmxFetch := RuntimeMetrics.enabled_of_jmxFetch
  product := LogSubmission.product_eq_iff
  apiKey henabled hagentless := hasApiKey_iff.1 (h henabled hagentless)

end Config

end TracerSettings
