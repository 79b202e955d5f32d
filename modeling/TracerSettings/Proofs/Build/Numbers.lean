import TracerSettings.Proofs.Build.Failure
import TracerSettings.Proofs.Config.Coherence
import TracerSettings.Proofs.Stack.Fallback

namespace TracerSettings

/-- How a number comes to be what it is, and what is reported on the way. -/
inductive Takes (sources : List Source) (s : Setting) (limits : Option IntegerRange)
    (default : Int) : Int → List Diagnostic → Prop
  | absent (h : ∀ source ∈ sources, source.Silent s.names) :
      Takes sources s limits default default []
  | used {place : Stack.Place} {hit : Hit} {i : Int}
      (h : (Stack.ofSources sources).HasFirst [] s.names place hit)
      (hi : IntegerRange.int64.Denotes hit.value i)
      (hin : ∀ range ∈ limits, range.least ≤ i ∧ i ≤ range.greatest) :
      Takes sources s limits default i []
  | outside {place : Stack.Place} {hit : Hit} {i : Int} {range : IntegerRange}
      (h : (Stack.ofSources sources).HasFirst [] s.names place hit)
      (hi : IntegerRange.int64.Denotes hit.value i) (hrange : range ∈ limits)
      (hout : i < range.least ∨ range.greatest < i) :
      Takes sources s limits default default
        [.outOfRange s.key (toString i) (toString range.least ++ "-" ++ toString range.greatest)
          (toString default)]
  | unread {place : Stack.Place} {hit : Hit} {reason : String}
      (h : (Stack.ofSources sources).HasFirst [] s.names place hit)
      (hnone : ∀ i, ¬IntegerRange.int64.Denotes hit.value i) :
      Takes sources s limits default default [.invalidValue s.key hit.value reason]

section Takes

variable {sources : List Source} {s : Setting} {limits : Option IntegerRange} {default value : Int}
  {ds : List Diagnostic}

theorem Takes.nodup (h : Takes sources s limits default value ds) : ds.Nodup := by
  cases h with
  | absent => exact List.nodup_nil
  | used => exact List.nodup_nil
  | outside => exact List.pairwise_singleton _ _
  | unread => exact List.pairwise_singleton _ _

theorem Takes.mem_range {range : IntegerRange} (h : Takes sources s (some range) default value ds)
    (hdefault : range.least ≤ default ∧ default ≤ range.greatest) :
    range.least ≤ value ∧ value ≤ range.greatest := by
  cases h with
  | absent => exact hdefault
  | used _ _ hin => exact hin range rfl
  | outside => exact hdefault
  | unread => exact hdefault

theorem takes_scalar (sources : List Source) (s : Setting) (default : Int) :
    Takes sources s none default ((Stack.ofSources sources).scalar .int64 s default).value
      (((Stack.ofSources sources).scalar .int64 s default).about s.key) := by
  generalize hst : Stack.ofSources sources = st
  cases hfind : st.find? s.names with
  | none =>
      rw [Stack.scalar, Stack.resolve_bind_of_none hfind]
      apply Takes.absent
      intro source hsource
      rw [← hst, Stack.find?_eq_none_iff] at hfind
      exact hfind source (Stack.mem_ofSources.2 hsource)
  | some hit =>
      obtain ⟨place, hfirst⟩ := Stack.find?_eq_some_iff.1 hfind
      rw [← hst] at hfirst
      have hdenotes {i : Int} : Scalar.int64.read hit.value = .ok i ↔
          IntegerRange.int64.Denotes hit.value i :=
        Scalar.read_integer_eq_ok_iff (by decide) (by decide)
      have hresolve : st.resolve s = ⟨some hit, [.collect s.key hit.value hit.origin]⟩ := by
        rw [Stack.resolve, hfind]
        rfl
      cases hread : Scalar.int64.read hit.value with
      | ok i =>
          have hscalar : st.scalar .int64 s default =
              ⟨i, [.collect s.key hit.value hit.origin]⟩ := by
            apply Noted.ext <;> simp [Stack.scalar, hresolve, hread]
          rw [hscalar]
          exact .used hfirst (hdenotes.1 hread) fun range hrange =>
            absurd hrange (Option.not_mem_none range)
      | error reason =>
          have hscalar : st.scalar .int64 s default = ⟨default,
              [.collect s.key hit.value hit.origin,
                .report (.invalidValue s.key hit.value reason)]⟩ := by
            apply Noted.ext <;> simp [Stack.scalar, hresolve, hread, report]
          rw [hscalar, Noted.about_collect_cons, Noted.about_report]
          · apply Takes.unread hfirst
            intro i hi
            cases hread.symm.trans (hdenotes.2 hi)
          · rfl

theorem Scalar.within_of_mem {low high : Int} (h : low ≤ value ∧ value ≤ high) (key : String)
    (default : Int) : int64.within key low high default value = pure value := by
  rw [within, if_pos (between_int64.2 h)]

theorem Scalar.within_of_not_mem {low high : Int} (h : ¬(low ≤ value ∧ value ≤ high)) (key : String)
    (default : Int) :
    int64.within key low high default value = ⟨default, [.report (.outOfRange key (toString value)
      (toString low ++ "-" ++ toString high) (toString default))]⟩ := by
  rw [within, if_neg (mt between_int64.1 h)]
  rfl

theorem Takes.within {range : IntegerRange} (h : Takes sources s none default value ds)
    (hdefault : range.least ≤ default ∧ default ≤ range.greatest) :
    Takes sources s (some range) default
      (Scalar.int64.within s.key range.least range.greatest default value).value
      (ds ++ (Scalar.int64.within s.key range.least range.greatest default value).about s.key) := by
  cases h with
  | absent h =>
      rw [Scalar.within_of_mem hdefault]
      exact .absent h
  | @used place hit i h hi _ =>
      by_cases hin : range.least ≤ value ∧ value ≤ range.greatest
      · rw [Scalar.within_of_mem hin]
        exact .used h hi fun _ hrange => Option.some.inj hrange ▸ hin
      · have hout : value < range.least ∨ range.greatest < value := by omega
        rw [Scalar.within_of_not_mem hin, Noted.about_report]
        · exact .outside h hi rfl hout
        · rfl
  | outside _ _ hrange _ => cases hrange
  | unread h hnone =>
      rw [Scalar.within_of_mem hdefault]
      exact .unread h hnone

def Scalar.held (counts : Bool) (key : String) (range : IntegerRange) (default value : Int) :
    Noted Int :=
  if counts then int64.within key range.least range.greatest default value else pure value

theorem Takes.held {range : IntegerRange} (h : Takes sources s none default value ds)
    (hdefault : range.least ≤ default ∧ default ≤ range.greatest) (counts : Bool) :
    Takes sources s (if counts then some range else none) default
      (Scalar.held counts s.key range default value).value
      (ds ++ (Scalar.held counts s.key range default value).about s.key) := by
  cases counts with
  | false =>
      have hnothing : ds ++ (Scalar.held false s.key range default value).about s.key = ds :=
        List.append_nil ds
      rw [hnothing]
      exact h
  | true => exact h.within hdefault

variable {key : String} in
theorem Scalar.about_held_of_notMem (hkey : key ∉ s.names) (counts : Bool) (range : IntegerRange)
    (default value : Int) : (held counts s.key range default value).about key = [] := by
  rw [held, Noted.about_ite, Noted.about_pure]
  have hwithin := (within_reportsOn (List.mem_singleton_self s) int64 range.least range.greatest
    default value).about_eq_nil (List.forall_mem_singleton.2 hkey)
  rw [hwithin, ite_self]

end Takes

section Sections

variable {readName : Url.Host.NameReader} {st : Stack} {key : String}

namespace Agent

theorem about_resolve (hkey : ∀ s ∈ [Setting.agentUrl, .agentPort], key ∉ s.names) :
    (resolve readName st).about key = (resolveTimeout st).about key := by
  have hwritten (raw : Option String) :
      (writtenEndpoint (Url.readWith readName) raw).about key = [] :=
    (writtenEndpoint_reportsOn List.mem_cons_self (Url.readWith readName) raw).about_eq_nil hkey
  have hcomplete (e : Endpoint) : (complete st e).about key = [] :=
    (complete_reportsOn st (List.mem_cons_of_mem _ List.mem_cons_self) e).about_eq_nil hkey
  have htext (s : Setting) : (st.text? s).about key = [] :=
    (st.text?_reportsOn s).about_eq_nil hkey
  simp only [resolve, resolveWith, Noted.about_bind, hwritten, hcomplete, htext, Noted.about_pure,
    List.nil_append, List.append_nil]

theorem takes_resolveTimeout (sources : List Source) :
    Takes sources .agentTimeout (some ⟨0, 4294967295⟩) default.timeoutSeconds
      (resolveTimeout (.ofSources sources)).value
      ((resolveTimeout (.ofSources sources)).about Setting.agentTimeout.key) := by
  have hdefault : (0 : Int) ≤ default.timeoutSeconds ∧
      (default.timeoutSeconds : Int) ≤ 4294967295 := by
    decide
  have htakes : Takes sources .agentTimeout (some ⟨0, 4294967295⟩) default.timeoutSeconds _ _ :=
    (takes_scalar sources .agentTimeout default.timeoutSeconds).within hdefault
  have hrange := htakes.mem_range hdefault
  have hnarrow {i : Int} (hi : 0 ≤ i ∧ i ≤ 4294967295) :
      ((if IntegerRange.word32.contains i then i.toNat else default.timeoutSeconds : Nat) : Int) =
        i := by
    have hcontains : IntegerRange.word32.contains i = true :=
      Bool.and_eq_true_iff.2 ⟨decide_eq_true hi.1, decide_eq_true hi.2⟩
    rw [if_pos hcontains, Int.toNat_of_nonneg hi.1]
  rw [← hnarrow hrange] at htakes
  rw [resolveTimeout, Noted.about_bind, Noted.about_bind, Noted.about_pure, List.append_nil]
  exact htakes

end Agent

namespace LongRunning

variable (st) in
theorem value_resolve :
    (resolve st).value =
      ⟨(st.switch .longRunning default.enabled).value,
        (Scalar.held (st.switch .longRunning default.enabled).value
          Setting.longRunningInitialFlush.key ⟨10, 450⟩ default.initialFlush
          (st.scalar .int64 .longRunningInitialFlush default.initialFlush).value).value,
        (Scalar.held (st.switch .longRunning default.enabled).value
          Setting.longRunningFlush.key ⟨20, 450⟩ default.flush
          (st.scalar .int64 .longRunningFlush default.flush).value).value⟩ := by
  simp only [resolve, Noted.value_bind]
  cases (st.switch .longRunning default.enabled).value <;> rfl

theorem about_resolve (hkey : key ∉ Setting.longRunning.names) :
    (resolve st).about key =
      (st.scalar .int64 .longRunningInitialFlush default.initialFlush).about key ++
        ((st.scalar .int64 .longRunningFlush default.flush).about key ++
          ((Scalar.held (st.switch .longRunning default.enabled).value
            Setting.longRunningInitialFlush.key ⟨10, 450⟩ default.initialFlush
            (st.scalar .int64 .longRunningInitialFlush default.initialFlush).value).about key ++
          (Scalar.held (st.switch .longRunning default.enabled).value
            Setting.longRunningFlush.key ⟨20, 450⟩ default.flush
            (st.scalar .int64 .longRunningFlush default.flush).value).about key)) := by
  simp only [resolve, Noted.about_bind, st.about_switch_of_notMem hkey, List.nil_append]
  cases (st.switch .longRunning default.enabled).value with
  | false => rfl
  | true =>
      simp only [Bool.not_true, Bool.false_eq_true, if_false, Noted.about_bind, Noted.about_pure,
        List.append_nil]
      rfl

theorem takes_initialFlush (sources : List Source) :
    Takes sources .longRunningInitialFlush
      (if (resolve (.ofSources sources)).value.enabled then some ⟨10, 450⟩ else none)
      default.initialFlush (resolve (.ofSources sources)).value.initialFlush
      ((resolve (.ofSources sources)).about Setting.longRunningInitialFlush.key) := by
  have hflush : Setting.longRunningInitialFlush.key ∉ Setting.longRunningFlush.names := by decide
  rw [value_resolve, about_resolve (by decide), Stack.about_scalar_of_notMem hflush,
    Scalar.about_held_of_notMem hflush, List.append_nil, List.nil_append]
  exact (takes_scalar sources .longRunningInitialFlush default.initialFlush).held (by decide) _

theorem takes_flush (sources : List Source) :
    Takes sources .longRunningFlush
      (if (resolve (.ofSources sources)).value.enabled then some ⟨20, 450⟩ else none)
      default.flush (resolve (.ofSources sources)).value.flush
      ((resolve (.ofSources sources)).about Setting.longRunningFlush.key) := by
  have hinitial : Setting.longRunningFlush.key ∉ Setting.longRunningInitialFlush.names := by decide
  rw [value_resolve, about_resolve (by decide), Stack.about_scalar_of_notMem hinitial,
    Scalar.about_held_of_notMem hinitial, List.nil_append, List.nil_append]
  exact (takes_scalar sources .longRunningFlush default.flush).held (by decide) _

end LongRunning

namespace Trace

def own : List Setting :=
  [.partialFlush, .partialFlushMinSpans, .keepLatency, .flushInterval, .traceEnabled,
    .wideTraceIds, .baggageMapping, .serverErrorStatuses, .clientErrorStatuses, .noProxy]

theorem about_resolve
    (hkey : ∀ s ∈ own ++ HeaderTags.reads ++ IdGeneration.reads, key ∉ s.names) :
    (resolve st).about key = (LongRunning.resolve st).about key := by
  simp only [List.forall_mem_append] at hkey
  obtain ⟨⟨hown, hheaders⟩, hids⟩ := hkey
  simp only [own, List.forall_mem_cons] at hown
  have hflush (default value : Binary) :
      (Scalar.positive Setting.flushInterval.key default value).about key = [] :=
    Scalar.about_positive_of_notMem hown.2.2.2.1 default value
  simp only [resolve, Noted.about_bind, Noted.about_pure, Noted.about_ite, ite_self,
    Stack.about_switch_of_notMem, Stack.about_scalar_of_notMem, Stack.about_statuses_of_notMem,
    Stack.about_mergedTags_of_notMem, Stack.about_list, hflush,
    (HeaderTags.resolve_reportsOn st).about_eq_nil hheaders,
    (IdGeneration.resolve_reportsOn st).about_eq_nil hids, hown, not_false_eq_true,
    List.nil_append, List.append_nil]

theorem value_longRunning (st : Stack) :
    (resolve st).value.longRunning = (LongRunning.resolve st).value := by
  simp only [resolve, Noted.value_bind]
  split <;> rfl

end Trace

namespace Config

theorem about_resolve {files : FileSystem}
    (hkey : ∀ s ∈ CiVisibility.reads ++ Service.reads ++ Credentials.reads ++ Propagation.reads ++
      Profiling.reads ++ Telemetry.reads ++ RuntimeMetrics.reads ++ LogSubmission.reads,
      key ∉ s.names) :
    (resolve readName files st).about key =
      (Agent.resolve readName st).about key ++ (Trace.resolve st).about key := by
  simp only [List.forall_mem_append] at hkey
  obtain ⟨⟨⟨⟨⟨⟨⟨hvisibility, hservice⟩, hcredentials⟩, hpropagation⟩, hprofiling⟩, htelemetry⟩,
    hmetrics⟩, hlogs⟩ := hkey
  simp only [resolve, Noted.about_bind, Noted.about_pure,
    (CiVisibility.resolve_reportsOn st).about_eq_nil hvisibility,
    (Service.resolve_reportsOn st).about_eq_nil hservice,
    (Credentials.resolve_reportsOn st files).about_eq_nil hcredentials,
    (Propagation.resolve_reportsOn st).about_eq_nil hpropagation,
    (Profiling.resolve_reportsOn st).about_eq_nil hprofiling,
    (Telemetry.resolve_reportsOn st).about_eq_nil htelemetry,
    (RuntimeMetrics.resolve_reportsOn st).about_eq_nil hmetrics,
    (LogSubmission.resolve_reportsOn st _).about_eq_nil hlogs, List.nil_append, List.append_nil]

theorem about_resolve_of_trace {files : FileSystem}
    (hkey : ∀ s ∈ CiVisibility.reads ++ Service.reads ++ Credentials.reads ++ Propagation.reads ++
      Profiling.reads ++ Telemetry.reads ++ RuntimeMetrics.reads ++ LogSubmission.reads,
      key ∉ s.names)
    (hagent : ∀ s ∈ Agent.reads, key ∉ s.names)
    (htrace : ∀ s ∈ Trace.own ++ HeaderTags.reads ++ IdGeneration.reads, key ∉ s.names) :
    (resolve readName files st).about key = (LongRunning.resolve st).about key := by
  rw [about_resolve hkey, (Agent.resolve_reportsOn st).about_eq_nil hagent, List.nil_append,
    Trace.about_resolve htrace]

end Config

end Sections

namespace Build

variable {readName : Url.Host.NameReader} {files : FileSystem} {sources : List Source}
  {before : Journal} {r : Resolved}

/-- The numbers with limits of a build, and all that it reports on their settings. The limits of
reports on long traces hold only where these are on. -/
structure TakesNumbers (sources : List Source) (r : Resolved) : Prop where
  timeout : Takes sources .agentTimeout (some ⟨0, 4294967295⟩) Agent.default.timeoutSeconds
    r.config.agent.timeoutSeconds
    (r.diagnostics.filter fun d => d.setting = Setting.agentTimeout.key)
  initialFlush : Takes sources .longRunningInitialFlush
    (if r.config.trace.longRunning.enabled then some ⟨10, 450⟩ else none)
    LongRunning.default.initialFlush r.config.trace.longRunning.initialFlush
    (r.diagnostics.filter fun d => d.setting = Setting.longRunningInitialFlush.key)
  flush : Takes sources .longRunningFlush
    (if r.config.trace.longRunning.enabled then some ⟨20, 450⟩ else none)
    LongRunning.default.flush r.config.trace.longRunning.flush
    (r.diagnostics.filter fun d => d.setting = Setting.longRunningFlush.key)

theorem about_check {key : String} (hkey : key ≠ Setting.profilingAgentless.key) (c : Config) :
    c.check.about key = [] := by
  rw [Noted.about, Config.reports_check]
  split
  · apply List.filter_cons_of_neg
    rw [decide_eq_true_eq]
    exact hkey.symm
  · rfl

theorem filter_diagnostics {key : String} (hkey : key ≠ Setting.profilingAgentless.key)
    (hfresh : before.diagnostics = [])
    (h : (ofSources readName files sources before).result = .ok r) :
    (r.diagnostics.filter fun d => d.setting = key) =
      unique ((Config.resolve readName files (.ofSources sources)).about key) := by
  obtain ⟨c, rfl⟩ := exists_eq_resolvedIn h
  have hdiagnostics : (ofSources readName files sources before).journal.diagnostics =
      unique (reports (configOf readName files sources).notes) := by
    rw [journal_ofSources, Journal.diagnostics_absorb, Journal.log_eq_firsts, hfresh,
      List.nil_append, unique_eq_firsts]
  have habout : (configOf readName files sources).about key =
      (Config.resolve readName files (.ofSources sources)).about key := by
    rw [configOf, Noted.about_bind, about_check hkey, List.append_nil]
  rw [← habout, Noted.about, ← filter_unique, ← hdiagnostics]
  rfl

theorem longRunning_of_result (h : (ofSources readName files sources before).result = .ok r) :
    r.config.trace.longRunning = (LongRunning.resolve (.ofSources sources)).value := by
  rw [config_eq_resolve h, ← Trace.value_longRunning]
  rfl

theorem takesNumbers (hfresh : before.diagnostics = [])
    (h : (ofSources readName files sources before).result = .ok r) : TakesNumbers sources r := by
  have hconfig := config_eq_resolve h
  have hlong := longRunning_of_result h
  constructor
  case timeout =>
    have htakes := Agent.takes_resolveTimeout sources
    have htrace : (Trace.resolve (.ofSources sources)).about Setting.agentTimeout.key = [] :=
      (Trace.resolve_reportsOn _).about_eq_nil (by decide +kernel)
    rw [filter_diagnostics (by decide) hfresh h, Config.about_resolve (by decide +kernel), htrace,
      List.append_nil, Agent.about_resolve (by decide), unique_of_nodup htakes.nodup, hconfig]
    exact htakes
  case initialFlush =>
    have htakes := LongRunning.takes_initialFlush sources
    rw [filter_diagnostics (by decide) hfresh h, Config.about_resolve_of_trace (by decide +kernel)
      (by decide) (by decide +kernel), unique_of_nodup htakes.nodup, hlong]
    exact htakes
  case flush =>
    have htakes := LongRunning.takes_flush sources
    rw [filter_diagnostics (by decide) hfresh h, Config.about_resolve_of_trace (by decide +kernel)
      (by decide) (by decide +kernel), unique_of_nodup htakes.nodup, hlong]
    exact htakes

def unlimited : List Source :=
  [.environment "DD" [("DD_TRACE_AGENT_TIMEOUT", "30"),
      ("DD_TRACE_EXPERIMENTAL_LONG_RUNNING_INITIAL_FLUSH_INTERVAL", "0450")],
    .pairs .override [("trace.agent.timeout", "4294967296"),
      ("trace.experimental.long-running.enabled", "1"),
      ("trace.experimental.long-running.initial.flush.interval", "+9"),
      ("trace.experimental.long-running.flush.interval", "9223372036854775808")]]

theorem takesNumbers_unlimited : ∃ r,
    Journal.empty.diagnostics = [] ∧
      (ofSources Url.Host.readName (FileTree.directory []).fileSystem unlimited
        .empty).result = .ok r ∧
      TakesNumbers unlimited r ∧ r.config.agent.timeoutSeconds = 10 ∧
      r.config.trace.longRunning = ⟨true, 20, 120⟩ := by
  have hunset : (Stack.ofSources unlimited).find? Setting.ciVisibility.names = none := by
    rw [Stack.ofSources_eq]
    decide +kernel
  obtain ⟨r, h⟩ := exists_result_of_find?_eq_none hunset Url.Host.readName
    (FileTree.directory []).fileSystem .empty
  refine ⟨r, rfl, h, takesNumbers rfl h, ?_, ?_⟩
  · have htimeout : r.config.agent.timeoutSeconds =
        (Agent.resolveTimeout (.ofSources unlimited)).value := by
      rw [config_eq_resolve h]
      rfl
    rw [htimeout, Stack.ofSources_eq]
    decide +kernel
  · rw [longRunning_of_result h, Stack.ofSources_eq]
    decide +kernel

end Build

end TracerSettings
