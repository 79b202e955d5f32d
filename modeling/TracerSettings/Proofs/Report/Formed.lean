import TracerSettings.Proofs.Agent.NamedUrl
import TracerSettings.Proofs.Config.Coherence
import TracerSettings.Proofs.Number.Canonical
import TracerSettings.Proofs.Toml.Document
import TracerSettings.Report

namespace TracerSettings

section Values

variable {α : Type} {P : α → Prop} {kind : Scalar α} {default value : α}

theorem Stack.value_scalar_of (st : Stack) (s : Setting) (hdefault : P default)
    (hread : ∀ {text value}, kind.read text = .ok value → P value) :
    P (st.scalar kind s default).value := by
  rw [scalar, Noted.value_bind]
  cases (st.resolve s).value with
  | none => exact hdefault
  | some hit =>
      dsimp only
      cases h : kind.read hit.value with
      | error reason => exact hdefault
      | ok value => exact hread h

theorem Scalar.value_within_of (setting : String) (low high : α) (hdefault : P default)
    (hvalue : P value) : P (kind.within setting low high default value).value := by
  rw [within]
  split
  · exact hvalue
  · exact hdefault

theorem Scalar.value_positive_of {P : Binary → Prop} {default value : Binary} (setting : String)
    (hdefault : P default) (hvalue : P value) : P (positive setting default value).value := by
  rw [positive]
  split
  · exact hvalue
  · exact hdefault

theorem Profiling.value_managed_of [DecidableEq α] (s : Setting) (mode : Enablement)
    (hdefault : P default) (hvalue : P value) : P (managed kind s mode default value).value := by
  rw [managed]
  split
  · exact hvalue
  · exact hdefault

theorem IntegerRange.contains_iff {range : IntegerRange} {n : Int} :
    range.contains n = true ↔ range.least ≤ n ∧ n ≤ range.greatest := by
  simp [contains]

theorem IntegerRange.contains_of_read {range : IntegerRange} (hleast : range.least ≤ 0)
    (hgreatest : 0 ≤ range.greatest) {text : String} {n : Int}
    (h : (Scalar.integer range).read text = .ok n) : range.contains n = true := by
  rw [Scalar.integer] at h
  cases hread : range.read text with
  | error e => simp [hread, Except.mapError] at h
  | ok m =>
      obtain rfl : m = n := by simpa [hread, Except.mapError] using h
      exact contains_iff.2 ((read_eq_ok_iff hleast hgreatest).1 hread).2

theorem Binary.isNumber_of_read {f : Format} (hpos : 0 < f.precision) {text : String} {x : Binary}
    (h : (Scalar.real f).read text = .ok x) : IsNumber f x := by
  rw [Scalar.real] at h
  cases hread : Binary.read f text with
  | error e => simp [hread, Except.mapError] at h
  | ok y =>
      obtain rfl : y = x := by simpa [hread, Except.mapError] using h
      exact isNumber_read hpos hread

end Values

/-- What can be shown in a report at a given depth. -/
inductive Shape.Formed : Nat → Shape → Prop
  | text {depth : Nat} (s : String) : Formed depth (.text s)
  | optional {depth : Nat} (s : Option String) : Formed depth (.optional s)
  | integer {depth : Nat} {n : Int} (h : IntegerRange.int64.contains n = true) :
      Formed depth (.integer n)
  | single {depth : Nat} {x : Binary} (h : x.IsNumber .single) : Formed depth (.single x)
  | boolean {depth : Nat} (b : Bool) : Formed depth (.boolean b)
  | texts {depth : Nat} (values : List String) : Formed depth (.texts values)
  | table {depth : Nat} {fields : List (String × Shape)} (hkeys : (fields.map Prod.fst).Nodup)
      (h : ∀ field ∈ fields, Formed depth field.2) : Formed (depth + 1) (.table fields)

namespace Shape

theorem formed_ofMap (depth : Nat) {m : OrderedMap} (h : m.WellFormed) :
    (ofMap m).Formed (depth + 1) := by
  refine .table ?_ ?_
  · rw [List.map_map]
    exact h.nodup
  · simp only [List.forall_mem_map]
    exact fun entry _ => .text entry.2

theorem formed_ofOutcome (depth : Nat) (o : Outcome) : (ofOutcome o).Formed (depth + 1) := by
  rw [ofOutcome]
  cases o.key? with
  | none => exact .table (by simp) (by simpa using .text _)
  | some key => exact .table (by simp) (by simpa using ⟨.text _, .text _⟩)

theorem toEntries_eq (fields : List (String × Shape)) :
    toEntries fields = fields.filterMap fun field => field.2.toToml?.map (Prod.mk field.1) := by
  induction fields with
  | nil => rfl
  | cons field rest ih =>
      obtain ⟨key, shape⟩ := field
      rw [toEntries, List.filterMap_cons, ih]
      cases shape.toToml? <;> rfl

theorem mem_toEntries {fields : List (String × Shape)} {key : String} {v : Toml.Value} :
    (key, v) ∈ toEntries fields ↔ ∃ shape, (key, shape) ∈ fields ∧ shape.toToml? = some v := by
  rw [toEntries_eq, List.mem_filterMap]
  constructor
  · rintro ⟨⟨k, shape⟩, hmem, hv⟩
    obtain ⟨w, hw, heq⟩ := Option.map_eq_some_iff.1 hv
    obtain ⟨rfl, rfl⟩ := Prod.mk.inj heq
    exact ⟨shape, hmem, hw⟩
  · rintro ⟨shape, hmem, hv⟩
    exact ⟨(key, shape), hmem, by rw [hv]; rfl⟩

theorem nodup_toEntries {fields : List (String × Shape)} (h : (fields.map Prod.fst).Nodup) :
    ((toEntries fields).map Prod.fst).Nodup := by
  induction fields with
  | nil => exact List.nodup_nil
  | cons field rest ih =>
      obtain ⟨key, shape⟩ := field
      obtain ⟨hkey, hrest⟩ := List.nodup_cons.1 h
      rw [toEntries]
      cases shape.toToml? with
      | none => exact ih hrest
      | some v =>
          refine List.nodup_cons.2 ⟨fun hmem => hkey ?_, ih hrest⟩
          obtain ⟨⟨k, w⟩, hentry, rfl⟩ := List.mem_map.1 hmem
          obtain ⟨shape', hfield, -⟩ := mem_toEntries.1 hentry
          exact List.mem_map.2 ⟨_, hfield, rfl⟩

theorem Formed.toToml? {depth : Nat} {shape : Shape} (h : shape.Formed depth) {v : Toml.Value}
    (hv : shape.toToml? = some v) : v.Formed depth := by
  induction h generalizing v with
  | text s =>
      cases hv
      exact .plain (.text s)
  | optional s =>
      obtain ⟨s, -, rfl⟩ := Option.map_eq_some_iff.1 hv
      exact .plain (.text s)
  | integer h =>
      cases hv
      exact .plain (.integer h)
  | single h =>
      cases hv
      exact .plain (.real (h.widen Format.double_widens_single))
  | boolean b =>
      cases hv
      exact .plain (.boolean b)
  | texts values =>
      cases hv
      exact .plain (.texts values)
  | table hkeys _ ih =>
      cases hv
      refine .table (nodup_toEntries hkeys) fun entry hentry => ?_
      obtain ⟨shape, hfield, hv⟩ := mem_toEntries.1 hentry
      exact ih _ hfield hv

end Shape

theorem IntegerRange.int64_of_int32 {n : Int} (h : int32.contains n = true) :
    int64.contains n = true := by
  rw [contains_iff] at h ⊢
  simp only [int32, int64] at h ⊢
  omega

namespace Stack

variable (st : Stack) (s : Setting) (default : Int)

theorem int64_scalar (h : IntegerRange.int64.contains default = true) :
    IntegerRange.int64.contains (st.scalar .int64 s default).value = true :=
  st.value_scalar_of (P := fun n => IntegerRange.int64.contains n = true) s h
    (IntegerRange.contains_of_read (by decide) (by decide))

theorem int64_scalar_int32 (h : IntegerRange.int32.contains default = true) :
    IntegerRange.int64.contains (st.scalar .int32 s default).value = true :=
  IntegerRange.int64_of_int32
    (st.value_scalar_of (P := fun n => IntegerRange.int32.contains n = true) s h
      (IntegerRange.contains_of_read (by decide) (by decide)))

end Stack

theorem Service.formed_shape (st : Stack) : (resolve st).value.shape.Formed 2 := by
  have h := coherent_resolve st
  refine .table (by simp) ?_
  simp only [List.forall_mem_cons]
  exact ⟨.text _, .boolean _, .optional _, .optional _, .text _, Shape.formed_ofMap _ h.tags,
    Shape.formed_ofMap _ h.serviceMapping, .texts _, by simp⟩

namespace Agent

theorem port_resolve_le (readName : Url.Host.NameReader) (st : Stack) :
    (resolve readName st).value.port ≤ 65535 := by
  by_cases hsocket : ∃ path, UrlSocket (Url.readWith readName) st path
  · obtain ⟨path, hsocket⟩ := hsocket
    show (resolveWith (Url.readWith readName) st).value.port ≤ 65535
    rw [port_resolveWith, completed_of_socket hsocket]
    cases hport : (written (Url.readWith readName) st).port with
    | none => decide
    | some port => exact urlPort_le (port_written_eq_some_iff.1 hport)
  · exact port_resolveWith_le (not_exists.1 hsocket)

theorem timeout_resolve (readName : Url.Host.NameReader) (st : Stack) :
    IntegerRange.int64.contains (resolve readName st).value.timeoutSeconds = true := by
  show IntegerRange.int64.contains ((resolveTimeout st).value : Nat) = true
  rw [resolveTimeout]
  simp only [Noted.value_bind, Noted.value_pure]
  split
  case isTrue h =>
    rw [IntegerRange.contains_iff] at h ⊢
    simp only [IntegerRange.int64, IntegerRange.word32] at h ⊢
    omega
  case isFalse => decide

theorem formed_shape (readName : Url.Host.NameReader) (st : Stack) :
    (resolve readName st).value.shape.Formed 2 := by
  have hport := port_resolve_le readName st
  refine .table (by simp) ?_
  simp only [List.forall_mem_cons]
  have hint : IntegerRange.int64.contains (resolve readName st).value.port = true := by
    rw [IntegerRange.contains_iff]
    simp only [IntegerRange.int64]
    omega
  exact ⟨.text _, .integer hint, .text _, .optional _, .optional _,
    .integer (timeout_resolve readName st), .boolean _, by simp⟩

end Agent

theorem Credentials.formed_shape (c : Credentials) : c.shape.Formed 2 := by
  refine .table (by simp) ?_
  simp only [List.forall_mem_cons]
  exact ⟨.optional _, .optional _, by simp⟩

theorem Propagation.formed_shape (p : Propagation) : p.shape.Formed 2 := by
  refine .table (by simp) ?_
  simp only [List.forall_mem_cons]
  exact ⟨.texts _, .texts _, .texts _, .texts _, .boolean _, .boolean _,
    Shape.formed_ofOutcome _ _, Shape.formed_ofOutcome _ _, by simp⟩

namespace LongRunning

theorem formed_shape (st : Stack) : (resolve st).value.shape.Formed 1 := by
  have hinitial := st.int64_scalar .longRunningInitialFlush default.initialFlush (by decide)
  have hflush := st.int64_scalar .longRunningFlush default.flush (by decide)
  have hnumbers : IntegerRange.int64.contains (resolve st).value.initialFlush = true ∧
      IntegerRange.int64.contains (resolve st).value.flush = true := by
    rw [resolve, Noted.value_bind]
    cases (st.switch .longRunning default.enabled).value with
    | false => exact ⟨hinitial, hflush⟩
    | true =>
        exact ⟨Scalar.value_within_of (P := fun n => IntegerRange.int64.contains n = true) _ _ _
            (by decide) hinitial,
          Scalar.value_within_of (P := fun n => IntegerRange.int64.contains n = true) _ _ _
            (by decide) hflush⟩
  refine .table (by simp) ?_
  simp only [List.forall_mem_cons]
  exact ⟨.boolean _, .integer hnumbers.1, .integer hnumbers.2, by simp⟩

end LongRunning

namespace Trace

theorem formed_shape_of {t : Trace} (h : t.Coherent)
    (hspans : IntegerRange.int64.contains t.partialFlushMinSpans = true)
    (hmillis : IntegerRange.int64.contains t.keepLatencyMillis = true)
    (hseconds : t.flushSeconds.IsNumber .single) (hlong : t.longRunning.shape.Formed 1) :
    t.shape.Formed 2 := by
  refine .table (by simp) ?_
  simp only [List.forall_mem_cons]
  exact ⟨.boolean _, .text _, .boolean _, .boolean _, .integer hspans, .integer hmillis,
    .boolean _, .single hseconds, hlong, .boolean _, Shape.formed_ofMap _ h.headerTags.request,
    Shape.formed_ofMap _ h.headerTags.response, Shape.formed_ofMap _ h.baggageMapping, .text _,
    .text _, .texts _, by simp⟩

theorem formed_shape (st : Stack) : (resolve st).value.shape.Formed 2 := by
  have hcoherent := coherent_resolve st
  have hlong := LongRunning.formed_shape st
  have hspans := st.int64_scalar_int32 .partialFlushMinSpans default.partialFlushMinSpans
    (by decide)
  have hmillis := st.int64_scalar_int32 .keepLatency default.keepLatencyMillis (by decide)
  have hdefault : default.flushSeconds.IsNumber .single :=
    .nonzero ⟨by decide, by decide, by decide, by decide⟩
  have hseconds := Scalar.value_positive_of Setting.flushInterval.key hdefault
    (st.value_scalar_of .flushInterval hdefault (Binary.isNumber_of_read (by decide)))
  rw [resolve, Noted.value_bind] at hcoherent ⊢
  -- Without partial flushes the number of spans is zero and not asked for.
  cases hflush : (st.switch .partialFlush default.partialFlush).value with
  | true =>
      rw [hflush] at hcoherent
      exact formed_shape_of hcoherent hspans hmillis hseconds hlong
  | false =>
      rw [hflush] at hcoherent
      have hzero : IntegerRange.int64.contains 0 = true := by decide
      exact formed_shape_of hcoherent hzero hmillis hseconds hlong

end Trace

theorem Profiling.formed_shape (st : Stack) : (resolve st).value.shape.Formed 2 := by
  have hdelay := st.int64_scalar_int32 .profilingStartDelay default.startDelaySeconds
    (by decide)
  have htags := (coherent_resolve st).tags
  refine .table (by simp) ?_
  simp only [List.forall_mem_cons]
  exact ⟨.text _, .boolean _,
    .integer (value_managed_of (P := fun n => IntegerRange.int64.contains n = true) _ _
      (by decide) hdelay), .boolean _, Shape.formed_ofMap _ htags, .optional _, by simp⟩

namespace Telemetry

theorem isNumber_resolvePeriod (st : Stack) (s : Setting) {default : Binary}
    (h : default.IsNumber .single) : (resolvePeriod st s default).value.IsNumber .single :=
  Scalar.value_within_of _ _ _ h
    (st.value_scalar_of s h (Binary.isNumber_of_read (by decide)))

theorem formed_shape (st : Stack) : (resolve st).value.shape.Formed 2 := by
  refine .table (by simp) ?_
  simp only [List.forall_mem_cons]
  refine ⟨.boolean _, .single (isNumber_resolvePeriod st _ ?_),
    .single (isNumber_resolvePeriod st _ ?_), .integer (st.int64_scalar _ _ (by decide)), by simp⟩
  · exact .nonzero ⟨by decide, by decide, by decide, by decide⟩
  · exact .nonzero ⟨by decide, by decide, by decide, by decide⟩

end Telemetry

theorem RuntimeMetrics.formed_shape (r : RuntimeMetrics) : r.shape.Formed 2 := by
  refine .table (by simp) ?_
  simp only [List.forall_mem_cons]
  exact ⟨.boolean _, .boolean _, by simp⟩

theorem CiVisibility.formed_shape (c : CiVisibility) : c.shape.Formed 2 := by
  refine .table (by simp) ?_
  simp only [List.forall_mem_cons]
  exact ⟨.boolean _, .boolean _, .optional _, by simp⟩

theorem LogSubmission.formed_shape (st : Stack) (ciVisibility : Bool) :
    (resolve st ciVisibility).value.shape.Formed 2 := by
  refine .table (by simp) ?_
  simp only [List.forall_mem_cons]
  exact ⟨.boolean _, .integer (st.int64_scalar_int32 _ _ (by decide)),
    .text _, .optional _, .text _, by simp⟩

theorem Config.formed_sections (readName : Url.Host.NameReader) (files : FileSystem) (st : Stack) :
    (Shape.table (resolve readName files st).value.sections).Formed 3 := by
  refine .table (by simp [sections]) ?_
  simp only [sections, List.forall_mem_cons]
  exact ⟨Service.formed_shape st, Agent.formed_shape readName st, Credentials.formed_shape _,
    Propagation.formed_shape _, Trace.formed_shape st, Profiling.formed_shape st,
    Telemetry.formed_shape st, RuntimeMetrics.formed_shape _, CiVisibility.formed_shape _,
    LogSubmission.formed_shape st _, by simp⟩

end TracerSettings
