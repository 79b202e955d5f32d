import TracerSettings.FileSystem
import TracerSettings.Proofs.Build.Failure
import TracerSettings.Proofs.Config.Coherence

namespace TracerSettings.Build

variable {readName : Url.Host.NameReader} {files : FileSystem} {sources : List Source}
  {before : Journal}

theorem coherent_config {c : Config} (h : config readName files sources = .ok c) : c.Coherent := by
  have hconfig : config readName files sources =
      (Config.resolve readName files (.ofSources sources)).value.check.value := rfl
  rw [hconfig, Config.value_check] at h
  split at h
  case isTrue => cases h
  case isFalse hcheck =>
    obtain rfl := Except.ok.inj h
    apply Config.coherent_resolve
    intro henabled hagentless
    simpa [henabled, hagentless] using hcheck

/-- The configuration of a build that succeeds is coherent. -/
theorem ofSources_coherent {r : Resolved}
    (h : (ofSources readName files sources before).result = .ok r) :
    r.config.Coherent := by
  rw [result_ofSources] at h
  cases hconfig : config readName files sources with
  | error e =>
      rw [hconfig] at h
      cases h
  | ok c =>
      rw [hconfig] at h
      obtain rfl := Except.ok.inj h
      exact coherent_config hconfig

def strainedFile : Source :=
  .document (some "/app.toml") [("api-key", " key "), ("trace.agent.url", "ftp:"),
    ("trace.http.server.error.statuses", "700,x"), ("trace.propagation.style", "?"),
    ("propagation.style.extract", "b3, b3"), ("tags", "a=1,=2,a=3"),
    ("trace.header.tags", "A=x,a=y,=z"), ("trace.header.tags.legacy.parsing.enabled", "1"),
    ("trace.response_header.tags", "b:c")]

def strained : List Source :=
  [strainedFile,
    .pairs .process [("civisibility.enabled", "1"), ("civisibility.agentless.enabled", "1"),
      ("trace.partial.flush.enabled", "false"), ("trace.partial.flush.min.spans", "7"),
      ("trace.keep.latency.threshold.ms", "5"), ("trace.experimental.long-running.enabled", "true"),
      ("trace.experimental.long-running.initial.flush.interval", "9"),
      ("trace.experimental.long-running.flush.interval", "451"), ("profiling.enabled", "auto"),
      ("profiling.start-delay", "3"), ("runtime.metrics.enabled", "0"), ("jmxfetch.enabled", "1")]]

theorem ofSources_strained : ∃ r,
    (ofSources Url.Host.readName (FileTree.directory []).fileSystem strained
      .empty).result = .ok r ∧
      r.config.Coherent := by
  have htells : strainedFile.Tells "api-key" "key" :=
    Source.present_eq_some_iff.1 (by decide +kernel)
  have hok : ∃ r,
      (ofSources Url.Host.readName (FileTree.directory []).fileSystem strained
        .empty).result = .ok r := by
    rw [result_ofSources]
    rcases config_eq_ok_or_error Url.Host.readName (FileTree.directory []).fileSystem strained
      with ⟨c, h⟩ | h
    · exact ⟨_, by rw [h]; rfl⟩
    · have hmissing := (config_eq_error_iff.1 h).2.2
      exact absurd htells (hmissing.direct strainedFile List.mem_cons_self (by decide) _)
  obtain ⟨r, h⟩ := hok
  exact ⟨r, h, ofSources_coherent h⟩

end TracerSettings.Build
