import TracerSettings.Proofs.Build.Shared
import TracerSettings.Proofs.Config.Reports
import TracerSettings.Proofs.Credentials

namespace TracerSettings

/-- The first value found for a setting reads as true. -/
def Stack.IsOn (st : Stack) (s : Setting) : Prop :=
  ∃ hit, st.find? s.names = some hit ∧ readSwitch? hit.value = some true

theorem Stack.value_switch_false {st : Stack} {s : Setting} :
    (st.switch s false).value = true ↔ st.IsOn s := by
  rw [switch, switch?, Noted.value_bind, Noted.value_bind, value_resolve, IsOn]
  cases st.find? s.names with
  | none => simp [defaulted]
  | some hit =>
      simp only [Option.some.injEq, exists_eq_left', Scalar.switch]
      cases readSwitch? hit.value with
      | none => simp [defaulted]
      | some on => simp

namespace Config

variable {readName : Url.Host.NameReader} {files : FileSystem} {st : Stack}

theorem hasApiKey_resolve :
    (resolve readName files st).value.hasApiKey = false ↔
      (Credentials.resolveApiKey files st).value = none := by
  have hkey : (resolve readName files st).value.hasApiKey =
      (Credentials.resolveApiKey files st).value.any (· != "") := rfl
  rw [hkey]
  cases h : (Credentials.resolveApiKey files st).value with
  | none => simp
  | some key => simp [Credentials.firstKey_ne_empty h]

theorem value_check (c : Config) :
    c.check.value =
      if c.ciVisibility.enabled && c.ciVisibility.agentless && !c.hasApiKey then
        .error .agentlessWithoutApiKey
      else .ok c := by
  unfold check
  split <;> split <;> rfl

theorem reports_check (c : Config) :
    reports c.check.notes =
      if c.profiling.enablement.isActive && c.profiling.agentless && !c.hasApiKey then
        [.missingCredential Setting.profilingAgentless.key Setting.apiKey.key]
      else [] := by
  unfold check
  split <;> split <;> rfl

end Config

namespace Build

variable {readName : Url.Host.NameReader} {files : FileSystem} {sources : List Source}

theorem hasApiKey_eq_false_iff :
    (Config.resolve readName files (.ofSources sources)).value.hasApiKey = false ↔
      Credentials.ApiKeyMissing files sources :=
  Config.hasApiKey_resolve.trans Credentials.resolveApiKey_eq_none_iff

theorem config_eq_error_iff :
    config readName files sources = .error .agentlessWithoutApiKey ↔
      (Stack.ofSources sources).IsOn .ciVisibility ∧
        (Stack.ofSources sources).IsOn .ciVisibilityAgentless ∧
          Credentials.ApiKeyMissing files sources := by
  have hconfig : config readName files sources =
      (Config.resolve readName files (.ofSources sources)).value.check.value := rfl
  have henabled :
      (Config.resolve readName files (.ofSources sources)).value.ciVisibility.enabled = true ↔
        (Stack.ofSources sources).IsOn .ciVisibility :=
    Stack.value_switch_false
  have hagentless :
      (Config.resolve readName files (.ofSources sources)).value.ciVisibility.agentless = true ↔
        (Stack.ofSources sources).IsOn .ciVisibilityAgentless :=
    Stack.value_switch_false
  rw [hconfig, Config.value_check, ← henabled, ← hagentless, ← hasApiKey_eq_false_iff]
  split
  case isTrue h => simpa [and_assoc] using h
  case isFalse h => simpa [and_assoc] using h

theorem config_eq_resolve {before : Journal} {r : Resolved}
    (h : (ofSources readName files sources before).result = .ok r) :
    r.config = (Config.resolve readName files (.ofSources sources)).value := by
  have hconfig :
      (Config.resolve readName files (.ofSources sources)).value.check.value = .ok r.config := by
    show config readName files sources = .ok r.config
    rw [← config_ofSources readName files sources before, h]
    rfl
  rw [Config.value_check] at hconfig
  split at hconfig
  · cases hconfig
  · exact (Except.ok.inj hconfig).symm

theorem config_eq_ok_or_error (readName : Url.Host.NameReader) (files : FileSystem)
    (sources : List Source) :
    (∃ c, config readName files sources = .ok c) ∨
      config readName files sources = .error .agentlessWithoutApiKey := by
  cases config readName files sources with
  | ok c => exact .inl ⟨c, rfl⟩
  | error e =>
      cases e
      exact .inr rfl

theorem exists_result_of_not_isOn (h : ¬(Stack.ofSources sources).IsOn .ciVisibility)
    (readName : Url.Host.NameReader) (files : FileSystem) (before : Journal) :
    ∃ r, (ofSources readName files sources before).result = .ok r := by
  rcases config_eq_ok_or_error readName files sources with ⟨c, hc⟩ | herror
  · exact ⟨_, by rw [result_ofSources, hc]; rfl⟩
  · exact absurd (config_eq_error_iff.1 herror).1 h

theorem exists_result_of_find?_eq_none
    (h : (Stack.ofSources sources).find? Setting.ciVisibility.names = none)
    (readName : Url.Host.NameReader) (files : FileSystem) (before : Journal) :
    ∃ r, (ofSources readName files sources before).result = .ok r :=
  exists_result_of_not_isOn (fun ⟨_, hhit, _⟩ => nomatch h.symm.trans hhit) readName files before

theorem mem_diagnostics_iff {d : Diagnostic} :
    d ∈ (ofSources readName files sources .empty).journal.diagnostics ↔
      d ∈ reports (configOf readName files sources).notes := by
  rw [journal_ofSources, Journal.diagnostics_absorb_empty, mem_unique]

theorem missingCredential_mem_diagnostics_iff {credential : String} :
    .missingCredential Setting.profilingAgentless.key credential ∈
        (ofSources readName files sources .empty).journal.diagnostics ↔
      credential = Setting.apiKey.key ∧
        (Profiling.resolve (.ofSources sources)).value.enablement ≠ .disabled ∧
          (Stack.ofSources sources).IsOn .profilingAgentless ∧
            Credentials.ApiKeyMissing files sources := by
  have hreports : reports (configOf readName files sources).notes =
      reports (Config.resolve readName files (.ofSources sources)).notes ++
        reports (Config.resolve readName files (.ofSources sources)).value.check.notes :=
    reports_append _ _
  have hresolve : .missingCredential Setting.profilingAgentless.key credential ∉
      reports (Config.resolve readName files (.ofSources sources)).notes := by
    intro hmem
    have hpresent := (Config.resolve_reportsOn _ files _ hmem).present
    simp [Diagnostic.isMissingCredential] at hpresent
  have hagentless :
      (Config.resolve readName files (.ofSources sources)).value.profiling.agentless = true ↔
        (Stack.ofSources sources).IsOn .profilingAgentless :=
    Stack.value_switch_false
  have hactive (mode : Enablement) : mode.isActive = true ↔ mode ≠ .disabled := by
    cases mode <;> decide
  have henablement :
      (Config.resolve readName files (.ofSources sources)).value.profiling.enablement =
        (Profiling.resolve (.ofSources sources)).value.enablement := rfl
  rw [mem_diagnostics_iff, hreports, List.mem_append, or_iff_right hresolve, Config.reports_check,
    ← hagentless, ← hasApiKey_eq_false_iff, ← hactive, ← henablement]
  split
  case isTrue h => simpa [and_assoc] using fun _ => h
  case isFalse h => simpa [and_assoc] using fun _ => h

/-- A build fails in the one way there is, for the one reason there is. -/
theorem ofSources_fails_iff (readName : Url.Host.NameReader) (files : FileSystem)
    (sources : List Source) (before : Journal) :
    ((∃ r, (ofSources readName files sources before).result = .ok r) ∨
        (ofSources readName files sources before).result = .error .agentlessWithoutApiKey) ∧
      ((∃ e, (ofSources readName files sources before).result = .error e) ↔
        (Stack.ofSources sources).IsOn .ciVisibility ∧
          (Stack.ofSources sources).IsOn .ciVisibilityAgentless ∧
            Credentials.ApiKeyMissing files sources) ∧
      ((∃ credential, .missingCredential Setting.profilingAgentless.key credential ∈
          (ofSources readName files sources .empty).journal.diagnostics) ↔
        (Profiling.resolve (.ofSources sources)).value.enablement ≠ .disabled ∧
          (Stack.ofSources sources).IsOn .profilingAgentless ∧
            Credentials.ApiKeyMissing files sources) := by
  refine ⟨?_, ?_, ?_⟩
  · rw [result_ofSources]
    rcases config_eq_ok_or_error readName files sources with ⟨c, h⟩ | h
    · exact .inl ⟨_, by rw [h]; rfl⟩
    · exact .inr (by rw [h]; rfl)
  · have hfails : config readName files sources = .error .agentlessWithoutApiKey ↔ _ :=
      config_eq_error_iff
    rw [← hfails, result_ofSources]
    rcases config_eq_ok_or_error readName files sources with ⟨c, h⟩ | h
    · simp [h, Except.map]
    · exact iff_of_true ⟨_, by rw [h]; rfl⟩ h
  · simp only [missingCredential_mem_diagnostics_iff, exists_eq_left]

end Build

end TracerSettings
