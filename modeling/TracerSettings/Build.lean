import TracerSettings.Config
import TracerSettings.Journal

namespace TracerSettings

inductive Event where
  | diagnostic (d : Diagnostic)
  | loaded (path : String)
  | resolved (service agent : String) (files : Nat)
  deriving DecidableEq, Repr

structure Resolved where
  config : Config
  collected : List (String × Collected)
  diagnostics : List Diagnostic
  loadedFiles : List String
  deriving DecidableEq, Repr

def Resolved.originOf? (r : Resolved) (key : String) : Option Collected := r.collected.lookup key

structure Build where
  result : Except Contradiction Resolved
  journal : Journal
  events : List Event

namespace Build

variable (readName : Url.Host.NameReader) (files : FileSystem)

/-- The configuration of some sources, which does not depend on any journal. -/
def configOf (sources : List Source) : Noted (Except Contradiction Config) := do
  (← Config.resolve readName files (.ofSources sources)).check

/-- Builds on a journal that other builds may share: what it holds already is not recorded again,
and does not change what is built. -/
def ofSources (sources : List Source) (before : Journal) : Build :=
  let run := configOf readName files sources
  let journal := before.absorb run.notes
  let news := (before.log run.notes).map Event.diagnostic
  let loadedFiles := sources.filterMap Source.location
  match run.value with
  | .error contradiction => ⟨.error contradiction, journal, news⟩
  | .ok config =>
      { result := .ok ⟨config, journal.snapshot, journal.diagnostics, loadedFiles⟩
        journal
        events := news ++ [.resolved config.service.name config.agent.url loadedFiles.length] }

def config (sources : List Source) : Except Contradiction Config :=
  (configOf readName files sources).value

end Build

end TracerSettings
