import TracerSettings.Build
import TracerSettings.Source.File

namespace TracerSettings

/-- The sources besides the file, which one of the first three names. A problem with the file never
stops anything: a missing file is left out quietly, and any other one is reported. -/
structure Standard where
  overrides : Source
  process : Source
  environment : Source
  captured : Source
  deriving DecidableEq, Repr

namespace Standard

/-- The standard sources of some pairs and an environment. The name of the running program stands in
for that of the service. -/
def ofPairs (overrides process environment : List (String × String)) (program : Option String) :
    Standard where
  overrides := .pairs .override overrides
  process := .pairs .process process
  environment := .environment Source.usualStart environment
  captured := .pairs .captured ((program.map fun name => (Setting.service.key, name)).toList)

def named (s : Standard) : List Source := [s.overrides, s.process, s.environment]

/-- The path of the file: the first one set, unless that is blank. -/
def path? (s : Standard) : Option String := do
  Text.nonBlank (← s.named.findSome? fun source => source.lookup Setting.configFile.key)

structure Loaded where
  source : Option Source
  events : List Event
  notes : List Note

def Loaded.nothing : Loaded := ⟨none, [], []⟩

variable (readName : Url.Host.NameReader) (fault : String → String) (files : FileSystem)

def loadFile (path : String) : Loaded :=
  match Source.tryLoad fault files path with
  | .ok (some source) => ⟨some source, [.loaded path], []⟩
  | .ok none => .nothing
  | .error e =>
      ⟨none, [], [.report (.unreadableFile Setting.configFile.key path e.message)]⟩

def load (s : Standard) : Loaded := (s.path?.map (loadFile fault files)).getD .nothing

def sources (s : Standard) (loaded : Loaded) : List Source :=
  s.named ++ loaded.source.toList ++ [s.captured]

/-- Builds from the standard stack, and tells what was logged from the loading on. -/
def build (s : Standard) : Build :=
  let loaded := s.load fault files
  let journal := Journal.empty.absorb loaded.notes
  let built := Build.ofSources readName files (s.sources loaded) journal
  { built with
    events :=
      loaded.events ++ (Journal.empty.log loaded.notes).map .diagnostic ++ built.events }

end Standard

/-- The configuration of the whole process, which is built when it is first asked for. A build that
fails is not kept. -/
structure ProcessConfig where
  config : Option Config
  deriving DecidableEq, Repr

namespace ProcessConfig

def unbuilt : ProcessConfig := ⟨none⟩

def get (p : ProcessConfig) (readName : Url.Host.NameReader) (fault : String → String)
    (files : FileSystem) (s : Standard) : Except Contradiction Config × ProcessConfig :=
  match p.config with
  | some config => (.ok config, p)
  | none =>
      match (s.build readName fault files).result with
      | .ok resolved => (.ok resolved.config, ⟨some resolved.config⟩)
      | .error e => (.error e, p)

end ProcessConfig

end TracerSettings
