namespace TracerSettings

inductive Origin where
  | override
  | process
  | environment
  | file
  | captured
  | default
  deriving DecidableEq, Repr

namespace Origin

def ranked : List Origin := [.override, .process, .environment, .file, .captured, .default]

def rank (o : Origin) : Nat := ranked.idxOf o

/-- The words for an origin in reports. -/
def text : Origin → String
  | .override => "override"
  | .process => "process property"
  | .environment => "environment variable"
  | .file => "config file"
  | .captured => "captured environment"
  | .default => "default"

def name : Origin → String
  | .override => "override"
  | .process => "process"
  | .environment => "environment"
  | .file => "file"
  | .captured => "captured_environment"
  | .default => "default"

theorem mem_ranked (o : Origin) : o ∈ ranked := by
  cases o <;> decide

theorem pairwise_rank_ranked : ranked.Pairwise (rank · < rank ·) := by decide

theorem rank_injective {o o' : Origin} (h : o.rank = o'.rank) : o = o' := by
  revert h
  cases o <;> cases o' <;> decide

end Origin

end TracerSettings
