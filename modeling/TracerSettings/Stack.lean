import TracerSettings.Noted
import TracerSettings.Setting
import TracerSettings.Source

namespace TracerSettings

/-- A value with the source's origin and the key that matched. -/
structure Hit where
  value : String
  origin : Origin
  key : String
  deriving DecidableEq, Repr

def Source.hit? (s : Source) (names : List String) : Option Hit :=
  (s.firstPresent names).map fun (key, value) => ⟨value, s.origin, key⟩

def Source.precedes (s t : Source) : Bool := s.origin.rank ≤ t.origin.rank

/-- Sources, the highest rank first. The first one with a value under any name of a setting decides,
and the sources below it are not looked at. -/
structure Stack where
  sources : List Source
  deriving Repr

namespace Stack

/-- Ranks the sources; the sort is stable, so those of one origin stay in their order. -/
def ofSources (sources : List Source) : Stack := ⟨sources.mergeSort Source.precedes⟩

def origins (st : Stack) : List Origin := st.sources.map Source.origin

def admitting (st : Stack) (admits : Origin → Bool) : Stack :=
  ⟨st.sources.filter fun s => admits s.origin⟩

/-- What each source has for the first of the names that it knows. -/
def hits (st : Stack) (names : List String) : List Hit :=
  st.sources.filterMap fun s => s.hit? names

def find? (st : Stack) (names : List String) : Option Hit := (st.hits names).head?

def isSet (st : Stack) (s : Setting) : Bool := (st.find? s.names).isSome

def resolve (st : Stack) (s : Setting) : Noted (Option Hit) :=
  match st.find? s.names with
  | none => pure none
  | some hit => do
      collect s.key hit.value hit.origin
      return some hit

def resolveExcluding (st : Stack) (excluded : List Origin) (s : Setting) : Noted (Option Hit) :=
  (st.admitting fun o => !excluded.contains o).resolve s

/-- The value of a raw name in the first source that has one, unless it is blank. -/
def raw? (st : Stack) (name : String) : Option String := do
  let value ← st.sources.findSome? fun s => s.lookupRaw name
  if (Text.nonBlank value).isSome then return value else none

theorem value_resolve (st : Stack) (s : Setting) : (st.resolve s).value = st.find? s.names := by
  unfold resolve
  split <;> simp [*]

end Stack

end TracerSettings
