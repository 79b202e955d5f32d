import TracerSettings.Proofs.Stack.Hits
import TracerSettings.Section.Credentials

namespace TracerSettings

def olderKeys : List String := [Setting.profilingApiKey.key, Setting.oldestApiKey.key]

def credentialKeys : List String :=
  Setting.apiKey.key :: Setting.applicationKey.key :: olderKeys

/-- On a credential only the sources of some origins are heard, on everything else all of them. -/
def admits (key : String) (o : Origin) : Bool :=
  if key ∈ olderKeys then o == .environment
  else if key ∈ credentialKeys then o != .process
  else true

theorem admits_of_notMem {key : String} (h : key ∉ credentialKeys) :
    admits key = fun _ => true := by
  have holder : key ∉ olderKeys := fun hkey => h (.tail _ (.tail _ hkey))
  funext o
  rw [admits, if_neg holder, if_neg h]

namespace Stack

def heard (st : Stack) (s : Setting) : Stack := st.admitting (admits s.key)

theorem heard_of_notMem {s : Setting} (h : s.key ∉ credentialKeys) (st : Stack) :
    st.heard s = st := by
  rw [heard, admits_of_notMem h, admitting_true]

end Stack

namespace Credentials

def generations : List Generation :=
  ⟨.applicationKey, .applicationKeyFile, false⟩ :: apiKeyGenerations

theorem Generation.direct_eq {g : Generation} (hg : g ∈ generations) (st : Stack) :
    g.direct st = (st.heard g.key).text? g.key := by
  have hadmits : ∀ g ∈ generations, ∀ o ∈ Origin.ranked,
      admits g.key.key o = if g.environmentOnly then o == .environment else o != .process := by
    decide +kernel
  have hheard : admits g.key.key =
      fun o => if g.environmentOnly then o == .environment else o != .process :=
    funext fun o => hadmits g hg o (Origin.mem_ranked o)
  rw [Stack.heard, hheard, Generation.direct]
  cases g.environmentOnly with
  | false => exact st.textOutside?_eq .process g.key
  | true => exact st.textFrom?_eq .environment g.key

end Credentials

end TracerSettings
