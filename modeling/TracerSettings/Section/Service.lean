import TracerSettings.Stack.Typed

namespace TracerSettings

structure Service where
  name : String
  /-- Whether the name was set and not inferred from the running program. -/
  nameSetByUser : Bool
  env : Option String
  version : Option String
  site : String
  tags : OrderedMap
  serviceMapping : OrderedMap
  splitByTags : List String
  deriving DecidableEq, Repr

namespace Service

def default : Service where
  name := "unnamed-service"
  nameSetByUser := false
  env := none
  version := none
  site := "datadoghq.com"
  tags := .empty
  serviceMapping := .empty
  splitByTags := []

def resolveName (st : Stack) : Noted (String × Bool) := do
  match ← st.resolveExcluding [.captured] .service with
  | some hit => return (hit.value, true)
  | none => return (← st.textOr .service default.name, false)

def withTag (tags : OrderedMap) (s : Setting) : Option String → OrderedMap
  | some value => tags.insert s.key value
  | none => tags

/-- Tags on top of each other: the global ones, those of traces, then the environment and the
version. -/
def resolveTags (st : Stack) (env version : Option String) : Noted OrderedMap := do
  let globalTags ← st.mergedMap .globalTags
  let traceTags ← st.mergedMap .traceTags
  return withTag (withTag (globalTags.extend traceTags) .env env) .version version

def resolve (st : Stack) : Noted Service := do
  let (name, nameSetByUser) ← resolveName st
  let env ← st.text? .env
  let version ← st.text? .version
  let tags ← resolveTags st env version
  let site ← st.textOr .site default.site
  let serviceMapping ← st.mergedMap .serviceMapping
  let splitByTags ← st.list .comma .splitByTags
  return { name, nameSetByUser, env, version, site, tags, serviceMapping, splitByTags }

end Service

end TracerSettings
