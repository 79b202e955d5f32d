import TracerSettings.Proofs.Choice
import TracerSettings.Proofs.Tokens.Spread
import TracerSettings.Propagation.Style

namespace TracerSettings

theorem tokens_map_toLower (delimiters : Delimiters) (cs : List Char) :
    tokens delimiters (String.ofList (cs.map Char.toLower)) =
      (tokens delimiters (String.ofList cs)).map Text.lower := by
  have hwhole (cs : List Char) (hcs : ∀ c ∈ cs, delimiters.contains c = false) :
      tokens delimiters (String.ofList (cs.map Char.toLower)) =
        (tokens delimiters (String.ofList cs)).map Text.lower := by
    have hlower : ∀ c ∈ cs.map Char.toLower, delimiters.contains c = false := by
      simpa only [List.forall_mem_map, Choice.contains_toLower] using hcs
    rw [tokens_of_whole hlower, tokens_of_whole hcs, ← Text.lower_ofList, Text.nonBlank_lower]
    cases Text.nonBlank (String.ofList cs) <;> rfl
  induction cs using Text.separated_induction (p := delimiters.contains) with
  | whole cs hcs => exact hwhole cs hcs
  | cut left d right hleft hd ih =>
      have hd' : delimiters.contains d.toLower = true := by rwa [Choice.contains_toLower]
      rw [List.map_append, List.map_cons, tokens_append_cons hd', tokens_append_cons hd,
        hwhole left hleft, ih, List.map_append]

theorem tokens_lower (delimiters : Delimiters) (raw : String) :
    tokens delimiters (Text.lower raw) = (tokens delimiters raw).map Text.lower := by
  have h := tokens_map_toLower delimiters raw.toList
  rwa [← Text.lower_ofList, String.ofList_toList] at h

theorem spread_intercalate {delimiters : Delimiters} {d : Char}
    (hd : delimiters.contains d = true) (items : List String) :
    Spread delimiters items ((String.singleton d).intercalate items).toList := by
  have hnone : Padding [] := fun c hc => absurd hc List.not_mem_nil
  rw [String.toList_intercalate, String.toList_singleton]
  induction items with
  | nil => exact .nothing hnone
  | cons item items ih =>
      cases items with
      | nil =>
          have hlast : Spread delimiters [item] ([] ++ (item.toList ++ [])) := .last hnone hnone
          simpa using hlast
      | cons next items =>
          have hmore : Spread delimiters (item :: next :: items) ([] ++ (item.toList ++
              ([] ++ d :: [d].intercalate ((next :: items).map String.toList)))) :=
            .more hnone hnone hd ih
          simpa using hmore

namespace Choice

section Names

variable {α : Type} [Choice α] {delimiters : Delimiters}

theorem read?_of_mem_tokens {raw token : String} (h : token ∈ tokens delimiters raw) :
    (read? token : Option α) = ofName? (Text.lower token) := by
  rw [read?, Text.trim_eq_self_iff.2 (isToken_of_mem_tokens h).trimmed]

theorem map_read?_tokens (raw : String) :
    (tokens delimiters raw).map (read? : String → Option α) =
      (tokens delimiters (Text.lower raw)).map ofName? := by
  rw [tokens_lower, List.map_map]
  exact List.map_congr_left fun token => read?_of_mem_tokens

theorem filterMap_read?_names {as : List α} (h : ∀ a ∈ as, read? (name a) = some a) :
    (as.map name).filterMap read? = as := by
  have hsome : as.filterMap (read? ∘ name) = as.filterMap some := List.filterMap_congr h
  rw [List.filterMap_map, hsome, List.filterMap_some]

theorem filter_read?_names {as : List α} (h : ∀ a ∈ as, read? (name a) = some a) :
    (as.map name).filter (fun word => (read? word : Option α).isNone) = [] := by
  rw [List.filter_eq_nil_iff, List.forall_mem_map]
  intro a ha
  rw [h a ha]
  exact Bool.false_ne_true

end Names

section Sets

variable {α : Type} [DecidableEq α] [Choice α] {delimiters : Delimiters}

theorem value_readSet_eq_of_lower {raw raw' : String} (h : Text.lower raw = Text.lower raw') :
    (readSet delimiters raw : Reading (List α)).value = (readSet delimiters raw').value := by
  have hread : (tokens delimiters raw).map (read? : String → Option α) =
      (tokens delimiters raw').map read? := by
    rw [map_read?_tokens, map_read?_tokens, h]
  have hnamed := congrArg (List.filterMap id) hread
  rw [List.filterMap_map, List.filterMap_map, Function.id_comp] at hnamed
  rw [value_readSet, value_readSet, hnamed]

theorem readSet_of_spread {as : List α} {raw : String}
    (hread : ∀ a ∈ as, read? (name a) = some a) (htoken : ∀ a ∈ as, IsToken delimiters (name a))
    (hraw : Spread delimiters (as.map name) raw.toList) :
    readSet delimiters raw = .clean as.eraseDups := by
  have htokens : tokens delimiters raw = as.map name :=
    tokens_eq_iff.2 ⟨List.forall_mem_map.2 htoken, hraw⟩
  have hvalue := value_readSet (α := α) delimiters raw
  have hrejected := rejected_readSet (α := α) delimiters raw
  rw [htokens, filterMap_read?_names hread, unique_eq_eraseDups] at hvalue
  rw [htokens, filter_read?_names hread] at hrejected
  exact congrArg₂ Reading.mk hvalue hrejected

end Sets

section Reads

variable (α : Type) [DecidableEq α] [Choice α] (delimiters : Delimiters)

/-- How a set of variants is read from a text. -/
structure ReadsSet : Prop where
  value (raw : String) :
    (readSet delimiters raw : Reading (List α)).value =
      ((tokens delimiters raw).filterMap fun token => ofName? (Text.lower token)).eraseDups
  rejected (raw : String) :
    (readSet delimiters raw : Reading (List α)).rejected =
      ((tokens delimiters raw).filter fun token =>
        (ofName? (Text.lower token) : Option α).isNone).eraseDups.map
          fun token => ⟨token, "unrecognized value"⟩
  anyCase {raw raw' : String} (h : Text.lower raw = Text.lower raw') :
    (readSet delimiters raw : Reading (List α)).value = (readSet delimiters raw').value
  spread {as : List α} {raw : String} (hread : ∀ a ∈ as, read? (name a) = some a)
    (htoken : ∀ a ∈ as, IsToken delimiters (name a))
    (hraw : Spread delimiters (as.map name) raw.toList) :
    readSet delimiters raw = .clean as.eraseDups
  joined {as : List α} {d : Char} (hread : ∀ a ∈ as, read? (name a) = some a)
    (htoken : ∀ a ∈ as, IsToken delimiters (name a)) (hd : delimiters.contains d = true) :
    readSet delimiters ((String.singleton d).intercalate (as.map name)) = .clean as.eraseDups

theorem readsSet : ReadsSet α delimiters := by
  constructor
  case value =>
    intro raw
    rw [value_readSet, unique_eq_eraseDups,
      List.filterMap_congr fun token => read?_of_mem_tokens]
  case rejected =>
    intro raw
    have hfilter : (tokens delimiters raw).filter (fun token => (read? token : Option α).isNone) =
        (tokens delimiters raw).filter
          fun token => (ofName? (Text.lower token) : Option α).isNone := by
      apply List.filter_congr
      intro token htoken
      rw [read?_of_mem_tokens htoken]
    rw [rejected_readSet, unique_eq_eraseDups, hfilter]
  case anyCase => exact value_readSet_eq_of_lower
  case spread => exact readSet_of_spread
  case joined =>
    intro as d hread htoken hd
    exact readSet_of_spread hread htoken (spread_intercalate hd _)

end Reads

end Choice

namespace Propagation

theorem Style.isToken_name (s : Style) : IsToken .comma s.name := by
  have hmem : s.name ∈ tokens .comma s.name := by
    cases s <;> decide +kernel
  exact isToken_of_mem_tokens hmem

theorem readsSet_style :
    Choice.readSet .comma "B3 Single Header, b3single,nope,DataDog,NOPE,nope" =
        (⟨[.b3Single, .datadog],
          [⟨"nope", "unrecognized value"⟩, ⟨"NOPE", "unrecognized value"⟩]⟩ :
            Reading (List Style)) ∧
      ∀ styles : List Style, Choice.readSet .comma ((String.singleton ',').intercalate
        (styles.map Style.name)) = .clean styles.eraseDups := by
  refine ⟨by decide +kernel, fun styles => ?_⟩
  apply (Choice.readsSet Style .comma).joined
  · exact fun s _ => by cases s <;> decide +kernel
  · exact fun s _ => s.isToken_name
  · rfl

end Propagation

end TracerSettings
