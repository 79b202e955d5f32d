import TracerSettings.Proofs.Stack.Pairwise

namespace TracerSettings.Source

/-- Sources of one kind that hold the same, except under some keys. -/
inductive AgreeBut (keys : List String) : Source → Source → Prop
  | pairs (origin : Origin) {values values' : List (String × String)}
      (h : ∀ key ∉ keys, lastValue? values key = lastValue? values' key) :
      AgreeBut keys (.pairs origin values) (.pairs origin values')
  | environment (start : String) {values values' : List (String × String)}
      (h : ∀ name ∉ keys.map (variableName start),
        lastValue? values name = lastValue? values' name) :
      AgreeBut keys (.environment start values) (.environment start values')
  | document (location : Option String) {leaves leaves' : List (String × String)}
      (h : ∀ key ∉ keys, lastValue? leaves key = lastValue? leaves' key) :
      AgreeBut keys (.document location leaves) (.document location leaves')

def apart (keys : List String) (key : String) : Bool :=
  keys.all fun k => k.toList.map variableCharacter != key.toList.map variableCharacter

theorem toList_variableName (start key : String) :
    (variableName start key).toList =
      (start ++ "_").toList ++ key.toList.map variableCharacter := by
  rw [variableName, String.toList_append, String.toList_map]

theorem map_eq_of_variableName_eq {start key key' : String}
    (h : variableName start key = variableName start key') :
    key.toList.map variableCharacter = key'.toList.map variableCharacter := by
  have hlist := congrArg String.toList h
  rw [toList_variableName, toList_variableName] at hlist
  exact List.append_cancel_left hlist

theorem variableName_notMem {keys : List String} {key : String} (h : apart keys key = true)
    (start : String) : variableName start key ∉ keys.map (variableName start) := by
  intro hmem
  obtain ⟨k, hk, heq⟩ := List.mem_map.1 hmem
  have hne := List.all_eq_true.1 h k hk
  simp [map_eq_of_variableName_eq heq] at hne

theorem notMem_of_apart {keys : List String} {key : String} (h : apart keys key = true) :
    key ∉ keys := by
  intro hmem
  have hne := List.all_eq_true.1 h key hmem
  simp at hne

theorem getLast?_variableName {start key : String} {c : Char}
    (h : (key.toList.map variableCharacter).getLast? = some c) :
    (variableName start key).toList.getLast? = some c := by
  rw [toList_variableName, List.getLast?_append, h, Option.some_or]

namespace AgreeBut

variable {keys : List String} {s s' : Source}

theorem origin_eq (h : AgreeBut keys s s') : s.origin = s'.origin := by
  cases h <;> rfl

theorem location_eq (h : AgreeBut keys s s') : s.location = s'.location := by
  cases h <;> rfl

theorem lookup_eq (h : AgreeBut keys s s') {key : String} (hkey : apart keys key = true) :
    s.lookup key = s'.lookup key := by
  cases h with
  | pairs origin h => exact h key (notMem_of_apart hkey)
  | environment start h => exact h (variableName start key) (variableName_notMem hkey start)
  | document location h => exact h key (notMem_of_apart hkey)

theorem present_eq (h : AgreeBut keys s s') {key : String} (hkey : apart keys key = true) :
    s.present key = s'.present key := by
  rw [present, h.lookup_eq hkey, present]

theorem lookupRaw_eq (h : AgreeBut keys s s') {name : String}
    (hname : ∀ start, name ∉ keys.map (variableName start)) :
    s.lookupRaw name = s'.lookupRaw name := by
  cases h with
  | pairs origin h => rfl
  | environment start h => exact h name (hname start)
  | document location h => rfl

theorem hit?_eq (h : AgreeBut keys s s') {names : List String}
    (hnames : names.all (apart keys) = true) : s.hit? names = s'.hit? names :=
  hit?_congr h.origin_eq fun name hname => h.present_eq (List.all_eq_true.1 hnames name hname)

end AgreeBut

end TracerSettings.Source
