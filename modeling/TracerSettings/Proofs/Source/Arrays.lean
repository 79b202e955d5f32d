import TracerSettings.Proofs.Firsts
import TracerSettings.Proofs.Source.Flattened
import TracerSettings.Proofs.Stack.FirstHit
import TracerSettings.Proofs.Stack.Pairwise
import TracerSettings.Proofs.Tokens.Spread

namespace TracerSettings

open Toml

namespace Toml.Value

/-- At the end of a path of keys stands a value, inside of tables only. -/
inductive StandsAt : Value → List String → Value → Prop
  | here (v : Value) : StandsAt v [] v
  | inside {entries : Entries} {key : String} {child inner : Value} {path : List String}
      (hmem : (key, child) ∈ entries) (h : StandsAt child path inner) :
      StandsAt (.table entries) (key :: path) inner

def writtenKey (path : List String) : String := path.foldl subPath ""

/-- The last of the leaves whose paths are written `key` is an array of these items. -/
def LastArray (v : Value) (key : String) (items : List Value) : Prop :=
  ∃ path, StandsAt v path (.array items) ∧ writtenKey path = key ∧
    ∀ path' text, LeafAt v path' text → writtenKey path' = key → path' = path ∨ Before path' path

variable {v inner : Value} {path : List String} {key text : String} {items : List Value}

theorem StandsAt.leafAt (h : StandsAt v path inner) (htext : inner.leafText? = some text) :
    LeafAt v path text := by
  induction h with
  | here v => exact .here htext
  | inside hmem _ ih => exact .inside hmem (ih htext)

theorem lastValue?_leaves_of_lastArray (hread : v.EveryTable (List.Pairwise (· < ·)))
    (h : v.LastArray key items) : lastValue? (v.leaves "") key = some (listText items) := by
  obtain ⟨path, hstands, hkey, hlast⟩ := h
  have hleaves : v.leaves "" = v.walk.map fun leaf => (writtenKey leaf.1, leaf.2) :=
    leaves_eq_walk hread ""
  rw [hleaves, lastValue?_eq_some_iff (pairwise_walk hread)]
  exact ⟨path, (mem_walk_iff hread).2 (hstands.leafAt rfl), hkey, fun path' text hmem =>
    hlast path' text ((mem_walk_iff hread).1 hmem)⟩

end Toml.Value

namespace Source

/-- A source that lacks a key and is like another one under all others. -/
structure Without (s : Source) (key : String) (s' : Source) : Prop where
  origin : s'.origin = s.origin
  lacks : s'.lookup key = none
  others : ∀ other, other ≠ key → s'.lookup other = s.lookup other

variable {s s' : Source} {key : String}

theorem Without.hit?_eq (h : s.Without key s') {raw : String} (hraw : s.lookup key = some raw)
    (hblank : Text.nonBlank raw = none) (names : List String) :
    s.hit? names = s'.hit? names := by
  refine hit?_congr h.origin.symm fun name _ => ?_
  by_cases hname : name = key
  · rw [hname, present, hraw, Option.bind_some, hblank, present, h.lacks, Option.bind_none]
  · rw [present, present, h.others name hname]

/-- What the scalars of an array come to that stand under a key of a source. -/
structure ListsScalars (file : Source) (key : String) (scalars : List String) : Prop where
  /-- Where the source is the first that tells anything of a setting, and the key the first name
  under which it does, the scalars are the list. -/
  listed {st : Stack} {above below : List Source} {s : Setting} {earlier later : List String}
    (hst : st.sources = above ++ file :: below) (habove : ∀ source ∈ above, source.Silent s.names)
    (hnames : s.names = earlier ++ key :: later) (hearlier : file.Silent earlier)
    (hsome : scalars ≠ []) (htokens : ∀ scalar ∈ scalars, IsToken .comma scalar) :
    (st.list .comma s).value = scalars ∧ (st.set s).value = scalars.eraseDups
  absent {without : Source} {s : Setting} (hnone : scalars = []) (h : file.Without key without)
    (front back : List Source) :
    (Stack.ofSources (front ++ file :: back)).hits s.names =
        (Stack.ofSources (front ++ without :: back)).hits s.names ∧
      (Stack.ofSources (front ++ file :: back)).list .comma s =
        (Stack.ofSources (front ++ without :: back)).list .comma s ∧
      (Stack.ofSources (front ++ file :: back)).set s =
        (Stack.ofSources (front ++ without :: back)).set s
  passed {s : Setting} (hnone : scalars = [])
    (hothers : ∀ name ∈ s.names, name ≠ key → ∀ value, ¬file.Tells name value)
    (front back : List Source) :
    (Stack.ofSources (front ++ file :: back)).list .comma s =
        (Stack.ofSources (front ++ back)).list .comma s ∧
      (Stack.ofSources (front ++ file :: back)).set s = (Stack.ofSources (front ++ back)).set s

variable {file : Source} {key : String} {scalars : List String}

theorem tells_of_joined (hlookup : file.lookup key = some (",".intercalate scalars))
    (hsome : scalars ≠ []) (htokens : ∀ scalar ∈ scalars, IsToken .comma scalar) :
    ∃ value, file.Tells key value ∧ tokens .comma value = scalars := by
  have hjoined : tokens .comma (",".intercalate scalars) = scalars := tokens_joined htokens
  cases hvalue : Text.nonBlank (",".intercalate scalars) with
  | none =>
      rw [tokens_of_blank hvalue] at hjoined
      exact absurd hjoined.symm hsome
  | some value =>
      refine ⟨value, present_eq_some_iff.1 ?_, (tokens_of_nonBlank hvalue).trans hjoined⟩
      rw [present, hlookup, Option.bind_some, hvalue]

theorem listsScalars_of_lookup (hlookup : file.lookup key = some (",".intercalate scalars)) :
    file.ListsScalars key scalars := by
  have hblank (hnone : scalars = []) : Text.nonBlank (",".intercalate scalars) = none := by
    rw [hnone]
    rfl
  constructor
  case listed =>
    intro st above below s earlier later hst habove hnames hearlier hsome htokens
    obtain ⟨value, htells, hvalue⟩ := tells_of_joined hlookup hsome htokens
    have hfind : st.find? s.names = some ⟨value, file.origin, key⟩ :=
      Stack.find?_of_silent hst habove (hnames ▸ hit?_of_tells hearlier htells)
    rw [Stack.value_list, Stack.value_set, hfind]
    refine ⟨hvalue, ?_⟩
    rw [← unique_eq_eraseDups, ← hvalue]
    rfl
  case absent =>
    intro without s hnone h front back
    have hhits : (Stack.ofSources (front ++ file :: back)).hits s.names =
        (Stack.ofSources (front ++ without :: back)).hits s.names :=
      Stack.hits_ofSources_replace h.origin.symm (h.hit?_eq hlookup (hblank hnone) s.names)
    exact ⟨hhits, Stack.list_congr hhits .comma, Stack.set_congr hhits⟩
  case passed =>
    intro s hnone hothers front back
    have hsilent : file.Silent s.names := by
      intro name hname value htells
      by_cases hkey : name = key
      · rw [← present_eq_some_iff, hkey, present, hlookup, Option.bind_some, hblank hnone] at htells
        cases htells
      · exact hothers name hname hkey value htells
    have hhits : (Stack.ofSources (front ++ file :: back)).hits s.names =
        (Stack.ofSources (front ++ back)).hits s.names :=
      Stack.hits_ofSources_erase (hit?_eq_none_iff.2 hsilent)
    exact ⟨Stack.list_congr hhits .comma, Stack.set_congr hhits⟩

/-- A document lists the scalars of its arrays. What else is inside of them is of no account. -/
theorem ofToml_listsArray (fault : String → String) {text : String} {v : Value} {items : List Value}
    (h : Toml.read? text = some v) (harray : v.LastArray key items) (location : Option String)
    (label : String) :
    ∃ file, ofToml fault location label text = .ok file ∧
      file.ListsScalars key (items.filterMap Value.scalarText) :=
  ⟨_, ofToml_of_read? h,
    listsScalars_of_lookup (Value.lastValue?_leaves_of_lastArray (everyTable_read? h) harray)⟩

def mixedItems : List Value :=
  [.text "a b", .integer 3, .array [.integer 1], .table [("x", .integer 2)], .text "a b",
    .boolean true]

def nestedItems : List Value := [.array [.integer 1], .table []]

def mixedArrays : Value := .table [("empty", .array nestedItems), ("tags", .array mixedItems)]

def mixedText : String :=
  "empty = [[1], \x7b\x7d]\ntags = ['a b', 3, [1], \x7b x = 2 \x7d, 'a b', true]\n"

def captured : Source := .pairs .captured [("tags", "z"), ("empty", "x, y")]

def tagsOnly : Source := .document none [("tags", "a b,3,a b,true")]

theorem everyTable_mixedArrays {P : List String → Prop} :
    mixedArrays.EveryTable P ↔ P ["empty", "tags"] ∧ P [] ∧ P ["x"] := by
  have hinteger (n : Int) : (Value.integer n).EveryTable P := .scalar rfl
  have htext (s : String) : (Value.text s).EveryTable P := .scalar rfl
  have hboolean (b : Bool) : (Value.boolean b).EveryTable P := .scalar rfl
  simp [mixedArrays, nestedItems, mixedItems, Value.everyTable_table_iff,
    Value.everyTable_array_iff, hinteger, htext, hboolean]

theorem read?_mixedText : Toml.read? mixedText = some mixedArrays :=
  read?_of_sorted (by cbv) rfl (everyTable_mixedArrays.2 (by decide))

theorem leafAt_mixedArrays {path : List String} {text : String}
    (h : Value.LeafAt mixedArrays path text) : path = ["empty"] ∨ path = ["tags"] := by
  have hwalk : mixedArrays.walk = [(["empty"], ""), (["tags"], "a b,3,a b,true")] := rfl
  have hmem := (Value.mem_walk_iff (everyTable_read? read?_mixedText)).2 h
  simp only [hwalk, List.mem_cons, Prod.mk.injEq, List.not_mem_nil, or_false] at hmem
  exact hmem.imp And.left And.left

theorem lastArray_mixedArrays {key : String} {items : List Value}
    (h : mixedArrays.StandsAt [key] (.array items)) : mixedArrays.LastArray key items := by
  refine ⟨[key], h, rfl, fun path' text hleaf hkey => .inl ?_⟩
  rcases leafAt_mixedArrays hleaf with rfl | rfl
  · exact congrArg (fun key => [key]) hkey
  · exact congrArg (fun key => [key]) hkey

theorem ofToml_mixedArrays :
    Toml.read? mixedText = some mixedArrays ∧ mixedArrays.LastArray "tags" mixedItems ∧
      mixedArrays.LastArray "empty" nestedItems ∧
      ∃ file, ofInlineToml wordless mixedText = .ok file ∧
        ((Stack.ofSources [captured, file]).list .comma (.named "tags")).value =
          ["a b", "3", "a b", "true"] ∧
        ((Stack.ofSources [captured, file]).set (.named "tags")).value = ["a b", "3", "true"] ∧
        ((Stack.ofSources [captured, file]).list .comma (.named "empty")).value = ["x", "y"] ∧
        file.Without "empty" tagsOnly ∧
        (Stack.ofSources [captured, file]).list .comma (.named "empty") =
          (Stack.ofSources [captured, tagsOnly]).list .comma (.named "empty") := by
  have htags : mixedArrays.LastArray "tags" mixedItems :=
    lastArray_mixedArrays (.inside (by simp) (.here _))
  have hempty : mixedArrays.LastArray "empty" nestedItems :=
    lastArray_mixedArrays (.inside (by simp) (.here _))
  obtain ⟨file, hfile, hlists⟩ :=
    ofToml_listsArray wordless read?_mixedText htags none inlineLabel
  obtain ⟨file', hfile', hpasses⟩ :=
    ofToml_listsArray wordless read?_mixedText hempty none inlineLabel
  obtain rfl : file = file' := Except.ok.inj (hfile.symm.trans hfile')
  have hdocument : file = .document none (mixedArrays.leaves "") :=
    Except.ok.inj (hfile.symm.trans (ofToml_of_read? read?_mixedText))
  have hranked : (Stack.ofSources [captured, file]).sources = [] ++ file :: [captured] := by
    rw [hdocument, Stack.sources_ofSources]
    rfl
  have htokens : ∀ scalar ∈ mixedItems.filterMap Value.scalarText, IsToken .comma scalar := by
    have hread : tokens .comma "a b,3,a b,true" = mixedItems.filterMap Value.scalarText := by
      decide +kernel
    rw [← hread]
    exact fun scalar => isToken_of_mem_tokens
  have hearlier : file.Silent [] := fun name h => absurd h List.not_mem_nil
  obtain ⟨hlist, hset⟩ := hlists.listed hranked (fun source h => absurd h List.not_mem_nil)
    (s := .named "tags") rfl hearlier (List.cons_ne_nil _ _) htokens
  have hothers : ∀ name ∈ (Setting.named "empty").names, name ≠ "empty" →
      ∀ value, ¬file.Tells name value :=
    List.forall_mem_singleton.2 fun hne => absurd rfl hne
  have hpassed : (Stack.ofSources [captured, file]).list .comma (.named "empty") =
      (Stack.ofSources [captured]).list .comma (.named "empty") :=
    (hpasses.passed rfl hothers [captured] []).1
  refine ⟨read?_mixedText, htags, hempty, file, hfile, hlist, hset, ?_, ?_⟩
  · rw [hpassed]
    decide +kernel
  · have hwithout : file.Without "empty" tagsOnly := by
      rw [hdocument]
      refine ⟨rfl, rfl, fun other hne => ?_⟩
      have hleaves : mixedArrays.leaves "" = [("empty", ""), ("tags", "a b,3,a b,true")] := rfl
      simp [tagsOnly, lookup, lastValue?, hleaves, List.lookup_cons, beq_false_of_ne hne]
    exact ⟨hwithout, (hpasses.absent rfl hwithout [captured] []).2.1⟩

end Source

end TracerSettings
