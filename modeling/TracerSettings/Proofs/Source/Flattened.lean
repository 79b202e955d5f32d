import Mathlib
import TracerSettings.Proofs.Toml.Tables
import TracerSettings.Source.File

namespace TracerSettings

open Toml

namespace Toml.Value

def leafText? : Value → Option String
  | .array items => some (listText items)
  | v => v.scalarText

/-- At the end of a path of keys stands a leaf with a text. -/
inductive LeafAt : Value → List String → String → Prop
  | here {v : Value} {text : String} (h : v.leafText? = some text) : LeafAt v [] text
  | inside {entries : Entries} {key text : String} {child : Value} {path : List String}
      (hmem : (key, child) ∈ entries) (h : LeafAt child path text) :
      LeafAt (.table entries) (key :: path) text

/-- A walk by the order of keys takes the first path before the second: their first keys that
differ are in this order. -/
def Before (path path' : List String) : Prop := List.Lex (· < ·) path path'

def dotted (path : List String) : String := ".".intercalate path

mutual

def walk : Value → List (List String × String)
  | .table entries => walkEntries entries
  | .array items => [([], listText items)]
  | .text s => [([], s)]
  | .integer n => [([], toString n)]
  | .real x => [([], x.text .plain .double)]
  | .boolean b => [([], if b then "true" else "false")]
  | .datetime d => [([], d.text)]

def walkEntries : List (String × Value) → List (List String × String)
  | [] => []
  | (key, v) :: rest => (walk v).map (fun leaf => (key :: leaf.1, leaf.2)) ++ walkEntries rest

end

variable {P : List String → Prop} {v : Value} {path : List String} {text : String}

theorem walkEntries_eq (entries : Entries) :
    walkEntries entries =
      entries.flatMap fun entry => (walk entry.2).map fun leaf => (entry.1 :: leaf.1, leaf.2) := by
  induction entries with
  | nil => rfl
  | cons entry rest ih => rw [walkEntries, ih, List.flatMap_cons]

theorem entryLeaves_eq (p : String) (entries : Entries) :
    entryLeaves p entries = entries.flatMap fun entry => leaves (subPath p entry.1) entry.2 := by
  induction entries with
  | nil => rfl
  | cons entry rest ih => rw [entryLeaves, ih, List.flatMap_cons]

theorem walk_of_scalarText (h : v.scalarText = some text) : v.walk = [([], text)] := by
  cases v with
  | array items => cases h
  | table entries => cases h
  | _ =>
      cases h
      rfl

theorem leaves_of_scalarText (p : String) (h : v.scalarText = some text) :
    v.leaves p = [(p, text)] := by
  cases v with
  | array items => cases h
  | table entries => cases h
  | _ =>
      cases h
      rfl

theorem leafText?_of_scalarText (h : v.scalarText = some text) : v.leafText? = some text := by
  cases v with
  | array items => cases h
  | _ => exact h

theorem leafAt_iff_of_leafText? {t : String} (h : v.leafText? = some t) :
    LeafAt v path text ↔ path = [] ∧ text = t := by
  constructor
  · intro hleaf
    cases hleaf with
    | here htext => exact ⟨rfl, Option.some.inj (htext.symm.trans h)⟩
    | inside _ _ => cases h
  · rintro ⟨rfl, rfl⟩
    exact .here h

theorem leafAt_table_iff {entries : Entries} :
    LeafAt (.table entries) path text ↔
      ∃ entry ∈ entries, ∃ path', LeafAt entry.2 path' text ∧ path = entry.1 :: path' := by
  constructor
  · intro hleaf
    cases hleaf with
    | here h => cases h
    | inside hmem h => exact ⟨_, hmem, _, h, rfl⟩
  · rintro ⟨entry, hentry, path', h, rfl⟩
    exact .inside hentry h

theorem mem_walk_iff (h : v.EveryTable P) : (path, text) ∈ v.walk ↔ LeafAt v path text := by
  induction h generalizing path with
  | scalar h =>
      obtain ⟨t, ht⟩ := Option.isSome_iff_exists.1 h
      rw [walk_of_scalarText ht, leafAt_iff_of_leafText? (leafText?_of_scalarText ht),
        List.mem_singleton, Prod.mk.injEq]
  | array _ _ =>
      rw [leafAt_iff_of_leafText? rfl, walk, List.mem_singleton, Prod.mk.injEq]
  | table _ _ ih =>
      rw [walk, walkEntries_eq, List.mem_flatMap, leafAt_table_iff]
      refine exists_congr fun entry => and_congr_right fun hentry => ?_
      simp only [List.mem_map, Prod.exists, Prod.mk.injEq]
      constructor
      · rintro ⟨path', text', hmem, rfl, rfl⟩
        exact ⟨path', (ih entry hentry).1 hmem, rfl⟩
      · rintro ⟨path', hleaf, rfl⟩
        exact ⟨path', text, (ih entry hentry).2 hleaf, rfl, rfl⟩

theorem leaves_eq_walk (h : v.EveryTable P) (p : String) :
    v.leaves p = v.walk.map fun leaf => (leaf.1.foldl subPath p, leaf.2) := by
  induction h generalizing p with
  | scalar h =>
      obtain ⟨t, ht⟩ := Option.isSome_iff_exists.1 h
      rw [walk_of_scalarText ht, leaves_of_scalarText p ht]
      rfl
  | array _ _ => rfl
  | @table entries _ _ ih =>
      rw [leaves, entryLeaves_eq, walk, walkEntries_eq, List.map_flatMap]
      apply List.flatMap_congr
      intro entry hentry
      rw [ih entry hentry, List.map_map]
      rfl

theorem pairwise_walk (h : v.EveryTable (List.Pairwise (· < ·))) :
    v.walk.Pairwise fun leaf leaf' => Before leaf.1 leaf'.1 := by
  induction h with
  | scalar h =>
      obtain ⟨t, ht⟩ := Option.isSome_iff_exists.1 h
      rw [walk_of_scalarText ht]
      exact List.pairwise_singleton _ _
  | array _ _ => exact List.pairwise_singleton _ _
  | table hkeys _ ih =>
      rw [walk, walkEntries_eq, List.pairwise_flatMap]
      constructor
      · intro entry hentry
        exact List.pairwise_map.2 ((ih entry hentry).imp .cons)
      · refine (List.pairwise_map.1 hkeys).imp fun hlt => ?_
        simp only [List.forall_mem_map]
        exact fun _ _ _ _ => .rel hlt

theorem Before.asymm {path path' : List String} (h : Before path path') : ¬Before path' path :=
  (List.Lex.asymm (· < ·)).asymm path path' h

theorem not_before_self (path : List String) : ¬Before path path := fun h => h.asymm h

theorem subPath_ne_empty {p : String} (hp : p ≠ "") (key : String) : subPath p key ≠ "" := by
  rw [subPath, if_neg hp]
  intro h
  exact hp (String.append_eq_empty_iff.1 (String.append_eq_empty_iff.1 h).1).1

theorem dotted_subPath {p : String} (hp : p ≠ "") (key : String) (path : List String) :
    dotted (subPath p key :: path) = dotted (p :: key :: path) := by
  rw [subPath, if_neg hp]
  cases path with
  | nil => simp [dotted, String.intercalate_cons_cons]
  | cons k path => simp only [dotted, String.intercalate_cons_cons, String.append_assoc]

theorem foldl_subPath_of_ne {p : String} (hp : p ≠ "") (path : List String) :
    path.foldl subPath p = dotted (p :: path) := by
  induction path generalizing p with
  | nil => rfl
  | cons key path ih =>
      rw [List.foldl_cons, ih (subPath_ne_empty hp key), dotted_subPath hp]

theorem foldl_subPath (h : "" ∉ path) : path.foldl subPath "" = dotted path := by
  cases path with
  | nil => rfl
  | cons key path =>
      rw [List.mem_cons, not_or] at h
      exact foldl_subPath_of_ne (Ne.symm h.1) path

abbrev Named (v : Value) : Prop := v.EveryTable fun keys => "" ∉ keys

theorem Named.notMem_path (h : v.Named) (hleaf : LeafAt v path text) : "" ∉ path := by
  induction hleaf with
  | here _ => exact List.not_mem_nil
  | @inside entries key text child path hmem _ ih =>
      cases h with
      | scalar h => cases h
      | table hkeys h =>
          rw [List.mem_cons, not_or]
          refine ⟨fun hempty => hkeys ?_, ih (h _ hmem)⟩
          rw [hempty]
          exact List.mem_map_of_mem hmem

/-- A leaf with this text has a path that is written `key`. -/
def LeafUnder (v : Value) (key text : String) : Prop :=
  ∃ path, LeafAt v path text ∧ dotted path = key

/-- The last of the leaves whose paths are written `key` has this text. -/
def LastUnder (v : Value) (key text : String) : Prop :=
  ∃ path, LeafAt v path text ∧ dotted path = key ∧
    ∀ path' text', LeafAt v path' text' → dotted path' = key → path' = path ∨ Before path' path

/-- No two leaves have paths that are written alike. -/
def Unshared (v : Value) : Prop :=
  ∀ path path' text text', LeafAt v path text → LeafAt v path' text' → dotted path = dotted path' →
    path = path'

theorem LastUnder.leafUnder {key : String} (h : v.LastUnder key text) : v.LeafUnder key text := by
  obtain ⟨path, hleaf, hkey, -⟩ := h
  exact ⟨path, hleaf, hkey⟩

theorem Unshared.lastUnder {key : String} (hv : v.Unshared) (h : v.LeafUnder key text) :
    v.LastUnder key text := by
  obtain ⟨path, hleaf, rfl⟩ := h
  refine ⟨path, hleaf, rfl, fun path' text' hleaf' hkey => .inl ?_⟩
  exact hv path' path text' text hleaf' hleaf hkey

theorem leaves_eq_dotted (h : v.Named) :
    v.leaves "" = v.walk.map fun leaf => (dotted leaf.1, leaf.2) := by
  rw [leaves_eq_walk h]
  apply List.map_congr_left
  rintro ⟨path, text⟩ hmem
  rw [foldl_subPath (h.notMem_path ((mem_walk_iff h).1 hmem))]

theorem leafUnder_iff (h : v.Named) {key : String} :
    v.LeafUnder key text ↔ (key, text) ∈ v.leaves "" := by
  rw [leaves_eq_dotted h, List.mem_map]
  constructor
  · rintro ⟨path, hleaf, rfl⟩
    exact ⟨(path, text), (mem_walk_iff h).2 hleaf, rfl⟩
  · rintro ⟨⟨path, text'⟩, hmem, heq⟩
    cases heq
    exact ⟨path, (mem_walk_iff h).1 hmem, rfl⟩

theorem unshared_of_nodup (h : v.Named) (hnodup : ((v.leaves "").map Prod.fst).Nodup) :
    v.Unshared := by
  intro path path' text text' hleaf hleaf' hkey
  rw [leaves_eq_dotted h, List.map_map] at hnodup
  have heq := List.inj_on_of_nodup_map hnodup ((mem_walk_iff h).2 hleaf)
    ((mem_walk_iff h).2 hleaf') hkey
  exact congrArg Prod.fst heq

end Toml.Value

section LastValue

variable {key text : String}

theorem lastValue?_concat (pairs : List (String × String)) (pair : String × String) :
    lastValue? (pairs ++ [pair]) key =
      if pair.1 = key then some pair.2 else lastValue? pairs key := by
  rw [lastValue?, List.reverse_concat, List.lookup_cons]
  by_cases h : pair.1 = key
  · rw [if_pos h, beq_iff_eq.2 h.symm]
  · rw [if_neg h, beq_false_of_ne (Ne.symm h), lastValue?]

theorem isSome_lastValue?_iff {pairs : List (String × String)} :
    (lastValue? pairs key).isSome = true ↔ ∃ text, (key, text) ∈ pairs := by
  induction pairs using List.reverseRecOn with
  | nil => simp [lastValue?]
  | append_singleton pairs pair ih =>
      rw [lastValue?_concat]
      simp only [List.mem_append, List.mem_singleton, exists_or]
      rw [← ih]
      by_cases h : pair.1 = key
      · rw [if_pos h, Option.isSome_some]
        exact iff_of_true rfl (.inr ⟨pair.2, Prod.ext h.symm rfl⟩)
      · rw [if_neg h]
        exact (or_iff_left fun ⟨text, heq⟩ => h (congrArg Prod.fst heq).symm).symm

open Toml.Value (Before not_before_self)

theorem lastValue?_eq_some_iff {written : List String → String}
    {walk : List (List String × String)}
    (h : walk.Pairwise fun leaf leaf' => Before leaf.1 leaf'.1) :
    lastValue? (walk.map fun leaf => (written leaf.1, leaf.2)) key = some text ↔
      ∃ path, (path, text) ∈ walk ∧ written path = key ∧
        ∀ path' text', (path', text') ∈ walk → written path' = key →
          path' = path ∨ Before path' path := by
  induction walk using List.reverseRecOn with
  | nil => simp [lastValue?]
  | append_singleton walk last ih =>
      obtain ⟨hwalk, -, hlast⟩ := List.pairwise_append.1 h
      rw [List.map_append, List.map_singleton, lastValue?_concat]
      by_cases hkey : written last.1 = key
      · rw [if_pos hkey, Option.some.injEq]
        constructor
        · rintro rfl
          refine ⟨last.1, by simp, hkey, fun path' text' hmem _ => ?_⟩
          rcases List.mem_append.1 hmem with hmem | hmem
          · exact .inr (hlast _ hmem _ (by simp))
          · exact .inl (congrArg Prod.fst (List.mem_singleton.1 hmem))
        · rintro ⟨path, hmem, -, hgreatest⟩
          rcases List.mem_append.1 hmem with hmem | hmem
          · -- The last leaf of the walk would be greater.
            have hbefore : Before path last.1 := hlast _ hmem _ (by simp)
            rcases hgreatest last.1 last.2 (by simp) hkey with heq | hafter
            · rw [heq] at hbefore
              exact absurd hbefore (not_before_self path)
            · exact absurd hafter hbefore.asymm
          · exact (congrArg Prod.snd (List.mem_singleton.1 hmem)).symm
      · rw [if_neg hkey, ih hwalk]
        -- The last leaf is not written so and does not count.
        have hmem {path : List String} {text : String} (hpath : written path = key) :
            (path, text) ∈ walk ++ [last] ↔ (path, text) ∈ walk := by
          rw [List.mem_append, List.mem_singleton]
          refine or_iff_left ?_
          rintro rfl
          exact hkey hpath
        constructor
        · rintro ⟨path, hpath, hk, hgreatest⟩
          exact ⟨path, (hmem hk).2 hpath, hk, fun path' text' h' hk' =>
            hgreatest path' text' ((hmem hk').1 h') hk'⟩
        · rintro ⟨path, hpath, hk, hgreatest⟩
          exact ⟨path, (hmem hk).1 hpath, hk, fun path' text' h' hk' =>
            hgreatest path' text' ((hmem hk').2 h') hk'⟩

end LastValue

namespace Toml.Value

variable {v : Value} {key text : String}

theorem lastValue?_leaves_iff (hread : v.EveryTable (List.Pairwise (· < ·))) (hnamed : v.Named) :
    lastValue? (v.leaves "") key = some text ↔ v.LastUnder key text := by
  rw [leaves_eq_dotted hnamed, lastValue?_eq_some_iff (pairwise_walk hread)]
  simp only [mem_walk_iff hnamed]
  exact Iff.rfl

theorem isSome_lastValue?_leaves_iff (hnamed : v.Named) :
    (lastValue? (v.leaves "") key).isSome = true ↔ ∃ text, v.LeafUnder key text := by
  rw [isSome_lastValue?_iff]
  exact exists_congr fun text => (leafUnder_iff hnamed).symm

theorem lastValue?_leaves_congr {v' : Value} (hread : v.EveryTable (List.Pairwise (· < ·)))
    (hread' : v'.EveryTable (List.Pairwise (· < ·))) (hnamed : v.Named) (hnamed' : v'.Named)
    (hunshared : v.Unshared) (h : ∀ key text, v.LeafUnder key text ↔ v'.LeafUnder key text)
    (key : String) : lastValue? (v'.leaves "") key = lastValue? (v.leaves "") key := by
  cases hvalue : lastValue? (v'.leaves "") key with
  | some text =>
      have hunder : v'.LeafUnder key text :=
        ((lastValue?_leaves_iff hread' hnamed').1 hvalue).leafUnder
      have hlast := hunshared.lastUnder ((h key text).2 hunder)
      exact ((lastValue?_leaves_iff hread hnamed).2 hlast).symm
  | none =>
      cases hvalue' : lastValue? (v.leaves "") key with
      | none => rfl
      | some text =>
          have hunder : v.LeafUnder key text :=
            ((lastValue?_leaves_iff hread hnamed).1 hvalue').leafUnder
          have hsome := (isSome_lastValue?_leaves_iff hnamed').2 ⟨text, (h key text).1 hunder⟩
          rw [hvalue] at hsome
          cases hsome

end Toml.Value

namespace Source

variable {text : String} {v : Value} {location : Option String} {label : String}

theorem ofToml_of_read? {fault : String → String} (h : Toml.read? text = some v) :
    ofToml fault location label text = .ok (.document location (v.leaves "")) := by
  rw [ofToml, h]

/-- A document has a value under a key when the path of some leaf is written so, and it is that of
the last of these. Documents with the same leaves under the same dotted paths, none of them shared,
are alike. -/
theorem ofToml_flattens (fault : String → String) (h : Toml.read? text = some v) (hnamed : v.Named)
    (location : Option String) (label : String) :
    ∃ source, ofToml fault location label text = .ok source ∧
      (∀ key, (source.lookup key).isSome = true ↔ ∃ leaf, v.LeafUnder key leaf) ∧
      (∀ key leaf, source.lookup key = some leaf ↔ v.LastUnder key leaf) ∧
      ∀ (text' : String) (v' : Value), Toml.read? text' = some v' → v'.Named → v.Unshared →
        (∀ key leaf, v.LeafUnder key leaf ↔ v'.LeafUnder key leaf) →
        ∀ (location' : Option String) (label' : String),
          ∃ source', ofToml fault location' label' text' = .ok source' ∧
            ∀ key, source'.lookup key = source.lookup key := by
  have hread := everyTable_read? h
  refine ⟨_, ofToml_of_read? h, fun key => Value.isSome_lastValue?_leaves_iff hnamed,
    fun key leaf => Value.lastValue?_leaves_iff hread hnamed, ?_⟩
  intro text' v' h' hnamed' hunshared hsame location' label'
  refine ⟨_, ofToml_of_read? h', ?_⟩
  exact Value.lastValue?_leaves_congr hread (everyTable_read? h') hnamed hnamed' hunshared hsame

def quotedKeys : Value :=
  .table [("trace", .table [("agent.port", .integer 8126)]), ("trace.agent.port", .integer 9)]

def dottedKeys : Value :=
  .table [("trace", .table [("agent.port", .integer 9)]), ("trace.tags", .array [.text "a"])]

def nestedTables : Value :=
  .table [("trace", .table
    [("agent", .table [("port", .integer 9)]), ("tags", .array [.text "a"])])]

theorem everyTable_quotedKeys {P : List String → Prop} :
    quotedKeys.EveryTable P ↔ P ["trace", "trace.agent.port"] ∧ P ["agent.port"] := by
  have hscalar (n : Int) : (Value.integer n).EveryTable P := .scalar rfl
  simp [quotedKeys, Value.everyTable_table_iff, hscalar]

theorem everyTable_dottedKeys {P : List String → Prop} :
    dottedKeys.EveryTable P ↔ P ["trace", "trace.tags"] ∧ P ["agent.port"] := by
  have hinteger (n : Int) : (Value.integer n).EveryTable P := .scalar rfl
  have htext (s : String) : (Value.text s).EveryTable P := .scalar rfl
  simp [dottedKeys, Value.everyTable_table_iff, Value.everyTable_array_iff, hinteger, htext]

theorem everyTable_nestedTables {P : List String → Prop} :
    nestedTables.EveryTable P ↔ P ["trace"] ∧ P ["agent", "tags"] ∧ P ["port"] := by
  have hinteger (n : Int) : (Value.integer n).EveryTable P := .scalar rfl
  have htext (s : String) : (Value.text s).EveryTable P := .scalar rfl
  simp [nestedTables, Value.everyTable_table_iff, Value.everyTable_array_iff, hinteger, htext]

theorem read?_of_sorted (htable : Toml.table? text = some v) (hresolve : v.resolve? = some v)
    (hsorted : v.EveryTable (List.Pairwise (· < ·))) : Toml.read? text = some v := by
  simp only [Toml.read?, htable, Option.bind_eq_bind, Option.bind_some, hresolve, Option.pure_def,
    hsorted.sorted_eq_self]

theorem read?_quotedKeys :
    Toml.read? "trace.\"agent.port\" = 8126\n\"trace.agent.port\" = 9\n" = some quotedKeys :=
  read?_of_sorted (by cbv) rfl (everyTable_quotedKeys.2 (by decide))

theorem read?_dottedKeys :
    Toml.read? "trace.\"agent.port\" = 9\n\"trace.tags\" = ['a']\n" = some dottedKeys :=
  read?_of_sorted (by cbv) rfl (everyTable_dottedKeys.2 (by decide))

theorem read?_nestedTables :
    Toml.read? "[trace]\nagent = \x7b port = 9 \x7d\ntags = ['a']\n" = some nestedTables :=
  read?_of_sorted (by cbv) rfl (everyTable_nestedTables.2 (by decide))

/-- Says nothing of a text that is no TOML. -/
def wordless : String → String := fun _ => ""

theorem ofToml_quotedAndNested :
    (quotedKeys.Named ∧ ∃ source,
      ofInlineToml wordless "trace.\"agent.port\" = 8126\n\"trace.agent.port\" = 9\n" = .ok source ∧
        source.lookup "trace.agent.port" = some "9" ∧
        quotedKeys.LastUnder "trace.agent.port" "9") ∧
      dottedKeys.Named ∧ nestedTables.Named ∧ dottedKeys.Unshared ∧
      ∃ source source',
        ofInlineToml wordless "trace.\"agent.port\" = 9\n\"trace.tags\" = ['a']\n" = .ok source ∧
          ofInlineToml wordless "[trace]\nagent = \x7b port = 9 \x7d\ntags = ['a']\n" = .ok source' ∧
          ∀ key, source'.lookup key = source.lookup key := by
  have hquoted : quotedKeys.Named := everyTable_quotedKeys.2 (by decide)
  have hdotted : dottedKeys.Named := everyTable_dottedKeys.2 (by decide)
  have hnested : nestedTables.Named := everyTable_nestedTables.2 (by decide)
  have hunshared : dottedKeys.Unshared :=
    Value.unshared_of_nodup hdotted (by decide +kernel)
  have hsame (key leaf : String) :
      dottedKeys.LeafUnder key leaf ↔ nestedTables.LeafUnder key leaf := by
    rw [Value.leafUnder_iff hdotted, Value.leafUnder_iff hnested]
    exact Iff.of_eq (congrArg ((key, leaf) ∈ ·) (by decide +kernel))
  obtain ⟨_, hok, -, hlast, -⟩ := ofToml_flattens wordless read?_quotedKeys hquoted none inlineLabel
  rw [ofToml_of_read? read?_quotedKeys] at hok
  cases hok
  have hvalue : lastValue? (quotedKeys.leaves "") "trace.agent.port" = some "9" := by
    decide +kernel
  refine ⟨⟨hquoted, _, ofToml_of_read? read?_quotedKeys, hvalue, (hlast _ _).1 hvalue⟩, hdotted,
    hnested, hunshared, ?_⟩
  obtain ⟨source, hsource, -, -, halike⟩ :=
    ofToml_flattens wordless read?_dottedKeys hdotted none inlineLabel
  obtain ⟨source', hsource', heq⟩ :=
    halike _ _ read?_nestedTables hnested hunshared hsame none inlineLabel
  exact ⟨source, source', hsource, hsource', heq⟩

end Source

end TracerSettings
