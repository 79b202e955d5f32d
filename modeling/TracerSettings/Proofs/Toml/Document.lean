import TracerSettings.Proofs.Toml.Lines
import TracerSettings.Proofs.Toml.Tables

namespace TracerSettings.Toml

namespace Outline

variable {f : Opening → Fields → Option Fields} {path path' : List String} {key : String}
  {opening : Opening} {fields root : Fields} {put : Fields → Fields}

theorem change_append (dotted : Bool) :
    change dotted f (path ++ path') opening fields =
      change dotted (change dotted f path') path opening fields := by
  induction path generalizing opening fields with
  | nil => rfl
  | cons key path ih => simp only [List.cons_append, change, ih]

/-- A table at `path`, with the document around it: `put` makes the whole of its fields. -/
def Place (path : List String) (opening : Opening) (put : Fields → Fields) : Prop :=
  ∀ f fields, change false f path .own (put fields) = (f opening fields).map put

theorem place_root : Place [] .own id := fun _ _ => Option.map_id'.symm

theorem Place.child (h : Place path opening put) (key : String) (opening' : Opening)
    (fields : Fields) :
    Place (path ++ [key]) opening' fun inner => put ((key, .table opening' inner) :: fields) := by
  intro f inner
  rw [change_append, h]
  simp only [change, List.lookup_cons_self, Outline.put]
  cases f opening' inner <;> simp

/-- The table at `path` holds `fields`, or it has none and is not there yet. -/
structure Focus (root : Fields) (path : List String) (opening : Opening) (fields : Fields)
    (put : Fields → Fields) : Prop where
  place : Place path opening put
  change : ∀ f, change false f path .own root = (f opening fields).map put

theorem Place.focus (h : Place path opening put) (fields : Fields) :
    Focus (put fields) path opening fields put :=
  ⟨h, fun f => h f fields⟩

namespace Focus

variable {node : Outline} {v : Value}

theorem child (h : Focus root path opening fields put) (hkey : fields.lookup key = none) :
    Focus root (path ++ [key]) .passing []
      fun inner => put ((key, .table .passing inner) :: fields) := by
  refine ⟨h.place.child key .passing fields, fun f => ?_⟩
  rw [change_append, h.change]
  simp only [Outline.change, hkey, Bool.false_eq_true, if_false]
  cases f .passing [] <;> simp

theorem openTable (h : Focus root path opening fields put) (hkey : fields.lookup key = none) :
    openTable path key .own root = some (put ((key, .table .own []) :: fields)) := by
  rw [Outline.openTable, h.change, hkey]
  rfl

theorem assign (h : Focus root path opening fields put) (hopening : opening ≠ .dotted)
    (hkey : fields.lookup key = none) (v : Value) :
    inside path (assign [] key v) root = some (put ((key, .value v) :: fields)) := by
  rw [inside, h.change, Outline.assign]
  simp [Outline.change, hkey, hopening]

end Focus

end Outline

/-- What a document can hold at a given depth: what stands behind a key, and tables that give no key
twice. -/
inductive Value.Formed : Nat → Value → Prop
  | plain {depth : Nat} {v : Value} (h : v.Plain) : Formed depth v
  | table {depth : Nat} {entries : Entries} (hkeys : (entries.map Prod.fst).Nodup)
      (h : ∀ entry ∈ entries, Formed depth entry.2) : Formed (depth + 1) (.table entries)

theorem sortEntries_eq_of_perm {α : Type} {entries entries' : List (String × α)}
    (h : entries.Perm entries') (hkeys : (entries.map Prod.fst).Nodup) :
    sortEntries entries = sortEntries entries' := by
  have hkeys' : (entries'.map Prod.fst).Nodup := (h.map Prod.fst).nodup_iff.1 hkeys
  have hperm : (sortEntries entries).Perm (sortEntries entries') :=
    (List.mergeSort_perm _ _).trans (h.trans (List.mergeSort_perm _ _).symm)
  refine hperm.eq_of_pairwise ?_ (List.pairwise_map.1 (Value.pairwise_sortEntries hkeys))
    (List.pairwise_map.1 (Value.pairwise_sortEntries hkeys'))
  exact fun _ _ _ _ hlt hlt' => absurd hlt (lt_asymm hlt')

theorem Value.Plain.isTable_eq_false {v : Value} (h : v.Plain) : Printer.isTable v = false := by
  cases h <;> rfl

theorem Value.Formed.plain_of_isTable {depth : Nat} {v : Value} (h : v.Formed depth)
    (hv : Printer.isTable v = false) : v.Plain := by
  cases h with
  | plain h => exact h
  | table => cases hv

def values (entries : Entries) : Entries := entries.filter fun entry => !Printer.isTable entry.2

def subtables (entries : Entries) : Entries := entries.filter fun entry => Printer.isTable entry.2

theorem subtables_append_values (entries : Entries) :
    (subtables entries ++ values entries).Perm entries := List.filter_append_perm _ entries

theorem Value.Formed.plain_of_mem_values {depth : Nat} {entries : Entries}
    (h : ∀ entry ∈ entries, entry.2.Formed depth) : ∀ entry ∈ values entries, entry.2.Plain := by
  intro entry hentry
  obtain ⟨hmem, hv⟩ := List.mem_filter.1 hentry
  exact (h entry hmem).plain_of_isTable (by simpa using hv)

namespace Outline

def valueFields (entries : Entries) : Fields :=
  (entries.map fun entry => (entry.1, .value entry.2)).reverse

theorem nodup_keys {entries : Entries} (hkeys : (entries.map Prod.fst).Nodup) :
    ((subtables entries).map Prod.fst ++
      (valueFields (values entries)).map Prod.fst).Nodup := by
  have hnodup := ((subtables_append_values entries).map Prod.fst).nodup_iff.2 hkeys
  rw [List.map_append] at hnodup
  have hreverse : (valueFields (values entries)).map Prod.fst =
      ((values entries).map Prod.fst).reverse := by
    simp [valueFields, Function.comp_def]
  rw [hreverse]
  exact ((List.reverse_perm _).append_left _).nodup_iff.2 hnodup

/-- The fields of tables denote the tables among some entries, up to the order of keys. -/
def Denote (nodes : Fields) (entries : Entries) : Prop :=
  nodes.map (fun node => (node.1, (toValue node.2).sorted)) =
    ((subtables entries).map fun entry => (entry.1, entry.2.sorted)).reverse

theorem sorted_toTable {nodes : Fields} {entries : Entries} (hkeys : (entries.map Prod.fst).Nodup)
    (hdenote : Denote nodes entries) :
    (toTable (nodes ++ valueFields (values entries))).sorted =
      (Value.table entries).sorted := by
  let sortedEntry : String × Value → String × Value := fun entry => (entry.1, entry.2.sorted)
  have hread : ((toEntries (nodes ++ valueFields (values entries))).reverse).map
      sortedEntry = (values entries ++ subtables entries).map sortedEntry := by
    have hnodes : (nodes.map fun node => (node.1, toValue node.2)).map sortedEntry =
        ((subtables entries).map sortedEntry).reverse := by
      simpa [Denote, sortedEntry, Function.comp_def] using hdenote
    rw [toEntries_eq, List.map_append, List.reverse_append, List.map_append,
      List.map_append, List.map_reverse, List.map_reverse, hnodes, List.reverse_reverse]
    simp [valueFields, sortedEntry, toValue, Function.comp_def]
  have hperm : ((values entries ++ subtables entries).map sortedEntry).Perm
      (entries.map sortedEntry) :=
    (List.perm_append_comm.trans (subtables_append_values entries)).map sortedEntry
  have hnodup : (((values entries ++ subtables entries).map sortedEntry).map Prod.fst).Nodup := by
    rw [(hperm.map Prod.fst).nodup_iff, List.map_map]
    exact hkeys
  rw [toTable, Value.sorted, Value.sorted, Value.sortedFields_eq, Value.sortedFields_eq]
  exact congrArg Value.table ((congrArg sortEntries hread).trans
    (sortEntries_eq_of_perm hperm hnodup))

end Outline

namespace Progress

open Outline (Place Focus Fields Denote nodup_keys sorted_toTable)

variable {path : List String} {opening : Opening} {fields root : Fields}
  {put : Fields → Fields}

theorem reads_assignments (fields : Fields) (h : Place path opening put)
    (hopening : opening ≠ .dotted) {entries : Entries} (hplain : ∀ entry ∈ entries, entry.2.Plain)
    (hkeys : (entries.map Prod.fst ++ fields.map Prod.fst).Nodup) :
    Reads ⟨put fields, path⟩ (entries.flatMap fun entry => assignmentText entry.1 entry.2)
      ⟨put (Outline.valueFields entries ++ fields), path⟩ := by
  induction entries generalizing fields with
  | nil => exact .refl _
  | cons entry entries ih =>
      obtain ⟨k, v⟩ := entry
      have hkey : fields.lookup k = none := by
        rw [Outline.lookup_eq_none_iff_notMem]
        grind
      have hfirst := reads_assignment (p := ⟨put fields, path⟩) (hplain _ List.mem_cons_self)
        ((h.focus fields).assign hopening hkey v)
      have hrest := ih ((k, .value v) :: fields)
        (fun e he => hplain e (List.mem_cons_of_mem _ he)) (by grind)
      have htrans := hfirst.trans hrest
      simpa [Outline.valueFields] using htrans

def spaced (blocks : List String) : List Char := blocks.flatMap fun block => '\n' :: block.toList

theorem toList_header (path : List String) : (Printer.header path).toList = headerText path := by
  simp [Printer.header, headerText, keyPath, String.toList_intercalate, Function.comp_def]

theorem toList_assignments (entries : Entries) :
    (Printer.assignments entries).toList =
      (values entries).flatMap fun entry => assignmentText entry.1 entry.2 := by
  simp [Printer.assignments, values, String.toList_join, List.flatMap_map, assignmentText]

theorem assignments_eq_empty (entries : Entries) :
    (Printer.assignments entries).isEmpty = (values entries).isEmpty := by
  have hlist := toList_assignments entries
  rcases hvalues : values entries with _ | ⟨entry, rest⟩
  · rw [hvalues, List.flatMap_nil, String.toList_eq_nil_iff] at hlist
    rw [hlist]
    rfl
  · have hne : (Printer.assignments entries).toList ≠ [] := by
      rw [hlist, hvalues]
      simp [assignmentText]
    simpa using hne

theorem tables_eq_nil {v : Value} (h : ¬Printer.isTable v = true) : Printer.tables path v = [] := by
  cases v with
  | table => exact absurd rfl h
  | _ => rfl

def ReadsTable (root : Fields) (path : List String) (put : Fields → Fields) (fields : Fields)
    (k : String) (v : Value) : Prop :=
  ∀ header, ∃ node header', (Outline.toValue node).sorted = v.sorted ∧
    Reads ⟨root, header⟩ (spaced (Printer.tables (path ++ [k]) v))
      ⟨put ((k, node) :: fields), header'⟩

def ReadsTables (path : List String) (opening : Opening) (put : Fields → Fields)
    (entries : Entries) : Prop :=
  ∀ entry ∈ entries, Printer.isTable entry.2 = true →
    ∀ {root fields : Fields}, Focus root path opening fields put →
      fields.lookup entry.1 = none → ReadsTable root path put fields entry.1 entry.2

theorem reads_entryTables {entries : Entries} (h : ReadsTables path opening put entries)
    (hfocus : Focus root path opening fields put)
    (hkeys : ((subtables entries).map Prod.fst ++ fields.map Prod.fst).Nodup)
    (header : List String) : ∃ root' header' nodes,
      Reads ⟨root, header⟩ (spaced (Printer.entryTables path entries)) ⟨root', header'⟩ ∧
        Denote nodes entries ∧
      (root = put fields ∨ (∃ entry ∈ entries, Printer.isTable entry.2 = true) →
        root' = put (nodes ++ fields)) := by
  induction entries generalizing root fields header with
  | nil => exact ⟨root, header, [], .refl _, rfl, by simp⟩
  | cons entry entries ih =>
      obtain ⟨k, v⟩ := entry
      have hrest : ReadsTables path opening put entries :=
        fun entry hentry => h entry (List.mem_cons_of_mem _ hentry)
      by_cases hv : Printer.isTable v = true
      · have hsub : subtables ((k, v) :: entries) = (k, v) :: subtables entries := by
          simp [subtables, hv]
        rw [hsub] at hkeys
        have hkey : fields.lookup k = none := by
          rw [Outline.lookup_eq_none_iff_notMem]
          grind
        obtain ⟨node, passed, hnode, hread⟩ := h (k, v) List.mem_cons_self hv hfocus hkey header
        obtain ⟨root', header', nodes, hreads, hdenote, hroot⟩ :=
          ih hrest (hfocus.place.focus ((k, node) :: fields)) (by grind) passed
        refine ⟨root', header', nodes ++ [(k, node)], ?_, ?_, ?_⟩
        · have htrans := hread.trans hreads
          simpa [Printer.entryTables, spaced] using htrans
        · simp only [Denote] at hdenote ⊢
          simp [hdenote, hsub, hnode]
        · intro _
          simpa using hroot (.inl rfl)
      · have hsub : subtables ((k, v) :: entries) = subtables entries := by
          simp [subtables, hv]
        rw [hsub] at hkeys
        obtain ⟨root', header', nodes, hreads, hdenote, hroot⟩ :=
          ih hrest hfocus hkeys header
        have hnone : Printer.tables (path ++ [k]) v = [] := tables_eq_nil hv
        refine ⟨root', header', nodes, ?_, ?_, ?_⟩
        · simpa [Printer.entryTables, hnone] using hreads
        · simpa [Denote, hsub] using hdenote
        · simpa [hv] using hroot

theorem reads_entries {entries : Entries} (hplace : Place path opening put)
    (hopening : opening ≠ .dotted) (h : ReadsTables path opening put entries)
    (hplain : ∀ entry ∈ values entries, entry.2.Plain)
    (hkeys : (entries.map Prod.fst).Nodup) : ∃ header' nodes,
      Reads ⟨put [], path⟩ ((Printer.assignments entries).toList ++
          spaced (Printer.entryTables path entries))
        ⟨put (nodes ++ Outline.valueFields (values entries)), header'⟩ ∧ Denote nodes entries := by
  have hvalues : ((values entries).map Prod.fst).Nodup :=
    hkeys.sublist (List.filter_sublist.map _)
  have hown := reads_assignments [] hplace hopening hplain (by simpa using hvalues)
  rw [List.append_nil] at hown
  obtain ⟨root', header', nodes, hreads, hdenote, hroot⟩ :=
    reads_entryTables h (hplace.focus (Outline.valueFields (values entries)))
      (nodup_keys hkeys) path
  refine ⟨header', nodes, ?_, hdenote⟩
  rw [hroot (.inl rfl)] at hreads
  rw [toList_assignments]
  exact hown.trans hreads

theorem reads_tables {depth : Nat} {v : Value} (hv : v.Formed depth)
    (htable : Printer.isTable v = true) (hdepth : path.length + depth ≤ nestingLimit)
    (hopening : opening ≠ .dotted) {k : String} (hfocus : Focus root path opening fields put)
    (hkey : fields.lookup k = none) : ReadsTable root path put fields k v := by
  induction hv generalizing path opening root fields put k with
  | plain h => simp [h.isTable_eq_false] at htable
  | @table depth entries hkeys hentries ih =>
      have hlength : (path ++ [k]).length + depth ≤ nestingLimit := by grind
      have hchildren {opening : Opening} (hopening : opening ≠ .dotted) {put : Fields → Fields} :
          ReadsTables (path ++ [k]) opening put entries :=
        fun entry hentry ht root fields hf hk => ih entry hentry ht hlength hopening hf hk
      have hblocks : Printer.tables (path ++ [k]) (.table entries) =
          if (values entries).isEmpty && !entries.isEmpty then
            Printer.entryTables (path ++ [k]) entries
          else (Printer.header (path ++ [k]) ++ Printer.assignments entries) ::
            Printer.entryTables (path ++ [k]) entries := by
        rw [Printer.tables, assignments_eq_empty]
      intro header
      rw [hblocks]
      split
      case isTrue hpassed =>
        -- No header is written, so the first of the tables inside opens this one.
        obtain ⟨hnone, hsome⟩ : values entries = [] ∧ entries ≠ [] := by simpa using hpassed
        have hsubkeys : ((subtables entries).map Prod.fst).Nodup :=
          hkeys.sublist (List.filter_sublist.map _)
        obtain ⟨root', header', nodes, hreads, hdenote, hroot⟩ :=
          reads_entryTables (hchildren (by decide)) (hfocus.child hkey)
            (by simpa using hsubkeys) header
        have hany : ∃ entry ∈ entries, Printer.isTable entry.2 = true := by
          obtain ⟨entry, hentry⟩ := List.exists_mem_of_ne_nil _ hsome
          refine ⟨entry, hentry, ?_⟩
          by_contra hv
          have hmem : entry ∈ values entries := List.mem_filter.2 ⟨hentry, by simpa using hv⟩
          simp [hnone] at hmem
        have hnode := sorted_toTable hkeys hdenote
        refine ⟨.table .passing nodes, header', ?_, ?_⟩
        · rw [hnone] at hnode
          simpa [Outline.valueFields, Outline.toTable, Outline.toValue] using hnode
        · rw [hroot (.inr hany)] at hreads
          simpa using hreads
      case isFalse =>
        obtain ⟨header', nodes, hreads, hdenote⟩ :=
          reads_entries (hfocus.place.child k .own fields) (by decide) (hchildren (by decide))
            (Value.Formed.plain_of_mem_values hentries) hkeys
        have hheader := reads_header (p := ⟨root, header⟩) (by grind) (hfocus.openTable hkey)
        refine ⟨.table .own (nodes ++ Outline.valueFields (values entries)), header',
          sorted_toTable hkeys hdenote, ?_⟩
        have htrans := (reads_blank ⟨root, header⟩).trans (hheader.trans hreads)
        simpa [spaced, toList_header] using htrans

theorem toList_intercalate_newline (block : String) (blocks : List String) :
    ("\n".intercalate (block :: blocks)).toList = block.toList ++ spaced blocks := by
  induction blocks generalizing block with
  | nil => simp [spaced]
  | cons next blocks ih =>
      have hcons : "\n".intercalate (block :: next :: blocks) =
          block ++ "\n" ++ "\n".intercalate (next :: blocks) := by
        simp
      rw [hcons, String.toList_append, ih]
      simp [spaced]

theorem run_document (p : Progress) (entries : Entries) :
    p.run (Printer.document entries).toList =
      p.run ((Printer.assignments entries).toList ++ spaced (Printer.entryTables [] entries)) := by
  rw [Printer.document]
  split
  case isTrue hempty =>
    rw [String.isEmpty_iff.1 hempty, String.toList_empty, List.nil_append]
    rcases Printer.entryTables [] entries with _ | ⟨block, blocks⟩
    · rfl
    · rw [toList_intercalate_newline]
      exact (reads_blank p (block.toList ++ spaced blocks)).symm
  case isFalse => rw [toList_intercalate_newline]

end Progress

/-- The document of a table denotes the table, in the order of its keys. -/
theorem sorted_table?_document {depth : Nat} {entries : Entries}
    (h : (Value.table entries).Formed depth) (hdepth : depth ≤ nestingLimit)
    (hwhole : dropMark (Printer.document entries).toList = (Printer.document entries).toList) :
    (table? (Printer.document entries)).map Value.sorted = some (Value.table entries).sorted := by
  cases h with
  | plain h => exact absurd h.isTable_eq_false (by simp [Printer.isTable])
  | @table depth _ hkeys hentries =>
      have hchildren : Progress.ReadsTables [] .own id entries :=
        fun entry hentry ht root fields hf hk =>
          Progress.reads_tables (hentries entry hentry) ht (by simp; omega) (by decide) hf hk
      obtain ⟨header, nodes, hreads, hdenote⟩ := Progress.reads_entries Outline.place_root
        (by decide) hchildren (Value.Formed.plain_of_mem_values hentries) hkeys
      have hrun : Progress.start.run (Printer.document entries).toList =
          some ⟨nodes ++ Outline.valueFields (values entries), header⟩ := by
        have hall := hreads []
        rw [List.append_nil, Progress.run_nil] at hall
        rw [Progress.run_document]
        exact hall
      have htable := table?_eq_run hwhole
      rw [String.ofList_toList] at htable
      rw [htable, hrun]
      exact congrArg some (Outline.sorted_toTable hkeys hdenote)

end TracerSettings.Toml
