import Mathlib.Data.List.Nodup
import Mathlib.Data.Option.Basic
import Mathlib.Data.String.Basic
import TracerSettings.Proofs.MapM
import TracerSettings.Toml.Reader

namespace TracerSettings.Toml

/-- The keys of every table in a value, those inside of arrays too, satisfy `P`. -/
inductive Value.EveryTable (P : List String → Prop) : Value → Prop
  | scalar {v : Value} (h : v.scalarText.isSome = true) : EveryTable P v
  | array {items : List Value} (h : ∀ item ∈ items, EveryTable P item) :
      EveryTable P (.array items)
  | table {entries : Entries} (hkeys : P (entries.map Prod.fst))
      (h : ∀ entry ∈ entries, EveryTable P entry.2) : EveryTable P (.table entries)

/-- An outline of which every table holds each of its keys once. -/
inductive Outline.Distinct : Outline → Prop
  | value {v : Value} (h : v.EveryTable List.Nodup) : Distinct (.value v)
  | table {opening : Opening} {fields : Fields} (hkeys : (fields.map Prod.fst).Nodup)
      (h : ∀ field ∈ fields, Distinct field.2) : Distinct (.table opening fields)
  | tables {items : List Fields} (hkeys : ∀ fields ∈ items, (fields.map Prod.fst).Nodup)
      (h : ∀ fields ∈ items, ∀ field ∈ fields, Distinct field.2) : Distinct (.tables items)

namespace Outline

structure FieldsDistinct (fields : Fields) : Prop where
  keys : (fields.map Prod.fst).Nodup
  nodes : ∀ field ∈ fields, field.2.Distinct

variable {fields fields' : Fields} {key : String} {node : Outline} {opening : Opening}

theorem fieldsDistinct_nil : FieldsDistinct [] := ⟨List.nodup_nil, by simp⟩

theorem distinct_table_iff : (Outline.table opening fields).Distinct ↔ FieldsDistinct fields := by
  constructor
  · intro h
    cases h with
    | table hkeys h => exact ⟨hkeys, h⟩
  · exact fun h => .table h.keys h.nodes

theorem distinct_tables_iff {items : List Fields} :
    (Outline.tables items).Distinct ↔ ∀ fields ∈ items, FieldsDistinct fields := by
  constructor
  · intro h
    cases h with
    | tables hkeys h => exact fun fields hfields => ⟨hkeys fields hfields, h fields hfields⟩
  · exact fun h => .tables (fun fields hf => (h fields hf).keys) fun fields hf => (h fields hf).nodes

theorem lookup_eq_none_iff_notMem {α : Type} {fields : List (String × α)} :
    fields.lookup key = none ↔ key ∉ fields.map Prod.fst := by
  rw [List.lookup_eq_none_iff]
  simp only [bne_iff_ne, ne_eq, List.mem_map, not_exists, not_and]
  exact forall₂_congr fun _ _ => not_congr eq_comm

theorem mem_of_lookup {α : Type} {fields : List (String × α)} {node : α}
    (h : fields.lookup key = some node) : (key, node) ∈ fields := by
  obtain ⟨before, after, rfl, -⟩ := List.lookup_eq_some_iff.1 h
  simp

namespace FieldsDistinct

theorem cons (h : FieldsDistinct fields) (hkey : fields.lookup key = none) (hnode : node.Distinct) :
    FieldsDistinct ((key, node) :: fields) where
  keys := List.nodup_cons.2 ⟨lookup_eq_none_iff_notMem.1 hkey, h.keys⟩
  nodes := List.forall_mem_cons.2 ⟨hnode, h.nodes⟩

theorem put {seen : Fields} (h : FieldsDistinct (seen.reverse ++ fields))
    (hseen : key ∉ seen.map Prod.fst) (hnode : node.Distinct) :
    FieldsDistinct (put key node seen fields) := by
  induction fields generalizing seen with
  | nil =>
      rw [List.append_nil] at h
      refine ⟨List.nodup_cons.2 ⟨?_, h.keys⟩, List.forall_mem_cons.2 ⟨hnode, h.nodes⟩⟩
      rwa [List.map_reverse, List.mem_reverse]
  | cons field rest ih =>
      obtain ⟨k, old⟩ := field
      rw [Outline.put]
      by_cases hk : k = key
      · rw [if_pos hk]
        obtain ⟨hkeys, hnodes⟩ := h
        rw [List.map_append] at hkeys
        rw [List.forall_mem_append, List.forall_mem_cons] at hnodes
        refine ⟨by rwa [List.map_append], ?_⟩
        rw [List.forall_mem_append, List.forall_mem_cons]
        exact ⟨hnodes.1, hnode, hnodes.2.2⟩
      · rw [if_neg hk]
        apply ih
        · rwa [List.reverse_cons, List.append_assoc, List.singleton_append]
        · rw [List.map_cons, List.mem_cons, not_or]
          exact ⟨Ne.symm hk, hseen⟩

theorem renew (h : FieldsDistinct fields) (hnode : node.Distinct) :
    FieldsDistinct (renew key node fields) := by
  have hsub : (fields.filter fun field => field.1 != key).Sublist fields := List.filter_sublist
  refine ⟨List.nodup_cons.2 ⟨?_, h.keys.sublist (hsub.map _)⟩,
    List.forall_mem_cons.2 ⟨hnode, fun field hfield => h.nodes field (hsub.subset hfield)⟩⟩
  simp

end FieldsDistinct

def Keeps (f : Opening → Fields → Option Fields) : Prop :=
  ∀ opening fields fields', FieldsDistinct fields → f opening fields = some fields' →
    FieldsDistinct fields'

theorem keeps_change {dotted : Bool} {f : Opening → Fields → Option Fields} (hf : Keeps f)
    (path : List String) : Keeps (change dotted f path) := by
  induction path with
  | nil => exact fun opening fields fields' h hchange => hf opening fields fields' h hchange
  | cons key path ih =>
      intro opening fields fields' h hchange
      rw [change] at hchange
      split at hchange
      · rename_i hnone
        simp only [Option.bind_eq_bind, Option.bind_eq_some_iff, Option.pure_def,
          Option.some.injEq] at hchange
        obtain ⟨inner, hinner, rfl⟩ := hchange
        exact h.cons hnone (distinct_table_iff.2 (ih _ _ _ fieldsDistinct_nil hinner))
      · rename_i opening' inner hsome
        split at hchange
        · cases hchange
        · simp only [Option.bind_eq_bind, Option.bind_eq_some_iff, Option.pure_def,
            Option.some.injEq] at hchange
          obtain ⟨inner', hinner, rfl⟩ := hchange
          have hold := distinct_table_iff.1 (h.nodes _ (mem_of_lookup hsome))
          exact FieldsDistinct.put h List.not_mem_nil (distinct_table_iff.2 (ih _ _ _ hold hinner))
      · rename_i last earlier hsome
        simp only [Option.bind_eq_bind, Option.bind_eq_some_iff, Option.pure_def,
          Option.some.injEq] at hchange
        obtain ⟨last', hlast, rfl⟩ := hchange
        have hold := List.forall_mem_cons.1 (distinct_tables_iff.1 (h.nodes _ (mem_of_lookup hsome)))
        exact FieldsDistinct.put h List.not_mem_nil
          (distinct_tables_iff.2 (List.forall_mem_cons.2 ⟨ih _ _ _ hold.1 hlast, hold.2⟩))
      · cases hchange
      · cases hchange

theorem keeps_assign (path : List String) (key : String) {v : Value}
    (hv : v.EveryTable List.Nodup) : Keeps (assign path key v) := by
  apply keeps_change
  intro opening fields fields' h hassign
  dsimp only at hassign
  split at hassign
  · cases hassign
  · split at hassign
    · cases hassign
    · rename_i hnone
      rw [Bool.not_eq_true, Option.isSome_eq_false_iff, Option.isNone_iff_eq_none] at hnone
      cases hassign
      exact h.cons hnone (.value hv)

theorem keeps_openTable (path : List String) (key : String) : Keeps (openTable path key) := by
  apply keeps_change
  intro opening fields fields' h hopen
  dsimp only at hopen
  split at hopen
  · cases hopen
    exact h.cons ‹_› (distinct_table_iff.2 fieldsDistinct_nil)
  · rename_i inner hsome
    cases hopen
    exact h.renew (distinct_table_iff.2 (distinct_table_iff.1 (h.nodes _ (mem_of_lookup hsome))))
  · cases hopen

theorem keeps_openItem (path : List String) (key : String) : Keeps (openItem path key) := by
  apply keeps_change
  intro opening fields fields' h hopen
  dsimp only at hopen
  split at hopen
  · cases hopen
    exact h.cons ‹_› (distinct_tables_iff.2 (by simp [fieldsDistinct_nil]))
  · rename_i items hsome
    cases hopen
    have hold := distinct_tables_iff.1 (h.nodes _ (mem_of_lookup hsome))
    exact FieldsDistinct.put h List.not_mem_nil
      (distinct_tables_iff.2 (List.forall_mem_cons.2 ⟨fieldsDistinct_nil, hold⟩))
  · cases hopen

theorem toEntries_eq (fields : Fields) :
    toEntries fields = fields.map fun field => (field.1, toValue field.2) := by
  induction fields with
  | nil => rfl
  | cons field rest ih => rw [toEntries, ih, List.map_cons]

theorem toItems_eq (items : List Fields) : toItems items = items.map toTable := by
  induction items with
  | nil => rfl
  | cons fields rest ih =>
      rw [toItems, ih]
      rfl

theorem everyTable_toTable_of (hkeys : (fields.map Prod.fst).Nodup)
    (h : ∀ field ∈ fields, (toValue field.2).EveryTable List.Nodup) :
    (toTable fields).EveryTable List.Nodup := by
  rw [toTable, toEntries_eq]
  apply Value.EveryTable.table
  · rw [List.map_reverse, List.nodup_reverse, List.map_map]
    exact hkeys
  · intro entry hentry
    rw [List.mem_reverse, List.mem_map] at hentry
    obtain ⟨field, hfield, rfl⟩ := hentry
    exact h field hfield

theorem Distinct.everyTable (h : node.Distinct) : (toValue node).EveryTable List.Nodup := by
  induction h with
  | value h => exact h
  | table hkeys _ ih => exact everyTable_toTable_of hkeys ih
  | tables hkeys _ ih =>
      rw [toValue, toItems_eq]
      apply Value.EveryTable.array
      intro item hitem
      rw [List.mem_reverse, List.mem_map] at hitem
      obtain ⟨fields, hfields, rfl⟩ := hitem
      exact everyTable_toTable_of (hkeys fields hfields) (ih fields hfields)

theorem FieldsDistinct.everyTable (h : FieldsDistinct fields) :
    (toTable fields).EveryTable List.Nodup := by
  have hown : (Outline.table .own fields).Distinct := distinct_table_iff.2 h
  exact hown.everyTable

end Outline

namespace Scalar

variable {cs rest : List Char} {v : Value}

theorem isSome_scalarText_word {w : String} {u : Value} (hu : u.scalarText.isSome = true)
    (h : word w u cs = some (v, rest)) : v.scalarText.isSome = true := by
  rw [word, Option.ite_none_right_eq_some] at h
  cases h.2
  exact hu

theorem isSome_scalarText_special (h : special cs = some (v, rest)) :
    v.scalarText.isSome = true := by
  simp only [special, Option.orElse_eq_orElse, Option.orElse_eq_or, Option.or_eq_some_iff] at h
  rcases h with h | ⟨-, h⟩
  · exact isSome_scalarText_word rfl h
  · exact isSome_scalarText_word rfl h

theorem isSome_scalarText_realOf {literal : List Char} (h : realOf literal = some v) :
    v.scalarText.isSome = true := by
  unfold realOf at h
  split at h <;> cases h
  rfl

theorem isSome_scalarText_real (h : real cs = some (v, rest)) : v.scalarText.isSome = true := by
  simp only [real, Option.bind_eq_bind, Option.bind_eq_some_iff, Prod.exists] at h
  obtain ⟨w, cs', -, h⟩ := h
  split at h
  · simp only [Option.bind_eq_some_iff, Option.pure_def, Option.some.injEq, Prod.mk.injEq] at h
    obtain ⟨u, hu, rfl, -⟩ := h
    exact isSome_scalarText_realOf hu
  · simp only [Option.bind_eq_some_iff, Option.pure_def, Option.some.injEq, Prod.mk.injEq,
      Prod.exists] at h
    obtain ⟨e, cs'', -, u, hu, rfl, -⟩ := h
    exact isSome_scalarText_realOf hu

theorem isSome_scalarText_ofRadix {radix : Nat} {isDigit : Char → Bool}
    (h : ofRadix radix isDigit cs = some (v, rest)) : v.scalarText.isSome = true := by
  simp only [ofRadix, Option.bind_eq_bind, Option.bind_eq_some_iff, Option.pure_def,
    Option.some.injEq, Prod.mk.injEq, Prod.exists] at h
  obtain ⟨ds, cs', -, -, -, rfl, -⟩ := h
  rfl

theorem isSome_scalarText_integer (h : integer cs = some (v, rest)) :
    v.scalarText.isSome = true := by
  unfold integer at h
  split at h
  · exact isSome_scalarText_ofRadix h
  · exact isSome_scalarText_ofRadix h
  · exact isSome_scalarText_ofRadix h
  · simp only [Option.bind_eq_bind, Option.bind_eq_some_iff, Prod.exists] at h
    obtain ⟨w, cs', -, h⟩ := h
    split at h <;> cases h
    rfl

theorem isSome_scalarText_read {fuel : Nat} (h : read fuel cs = some (v, rest)) :
    v.scalarText.isSome = true := by
  unfold read at h
  split at h
  · cases h
  · split at h
    · simp only [Option.map_eq_some_iff, Prod.mk.injEq, Prod.exists] at h
      obtain ⟨s, cs', -, rfl, -⟩ := h
      rfl
    · split at h
      · exact isSome_scalarText_word rfl h
      · split at h
        · exact isSome_scalarText_word rfl h
        · simp only [Option.orElse_eq_orElse, Option.orElse_eq_or, Option.or_eq_some_iff] at h
          rcases h with h | ⟨-, h | ⟨-, h | ⟨-, h⟩⟩⟩
          · simp only [datetime, Option.map_eq_some_iff, Prod.mk.injEq, Prod.exists] at h
            obtain ⟨d, cs', -, rfl, -⟩ := h
            rfl
          · exact isSome_scalarText_real h
          · exact isSome_scalarText_special h
          · exact isSome_scalarText_integer h

end Scalar

section Read

open Outline (FieldsDistinct)

variable {cs rest : List Char} {item : Quoted.Read Value} {v : Value} {length : Nat}

theorem everyTable_arrayFrom {P : List String → Prop} {fuel : Nat} {seen items : List Value}
    (hitem : ∀ cs v rest, item cs = some (v, rest) → v.EveryTable P)
    (hseen : ∀ v ∈ seen, v.EveryTable P) (h : arrayFrom item fuel seen cs = some (items, rest)) :
    ∀ v ∈ items, v.EveryTable P := by
  induction fuel generalizing seen cs with
  | zero => cases h
  | succ fuel ih =>
      simp only [arrayFrom, Option.bind_eq_bind, Option.bind_eq_some_iff] at h
      obtain ⟨gap, -, h⟩ := h
      split at h
      · cases h
        exact hseen
      · simp only [Option.bind_eq_some_iff, Prod.exists] at h
        obtain ⟨v, cs', hv, gap', -, h⟩ := h
        have hseen' := List.forall_mem_cons.2 ⟨hitem _ v cs' hv, hseen⟩
        split at h
        · exact ih hseen' h
        · cases h
          exact hseen'
        · cases h

theorem fieldsDistinct_bracesFrom {fuel : Nat} {fields out : Outline.Fields}
    (hitem : ∀ cs v rest, item cs = some (v, rest) → v.EveryTable List.Nodup)
    (hfields : FieldsDistinct fields)
    (h : bracesFrom item length fuel fields cs = some (out, rest)) : FieldsDistinct out := by
  induction fuel generalizing fields cs with
  | zero => cases h
  | succ fuel ih =>
      simp only [bracesFrom, Option.bind_eq_bind, Option.bind_eq_some_iff, Prod.exists] at h
      obtain ⟨path, last, cs₁, -, cs₂, -, v, cs₃, hv, fields', hassign, h⟩ := h
      have hfields' :=
        Outline.keeps_assign path last (hitem _ v cs₃ hv) _ _ _ hfields hassign
      split at h
      · exact ih hfields' h
      · cases h
        exact hfields'
      · cases h

theorem everyTable_value {depth : Nat} (h : value length depth cs = some (v, rest)) :
    v.EveryTable List.Nodup := by
  induction depth generalizing cs v rest with
  | zero => exact .scalar (Scalar.isSome_scalarText_read h)
  | succ depth ih =>
      have hitem (cs : List Char) (v : Value) (rest : List Char)
          (h : value length depth cs = some (v, rest)) : v.EveryTable List.Nodup := ih h
      unfold value at h
      split at h
      · simp only [Option.map_eq_some_iff, Prod.mk.injEq, Prod.exists] at h
        obtain ⟨items, cs', hitems, rfl, -⟩ := h
        apply Value.EveryTable.array
        intro v hv
        exact everyTable_arrayFrom hitem (by simp) hitems v (List.mem_reverse.1 hv)
      · split at h
        · cases h
          exact .table List.nodup_nil (by simp)
        · simp only [Option.map_eq_some_iff, Prod.mk.injEq, Prod.exists] at h
          obtain ⟨fields, cs', hfields, rfl, -⟩ := h
          exact (fieldsDistinct_bracesFrom hitem Outline.fieldsDistinct_nil hfields).everyTable
      · exact .scalar (Scalar.isSome_scalarText_read h)

namespace Progress

variable {p q : Progress}

theorem fieldsDistinct_assignment (hp : FieldsDistinct p.root)
    (h : p.assignment length cs = some (q, rest)) : FieldsDistinct q.root := by
  simp only [assignment, Option.bind_eq_bind, Option.bind_eq_some_iff, Prod.exists, Option.pure_def,
    Option.some.injEq, Prod.mk.injEq] at h
  obtain ⟨path, last, cs₁, -, cs₂, -, v, cs₃, hv, root, hroot, rfl, -⟩ := h
  exact Outline.keeps_change (Outline.keeps_assign path last (everyTable_value hv)) p.header
    _ _ _ hp hroot

theorem fieldsDistinct_tableHeader (hp : FieldsDistinct p.root)
    (h : p.tableHeader length cs = some (q, rest)) : FieldsDistinct q.root := by
  simp only [tableHeader, Option.bind_eq_bind, Option.bind_eq_some_iff, Prod.exists,
    Option.pure_def, Option.some.injEq, Prod.mk.injEq] at h
  obtain ⟨path, last, cs₁, -, cs₂, -, root, hroot, rfl, -⟩ := h
  exact Outline.keeps_openTable path last _ _ _ hp hroot

theorem fieldsDistinct_itemHeader (hp : FieldsDistinct p.root)
    (h : p.itemHeader length cs = some (q, rest)) : FieldsDistinct q.root := by
  simp only [itemHeader, Option.bind_eq_bind, Option.bind_eq_some_iff, Prod.exists,
    Option.pure_def, Option.some.injEq, Prod.mk.injEq] at h
  obtain ⟨path, last, cs₁, -, cs₂, -, cs₃, -, root, hroot, rfl, -⟩ := h
  exact Outline.keeps_openItem path last _ _ _ hp hroot

theorem fieldsDistinct_line (hp : FieldsDistinct p.root) (h : p.line length cs = some (q, rest)) :
    FieldsDistinct q.root := by
  -- What is read of a line is kept by its end.
  have hend {r : Option (Progress × List Char)}
      (hr : (do let part ← r; let cs ← lineEnd part.2; return (part.1, cs)) = some (q, rest)) :
      ∃ cs', r = some (q, cs') := by
    simp only [Option.bind_eq_bind, Option.bind_eq_some_iff, Prod.exists, Option.pure_def,
      Option.some.injEq, Prod.mk.injEq] at hr
    obtain ⟨q', cs', hq, -, -, rfl, -⟩ := hr
    exact ⟨cs', hq⟩
  have hsame {cs' : List Char} (hsome : some (p, cs) = some (q, cs')) : FieldsDistinct q.root := by
    cases hsome
    exact hp
  unfold line at h
  split at h
  · exact hsame (hend h).choose_spec
  · exact hsame (hend h).choose_spec
  · exact hsame (hend h).choose_spec
  · exact hsame (hend h).choose_spec
  · exact fieldsDistinct_itemHeader hp (hend h).choose_spec
  · exact fieldsDistinct_tableHeader hp (hend h).choose_spec
  · exact fieldsDistinct_assignment hp (hend h).choose_spec

theorem fieldsDistinct_lines {fuel : Nat} (hp : FieldsDistinct p.root)
    (h : lines length fuel p cs = some q) : FieldsDistinct q.root := by
  induction fuel generalizing p cs with
  | zero => cases h
  | succ fuel ih =>
      rw [lines] at h
      split at h
      · cases h
        exact hp
      · split at h
        · rename_i hline
          exact ih (fieldsDistinct_line hp hline) h
        · cases h

end Progress

theorem everyTable_table? {text : String} (h : table? text = some v) :
    v.EveryTable List.Nodup := by
  rw [table?, Option.map_eq_some_iff] at h
  obtain ⟨p, hp, rfl⟩ := h
  exact (Progress.fieldsDistinct_lines Outline.fieldsDistinct_nil hp).everyTable

end Read

namespace Value

variable {P : List String → Prop} {v w : Value}

theorem resolveItems?_eq (items : List Value) : resolveItems? items = items.mapM resolve? := by
  induction items with
  | nil => rfl
  | cons item rest ih =>
      rw [resolveItems?, ih, List.mapM_cons]

theorem resolveFields?_eq (entries : Entries) :
    resolveFields? entries =
      entries.mapM fun entry => (resolve? entry.2).map fun v => (entry.1, v) := by
  induction entries with
  | nil => rfl
  | cons entry rest ih =>
      rw [resolveFields?, ih, List.mapM_cons]
      cases resolve? entry.2 <;> rfl

theorem EveryTable.resolve? (h : v.EveryTable P) (hv : v.resolve? = some w) : w.EveryTable P := by
  induction h generalizing w with
  | @scalar v h =>
      have hself : v.resolve? = some v := by
        cases v with
        | array items => cases h
        | table entries => cases h
        | _ => rfl
      cases hself.symm.trans hv
      exact .scalar h
  | array h ih =>
      rw [Value.resolve?, resolveItems?_eq, Option.map_eq_some_iff] at hv
      obtain ⟨items', hitems, rfl⟩ := hv
      apply EveryTable.array
      intro w hw
      obtain ⟨item, hitem, hresolve⟩ := exists_of_mem_mapM hitems hw
      exact ih item hitem hresolve
  | @table entries hkeys h ih =>
      rw [Value.resolve?] at hv
      split at hv
      · simp only [Option.map_eq_some_iff] at hv
        obtain ⟨d, -, rfl⟩ := hv
        exact .scalar rfl
      · rw [resolveFields?_eq, Option.map_eq_some_iff] at hv
        obtain ⟨entries', hentries, rfl⟩ := hv
        apply EveryTable.table
        · have hkeys' : entries'.map Prod.fst = entries.map Prod.fst := by
            refine map_eq_of_mapM (fun entry entry' hentry => ?_) hentries
            obtain ⟨v, -, rfl⟩ := Option.map_eq_some_iff.1 hentry
            rfl
          rwa [hkeys']
        · intro entry' hentry'
          obtain ⟨entry, hentry, hresolve⟩ := exists_of_mem_mapM hentries hentry'
          obtain ⟨v, hv, rfl⟩ := Option.map_eq_some_iff.1 hresolve
          exact ih entry hentry hv

theorem sortedItems_eq (items : List Value) : sortedItems items = items.map sorted := by
  induction items with
  | nil => rfl
  | cons item rest ih => rw [sortedItems, ih, List.map_cons]

theorem sortedFields_eq (entries : Entries) :
    sortedFields entries = entries.map fun entry => (entry.1, sorted entry.2) := by
  induction entries with
  | nil => rfl
  | cons entry rest ih => rw [sortedFields, ih, List.map_cons]

theorem everyTable_table_iff {entries : Entries} :
    (Value.table entries).EveryTable P ↔
      P (entries.map Prod.fst) ∧ ∀ entry ∈ entries, entry.2.EveryTable P := by
  constructor
  · intro h
    cases h with
    | scalar h => cases h
    | table hkeys h => exact ⟨hkeys, h⟩
  · exact fun h => .table h.1 h.2

theorem everyTable_array_iff {items : List Value} :
    (Value.array items).EveryTable P ↔ ∀ item ∈ items, item.EveryTable P := by
  constructor
  · intro h
    cases h with
    | scalar h => cases h
    | array h => exact h
  · exact .array

theorem sorted_of_isSome_scalarText (h : v.scalarText.isSome = true) : v.sorted = v := by
  cases v with
  | array items => cases h
  | table entries => cases h
  | _ => rfl

theorem pairwise_sortEntries {α : Type} {entries : List (String × α)}
    (h : (entries.map Prod.fst).Nodup) :
    ((sortEntries entries).map Prod.fst).Pairwise (· < ·) := by
  have hperm : (sortEntries entries).Perm entries := List.mergeSort_perm _ _
  have hle : (sortEntries entries).Pairwise fun a b => a.1 ≤ b.1 := by
    have htrans (a b c : String × α) (hab : decide (a.1 ≤ b.1) = true)
        (hbc : decide (b.1 ≤ c.1) = true) : decide (a.1 ≤ c.1) = true :=
      decide_eq_true (String.le_trans (of_decide_eq_true hab) (of_decide_eq_true hbc))
    have htotal (a b : String × α) : (decide (a.1 ≤ b.1) || decide (b.1 ≤ a.1)) = true := by
      simpa using String.le_total a.1 b.1
    exact (List.pairwise_mergeSort htrans htotal entries).imp of_decide_eq_true
  have hne : ((sortEntries entries).map Prod.fst).Pairwise (· ≠ ·) := (hperm.map _).nodup_iff.2 h
  exact (hne.and (List.pairwise_map.2 hle)).imp fun hab => lt_of_le_of_ne hab.2 hab.1

theorem EveryTable.sorted (h : v.EveryTable List.Nodup) :
    v.sorted.EveryTable (List.Pairwise (· < ·)) := by
  induction h with
  | scalar h => exact (sorted_of_isSome_scalarText h).symm ▸ .scalar h
  | array h ih =>
      rw [Value.sorted, sortedItems_eq]
      exact .array (List.forall_mem_map.2 ih)
  | @table entries hkeys h ih =>
      rw [Value.sorted, sortedFields_eq]
      apply EveryTable.table
      · apply pairwise_sortEntries
        rw [List.map_map]
        exact hkeys
      · intro entry hentry
        rw [sortEntries, List.mem_mergeSort] at hentry
        obtain ⟨old, hold, rfl⟩ := List.mem_map.1 hentry
        exact ih old hold

theorem EveryTable.sorted_eq_self (h : v.EveryTable (List.Pairwise (· < ·))) : v.sorted = v := by
  induction h with
  | scalar h => exact sorted_of_isSome_scalarText h
  | array h ih =>
      rw [Value.sorted, sortedItems_eq, List.map_congr_left ih, List.map_id']
  | @table entries hkeys h ih =>
      have hmap : entries.map (fun entry => (entry.1, entry.2.sorted)) = entries := by
        rw [List.map_congr_left fun entry hentry => by rw [ih entry hentry], List.map_id']
      have hle : entries.Pairwise fun a b => decide (a.1 ≤ b.1) = true :=
        (List.pairwise_map.1 hkeys).imp fun hlt => decide_eq_true hlt.le
      rw [Value.sorted, sortedFields_eq, hmap, sortEntries, List.mergeSort_of_pairwise hle]

end Value

theorem everyTable_read? {text : String} {v : Value} (h : read? text = some v) :
    v.EveryTable (List.Pairwise (· < ·)) := by
  simp only [read?, Option.bind_eq_bind, Option.bind_eq_some_iff, Option.pure_def,
    Option.some.injEq] at h
  obtain ⟨u, hu, w, hw, rfl⟩ := h
  exact ((everyTable_table? hu).resolve? hw).sorted

end TracerSettings.Toml
