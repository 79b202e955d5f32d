import TracerSettings.Proofs.Json.RoundTrip
import TracerSettings.Proofs.Report.Formed

namespace TracerSettings

namespace Json

theorem ofTomlFields_eq (entries : Toml.Entries) :
    ofTomlFields entries = entries.map fun entry => (entry.1, ofToml entry.2) := by
  induction entries with
  | nil => rfl
  | cons entry rest ih => rw [ofTomlFields, ih, List.map_cons]

theorem ofToml_texts (values : List String) :
    ofToml (Toml.Value.array (values.map .text)).sorted = .array (values.map .text) := by
  have hitems : ofTomlItems (values.map .text) = values.map .text := by
    induction values with
    | nil => rfl
    | cons s values ih => rw [List.map_cons, ofTomlItems, ih]; rfl
  have hsorted : (values.map Toml.Value.text).map Toml.Value.sorted = values.map .text := by
    simp [Toml.Value.sorted]
  rw [Toml.Value.sorted, Toml.Value.sortedItems_eq, hsorted, ofToml, hitems]

theorem data_ofToml_table {entries : Toml.Entries} (hkeys : (entries.map Prod.fst).Nodup) :
    (ofToml (Toml.Value.table entries).sorted).data =
      .object (Toml.sortEntries
        (entries.map fun entry => (entry.1, (ofToml entry.2.sorted).data))) := by
  have hperm := (List.mergeSort_perm
    (entries.map fun entry => (entry.1, entry.2.sorted)) fun a b => decide (a.1 ≤ b.1)).map
      fun entry => (entry.1, (ofToml entry.2).data)
  have hnodup := ((hperm.map Prod.fst).nodup_iff).2 (by
    rw [List.map_map, List.map_map]
    exact hkeys)
  have hsort := Toml.sortEntries_eq_of_perm hperm hnodup
  rw [List.map_map] at hsort
  rw [Toml.Value.sorted, Toml.Value.sortedFields_eq, ofToml, ofTomlFields_eq, data, dataFields_eq,
    List.map_map]
  exact congrArg Data.object hsort

theorem formed_integer (n : Int) : (integer n).Formed := .number (Reader.number?_toString n)

section Numbers

variable {f : Format} (hf : Format.double.Widens f) (low high : Int)

include hf

theorem formed_real {x : Binary} (h : Binary.IsNumber f x) :
    (real (realLayout low high) f x).Formed := by
  cases x with
  | finite negative m e =>
      cases h with
      | zero => exact .number (Reader.number?_text_zero rfl negative)
      | nonzero hm => exact .number (Reader.number?_text hf rfl hm)
  | _ => exact .null

theorem data_real {m : Nat} {e : Int} (hm : f.Holds m e) (negative : Bool) :
    (real (realLayout low high) f (.finite negative m e)).data =
      .number (if negative then -(Binary.shortest .toEven f m e).value
        else (Binary.shortest .toEven f m e).value) := by
  have hread : Reader.number? (Binary.text (realLayout low high) f (.finite negative m e)).toList =
      some (if negative then -(Binary.shortest .toEven f m e).value
        else (Binary.shortest .toEven f m e).value) := Reader.number?_text hf rfl hm
  rw [real, data, hread, Option.getD_some]

end Numbers

theorem formed_texts (values : List String) : (Json.array (values.map .text)).Formed := by
  refine .array fun item hitem => ?_
  obtain ⟨s, -, rfl⟩ := List.mem_map.1 hitem
  exact .text s

end Json

namespace Shape

/-- What looks the same in both reports: nothing absent, and no number of single precision that is
written as another one in double precision. -/
inductive Alike : Shape → Prop
  | text (s : String) : Alike (.text s)
  | optional (s : String) : Alike (.optional (some s))
  | integer (n : Int) : Alike (.integer n)
  | single {x : Binary} (h : (Json.double x).data = (Json.single x).data) : Alike (.single x)
  | boolean (b : Bool) : Alike (.boolean b)
  | texts (values : List String) : Alike (.texts values)
  | table {fields : List (String × Shape)} (h : ∀ field ∈ fields, Alike field.2) :
      Alike (.table fields)

theorem alike_single {x : Binary} :
    Alike (.single x) ↔ (Json.double x).data = (Json.single x).data :=
  ⟨fun h => by cases h; assumption, .single⟩

/-- A number looks the same iff its shortest decimals in both precisions are the same. -/
theorem alike_single_iff {negative : Bool} {m : Nat} {e : Int} (hm : Format.single.Holds m e) :
    Alike (.single (.finite negative m e)) ↔
      (Binary.shortest .toEven .double m e).value =
        (Binary.shortest .toEven .single m e).value := by
  have hsingle := Json.data_real Format.double_widens_single (-6) 12 hm negative
  have hdouble := Json.data_real (.refl _) (-5) 15 (hm.widen Format.double_widens_single) negative
  rw [alike_single, Json.double, Json.single, hdouble, hsingle, Json.Data.number.injEq]
  cases negative <;> simp

theorem fieldsToJson_eq (fields : List (String × Shape)) :
    fieldsToJson fields = fields.map fun field => (field.1, field.2.toJson) := by
  induction fields with
  | nil => rfl
  | cons field rest ih => rw [fieldsToJson, ih, List.map_cons]

theorem Alike.isSome_toToml? {shape : Shape} (h : shape.Alike) : shape.toToml?.isSome = true := by
  cases h <;> rfl

theorem Formed.formed_toJson {depth : Nat} {shape : Shape} (h : shape.Formed depth) :
    shape.toJson.Formed := by
  induction h with
  | text s => exact .text s
  | optional s =>
      cases s with
      | none => exact .null
      | some s => exact .text s
  | integer => exact Json.formed_integer _
  | single h => exact Json.formed_real Format.double_widens_single _ _ h
  | boolean b => exact .boolean b
  | texts values => exact Json.formed_texts values
  | table hkeys hfields ih =>
      rw [toJson, fieldsToJson_eq]
      refine .object fun entry hentry => ?_
      obtain ⟨field, hfield, rfl⟩ := List.mem_map.1 hentry
      exact ih field hfield

theorem Formed.formed_ofToml {depth : Nat} {shape : Shape} (h : shape.Formed depth)
    {v : Toml.Value} (hv : shape.toToml? = some v) : (Json.ofToml v.sorted).Formed := by
  induction h generalizing v with
  | text s =>
      cases hv
      exact .text s
  | optional s =>
      cases s with
      | none => cases hv
      | some s =>
          cases hv
          exact .text s
  | integer =>
      cases hv
      exact Json.formed_integer _
  | single h =>
      cases hv
      exact Json.formed_real (.refl _) _ _ (h.widen Format.double_widens_single)
  | boolean b =>
      cases hv
      exact .boolean b
  | texts values =>
      cases hv
      rw [Json.ofToml_texts]
      exact Json.formed_texts values
  | table hkeys hfields ih =>
      cases hv
      rw [Toml.Value.sorted, Json.ofToml, Json.ofTomlFields_eq]
      refine .object fun entry hentry => ?_
      obtain ⟨⟨key, w⟩, hw, rfl⟩ := List.mem_map.1 hentry
      rw [Toml.sortEntries, List.mem_mergeSort, Toml.Value.sortedFields_eq] at hw
      obtain ⟨⟨key, v⟩, hv, heq⟩ := List.mem_map.1 hw
      obtain ⟨rfl, rfl⟩ := Prod.mk.inj heq
      obtain ⟨shape, hfield, hshape⟩ := mem_toEntries.1 hv
      exact ih _ hfield hshape

theorem data_table_eq_iff {fields : List (String × Shape)} (hkeys : (fields.map Prod.fst).Nodup)
    (h : ∀ field ∈ fields, ∀ v, field.2.toToml? = some v →
      ((Json.ofToml v.sorted).data = field.2.toJson.data ↔ field.2.Alike)) :
    (Json.ofToml (Toml.Value.table (toEntries fields)).sorted).data =
      (toJson (.table fields)).data ↔ Alike (.table fields) := by
  let alone : List (String × Json.Data) :=
    (toEntries fields).map fun entry => (entry.1, (Json.ofToml entry.2.sorted).data)
  let among : List (String × Json.Data) :=
    fields.map fun field => (field.1, field.2.toJson.data)
  have hleft : (Json.ofToml (Toml.Value.table (toEntries fields)).sorted).data =
      .object (Toml.sortEntries alone) := Json.data_ofToml_table (nodup_toEntries hkeys)
  have hright : (toJson (.table fields)).data = .object (Toml.sortEntries among) := by
    rw [toJson, fieldsToJson_eq, Json.data, Json.dataFields_eq, List.map_map]
    rfl
  rw [hleft, hright, Json.Data.object.injEq]
  constructor
  · intro hsort
    have halone : (Toml.sortEntries alone).Perm alone := List.mergeSort_perm _ _
    have hamong : (Toml.sortEntries among).Perm among := List.mergeSort_perm _ _
    have hperm : alone.Perm among := halone.symm.trans (hsort ▸ hamong)
    refine .table fun field hfield => ?_
    have hmem : (field.1, field.2.toJson.data) ∈ alone :=
      hperm.symm.subset (List.mem_map_of_mem hfield)
    obtain ⟨⟨key, w⟩, hentry, heq⟩ := List.mem_map.1 hmem
    obtain ⟨hkey, hdata⟩ := Prod.mk.inj heq
    obtain ⟨shape, hfield', hw⟩ := mem_toEntries.1 hentry
    have hsame : (key, shape) = field := List.inj_on_of_nodup_map hkeys hfield' hfield hkey
    subst hsame
    exact (h _ hfield w hw).1 hdata
  · intro halike
    cases halike with
    | table halike =>
      have heq : alone = among := by
        simp only [alone, among, toEntries_eq, List.map_filterMap]
        rw [← List.filterMap_eq_map]
        refine List.filterMap_congr fun field hfield => ?_
        obtain ⟨w, hw⟩ := Option.isSome_iff_exists.1 (halike field hfield).isSome_toToml?
        rw [hw]
        exact congrArg some (Prod.ext rfl ((h field hfield w hw).2 (halike field hfield)))
      rw [heq]

/-- A section alone denotes what it does among the others iff it looks the same there. -/
theorem Formed.data_eq_iff {depth : Nat} {shape : Shape} (h : shape.Formed depth)
    {v : Toml.Value} (hv : shape.toToml? = some v) :
    (Json.ofToml v.sorted).data = shape.toJson.data ↔ shape.Alike := by
  induction h generalizing v with
  | text s =>
      cases hv
      exact iff_of_true rfl (.text s)
  | optional s =>
      cases s with
      | none => cases hv
      | some s =>
          cases hv
          exact iff_of_true rfl (.optional s)
  | integer =>
      cases hv
      exact iff_of_true rfl (.integer _)
  | single =>
      cases hv
      exact alike_single.symm
  | boolean b =>
      cases hv
      exact iff_of_true rfl (.boolean b)
  | texts values =>
      cases hv
      exact iff_of_true (congrArg Json.data (Json.ofToml_texts values)) (.texts values)
  | table hkeys _ ih =>
      cases hv
      exact data_table_eq_iff hkeys fun field hfield _ => ih field hfield

end Shape

end TracerSettings
