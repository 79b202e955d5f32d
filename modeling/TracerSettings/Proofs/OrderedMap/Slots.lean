import TracerSettings.Proofs.OrderedMap.Layers

namespace TracerSettings.OrderedMap

section Slots

variable {m other : OrderedMap} {i : Nat} {k v : String}

theorem getElem?_entries_eq_some_iff (h : m.keys.Nodup) :
    m.entries[i]? = some (k, v) ↔ m.keys[i]? = some k ∧ m.get? k = some v := by
  rw [keys, List.getElem?_map, Option.map_eq_some_iff]
  constructor
  · intro hentry
    exact ⟨⟨(k, v), hentry, rfl⟩, (lookup_eq_some_iff_mem h).2 (List.mem_of_getElem? hentry)⟩
  · rintro ⟨⟨⟨_, v'⟩, hentry, rfl⟩, hvalue⟩
    have hvalue' : m.get? _ = some v' :=
      (lookup_eq_some_iff_mem h).2 (List.mem_of_getElem? hentry)
    rw [hentry, Option.some.inj (hvalue.symm.trans hvalue')]

theorem getElem?_entries_of_isPrefix {v' : String} (hm : m.keys.Nodup) (hother : other.keys.Nodup)
    (hkeys : m.keys <+: other.keys) (h : m.entries[i]? = some (k, v))
    (hvalue : other.get? k = some v') : other.entries[i]? = some (k, v') := by
  obtain ⟨hkey, -⟩ := (getElem?_entries_eq_some_iff hm).1 h
  obtain ⟨hi, hk⟩ := List.getElem?_eq_some_iff.1 hkey
  have hkey' : other.keys[i]? = some k := by rw [List.prefix_iff_getElem?.1 hkeys i hi, hk]
  exact (getElem?_entries_eq_some_iff hother).2 ⟨hkey', hvalue⟩

theorem keys_isPrefix_insert (m : OrderedMap) (key value : String) :
    m.keys <+: (m.insert key value).keys := by
  rw [keys_insert]
  split
  · exact List.prefix_rfl
  · exact List.prefix_append _ _

theorem keys_isPrefix_extend (m other : OrderedMap) : m.keys <+: (m.extend other).keys := by
  rw [keys_extend, foldl_pushUnique]
  exact List.prefix_append _ _

end Slots

/-- A way to make a map. -/
inductive Construction where
  | empty
  | insert (base : Construction) (key value : String)
  | extend (base top : Construction)
  | collect (pairs : List (String × String))

namespace Construction

def map : Construction → OrderedMap
  | empty => .empty
  | insert base key value => base.map.insert key value
  | extend base top => base.map.extend top.map
  | collect pairs => .ofList pairs

def writes : Construction → List (String × String)
  | empty => []
  | insert base key value => base.writes ++ [(key, value)]
  | extend base top => base.writes ++ top.writes
  | collect pairs => pairs

theorem map_eq_ofList (c : Construction) : c.map = ofList c.writes := by
  induction c with
  | empty => rfl
  | insert base key value ih =>
      rw [map, writes, ih, ofList, ofList, List.foldl_append]
      rfl
  | extend base top ihbase ihtop => rw [map, writes, ihbase, ihtop, ofList_append]
  | collect pairs => rfl

theorem nodup_keys (c : Construction) : c.map.keys.Nodup := by
  rw [map_eq_ofList]
  exact nodup_keys_ofList c.writes

theorem extend_assoc (a b c : Construction) :
    (a.map.extend b.map).extend c.map = a.map.extend (b.map.extend c.map) := by
  rw [a.map_eq_ofList, b.map_eq_ofList, c.map_eq_ofList, ← ofList_append, ← ofList_append,
    ← ofList_append, ← ofList_append, List.append_assoc]

theorem extend_self (c : Construction) : c.map.extend c.map = c.map :=
  (extend_eq_right_iff c.nodup_keys).2 List.prefix_rfl

/-- A map keeps its slots and the last values. -/
structure KeepsSlots (c : Construction) : Prop where
  nodup : c.map.keys.Nodup
  keepsLast : c.map.KeepsLast c.writes
  previous (key value : String) : (c.map.getThenInsert? key value).1 = c.map.get? key
  insert (key value : String) {i : Nat} {k v : String} (h : c.map.entries[i]? = some (k, v)) :
    (c.map.insert key value).entries[i]? = some (k, if k = key then value else v)
  extend (top : Construction) {i : Nat} {k v : String} (h : c.map.entries[i]? = some (k, v)) :
    (c.map.extend top.map).entries[i]? = some (k, (top.map.get? k).getD v)
  empty_extend : OrderedMap.empty.extend c.map = c.map
  extend_empty : c.map.extend .empty = c.map
  assoc (a b : Construction) :
    (c.map.extend a.map).extend b.map = c.map.extend (a.map.extend b.map)
  idempotent (top : Construction) :
    (c.map.extend top.map).extend top.map = c.map.extend top.map

theorem keepsSlots (c : Construction) : c.KeepsSlots := by
  constructor
  case nodup => exact c.nodup_keys
  case keepsLast =>
    rw [map_eq_ofList]
    exact keepsLast_ofList c.writes
  case previous => exact fun key value => write_fst key value c.map.entries
  case insert =>
    intro key value i k v h
    have hvalue := ((getElem?_entries_eq_some_iff c.nodup_keys).1 h).2
    apply getElem?_entries_of_isPrefix c.nodup_keys (c.insert key value).nodup_keys
      (keys_isPrefix_insert c.map key value) h
    rw [map, get?_insert, hvalue]
    split <;> rfl
  case extend =>
    intro top i k v h
    have hvalue := ((getElem?_entries_eq_some_iff c.nodup_keys).1 h).2
    apply getElem?_entries_of_isPrefix c.nodup_keys (c.extend top).nodup_keys
      (keys_isPrefix_extend c.map top.map) h
    rw [map, get?_extend top.nodup_keys, hvalue]
    cases top.map.get? k <;> rfl
  case empty_extend => exact ofList_entries c.nodup_keys
  case extend_empty => rfl
  case assoc => exact c.extend_assoc
  case idempotent =>
    intro top
    rw [extend_assoc, extend_self]

example : (extend (collect [("a", "1"), ("b", "2")]) (collect [("c", "3"), ("a", "9")])).map =
    ⟨[("a", "9"), ("b", "2"), ("c", "3")]⟩ := by
  decide

end Construction

end TracerSettings.OrderedMap
