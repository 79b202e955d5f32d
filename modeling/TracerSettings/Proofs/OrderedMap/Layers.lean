import TracerSettings.Proofs.Firsts
import TracerSettings.Proofs.OrderedMap

namespace TracerSettings

theorem lookup_eq_none_of_notMem {α : Type} {entries : List (String × α)} {key : String}
    (h : key ∉ entries.map Prod.fst) : entries.lookup key = none := by
  rw [List.lookup_eq_none_iff]
  intro entry hentry
  rw [bne_iff_ne]
  rintro rfl
  exact h (List.mem_map_of_mem hentry)

theorem lookup_eq_some_iff_mem {α : Type} {entries : List (String × α)} {key : String} {value : α}
    (h : (entries.map Prod.fst).Nodup) :
    entries.lookup key = some value ↔ (key, value) ∈ entries := by
  constructor
  · intro hlookup
    obtain ⟨before, after, rfl, -⟩ := List.lookup_eq_some_iff.1 hlookup
    exact List.mem_append_right before List.mem_cons_self
  · intro hmem
    obtain ⟨before, after, rfl⟩ := List.append_of_mem hmem
    refine List.lookup_eq_some_iff.2 ⟨before, after, rfl, fun entry hentry => ?_⟩
    rw [List.map_append, List.map_cons, List.nodup_append] at h
    simpa using Ne.symm (h.2.2 _ (List.mem_map_of_mem hentry) _ List.mem_cons_self)

namespace OrderedMap

variable {m other : OrderedMap} {pairs : List (String × String)} {key : String}

theorem lookup_reverse (hnodup : (pairs.map Prod.fst).Nodup) (key : String) :
    pairs.reverse.lookup key = pairs.lookup key := by
  induction pairs with
  | nil => rfl
  | cons entry rest ih =>
      obtain ⟨k, value⟩ := entry
      obtain ⟨hnotMem, hnodup⟩ := List.nodup_cons.1 hnodup
      rw [List.reverse_cons, List.lookup_append, ih hnodup]
      by_cases hkey : key = k
      · subst hkey
        rw [lookup_eq_none_of_notMem hnotMem]
        simp
      · simp [List.lookup_cons, beq_false_of_ne hkey]

theorem entries_eq_of_lookup {xs ys : List (String × String)} (hnodup : (xs.map Prod.fst).Nodup)
    (hkeys : xs.map Prod.fst = ys.map Prod.fst) (hlookup : ∀ key, xs.lookup key = ys.lookup key) :
    xs = ys := by
  induction xs generalizing ys with
  | nil => exact (List.map_eq_nil_iff.1 hkeys.symm).symm
  | cons entry rest ih =>
      obtain ⟨entry', rest', rfl, hkey, hrest⟩ := List.map_eq_cons_iff.1 hkeys.symm
      obtain ⟨key, value⟩ := entry
      obtain ⟨key', value'⟩ := entry'
      obtain rfl : key' = key := hkey
      obtain ⟨hnotMem, hnodup⟩ := List.nodup_cons.1 hnodup
      have hvalue : value = value' := by simpa using hlookup key'
      rw [hvalue, ih hnodup hrest.symm]
      intro k
      by_cases hk : k = key'
      · subst hk
        rw [lookup_eq_none_of_notMem hnotMem, lookup_eq_none_of_notMem (hrest ▸ hnotMem)]
      · simpa [List.lookup_cons, beq_false_of_ne hk] using hlookup k

theorem eq_of_get? (hnodup : m.keys.Nodup) (hkeys : m.keys = other.keys)
    (hget : ∀ key, m.get? key = other.get? key) : m = other :=
  congrArg mk (entries_eq_of_lookup hnodup hkeys hget)

theorem keys_foldl_insert (pairs : List (String × String)) (m : OrderedMap) :
    (pairs.foldl (fun m (k, v) => m.insert k v) m).keys =
      (pairs.map Prod.fst).foldl pushUnique m.keys := by
  induction pairs generalizing m with
  | nil => rfl
  | cons entry rest ih =>
      rw [List.foldl_cons, ih, keys_insert]
      rfl

theorem get?_foldl_insert (pairs : List (String × String)) (m : OrderedMap) (key : String) :
    (pairs.foldl (fun m (k, v) => m.insert k v) m).get? key =
      (pairs.reverse.lookup key).or (m.get? key) := by
  induction pairs generalizing m with
  | nil => rfl
  | cons entry rest ih =>
      obtain ⟨k, value⟩ := entry
      rw [List.foldl_cons, ih, get?_insert, List.reverse_cons, List.lookup_append, Option.or_assoc]
      congr 1
      by_cases hkey : key = k
      · simp [hkey]
      · simp [hkey, List.lookup_cons, beq_false_of_ne hkey]

theorem keys_extend (m other : OrderedMap) :
    (m.extend other).keys = other.keys.foldl pushUnique m.keys :=
  keys_foldl_insert other.entries m

theorem get?_extend (hother : other.keys.Nodup) (m : OrderedMap) (key : String) :
    (m.extend other).get? key = (other.get? key).or (m.get? key) := by
  rw [extend, get?_foldl_insert, lookup_reverse hother]
  rfl

theorem extend_eq_right_iff (hother : other.keys.Nodup) :
    m.extend other = other ↔ m.keys <+: other.keys := by
  have hkeys : (m.extend other).keys = m.keys ++ firsts id m.keys other.keys := by
    rw [keys_extend, foldl_pushUnique]
  constructor
  · intro h
    rw [h] at hkeys
    exact hkeys ▸ List.prefix_append _ _
  · rintro ⟨rest, hrest⟩
    have hold : firsts id m.keys m.keys = [] := firsts_eq_nil fun _ hkey => hkey
    have hnew : firsts id m.keys rest = rest := by
      rw [← hrest, List.nodup_append] at hother
      apply firsts_eq_self
      · rw [List.map_id]
        exact hother.2.1
      · exact fun key hkey hold => hother.2.2 key hold key hkey rfl
    have hsame : (m.extend other).keys = other.keys := by
      rw [hkeys, ← hrest, firsts_append, hold, List.map_nil, List.append_nil, List.nil_append, hnew]
    apply eq_of_get? (hsame ▸ hother) hsame
    intro key
    rw [get?_extend hother]
    by_cases hkey : key ∈ m.keys
    · obtain ⟨⟨_, value⟩, hentry, rfl⟩ :=
        List.mem_map.1 (hrest ▸ List.mem_append_left rest hkey : key ∈ other.keys)
      have hget : other.get? _ = some value := (lookup_eq_some_iff_mem hother).2 hentry
      rw [hget, Option.some_or]
    · have hget : m.get? key = none := lookup_eq_none_of_notMem hkey
      rw [hget, Option.or_none]

theorem keys_ofList (pairs : List (String × String)) :
    (ofList pairs).keys = unique (pairs.map Prod.fst) :=
  keys_foldl_insert pairs empty

theorem get?_ofList (pairs : List (String × String)) (key : String) :
    (ofList pairs).get? key = pairs.reverse.lookup key := by
  rw [ofList, get?_foldl_insert, get?_empty, Option.or_none]

theorem nodup_keys_ofList (pairs : List (String × String)) : (ofList pairs).keys.Nodup := by
  rw [keys_ofList]
  exact nodup_unique _

theorem ofList_entries (h : m.keys.Nodup) : ofList m.entries = m := by
  symm
  apply eq_of_get? h
  · exact (unique_of_nodup h).symm.trans (keys_ofList m.entries).symm
  · intro key
    rw [get?_ofList, lookup_reverse h]
    rfl

theorem mem_of_mem_write {key value : String} {entry : String × String}
    (h : entry ∈ (write key value pairs).2) : entry = (key, value) ∨ entry ∈ pairs := by
  induction pairs with
  | nil => exact .inl (List.mem_singleton.1 h)
  | cons first rest ih =>
      rw [write] at h
      split at h
      · rename_i hkey
        rcases List.mem_cons.1 h with rfl | h
        · exact .inl (by rw [hkey])
        · exact .inr (List.mem_cons_of_mem first h)
      · rcases List.mem_cons.1 h with rfl | h
        · exact .inr List.mem_cons_self
        · exact (ih h).imp_right (List.mem_cons_of_mem first)

theorem mem_of_mem_ofList {entry : String × String} (h : entry ∈ (ofList pairs).entries) :
    entry ∈ pairs := by
  have hsubset : ∀ e ∈ (ofList pairs).entries, e ∈ pairs := by
    refine List.foldlRecOn (motive := fun m : OrderedMap => ∀ e ∈ m.entries, e ∈ pairs) pairs _
      (fun e he => absurd he List.not_mem_nil) fun m hm pair hpair e he => ?_
    rcases mem_of_mem_write he with rfl | he
    · exact hpair
    · exact hm e he
  exact hsubset entry h

/-- A map of some entries: each key stands where it first came, with the value that came last. -/
structure KeepsLast (m : OrderedMap) (entries : List (String × String)) : Prop where
  slots : m.keys = (entries.map Prod.fst).eraseDups
  last (key value : String) : m.get? key = some value ↔
    ∃ before after, entries = before ++ (key, value) :: after ∧ key ∉ after.map Prod.fst

theorem keepsLast_ofList (pairs : List (String × String)) : (ofList pairs).KeepsLast pairs := by
  constructor
  case slots => rw [keys_ofList, unique_eq_eraseDups]
  case last =>
    intro key value
    rw [get?_ofList, List.lookup_eq_some_iff]
    constructor
    · rintro ⟨after, before, hpairs, hafter⟩
      refine ⟨before.reverse, after.reverse, ?_, ?_⟩
      · rw [← List.reverse_reverse pairs, hpairs]
        simp
      · rw [List.map_reverse, List.mem_reverse]
        intro hkey
        obtain ⟨entry, hentry, heq⟩ := List.mem_map.1 hkey
        exact bne_iff_ne.1 (hafter entry hentry) heq.symm
    · rintro ⟨before, after, rfl, hafter⟩
      refine ⟨after.reverse, before.reverse, by simp, fun entry hentry => ?_⟩
      rw [bne_iff_ne]
      rintro rfl
      exact hafter (List.mem_map_of_mem (List.mem_reverse.1 hentry))

theorem ofList_append (pairs pairs' : List (String × String)) :
    ofList (pairs ++ pairs') = (ofList pairs).extend (ofList pairs') := by
  apply eq_of_get? (nodup_keys_ofList _)
  · rw [keys_extend, keys_ofList, keys_ofList, keys_ofList, foldl_pushUnique_unique,
      List.map_append, unique, List.foldl_append]
    rfl
  · intro key
    rw [get?_extend (nodup_keys_ofList pairs'), get?_ofList, get?_ofList, get?_ofList,
      List.reverse_append, List.lookup_append]

theorem foldl_extend_ofList (layers : List (List (String × String)))
    (pairs : List (String × String)) :
    (layers.map ofList).foldl extend (ofList pairs) = ofList (pairs ++ layers.flatten) := by
  induction layers generalizing pairs with
  | nil => simp
  | cons layer layers ih =>
      rw [List.map_cons, List.foldl_cons, ← ofList_append, ih, List.flatten_cons, List.append_assoc]

theorem keys_foldl_extend (maps : List OrderedMap) (m : OrderedMap) :
    (maps.foldl extend m).keys = (maps.flatMap keys).foldl pushUnique m.keys := by
  induction maps generalizing m with
  | nil => rfl
  | cons other maps ih =>
      rw [List.foldl_cons, ih, keys_extend, List.flatMap_cons, List.foldl_append]

theorem get?_foldl_extend {maps : List OrderedMap} (hmaps : ∀ m ∈ maps, m.keys.Nodup)
    (m : OrderedMap) (key : String) :
    (maps.foldl extend m).get? key = (maps.reverse.findSome? (·.get? key)).or (m.get? key) := by
  induction maps generalizing m with
  | nil => rfl
  | cons other maps ih =>
      obtain ⟨hother, hmaps⟩ := List.forall_mem_cons.1 hmaps
      rw [List.foldl_cons, ih hmaps, get?_extend hother, List.reverse_cons, List.findSome?_append,
        List.findSome?_singleton, Option.or_assoc]

end OrderedMap

end TracerSettings
