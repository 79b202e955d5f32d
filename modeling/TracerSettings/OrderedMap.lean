namespace TracerSettings

/-- A finite map that remembers the order in which its keys first came. Writing a key again changes
its value and leaves it in its place. -/
structure OrderedMap where
  entries : List (String × String)
  deriving DecidableEq, Repr

namespace OrderedMap

def empty : OrderedMap := ⟨[]⟩

def get? (m : OrderedMap) (key : String) : Option String := m.entries.lookup key

def contains (m : OrderedMap) (key : String) : Bool := (m.get? key).isSome

def size (m : OrderedMap) : Nat := m.entries.length

def isEmpty (m : OrderedMap) : Bool := m.entries.isEmpty

def keys (m : OrderedMap) : List String := m.entries.map Prod.fst

/-- Overwrites the first entry of `key`, or adds one at the end. Gives the value that is overwritten
along with the entries. -/
def write (key value : String) : List (String × String) → Option String × List (String × String)
  | [] => (none, [(key, value)])
  | (k, v) :: rest =>
      if k = key then (some v, (k, value) :: rest)
      else
        let written := write key value rest
        (written.1, (k, v) :: written.2)

def getThenInsert? (m : OrderedMap) (key value : String) : Option String × OrderedMap :=
  let written := write key value m.entries
  (written.1, ⟨written.2⟩)

def insert (m : OrderedMap) (key value : String) : OrderedMap := (m.getThenInsert? key value).2

def ofList (pairs : List (String × String)) : OrderedMap :=
  pairs.foldl (fun m (k, v) => m.insert k v) empty

/-- Layers `other` on top of `m`. -/
def extend (m other : OrderedMap) : OrderedMap :=
  other.entries.foldl (fun m (k, v) => m.insert k v) m

def render (m : OrderedMap) : String :=
  ",".intercalate (m.entries.map fun (k, v) => k ++ "=" ++ v)

@[simp] theorem get?_empty (key : String) : empty.get? key = none := rfl

theorem lookup_write (key value k : String) (entries : List (String × String)) :
    (write key value entries).2.lookup k = if k = key then some value else entries.lookup k := by
  induction entries with
  | nil =>
      by_cases h : k = key
      · simp [write, h]
      · simp [write, List.lookup_cons, beq_false_of_ne h, h]
  | cons entry rest ih =>
      obtain ⟨a, b⟩ := entry
      by_cases ha : a = key
      · subst ha
        by_cases hk : k = a
        · simp [write, hk]
        · simp [write, hk, List.lookup_cons, beq_false_of_ne hk]
      · by_cases hk : k = a
        · subst hk
          simp [write, ha]
        · simp [write, ha, List.lookup_cons, beq_false_of_ne hk, ih]

theorem write_fst (key value : String) (entries : List (String × String)) :
    (write key value entries).1 = entries.lookup key := by
  induction entries with
  | nil => rfl
  | cons entry rest ih =>
      obtain ⟨a, b⟩ := entry
      by_cases ha : a = key
      · simp [write, ha]
      · simp [write, ha, List.lookup_cons, beq_false_of_ne (Ne.symm ha), ih]

theorem get?_insert (m : OrderedMap) (key value k : String) :
    (m.insert key value).get? k = if k = key then some value else m.get? k :=
  lookup_write key value k m.entries

theorem map_fst_write (key value : String) (entries : List (String × String)) :
    (write key value entries).2.map Prod.fst =
      if key ∈ entries.map Prod.fst then entries.map Prod.fst
      else entries.map Prod.fst ++ [key] := by
  induction entries with
  | nil => simp [write]
  | cons entry rest ih =>
      obtain ⟨a, b⟩ := entry
      by_cases ha : a = key
      · simp [write, ha]
      · by_cases hk : key ∈ rest.map Prod.fst
        · simp [write, ha, ih, hk]
        · simp [write, ha, ih, hk, Ne.symm ha]

theorem keys_insert (m : OrderedMap) (key value : String) :
    (m.insert key value).keys = if key ∈ m.keys then m.keys else m.keys ++ [key] :=
  map_fst_write key value m.entries

end OrderedMap

end TracerSettings
