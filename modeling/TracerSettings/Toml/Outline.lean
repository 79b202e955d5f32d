import TracerSettings.Toml.Value

namespace TracerSettings.Toml

/-- How a table came to be: by its own header or braces, as a step on the way of another header, or
as a step of a dotted key. -/
inductive Opening where
  | own
  | passing
  | dotted
  deriving DecidableEq, Repr

/-- What a key names: a value that is complete, a table, or a list of tables with the last one
first. -/
inductive Outline where
  | value (v : Value)
  | table (opening : Opening) (entries : List (String × Outline))
  | tables (items : List (List (String × Outline)))

namespace Outline

abbrev Fields := List (String × Outline)

def put (key : String) (node : Outline) : Fields → Fields → Fields
  | seen, [] => (key, node) :: seen.reverse
  | seen, (k, old) :: rest =>
      if k = key then seen.reverse ++ (k, node) :: rest else put key node ((k, old) :: seen) rest

def renew (key : String) (node : Outline) (fields : Fields) : Fields :=
  (key, node) :: fields.filter fun (k, _) => k != key

/-- Changes the table at a path, opening the tables that are missing on the way. With `dotted`, the
way may not lead through a table that has its own header. -/
def change (dotted : Bool) (f : Opening → Fields → Option Fields) :
    List String → Opening → Fields → Option Fields
  | [], opening, fields => f opening fields
  | key :: path, _, fields =>
      match fields.lookup key with
      | none => do
          let opening := if dotted then .dotted else .passing
          let inner ← change dotted f path opening []
          return (key, .table opening inner) :: fields
      | some (.table opening inner) =>
          if dotted && opening == .own then none
          else do
            let inner ← change dotted f path opening inner
            return put key (.table opening inner) [] fields
      | some (.tables (last :: earlier)) => do
          let last ← change dotted f path .own last
          return put key (.tables (last :: earlier)) [] fields
      | some (.tables []) => none
      | some (.value _) => none

/-- Adds a value under a key of several parts. A key of one part may not extend a table that dotted
keys have opened, nor a key of several parts any other table. -/
def assign (path : List String) (key : String) (v : Value) : Opening → Fields → Option Fields :=
  change true
    (fun opening fields =>
      if (opening == .dotted) == path.isEmpty then none
      else if (fields.lookup key).isSome then none
      else some ((key, .value v) :: fields))
    path

/-- Opens the table of a header; only a table that was passed on the way of others may be there.
The table takes its place among the others from its own header. -/
def openTable (path : List String) (key : String) : Opening → Fields → Option Fields :=
  change false
    (fun _ fields =>
      match fields.lookup key with
      | none => some ((key, .table .own []) :: fields)
      | some (.table .passing inner) => some (renew key (.table .own inner) fields)
      | some _ => none)
    path

def openItem (path : List String) (key : String) : Opening → Fields → Option Fields :=
  change false
    (fun _ fields =>
      match fields.lookup key with
      | none => some ((key, .tables [[]]) :: fields)
      | some (.tables items) => some (put key (.tables ([] :: items)) [] fields)
      | some _ => none)
    path

def inside (header : List String) (f : Opening → Fields → Option Fields) (root : Fields) :
    Option Fields :=
  change false f header .own root

mutual

def toValue : Outline → Value
  | .value v => v
  | .table _ fields => .table (toEntries fields).reverse
  | .tables items => .array (toItems items).reverse

def toItems : List (List (String × Outline)) → List Value
  | [] => []
  | fields :: rest => .table (toEntries fields).reverse :: toItems rest

def toEntries : List (String × Outline) → Entries
  | [] => []
  | (key, node) :: rest => (key, toValue node) :: toEntries rest

end

def toTable (fields : Fields) : Value := .table (toEntries fields).reverse

end Outline

end TracerSettings.Toml
