import TracerSettings.Toml.Datetime

namespace TracerSettings.Toml

inductive Value where
  | text (value : String)
  | integer (value : Int)
  | real (value : Binary)
  | boolean (value : Bool)
  | datetime (value : Datetime)
  | array (items : List Value)
  | table (entries : List (String × Value))
  deriving Inhabited

abbrev Entries := List (String × Value)

def sortEntries {α : Type} (entries : List (String × α)) : List (String × α) :=
  entries.mergeSort fun a b => decide (a.1 ≤ b.1)

def Datetime.reservedKey : String := "$__toml_private_datetime"

namespace Value

mutual

def sorted : Value → Value
  | .array items => .array (sortedItems items)
  | .table entries => .table (sortEntries (sortedFields entries))
  | .text s => .text s
  | .integer n => .integer n
  | .real x => .real x
  | .boolean b => .boolean b
  | .datetime d => .datetime d

def sortedItems : List Value → List Value
  | [] => []
  | item :: rest => sorted item :: sortedItems rest

def sortedFields : List (String × Value) → List (String × Value)
  | [] => []
  | (key, value) :: rest => (key, sorted value) :: sortedFields rest

end

def scalarText : Value → Option String
  | .text s => some s
  | .integer n => some (toString n)
  | .real x => some (x.text .plain .double)
  | .boolean b => some (if b then "true" else "false")
  | .datetime d => some d.text
  | .array _ => none
  | .table _ => none

def listText (items : List Value) : String := ",".intercalate (items.filterMap scalarText)

/-- The path of an entry inside the table at `path`. Nothing is put before a key at the root, or in
a table whose own path is empty. -/
def subPath (path key : String) : String := if path = "" then key else path ++ "." ++ key

mutual

/-- The scalars and arrays of a value with their dotted paths, tables walked depth first. -/
def leaves (path : String) : Value → List (String × String)
  | .table entries => entryLeaves path entries
  | .array items => [(path, listText items)]
  | .text s => [(path, s)]
  | .integer n => [(path, toString n)]
  | .real x => [(path, x.text .plain .double)]
  | .boolean b => [(path, if b then "true" else "false")]
  | .datetime d => [(path, d.text)]

def entryLeaves (path : String) : List (String × Value) → List (String × String)
  | [] => []
  | (key, value) :: rest => leaves (subPath path key) value ++ entryLeaves path rest

end

def entry? (key : String) : Value → Option Value
  | .table entries => entries.lookup key
  | _ => none

/-- The value of the reserved key, if that key is the first. -/
def reserved? : Entries → Option Value
  | (key, v) :: _ => if key = Datetime.reservedKey then some v else none
  | [] => none

def readDatetime? : Value → Option Datetime
  | .text s => Datetime.ofText? s
  | _ => none

mutual

/-- The value with a date-time in the place of each table that stands for one. There is no such
value if the text in one of those tables is no date-time. -/
def resolve? : Value → Option Value
  | .array items => (resolveItems? items).map .array
  | .table entries =>
      match reserved? entries with
      | some v => v.readDatetime?.map .datetime
      | none => (resolveFields? entries).map .table
  | .text s => some (.text s)
  | .integer n => some (.integer n)
  | .real x => some (.real x)
  | .boolean b => some (.boolean b)
  | .datetime d => some (.datetime d)

def resolveItems? : List Value → Option (List Value)
  | [] => some []
  | item :: rest => do return (← resolve? item) :: (← resolveItems? rest)

def resolveFields? : List (String × Value) → Option (List (String × Value))
  | [] => some []
  | (key, value) :: rest => do return (key, ← resolve? value) :: (← resolveFields? rest)

end

end Value

end TracerSettings.Toml
