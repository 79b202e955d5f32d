import TracerSettings.Noted
import TracerSettings.Text.Character
import TracerSettings.Text.Cut

namespace TracerSettings

def mask : String := "****"

/-- Whether a key names a credential itself and not a file that holds one. -/
def isSecretKey (key : String) : Bool :=
  let cs := (Text.lower key).toList
  (["api-key", "apikey", "application-key"].any fun word => Text.occursIn word.toList cs) &&
    !"file".toList.isSuffixOf cs

structure Collected where
  value : String
  origin : Origin
  deriving DecidableEq, Repr

/-- What is kept of notes: a diagnostic once, in the place where it first came, and of a setting the
first record. The value of a secret is never kept. -/
structure Journal where
  diagnostics : List Diagnostic
  collected : List (String × Collected)
  deriving DecidableEq, Repr

namespace Journal

def empty : Journal := ⟨[], []⟩

def record (j : Journal) (d : Diagnostic) : Journal :=
  if d ∈ j.diagnostics then j else { j with diagnostics := j.diagnostics ++ [d] }

def get? (j : Journal) (key : String) : Option Collected := j.collected.lookup key

def shown (key value : String) : String := if isSecretKey key then mask else value

def put (j : Journal) (key value : String) (origin : Origin) : Journal :=
  if (j.get? key).isSome then j
  else { j with collected := j.collected ++ [(key, ⟨shown key value, origin⟩)] }

def add (j : Journal) : Note → Journal
  | .report d => j.record d
  | .collect key value origin => j.put key value origin

def absorb (j : Journal) (notes : List Note) : Journal := notes.foldl add j

/-- What a note adds to the log: a diagnostic that is not kept yet. -/
def logged (j : Journal) : Note → List Diagnostic
  | .report d => if d ∈ j.diagnostics then [] else [d]
  | .collect .. => []

def log (j : Journal) : List Note → List Diagnostic
  | [] => []
  | note :: rest => j.logged note ++ (j.add note).log rest

def snapshot (j : Journal) : List (String × Collected) :=
  j.collected.mergeSort fun a b => decide (a.1 ≤ b.1)

def newIn (j later : Journal) : List Diagnostic :=
  later.diagnostics.drop j.diagnostics.length

@[simp] theorem absorb_nil (j : Journal) : j.absorb [] = j := rfl

@[simp] theorem absorb_append (j : Journal) (notes notes' : List Note) :
    j.absorb (notes ++ notes') = (j.absorb notes).absorb notes' := by
  simp [absorb]

theorem put_of_isSome {j : Journal} {key : String} (value : String) (origin : Origin)
    (h : (j.get? key).isSome = true) : j.put key value origin = j := by
  simp [put, h]

theorem nodup_record {j : Journal} {d : Diagnostic} (h : j.diagnostics.Nodup) :
    (j.record d).diagnostics.Nodup := by
  unfold record
  split
  · exact h
  · rename_i hd
    rw [List.nodup_append]
    refine ⟨h, by simp, ?_⟩
    rintro a ha b hb rfl
    simp only [List.mem_singleton] at hb
    subst hb
    exact hd ha

end Journal

end TracerSettings
