import TracerSettings.Diagnostic
import TracerSettings.Origin

namespace TracerSettings

/-- A diagnostic, or the value that a setting has and where it came from. -/
inductive Note where
  | report (diagnostic : Diagnostic)
  | collect (key value : String) (origin : Origin)
  deriving DecidableEq, Repr

/-- A value with what was found out on the way to it, in order. Notes cannot be read back, so a
value never depends on what was noted before. -/
structure Noted (α : Type) where
  value : α
  notes : List Note

namespace Noted

variable {α β : Type}

instance : Monad Noted where
  pure value := ⟨value, []⟩
  bind x f := ⟨(f x.value).value, x.notes ++ (f x.value).notes⟩

@[ext] theorem ext {x y : Noted α} (hv : x.value = y.value) (hn : x.notes = y.notes) : x = y := by
  cases x
  cases y
  cases hv
  cases hn
  rfl

@[simp] theorem value_pure (a : α) : (pure a : Noted α).value = a := rfl

@[simp] theorem notes_pure (a : α) : (pure a : Noted α).notes = [] := rfl

@[simp] theorem value_bind (x : Noted α) (f : α → Noted β) :
    (x >>= f).value = (f x.value).value := rfl

@[simp] theorem notes_bind (x : Noted α) (f : α → Noted β) :
    (x >>= f).notes = x.notes ++ (f x.value).notes := rfl

@[simp] theorem value_map (f : α → β) (x : Noted α) : (f <$> x).value = f x.value := rfl

@[simp] theorem notes_map (f : α → β) (x : Noted α) : (f <$> x).notes = x.notes := by
  simp [Functor.map]

instance : LawfulMonad Noted :=
  LawfulMonad.mk' Noted (fun x => by apply ext <;> simp)
    (fun a f => by apply ext <;> simp) (fun x f g => by apply ext <;> simp)

end Noted

def report (diagnostic : Diagnostic) : Noted Unit := ⟨(), [.report diagnostic]⟩

def collect (key value : String) (origin : Origin) : Noted Unit :=
  ⟨(), [.collect key value origin]⟩

def reportAll (diagnostics : List Diagnostic) : Noted Unit := ⟨(), diagnostics.map .report⟩

end TracerSettings
