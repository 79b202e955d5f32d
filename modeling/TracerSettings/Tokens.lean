import TracerSettings.Text.Character
import TracerSettings.Text.Cut

namespace TracerSettings

inductive Delimiters where
  | comma
  | commaOrBlank
  deriving DecidableEq, Repr

def Delimiters.contains : Delimiters → Char → Bool
  | .comma, c => c == ','
  | .commaOrBlank, c => c == ',' || Text.isBlank c

/-- What stands between two delimiters, trimmed. Empty tokens do not count, so leading, trailing and
doubled delimiters change nothing. -/
def tokens (delimiters : Delimiters) (raw : String) : List String :=
  (Text.pieces delimiters.contains raw.toList).filterMap fun piece =>
    Text.nonBlank (String.ofList piece)

section Unique

variable {α : Type} [DecidableEq α]

def pushUnique (items : List α) (item : α) : List α :=
  if item ∈ items then items else items ++ [item]

/-- Each item once, in the place of its first occurrence. -/
def unique (items : List α) : List α := items.foldl pushUnique []

theorem mem_pushUnique {items : List α} {item x : α} :
    x ∈ pushUnique items item ↔ x ∈ items ∨ x = item := by
  unfold pushUnique
  split
  · constructor
    · exact .inl
    · rintro (h | rfl) <;> assumption
  · simp

theorem nodup_pushUnique {items : List α} {item : α} (h : items.Nodup) :
    (pushUnique items item).Nodup := by
  unfold pushUnique
  split
  · exact h
  · rw [List.nodup_append]
    refine ⟨h, by simp, ?_⟩
    rintro a ha b hb rfl
    simp only [List.mem_singleton] at hb
    subst hb
    contradiction

end Unique

def tokenSet (delimiters : Delimiters) (raw : String) : List String :=
  unique (tokens delimiters raw)

theorem tokens_ne_empty {delimiters : Delimiters} {raw token : String}
    (h : token ∈ tokens delimiters raw) : token ≠ "" := by
  simp only [tokens, List.mem_filterMap] at h
  obtain ⟨_, _, h⟩ := h
  exact (Text.nonBlank_eq_some h).2

structure Rejected where
  token : String
  reason : String
  deriving DecidableEq, Repr

/-- What reading a raw setting gave. It never fails: what is not understood is left out and listed,
so that it can be reported. -/
structure Reading (α : Type) where
  value : α
  rejected : List Rejected
  deriving DecidableEq, Repr

def Reading.clean {α : Type} (value : α) : Reading α := ⟨value, []⟩

/-- A closed set of variants with names. `ofName?` is asked with lower-case names. -/
class Choice (α : Type) where
  ofName? : String → Option α
  name : α → String

namespace Choice

variable {α : Type} [DecidableEq α] [Choice α]

def read? (raw : String) : Option α := ofName? (Text.lower (Text.trim raw))

def readOr (raw : String) (fallback : α) : Reading α :=
  match read? raw with
  | some value => .clean value
  | none => ⟨fallback, [⟨Text.trim raw, "unrecognized value"⟩]⟩

def addToken (r : Reading (List α)) (token : String) : Reading (List α) :=
  match read? token with
  | some value => ⟨pushUnique r.value value, r.rejected⟩
  | none => ⟨r.value, r.rejected ++ [⟨token, "unrecognized value"⟩]⟩

def readSet (delimiters : Delimiters) (raw : String) : Reading (List α) :=
  (tokenSet delimiters raw).foldl addToken (.clean [])

end Choice

end TracerSettings
