import TracerSettings.Proofs.Stack.FirstHit
import TracerSettings.Standard

namespace TracerSettings

namespace Source

/-- The first source with a value for a key has a blank one, and one below it has another. -/
inductive Hides (key : String) : List Source → Prop
  | blank {source : Source} {rest : List Source} {raw : String}
      (hraw : source.lookup key = some raw) (hblank : Text.nonBlank raw = none)
      (hbelow : ∃ below ∈ rest, ∃ value, below.Tells key value) : Hides key (source :: rest)
  | unset {source : Source} {rest : List Source} (hnone : source.lookup key = none)
      (hrest : Hides key rest) : Hides key (source :: rest)

/-- The value of the first source that has any, unless it is blank. -/
def firstGiven? (key : String) (sources : List Source) : Option String :=
  (sources.findSome? fun source => source.lookup key).bind Text.nonBlank

/-- The value of the first source that has one that is not blank. -/
def firstTold? (key : String) (sources : List Source) : Option String :=
  sources.findSome? fun source => source.present key

variable {key : String} {source : Source} {sources : List Source}

theorem isSome_firstTold? :
    (firstTold? key sources).isSome = true ↔
      ∃ source ∈ sources, ∃ value, source.Tells key value := by
  rw [firstTold?, List.isSome_findSome?, List.any_eq_true]
  simp only [Option.isSome_iff_exists, present_eq_some_iff]

theorem firstGiven?_cons_of_unset (h : source.lookup key = none) :
    firstGiven? key (source :: sources) = firstGiven? key sources := by
  rw [firstGiven?, List.findSome?_cons, h, firstGiven?]

theorem firstTold?_cons_of_unset (h : source.lookup key = none) :
    firstTold? key (source :: sources) = firstTold? key sources := by
  rw [firstTold?, List.findSome?_cons, present, h, Option.bind_none, firstTold?]

theorem firstGiven?_cons_of_set {raw : String} (h : source.lookup key = some raw) :
    firstGiven? key (source :: sources) = Text.nonBlank raw := by
  rw [firstGiven?, List.findSome?_cons, h, Option.bind_some]

theorem firstTold?_cons_of_set {raw : String} (h : source.lookup key = some raw) :
    firstTold? key (source :: sources) = (Text.nonBlank raw).or (firstTold? key sources) := by
  rw [firstTold?, List.findSome?_cons, present, h, Option.bind_some]
  cases Text.nonBlank raw with
  | none => rw [Option.none_or, firstTold?]
  | some value => rw [Option.some_or]

theorem Hides.firstGiven?_eq (h : Hides key sources) : firstGiven? key sources = none := by
  induction h with
  | blank hraw hblank _ => rw [firstGiven?_cons_of_set hraw, hblank]
  | unset hnone _ ih => rw [firstGiven?_cons_of_unset hnone, ih]

theorem Hides.isSome_firstTold? (h : Hides key sources) :
    (firstTold? key sources).isSome = true := by
  induction h with
  | blank hraw hblank hbelow =>
      rw [firstTold?_cons_of_set hraw, hblank, Option.none_or]
      exact Source.isSome_firstTold?.2 hbelow
  | unset hnone _ ih => rwa [firstTold?_cons_of_unset hnone]

theorem firstGiven?_of_not_hides (h : ¬Hides key sources) :
    firstGiven? key sources = firstTold? key sources := by
  induction sources with
  | nil => rfl
  | cons source rest ih =>
      cases hraw : source.lookup key with
      | none =>
          rw [firstGiven?_cons_of_unset hraw, firstTold?_cons_of_unset hraw]
          exact ih fun hrest => h (.unset hraw hrest)
      | some raw =>
          rw [firstGiven?_cons_of_set hraw, firstTold?_cons_of_set hraw]
          cases hblank : Text.nonBlank raw with
          | some value => rw [Option.some_or]
          | none =>
              have hbelow : ¬(firstTold? key rest).isSome = true := fun hsome =>
                h (.blank hraw hblank (Source.isSome_firstTold?.1 hsome))
              rw [Option.none_or, Option.not_isSome_iff_eq_none.1 hbelow]

end Source

namespace Standard

def resolvedPath? (s : Standard) : Option String :=
  ((Stack.ofSources s.named).resolve Setting.configFile).value.map Hit.value

theorem path?_eq_firstGiven? (s : Standard) :
    s.path? = Source.firstGiven? "trace.config" s.named := rfl

theorem ofSources_named {s : Standard}
    (h : s.named.map Source.origin = [.override, .process, .environment]) :
    Stack.ofSources s.named = ⟨s.named⟩ := by
  have hranked : s.named.Pairwise fun t t' => t.precedes t' = true := by
    have horigins : (s.named.map Source.origin).Pairwise fun o o' => o.rank ≤ o'.rank := by
      rw [h]
      decide
    rw [List.pairwise_map] at horigins
    exact horigins.imp Source.precedes_iff.2
  rw [Stack.ofSources, List.mergeSort_of_pairwise hranked]

theorem resolvedPath?_eq_firstTold? {s : Standard}
    (h : s.named.map Source.origin = [.override, .process, .environment]) :
    s.resolvedPath? = Source.firstTold? "trace.config" s.named := by
  rw [resolvedPath?, Stack.value_resolve, ofSources_named h, Stack.find?, Stack.hits,
    List.head?_filterMap, List.map_findSome?, Source.firstTold?]
  congr 1
  funext source
  have hnames : Setting.configFile.names = ["trace.config"] := rfl
  rw [Function.comp_apply, Source.hit?, Source.firstPresent, hnames, List.findSome?_cons]
  cases source.present "trace.config" <;> rfl

/-- The path that is tried is the one that a stack of the same sources resolves, unless a blank path
stands above another one: then none is tried. -/
theorem path?_eq_resolvedPath? (s : Standard)
    (h : s.named.map Source.origin = [.override, .process, .environment]) :
    (¬Source.Hides "trace.config" s.named → s.path? = s.resolvedPath?) ∧
      (Source.Hides "trace.config" s.named → s.path? = none ∧ s.resolvedPath?.isSome = true) := by
  rw [path?_eq_firstGiven?, resolvedPath?_eq_firstTold? h]
  exact ⟨Source.firstGiven?_of_not_hides, fun hhides =>
    ⟨hhides.firstGiven?_eq, hhides.isSome_firstTold?⟩⟩

def blankBelow : Standard :=
  .ofPairs [] [("trace.config", " /app.toml ")] [("DD_TRACE_CONFIG", " ")] (some "program")

theorem not_hides_blankBelow : ¬Source.Hides "trace.config" blankBelow.named := by
  intro h
  cases h with
  | blank hraw _ _ => cases hraw
  | unset _ hrest =>
      cases hrest with
      | blank hraw hblank _ =>
          cases hraw
          exact absurd hblank (by decide +kernel)
      | unset hnone _ => cases hnone

theorem path?_blankBelow :
    blankBelow.named.map Source.origin = [.override, .process, .environment] ∧
      ¬Source.Hides "trace.config" blankBelow.named ∧
        blankBelow.path? = blankBelow.resolvedPath? :=
  ⟨rfl, not_hides_blankBelow, (path?_eq_resolvedPath? blankBelow rfl).1 not_hides_blankBelow⟩

def blankAbove : Standard :=
  .ofPairs [("trace.config", " ")] [] [("DD_TRACE_CONFIG", "/app.toml")] (some "program")

/-- A blank override hides the path in the environment. -/
theorem path?_blankAbove :
    blankAbove.named.map Source.origin = [.override, .process, .environment] ∧
      blankAbove.path? = none ∧ blankAbove.resolvedPath? = some "/app.toml" := by
  refine ⟨rfl, by decide +kernel, ?_⟩
  rw [resolvedPath?_eq_firstTold? rfl]
  decide +kernel

end Standard

end TracerSettings
