import TracerSettings.Proofs.Stack.Fallback

namespace TracerSettings.Stack

def switchUnder (start ending name : String) : Setting := .named (start ++ name ++ ending)

/-- The first value found for a setting is a word or digit for `on`. -/
def Says (st : Stack) (s : Setting) (on : Bool) : Prop :=
  ∃ hit, st.find? s.names = some hit ∧ Grammar.switch.Means hit.value on

section Switches

variable {st : Stack} {s : Setting} {on : Bool} {hit : Hit}

theorem value_switch?_eq_some_iff : (st.switch? s).value = some on ↔ st.Says s on := by
  rw [switch?, Noted.value_bind, value_resolve, Says]
  cases hfind : st.find? s.names with
  | none => simp
  | some hit =>
      have hmeans : Grammar.switch.Means hit.value on ↔ readSwitch? hit.value = some on :=
        (readSwitch?_eq_some_iff (trimmed_of_find? hfind)).symm
      simp only [Option.some.injEq, exists_eq_left', hmeans, Scalar.switch]
      cases readSwitch? hit.value <;> simp

theorem switch?_of_unset (h : st.isSet s = false) : st.switch? s = pure none := by
  have hfind : st.find? s.names = none := by
    rwa [isSet, Option.isSome_eq_false_iff, Option.isNone_iff_eq_none] at h
  exact resolve_bind_of_none hfind

theorem switch?_of_unreadable (hfind : st.find? s.names = some hit) (h : ∀ on, ¬st.Says s on) :
    st.switch? s = ⟨none, [.collect s.key hit.value hit.origin,
      .report (.invalidValue s.key hit.value "expected true, false, 1 or 0")]⟩ := by
  have hread : readSwitch? hit.value = none := by
    rw [Option.eq_none_iff_forall_ne_some]
    intro on hon
    exact h on ⟨hit, hfind, (readSwitch?_eq_some_iff (trimmed_of_find? hfind)).1 hon⟩
  have herror : Scalar.switch.read hit.value = .error "expected true, false, 1 or 0" := by
    simp only [Scalar.switch, hread]
  apply Noted.ext
  · rw [switch?, value_resolve_bind hfind]
    simp only [herror]
    rfl
  · rw [switch?, notes_resolve_bind hfind]
    simp only [herror]
    rfl

theorem value_switch_of_unreadable (h : ∀ on, ¬st.Says s on) (default : Bool) :
    (st.switch s default).value = default := by
  have hnone : (st.switch? s).value = none := by
    rw [Option.eq_none_iff_forall_ne_some]
    exact fun on => mt value_switch?_eq_some_iff.1 (h on)
  rw [switch, Noted.value_bind, hnone]
  rfl

theorem switch_of_readable (h : st.Says s on) (default : Bool) :
    st.switch s default = ⟨on, (st.switch? s).notes⟩ := by
  have hsome := value_switch?_eq_some_iff.2 h
  apply Noted.ext
  · rw [switch, Noted.value_bind, hsome]
    rfl
  · rw [switch, Noted.notes_bind, hsome, Noted.notes_pure, List.append_nil]

end Switches

section Names

variable {st : Stack} {start ending name : String} {default on : Bool}
  {before after names : List String}

/-- The first of some names whose switch can be read is `on` or off. -/
def FirstToSay (st : Stack) (start ending : String) (names : List String) (on : Bool) : Prop :=
  ∃ before name after, names = before ++ name :: after ∧
    (∀ passed ∈ before, ∀ on, ¬st.Says (switchUnder start ending passed) on) ∧
      st.Says (switchUnder start ending name) on

theorem isEnabled_cons_of_unset (h : st.isSet (switchUnder start ending name) = false) :
    st.isEnabled start ending default (name :: after) =
      st.isEnabled start ending default after := by
  have hswitch := switch?_of_unset h
  rw [switchUnder] at hswitch
  rw [isEnabled, hswitch, pure_bind]

theorem isEnabled_append_of_unset
    (h : ∀ name ∈ before, st.isSet (switchUnder start ending name) = false) :
    st.isEnabled start ending default (before ++ after) =
      st.isEnabled start ending default after := by
  induction before with
  | nil => rfl
  | cons name before ih =>
      obtain ⟨hname, hbefore⟩ := List.forall_mem_cons.1 h
      rw [List.cons_append, isEnabled_cons_of_unset hname, ih hbefore]

theorem isEnabled_cons_of_readable (h : st.Says (switchUnder start ending name) on) :
    st.isEnabled start ending default (name :: after) =
      st.switch (switchUnder start ending name) default := by
  have hsome := value_switch?_eq_some_iff.2 h
  rw [switch_of_readable h, switchUnder]
  rw [switchUnder] at hsome
  apply Noted.ext
  · rw [isEnabled, Noted.value_bind, hsome]
    rfl
  · rw [isEnabled, Noted.notes_bind, hsome, Noted.notes_pure, List.append_nil]

theorem isEnabled_cons_of_unreadable
    (h : ∀ on, ¬st.Says (switchUnder start ending name) on) :
    st.isEnabled start ending default (name :: after) =
      ⟨(st.isEnabled start ending default after).value,
        (st.switch? (switchUnder start ending name)).notes ++
          (st.isEnabled start ending default after).notes⟩ := by
  have hnone : (st.switch? (switchUnder start ending name)).value = none := by
    rw [Option.eq_none_iff_forall_ne_some]
    exact fun on => mt value_switch?_eq_some_iff.1 (h on)
  rw [switchUnder] at hnone
  apply Noted.ext
  · rw [isEnabled, Noted.value_bind, hnone]
  · rw [isEnabled, Noted.notes_bind, hnone, switchUnder]

theorem isEnabled_append_of_readable
    (hbefore : ∀ passed ∈ before, ∀ on, ¬st.Says (switchUnder start ending passed) on)
    (h : st.Says (switchUnder start ending name) on) :
    st.isEnabled start ending default (before ++ name :: after) =
      ⟨on, before.flatMap (fun passed => (st.switch? (switchUnder start ending passed)).notes) ++
        (st.switch? (switchUnder start ending name)).notes⟩ := by
  induction before with
  | nil => rw [List.nil_append, isEnabled_cons_of_readable h, switch_of_readable h]; rfl
  | cons passed before ih =>
      obtain ⟨hpassed, hbefore⟩ := List.forall_mem_cons.1 hbefore
      rw [List.cons_append, isEnabled_cons_of_unreadable hpassed, ih hbefore, List.flatMap_cons,
        List.append_assoc]

/-- Only a switch that can be read makes anything differ from the default. -/
theorem value_isEnabled_ne_default_iff :
    (st.isEnabled start ending default names).value ≠ default ↔
      st.FirstToSay start ending names (!default) := by
  constructor
  · intro hne
    induction names with
    | nil => exact absurd rfl hne
    | cons name names ih =>
        by_cases hsays : ∃ on, st.Says (switchUnder start ending name) on
        · obtain ⟨on, hon⟩ := hsays
          rw [isEnabled_cons_of_readable hon, switch_of_readable hon] at hne
          have hopposite : on = !default := Bool.eq_not.2 hne
          exact ⟨[], name, names, rfl, by simp, hopposite ▸ hon⟩
        · have hnot := not_exists.1 hsays
          rw [isEnabled_cons_of_unreadable hnot] at hne
          obtain ⟨before, first, after, rfl, hbefore, hfirst⟩ := ih hne
          exact ⟨name :: before, first, after, rfl, List.forall_mem_cons.2 ⟨hnot, hbefore⟩, hfirst⟩
  · rintro ⟨before, name, after, rfl, hbefore, hname⟩
    rw [isEnabled_append_of_readable hbefore hname]
    exact Bool.not_ne_self default

end Names

/-- How the names of something decide whether it is on. -/
structure DecidedByNames (st : Stack) (start ending : String) (default : Bool)
    (names : List String) : Prop where
  unset (h : ∀ name ∈ names, st.isSet (switchUnder start ending name) = false) :
    st.isEnabled start ending default names = pure default
  readable {before after : List String} {name : String} (hnames : names = before ++ name :: after)
    (hbefore : ∀ passed ∈ before, st.isSet (switchUnder start ending passed) = false)
    (h : ∃ on, st.Says (switchUnder start ending name) on) :
    st.isEnabled start ending default names =
      st.switch (switchUnder start ending name) default
  unreadable {before after : List String} {name : String} {hit : Hit}
    (hnames : names = before ++ name :: after)
    (hbefore : ∀ passed ∈ before, st.isSet (switchUnder start ending passed) = false)
    (hset : st.find? (switchUnder start ending name).names = some hit)
    (h : ∀ on, ¬st.Says (switchUnder start ending name) on) :
    st.isEnabled start ending default names =
      ⟨(st.isEnabled start ending default after).value,
        .collect (start ++ name ++ ending) hit.value hit.origin ::
          .report (.invalidValue (start ++ name ++ ending) hit.value
            "expected true, false, 1 or 0") ::
          (st.isEnabled start ending default after).notes⟩
  /-- The result is another one than that of its own switch where the first switch after it that
  can be read is not set to the default. -/
  overruled {before after : List String} {name : String} (hnames : names = before ++ name :: after)
    (hbefore : ∀ passed ∈ before, st.isSet (switchUnder start ending passed) = false)
    (h : ∀ on, ¬st.Says (switchUnder start ending name) on) :
    (st.isEnabled start ending default names).value ≠
        (st.switch (switchUnder start ending name) default).value ↔
      st.FirstToSay start ending after (!default)
  later {before after : List String} {name : String} (hnames : names = before ++ name :: after)
    (hbefore : ∀ passed ∈ before, ∀ on, ¬st.Says (switchUnder start ending passed) on)
    (h : ∃ on, st.Says (switchUnder start ending name) on) (after' : List String) :
    st.isEnabled start ending default names =
      st.isEnabled start ending default (before ++ name :: after')

/-- Whether something with several names is on, by any sources. -/
theorem isEnabled_decidedByNames (sources : List Source) (start ending : String) (default : Bool)
    (names : List String) : DecidedByNames (ofSources sources) start ending default names := by
  constructor
  case unset =>
    intro h
    have hskip : (ofSources sources).isEnabled start ending default (names ++ []) = pure default :=
      isEnabled_append_of_unset h
    rwa [List.append_nil] at hskip
  case readable =>
    rintro before after name rfl hbefore ⟨on, hon⟩
    rw [isEnabled_append_of_unset hbefore, isEnabled_cons_of_readable hon]
  case unreadable =>
    rintro before after name hit rfl hbefore hset h
    rw [isEnabled_append_of_unset hbefore, isEnabled_cons_of_unreadable h,
      switch?_of_unreadable hset h]
    rfl
  case overruled =>
    rintro before after name rfl hbefore h
    rw [isEnabled_append_of_unset hbefore, isEnabled_cons_of_unreadable h,
      value_switch_of_unreadable h]
    exact value_isEnabled_ne_default_iff
  case later =>
    rintro before after name rfl hbefore ⟨on, hon⟩ after'
    rw [isEnabled_append_of_readable hbefore hon, isEnabled_append_of_readable hbefore hon]

def undecided : List Source :=
  [.pairs .process [("integration.jdbc.enabled", "maybe"),
    ("integration.jdbc-datasource.enabled", "true")]]

/-- The first name that is set does not decide: its own switch falls back to off, but the second
name is on. -/
theorem isEnabled_undecided :
    (ofSources undecided).isSet (switchUnder "integration." ".enabled" "jdbc") = true ∧
      ((ofSources undecided).switch (switchUnder "integration." ".enabled" "jdbc") false).value =
        false ∧
      ((ofSources undecided).isEnabled "integration." ".enabled" false
        ["jdbc", "jdbc-datasource"]).value = true := by
  rw [ofSources_eq]
  decide +kernel

end TracerSettings.Stack
