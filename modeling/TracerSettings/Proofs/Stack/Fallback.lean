import TracerSettings.Proofs.Choice
import TracerSettings.Proofs.Number.Integer
import TracerSettings.Proofs.Stack.FirstHit
import TracerSettings.Proofs.StatusSet.Union

namespace TracerSettings

def Diagnostic.refusal? : Diagnostic → Option (String × String)
  | .unrecognizedValue setting value => some (setting, value)
  | .invalidValue setting value _ => some (setting, value)
  | _ => none

/-- Which texts of a setting can be read, what these mean, which parts of a text are refused, and
how a value is written. -/
structure Grammar (α : Type) where
  Reads : String → Prop
  Means : String → α → Prop
  Refuses : String → List String → Prop
  text : α → String

namespace Grammar

variable {α : Type}

inductive RefusesWhole (Reads : String → Prop) (raw : String) : List String → Prop
  | accepted (h : Reads raw) : RefusesWhole Reads raw []
  | refused (h : ¬Reads raw) : RefusesWhole Reads raw [raw]

/-- The grammar of texts that mean a value or nothing at all. -/
def whole (Means : String → α → Prop) (text : α → String) : Grammar α where
  Reads raw := ∃ a, Means raw a
  Means := Means
  Refuses := RefusesWhole fun raw => ∃ a, Means raw a
  text := text

def switch : Grammar Bool :=
  whole (fun raw on => Text.lower raw = switchText on ∨ raw = if on then "1" else "0") switchText

def integer (range : IntegerRange) : Grammar Int := whole range.Denotes toString

def choice (α : Type) [Choice α] : Grammar α :=
  whole (fun raw a => Choice.ofName? (Text.lower raw) = some a) Choice.name

def statuses : Grammar StatusSet where
  Reads raw := ∃ token ∈ StatusSet.rangeTokens raw, StatusSet.Accepted token
  Means raw set := ∀ code, set.contains code = true ↔
    ∃ token ∈ StatusSet.rangeTokens raw, StatusSet.Encloses token code
  Refuses raw refused :=
    refused = ((StatusSet.rangeTokens raw).filter fun token => ¬StatusSet.Accepted token).map
      String.ofList
  text := StatusSet.render

/-- A run that reads a text by a grammar. -/
structure Governs (g : Grammar α) (s : Setting) (default : α) (raw : String) (x : Noted α) :
    Prop where
  read (h : g.Reads raw) (a : α) : g.Means raw a ↔ a = x.value
  unread (h : ¬g.Reads raw) : x.value = default
  reported : ∃ refused, g.Refuses raw refused ∧
    (reports x.notes).map Diagnostic.refusal? = refused.map fun text => some (s.key, text)
  collected : ∀ entry ∈ collections x.notes, entry.1 = s.key

section Whole

variable {Means : String → α → Prop} {text : α → String} {s : Setting} {default a : α}
  {raw : String}

theorem governs_accepted (h : Means raw a) (hunique : ∀ b, Means raw b → b = a) :
    (whole Means text).Governs s default raw (pure a) where
  read _ b := ⟨hunique b, fun hb => hb ▸ h⟩
  unread hnone := absurd ⟨a, h⟩ hnone
  reported := ⟨[], .accepted ⟨a, h⟩, rfl⟩
  collected _ hentry := absurd hentry List.not_mem_nil

theorem governs_refused (h : ∀ a, ¬Means raw a) {d : Diagnostic}
    (hd : d.refusal? = some (s.key, raw)) {rest : List Note} (hreports : reports rest = [])
    (hrest : ∀ entry ∈ collections rest, entry.1 = s.key) :
    (whole Means text).Governs s default raw ⟨default, .report d :: rest⟩ where
  read := fun ⟨a, ha⟩ => absurd ha (h a)
  unread _ := rfl
  reported := by
    have hcons : reports (.report d :: rest) = d :: reports rest := rfl
    refine ⟨[raw], .refused (not_exists.2 h), ?_⟩
    rw [hcons, hreports, List.map_singleton, hd, List.map_singleton]
  collected := hrest

end Whole

end Grammar

theorem readSwitch?_eq_some_iff {raw : String} (h : Text.Trimmed raw) {on : Bool} :
    readSwitch? raw = some on ↔
      Text.lower raw = switchText on ∨ raw = if on then "1" else "0" := by
  have htrue : Text.lower "true" = "true" := by decide +kernel
  have hfalse : Text.lower "false" = "false" := by decide +kernel
  have hone : Text.lower "1" = "1" := by decide +kernel
  have hread : readSwitch? raw =
      if Text.lower raw = "true" ∨ raw = "1" then some true
      else if Text.lower raw = "false" ∨ raw = "0" then some false else none := by
    simp only [readSwitch?, Text.trim_eq_self_iff.2 h, Text.sameLetters, htrue, hfalse,
      Bool.or_eq_true, beq_iff_eq]
  have hapart : Text.lower raw = "true" ∨ raw = "1" → ¬(Text.lower raw = "false" ∨ raw = "0") := by
    rintro (hon | rfl)
    · rw [hon]
      rintro (hoff | rfl)
      · exact absurd hoff (by decide)
      · exact absurd hon (by decide +kernel)
    · rw [hone]
      decide
  rw [hread]
  cases on with
  | true =>
      show _ ↔ Text.lower raw = "true" ∨ raw = "1"
      split
      · exact iff_of_true rfl ‹_›
      · refine iff_of_false ?_ ‹_›
        split <;> exact nofun
  | false =>
      show _ ↔ Text.lower raw = "false" ∨ raw = "0"
      split
      · exact iff_of_false nofun (hapart ‹_›)
      · split
        · exact iff_of_true rfl ‹_›
        · exact iff_of_false nofun ‹_›

theorem Scalar.read_integer_eq_ok_iff {range : IntegerRange} (hleast : range.least ≤ 0)
    (hgreatest : 0 ≤ range.greatest) {raw : String} {i : Int} :
    (integer range).read raw = .ok i ↔ range.Denotes raw i := by
  have hread : (integer range).read raw = (range.read raw).mapError IntegerError.message := rfl
  rw [hread, IntegerRange.denotes_iff hleast hgreatest]
  cases range.read raw with
  | ok j => simp only [Except.mapError, Except.ok.injEq]
  | error e => simp only [Except.mapError, reduceCtorEq]

section Accepted

variable {α : Type} (setting : String) (r : Reading α)

theorem reports_accept : reports (accept setting r).notes = invalidValues setting r.rejected := by
  rw [accept, Noted.notes_bind, Noted.notes_pure, List.append_nil, reportAll, reports_map_report]

theorem collections_accept : collections (accept setting r).notes = [] := by
  rw [accept, Noted.notes_bind, Noted.notes_pure, List.append_nil, reportAll,
    collections_map_report]

end Accepted

namespace Stack

section Resolved

variable {α : Type} {st : Stack} {s : Setting} {hit : Hit} {k : Option Hit → Noted α}

theorem resolve_bind_of_none (h : st.find? s.names = none) : st.resolve s >>= k = k none := by
  rw [resolve, h, pure_bind]

theorem value_resolve_bind (h : st.find? s.names = some hit) :
    (st.resolve s >>= k).value = (k (some hit)).value := by
  rw [Noted.value_bind, value_resolve, h]

theorem notes_resolve_bind (h : st.find? s.names = some hit) :
    (st.resolve s >>= k).notes =
      .collect s.key hit.value hit.origin :: (k (some hit)).notes := by
  rw [Noted.notes_bind, notes_resolve, value_resolve, h]
  rfl

theorem HasFirst.resolve_eq {st' : Stack} {place : Place} (h : st.HasFirst [] s.names place hit)
    (htake : st'.sources.take ((ofLex place).1 + 1) = st.sources.take ((ofLex place).1 + 1)) :
    st'.resolve s = st.resolve s := by
  have hvalue : (st'.resolve s).value = (st.resolve s).value := by
    rw [value_resolve, value_resolve, find?_eq_some_iff.2 ⟨place, h⟩,
      find?_eq_some_iff.2 ⟨place, h.of_take_eq htake⟩]
  apply Noted.ext hvalue
  rw [notes_resolve, notes_resolve, hvalue]

theorem trimmed_of_find? (h : st.find? s.names = some hit) : Text.Trimmed hit.value := by
  obtain ⟨place, hfirst⟩ := find?_eq_some_iff.1 h
  obtain ⟨source, -, -, -, -, raw, -, htrim, -⟩ := hfirst.has
  rw [← htrim]
  exact Text.trimmed_trim raw

end Resolved

section Kept

variable {s : Setting} {before : Journal}

theorem collected_absorb_collect (hsecret : isSecretKey s.key = false) (hnew : s.key ∉ before.keys)
    {value : String} {origin : Origin} {notes : List Note}
    (hnotes : ∀ entry ∈ collections notes, entry.1 = s.key) :
    (before.absorb (.collect s.key value origin :: notes)).collected =
      before.collected ++ [(s.key, ⟨value, origin⟩)] := by
  have hseen : ∀ entry ∈ collections notes, entry.1 ∈ before.keys ++ [s.key] :=
    fun entry hentry => List.mem_append_right _ (List.mem_singleton.2 (hnotes entry hentry))
  have hfirsts : firsts Prod.fst before.keys
      (collections (.collect s.key value origin :: notes)) = [(s.key, ⟨value, origin⟩)] := by
    have hcons : collections (.collect s.key value origin :: notes) =
        (s.key, ⟨value, origin⟩) :: collections notes := rfl
    have hnew' : (s.key, (⟨value, origin⟩ : Collected)).1 ∉ before.keys := hnew
    rw [hcons, firsts_cons_of_notMem _ hnew', firsts_eq_nil hseen]
  rw [Journal.collected_absorb, Journal.entered_eq_map, hfirsts, List.map_singleton,
    Journal.shown, hsecret]
  rfl

end Kept

/-- How a setting falls back to its default. -/
structure FallsBack {α : Type} (g : Grammar α) (sources : List Source) (s : Setting) (default : α)
    (before : Journal) (get : Stack → Noted α) : Prop where
  unset (h : ∀ source ∈ sources, source.Silent s.names) :
    (get (ofSources sources)).value = default ∧
      reports (get (ofSources sources)).notes = [] ∧
      before.absorb (get (ofSources sources)).notes =
        ⟨before.diagnostics, before.collected ++ [(s.key, ⟨g.text default, .default⟩)]⟩
  read {place : Place} {hit : Hit} (h : (ofSources sources).HasFirst [] s.names place hit)
    (hread : g.Reads hit.value) (a : α) : g.Means hit.value a ↔ a = (get (ofSources sources)).value
  unread {place : Place} {hit : Hit} (h : (ofSources sources).HasFirst [] s.names place hit)
    (hread : ¬g.Reads hit.value) : (get (ofSources sources)).value = default
  reported {place : Place} {hit : Hit} (h : (ofSources sources).HasFirst [] s.names place hit) :
    ∃ refused, g.Refuses hit.value refused ∧
      (reports (get (ofSources sources)).notes).map Diagnostic.refusal? =
        refused.map fun text => some (s.key, text)
  collected {place : Place} {hit : Hit} (h : (ofSources sources).HasFirst [] s.names place hit) :
    (before.absorb (get (ofSources sources)).notes).collected =
      before.collected ++ [(s.key, ⟨hit.value, hit.origin⟩)]
  below {place : Place} {hit : Hit} {sources' : List Source}
    (h : (ofSources sources).HasFirst [] s.names place hit)
    (htake : (ofSources sources').sources.take ((ofLex place).1 + 1) =
      (ofSources sources).sources.take ((ofLex place).1 + 1)) :
    get (ofSources sources') = get (ofSources sources)

section FallsBack

variable {α : Type} {g : Grammar α} {sources : List Source} {s : Setting} {default : α}
  {before : Journal} {get : Stack → Noted α}

theorem fallsBack_of_governs {k : Option Hit → Noted α} (hsecret : isSecretKey s.key = false)
    (hnew : s.key ∉ before.keys) (hget : ∀ st, get st = st.resolve s >>= k)
    (hnone : k none = defaulted s (g.text default) default)
    (hsome : ∀ hit, Text.Trimmed hit.value → g.Governs s default hit.value (k (some hit))) :
    FallsBack g sources s default before get := by
  have hfind {place : Place} {hit : Hit} (h : (ofSources sources).HasFirst [] s.names place hit) :
      (ofSources sources).find? s.names = some hit :=
    find?_eq_some_iff.2 ⟨place, h⟩
  have hgoverns {place : Place} {hit : Hit}
      (h : (ofSources sources).HasFirst [] s.names place hit) :
      g.Governs s default hit.value (k (some hit)) :=
    hsome hit (trimmed_of_find? (hfind h))
  constructor
  case unset =>
    intro h
    have hfind? : (ofSources sources).find? s.names = none :=
      find?_eq_none_iff.2 fun source hsource => h source (mem_ofSources.1 hsource)
    rw [hget, resolve_bind_of_none hfind?, hnone]
    refine ⟨rfl, rfl, ?_⟩
    have hkept := before.absorb_collect s.key (g.text default) .default
    rwa [if_neg hnew, hsecret, if_neg Bool.false_ne_true] at hkept
  case read =>
    intro place hit h hread a
    rw [hget, value_resolve_bind (hfind h), (hgoverns h).read hread]
  case unread =>
    intro place hit h hread
    rw [hget, value_resolve_bind (hfind h), (hgoverns h).unread hread]
  case reported =>
    intro place hit h
    rw [hget, notes_resolve_bind (hfind h)]
    exact (hgoverns h).reported
  case collected =>
    intro place hit h
    rw [hget, notes_resolve_bind (hfind h)]
    exact collected_absorb_collect hsecret hnew (hgoverns h).collected
  case below =>
    intro place hit sources' h htake
    rw [hget, hget, h.resolve_eq htake]

theorem switch_fallsBack (hsecret : isSecretKey s.key = false) (hnew : s.key ∉ before.keys)
    (default : Bool) :
    FallsBack .switch sources s default before fun st => st.switch s default := by
  apply fallsBack_of_governs hsecret hnew
  case hget =>
    intro st
    rw [switch, switch?, bind_assoc]
  case hnone => rfl
  case hsome =>
    intro hit htrimmed
    cases hread : readSwitch? hit.value with
    | some on =>
        have hunique (b : Bool) (hb : Text.lower hit.value = switchText b ∨
            hit.value = if b then "1" else "0") : b = on := by
          rw [← readSwitch?_eq_some_iff htrimmed, hread] at hb
          exact (Option.some.inj hb).symm
        simp only [Scalar.switch, hread]
        exact Grammar.governs_accepted ((readSwitch?_eq_some_iff htrimmed).1 hread) hunique
    | none =>
        have hnone (b : Bool) : ¬(Text.lower hit.value = switchText b ∨
            hit.value = if b then "1" else "0") := by
          rw [← readSwitch?_eq_some_iff htrimmed, hread]
          exact (Option.some_ne_none b).symm
        simp only [Scalar.switch, hread]
        -- The default is collected behind what was found.
        apply Grammar.governs_refused hnone rfl rfl
        exact fun _ hentry => congrArg Prod.fst (List.mem_singleton.1 hentry)

theorem scalar_fallsBack (hsecret : isSecretKey s.key = false) (hnew : s.key ∉ before.keys)
    {range : IntegerRange} (hleast : range.least ≤ 0) (hgreatest : 0 ≤ range.greatest)
    (default : Int) :
    FallsBack (.integer range) sources s default before
      fun st => st.scalar (.integer range) s default := by
  apply fallsBack_of_governs hsecret hnew
  case hget => exact fun st => rfl
  case hnone => rfl
  case hsome =>
    intro hit _
    have hok {i : Int} : (Scalar.integer range).read hit.value = .ok i ↔
        range.Denotes hit.value i :=
      Scalar.read_integer_eq_ok_iff hleast hgreatest
    cases hread : (Scalar.integer range).read hit.value with
    | ok i =>
        have hunique (j : Int) (hj : range.Denotes hit.value j) : j = i := by
          rw [← hok, hread] at hj
          exact (Except.ok.inj hj).symm
        simp only [hread]
        exact Grammar.governs_accepted (hok.1 hread) hunique
    | error reason =>
        have hnone (i : Int) : ¬range.Denotes hit.value i := by
          rw [← hok, hread]
          exact nofun
        simp only [hread]
        exact Grammar.governs_refused hnone rfl rfl fun _ hentry => absurd hentry List.not_mem_nil

theorem choice_fallsBack {α : Type} [Choice α] (hsecret : isSecretKey s.key = false)
    (hnew : s.key ∉ before.keys) (default : α) :
    FallsBack (.choice α) sources s default before fun st => st.choice s default := by
  apply fallsBack_of_governs hsecret hnew
  case hget => exact fun st => rfl
  case hnone => rfl
  case hsome =>
    intro hit htrimmed
    have htrim : Text.trim hit.value = hit.value := Text.trim_eq_self_iff.2 htrimmed
    cases hread : (Choice.ofName? (Text.lower hit.value) : Option α) with
    | some a =>
        have hunique (b : α) (hb : Choice.ofName? (Text.lower hit.value) = some b) : b = a :=
          Option.some.inj (hb.symm.trans hread)
        simp only [Choice.readOr, Choice.read?, htrim, hread]
        exact Grammar.governs_accepted hread hunique
    | none =>
        have hnone (b : α) : ¬Choice.ofName? (Text.lower hit.value) = some b := by
          rw [hread]
          exact (Option.some_ne_none b).symm
        simp only [Choice.readOr, Choice.read?, htrim, hread]
        exact Grammar.governs_refused hnone rfl rfl fun _ hentry => absurd hentry List.not_mem_nil

theorem statuses_fallsBack (hsecret : isSecretKey s.key = false) (hnew : s.key ∉ before.keys)
    (default : StatusSet) :
    FallsBack .statuses sources s default before fun st => st.statuses s default := by
  apply fallsBack_of_governs hsecret hnew
  case hget => exact fun st => rfl
  case hnone => simp only [Grammar.statuses]
  case hsome =>
    intro hit _
    constructor
    case read =>
      intro hread set
      constructor
      · intro hset
        apply StatusSet.eq_of_contains
        intro code
        rw [Bool.eq_iff_iff, hset]
        exact (StatusSet.contains_read hread default code).symm
      · rintro rfl
        exact StatusSet.contains_read hread default
    case unread =>
      intro hread
      apply StatusSet.value_read_of_rejected
      exact fun token htoken haccepted => hread ⟨token, htoken, haccepted⟩
    case reported =>
      refine ⟨_, rfl, ?_⟩
      have htokens : (StatusSet.read hit.value default).rejected.map Rejected.token =
          ((StatusSet.rangeTokens hit.value).filter fun token => ¬StatusSet.Accepted token).map
            String.ofList :=
        StatusSet.rejected_foldl_addToken (StatusSet.rangeTokens hit.value) (.clean .empty)
      rw [← htokens, reports_accept]
      simp only [invalidValues, List.map_map]
      rfl
    case collected =>
      intro entry hentry
      rw [collections_accept] at hentry
      exact absurd hentry List.not_mem_nil

end FallsBack

/-- The getters of all types fall back in the same way. -/
structure AllFallBack (sources : List Source) (s : Setting) (before : Journal) : Prop where
  switch (default : Bool) :
    FallsBack .switch sources s default before fun st => st.switch s default
  int32 (default : Int) :
    FallsBack (.integer .int32) sources s default before fun st => st.scalar .int32 s default
  int64 (default : Int) :
    FallsBack (.integer .int64) sources s default before fun st => st.scalar .int64 s default
  choice {α : Type} [Choice α] (default : α) :
    FallsBack (.choice α) sources s default before fun st => st.choice s default
  statuses (default : StatusSet) :
    FallsBack .statuses sources s default before fun st => st.statuses s default

theorem allFallBack (sources : List Source) {s : Setting} {before : Journal}
    (hsecret : isSecretKey s.key = false) (hnew : s.key ∉ before.keys) :
    AllFallBack sources s before where
  switch := switch_fallsBack hsecret hnew
  int32 := scalar_fallsBack hsecret hnew (by decide) (by decide)
  int64 := scalar_fallsBack hsecret hnew (by decide) (by decide)
  choice := choice_fallsBack hsecret hnew
  statuses := statuses_fallsBack hsecret hnew

def overflowing : List Source :=
  [.environment "DD" [("DD_LIMIT", "7")], .pairs .override [("limit", " 2147483648 ")]]

theorem allFallBack_overflowing :
    isSecretKey "limit" = false ∧ "limit" ∉ Journal.empty.keys ∧
      ((ofSources overflowing).scalar .int32 (.named "limit") 5).value = 5 ∧
      ((ofSources overflowing).scalar .int64 (.named "limit") 5).value = 2147483648 := by
  have hsecret : isSecretKey (Setting.named "limit").key = false := by decide +kernel
  have hnew : (Setting.named "limit").key ∉ Journal.empty.keys := List.not_mem_nil
  have hall := allFallBack overflowing hsecret hnew
  have hfind : (ofSources overflowing).find? (Setting.named "limit").names =
      some ⟨"2147483648", .override, "limit"⟩ := by
    rw [ofSources_eq]
    decide +kernel
  have hlarge : IntegerRange.int32.read "2147483648" = .error .tooLarge := by decide +kernel
  obtain ⟨place, hfirst⟩ := find?_eq_some_iff.1 hfind
  refine ⟨hsecret, hnew, ?_, ?_⟩
  · apply (hall.int32 5).unread hfirst
    rintro ⟨i, hi⟩
    have hread := (IntegerRange.denotes_iff (by decide) (by decide)).1 hi
    exact nomatch hlarge.symm.trans hread
  · have hdenotes : IntegerRange.int64.Denotes "2147483648" 2147483648 :=
      (IntegerRange.denotes_iff (by decide) (by decide)).2 (by decide +kernel)
    exact (((hall.int64 5).read hfirst ⟨_, hdenotes⟩ _).1 hdenotes).symm

end Stack

end TracerSettings
