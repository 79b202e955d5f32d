import TracerSettings.Journal
import TracerSettings.Proofs.Firsts

namespace TracerSettings

namespace Note

def diagnostic? : Note → Option Diagnostic
  | .report d => some d
  | .collect .. => none

def collected? : Note → Option (String × Collected)
  | .report _ => none
  | .collect key value origin => some (key, ⟨value, origin⟩)

/-- What a journal can keep of a note, which holds no value of a secret. -/
def entry? : Note → Option (String × Collected)
  | .report _ => none
  | .collect key value origin => some (key, ⟨Journal.shown key value, origin⟩)

def shown : Note → Note
  | .report d => .report d
  | .collect key value origin => .collect key (Journal.shown key value) origin

end Note

def reports (notes : List Note) : List Diagnostic := notes.filterMap Note.diagnostic?

@[simp] theorem reports_nil : reports [] = [] := rfl

@[simp] theorem reports_append (notes notes' : List Note) :
    reports (notes ++ notes') = reports notes ++ reports notes' :=
  List.filterMap_append

@[simp] theorem reports_map_report (ds : List Diagnostic) : reports (ds.map .report) = ds := by
  rw [reports, List.filterMap_map]
  exact List.filterMap_some

def collections (notes : List Note) : List (String × Collected) := notes.filterMap Note.collected?

@[simp] theorem collections_append (notes notes' : List Note) :
    collections (notes ++ notes') = collections notes ++ collections notes' :=
  List.filterMap_append

@[simp] theorem collections_map_report (ds : List Diagnostic) :
    collections (ds.map .report) = [] := by
  rw [collections, List.filterMap_map]
  exact List.filterMap_none ds

theorem mem_collections {notes : List Note} {key : String} {c : Collected} :
    (key, c) ∈ collections notes ↔ .collect key c.value c.origin ∈ notes := by
  rw [collections, List.mem_filterMap]
  constructor
  · rintro ⟨note, hnote, hcollected⟩
    cases note with
    | report d => cases hcollected
    | collect key' value origin =>
        cases hcollected
        exact hnote
  · intro h
    exact ⟨_, h, rfl⟩

def entries (notes : List Note) : List (String × Collected) := notes.filterMap Note.entry?

@[simp] theorem entries_append (notes notes' : List Note) :
    entries (notes ++ notes') = entries notes ++ entries notes' :=
  List.filterMap_append

@[simp] theorem entries_map_report (ds : List Diagnostic) : entries (ds.map .report) = [] := by
  rw [entries, List.filterMap_map]
  exact List.filterMap_none ds

namespace Journal

def keys (j : Journal) : List String := j.collected.map Prod.fst

/-- What a journal newly holds of the settings in some notes: of each the first record. -/
def entered (j : Journal) (notes : List Note) : List (String × Collected) :=
  firsts Prod.fst j.keys (entries notes)

theorem isSome_get? (j : Journal) (key : String) : (j.get? key).isSome ↔ key ∈ j.keys := by
  have h (entries : List (String × Collected)) :
      (entries.lookup key).isSome ↔ key ∈ entries.map Prod.fst := by
    induction entries with
    | nil => simp
    | cons entry rest ih =>
        obtain ⟨k, c⟩ := entry
        by_cases hk : key = k
        · simp [hk]
        · simp [List.lookup_cons, beq_false_of_ne hk, hk, ih]
  exact h j.collected

theorem absorb_collect (j : Journal) (key value : String) (origin : Origin) :
    j.absorb [.collect key value origin] =
      if key ∈ j.keys then j
      else ⟨j.diagnostics, j.collected ++
        [(key, ⟨if isSecretKey key then mask else value, origin⟩)]⟩ := by
  show j.put key value origin = _
  simp only [put, isSome_get?, shown]

theorem diagnostics_add (j : Journal) (note : Note) :
    (j.add note).diagnostics = j.diagnostics ++ j.logged note := by
  cases note with
  | report d =>
      by_cases hd : d ∈ j.diagnostics
      · simp [add, logged, record, hd]
      · simp [add, logged, record, hd]
  | collect key value origin =>
      simp only [add, logged, put, List.append_nil]
      split <;> rfl

theorem diagnostics_absorb (j : Journal) (notes : List Note) :
    (j.absorb notes).diagnostics = j.diagnostics ++ j.log notes := by
  induction notes generalizing j with
  | nil => simp [log]
  | cons note rest ih =>
      calc ((j.add note).absorb rest).diagnostics
          = (j.add note).diagnostics ++ (j.add note).log rest := ih (j.add note)
        _ = j.diagnostics ++ j.log (note :: rest) := by
            rw [diagnostics_add, log, List.append_assoc]

theorem log_eq_firsts (j : Journal) (notes : List Note) :
    j.log notes = firsts id j.diagnostics (reports notes) := by
  induction notes generalizing j with
  | nil => rfl
  | cons note rest ih =>
      rw [log, ih, diagnostics_add]
      cases note with
      | report d =>
          simp only [reports, List.filterMap_cons, Note.diagnostic?]
          by_cases hd : id d ∈ j.diagnostics
          · have hlogged : j.logged (.report d) = [] := if_pos hd
            rw [firsts_cons_of_mem _ hd, hlogged, List.append_nil, List.nil_append]
          · have hlogged : j.logged (.report d) = [d] := if_neg hd
            rw [firsts_cons_of_notMem _ hd, hlogged, List.singleton_append, id]
      | collect key value origin =>
          simp only [reports, List.filterMap_cons, Note.diagnostic?, logged, List.append_nil,
            List.nil_append]

theorem diagnostics_absorb_empty (notes : List Note) :
    (empty.absorb notes).diagnostics = unique (reports notes) := by
  rw [diagnostics_absorb, log_eq_firsts, unique_eq_firsts]
  rfl

theorem collected_absorb (j : Journal) (notes : List Note) :
    (j.absorb notes).collected = j.collected ++ j.entered notes := by
  induction notes generalizing j with
  | nil => simp [entered, entries, firsts]
  | cons note rest ih =>
      rw [show j.absorb (note :: rest) = (j.add note).absorb rest from rfl, ih]
      cases note with
      | report d =>
          have hadd : (j.add (.report d)).collected = j.collected := by
            simp only [add, record]
            split <;> rfl
          simp only [entered, entries, keys, hadd, List.filterMap_cons, Note.entry?]
      | collect key value origin =>
          simp only [entered, entries, List.filterMap_cons, Note.entry?]
          by_cases hkey : key ∈ j.keys
          · have hadd : j.add (.collect key value origin) = j :=
              put_of_isSome value origin ((isSome_get? j key).2 hkey)
            rw [hadd, firsts_cons_of_mem _ hkey]
          · have hget : ¬(j.get? key).isSome := fun h => hkey ((isSome_get? j key).1 h)
            have hadd : (j.add (.collect key value origin)).collected =
                j.collected ++ [(key, ⟨shown key value, origin⟩)] := by
              simp only [add, put, if_neg hget]
            rw [firsts_cons_of_notMem _ hkey, keys, hadd, List.map_append, List.append_assoc]
            rfl

theorem entered_eq_map (j : Journal) (notes : List Note) :
    j.entered notes = (firsts Prod.fst j.keys (collections notes)).map fun entry =>
      (entry.1, ⟨shown entry.1 entry.2.value, entry.2.origin⟩) := by
  have hentries : entries notes = (collections notes).map fun entry =>
      (entry.1, ⟨shown entry.1 entry.2.value, entry.2.origin⟩) := by
    rw [entries, collections, List.map_filterMap]
    congr 1
    funext note
    cases note <;> rfl
  rw [entered, hentries]
  exact firsts_map (fun _ => rfl) _

theorem get?_absorb {j : Journal} {key : String} (hnew : key ∉ j.keys) (notes : List Note) :
    (j.absorb notes).get? key = ((collections notes).lookup key).map fun c =>
      ⟨shown key c.value, c.origin⟩ := by
  have hnone : j.collected.lookup key = none := by
    rw [← Option.not_isSome_iff_eq_none]
    exact fun h => hnew ((isSome_get? j key).1 h)
  have hentries : (entries notes).lookup key = ((collections notes).lookup key).map fun c =>
      ⟨shown key c.value, c.origin⟩ := by
    induction notes with
    | nil => rfl
    | cons note rest ih =>
        cases note with
        | report d => exact ih
        | collect key' value origin =>
            simp only [entries, collections, List.filterMap_cons, Note.entry?, Note.collected?,
              List.lookup_cons]
            by_cases hkey : key = key'
            · subst hkey
              simp
            · simpa [beq_false_of_ne hkey, entries, collections] using ih
  rw [get?, collected_absorb, List.lookup_append, hnone, Option.none_or, entered,
    lookup_firsts hnew, hentries]

theorem get?_absorb_of_plain {j : Journal} {key : String} (hnew : key ∉ j.keys)
    (hplain : isSecretKey key = false) (notes : List Note) :
    (j.absorb notes).get? key = (collections notes).lookup key := by
  rw [get?_absorb hnew]
  cases (collections notes).lookup key with
  | none => rfl
  | some c =>
      rw [Option.map_some, shown, hplain]
      rfl

theorem nodup_absorb {j : Journal} (h : j.diagnostics.Nodup) (notes : List Note) :
    (j.absorb notes).diagnostics.Nodup := by
  induction notes generalizing j with
  | nil => exact h
  | cons note rest ih =>
      apply ih
      cases note with
      | report d => exact nodup_record h
      | collect key value origin =>
          simp only [add, put]
          split <;> exact h

theorem log_absorb (j : Journal) (notes : List Note) : (j.absorb notes).log notes = [] := by
  rw [log_eq_firsts]
  apply firsts_eq_nil
  intro d hd
  rw [diagnostics_absorb, List.mem_append, log_eq_firsts]
  by_cases h : d ∈ j.diagnostics
  · exact .inl h
  · right
    have hmap : d ∈ (firsts id j.diagnostics (reports notes)).map id :=
      mem_map_firsts.2 ⟨h, List.mem_map_of_mem hd⟩
    rwa [List.map_id] at hmap

theorem entered_absorb (j : Journal) (notes : List Note) : (j.absorb notes).entered notes = [] := by
  apply firsts_eq_nil
  intro entry hentry
  rw [keys, collected_absorb, List.map_append, List.mem_append]
  by_cases h : entry.1 ∈ j.keys
  · exact .inl h
  · exact .inr (mem_map_firsts.2 ⟨h, List.mem_map_of_mem hentry⟩)

theorem absorb_absorb (j : Journal) (notes : List Note) :
    (j.absorb notes).absorb notes = j.absorb notes := by
  have hd := diagnostics_absorb (j.absorb notes) notes
  have hc := collected_absorb (j.absorb notes) notes
  rw [log_absorb, List.append_nil] at hd
  rw [entered_absorb, List.append_nil] at hc
  exact congrArg₂ Journal.mk hd hc

theorem log_eq_filter (j : Journal) (notes : List Note) :
    j.log notes = (empty.absorb notes).diagnostics.filter (· ∉ j.diagnostics) := by
  have hempty : (empty.absorb notes).diagnostics = empty.log notes :=
    diagnostics_absorb empty notes
  rw [hempty, log_eq_firsts, log_eq_firsts]
  exact firsts_eq_filter (fun _ hd => absurd hd List.not_mem_nil) _

theorem entered_eq_filter (j : Journal) (notes : List Note) :
    j.entered notes = (empty.absorb notes).collected.filter (·.1 ∉ j.keys) := by
  have hempty : (empty.absorb notes).collected = empty.entered notes :=
    collected_absorb empty notes
  rw [hempty, entered, entered]
  exact firsts_eq_filter (fun _ hk => absurd hk List.not_mem_nil) _

theorem shown_shown (key value : String) : shown key (shown key value) = shown key value := by
  unfold shown
  split <;> rfl

theorem add_shown (j : Journal) (note : Note) : j.add note.shown = j.add note := by
  cases note with
  | report d => rfl
  | collect key value origin => simp only [Note.shown, add, put, shown_shown]

theorem absorb_map_shown (j : Journal) (notes : List Note) :
    j.absorb (notes.map Note.shown) = j.absorb notes := by
  simp only [absorb, List.foldl_map, add_shown]

theorem log_map_shown (j : Journal) (notes : List Note) :
    j.log (notes.map Note.shown) = j.log notes := by
  have h : Note.diagnostic? ∘ Note.shown = Note.diagnostic? := by
    funext note
    cases note <;> rfl
  rw [log_eq_firsts, log_eq_firsts, reports, List.filterMap_map, h, reports]

end Journal

end TracerSettings
