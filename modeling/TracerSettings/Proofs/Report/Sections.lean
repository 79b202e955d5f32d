import TracerSettings.Proofs.OrderedMap.Layers
import TracerSettings.Proofs.Report.Data
import TracerSettings.Proofs.Report.Header

namespace TracerSettings

section Lookups

variable {α : Type} {entries : List (String × α)}

theorem lookup_sortEntries (h : (entries.map Prod.fst).Nodup) (key : String) :
    (Toml.sortEntries entries).lookup key = entries.lookup key := by
  have hperm : (Toml.sortEntries entries).Perm entries := List.mergeSort_perm _ _
  ext v
  rw [lookup_eq_some_iff_mem ((hperm.map Prod.fst).nodup_iff.2 h), lookup_eq_some_iff_mem h,
    hperm.mem_iff]

theorem lookup_map_snd {β : Type} (g : α → β) (entries : List (String × α)) (key : String) :
    (entries.map fun entry => (entry.1, g entry.2)).lookup key = (entries.lookup key).map g := by
  induction entries with
  | nil => rfl
  | cons entry entries ih =>
      rw [List.map_cons, List.lookup_cons, List.lookup_cons, ih]
      split <;> rfl

end Lookups

theorem Toml.lookup_sorted {entries : Entries} (h : (entries.map Prod.fst).Nodup) (key : String) :
    (sortEntries (Value.sortedFields entries)).lookup key =
      (entries.lookup key).map Value.sorted := by
  rw [Value.sortedFields_eq, lookup_sortEntries (by rwa [List.map_map]), lookup_map_snd]

theorem Json.lookup_data {fields : List (String × Json)} (h : (fields.map Prod.fst).Nodup)
    (key : String) :
    (Toml.sortEntries (dataFields fields)).lookup key = (fields.lookup key).map data := by
  rw [dataFields_eq, lookup_sortEntries (by rwa [List.map_map]), lookup_map_snd]

theorem Shape.lookup_toEntries {fields : List (String × Shape)} (h : (fields.map Prod.fst).Nodup)
    (key : String) : (toEntries fields).lookup key = (fields.lookup key).bind toToml? := by
  ext v
  simp only [lookup_eq_some_iff_mem (nodup_toEntries h), mem_toEntries, Option.bind_eq_some_iff,
    lookup_eq_some_iff_mem h]

namespace Config

def sectionNames : List String :=
  ["service", "agent", "credentials", "propagation", "trace", "profiling", "telemetry",
    "runtime_metrics", "ci_visibility", "log_submission"]

theorem map_fst_sections (c : Config) : c.sections.map Prod.fst = sectionNames := rfl

theorem nodup_sections (c : Config) : (c.sections.map Prod.fst).Nodup := by
  rw [map_fst_sections]
  decide

theorem section?_eq (c : Config) (name : String) :
    c.section? name = ((Shape.toEntries c.sections).lookup name).map Toml.Value.sorted := by
  rw [Shape.lookup_toEntries c.nodup_sections, section?]
  cases c.sections.lookup name with
  | none => rfl
  | some shape => cases hshape : shape.toToml? <;> simp [hshape]

end Config

namespace Resolved

/-- How the reports on single sections go together with the report on everything. -/
structure ShowsSections (r : Resolved) : Prop where
  others : ∀ name ∉ Config.sectionNames, ∀ format, r.show? (some name) format = none
  toml : r.show? none .toml = some (r.header ++ "\n" ++ r.body) ∧
    ∃ entries, (Toml.table? r.body).map Toml.Value.sorted = some (.table entries) ∧
      ∀ name ∈ Config.sectionNames, ∃ fields, entries.lookup name = some (.table fields) ∧
        r.show? (some name) .toml =
          some (r.header ++ "\n" ++ Toml.Printer.document fields)
  json : ∃ whole config, (r.show? none .json).bind Json.read? = some (.object whole) ∧
    whole.lookup "config" = some (.object config) ∧
      ∀ name ∈ Config.sectionNames, ∃ shape alone among,
        r.config.sections.lookup name = some shape ∧
          (r.show? (some name) .json).bind Json.read? = some alone ∧
            config.lookup name = some among ∧ (alone = among ↔ shape.Alike)

variable {r : Resolved}

theorem sorted_table?_body (h : (Shape.table r.config.sections).Formed 3) :
    (Toml.table? r.body).map Toml.Value.sorted =
      some (Toml.Value.table (Shape.toEntries r.config.sections)).sorted :=
  Toml.sorted_table?_document (h.toToml? rfl) (by decide)
    (Toml.Printer.dropMark_document (Shape.isTable_of_mem_toEntries r.config.sections_tables))

theorem exists_section {name : String} (hname : name ∈ Config.sectionNames) :
    ∃ inner, r.config.sections.lookup name = some (.table inner) ∧
      r.config.section? name = some (Toml.Value.table (Shape.toEntries inner)).sorted := by
  obtain ⟨⟨k, shape⟩, hmem, rfl⟩ := List.mem_map.1 (r.config.map_fst_sections ▸ hname)
  obtain ⟨inner, rfl : shape = .table inner⟩ := r.config.sections_tables _ hmem
  have hlookup := (lookup_eq_some_iff_mem r.config.nodup_sections).2 hmem
  refine ⟨inner, hlookup, ?_⟩
  rw [Config.section?, hlookup]
  rfl

theorem section?_eq_none {name : String} (hname : name ∉ Config.sectionNames) :
    r.config.section? name = none := by
  have hlookup : r.config.sections.lookup name = none := by
    rwa [Toml.Outline.lookup_eq_none_iff_notMem, Config.map_fst_sections]
  rw [Config.section?, hlookup]
  rfl

def members (r : Resolved) : List (String × Json) := [
  ("config", .object (Shape.fieldsToJson r.config.sections)),
  ("sources", .object (r.collected.map collectedJson)),
  ("diagnostics", .array (r.diagnostics.map fun d => .text d.message)),
  ("loaded_files", .array (r.loadedFiles.map .text))]

theorem formed_members (h : (Shape.table r.config.sections).Formed 3) :
    (Json.object r.members).Formed := by
  refine .object ?_
  simp only [members, List.forall_mem_cons]
  refine ⟨h.formed_toJson, .object ?_, .array ?_, Json.formed_texts r.loadedFiles, by simp⟩
  · intro entry hentry
    obtain ⟨collected, -, rfl⟩ := List.mem_map.1 hentry
    refine .object ?_
    simp only [List.forall_mem_cons]
    exact ⟨.text _, .text _, by simp⟩
  · intro item hitem
    obtain ⟨d, -, rfl⟩ := List.mem_map.1 hitem
    exact .text d.message

theorem read?_everything (h : (Shape.table r.config.sections).Formed 3) :
    (r.show? none .json).bind Json.read? =
      some (.object (Toml.sortEntries (Json.dataFields r.members))) := by
  have hshow : r.show? none .json = some (Json.pretty "" (.object r.members)) := rfl
  rw [hshow, Option.bind_some, Json.read?_pretty (formed_members h), Json.data]

theorem lookup_config (r : Resolved) :
    (Toml.sortEntries (Json.dataFields r.members)).lookup "config" = some (.object
      (Toml.sortEntries (Json.dataFields (Shape.fieldsToJson r.config.sections)))) := by
  rw [Json.lookup_data (by simp [members])]
  rfl

theorem lookup_section (r : Resolved) (name : String) :
    (Toml.sortEntries (Json.dataFields (Shape.fieldsToJson r.config.sections))).lookup name =
      (r.config.sections.lookup name).map fun shape => shape.toJson.data := by
  have hkeys : ((Shape.fieldsToJson r.config.sections).map Prod.fst).Nodup := by
    rw [Shape.fieldsToJson_eq, List.map_map]
    exact r.config.nodup_sections
  rw [Json.lookup_data hkeys, Shape.fieldsToJson_eq, lookup_map_snd, Option.map_map]
  rfl

theorem showsSections_of_formed (h : (Shape.table r.config.sections).Formed 3) :
    r.ShowsSections := by
  constructor
  case others =>
    intro name hname format
    have hnone := section?_eq_none (r := r) hname
    cases format with
    | toml => simp [show?, tomlBody?, hnone]
    | json => simp [show?, jsonBody?, hnone]
  case toml =>
    refine ⟨rfl, _, sorted_table?_body h, fun name hname => ?_⟩
    obtain ⟨inner, -, hsection⟩ := exists_section (r := r) hname
    refine ⟨Toml.sortEntries (Toml.Value.sortedFields (Shape.toEntries inner)), ?_, ?_⟩
    · rw [Toml.lookup_sorted (Shape.nodup_toEntries r.config.nodup_sections),
        ← Config.section?_eq, hsection, Toml.Value.sorted]
    · simp only [show?, tomlBody?, hsection, Toml.Value.sorted, Option.map_some]
  case json =>
    refine ⟨_, _, read?_everything h, lookup_config r, fun name hname => ?_⟩
    obtain ⟨inner, hlookup, hsection⟩ := exists_section (r := r) hname
    obtain ⟨depth, hformed⟩ : ∃ depth, (Shape.table inner).Formed depth := by
      cases h with
      | table _ h =>
        exact ⟨_, h _ ((lookup_eq_some_iff_mem r.config.nodup_sections).1 hlookup)⟩
    refine ⟨_, _, _, hlookup, ?_, ?_, hformed.data_eq_iff rfl⟩
    · simp only [show?, jsonBody?, hsection, Option.map_some, Option.bind_some]
      exact Json.read?_pretty (hformed.formed_ofToml rfl)
    · rw [lookup_section, hlookup]
      rfl

end Resolved

namespace Build

theorem ofSources_showsSections {readName : Url.Host.NameReader} {files : FileSystem}
    {sources : List Source} {before : Journal} {r : Resolved}
    (h : (ofSources readName files sources before).result = .ok r) :
    r.ShowsSections := by
  apply Resolved.showsSections_of_formed
  rw [config_eq_resolve h]
  exact Config.formed_sections readName files (.ofSources sources)

def assortedSections : List Source :=
  [.pairs .override [("trace.tags", "team:a b,[x]=\"y\":'z'"), ("env", "a\nb"),
    ("telemetry.heartbeat.interval", "0.1"), ("trace.http.server.error.statuses", "500-510,599")]]

theorem ofSources_assortedSections : ∃ r,
    (ofSources Url.Host.readName (FileTree.directory []).fileSystem assortedSections
      .empty).result = .ok r ∧
      r.ShowsSections := by
  have hunset : (Stack.ofSources assortedSections).find? Setting.ciVisibility.names = none := by
    rw [Stack.ofSources_eq]
    decide +kernel
  obtain ⟨r, h⟩ := exists_result_of_find?_eq_none hunset Url.Host.readName
    (FileTree.directory []).fileSystem .empty
  exact ⟨r, h, ofSources_showsSections h⟩

def briefHeartbeat : List Source := [.pairs .override [("telemetry.heartbeat.interval", "0.1")]]

def tenth : Binary := .finite false 13421773 (-27)

theorem not_alike_tenth : ¬(Shape.single tenth).Alike := by
  have hholds : Format.single.Holds 13421773 (-27) :=
    ⟨by decide, by decide, by decide, by decide⟩
  have hdouble : Binary.shortest .toEven .double 13421773 (-27) = ⟨10000000149011612, -17⟩ := by
    decide +kernel
  have hsingle : Binary.shortest .toEven .single 13421773 (-27) = ⟨1, -1⟩ := by
    decide +kernel
  rw [tenth, Shape.alike_single_iff hholds, hdouble, hsingle]
  norm_num [Binary.Decimal.value]

theorem heartbeatSeconds_brief :
    (Telemetry.resolve (.ofSources briefHeartbeat)).value.heartbeatSeconds = tenth := by
  rw [Stack.ofSources_eq]
  decide +kernel

/-- Alone, the section has another number than among the others. -/
theorem not_sameMember_briefHeartbeat : ∃ r alone among whole config,
    (ofSources Url.Host.readName (FileTree.directory []).fileSystem briefHeartbeat
      .empty).result = .ok r ∧
      (r.show? (some "telemetry") .json).bind Json.read? = some alone ∧
        (r.show? none .json).bind Json.read? = some (.object whole) ∧
          whole.lookup "config" = some (.object config) ∧
            config.lookup "telemetry" = some among ∧ alone ≠ among := by
  have hunset : (Stack.ofSources briefHeartbeat).find? Setting.ciVisibility.names = none := by
    rw [Stack.ofSources_eq]
    decide +kernel
  obtain ⟨r, h⟩ := exists_result_of_find?_eq_none hunset Url.Host.readName
    (FileTree.directory []).fileSystem .empty
  have hformed : (Shape.table r.config.sections).Formed 3 := by
    rw [config_eq_resolve h]
    exact Config.formed_sections _ _ _
  obtain ⟨whole, config, hwhole, hconfig, hsections⟩ :=
    (Resolved.showsSections_of_formed hformed).json
  obtain ⟨shape, alone, among, hlookup, halone, hmember, hiff⟩ := hsections "telemetry" (by decide)
  refine ⟨r, alone, among, whole, config, h, halone, hwhole, hconfig, hmember, fun hsame => ?_⟩
  have hseconds : r.config.telemetry.heartbeatSeconds = tenth := by
    rw [config_eq_resolve h]
    exact heartbeatSeconds_brief
  obtain rfl : r.config.telemetry.shape = shape := Option.some.inj hlookup
  have halike := hiff.1 hsame
  cases halike with
  | table halike =>
    have hsingle := halike ("heartbeat_interval_secs", .single tenth) (by simp [hseconds])
    exact not_alike_tenth hsingle

end Build

end TracerSettings
