import TracerSettings.FileSystem
import TracerSettings.Proofs.Build.Failure
import TracerSettings.Proofs.Build.Shared
import TracerSettings.Proofs.Stack.Ranking
import TracerSettings.Proofs.Toml.Comment
import TracerSettings.Report

namespace TracerSettings

namespace Toml.Printer

mutual

theorem head?_of_mem_tables (path : List String) :
    (v : Value) → ∀ block ∈ tables path v, block.toList.head? = some '['
  | .table entries => by
      intro block hblock
      simp only [tables] at hblock
      split at hblock
      · exact head?_of_mem_entryTables path entries block hblock
      · rcases List.mem_cons.1 hblock with rfl | hblock
        · simp [header]
        · exact head?_of_mem_entryTables path entries block hblock
  | .text _ | .integer _ | .real _ | .boolean _ | .datetime _ | .array _ => by simp [tables]

theorem head?_of_mem_entryTables (path : List String) :
    (entries : List (String × Value)) →
      ∀ block ∈ entryTables path entries, block.toList.head? = some '['
  | [] => by simp [entryTables]
  | (k, v) :: rest => by
      intro block hblock
      rw [entryTables] at hblock
      rcases List.mem_append.1 hblock with hblock | hblock
      · exact head?_of_mem_tables _ v block hblock
      · exact head?_of_mem_entryTables path rest block hblock

end

theorem dropMark_document {entries : Entries} (h : ∀ e ∈ entries, isTable e.2 = true) :
    dropMark (document entries).toList = (document entries).toList := by
  have hown : assignments entries = "" := by
    rw [assignments, List.filter_eq_nil_iff.2 (by simpa using fun k v => h (k, v))]
    rfl
  have hdocument : document entries = "\n".intercalate (entryTables [] entries) := by
    simp [document, hown]
  rw [hdocument, String.toList_intercalate]
  cases hblocks : entryTables [] entries with
  | nil => rfl
  | cons block blocks =>
      have hhead := head?_of_mem_entryTables [] entries block (by simp [hblocks])
      obtain ⟨rest, hrest⟩ := List.head?_eq_some_iff.1 hhead
      rw [List.map_cons, hrest]
      cases blocks <;> rfl

end Toml.Printer

theorem Shape.isTable_of_mem_toEntries {fields : List (String × Shape)}
    (h : ∀ f ∈ fields, ∃ inner, f.2 = .table inner) :
    ∀ e ∈ toEntries fields, Toml.Printer.isTable e.2 = true := by
  induction fields with
  | nil => simp [toEntries]
  | cons f fields ih =>
      obtain ⟨key, shape⟩ := f
      obtain ⟨inner, rfl : shape = .table inner⟩ := h _ List.mem_cons_self
      simp only [toEntries, toToml?, List.forall_mem_cons]
      exact ⟨rfl, ih fun f hf => h f (List.mem_cons_of_mem _ hf)⟩

theorem Config.sections_tables (c : Config) : ∀ f ∈ c.sections, ∃ inner, f.2 = .table inner := by
  simp only [sections, List.forall_mem_cons]
  exact ⟨⟨_, rfl⟩, ⟨_, rfl⟩, ⟨_, rfl⟩, ⟨_, rfl⟩, ⟨_, rfl⟩, ⟨_, rfl⟩, ⟨_, rfl⟩, ⟨_, rfl⟩, ⟨_, rfl⟩,
    ⟨_, rfl⟩, by simp⟩

namespace Resolved

open Toml (Marked isComment marked_append marked_flatMap)
open Toml.Quoted (isPlain)

variable {r : Resolved}

def remarks (r : Resolved) : List String :=
  r.loadedFiles ++ r.collected.map settingLine ++ r.diagnostics.map Diagnostic.message

def remarkText (remark : String) : List Char := "#   ".toList ++ remark.toList

def titleText (title : String) : List Char := "# ".toList ++ title.toList ++ [':']

def partTexts (title : String) (remarks : List String) : List (List Char) :=
  if remarks.isEmpty then [] else ['#'] :: titleText title :: remarks.map remarkText

def headerTexts (r : Resolved) : List (List Char) :=
  ["# Resolved tracer configuration".toList] ++ partTexts "Loaded files" r.loadedFiles ++
    partTexts "Settings by origin" (r.collected.map settingLine) ++
    partTexts "Diagnostics" (r.diagnostics.map Diagnostic.message)

theorem toList_headerPart (title : String) (remarks : List String) :
    (headerPart title remarks).toList = Text.ended (partTexts title remarks) := by
  unfold headerPart partTexts
  split
  · rfl
  · simp [Text.ended, titleText, remarkText, String.toList_join, List.flatMap_map]

theorem toList_header (r : Resolved) : r.header.toList = Text.ended r.headerTexts := by
  -- Unfolding is cheap here, while equations of `header` make Lean compare its string literals.
  have hfirst : "# Resolved tracer configuration\n".toList =
      Text.ended ["# Resolved tracer configuration".toList] := by decide +kernel
  unfold header headerTexts
  simp only [String.toList_append, toList_headerPart, hfirst, Text.ended_append]

def headerLines (r : Resolved) : List (List Char) := (Text.lines r.header.toList).dropLast

theorem headerLines_eq (r : Resolved) : r.headerLines = r.headerTexts.flatMap Text.lines := by
  rw [headerLines, toList_header, Text.lines_ended, List.dropLast_concat]

theorem marked_remarkText {remark : String} :
    Marked (Text.lines (remarkText remark)) ↔ Marked (Text.lines remark.toList).tail := by
  rw [remarkText, Text.lines, Text.pieces_append_of_forall (by simp)]
  simp [Marked, Text.lines]

theorem marked_partTexts {title : String} {remarks : List String}
    (htitle : Marked (Text.lines (titleText title))) :
    Marked ((partTexts title remarks).flatMap Text.lines) ↔
      ∀ remark ∈ remarks, Marked (Text.lines remark.toList).tail := by
  have hmark : Marked (Text.lines ['#']) := by decide
  rw [marked_flatMap, partTexts]
  split
  · rename_i hempty
    simp [List.isEmpty_iff.1 hempty]
  · rw [List.forall_mem_cons, List.forall_mem_cons, List.forall_mem_map]
    simp only [hmark, htitle, marked_remarkText, true_and]

theorem marked_headerLines_iff (r : Resolved) :
    Marked r.headerLines ↔ ∀ remark ∈ r.remarks, Marked (Text.lines remark.toList).tail := by
  have hfirst : Marked (Text.lines "# Resolved tracer configuration".toList) := by decide
  rw [headerLines_eq, headerTexts, List.flatMap_append, List.flatMap_append, List.flatMap_append,
    marked_append, marked_append, marked_append, marked_partTexts (by decide),
    marked_partTexts (by decide), marked_partTexts (by decide), remarks, List.forall_mem_append,
    List.forall_mem_append, marked_flatMap, List.forall_mem_singleton]
  simp only [hfirst, true_and]

theorem not_mem_of_mem_headerLines : ∀ l ∈ r.headerLines, '\n' ∉ l := by
  intro l hl
  obtain ⟨text, -, hmem⟩ := List.mem_flatMap.1 (r.headerLines_eq ▸ hl)
  exact Text.not_mem_of_mem_lines hmem

def body (r : Resolved) : String := Toml.Printer.document (Shape.toEntries r.config.sections)

theorem toList_report (r : Resolved) :
    (r.header ++ "\n" ++ r.body).toList = Text.ended r.headerLines ++ '\n' :: r.body.toList := by
  rw [headerLines_eq, Text.ended_flatMap_lines, ← toList_header]
  simp

theorem table?_report (h : Marked r.headerLines) :
    Toml.table? (r.header ++ "\n" ++ r.body) =
      if r.headerLines.all isComment then Toml.table? r.body else none := by
  have hbody : Toml.dropMark r.body.toList = r.body.toList :=
    Toml.Printer.dropMark_document (Shape.isTable_of_mem_toEntries r.config.sections_tables)
  have htable := Toml.table?_comments h not_mem_of_mem_headerLines hbody
  rwa [← toList_report, String.ofList_toList, String.ofList_toList] at htable

theorem plain_partTexts {title : String} {remarks : List String}
    (htitle : title.toList.all isPlain = true)
    (h : ∀ remark ∈ remarks, remark.toList.all isPlain = true) :
    ∀ text ∈ partTexts title remarks, ∃ cs, text = '#' :: cs ∧ cs.all isPlain = true := by
  intro text htext
  unfold partTexts at htext
  split at htext
  · cases htext
  · rcases List.mem_cons.1 htext with rfl | htext
    · exact ⟨[], rfl, rfl⟩
    rcases List.mem_cons.1 htext with rfl | htext
    · exact ⟨' ' :: (title.toList ++ [':']), by simp [titleText], by
        rw [List.all_cons, List.all_append, htitle]; decide⟩
    · obtain ⟨remark, hremark, rfl⟩ := List.mem_map.1 htext
      exact ⟨' ' :: ' ' :: ' ' :: remark.toList, by simp [remarkText], h remark hremark⟩

theorem plain_headerTexts (h : ∀ remark ∈ r.remarks, remark.toList.all isPlain = true) :
    ∀ text ∈ r.headerTexts, ∃ cs, text = '#' :: cs ∧ cs.all isPlain = true := by
  simp only [remarks, List.forall_mem_append] at h
  obtain ⟨⟨hfiles, hsettings⟩, hdiagnostics⟩ := h
  simp only [headerTexts, List.forall_mem_append, List.forall_mem_singleton]
  refine ⟨⟨⟨⟨" Resolved tracer configuration".toList, by decide +kernel, by decide +kernel⟩, ?_⟩,
    ?_⟩, ?_⟩
  · exact plain_partTexts (by decide) hfiles
  · exact plain_partTexts (by decide) hsettings
  · exact plain_partTexts (by decide) hdiagnostics

theorem headerLines_of_plain (h : ∀ remark ∈ r.remarks, remark.toList.all isPlain = true) :
    r.headerLines = r.headerTexts := by
  have hbreak : isPlain '\n' = false := by decide
  rw [headerLines_eq, List.flatMap_congr (g := fun text => [text])]
  · simp
  · intro text htext
    obtain ⟨cs, rfl, hplain⟩ := plain_headerTexts h text htext
    refine Text.lines_of_not_mem fun hmem => ?_
    rcases List.mem_cons.1 hmem with hmark | hmem
    · exact absurd hmark (by decide)
    · simp [List.all_eq_true.1 hplain '\n' hmem] at hbreak

/-- The report on everything is a header, an empty line and the sections. Every line of the header
has the mark of comments iff no value, path or diagnostic goes on in a line without it; then the
report denotes what the sections denote, unless a comment holds a control character, which makes the
report no document at all. Remarks of plain characters do no harm. -/
theorem show?_toml_header (r : Resolved) :
    r.show? none .toml = some (r.header ++ "\n" ++ r.body) ∧
      (Marked r.headerLines ↔ ∀ remark ∈ r.remarks, Marked (Text.lines remark.toList).tail) ∧
      (Marked r.headerLines →
        Toml.table? (r.header ++ "\n" ++ r.body) =
          if r.headerLines.all isComment then Toml.table? r.body else none) ∧
      ((∀ remark ∈ r.remarks, remark.toList.all isPlain = true) →
        Marked r.headerLines ∧
          Toml.table? (r.header ++ "\n" ++ r.body) = Toml.table? r.body) := by
  refine ⟨rfl, marked_headerLines_iff r, table?_report, fun hplain => ?_⟩
  have hmarked : Marked r.headerLines := by
    rw [headerLines_of_plain hplain]
    intro text htext
    obtain ⟨cs, rfl, -⟩ := plain_headerTexts hplain text htext
    rfl
  have hcomments : r.headerLines.all isComment = true := by
    rw [headerLines_of_plain hplain, List.all_eq_true]
    intro text htext
    obtain ⟨cs, rfl, hcs⟩ := plain_headerTexts hplain text htext
    exact Toml.isComment_of_plain hcs
  exact ⟨hmarked, by rw [table?_report hmarked, if_pos hcomments]⟩

def brokenName : List Source := [.pairs .override [("service", "shop\ninjected = true #")]]

def brokenBuild : Build :=
  .ofSources Url.Host.readName (FileTree.directory []).fileSystem brokenName .empty

theorem mem_collected_brokenBuild :
    ("service", ⟨"shop\ninjected = true #", .override⟩) ∈ brokenBuild.journal.collected := by
  rw [brokenBuild, Build.journal_ofSources, Journal.collected_absorb, Build.configOf,
    Stack.ofSources_eq]
  decide +kernel

theorem exists_result_brokenBuild : ∃ r, brokenBuild.result = .ok r := by
  apply Build.exists_result_of_not_isOn
  rw [Stack.IsOn, Stack.ofSources_eq]
  decide +kernel

/-- The second line of the name is a line of the header, and no comment. -/
theorem not_marked_brokenBuild : ∃ r, brokenBuild.result = .ok r ∧ ¬Marked r.headerLines := by
  obtain ⟨r, hr⟩ := exists_result_brokenBuild
  refine ⟨r, hr, fun h => ?_⟩
  obtain ⟨c, rfl⟩ := Build.exists_eq_resolvedIn hr
  have hremark : settingLine ("service", ⟨"shop\ninjected = true #", .override⟩) ∈
      (Build.resolvedIn brokenBuild.journal brokenName c).remarks :=
    List.mem_append_left _ (List.mem_append_right _
      (List.mem_map_of_mem (List.mem_mergeSort.2 mem_collected_brokenBuild)))
  have hmarked := (marked_headerLines_iff _).1 h _ hremark
  exact absurd hmarked (by decide +kernel)

end Resolved

end TracerSettings
