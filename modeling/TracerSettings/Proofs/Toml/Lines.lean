import TracerSettings.Proofs.Toml.Fuel
import TracerSettings.Proofs.Toml.Values

namespace TracerSettings.Toml

open Quoted (isSpace)

variable {length : Nat} {rest : List Char}

def BeginsKey (c : Char) : Prop := c = '"' ∨ c = '\'' ∨ isBare c = true

instance (c : Char) : Decidable (BeginsKey c) := inferInstanceAs (Decidable (_ ∨ _ ∨ _))

theorem BeginsKey.ne {c d : Char} (hc : BeginsKey c) (hd : d ∈ ['#', '\n', '\r', '[', ' ', '\t']) :
    c ≠ d := by
  rintro rfl
  simp only [List.mem_cons, List.not_mem_nil, or_false] at hd
  rcases hd with rfl | rfl | rfl | rfl | rfl | rfl <;> exact absurd hc (by decide)

theorem keyText_eq_cons (s : String) :
    ∃ c tail, (Printer.key s).toList = c :: tail ∧ BeginsKey c := by
  have hread : keyPart (s.length + 1) ((Printer.key s).toList ++ []) = some (s, []) :=
    Printer.keyPart_key (by omega) (by simp)
  rw [List.append_nil] at hread
  rcases hkey : (Printer.key s).toList with _ | ⟨c, tail⟩
  · rw [hkey] at hread
    cases hread
  · refine ⟨c, tail, rfl, ?_⟩
    rw [hkey, keyPart] at hread
    grind [BeginsKey]

def keyPath (path : List String) : List Char :=
  ['.'].intercalate (path.map fun k => (Printer.key k).toList)

theorem skipSpace_key (s : String) (rest : List Char) :
    skipSpace ((Printer.key s).toList ++ rest) = (Printer.key s).toList ++ rest := by
  obtain ⟨c, tail, hkey, hc⟩ := keyText_eq_cons s
  have hspace : isSpace c = false := by simp [isSpace, hc.ne]
  rw [hkey, List.cons_append, skipSpace, List.dropWhile_cons_of_neg (by simp [hspace])]

theorem keyPath_singleton (k : String) : keyPath [k] = (Printer.key k).toList := by
  simp [keyPath]

theorem keyPath_cons_cons (k k' : String) (path : List String) :
    keyPath (k :: k' :: path) = (Printer.key k).toList ++ '.' :: keyPath (k' :: path) := by
  simp [keyPath]

theorem keyPath_eq_cons {path : List String} (hpath : path ≠ []) :
    ∃ c tail, keyPath path = c :: tail ∧ BeginsKey c := by
  obtain ⟨k, path, rfl⟩ := List.exists_cons_of_ne_nil hpath
  obtain ⟨c, tail, hkey, hc⟩ := keyText_eq_cons k
  rcases path with _ | ⟨k', path⟩
  · exact ⟨c, tail, by rw [keyPath_singleton, hkey], hc⟩
  · exact ⟨c, _, by rw [keyPath_cons_cons, hkey]; rfl, hc⟩

theorem keyFrom_keyPath {parts : Nat} (seen : List String) {path : List String} (hpath : path ≠ [])
    (hparts : path.length ≤ parts) (hlength : (keyPath path).length < length)
    (hbare : ∀ c ∈ rest.head?, isBare c = false) (hpoint : (skipSpace rest).head? ≠ some '.') :
    keyFrom length parts seen (keyPath path ++ rest) =
      some (path.reverse ++ seen, skipSpace rest) := by
  induction path generalizing parts seen with
  | nil => exact absurd rfl hpath
  | cons k path ih =>
      obtain ⟨parts, rfl⟩ : ∃ n, parts = n + 1 := ⟨parts - 1, by grind⟩
      have hk := Printer.length_le_key k
      rcases path with _ | ⟨k', path⟩
      · rw [keyPath_singleton, String.length_toList] at hlength
        rw [keyPath_singleton, keyFrom, skipSpace_key, Printer.keyPart_key (by omega) hbare,
          Option.bind_eq_bind, Option.bind_some]
        dsimp only
        split
        case h_1 tail heq => simp [heq] at hpoint
        case h_2 => rfl
      · rw [keyPath_cons_cons, List.length_append, String.length_toList, List.length_cons]
          at hlength
        have hdot : ∀ c ∈ ('.' :: (keyPath (k' :: path) ++ rest)).head?, isBare c = false := by
          simp [isBare]
        rw [keyPath_cons_cons, List.append_assoc, List.cons_append, keyFrom, skipSpace_key,
          Printer.keyPart_key (by omega) hdot, Option.bind_eq_bind, Option.bind_some]
        have hstep := @ih parts (k :: seen) (by simp) (by grind) (by omega)
        simpa [skipSpace, isSpace] using hstep

theorem key_keyPath {path : List String} {k : String} (hparts : path.length < nestingLimit)
    (hlength : (keyPath (path ++ [k])).length < length)
    (hbare : ∀ c ∈ rest.head?, isBare c = false) (hpoint : (skipSpace rest).head? ≠ some '.') :
    key length (keyPath (path ++ [k]) ++ rest) = some ((path, k), skipSpace rest) := by
  have hread := keyFrom_keyPath [] (by simp : path ++ [k] ≠ [])
    (by simpa using Nat.succ_le_of_lt hparts) hlength hbare hpoint
  rw [key, hread]
  simp

theorem skipSpace_of_value {depth : Nat} {cs : List Char} {r : Value × List Char}
    (h : value length depth cs = some r) : skipSpace cs = cs := by
  rcases cs with _ | ⟨c, cs⟩
  · rfl
  · by_cases hc : isSpace c = true
    · rw [value_space hc] at h
      cases h
    · rw [skipSpace, List.dropWhile_cons_of_neg hc]

namespace Progress

/-- What a document comes to from here on. The length of the text is enough for every reader. -/
def run (p : Progress) (cs : List Char) : Option Progress :=
  p.lines (cs.length + 1) (cs.length + 1) cs

variable {p q : Progress} {cs : List Char}

theorem run_line (hspace : skipSpace cs = cs) (hne : cs ≠ [])
    (hline : p.line (cs.length + 1) cs = some (q, rest)) : p.run cs = q.run rest := by
  have hlt := length_line_lt hne hline
  rw [run, lines, hspace]
  split
  case h_1 heq => exact absurd rfl hne
  case h_2 =>
    rw [hline]
    exact lines_fuel (by omega) (by omega) (by omega) (by omega)

/-- Reading `text` takes one from `p` to `q`, whatever comes behind it. -/
def Reads (p : Progress) (text : List Char) (q : Progress) : Prop :=
  ∀ rest, p.run (text ++ rest) = q.run rest

variable {r : Progress} {text text' : List Char}

theorem Reads.refl (p : Progress) : p.Reads [] p := fun _ => rfl

theorem Reads.trans (h : p.Reads text q) (h' : q.Reads text' r) : p.Reads (text ++ text') r := by
  intro rest
  rw [List.append_assoc, h, h']

theorem run_nil (p : Progress) : p.run [] = some p := rfl

theorem reads_blank (p : Progress) : p.Reads ['\n'] p :=
  fun _ => run_line (by rfl) (List.cons_ne_nil _ _) rfl

theorem line_of_key {c : Char} {tail : List Char} (hc : BeginsKey c)
    (h : p.assignment length (c :: tail) = some (q, '\n' :: rest)) :
    p.line length (c :: tail) = some (q, rest) := by
  rw [line]
  · rw [h]
    rfl
  all_goals simp [hc.ne]

theorem line_of_header {c : Char} {tail : List Char} (hc : BeginsKey c)
    (h : p.tableHeader length (c :: tail) = some (q, '\n' :: rest)) :
    p.line length ('[' :: c :: tail) = some (q, rest) := by
  rw [line]
  · rw [h]
    rfl
  all_goals simp [hc.ne]

def assignmentText (k : String) (v : Value) : List Char :=
  (Printer.key k).toList ++ " = ".toList ++ (Printer.value v).toList ++ ['\n']

theorem assignment_text {root : Outline.Fields} {k : String} {v : Value} (hv : v.Plain)
    (hlength : (assignmentText k v).length ≤ length)
    (h : Outline.inside p.header (Outline.assign [] k v) p.root = some root) :
    p.assignment length (assignmentText k v ++ rest) =
      some (⟨root, p.header⟩, '\n' :: rest) := by
  have htext : assignmentText k v ++ rest =
      keyPath ([] ++ [k]) ++ ' ' :: '=' :: ' ' :: ((Printer.value v).toList ++ '\n' :: rest) := by
    simp [assignmentText, keyPath_singleton]
  have hlengths : (Printer.key k).toList.length + (Printer.value v).toList.length + 4 ≤ length := by
    simp [assignmentText] at hlength
    omega
  have hvalue : value length nestingLimit ((Printer.value v).toList ++ '\n' :: rest) =
      some (v, '\n' :: rest) := hv.read (by omega)
  have hspace : skipSpace (' ' :: ((Printer.value v).toList ++ '\n' :: rest)) =
      (Printer.value v).toList ++ '\n' :: rest := by
    rw [skipSpace, List.dropWhile_cons_of_pos (by decide)]
    exact skipSpace_of_value hvalue
  have hmark : skipSpace (' ' :: '=' :: ' ' :: ((Printer.value v).toList ++ '\n' :: rest)) =
      '=' :: ' ' :: ((Printer.value v).toList ++ '\n' :: rest) := rfl
  rw [assignment, htext, key_keyPath (by decide) (by rw [List.nil_append, keyPath_singleton]; omega)
    (by simp [isBare]) (by rw [hmark]; simp), hmark]
  simp [Datetime.mark, hspace, hvalue, h]

theorem reads_assignment {root : Outline.Fields} {k : String} {v : Value} (hv : v.Plain)
    (h : Outline.inside p.header (Outline.assign [] k v) p.root = some root) :
    p.Reads (assignmentText k v) ⟨root, p.header⟩ := by
  intro rest
  have hassign : p.assignment ((assignmentText k v ++ rest).length + 1)
      (assignmentText k v ++ rest) = some (⟨root, p.header⟩, '\n' :: rest) :=
    assignment_text hv (by simp; omega) h
  obtain ⟨c, tail, hkey, hc⟩ := keyText_eq_cons k
  have hspace : skipSpace (assignmentText k v ++ rest) = assignmentText k v ++ rest := by
    rw [assignmentText, List.append_assoc, List.append_assoc, List.append_assoc, skipSpace_key]
  have htext : ∃ more, assignmentText k v ++ rest = c :: more := ⟨_, by
    rw [assignmentText, hkey]
    rfl⟩
  obtain ⟨more, htext⟩ := htext
  rw [htext] at hassign hspace ⊢
  exact run_line hspace (List.cons_ne_nil _ _) (line_of_key hc hassign)

def headerText (path : List String) : List Char := '[' :: keyPath path ++ [']', '\n']

theorem reads_header {root : Outline.Fields} {path : List String} {k : String}
    (hpath : path.length < nestingLimit)
    (h : Outline.openTable path k .own p.root = some root) :
    p.Reads (headerText (path ++ [k])) ⟨root, path ++ [k]⟩ := by
  intro rest
  have htext : headerText (path ++ [k]) ++ rest =
      '[' :: (keyPath (path ++ [k]) ++ ']' :: '\n' :: rest) := by
    simp [headerText]
  have hmark : skipSpace (']' :: '\n' :: rest) = ']' :: '\n' :: rest := rfl
  have hheader : p.tableHeader ((headerText (path ++ [k]) ++ rest).length + 1)
      (keyPath (path ++ [k]) ++ ']' :: '\n' :: rest) =
        some (⟨root, path ++ [k]⟩, '\n' :: rest) := by
    rw [tableHeader, key_keyPath hpath (by simp [headerText]; omega) (by simp [isBare])
      (by rw [hmark]; simp), hmark]
    simp [Datetime.mark, h]
  obtain ⟨c, tail, hkey, hc⟩ := keyPath_eq_cons (by simp : path ++ [k] ≠ [])
  rw [hkey, List.cons_append] at htext hheader
  rw [htext] at hheader ⊢
  exact run_line (by rfl) (List.cons_ne_nil _ _) (line_of_header hc hheader)

end Progress

theorem table?_eq_run {cs : List Char} (hwhole : dropMark cs = cs) :
    table? (String.ofList cs) = (Progress.start.run cs).map fun p => Outline.toTable p.root :=
  table?_ofList hwhole (Nat.lt_succ_self _) (Nat.lt_succ_self _)

end TracerSettings.Toml
