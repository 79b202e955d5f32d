import TracerSettings.Proofs.OrderedMap.Layers
import TracerSettings.Text.Cut

namespace TracerSettings.OrderedMap

/-- Maps that give a key they share one value. -/
def Compatible (m other : OrderedMap) : Prop :=
  ∀ key value value', (key, value) ∈ m.entries → (key, value') ∈ other.entries → value = value'

theorem compatible_extend {m own : OrderedMap} (hm : (m.extend own).keys.Nodup)
    (hown : own.keys.Nodup) : (m.extend own).Compatible own := by
  intro key value value' hvalue hvalue'
  have hget := (lookup_eq_some_iff_mem hm).2 hvalue
  have hget' := (lookup_eq_some_iff_mem hown).2 hvalue'
  change (m.extend own).get? key = some value at hget
  change own.get? key = some value' at hget'
  rw [get?_extend hown, hget', Option.some_or] at hget
  exact (Option.some.inj hget).symm

def written (entry : String × String) : List Char := entry.1.toList ++ '=' :: entry.2.toList

def writtenBehind (entries : List (String × String)) : List Char :=
  entries.flatMap fun entry => ',' :: written entry

theorem cons_toList_render (entry : String × String) (rest : List (String × String)) :
    ',' :: (render ⟨entry :: rest⟩).toList = writtenBehind (entry :: rest) := by
  have htext (e : String × String) : (e.1 ++ "=" ++ e.2).toList = written e := by simp [written]
  have hjoined : ',' :: [','].intercalate ((entry :: rest).map written) =
      writtenBehind (entry :: rest) := by
    induction rest generalizing entry with
    | nil => simp [writtenBehind]
    | cons next rest ih =>
        rw [List.map_cons, List.map_cons, List.intercalate_cons_cons, List.append_assoc,
          List.singleton_append, ← List.map_cons, ih]
        rfl
  rw [render, String.toList_intercalate, List.map_map, ← hjoined]
  congr 2
  exact List.map_congr_left fun e _ => htext e

section Entries

variable {entry entry' : String × String} {rest rest' : List Char}

theorem written_append_inj (hkey : '=' ∉ entry.1.toList) (hkey' : '=' ∉ entry'.1.toList)
    (hvalue : entry.1 = entry'.1 → entry.2 = entry'.2)
    (h : written entry ++ rest = written entry' ++ rest') : entry = entry' ∧ rest = rest' := by
  rw [written, written, List.append_assoc, List.append_assoc, List.cons_append,
    List.cons_append] at h
  have hcut := Text.cut_append hkey (entry.2.toList ++ rest)
  rw [h, Text.cut_append hkey'] at hcut
  obtain ⟨hkeys, hrest⟩ := Prod.mk.inj (Option.some.inj hcut)
  have hsame : entry.1 = entry'.1 := (String.toList_injective hkeys).symm
  rw [← hvalue hsame] at hrest
  exact ⟨Prod.ext hsame (hvalue hsame), (List.append_cancel_left hrest).symm⟩

theorem written_append_ne_nil : written entry ++ rest ≠ [] := by
  simp [written]

theorem Compatible.behind {entries entries' : List (String × String)}
    (h : Compatible ⟨entry :: entries⟩ ⟨entry' :: entries'⟩) : Compatible ⟨entries⟩ ⟨entries'⟩ :=
  fun key value value' hvalue hvalue' =>
    h key value value' (List.mem_cons_of_mem entry hvalue) (List.mem_cons_of_mem entry' hvalue')

end Entries

theorem writtenBehind_inj {entries entries' : List (String × String)}
    (hkeys : ∀ key ∈ entries.map Prod.fst, '=' ∉ key.toList)
    (hkeys' : ∀ key ∈ entries'.map Prod.fst, '=' ∉ key.toList)
    (hcompatible : Compatible ⟨entries⟩ ⟨entries'⟩)
    (h : writtenBehind entries = writtenBehind entries') : entries = entries' := by
  induction entries generalizing entries' with
  | nil =>
      cases entries' with
      | nil => rfl
      | cons => cases h
  | cons entry entries ih =>
      cases entries' with
      | nil => cases h
      | cons entry' entries' =>
          obtain ⟨hkey, hkeys⟩ := List.forall_mem_cons.1 hkeys
          obtain ⟨hkey', hkeys'⟩ := List.forall_mem_cons.1 hkeys'
          have hvalue (hsame : entry.1 = entry'.1) : entry.2 = entry'.2 :=
            hcompatible entry.1 _ _ List.mem_cons_self (hsame ▸ List.mem_cons_self)
          obtain ⟨hentry, hrest⟩ :=
            written_append_inj hkey hkey' hvalue (List.cons.inj h).2
          rw [hentry, ih hkeys hkeys' hcompatible.behind hrest]

/-- Compatible maps without `=` in their keys have one text only if they are the same. -/
theorem eq_of_render_eq {m other : OrderedMap} (hkeys : ∀ key ∈ m.keys, '=' ∉ key.toList)
    (hkeys' : ∀ key ∈ other.keys, '=' ∉ key.toList) (hcompatible : m.Compatible other)
    (h : m.render = other.render) : m = other := by
  have hnonempty (entry : String × String) (rest : List (String × String)) :
      render ⟨entry :: rest⟩ ≠ "" := by
    intro hrender
    have htext := cons_toList_render entry rest
    rw [hrender, writtenBehind, List.flatMap_cons, List.cons_append] at htext
    exact written_append_ne_nil (List.cons.inj htext).2.symm
  obtain ⟨_ | ⟨entry, rest⟩⟩ := m
  · obtain ⟨_ | ⟨entry', rest'⟩⟩ := other
    · rfl
    · exact absurd h.symm (hnonempty entry' rest')
  · obtain ⟨_ | ⟨entry', rest'⟩⟩ := other
    · exact absurd h (hnonempty entry rest)
    · have htexts := congrArg (fun text : String => ',' :: text.toList) h
      simp only [cons_toList_render] at htexts
      exact congrArg mk (writtenBehind_inj hkeys hkeys' hcompatible htexts)

end TracerSettings.OrderedMap
