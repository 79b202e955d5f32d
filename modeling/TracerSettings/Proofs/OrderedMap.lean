import TracerSettings.Proofs.Text.LowerCase
import TracerSettings.Stack.Typed

namespace TracerSettings

namespace OrderedMap

structure WellFormed (m : OrderedMap) : Prop where
  nodup : m.keys.Nodup
  named : ∀ key ∈ m.keys, key ≠ ""

theorem wellFormed_empty : empty.WellFormed := ⟨List.nodup_nil, by simp [keys, empty]⟩

theorem WellFormed.insert {m : OrderedMap} (h : m.WellFormed) {key : String} (hkey : key ≠ "")
    (value : String) : (m.insert key value).WellFormed := by
  have hkeys : (m.insert key value).keys = pushUnique m.keys key := keys_insert m key value
  constructor
  · rw [hkeys]
    exact nodup_pushUnique h.nodup
  · rw [hkeys]
    intro k hk
    rcases mem_pushUnique.1 hk with hk | rfl
    · exact h.named k hk
    · exact hkey

theorem WellFormed.extend {m other : OrderedMap} (h : m.WellFormed) (hother : other.WellFormed) :
    (m.extend other).WellFormed :=
  List.foldlRecOn other.entries _ h fun _ hm entry hentry =>
    hm.insert (hother.named _ (List.mem_map_of_mem hentry)) entry.2

end OrderedMap

open OrderedMap

theorem wellFormed_readEntries {entry : String → Except String (String × String)}
    (hentry : ∀ token key value, entry token = .ok (key, value) → key ≠ "")
    (tokens : List String) : (readEntries entry tokens).value.WellFormed := by
  refine List.foldlRecOn (motive := fun r : Reading OrderedMap => r.value.WellFormed) tokens _
    wellFormed_empty fun r hr token _ => ?_
  cases h : entry token with
  | error reason => exact hr
  | ok found => exact hr.insert (hentry token found.1 found.2 h) found.2

theorem Pairs.wellFormed_read (delimiters : Delimiters) (raw : String) :
    (read delimiters raw).value.WellFormed := by
  apply wellFormed_readEntries
  intro token key value h
  unfold entry at h
  split at h
  · cases h
  · split at h
    · cases h
    · cases h
      assumption

theorem TagMapping.wellFormed_read (m : TagMapping) (raw : String) :
    (m.read raw).value.WellFormed := by
  apply wellFormed_readEntries
  intro token key value h
  simp only [entry] at h
  split at h
  · cases h
  · obtain ⟨rfl, -⟩ := Prod.mk.inj (Except.ok.inj h)
    unfold storedKey
    split
    · exact Text.lowerCase_ne_empty ‹_›
    · assumption

namespace Stack

theorem wellFormed_mergeOnto {read : String → Reading OrderedMap}
    (hread : ∀ raw, (read raw).value.WellFormed) (st : Stack) (s : Setting) {base : OrderedMap}
    (hbase : base.WellFormed) : (st.mergeOnto read s base).value.WellFormed :=
  List.foldlRecOn (st.layers s.names) _ hbase fun _ hm hit _ => hm.extend (hread hit.value)

theorem wellFormed_mergedMap (st : Stack) (s : Setting) : (st.mergedMap s).value.WellFormed :=
  wellFormed_mergeOnto (Pairs.wellFormed_read .comma) st s wellFormed_empty

theorem wellFormed_mergedTags (st : Stack) (mapping : TagMapping) (settings : List Setting) :
    (st.mergedTags mapping settings).value.WellFormed := by
  have hfold (base : OrderedMap) (hbase : base.WellFormed) :
      (settings.foldlM (fun m s => st.mergeOnto mapping.read s m) base).value.WellFormed := by
    induction settings generalizing base with
    | nil => exact hbase
    | cons s rest ih => exact ih _ (wellFormed_mergeOnto mapping.wellFormed_read st s hbase)
  exact hfold .empty wellFormed_empty

end Stack

end TracerSettings
