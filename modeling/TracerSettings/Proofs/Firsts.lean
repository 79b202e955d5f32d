import Mathlib.Data.List.Basic
import TracerSettings.Tokens

namespace TracerSettings

section Firsts

variable {α κ : Type} [DecidableEq κ] {key : α → κ} {seen : List κ} {items : List α}

/-- The items with a key that is not in `seen` and did not come before. -/
def firsts (key : α → κ) (seen : List κ) : List α → List α
  | [] => []
  | a :: rest =>
      if key a ∈ seen then firsts key seen rest else a :: firsts key (seen ++ [key a]) rest

theorem firsts_cons_of_mem {a : α} (rest : List α) (h : key a ∈ seen) :
    firsts key seen (a :: rest) = firsts key seen rest := by
  simp [firsts, h]

theorem firsts_cons_of_notMem {a : α} (rest : List α) (h : key a ∉ seen) :
    firsts key seen (a :: rest) = a :: firsts key (seen ++ [key a]) rest := by
  simp [firsts, h]

theorem firsts_eq_nil (h : ∀ a ∈ items, key a ∈ seen) : firsts key seen items = [] := by
  induction items with
  | nil => rfl
  | cons a rest ih =>
      rw [firsts_cons_of_mem rest (h a List.mem_cons_self)]
      exact ih fun b hb => h b (List.mem_cons_of_mem a hb)

theorem firsts_eq_self (hnodup : (items.map key).Nodup) (hseen : ∀ a ∈ items, key a ∉ seen) :
    firsts key seen items = items := by
  induction items generalizing seen with
  | nil => rfl
  | cons a rest ih =>
      obtain ⟨ha, hrest⟩ := List.nodup_cons.1 hnodup
      rw [firsts_cons_of_notMem rest (hseen a List.mem_cons_self), ih hrest]
      intro b hb hmem
      rcases List.mem_append.1 hmem with hmem | hmem
      · exact hseen b (List.mem_cons_of_mem a hb) hmem
      · exact ha (List.mem_singleton.1 hmem ▸ List.mem_map_of_mem hb)

theorem mem_map_firsts {k : κ} :
    k ∈ (firsts key seen items).map key ↔ k ∉ seen ∧ k ∈ items.map key := by
  induction items generalizing seen with
  | nil => simp [firsts]
  | cons a rest ih =>
      by_cases ha : key a ∈ seen
      · rw [firsts_cons_of_mem rest ha, ih, List.map_cons, List.mem_cons]
        constructor
        · exact fun ⟨hk, hrest⟩ => ⟨hk, .inr hrest⟩
        · rintro ⟨hk, rfl | hrest⟩
          · exact absurd ha hk
          · exact ⟨hk, hrest⟩
      · rw [firsts_cons_of_notMem rest ha, List.map_cons, List.mem_cons, ih, List.map_cons,
          List.mem_cons, List.mem_append, List.mem_singleton]
        by_cases hk : k = key a
        · simp [hk, ha]
        · simp [hk]

theorem mem_of_mem_firsts {a : α} (h : a ∈ firsts key seen items) : a ∈ items := by
  induction items generalizing seen with
  | nil => exact h
  | cons b rest ih =>
      by_cases hb : key b ∈ seen
      · rw [firsts_cons_of_mem rest hb] at h
        exact List.mem_cons_of_mem b (ih h)
      · rw [firsts_cons_of_notMem rest hb] at h
        rcases List.mem_cons.1 h with rfl | h
        · exact List.mem_cons_self
        · exact List.mem_cons_of_mem b (ih h)

theorem notMem_of_mem_firsts {a : α} (h : a ∈ firsts key seen items) : key a ∉ seen :=
  (mem_map_firsts.1 (List.mem_map_of_mem h)).1

theorem nodup_map_firsts : ((firsts key seen items).map key).Nodup := by
  induction items generalizing seen with
  | nil => exact List.nodup_nil
  | cons a rest ih =>
      by_cases ha : key a ∈ seen
      · rw [firsts_cons_of_mem rest ha]
        exact ih
      · rw [firsts_cons_of_notMem rest ha, List.map_cons, List.nodup_cons]
        refine ⟨fun h => ?_, ih⟩
        exact (mem_map_firsts.1 h).1 (List.mem_append_right seen List.mem_cons_self)

theorem lookup_firsts {β : Type} [BEq κ] [LawfulBEq κ] {k : κ} (hk : k ∉ seen)
    (entries : List (κ × β)) : (firsts Prod.fst seen entries).lookup k = entries.lookup k := by
  induction entries generalizing seen with
  | nil => rfl
  | cons entry rest ih =>
      obtain ⟨k', b⟩ := entry
      by_cases hentry : k = k'
      · subst hentry
        rw [firsts_cons_of_notMem rest hk, List.lookup_cons_self, List.lookup_cons_self]
      · have hrest (entries : List (κ × β)) : ((k', b) :: entries).lookup k = entries.lookup k := by
          rw [List.lookup_cons, beq_false_of_ne hentry]
        by_cases hseen : k' ∈ seen
        · rw [firsts_cons_of_mem rest hseen, hrest, ih hk]
        · have hk' : k ∉ seen ++ [k'] := by simp [hk, hentry]
          rw [firsts_cons_of_notMem rest hseen, hrest, hrest, ih hk']

theorem firsts_eq_filter {seen' : List κ} (h : ∀ k ∈ seen', k ∈ seen) (items : List α) :
    firsts key seen items = (firsts key seen' items).filter fun a => key a ∉ seen := by
  -- Both lists of keys grow on the way, and `seen` keeps holding all of `seen'`.
  induction items generalizing seen seen' with
  | nil => rfl
  | cons a rest ih =>
      by_cases ha' : key a ∈ seen'
      · rw [firsts_cons_of_mem rest ha', firsts_cons_of_mem rest (h _ ha')]
        exact ih h
      · by_cases ha : key a ∈ seen
        · have hseen : ∀ k ∈ seen' ++ [key a], k ∈ seen := by
            simpa only [List.forall_mem_append, List.forall_mem_singleton] using ⟨h, ha⟩
          rw [firsts_cons_of_mem rest ha, firsts_cons_of_notMem rest ha', ih hseen,
            List.filter_cons_of_neg (by simpa using ha)]
        · have hseen : ∀ k ∈ seen' ++ [key a], k ∈ seen ++ [key a] := by
            simp only [List.mem_append]
            exact fun k hk => hk.imp_left (h k)
          rw [firsts_cons_of_notMem rest ha, firsts_cons_of_notMem rest ha', ih hseen,
            List.filter_cons_of_pos (by simpa using ha)]
          congr 1
          apply List.filter_congr
          intro b hb
          have hne : key b ≠ key a := by
            have hb' := notMem_of_mem_firsts hb
            simp only [List.mem_append, List.mem_singleton, not_or] at hb'
            exact hb'.2
          simp [hne]

theorem firsts_map {β : Type} {key' : β → κ} {f : α → β} (h : ∀ a, key' (f a) = key a)
    (items : List α) : firsts key' seen (items.map f) = (firsts key seen items).map f := by
  induction items generalizing seen with
  | nil => rfl
  | cons a rest ih =>
      by_cases ha : key a ∈ seen
      · rw [List.map_cons, firsts_cons_of_mem rest ha, firsts_cons_of_mem _ (h a ▸ ha), ih]
      · rw [List.map_cons, firsts_cons_of_notMem rest ha, firsts_cons_of_notMem _ (h a ▸ ha), ih,
          h, List.map_cons]

theorem firsts_append (key : α → κ) (seen : List κ) (items items' : List α) :
    firsts key seen (items ++ items') =
      firsts key seen items ++ firsts key (seen ++ (firsts key seen items).map key) items' := by
  induction items generalizing seen with
  | nil => simp [firsts]
  | cons a rest ih =>
      by_cases ha : key a ∈ seen
      · rw [List.cons_append, firsts_cons_of_mem _ ha, firsts_cons_of_mem _ ha, ih]
      · rw [List.cons_append, firsts_cons_of_notMem _ ha, firsts_cons_of_notMem _ ha, ih]
        simp

end Firsts

section Unique

variable {α β : Type} [DecidableEq α] [DecidableEq β]

theorem foldl_pushUnique (items news : List α) :
    news.foldl pushUnique items = items ++ firsts id items news := by
  induction news generalizing items with
  | nil => simp [firsts]
  | cons a rest ih =>
      by_cases ha : a ∈ items
      · rw [firsts_cons_of_mem rest ha, ← ih items, List.foldl_cons, pushUnique, if_pos ha]
      · rw [firsts_cons_of_notMem rest ha, List.foldl_cons, pushUnique, if_neg ha, ih]
        simp

theorem unique_eq_firsts (items : List α) : unique items = firsts id [] items := by
  simp [unique, foldl_pushUnique]

theorem mem_unique {a : α} {items : List α} : a ∈ unique items ↔ a ∈ items := by
  have h : a ∈ (firsts id [] items).map id ↔ a ∉ [] ∧ a ∈ items.map id := mem_map_firsts
  rwa [List.map_id, List.map_id, ← unique_eq_firsts, and_iff_right List.not_mem_nil] at h

theorem nodup_unique (items : List α) : (unique items).Nodup := by
  have h : ((firsts id [] items).map id).Nodup := nodup_map_firsts
  rwa [List.map_id, ← unique_eq_firsts] at h

theorem unique_of_nodup {items : List α} (h : items.Nodup) : unique items = items := by
  rw [unique_eq_firsts]
  apply firsts_eq_self
  · rwa [List.map_id]
  · exact fun _ _ => List.not_mem_nil

theorem firsts_flatMap {f : α → List β} {seenBefore : List α} {seen : List β}
    (h : ∀ a ∈ seenBefore, ∀ b ∈ f a, b ∈ seen) (items : List α) :
    firsts id seen ((firsts id seenBefore items).flatMap f) =
      firsts id seen (items.flatMap f) := by
  induction items generalizing seenBefore seen with
  | nil => rfl
  | cons a rest ih =>
      by_cases ha : id a ∈ seenBefore
      · have hnew : firsts id seen (f a) = [] := firsts_eq_nil (h a ha)
        rw [firsts_cons_of_mem rest ha, ih h, List.flatMap_cons, firsts_append, hnew, List.map_nil,
          List.append_nil, List.nil_append]
      · have hseen : ∀ c ∈ seenBefore ++ [id a], ∀ b ∈ f c,
            b ∈ seen ++ (firsts id seen (f a)).map id := by
          intro c hc b hb
          rw [List.mem_append, mem_map_firsts]
          rcases List.mem_append.1 hc with hc | hc
          · exact .inl (h c hc b hb)
          · by_cases hmem : b ∈ seen
            · exact .inl hmem
            · rw [List.mem_singleton.1 hc] at hb
              exact .inr ⟨hmem, List.mem_map_of_mem hb⟩
        rw [firsts_cons_of_notMem rest ha, List.flatMap_cons, List.flatMap_cons, firsts_append,
          firsts_append, ih hseen]

theorem unique_unique_flatMap (f : α → List β) (items : List α) :
    unique ((unique items).flatMap f) = unique (items.flatMap f) := by
  rw [unique_eq_firsts, unique_eq_firsts, unique_eq_firsts]
  exact firsts_flatMap (fun _ ha => absurd ha List.not_mem_nil) items

theorem unique_filterMap_unique (f : α → Option β) (items : List α) :
    unique ((unique items).filterMap f) = unique (items.filterMap f) := by
  simp only [List.filterMap_eq_flatMap_toList]
  exact unique_unique_flatMap _ items

theorem filter_unique (p : α → Bool) (items : List α) :
    (unique items).filter p = unique (items.filter p) := by
  have h := unique_filterMap_unique (Option.guard p) items
  rw [List.filterMap_eq_filter] at h
  rw [← h]
  exact (unique_of_nodup ((nodup_unique items).filter p)).symm

theorem foldl_pushUnique_unique (items news : List α) :
    (unique news).foldl pushUnique items = news.foldl pushUnique items := by
  have hfirsts : firsts id items ((firsts id [] news).flatMap fun a => [a]) =
      firsts id items (news.flatMap fun a => [a]) :=
    firsts_flatMap (fun _ ha => absurd ha List.not_mem_nil) news
  rw [List.flatMap_singleton', List.flatMap_singleton', ← unique_eq_firsts] at hfirsts
  rw [foldl_pushUnique, foldl_pushUnique, hfirsts]

theorem unique_flatMap_unique {γ : Type} (f : γ → List α) (items : List γ) :
    unique (items.flatMap fun c => unique (f c)) = unique (items.flatMap f) := by
  simp only [unique, List.foldl_flatMap]
  congr 1
  funext seen c
  exact foldl_pushUnique_unique seen (f c)

theorem unique_cons (a : α) (rest : List α) :
    unique (a :: rest) = a :: unique (rest.filter (· ≠ a)) := by
  have ha : id a ∉ ([] : List α) := List.not_mem_nil
  have hseen : ∀ b ∈ ([] : List α), b ∈ [id a] := fun _ hb => absurd hb List.not_mem_nil
  rw [unique_eq_firsts, firsts_cons_of_notMem rest ha, List.nil_append, firsts_eq_filter hseen,
    ← unique_eq_firsts, ← filter_unique]
  simp

theorem unique_eq_eraseDups (items : List α) : unique items = items.eraseDups := by
  -- What is left of the rest is shorter than the list, but no part of it.
  induction hn : items.length using Nat.strongRecOn generalizing items with
  | ind n ih =>
      cases items with
      | nil => rfl
      | cons a rest =>
          have hlt : (rest.filter (· ≠ a)).length < n :=
            hn ▸ Nat.lt_succ_of_le (List.length_filter_le _ _)
          rw [unique_cons, List.eraseDups_cons, ih _ hlt _ rfl]
          simp [beq_eq_decide]

end Unique

end TracerSettings
