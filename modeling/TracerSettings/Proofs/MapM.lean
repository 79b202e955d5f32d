import Mathlib.Data.List.Forall2

namespace TracerSettings

variable {α β γ : Type} {f : α → Option β} {as : List α} {bs : List β}

theorem mapM_eq_some_iff :
    as.mapM f = some bs ↔ List.Forall₂ (fun a b => f a = some b) as bs := by
  induction as generalizing bs with
  | nil => simp [eq_comm]
  | cons a as ih =>
      simp only [List.mapM_cons, Option.bind_eq_bind, Option.bind_eq_some_iff, Option.pure_def,
        Option.some.injEq, List.forall₂_cons_left_iff, ih]
      constructor
      · rintro ⟨b, hb, bs', hbs, rfl⟩
        exact ⟨b, bs', hb, hbs, rfl⟩
      · rintro ⟨b, bs', hb, hbs, rfl⟩
        exact ⟨b, hb, bs', hbs, rfl⟩

theorem exists_of_mem_mapM (h : as.mapM f = some bs) {b : β} (hb : b ∈ bs) :
    ∃ a ∈ as, f a = some b := by
  induction mapM_eq_some_iff.1 h with
  | nil => cases hb
  | @cons a b' as bs hab hrest ih =>
      rcases List.mem_cons.1 hb with rfl | hb
      · exact ⟨a, List.mem_cons_self, hab⟩
      · obtain ⟨a', ha', hf⟩ := ih (mapM_eq_some_iff.2 hrest) hb
        exact ⟨a', List.mem_cons_of_mem a ha', hf⟩

theorem isSome_of_mem_mapM (h : as.mapM f = some bs) {a : α} (ha : a ∈ as) :
    ∃ b, f a = some b := by
  induction mapM_eq_some_iff.1 h with
  | nil => cases ha
  | @cons a' b as bs hab hrest ih =>
      rcases List.mem_cons.1 ha with rfl | ha
      · exact ⟨b, hab⟩
      · exact ih (mapM_eq_some_iff.2 hrest) ha

theorem map_eq_of_mapM {g : α → γ} {k : β → γ} (hf : ∀ a b, f a = some b → k b = g a)
    (h : as.mapM f = some bs) : bs.map k = as.map g := by
  induction mapM_eq_some_iff.1 h with
  | nil => rfl
  | @cons a b as bs hab hrest ih =>
      rw [List.map_cons, List.map_cons, hf a b hab, ih (mapM_eq_some_iff.2 hrest)]

theorem mapM_map_eq_some {g : β → α} (h : ∀ b ∈ bs, f (g b) = some b) :
    (bs.map g).mapM f = some bs := by
  rw [mapM_eq_some_iff, List.forall₂_map_left_iff]
  exact List.forall₂_same.2 h

end TracerSettings
