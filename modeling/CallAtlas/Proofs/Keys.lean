import Mathlib.Data.List.Nodup

namespace CallAtlas.Keys

variable {α β : Type} {key : α → β}

theorem find?_of_mem [BEq β] [LawfulBEq β] {l : List α} (h : (l.map key).Nodup) {a : α}
    (ha : a ∈ l) : l.find? (key · == key a) = some a := by
  cases hf : l.find? (key · == key a) with
  | none => exact absurd (List.find?_eq_none.mp hf a ha) (by simp)
  | some b =>
    have hkey : key b = key a := by simpa using List.find?_some hf
    rw [List.inj_on_of_nodup_map h (List.mem_of_find?_eq_some hf) ha hkey]

theorem find?_eq_some_iff [BEq β] [LawfulBEq β] {l : List α} (h : (l.map key).Nodup) {k : β}
    {a : α} : l.find? (key · == k) = some a ↔ a ∈ l ∧ key a = k := by
  constructor
  · intro hf
    exact ⟨List.mem_of_find?_eq_some hf, by simpa using List.find?_some hf⟩
  · rintro ⟨ha, rfl⟩
    exact find?_of_mem h ha

theorem find?_congr [BEq β] [LawfulBEq β] {l l' : List α} (h : (l.map key).Nodup)
    (h' : (l'.map key).Nodup) (hmem : ∀ a, a ∈ l ↔ a ∈ l') (k : β) :
    l.find? (key · == k) = l'.find? (key · == k) := by
  apply Option.ext
  intro a
  rw [find?_eq_some_iff h, find?_eq_some_iff h', hmem]

variable [DecidableEq β]

theorem exists_last {l : List α} {k : β} (h : k ∈ l.map key) :
    ∃ before a after, l = before ++ a :: after ∧ key a = k ∧ ∀ b ∈ after, key b ≠ k := by
  induction l with
  | nil => simp at h
  | cons a l ih =>
    by_cases hmore : k ∈ l.map key
    · obtain ⟨before, b, after, rfl, hb, hafter⟩ := ih hmore
      exact ⟨a :: before, b, after, rfl, hb, hafter⟩
    · have hnone : ∀ b ∈ l, key b ≠ k := by simpa using hmore
      have ha : key a = k := by simpa [hmore, eq_comm] using h
      exact ⟨[], a, l, rfl, ha, hnone⟩

def insert (k : β) (keys : List β) : List β :=
  if k ∈ keys then keys else keys ++ [k]

@[simp] theorem mem_insert {k k' : β} {keys : List β} :
    k' ∈ insert k keys ↔ k' ∈ keys ∨ k' = k := by
  unfold insert
  split
  · rename_i h
    constructor
    · exact Or.inl
    · rintro (hk | rfl)
      · exact hk
      · exact h
  · simp

theorem nodup_insert {keys : List β} (h : keys.Nodup) (k : β) : (insert k keys).Nodup := by
  unfold insert
  split
  · exact h
  · rename_i hk
    exact h.append (List.nodup_singleton k) (List.disjoint_singleton.mpr hk)

/-- A function that inserts a key as it passes over a list does so in the whole list. -/
theorem map_key_eq_insert {f : List α → List α} {k : β} (hnil : (f []).map key = [k])
    (hcons : ∀ a as, (f (a :: as)).map key =
      if key a = k then (a :: as).map key else key a :: (f as).map key) (l : List α) :
    (f l).map key = insert k (l.map key) := by
  unfold insert
  induction l with
  | nil => rw [hnil, List.map_nil, if_neg List.not_mem_nil, List.nil_append]
  | cons a as ih =>
    rw [hcons, ih, List.map_cons]
    by_cases ha : key a = k
    · rw [if_pos ha, if_pos (ha ▸ List.mem_cons_self)]
    · rw [if_neg ha]
      by_cases hk : k ∈ as.map key
      · rw [if_pos hk, if_pos (List.mem_cons_of_mem _ hk)]
      · rw [if_neg hk, if_neg (List.not_mem_cons_of_ne_of_not_mem (Ne.symm ha) hk),
          List.cons_append]

end CallAtlas.Keys
