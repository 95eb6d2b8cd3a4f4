import CallAtlas.Path

namespace CallAtlas.Path

theorem segments_eq_splitOn (cs : List Char) : segments cs = cs.splitOn '/' := by
  induction cs with
  | nil => rfl
  | cons c cs ih =>
    rw [segments, List.splitOn_cons_eq_if_modifyHead, ← ih]
    by_cases hc : c = '/'
    · simp [hc]
    · cases h : segments cs with
      | nil => exact absurd h (segments_ne_nil cs)
      | cons s ss => simp [hc]

theorem join_eq_intercalate (ss : List (List Char)) : join ss = ['/'].intercalate ss := by
  induction ss with
  | nil => rfl
  | cons s ss ih =>
    cases ss with
    | nil => simp [join]
    | cons t ts => simp [join, ih, List.intercalate_cons_cons]

theorem segments_of_no_slash {cs : List Char} (h : '/' ∉ cs) : segments cs = [cs] := by
  rw [segments_eq_splitOn, List.splitOn_eq_singleton h]

theorem segments_append_slash (cs ds : List Char) :
    segments (cs ++ '/' :: ds) = segments cs ++ segments ds := by
  simp only [segments_eq_splitOn, List.splitOn_append_cons_self]

theorem segments_join {ss : List (List Char)} (hne : ss ≠ []) (h : ∀ s ∈ ss, '/' ∉ s) :
    segments (join ss) = ss := by
  rw [segments_eq_splitOn, join_eq_intercalate, List.splitOn_intercalate '/' h hne]

theorem join_concat {ss : List (List Char)} (hne : ss ≠ []) (s : List Char) :
    join (ss ++ [s]) = join ss ++ '/' :: s := by
  induction ss with
  | nil => exact absurd rfl hne
  | cons t ts ih =>
    cases ts with
    | nil => simp [join]
    | cons u us => simp [join, ← ih (by simp)]

theorem join_filter_sublist (p : List Char → Bool) (ss : List (List Char)) :
    (join (ss.filter p)).Sublist (join ss) := by
  induction ss with
  | nil => exact .slnil
  | cons s ss ih =>
    cases ss with
    | nil => cases h : p s <;> simp [h, join]
    | cons t ts =>
      by_cases hs : p s = true
      · rw [List.filter_cons_of_pos hs, join]
        cases hrest : (t :: ts).filter p with
        | nil => exact List.sublist_append_left s _
        | cons u us =>
          rw [hrest] at ih
          exact (List.Sublist.refl s).append (ih.cons_cons '/')
      · rw [List.filter_cons_of_neg hs, join]
        exact (ih.trans (List.sublist_cons_self '/' _)).trans (List.sublist_append_right s _)

/-- In a text put in front of a path, the last segment runs on into the path's first. -/
theorem segments_append (cs : List Char) {ds first : List Char} {rest : List (List Char)}
    (h : segments ds = first :: rest) :
    ∃ outer last, segments cs = outer ++ [last] ∧
      segments (cs ++ ds) = outer ++ (last ++ first) :: rest := by
  induction cs with
  | nil => exact ⟨[], [], rfl, by simpa using h⟩
  | cons c cs ih =>
    obtain ⟨outer, last, hcs, happend⟩ := ih
    by_cases hc : c = '/'
    · exact ⟨[] :: outer, last, by simp [segments, hc, hcs], by simp [segments, hc, happend]⟩
    · cases outer with
      | nil => exact ⟨[], c :: last, by simp [segments, hc, hcs], by simp [segments, hc, happend]⟩
      | cons s outer =>
        exact ⟨(c :: s) :: outer, last, by simp [segments, hc, hcs],
          by simp [segments, hc, happend]⟩

theorem mem_of_mem_segments {cs s : List Char} (h : s ∈ segments cs) {x : Char} (hx : x ∈ s) :
    x ∈ cs ∧ x ≠ '/' := by
  induction cs generalizing s with
  | nil => simp_all [segments]
  | cons c cs ih =>
    cases hcs : segments cs with
    | nil => exact absurd hcs (segments_ne_nil cs)
    | cons t ts =>
      rw [hcs] at ih
      by_cases hc : c = '/'
      · simp only [segments, hc, hcs, ↓reduceIte, List.mem_cons] at h
        rcases h with rfl | h
        · simp at hx
        · have hmem := ih (List.mem_cons.mpr h) hx
          exact ⟨List.mem_cons_of_mem c hmem.1, hmem.2⟩
      · simp only [segments, hc, hcs, ↓reduceIte, List.mem_cons] at h
        have hmem : x = c ∨ x ∈ cs ∧ x ≠ '/' := by
          rcases h with rfl | h
          · exact (List.mem_cons.mp hx).imp_right (ih List.mem_cons_self)
          · exact Or.inr (ih (List.mem_cons_of_mem t h) hx)
        rcases hmem with rfl | hmem
        · exact ⟨List.mem_cons_self, hc⟩
        · exact ⟨List.mem_cons_of_mem c hmem.1, hmem.2⟩

theorem slash_not_mem_of_mem_segments {cs s : List Char} (h : s ∈ segments cs) : '/' ∉ s :=
  fun hslash => (mem_of_mem_segments h hslash).2 rfl

def IsName (s : List Char) : Prop :=
  s ≠ [] ∧ '/' ∉ s

theorem join_eq_nil_iff {ss : List (List Char)} (h : ∀ s ∈ ss, IsName s) :
    join ss = [] ↔ ss = [] := by
  cases ss with
  | nil => simp [join]
  | cons s ss =>
    have hs := (h s List.mem_cons_self).1
    cases ss <;> simp [join, hs]

theorem join_inj {ss ts : List (List Char)} (hss : ∀ s ∈ ss, IsName s) (hts : ∀ t ∈ ts, IsName t) :
    join ss = join ts ↔ ss = ts := by
  refine ⟨fun h => ?_, congrArg join⟩
  by_cases hempty : ss = []
  · rw [hempty, eq_comm]
    apply (join_eq_nil_iff hts).mp
    simp [← h, hempty, join]
  · have hempty' : ts ≠ [] := by
      intro hts'
      apply hempty
      apply (join_eq_nil_iff hss).mp
      simp [h, hts', join]
    rw [← segments_join hempty fun s hs => (hss s hs).2, h,
      segments_join hempty' fun t ht => (hts t ht).2]

end CallAtlas.Path
