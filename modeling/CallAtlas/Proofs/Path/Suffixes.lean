import CallAtlas.Resolve
import Mathlib.Data.List.Nodup

namespace CallAtlas.Path

def IsBelow (s path : List Char) : Prop :=
  ∃ before, path = before ++ '/' :: s

/-- A suffix that begins where a segment begins. -/
def IsSegmentSuffix (s path : List Char) : Prop :=
  s = path ∨ IsBelow s path

namespace IsBelow

variable {s path : List Char}

theorem suffix (h : IsBelow s path) : s <:+ path := by
  obtain ⟨before, rfl⟩ := h
  exact ⟨before ++ ['/'], by simp⟩

theorem length_lt (h : IsBelow s path) : s.length < path.length := by
  obtain ⟨before, rfl⟩ := h
  simp only [List.length_append, List.length_cons]
  omega

theorem cons (h : IsBelow s path) (c : Char) : IsBelow s (c :: path) := by
  obtain ⟨before, rfl⟩ := h
  exact ⟨c :: before, rfl⟩

end IsBelow

theorem isBelow_slash {s path : List Char} :
    IsBelow s ('/' :: path) ↔ s = path ∨ IsBelow s path := by
  constructor
  · rintro ⟨before, h⟩
    cases before with
    | nil => exact Or.inl (List.cons.inj h).2.symm
    | cons c before => exact Or.inr ⟨before, (List.cons.inj h).2⟩
  · rintro (rfl | h)
    · exact ⟨[], rfl⟩
    · exact h.cons '/'

theorem isBelow_cons {c : Char} (hc : c ≠ '/') {s path : List Char} :
    IsBelow s (c :: path) ↔ IsBelow s path := by
  constructor
  · rintro ⟨before, h⟩
    cases before with
    | nil => exact absurd (List.cons.inj h).1 hc
    | cons d before => exact ⟨before, (List.cons.inj h).2⟩
  · exact fun h => h.cons c

end CallAtlas.Path

namespace CallAtlas.Resolve

open CallAtlas.Path

def suffixes (path : List Char) : List (List Char) :=
  (tails (segments path)).map join

theorem suffixes_eq_cons (path : List Char) : suffixes path = path :: (suffixes path).tail := by
  cases h : segments path with
  | nil => exact absurd h (segments_ne_nil path)
  | cons s ss =>
    have hjoin := join_segments path
    rw [h] at hjoin
    simp [suffixes, h, tails, hjoin]

theorem tail_suffixes_slash (path : List Char) : (suffixes ('/' :: path)).tail = suffixes path := by
  simp [suffixes, segments, tails]

theorem tail_suffixes_cons {c : Char} (hc : c ≠ '/') (path : List Char) :
    (suffixes (c :: path)).tail = (suffixes path).tail := by
  cases h : segments path with
  | nil => exact absurd h (segments_ne_nil path)
  | cons s ss => simp [suffixes, segments, hc, h, tails]

theorem mem_tail_suffixes {s path : List Char} : s ∈ (suffixes path).tail ↔ IsBelow s path := by
  induction path with
  | nil => simp [suffixes, segments, tails, IsBelow]
  | cons c path ih =>
    by_cases hc : c = '/'
    · rw [hc, tail_suffixes_slash, isBelow_slash, suffixes_eq_cons, List.mem_cons, ih]
    · rw [tail_suffixes_cons hc, isBelow_cons hc, ih]

theorem mem_suffixes {s path : List Char} : s ∈ suffixes path ↔ IsSegmentSuffix s path := by
  rw [suffixes_eq_cons, List.mem_cons, mem_tail_suffixes, IsSegmentSuffix]

theorem pairwise_suffixes (path : List Char) :
    (suffixes path).Pairwise fun s t => IsBelow t s := by
  induction path with
  | nil => simp [suffixes, segments, tails]
  | cons c path ih =>
    rw [suffixes_eq_cons, List.pairwise_cons]
    refine ⟨fun s hs => mem_tail_suffixes.mp hs, ?_⟩
    by_cases hc : c = '/'
    · rw [hc, tail_suffixes_slash]
      exact ih
    · rw [tail_suffixes_cons hc]
      exact ih.tail

theorem eraseDups_of_nodup {α : Type} [BEq α] [LawfulBEq α] {l : List α} (h : l.Nodup) :
    l.eraseDups = l := by
  induction l with
  | nil => rfl
  | cons a l ih =>
    obtain ⟨ha, hl⟩ := List.nodup_cons.mp h
    have hkept : (l.filter fun b => !b == a) = l :=
      List.filter_eq_self.mpr fun b hb => by
        have hne : b ≠ a := fun hba => ha (hba ▸ hb)
        simpa using hne
    rw [List.eraseDups_cons, hkept, ih hl]

theorem suffixCandidates_eq (minLength : Int) (path : String) :
    suffixCandidates minLength path =
      ((suffixes path.toList).filter fun s => decide (minLength ≤ s.length)).map String.ofList := by
  apply eraseDups_of_nodup
  have hne : (suffixes path.toList).Nodup :=
    (pairwise_suffixes path.toList).imp fun h hst => by
      subst hst
      exact absurd h.length_lt (Nat.lt_irrefl _)
  exact (hne.filter _).map fun s t h => by simpa using congrArg String.toList h

theorem mem_suffixCandidates {minLength : Int} {s path : String} :
    s ∈ suffixCandidates minLength path ↔
      IsSegmentSuffix s.toList path.toList ∧ minLength ≤ s.length := by
  rw [suffixCandidates_eq, List.mem_map]
  constructor
  · rintro ⟨cs, hcs, rfl⟩
    obtain ⟨hcs, hlong⟩ := List.mem_filter.mp hcs
    rw [String.toList_ofList, ← mem_suffixes]
    exact ⟨hcs, by simpa using hlong⟩
  · rintro ⟨hs, hlong⟩
    exact ⟨s.toList, List.mem_filter.mpr
      ⟨mem_suffixes.mpr hs, by simpa [String.length_toList] using hlong⟩, String.ofList_toList⟩

theorem pairwise_suffixCandidates (minLength : Int) (path : String) :
    (suffixCandidates minLength path).Pairwise fun s t => IsBelow t.toList s.toList := by
  rw [suffixCandidates_eq, List.pairwise_map]
  simpa using (pairwise_suffixes path.toList).filter _

end CallAtlas.Resolve
