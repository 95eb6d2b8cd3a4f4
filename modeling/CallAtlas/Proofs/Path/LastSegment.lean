import CallAtlas.Proofs.Path.Resolution
import CallAtlas.Proofs.Path.Segments

/-! The name of the file that a path is resolved to. A suffix begins where a segment of the request
begins, but it is matched as text: the stored path's name ends with the requested one, and may be
longer where the request is reduced to its last segment. -/
namespace CallAtlas.Path

def lastSegment (path : List Char) : List Char :=
  (segments path).getLast (segments_ne_nil path)

theorem lastSegment_eq {path last : List Char} {outer : List (List Char)}
    (h : segments path = outer ++ [last]) : lastSegment path = last := by
  simp [lastSegment, h]

theorem exists_segments_eq (path : List Char) :
    ∃ outer, segments path = outer ++ [lastSegment path] :=
  ⟨(segments path).dropLast, (List.dropLast_append_getLast _).symm⟩

theorem lastSegment_append_slash (before s : List Char) :
    lastSegment (before ++ '/' :: s) = lastSegment s := by
  obtain ⟨outer, hs⟩ := exists_segments_eq s
  apply lastSegment_eq
  rw [segments_append_slash, hs, List.append_assoc]

theorem IsSegmentSuffix.lastSegment_eq {s path : List Char} (h : IsSegmentSuffix s path) :
    lastSegment s = lastSegment path := by
  rcases h with rfl | ⟨before, rfl⟩
  · rfl
  · rw [lastSegment_append_slash]

theorem lastSegment_eq_nil_iff {path : List Char} :
    lastSegment path = [] ↔ path = [] ∨ ∃ before, path = before ++ ['/'] := by
  constructor
  · intro h
    obtain ⟨outer, hpath⟩ := exists_segments_eq path
    rw [← join_segments path, hpath, h]
    by_cases houter : outer = []
    · exact Or.inl (by simp [houter, join])
    · exact Or.inr ⟨join outer, join_concat houter []⟩
  · rintro (rfl | ⟨before, rfl⟩)
    · rfl
    · exact lastSegment_append_slash before []

theorem isSegmentSuffix_append_iff {before s : List Char} :
    IsSegmentSuffix s (before ++ s) ↔ lastSegment before = [] := by
  rw [lastSegment_eq_nil_iff]
  constructor
  · rintro (h | ⟨outer, h⟩)
    · exact Or.inl (by simpa using h)
    · have hsame : before ++ s = (outer ++ ['/']) ++ s := by simpa using h
      exact Or.inr ⟨outer, List.append_cancel_right hsame⟩
  · rintro (rfl | ⟨outer, rfl⟩)
    · exact Or.inl rfl
    · exact Or.inr ⟨outer, by simp⟩

/-- The segments of a suffix, without the first, are whole segments of the path. The segment before
them ends with the suffix's first, and may have something in front of it. -/
def Overlaps (s path : List Char) (extra : List Char) : Prop :=
  ∃ outer first rest, segments s = first :: rest ∧
    segments path = outer ++ (extra ++ first) :: rest

theorem overlaps_append (before s : List Char) : Overlaps s (before ++ s) (lastSegment before) := by
  cases hs : segments s with
  | nil => exact absurd hs (segments_ne_nil s)
  | cons first rest =>
    obtain ⟨outer, last, hbefore, happend⟩ := segments_append before hs
    rw [lastSegment_eq hbefore]
    exact ⟨outer, first, rest, hs, happend⟩

theorem slash_mem_of_segments_eq {s first second : List Char} {rest : List (List Char)}
    (h : segments s = first :: second :: rest) : '/' ∈ s := by
  by_contra hslash
  simp [segments_of_no_slash hslash] at h

theorem lastSegment_append (before s : List Char) :
    lastSegment (before ++ s) =
      if '/' ∈ s then lastSegment s else lastSegment before ++ lastSegment s := by
  obtain ⟨outer, first, rest, hs, happend⟩ := overlaps_append before s
  cases rest with
  | nil =>
    have hslash : '/' ∉ s := by
      have hfirst : s = first := by simpa [hs, join] using (join_segments s).symm
      exact hfirst ▸ slash_not_mem_of_mem_segments (hs ▸ List.mem_cons_self)
    have hlast : lastSegment s = first := by simp [lastSegment, hs]
    rw [if_neg hslash, lastSegment_eq happend, hlast]
  | cons second rest =>
    rw [if_pos (slash_mem_of_segments_eq hs)]
    simp [lastSegment, happend, hs]

theorem lastSegment_suffix {s path : List Char} (h : s <:+ path) :
    lastSegment s <:+ lastSegment path := by
  obtain ⟨before, rfl⟩ := h
  rw [lastSegment_append]
  split
  · exact List.suffix_refl _
  · exact List.suffix_append _ _

theorem lastSegment_eq_iff {s path : List Char} (h : s <:+ path) :
    lastSegment path = lastSegment s ↔ '/' ∈ s ∨ IsSegmentSuffix s path := by
  obtain ⟨before, rfl⟩ := h
  rw [lastSegment_append, isSegmentSuffix_append_iff]
  by_cases hslash : '/' ∈ s <;> simp [hslash]

theorem exists_overlaps {s path : List Char} (h : s <:+ path) :
    ∃ extra, Overlaps s path extra ∧ (IsSegmentSuffix s path ↔ extra = []) := by
  obtain ⟨before, rfl⟩ := h
  exact ⟨lastSegment before, overlaps_append before s, isSegmentSuffix_append_iff⟩

theorem isSegmentSuffix_dropWhile_isSlash (path : List Char) :
    IsSegmentSuffix (path.dropWhile isSlash) path := by
  induction path with
  | nil => exact Or.inl rfl
  | cons c path ih =>
    by_cases hc : c = '/'
    · rw [List.dropWhile_cons_of_pos (by simp [isSlash, hc]), hc, IsSegmentSuffix, isBelow_slash]
      exact Or.inr ih
    · rw [List.dropWhile_cons_of_neg (by simp [isSlash, hc])]
      exact Or.inl rfl

end CallAtlas.Path

namespace CallAtlas.Resolve

open CallAtlas.Path

variable {files : List String} {minLength : Int} {path s f : String}

theorem isSegmentSuffix_of_mem_forms (h : f ∈ forms path) :
    IsSegmentSuffix f.toList path.toList := by
  simp only [forms, List.mem_cons, List.not_mem_nil, or_false] at h
  rcases h with rfl | rfl | rfl
  · exact Or.inl rfl
  · rw [String.toList_ofList]
    split
    · rename_i hdots
      obtain ⟨rest, hrest⟩ := List.isPrefixOf_iff_prefix.mp hdots
      exact Or.inr ⟨['.'], by simp [← hrest]⟩
    · exact Or.inl rfl
  · rw [String.toList_ofList]
    exact isSegmentSuffix_dropWhile_isSlash path.toList

theorem IsFirstStored.mem_forms (h : IsFirstStored files path f) : f ∈ forms path := by
  obtain ⟨before, after, hforms, -⟩ := h
  simp [hforms]

def IsSettledBy (files : List String) (minLength : Int) (path s f : String) : Prop :=
  ∃ before after, suffixCandidates minLength path = before ++ s :: after ∧
    (∀ t ∈ before, onlyMatch? files t = none) ∧ onlyMatch? files s = some f

theorem IsSettledBy.isSegmentSuffix (h : IsSettledBy files minLength path s f) :
    IsSegmentSuffix s.toList path.toList := by
  obtain ⟨before, after, hsplit, -⟩ := h
  have hmem : s ∈ suffixCandidates minLength path := by simp [hsplit]
  exact (mem_suffixCandidates.mp hmem).1

theorem suffix_of_onlyMatch? (h : onlyMatch? files s = some f) : s.toList <:+ f.toList := by
  have hmem : f ∈ withSuffix files s matchCap := by
    unfold onlyMatch? at h
    split at h
    · rename_i file hfound
      simp [hfound, Option.some.inj h]
    · cases h
  have hfound := List.mem_mergeSort.mp (List.mem_of_mem_take hmem)
  exact List.isSuffixOf_iff_suffix.mp (List.mem_filter.mp hfound).2

theorem stored_or_settled_of_resolveIn (h : resolveIn files minLength path = some f) :
    IsFirstStored files (normalize path) f ∨
      IsNoneStored files (normalize path) ∧
        ∃ s, IsSettledBy files minLength (normalize path) s f := by
  rw [resolveIn_eq] at h
  split at h
  · cases h
  · rw [Option.or_eq_some_iff, find?_exactCandidates_eq_some_iff, find?_exactCandidates_eq_none_iff,
      List.findSome?_eq_some_iff] at h
    refine h.imp_right fun ⟨hnone, before, s, after, hsplit, hs, hbefore⟩ => ?_
    exact ⟨hnone, s, before, after, hsplit, hbefore, hs⟩

/-- The last segment of the request ends the last segment of the path that it resolves to. Beyond
that the two are equal, unless the request was reduced to its last segment and matched inside a
segment of the stored path. -/
theorem lastSegment_of_resolveIn (h : resolveIn files minLength path = some f) :
    let p := normalize path
    lastSegment p.toList <:+ lastSegment f.toList ∧
    (IsFirstStored files p f ∧ lastSegment f.toList = lastSegment p.toList ∨
      IsNoneStored files p ∧ ∃ s, IsSettledBy files minLength p s f ∧
        (∃ extra, Overlaps s.toList f.toList extra ∧
          (IsSegmentSuffix s.toList f.toList ↔ extra = [])) ∧
        (lastSegment f.toList = lastSegment p.toList ↔
          '/' ∈ s.toList ∨ IsSegmentSuffix s.toList f.toList)) := by
  have hfound := stored_or_settled_of_resolveIn h
  dsimp only
  generalize normalize path = p at hfound ⊢
  rcases hfound with hstored | ⟨hnone, s, hs⟩
  · have hlast := (isSegmentSuffix_of_mem_forms hstored.mem_forms).lastSegment_eq
    exact ⟨hlast ▸ List.suffix_refl _, Or.inl ⟨hstored, hlast⟩⟩
  · have hlast := hs.isSegmentSuffix.lastSegment_eq
    have hsuffix : s.toList <:+ f.toList := by
      obtain ⟨before, after, -, -, honly⟩ := hs
      exact suffix_of_onlyMatch? honly
    rw [← hlast]
    exact ⟨lastSegment_suffix hsuffix,
      Or.inr ⟨hnone, s, hs, exists_overlaps hsuffix, lastSegment_eq_iff hsuffix⟩⟩

theorem lastSegment_of_resolveIn_of_longer_name :
    let files := ["web/httpserver.go", "web/index.go"]
    resolveIn files 8 " src\\server.go" = some "web/httpserver.go" ∧
      lastSegment (normalize " src\\server.go").toList <:+ lastSegment "web/httpserver.go".toList ∧
      ∃ s, IsSettledBy files 8 (normalize " src\\server.go") s "web/httpserver.go" ∧
        ∃ extra, Overlaps s.toList "web/httpserver.go".toList extra := by
  have hfound : resolveIn ["web/httpserver.go", "web/index.go"] 8 " src\\server.go" =
      some "web/httpserver.go" := by
    decide +kernel
  obtain ⟨hsuffix, ⟨-, hlast⟩ | ⟨-, s, hs, ⟨extra, hextra, -⟩, -⟩⟩ :=
    lastSegment_of_resolveIn hfound
  · exact absurd hlast (by decide)
  · exact ⟨hfound, hsuffix, s, hs, extra, hextra⟩

theorem server_resolved_to_httpserver :
    lastSegment (normalize "src/server.go").toList ≠ [] ∧
    ¬∀ f, resolveIn ["web/httpserver.go"] 8 "src/server.go" = some f →
      lastSegment f.toList = lastSegment (normalize "src/server.go").toList ∧
      ∀ s, IsSettledBy ["web/httpserver.go"] 8 (normalize "src/server.go") s f →
        IsSegmentSuffix s.toList f.toList := by
  refine ⟨by decide, fun h => ?_⟩
  have hfound : resolveIn ["web/httpserver.go"] 8 "src/server.go" = some "web/httpserver.go" := by
    decide +kernel
  exact absurd (h _ hfound).1 (by decide)

end CallAtlas.Resolve
