import CallAtlas.Proofs.Path.Segments
import Mathlib.Data.List.DropRight

/-! Paths that stand for themselves: what a path is normalized to before it is looked up is the path
again, exactly if no blank is at its ends. -/
namespace CallAtlas.Text

variable {p : Char → Bool} {cs : List Char}

theorem dropTrailing_eq_rdropWhile (p : Char → Bool) (cs : List Char) :
    dropTrailing p cs = cs.rdropWhile p := rfl

theorem strip_sublist (p : Char → Bool) (cs : List Char) : (strip p cs).Sublist cs := by
  rw [strip, dropTrailing_eq_rdropWhile]
  exact (List.rdropWhile_prefix p _).sublist.trans (List.dropWhile_suffix p).sublist

theorem strip_eq_self (hfirst : ∀ c rest, cs = c :: rest → p c = false)
    (hlast : ∀ rest c, cs = rest ++ [c] → p c = false) : strip p cs = cs := by
  have hdrop : cs.dropWhile p = cs := by
    cases cs with
    | nil => rfl
    | cons c rest => exact List.dropWhile_cons_of_neg (by simp [hfirst c rest rfl])
  rw [strip, dropTrailing_eq_rdropWhile, hdrop, List.rdropWhile_eq_self_iff]
  intro hne
  simp [hlast _ _ (List.dropLast_append_getLast hne).symm]

theorem strip_strip (p : Char → Bool) (cs : List Char) : strip p (strip p cs) = strip p cs := by
  refine strip_eq_self (fun c rest hfirst => ?_) fun rest c hlast => ?_
  · rw [strip, dropTrailing_eq_rdropWhile] at hfirst
    obtain ⟨dropped, hprefix⟩ := List.rdropWhile_prefix p (l := cs.dropWhile p)
    rw [hfirst, List.cons_append] at hprefix
    have hne : cs.dropWhile p ≠ [] := by simp [← hprefix]
    have hhead := List.head_dropWhile_not p hne
    simpa [← hprefix] using hhead
  · rw [strip, dropTrailing_eq_rdropWhile] at hlast
    have hne : (cs.dropWhile p).rdropWhile p ≠ [] := by simp [hlast]
    have hend := List.rdropWhile_last_not p (cs.dropWhile p) hne
    simpa [hlast] using hend

theorem strip_append {before after : List Char} (hbefore : ∀ c ∈ before, p c = true)
    (hafter : ∀ c ∈ after, p c = true) (cs : List Char) :
    strip p (before ++ cs ++ after) = strip p cs := by
  have hend (xs : List Char) : (xs ++ after).rdropWhile p = xs.rdropWhile p := by
    induction after using List.reverseRecOn with
    | nil => rw [List.append_nil]
    | append_singleton after c ih =>
      rw [← List.append_assoc, List.rdropWhile_concat_pos _ _ _ (hafter c (by simp))]
      exact ih fun d hd => hafter d (List.mem_append_left _ hd)
  rw [strip, strip, dropTrailing_eq_rdropWhile, dropTrailing_eq_rdropWhile, List.append_assoc,
    List.dropWhile_append_of_pos hbefore, List.dropWhile_append]
  split
  next hcs =>
    rw [List.dropWhile_eq_nil_iff.mpr hafter, List.isEmpty_iff.mp hcs]
  next => exact hend _

end CallAtlas.Text

namespace CallAtlas.Path

theorem forward_eq_self {cs : List Char} (h : '\\' ∉ cs) : forward cs = cs := by
  refine (List.map_congr_left fun c hc => ?_).trans (List.map_id cs)
  have hne : c ≠ '\\' := fun heq => h (heq ▸ hc)
  simp [hne]

theorem backslash_not_mem_forward (cs : List Char) : '\\' ∉ forward cs := by
  intro h
  obtain ⟨c, -, hc⟩ := List.mem_map.mp h
  by_cases hback : c = '\\'
  · simp [hback] at hc
  · simp [hback] at hc

@[simp] theorem length_forward (cs : List Char) : (forward cs).length = cs.length :=
  List.length_map ..

theorem mem_join {ss : List (List Char)} {c : Char} (h : c ∈ join ss) :
    c = '/' ∨ ∃ s ∈ ss, c ∈ s := by
  induction ss with
  | nil => simp [join] at h
  | cons s ss ih =>
    cases ss with
    | nil => exact Or.inr ⟨s, by simp, h⟩
    | cons t ts =>
      rw [join, List.mem_append, List.mem_cons] at h
      rcases h with h | h | h
      · exact Or.inr ⟨s, by simp, h⟩
      · exact Or.inl h
      · rcases ih h with hslash | ⟨u, hu, hc⟩
        · exact Or.inl hslash
        · exact Or.inr ⟨u, List.mem_cons_of_mem s hu, hc⟩

theorem strip_join {ss : List (List Char)} (h : ∀ s ∈ ss, IsName s) :
    Text.strip isSlash (join ss) = join ss := by
  by_cases hempty : ss = []
  · rw [hempty]
    rfl
  have hsegments : segments (join ss) = ss := segments_join hempty fun s hs => (h s hs).2
  have hnil : [] ∉ segments (join ss) := fun hs => (h [] (hsegments ▸ hs)).1 rfl
  refine Text.strip_eq_self (fun c rest hjoin => ?_) fun rest c hjoin => ?_
  · by_contra hc
    obtain rfl : c = '/' := by simpa [isSlash] using hc
    rw [hjoin] at hnil
    simp [segments] at hnil
  · by_contra hc
    obtain rfl : c = '/' := by simpa [isSlash] using hc
    rw [hjoin, segments_append_slash] at hnil
    simp [segments] at hnil

/-- A path with no blank at its ends. -/
def IsTrimmed (path : String) : Prop :=
  Text.trim path.toList = path.toList

instance (path : String) : Decidable (IsTrimmed path) :=
  inferInstanceAs (Decidable (_ = _))

theorem normalizeBrowse_join {ss : List (List Char)} (h : ∀ s ∈ ss, IsName s)
    (hback : ∀ s ∈ ss, '\\' ∉ s) (htrimmed : IsTrimmed (String.ofList (join ss))) :
    normalizeBrowse (String.ofList (join ss)) = String.ofList (join ss) := by
  have hback' : '\\' ∉ join ss := by
    intro hmem
    rcases mem_join hmem with hslash | ⟨s, hs, hmem⟩
    · contradiction
    · exact hback s hs hmem
  rw [IsTrimmed, String.toList_ofList] at htrimmed
  rw [normalizeBrowse, String.toList_ofList, htrimmed, forward_eq_self hback', strip_join h]

def trimmed (path : String) : String :=
  String.ofList (Text.trim path.toList)

theorem trimmed_eq_self {path : String} (h : IsTrimmed path) : trimmed path = path := by
  rw [trimmed, h, String.ofList_toList]

theorem normalize_trimmed {path : String} (h : '\\' ∉ path.toList) :
    normalize (trimmed path) = trimmed path := by
  have hback : '\\' ∉ Text.trim path.toList := fun hmem => h ((Text.strip_sublist _ _).mem hmem)
  have htwice : Text.trim (Text.trim path.toList) = Text.trim path.toList :=
    Text.strip_strip Text.isBlank path.toList
  rw [normalize, trimmed, String.toList_ofList, htwice, forward_eq_self hback]

theorem isTrimmed_of_normalizeBrowse {path : String} (h : normalizeBrowse path = path) :
    IsTrimmed path := by
  have hlist : Text.strip isSlash (forward (Text.trim path.toList)) = path.toList := by
    rw [← String.toList_ofList (l := Text.strip _ _)]
    exact congrArg String.toList h
  refine (Text.strip_sublist Text.isBlank path.toList).eq_of_length_le ?_
  have hle := (Text.strip_sublist isSlash (forward (Text.trim path.toList))).length_le
  rw [hlist, length_forward] at hle
  exact hle

end CallAtlas.Path
