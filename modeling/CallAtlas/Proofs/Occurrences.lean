import CallAtlas.Proofs.Keys
import Mathlib.Data.List.Induction
import Mathlib.Data.List.Sort

namespace CallAtlas

variable {α : Type} [DecidableEq α] {l once once' : List α}

structure FirstOccurrences (l once : List α) : Prop where
  mem_iff : ∀ a, a ∈ once ↔ a ∈ l
  ordered : once.Pairwise (l.idxOf · < l.idxOf ·)

namespace FirstOccurrences

theorem nodup (h : FirstOccurrences l once) : once.Nodup :=
  h.ordered.imp fun hlt heq => Nat.ne_of_lt hlt (congrArg l.idxOf heq)

theorem unique (h : FirstOccurrences l once) (h' : FirstOccurrences l once') : once = once' := by
  have : Std.Asymm (l.idxOf · < l.idxOf ·) := ⟨fun _ _ => Nat.lt_asymm⟩
  refine h.ordered.eq_of_mem_iff h'.ordered fun a => ?_
  rw [h.mem_iff, h'.mem_iff]

theorem nil : FirstOccurrences ([] : List α) [] :=
  ⟨fun _ => Iff.rfl, .nil⟩

theorem concat (h : FirstOccurrences l once) (a : α) :
    FirstOccurrences (l ++ [a]) (Keys.insert a once) := by
  -- Where an element of the list first occurs does not change.
  have hplace {b : α} (hb : b ∈ once) : (l ++ [a]).idxOf b = l.idxOf b :=
    List.idxOf_append_of_mem ((h.mem_iff b).mp hb)
  have hordered : once.Pairwise ((l ++ [a]).idxOf · < (l ++ [a]).idxOf ·) := by
    refine h.ordered.imp_of_mem fun hb hc hlt => ?_
    rwa [hplace hb, hplace hc]
  refine ⟨fun b => by simp [h.mem_iff], ?_⟩
  unfold Keys.insert
  split
  next => exact hordered
  next ha =>
    rw [List.pairwise_append]
    refine ⟨hordered, List.pairwise_singleton _ _, fun b hb c hc => ?_⟩
    rw [List.mem_singleton.mp hc, hplace hb, List.idxOf_append, if_neg (mt (h.mem_iff a).mpr ha)]
    have hb' : l.idxOf b < l.length := List.idxOf_lt_length_of_mem ((h.mem_iff b).mp hb)
    omega

theorem eraseDups (l : List α) : FirstOccurrences l l.eraseDups := by
  induction l using List.reverseRecOn with
  | nil => exact nil
  | append_singleton l a ih =>
    have hlast : (l ++ [a]).eraseDups = Keys.insert a l.eraseDups := by
      rw [List.eraseDups_append, Keys.insert]
      by_cases ha : a ∈ l <;> simp [List.removeAll, List.eraseDups_cons, ha]
    rw [hlast]
    exact ih.concat a

end FirstOccurrences
end CallAtlas
