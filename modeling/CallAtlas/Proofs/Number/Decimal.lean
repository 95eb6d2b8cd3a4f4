import CallAtlas.Number.Reading
import CallAtlas.Proofs.Path.Trimming
import Mathlib.Tactic.IntervalCases
import Mathlib.Data.List.Basic

namespace CallAtlas

variable {cs : List Char} {c : Char}

namespace Text

def plainDigits : List Char :=
  "0123456789".toList

theorem mem_plainDigits (h : c.isDigit = true) : c ∈ plainDigits := by
  obtain ⟨hlow, hhigh⟩ : 48 ≤ c.toNat ∧ c.toNat ≤ 57 := Char.isDigit_iff_toNat.mp h
  rw [← Char.ofNat_toNat c]
  interval_cases c.toNat <;> decide

theorem of_plainDigits {p : Char → Prop} [DecidablePred p]
    (hall : plainDigits.all (fun c => decide (p c)) = true) (h : c.isDigit = true) : p c :=
  of_decide_eq_true (List.all_eq_true.mp hall c (mem_plainDigits h))

theorem digitValue?_of_isDigit (h : c.isDigit = true) : digitValue? c = some (c.toNat - 48) :=
  of_plainDigits (p := fun c => digitValue? c = some (c.toNat - 48)) (by decide +kernel) h

theorem isBlank_of_isDigit (h : c.isDigit = true) : isBlank c = false :=
  of_plainDigits (p := fun c => isBlank c = false) (by decide +kernel) h

theorem toLower_of_isDigit (h : c.isDigit = true) : c.toLower = c :=
  of_plainDigits (p := fun c => c.toLower = c) (by decide +kernel) h

theorem isDigit_of_isDigit (h : c.isDigit = true) : isDigit c = true := by
  rw [isDigit, digitValue?_of_isDigit h]
  rfl

theorem digitsValue_eq_ofDigitChars (h : ∀ c ∈ cs, c.isDigit = true) :
    digitsValue cs = Nat.ofDigitChars 10 cs 0 := by
  rw [Nat.ofDigitChars_eq_foldl, digitsValue]
  refine List.foldl_ext _ _ _ fun n c hc => ?_
  rw [digitValue?_of_isDigit (h c hc)]
  rfl

theorem isDigit_of_mem_toDigits {n : Nat} (h : c ∈ Nat.toDigits 10 n) : c.isDigit = true :=
  Nat.isDigit_of_mem_toDigits (by decide) (by decide) h

theorem digitsValue_toDigits (n : Nat) : digitsValue (Nat.toDigits 10 n) = n := by
  rw [digitsValue_eq_ofDigitChars fun _ => isDigit_of_mem_toDigits]
  exact Nat.ofDigitChars_toDigits (by decide) (by decide)

theorem toList_toString (n : Int) :
    (toString n).toList =
      if n < 0 then '-' :: Nat.toDigits 10 n.natAbs else Nat.toDigits 10 n.natAbs := by
  rw [Int.toString_eq_repr, Int.repr_eq_if]
  by_cases hn : n < 0
  · have hsize : (-n).toNat = n.natAbs := by omega
    rw [if_neg (by omega), if_pos hn, String.toList_append, Nat.toList_repr, hsize]
    rfl
  · have hsize : n.toNat = n.natAbs := by omega
    rw [if_pos (by omega), if_neg hn, Nat.toList_repr, hsize]

theorem mem_toString {n : Int} (h : c ∈ (toString n).toList) : c = '-' ∨ c.isDigit = true := by
  rw [toList_toString] at h
  split at h
  · exact (List.mem_cons.mp h).imp id isDigit_of_mem_toDigits
  · exact .inr (isDigit_of_mem_toDigits h)

theorem trim_toString (n : Int) : trim (toString n).toList = (toString n).toList := by
  have hblank : ∀ c ∈ (toString n).toList, isBlank c = false := by
    intro c hc
    rcases mem_toString hc with rfl | hdigit
    · decide
    · exact isBlank_of_isDigit hdigit
  exact strip_eq_self (fun c rest h => hblank c (h ▸ List.mem_cons_self))
    fun rest c h => hblank c (h ▸ List.mem_append_right rest List.mem_cons_self)

end Text

namespace Number

open Text

theorem dropSeparators_eq_some_self (h : '_' ∉ cs) (afterDigit : Bool) :
    dropSeparators afterDigit cs = some cs := by
  fun_induction dropSeparators afterDigit cs with
  | case1 => rfl
  | case2 => simp at h
  | case3 => simp at h
  | case4 => simp at h
  | case5 afterDigit c cs _ _ ih => simp [ih fun hc => h (List.mem_cons_of_mem c hc)]

theorem lowered_of_isDigit (h : ∀ c ∈ cs, c.isDigit = true) : lowered cs = cs :=
  (List.map_congr_left fun c hc => toLower_of_isDigit (h c hc)).trans (List.map_id cs)

theorem splitSign_toString (n : Int) :
    splitSign (toString n).toList = (decide (n < 0), Nat.toDigits 10 n.natAbs) := by
  rw [toList_toString]
  by_cases hn : n < 0
  · simp [hn, splitSign]
  · have hdigit : ∀ c ∈ Nat.toDigits 10 n.natAbs, c.isDigit = true :=
      fun _ => isDigit_of_mem_toDigits
    rw [if_neg hn, decide_eq_false hn]
    unfold splitSign
    split
    next heq => simp [heq] at hdigit
    next heq => simp [heq] at hdigit
    next => rfl

theorem readUnsigned?_of_isDigit (negative : Bool) (hne : cs ≠ [])
    (h : ∀ c ∈ cs, c.isDigit = true) :
    readUnsigned? negative cs = some (.ofDecimal negative (digitsValue cs) 0) := by
  have hdigits : ∀ c ∈ cs, isDigit c = true := fun c hc => isDigit_of_isDigit (h c hc)
  have htake : cs.takeWhile isDigit = cs := List.takeWhile_eq_self_iff.mpr hdigits
  have hdrop : cs.dropWhile isDigit = [] := List.dropWhile_eq_nil_iff.mpr hdigits
  unfold readUnsigned?
  rw [htake, hdrop]
  simp [hne, readExponent?]

theorem ne_of_isDigit {word : List Char} (h : ∀ c ∈ cs, c.isDigit = true)
    (hword : ∃ c ∈ word, c.isDigit = false) : cs ≠ word := by
  rintro rfl
  obtain ⟨c, hc, hother⟩ := hword
  exact Bool.false_ne_true (hother.symm.trans (h c hc))

theorem readDouble?_of_trim {n : Int} (h : trim cs = (toString n).toList) :
    readDouble? cs = some (.ofDecimal (decide (n < 0)) n.natAbs 0) := by
  have hdigit : ∀ c ∈ Nat.toDigits 10 n.natAbs, c.isDigit = true := fun _ => isDigit_of_mem_toDigits
  have hplain : '_' ∉ (toString n).toList := by
    intro hmem
    rcases mem_toString hmem with hsign | hdigit
    · contradiction
    · contradiction
  have hinf : Nat.toDigits 10 n.natAbs ≠ "inf".toList :=
    ne_of_isDigit hdigit ⟨'i', by decide, by decide⟩
  have hinfinity : Nat.toDigits 10 n.natAbs ≠ "infinity".toList :=
    ne_of_isDigit hdigit ⟨'i', by decide, by decide⟩
  have hnan : Nat.toDigits 10 n.natAbs ≠ "nan".toList :=
    ne_of_isDigit hdigit ⟨'n', by decide, by decide⟩
  unfold readDouble?
  rw [h, dropSeparators_eq_some_self hplain]
  simp only [Option.bind_eq_bind, Option.bind_some, splitSign_toString, lowered_of_isDigit hdigit]
  rw [beq_false_of_ne hinf, beq_false_of_ne hinfinity, beq_false_of_ne hnan,
    readUnsigned?_of_isDigit _ Nat.toDigits_ne_nil hdigit, digitsValue_toDigits]
  rfl

end Number
end CallAtlas
