import CallAtlas.Number.Double
import Mathlib.Algebra.Ring.Nat
import Mathlib.Tactic.Ring

/-! Whole numbers as doubles. One of at most 53 binary digits is a double itself; one of more is
rounded to some whole number that has as many digits at least as the first. -/
namespace CallAtlas
namespace Double

variable (negative : Bool) {n : Nat}

theorem le_roundedQuotient (num den : Nat) : num / den ≤ roundedQuotient num den := by
  unfold roundedQuotient
  dsimp only
  split_ifs <;> omega

theorem roundedQuotient_one (num : Nat) : roundedQuotient num 1 = num := by
  simp [roundedQuotient, Nat.mod_one]

theorem scaled_neg (n s : Nat) : scaled n 1 (-(s : Int)) = (n * 2 ^ s, 1) := by
  cases s with
  | zero => simp [scaled, twoTo]
  | succ s => rw [scaled, if_pos (by omega), Int.neg_neg, Int.toNat_natCast, twoTo, Nat.pow_eq]

theorem scaled_nat (n e : Nat) : scaled n 1 (e : Int) = (n, 2 ^ e) := by
  rw [scaled, if_neg (by omega), Int.toNat_natCast, Nat.one_mul, twoTo, Nat.pow_eq]

theorem exponentOf_one {e : Int} (he : (n.log2 : Int) - 52 = e) (hleast : minExponent ≤ e)
    (hfull : 2 ^ 52 ≤ (scaled n 1 e).1 / (scaled n 1 e).2) : exponentOf n 1 = e := by
  have hguess : (n.log2 : Int) - (Nat.log2 1 : Nat) - 52 = e := by
    have hone : Nat.log2 1 = 0 := rfl
    omega
  have hsharp : ¬(scaled n 1 e).1 / (scaled n 1 e).2 < twoTo (precision - 1) :=
    Nat.not_lt.mpr hfull
  unfold exponentOf
  rw [hguess]
  dsimp only
  rw [if_neg hsharp]
  exact Int.max_eq_right hleast

theorem significand_bounds (hn : n ≠ 0) {s : Nat} (hs : n.log2 + s = 52) :
    2 ^ 52 ≤ n * 2 ^ s ∧ n * 2 ^ s < 2 ^ 53 := by
  have hlow := Nat.mul_le_mul_right (2 ^ s) (Nat.log2_self_le hn)
  have hhigh := Nat.mul_lt_mul_of_pos_right (Nat.lt_log2_self (n := n)) (Nat.two_pow_pos s)
  rw [← Nat.pow_add, hs] at hlow
  rw [← Nat.pow_add, Nat.add_right_comm, hs] at hhigh
  exact ⟨hlow, hhigh⟩

theorem ofRatio_of_short (hn : n ≠ 0) {s : Nat} (hs : n.log2 + s = 52) :
    ofRatio negative n 1 = finite negative (n * 2 ^ s) (-(s : Int)) := by
  obtain ⟨hlow, hhigh⟩ := significand_bounds hn hs
  have hexponent : exponentOf n 1 = -(s : Int) := by
    refine exponentOf_one (by omega) (by unfold minExponent; omega) ?_
    rw [scaled_neg, Nat.div_one]
    exact hlow
  have hfits : n * 2 ^ s ≠ twoTo precision := Nat.ne_of_lt hhigh
  unfold ofRatio
  rw [if_neg hn, hexponent]
  dsimp only
  rw [scaled_neg]
  dsimp only
  rw [roundedQuotient_one, if_neg hfits]
  exact if_neg (by unfold maxExponent; omega)

theorem le_quotient (hn : n ≠ 0) {e : Nat} (he : n.log2 = 52 + e) : 2 ^ 52 ≤ n / 2 ^ e := by
  have hlow := Nat.log2_self_le hn
  rw [he, Nat.pow_add] at hlow
  exact (Nat.le_div_iff_mul_le (Nat.two_pow_pos e)).mpr hlow

theorem roundedQuotient_eq_succ_iff {k d : Nat} (hodd : k % 2 = 1) (hn : n < (k + 1) * d) :
    roundedQuotient n d = k + 1 ↔ (2 * k + 1) * d ≤ 2 * n := by
  have hd : 0 < d := Nat.pos_of_ne_zero fun hzero => by simp [hzero] at hn
  have hsplit := Nat.div_add_mod n d
  have hrest := Nat.mod_lt n hd
  have hq : n / d < k + 1 := (Nat.div_lt_iff_lt_mul hd).mpr hn
  have hhalf : (2 * k + 1) * d = 2 * (d * k) + d := by ring
  unfold roundedQuotient
  dsimp only
  rw [hhalf]
  by_cases htop : n / d = k
  · rw [htop] at hsplit ⊢
    split_ifs <;> omega
  · have hmost : d * (n / d) + d ≤ d * k := Nat.mul_le_mul_left d (by omega : n / d + 1 ≤ k)
    split_ifs <;> omega

/-- The least whole number that is rounded to no finite double. -/
def leastInfinite : Nat := 2 ^ 1024 - 2 ^ 970

theorem le_leastInfinite : 2 ^ 1023 ≤ leastInfinite ∧ leastInfinite ≤ 2 ^ 1024 := by
  decide +kernel

theorem two_pow_le_leastInfinite {k : Nat} (h : k ≤ 1023) : 2 ^ k ≤ leastInfinite := by
  refine le_trans ?_ le_leastInfinite.1
  gcongr
  decide

theorem roundedQuotient_eq_top_iff (hn : n ≠ 0) (hlog : n.log2 = 52 + 971) :
    roundedQuotient n (2 ^ 971) = 2 ^ 53 ↔ leastInfinite ≤ n := by
  have hsize : n < (2 ^ 53 - 1 + 1) * 2 ^ 971 := by
    have htop : (2 ^ 53 - 1 + 1) * 2 ^ 971 = 2 ^ (52 + 971 + 1) := by decide +kernel
    rw [htop, ← Nat.log2_lt hn, hlog]
    exact Nat.lt_succ_self _
  have hleast : (2 * (2 ^ 53 - 1) + 1) * 2 ^ 971 = 2 * leastInfinite := by decide +kernel
  rw [← Nat.sub_add_cancel (Nat.one_le_two_pow (n := 53)),
    roundedQuotient_eq_succ_iff (by decide +kernel) hsize, hleast]
  omega

theorem exponentOf_of_long (hn : n ≠ 0) {e : Nat} (he : n.log2 = 52 + e) : exponentOf n 1 = e := by
  refine exponentOf_one (by omega) (by unfold minExponent; omega) ?_
  rw [scaled_nat]
  exact le_quotient hn he

theorem ofRatio_of_long (hn : n ≠ 0) {e : Nat} (he : n.log2 = 52 + e)
    (hfinite : n < leastInfinite) :
    ∃ m f : Nat, ofRatio negative n 1 = finite negative m f ∧ 2 ^ 52 ≤ m := by
  have hmost : e ≤ 971 := by
    have hlog : n.log2 < 1024 := by
      rw [Nat.log2_lt hn]
      calc n < leastInfinite := hfinite
        _ ≤ 2 ^ 1024 := le_leastInfinite.2
    omega
  unfold ofRatio
  rw [if_neg hn, exponentOf_of_long hn he]
  dsimp only
  rw [scaled_nat]
  dsimp only
  -- Rounding up may need one more digit, which moves the significand to the next exponent.
  by_cases hcarry : roundedQuotient n (2 ^ e) = twoTo precision
  · have hbelow : e ≠ 971 := by
      rintro rfl
      exact Nat.not_le.mpr hfinite ((roundedQuotient_eq_top_iff hn he).mp hcarry)
    rw [if_pos hcarry]
    refine ⟨2 ^ 52, e + 1, ?_, Nat.le_refl _⟩
    exact if_neg (by unfold maxExponent; omega)
  · rw [if_neg hcarry]
    refine ⟨_, e, ?_, Nat.le_trans (le_quotient hn he) (le_roundedQuotient n (2 ^ e))⟩
    exact if_neg (by unfold maxExponent; omega)

theorem ofRatio_of_leastInfinite_le (h : leastInfinite ≤ n) :
    ofRatio negative n 1 = infinite negative := by
  have hn : n ≠ 0 := by
    rintro rfl
    exact absurd h (by decide +kernel)
  have hlog : 1023 ≤ n.log2 := by
    rw [Nat.le_log2 hn]
    calc 2 ^ 1023 ≤ leastInfinite := le_leastInfinite.1
      _ ≤ n := h
  obtain ⟨e, he⟩ : ∃ e, n.log2 = 52 + e := Nat.exists_eq_add_of_le (by omega)
  unfold ofRatio
  rw [if_neg hn, exponentOf_of_long hn he]
  dsimp only
  rw [scaled_nat]
  dsimp only
  by_cases hcarry : roundedQuotient n (2 ^ e) = twoTo precision
  · rw [if_pos hcarry]
    exact if_pos (by unfold maxExponent; omega)
  · have habove : e ≠ 971 := by
      rintro rfl
      exact hcarry ((roundedQuotient_eq_top_iff hn he).mpr h)
    rw [if_neg hcarry]
    exact if_pos (by unfold maxExponent; omega)

def signed (size : Nat) : Int :=
  if negative then -(size : Int) else size

@[simp] theorem signed_true (size : Nat) : signed true size = -(size : Int) := rfl

@[simp] theorem signed_false (size : Nat) : signed false size = size := rfl

theorem signed_natAbs (n : Int) : signed (decide (n < 0)) n.natAbs = n := by
  by_cases hn : n < 0
  · rw [decide_eq_true hn, signed_true]
    omega
  · rw [decide_eq_false hn, signed_false]
    omega

theorem isWhole_neg (m s : Nat) :
    (finite negative m (-(s : Int))).isWhole = (m % 2 ^ s == 0) := by
  cases s with
  | zero => simp [isWhole, Nat.mod_one]
  | succ s => rw [isWhole, if_pos (by omega), Int.neg_neg, Int.toNat_natCast, twoTo, Nat.pow_eq]

theorem truncate?_neg (m s : Nat) :
    (finite negative m (-(s : Int))).truncate? = some (signed negative (m / 2 ^ s)) := by
  cases s with
  | zero => simp [truncate?, twoTo, signed]
  | succ s =>
    have hneg : -((s + 1 : Nat) : Int) < 0 := by omega
    rw [truncate?, if_pos hneg, Int.neg_neg, Int.toNat_natCast, twoTo, Nat.pow_eq]
    rfl

theorem isWhole_nat (m f : Nat) : (finite negative m f).isWhole = true := by
  rw [isWhole, if_neg (by omega)]

theorem truncate?_nat (m f : Nat) :
    (finite negative m f).truncate? = some (signed negative (m * 2 ^ f)) := by
  have hnat : ¬(f : Int) < 0 := by omega
  rw [truncate?, if_neg hnat, Int.toNat_natCast, twoTo, Nat.pow_eq]
  rfl

theorem ofDecimal_zero (n : Nat) :
    ofDecimal negative n 0 = ofRatio negative n 1 := by
  by_cases hn : n = 0
  · simp only [ofDecimal, ofRatio, if_pos hn]
  · rw [ofDecimal, if_neg hn, if_neg (by omega), if_neg (by omega), if_neg (by omega)]
    simp [tenTo]

end Double
end CallAtlas
