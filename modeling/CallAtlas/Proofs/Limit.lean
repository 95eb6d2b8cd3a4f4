import CallAtlas.CommandLine.Run
import CallAtlas.Http.Server
import CallAtlas.Proofs.Number.Decimal
import CallAtlas.Proofs.Number.Whole
import CallAtlas.Store.Statement

namespace CallAtlas

theorem Service.search_congr [Store.Engine] (q : Json) {limit limit' : Json}
    (h : Limit.ofJson limit = Limit.ofJson limit') : search q limit = search q limit' := by
  unfold search
  rw [h]

namespace Limit

theorem clamp_signed_of_large {n m : Nat} (negative : Bool) (hn : greatest ≤ n)
    (hm : greatest ≤ m) :
    clamp (Double.signed negative n) = clamp (Double.signed negative m) := by
  unfold greatest at hn hm
  cases negative with
  | true => simp only [Double.signed_true, clamp, greatest]; omega
  | false => simp only [Double.signed_false, clamp, greatest]; omega

theorem ofDouble_ofRatio {n : Nat} (negative : Bool) (hn : n < Double.leastInfinite) :
    ofDouble (.ofRatio negative n 1) = clamp (Double.signed negative n) := by
  by_cases hzero : n = 0
  · have hratio : Double.ofRatio negative 0 1 = .finite negative 0 (-(1074 : Nat)) := rfl
    rw [hzero, hratio, ofDouble, Double.isWhole_neg, Double.truncate?_neg, Nat.zero_mod,
      Nat.zero_div]
    rfl
  by_cases hshort : n.log2 ≤ 52
  · obtain ⟨s, hs⟩ := Nat.exists_eq_add_of_le hshort
    rw [Double.ofRatio_of_short negative hzero hs.symm, ofDouble, Double.isWhole_neg,
      Double.truncate?_neg, Nat.mul_mod_left, Nat.mul_div_cancel _ (Nat.two_pow_pos s)]
    rfl
  · obtain ⟨e, he⟩ := Nat.exists_eq_add_of_le (Nat.le_of_not_le hshort)
    obtain ⟨m, f, hratio, hm⟩ := Double.ofRatio_of_long negative hzero he hn
    have hlow := Nat.log2_self_le hzero
    rw [he, Nat.pow_add] at hlow
    rw [hratio, ofDouble, Double.isWhole_nat, Double.truncate?_nat]
    have hrounded : 2 ^ 52 ≤ m * 2 ^ f := hm.trans (Nat.le_mul_of_pos_right m (Nat.two_pow_pos f))
    have hexact : 2 ^ 52 ≤ n := (Nat.le_mul_of_pos_right _ (Nat.two_pow_pos e)).trans hlow
    have hgreatest : greatest ≤ 2 ^ 52 := by decide
    exact clamp_signed_of_large negative (hgreatest.trans hrounded) (hgreatest.trans hexact)

theorem ofText_of_trim {s : String} {n : Int} (h : Text.trim s.toList = (toString n).toList) :
    ofText s = if n.natAbs < Double.leastInfinite then clamp n else standard := by
  rw [ofText, Number.readDouble?_of_trim h, Option.map_some, Option.getD_some,
    Double.ofDecimal_zero]
  split
  next hn => rw [ofDouble_ofRatio _ hn, Double.signed_natAbs]
  next hn =>
    rw [Double.ofRatio_of_leastInfinite_le _ (Nat.le_of_not_lt hn)]
    rfl

theorem ofText_toString {n : Int} (hn : n.natAbs < 10 ^ 300) : ofText (toString n) = clamp n := by
  have hfinite : 10 ^ 300 < Double.leastInfinite := by
    calc 10 ^ 300 = (10 ^ 3) ^ 100 := by rw [← Nat.pow_mul]
      _ < (2 ^ 10) ^ 100 := Nat.pow_lt_pow_left (by decide) (by decide)
      _ = 2 ^ (10 * 100) := by rw [Nat.pow_mul]
      _ ≤ Double.leastInfinite := Double.two_pow_le_leastInfinite (by decide)
  rw [ofText_of_trim (Text.trim_toString n), if_pos (hn.trans hfinite)]

theorem clamp_ne_standard {n : Int} (hn : Double.leastInfinite ≤ n.natAbs) :
    clamp n ≠ standard := by
  have hgreatest : greatest ≤ Double.leastInfinite :=
    (show greatest ≤ 2 ^ 6 by decide).trans (Double.two_pow_le_leastInfinite (by decide))
  unfold greatest at hgreatest
  unfold clamp greatest standard
  omega

/-- A whole number in decimal digits, with something around it. -/
def written (before : List Char) (n : Int) (after : List Char) : Json :=
  .text (String.ofList (before ++ (toString n).toList ++ after))

theorem ofJson_written {before after : List Char} (n : Int)
    (hbefore : ∀ c ∈ before, Text.isBlank c = true) (hafter : ∀ c ∈ after, Text.isBlank c = true) :
    ofJson (written before n after) =
      if n.natAbs < Double.leastInfinite then clamp n else standard := by
  refine ofText_of_trim ?_
  rw [String.toList_ofList, Text.trim, Text.strip_append hbefore hafter]
  exact Text.trim_toString n

/-- A whole number is clamped. Between blanks its digits mean the same limit exactly if the double
nearest to it is finite, and then a search with them is the search with the number, as the command
line makes it; otherwise they mean the standard limit. -/
theorem limit_of_written [Store.Engine] {before after : List Char} (n : Int)
    (hbefore : ∀ c ∈ before, Text.isBlank c = true) (hafter : ∀ c ∈ after, Text.isBlank c = true) :
    (ofJson (.int n) : Int) = min (max n 1) 50 ∧
      (ofJson (written before n after) = ofJson (.int n) ↔ n.natAbs < 2 ^ 1024 - 2 ^ 970) ∧
      (2 ^ 1024 - 2 ^ 970 ≤ n.natAbs → ofJson (written before n after) = 25) ∧
      ∀ settings r, n.natAbs < 2 ^ 1024 - 2 ^ 970 → r.param "limit" = written before n after →
        Http.answer settings r .search = Service.search (r.param "q") (.int n) ∧
          ∀ query asJson, r.param "q" = .text query →
            CommandLine.page settings (.search query n asJson) =
              (fun payload => if asJson then CommandLine.jsonPage payload
                else CommandLine.searchPage query payload) <$> Http.answer settings r .search := by
  have hwritten := ofJson_written n hbefore hafter
  have hsame : ofJson (written before n after) = ofJson (.int n) ↔
      n.natAbs < Double.leastInfinite := by
    rw [hwritten]
    split
    next hn => exact iff_of_true rfl hn
    next hn => exact iff_of_false (clamp_ne_standard (Nat.le_of_not_lt hn)).symm hn
  refine ⟨?_, hsame, fun hn => ?_, fun settings r hn hr => ?_⟩
  · change ((min (max n 1) 50).toNat : Int) = _
    omega
  · rw [hwritten]
    exact if_neg (Nat.not_lt.mpr hn)
  · have hsearch : Http.answer settings r .search = Service.search (r.param "q") (.int n) := by
      rw [Http.answer, hr]
      exact Service.search_congr _ (hsame.mpr hn)
    refine ⟨hsearch, fun query asJson hq => ?_⟩
    rw [hsearch, hq, map_eq_pure_bind]
    rfl

theorem limit_of_written_hundred :
    ofJson (.text " 100\n") = 50 ∧
      ∀ settings, Http.answer settings ⟨"/", [("q", "Open"), ("limit", " 100\n")]⟩ .search =
        Service.search (.text "Open") (.int 100) := by
  have htext : written [' '] 100 ['\n'] = .text " 100\n" := by
    with_unfolding_all rfl
  obtain ⟨hint, hsame, -, hsearch⟩ := @limit_of_written _ [' '] ['\n'] 100
    (List.forall_mem_singleton.mpr (by decide)) (List.forall_mem_singleton.mpr (by decide))
  have hfinite : (100 : Int).natAbs < Double.leastInfinite :=
    (show 100 < 2 ^ 7 by decide).trans_le (Double.two_pow_le_leastInfinite (by decide))
  rw [htext] at hsame hsearch
  refine ⟨(hsame.mpr hfinite).trans (by decide), fun settings => ?_⟩
  exact (hsearch settings _ hfinite rfl).1

/-- As a number it is the greatest limit, in digits the standard one. -/
theorem tower_of_digits_not_clamped :
    ofJson (.int (10 ^ 309)) = 50 ∧ ofJson (.text (toString (10 ^ 309 : Int))) = 25 := by
  have hlarge : ¬(10 ^ 309 : Int).natAbs < Double.leastInfinite := by decide +kernel
  refine ⟨by decide +kernel, ?_⟩
  rw [ofJson, ofText_of_trim (Text.trim_toString _), if_neg hlarge]
  rfl

end Limit
end CallAtlas
