import Mathlib
import PracticeForge.Number.Binary64

/-!
# Proofs/Number/Nearest — the integer part of the nearest double

`Binary64.ofRatio?` scales `N / D` by a power of two until the quotient has 53 bits, rounds the
quotient to a neighbouring integer and packs it into a bit pattern.  For a ratio below eight the
exponent is at most `-49`, every integer up to eight is a multiple of the last place, and so the
double's integer part is the ratio's own, or one more when the ratio lies within `2^-49` of the
next integer (`Binary64.ofRatio?_whole`).

The steps: the exponent chosen (`ofRatio?_scaled`), the bit pattern read back
(`toRatio?_rounded`), and the arithmetic of rounding a scaled quotient (`whole_bounds`).
-/

namespace PracticeForge.Binary64

/-! ## Scaling and rounding -/

theorem divPow2_neg (N D k : Nat) : divPow2 N D (-(k : Int)) = (N * 2 ^ k / D, N * 2 ^ k % D, D) := by
  unfold divPow2
  split
  · next h =>
    have hk : k = 0 := by omega
    subst hk
    simp
  · simp only [Nat.pow_eq, Int.neg_neg, Int.toNat_natCast]

theorem roundHalfEven_cases (q r d : Nat) : roundHalfEven q r d = q ∨ roundHalfEven q r d = q + 1 := by
  unfold roundHalfEven
  split
  · exact .inr rfl
  · exact .inl rfl

/-- The exponent `ofRatio?` picks for a ratio below eight. -/
theorem ofRatio?_scaled {N D : Nat} (hD : 0 < D) (hN : 0 < N) (h8 : N < 8 * D) :
    ∃ k : Nat, 49 ≤ k ∧ k ≤ 1074 ∧ N * 2 ^ k < 2 ^ 53 * D ∧ (k = 1074 ∨ 2 ^ 52 * D ≤ N * 2 ^ k) ∧
      ofRatio? false N D =
        if roundHalfEven (N * 2 ^ k / D) (N * 2 ^ k % D) D = 2 ^ 53 then
          encode? false sigLow (-(k : Int) + 1)
        else encode? false (roundHalfEven (N * 2 ^ k / D) (N * 2 ^ k % D) D) (-(k : Int)) := by
  -- the logarithms place `N` and `D` between powers of two
  have hN0 : N ≠ 0 := by omega
  have hD0 : D ≠ 0 := by omega
  have hNlo := Nat.log2_self_le hN0
  have hNhi := @Nat.lt_log2_self N
  have hDlo := Nat.log2_self_le hD0
  have hDhi := @Nat.lt_log2_self D
  have hlog : N.log2 ≤ D.log2 + 3 := by
    have : N < 2 ^ (D.log2 + 4) := by
      calc N < 8 * D := h8
        _ < 8 * 2 ^ (D.log2 + 1) := by omega
        _ = 2 ^ (D.log2 + 4) := by rw [pow_succ, pow_succ, pow_succ, pow_succ]; ring
    have := (Nat.log2_lt hN0).2 this
    omega
  set k0 := D.log2 + 53 - N.log2 with hk0
  have hlo0 : 2 ^ 52 * D ≤ N * 2 ^ k0 := by
    calc 2 ^ 52 * D ≤ 2 ^ 52 * 2 ^ (D.log2 + 1) := by omega
      _ = 2 ^ N.log2 * 2 ^ k0 := by rw [← pow_add, ← pow_add]; congr 1; omega
      _ ≤ N * 2 ^ k0 := Nat.mul_le_mul_right _ hNlo
  have hhi0 : N * 2 ^ k0 < 2 ^ 54 * D := by
    calc N * 2 ^ k0 < 2 ^ (N.log2 + 1) * 2 ^ k0 := Nat.mul_lt_mul_of_pos_right hNhi (by positivity)
      _ = 2 ^ 54 * 2 ^ D.log2 := by rw [← pow_add, ← pow_add]; congr 1; omega
      _ ≤ 2 ^ 54 * D := Nat.mul_le_mul_left _ hDlo
  have he0 : (N.log2 : Int) - D.log2 - 53 = -(k0 : Int) := by omega
  unfold ofRatio?
  simp only [if_neg hD0, if_neg hN0, he0, divPow2_neg]
  -- the quotient at `k0` lies in `[2^52, 2^54)`: keep `k0`, or one less when it reaches `2^53`
  obtain ⟨k1, hk1, hlo1, hhi1, hk49⟩ : ∃ k1 : Nat,
      (if N * 2 ^ k0 / D < Nat.pow 2 53 then -(k0 : Int) else -(k0 : Int) + 1) = -(k1 : Int) ∧
        2 ^ 52 * D ≤ N * 2 ^ k1 ∧ N * 2 ^ k1 < 2 ^ 53 * D ∧ 49 ≤ k1 := by
    split
    · next hq =>
      rw [Nat.pow_eq, Nat.div_lt_iff_lt_mul hD] at hq
      exact ⟨k0, rfl, hlo0, hq, by omega⟩
    · next hq =>
      rw [Nat.pow_eq, not_lt, Nat.le_div_iff_mul_le hD] at hq
      have h2 : N * 2 ^ k0 = 2 * (N * 2 ^ (k0 - 1)) := by
        rw [← Nat.mul_assoc, Nat.mul_comm 2 N, Nat.mul_assoc, ← pow_succ']; congr 2; omega
      exact ⟨k0 - 1, by omega, by omega, by omega, by omega⟩
  -- below the smallest exponent the quotient is taken at `2^-1074`
  obtain ⟨k, hk, hk1074, hhi, hnorm, hk49'⟩ : ∃ k : Nat, max (-(k1 : Int)) minExp = -(k : Int) ∧
      k ≤ 1074 ∧ N * 2 ^ k < 2 ^ 53 * D ∧ (k = 1074 ∨ 2 ^ 52 * D ≤ N * 2 ^ k) ∧ 49 ≤ k := by
    by_cases hsmall : k1 ≤ 1074
    · exact ⟨k1, by simp only [minExp]; omega, hsmall, hhi1, .inr hlo1, hk49⟩
    · refine ⟨1074, ?_, le_refl _, ?_, .inl rfl, by decide⟩
      · simp only [minExp]; omega
      have hle : 1074 ≤ k1 := by omega
      exact lt_of_le_of_lt (Nat.mul_le_mul_left N (pow_le_pow_right₀ (by norm_num) hle)) hhi1
  refine ⟨k, hk49', hk1074, hhi, hnorm, ?_⟩
  rw [hk1, hk, divPow2_neg]
  simp only [Nat.pow_eq]

/-- Rounding `N * M / D` to a neighbouring integer `s` and dividing by `M` again keeps the integer
part of `N / D`, or rounds it up when `N / D` lies within `D / M` of the next integer. -/
theorem whole_bounds {N D M s : Nat} (hD : 0 < D) (hM : 2 ^ 49 ≤ M)
    (hs : s = N * M / D ∨ s = N * M / D + 1) :
    N < D * (s / M + 1) ∧ 2 ^ 49 * (D * (s / M)) ≤ 2 ^ 49 * N + D := by
  have hM0 : 0 < M := lt_of_lt_of_le (by positivity) hM
  have hq1 : D * (N * M / D) ≤ N * M := Nat.mul_div_le (N * M) D
  constructor
  · -- a multiple of `M` below `N * M` stays below the rounded significand
    have ha : N / D * M ≤ N * M / D := by
      refine (Nat.le_div_iff_mul_le hD).2 ?_
      calc N / D * M * D = D * (N / D) * M := by ring
        _ ≤ N * M := Nat.mul_le_mul_right _ (Nat.mul_div_le N D)
    have hw : N / D ≤ s / M := (Nat.le_div_iff_mul_le hM0).2 (by omega)
    calc N < D * (N / D + 1) := Nat.lt_mul_div_succ N hD
      _ ≤ D * (s / M + 1) := Nat.mul_le_mul_left _ (by omega)
  · have hw : s / M * M ≤ N * M / D + 1 := le_trans (Nat.div_mul_le_self s M) (by omega)
    have h1 : D * (s / M) * M ≤ N * M + D := by
      calc D * (s / M) * M = D * (s / M * M) := by ring
        _ ≤ D * (N * M / D + 1) := Nat.mul_le_mul_left _ hw
        _ = D * (N * M / D) + D := by ring
        _ ≤ N * M + D := by omega
    refine Nat.le_of_mul_le_mul_right ?_ hM0
    calc 2 ^ 49 * (D * (s / M)) * M = 2 ^ 49 * (D * (s / M) * M) := by ring
      _ ≤ 2 ^ 49 * (N * M + D) := Nat.mul_le_mul_left _ h1
      _ = 2 ^ 49 * N * M + 2 ^ 49 * D := by ring
      _ ≤ 2 ^ 49 * N * M + M * D := by have := Nat.mul_le_mul_right D hM; omega
      _ = (2 ^ 49 * N + D) * M := by ring

/-! ## Bit patterns read back -/

theorem form_ofFields {b f : Nat} (hb : b < 2047) (hf : f < 2 ^ 52) :
    (ofFields false b f).form =
      if b = 0 then .finite false f minExp else .finite false (f + sigLow) ((b : Int) - 1075) := by
  have hlt : b * 2 ^ 52 + f < 2 ^ 63 := by
    have : b * 2 ^ 52 ≤ 2046 * 2 ^ 52 := Nat.mul_le_mul_right _ (by omega)
    calc b * 2 ^ 52 + f < 2047 * 2 ^ 52 := by omega
      _ < 2 ^ 63 := by norm_num
  have hbits : (ofFields false b f).bits.toNat = b * 2 ^ 52 + f := by
    simp only [ofFields, Bool.false_eq_true, if_false, Nat.zero_add, Nat.pow_eq]
    rw [UInt64.toNat_ofNat', Nat.mod_eq_of_lt (by omega)]
  have hbiased : (b * 2 ^ 52 + f) / 2 ^ 52 = b := by
    rw [Nat.mul_comm, Nat.mul_add_div (by positivity), Nat.div_eq_of_lt hf, Nat.add_zero]
  have hfrac : (b * 2 ^ 52 + f) % 2 ^ 52 = f := by
    rw [Nat.mul_comm, Nat.mul_add_mod, Nat.mod_eq_of_lt hf]
  have hsign : (b * 2 ^ 52 + f) / 2 ^ 63 = 0 := Nat.div_eq_of_lt hlt
  simp only [form, hbits, Nat.pow_eq, hbiased, hfrac, hsign, Nat.mod_eq_of_lt (show b < 2 ^ 11 by omega)]
  rw [if_neg (by omega)]
  rfl

theorem toRatio?_zero : ∃ den, (zero false).toRatio? = some (false, 0, den) := by
  rw [zero, toRatio?, form_ofFields (by omega) (by omega), if_pos rfl]
  dsimp only
  rw [if_neg (by unfold minExp; omega)]
  exact ⟨_, rfl⟩

/-- A significand of at most `2^53` at exponent `-k`, as `ofRatio?` encodes it, reads back as a
ratio with the same integer part. -/
theorem toRatio?_rounded {s k : Nat} (hk49 : 49 ≤ k) (hk : k ≤ 1074) (hs : s ≤ 2 ^ 53)
    (hnorm : k = 1074 ∨ 2 ^ 52 ≤ s) :
    ∃ x num den, (if s = 2 ^ 53 then encode? false sigLow (-(k : Int) + 1)
        else encode? false s (-(k : Int))) = some x ∧
      x.toRatio? = some (false, num, den) ∧ num / den = s / 2 ^ k := by
  have hsig : sigLow = 2 ^ 52 := rfl
  by_cases htop : s = 2 ^ 53
  · -- the significand carried over: `2^52` one exponent up
    rw [if_pos htop]
    have henc : encode? false sigLow (-(k : Int) + 1) = some (ofFields false (1076 - k) 0) := by
      rw [encode?, if_neg (by rw [hsig]; positivity), if_neg (by unfold maxExp; omega),
        if_neg (lt_irrefl _), Nat.sub_self]
      congr 3
      omega
    refine ⟨_, 2 ^ 52, 2 ^ (k - 1), henc, ?_, ?_⟩
    · rw [toRatio?, form_ofFields (by omega) (by positivity), if_neg (by omega)]
      simp only [Nat.zero_add]
      rw [if_neg (by omega), hsig, Nat.pow_eq]
      congr 4
      omega
    · have hk2 : 2 ^ k = 2 ^ (k - 1) * 2 := by rw [← pow_succ]; congr 1; omega
      rw [htop, hk2, show (2 : Nat) ^ 53 = 2 ^ 52 * 2 by norm_num, Nat.mul_div_mul_right _ _ two_pos]
  rw [if_neg htop]
  by_cases hs0 : s = 0
  · subst hs0
    obtain ⟨den, hden⟩ := toRatio?_zero
    exact ⟨_, 0, den, by rw [encode?, if_pos rfl], hden, by simp⟩
  by_cases hsub : s < sigLow
  · -- a subnormal significand, which only the smallest exponent takes
    have hk1074 : k = 1074 := by
      rcases hnorm with h | h
      · exact h
      · rw [hsig] at hsub; omega
    have henc : encode? false s (-(k : Int)) = some (ofFields false 0 s) := by
      rw [encode?, if_neg hs0, if_neg (by unfold maxExp; omega), if_pos hsub]
    refine ⟨_, s, 2 ^ k, henc, ?_, rfl⟩
    rw [toRatio?, form_ofFields (by omega) (by rw [hsig] at hsub; exact hsub), if_pos rfl]
    dsimp only
    rw [if_neg (by unfold minExp; omega), Nat.pow_eq, show (-minExp).toNat = k by unfold minExp; omega]
  · -- a normal significand, with its leading bit left implicit in the fraction field
    have henc : encode? false s (-(k : Int)) = some (ofFields false (1075 - k) (s - sigLow)) := by
      rw [encode?, if_neg hs0, if_neg (by unfold maxExp; omega), if_neg hsub]
      congr 3
      omega
    refine ⟨_, s, 2 ^ k, henc, ?_, rfl⟩
    rw [hsig] at hsub
    rw [toRatio?, form_ofFields (by omega) (by omega), if_neg (by omega)]
    dsimp only
    rw [Nat.sub_add_cancel (by rw [hsig]; omega), if_neg (by omega), Nat.pow_eq]
    congr 4
    omega

/-! ## The nearest double -/

/-- **The integer part of the nearest double.**  A ratio `N / D` below eight has a nearest
double, and the double's integer part `w` keeps `N / D` below `w + 1` and exceeds it by at most
`2^-49`. -/
theorem ofRatio?_whole {N D : Nat} (hD : 0 < D) (h8 : N < 8 * D) :
    ∃ x num den, ofRatio? false N D = some x ∧ x.toRatio? = some (false, num, den) ∧
      N < D * (num / den + 1) ∧ 2 ^ 49 * (D * (num / den)) ≤ 2 ^ 49 * N + D := by
  rcases Nat.eq_zero_or_pos N with rfl | hN
  · obtain ⟨den, hden⟩ := toRatio?_zero
    refine ⟨_, 0, den, ?_, hden, by simpa using hD, by simp⟩
    rw [ofRatio?]
    exact if_pos rfl
  obtain ⟨k, hk49, hk1074, hhi, hnorm, hround⟩ := ofRatio?_scaled hD hN h8
  have hcases := roundHalfEven_cases (N * 2 ^ k / D) (N * 2 ^ k % D) D
  have hq : N * 2 ^ k / D < 2 ^ 53 := (Nat.div_lt_iff_lt_mul hD).2 hhi
  have hlow : k = 1074 ∨ 2 ^ 52 ≤ N * 2 ^ k / D :=
    hnorm.imp id fun h => (Nat.le_div_iff_mul_le hD).2 h
  obtain ⟨x, num, den, hx, hr, hw⟩ :=
    @toRatio?_rounded (roundHalfEven (N * 2 ^ k / D) (N * 2 ^ k % D) D) k hk49 hk1074 (by omega) (by omega)
  refine ⟨x, num, den, hround.trans hx, hr, ?_⟩
  rw [hw]
  exact whole_bounds hD (pow_le_pow_right₀ (by norm_num) hk49) hcases

end PracticeForge.Binary64
