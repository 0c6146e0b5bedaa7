import JsonRules.Double.Basic

namespace JsonRules

section Quotients

variable {den : Nat}

theorem roundQuotient_mono {num num' : Nat} (h : num ≤ num') :
    roundQuotient num den ≤ roundQuotient num' den := by
  have hquotient : num / den ≤ num' / den := Nat.div_le_div_right h
  have hnum := Nat.div_add_mod num den
  have hnum' := Nat.div_add_mod num' den
  unfold roundQuotient
  dsimp only
  rcases Nat.lt_or_eq_of_le hquotient with hlt | heq
  · -- one quotient more is room enough for rounding up
    split <;> split <;> omega
  · rw [← heq] at hnum' ⊢
    have hrest : num % den ≤ num' % den := by omega
    split <;> split <;> omega

theorem roundQuotient_mul (hden : 0 < den) (q : Nat) : roundQuotient (q * den) den = q := by
  unfold roundQuotient
  dsimp only
  rw [Nat.mul_div_cancel q hden, Nat.mul_mod_left]
  exact if_pos (.inl hden)

end Quotients

namespace Double

theorem spacing_pos (units : Nat) : 0 < spacing units := Nat.pow_pos (by decide)

/-- A whole magnitude is rounded to a multiple of the distance of doubles there. -/
theorem nearestUnits_one (n : Nat) :
    nearestUnits n 1 = roundQuotient n (spacing n) * spacing n := by
  rw [nearestUnits, Nat.div_one, Nat.one_mul]

theorem nearestUnits_of_dvd {n : Nat} (h : spacing n ∣ n) : nearestUnits n 1 = n := by
  obtain ⟨q, hq⟩ := h
  have hround := roundQuotient_mul (spacing_pos n) q
  rw [Nat.mul_comm, ← hq] at hround
  rw [nearestUnits_one, hround, Nat.mul_comm, ← hq]

section Binade

variable {n : Nat} (hn : n ≠ 0)

include hn

/-- Rounding does not leave the powers of two around a magnitude. -/
theorem nearestUnits_mem_binade :
    Nat.pow 2 n.log2 ≤ nearestUnits n 1 ∧ nearestUnits n 1 ≤ Nat.pow 2 (n.log2 + 1) := by
  have hlow : Nat.pow 2 n.log2 ≤ n := Nat.log2_self_le hn
  have hhigh : n ≤ Nat.pow 2 (n.log2 + 1) := Nat.le_of_lt Nat.lt_log2_self
  have hfix {k : Nat} (hk : n.log2 ≤ k) :
      roundQuotient (Nat.pow 2 k) (spacing n) * spacing n = Nat.pow 2 k := by
    obtain ⟨q, hq⟩ : spacing n ∣ Nat.pow 2 k :=
      Nat.pow_dvd_pow 2 (Nat.le_trans (Nat.sub_le _ _) hk)
    rw [hq, Nat.mul_comm (spacing n) q, roundQuotient_mul (spacing_pos n)]
  rw [nearestUnits_one]
  constructor
  · rw [← hfix (Nat.le_refl _)]
    exact Nat.mul_le_mul_right _ (roundQuotient_mono hlow)
  · rw [← hfix (Nat.le_succ _)]
    exact Nat.mul_le_mul_right _ (roundQuotient_mono hhigh)

end Binade

theorem nearestUnits_mono {n m : Nat} (h : n ≤ m) : nearestUnits n 1 ≤ nearestUnits m 1 := by
  by_cases hn : n = 0
  · rw [hn, nearestUnits_of_dvd (Nat.dvd_zero _)]
    exact Nat.zero_le _
  · have hm : m ≠ 0 := by omega
    have hlog : n.log2 ≤ m.log2 := (Nat.le_log2 hm).2 (Nat.le_trans (Nat.log2_self_le hn) h)
    rcases Nat.lt_or_eq_of_le hlog with hlt | heq
    · have hbetween : Nat.pow 2 (n.log2 + 1) ≤ Nat.pow 2 m.log2 :=
        Nat.pow_le_pow_right (by decide) hlt
      exact Nat.le_trans (nearestUnits_mem_binade hn).2
        (Nat.le_trans hbetween (nearestUnits_mem_binade hm).1)
    · have hspacing : spacing n = spacing m := by rw [spacing, spacing, heq]
      rw [nearestUnits_one, nearestUnits_one, hspacing]
      exact Nat.mul_le_mul_right _ (roundQuotient_mono h)

/-- A larger integer is not rounded to a smaller double. -/
theorem value_ofInt_mono {i j : Int} (h : i ≤ j) : (ofInt i).value ≤ (ofInt j).value := by
  unfold ofInt value
  dsimp only
  by_cases hi : i < 0
  · by_cases hj : j < 0
    · have hmagnitude : j.natAbs * unitsPerOne ≤ i.natAbs * unitsPerOne :=
        Nat.mul_le_mul_right _ (by omega)
      have := nearestUnits_mono hmagnitude
      simp only [hi, hj, decide_true, if_true]
      omega
    · simp only [hi, hj, decide_true, decide_false, if_true, Bool.false_eq_true, if_false]
      omega
  · have hj : ¬j < 0 := by omega
    have hmagnitude : i.natAbs * unitsPerOne ≤ j.natAbs * unitsPerOne :=
      Nat.mul_le_mul_right _ (by omega)
    have := nearestUnits_mono hmagnitude
    simp only [hi, hj, decide_false, Bool.false_eq_true, if_false]
    omega

/-- Integers from here on may fall between two doubles. -/
def exactLimit : Nat := Nat.pow 2 53

theorem spacing_mul_pow_dvd {m : Nat} (hm : m ≤ exactLimit) (e : Nat) :
    spacing (m * Nat.pow 2 e) ∣ m * Nat.pow 2 e := by
  by_cases hzero : m * Nat.pow 2 e = 0
  · rw [hzero]
    exact Nat.dvd_zero _
  · have hpower : exactLimit * Nat.pow 2 e = Nat.pow 2 (53 + e) := (Nat.pow_add 2 53 e).symm
    rcases Nat.lt_or_eq_of_le hm with hlt | rfl
    · have hunits : m * Nat.pow 2 e < Nat.pow 2 (53 + e) := by
        rw [← hpower]
        exact Nat.mul_lt_mul_of_pos_right hlt (Nat.pow_pos (by decide))
      have hlog := (Nat.log2_lt hzero).2 hunits
      have hstep : spacing (m * Nat.pow 2 e) ∣ Nat.pow 2 e := Nat.pow_dvd_pow 2 (by omega)
      exact Nat.dvd_trans hstep (Nat.dvd_mul_left _ m)
    · have hlog : (Nat.pow 2 (53 + e)).log2 = 53 + e := Nat.log2_two_pow
      rw [hpower, spacing, hlog]
      exact Nat.pow_dvd_pow 2 (by omega)

theorem exists_unitsPerOne_eq : ∃ e, unitsPerOne = Nat.pow 2 e := by
  unfold unitsPerOne
  exact ⟨_, rfl⟩

theorem unitsPerOne_pos : 0 < unitsPerOne := by
  obtain ⟨e, hone⟩ := exists_unitsPerOne_eq
  rw [hone]
  exact Nat.pow_pos (by decide)

/-- An integer of at most 53 bits is a double. -/
theorem value_ofInt_of_le {i : Int} (h : i.natAbs ≤ exactLimit) :
    (ofInt i).value = i * unitsPerOne := by
  have hdvd : spacing (i.natAbs * unitsPerOne) ∣ i.natAbs * unitsPerOne := by
    obtain ⟨e, hone⟩ := exists_unitsPerOne_eq
    rw [hone]
    exact spacing_mul_pow_dvd h e
  have hunits : ((nearestUnits (i.natAbs * unitsPerOne) 1 : Nat) : Int) =
      i.natAbs * (unitsPerOne : Int) := by
    rw [nearestUnits_of_dvd hdvd, Int.natCast_mul]
  unfold ofInt value
  dsimp only
  rw [hunits]
  by_cases hi : i < 0
  · rw [if_pos (decide_eq_true hi), ← Int.neg_mul,
      Int.ofNat_natAbs_of_nonpos (Int.le_of_lt hi), Int.neg_neg]
  · rw [if_neg (by simp [hi]), Int.natAbs_of_nonneg (Int.not_lt.1 hi)]

theorem le_of_value_ofInt_le {i j : Int} (hi : i.natAbs ≤ exactLimit) (hj : j.natAbs ≤ exactLimit)
    (h : (ofInt i).value ≤ (ofInt j).value) : i ≤ j := by
  rw [value_ofInt_of_le hi, value_ofInt_of_le hj] at h
  exact Int.le_of_mul_le_mul_right h (Int.natCast_pos.2 unitsPerOne_pos)

end Double

end JsonRules
