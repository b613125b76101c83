import ClusterLifecycle.Proofs.NearestDoubles

/-!
The decimals that doubles are printed as. Seventeen digits are always enough, so a decimal that rounds to the
double is found, and it still does so without its trailing zeros.
-/

namespace ClusterLifecycle.Binary64

variable {ticks : Nat} {lead : Int} {decimal : Decimal}

/-! ### The double nearest a decimal -/

def Decimal.nearest (decimal : Decimal) : Nat :=
  Binary64.nearest (decimal.digits * 10 ^ decimal.exponent.toNat * one) (10 ^ (-decimal.exponent).toNat)

def Decimal.pad (decimal : Decimal) (zeros : Nat) : Decimal :=
  ⟨decimal.digits * 10 ^ zeros, decimal.exponent - zeros⟩

theorem Decimal.nearest_pad (decimal : Decimal) (zeros : Nat) : (decimal.pad zeros).nearest = decimal.nearest := by
  have ten : ∀ n, 0 < 10 ^ n := fun n => Nat.pow_pos (by decide)
  unfold nearest pad
  refine nearest_congr (ten _) (ten _) ?_
  dsimp only
  have powers : zeros + (decimal.exponent - zeros).toNat + (-decimal.exponent).toNat =
      decimal.exponent.toNat + (-(decimal.exponent - zeros)).toNat := by omega
  have same := congrArg (10 ^ ·) powers
  simp only [Nat.pow_add] at same
  calc decimal.digits * 10 ^ zeros * 10 ^ (decimal.exponent - zeros).toNat * one * 10 ^ (-decimal.exponent).toNat
    _ = decimal.digits * one * (10 ^ zeros * 10 ^ (decimal.exponent - zeros).toNat *
        10 ^ (-decimal.exponent).toNat) := by ring
    _ = decimal.digits * 10 ^ decimal.exponent.toNat * one * 10 ^ (-(decimal.exponent - zeros)).toNat := by
      rw [same]
      ring

theorem Decimal.exists_pad_strip (decimal : Decimal) (limit : Nat) : ∃ zeros, (decimal.strip limit).pad zeros = decimal := by
  induction limit generalizing decimal with
  | zero => exact ⟨0, by simp [pad, strip]⟩
  | succ limit ih =>
    rw [strip]
    split_ifs with zero
    · obtain ⟨zeros, padded⟩ := ih ⟨decimal.digits / 10, decimal.exponent + 1⟩
      obtain ⟨digits, exponent⟩ := (Decimal.mk.injEq ..).mp padded
      refine ⟨zeros + 1, (Decimal.mk.injEq ..).mpr ⟨?_, by omega⟩⟩
      rw [Nat.pow_succ, ← Nat.mul_assoc, digits]
      omega
    · exact ⟨0, by simp [pad]⟩

theorem Decimal.nearest_strip (decimal : Decimal) (limit : Nat) : (decimal.strip limit).nearest = decimal.nearest := by
  obtain ⟨zeros, padded⟩ := decimal.exists_pad_strip limit
  rw [← nearest_pad _ zeros, padded]

theorem Decimal.digits_strip (limit : Nat) (positive : 0 < decimal.digits) : 0 < (decimal.strip limit).digits := by
  obtain ⟨zeros, padded⟩ := decimal.exists_pad_strip limit
  by_contra none
  rw [← padded, pad, Nat.eq_zero_of_not_pos none, Nat.zero_mul] at positive
  exact absurd positive (Nat.lt_irrefl 0)

theorem onGrid_eq (ticks : Nat) (p : Int) : onGrid ticks p =
    (ticks * 10 ^ (-p).toNat, one * 10 ^ p.toNat, (1 <<< spacing ticks) * 10 ^ (-p).toNat) := by
  cases p with
  | ofNat k =>
    have negated : (-(Int.ofNat k)).toNat = 0 := Int.toNat_neg_natCast k
    rw [negated, Nat.pow_zero, Nat.mul_one, Nat.mul_one]
    rfl
  | negSucc j =>
    rw [Int.neg_negSucc, Int.toNat_negSucc, Nat.pow_zero, Nat.mul_one]
    rfl

theorem Decimal.nearest_of_roundsBack (double : IsDouble ticks)
    (within : roundsBack ticks decimal.digits (onGrid ticks decimal.exponent) = true) : decimal.nearest = ticks := by
  rw [onGrid_eq] at within
  unfold nearest
  rw [Nat.mul_assoc, Nat.mul_comm (10 ^ _) one]
  exact Binary64.nearest_of_roundsBack double (Nat.pow_pos (by decide)) within

/-! ### The decimals of one length -/

theorem ofLength?_spec {length : Nat} (found : ofLength? ticks lead length = some decimal) :
    0 < decimal.digits ∧ roundsBack ticks decimal.digits (onGrid ticks decimal.exponent) = true := by
  unfold ofLength? at found
  dsimp only at found
  split at found
  · next below above =>
    obtain ⟨below, positive⟩ := Bool.and_eq_true_iff.1 below
    rw [← Option.some.inj found]
    dsimp only
    split_ifs
    · exact ⟨of_decide_eq_true positive, below⟩
    · exact ⟨Nat.succ_pos _, above⟩
  · next below _ =>
    obtain ⟨below, positive⟩ := Bool.and_eq_true_iff.1 below
    rw [← Option.some.inj found]
    exact ⟨of_decide_eq_true positive, below⟩
  · next above =>
    rw [← Option.some.inj found]
    exact ⟨Nat.succ_pos _, above⟩
  · cases found

section

variable {candidate num den gap : Nat}

theorem roundsBack_below (lower : candidate * den ≤ num) (wide : narrowBelow ticks = false)
    (near : 2 * (num - candidate * den) < gap) : roundsBack ticks candidate (num, den, gap) = true := by
  unfold roundsBack
  dsimp only
  rw [if_pos lower, wide]
  exact within_iff.2 ⟨near.le, fun tie => absurd tie near.ne⟩

theorem roundsBack_narrow (lower : candidate * den ≤ num) (narrow : narrowBelow ticks = true)
    (near : 4 * (num - candidate * den) ≤ gap) : roundsBack ticks candidate (num, den, gap) = true := by
  unfold roundsBack
  dsimp only
  rw [if_pos lower, if_pos narrow]
  obtain ⟨-, power⟩ := narrowBelow_iff.1 narrow
  have significand : ticks >>> spacing ticks = 2 ^ 52 := by
    generalize spacing ticks = s at power ⊢
    rw [power, Nat.shiftRight_eq_div_pow, Nat.mul_div_cancel _ (Nat.two_pow_pos s)]
  have even : (ticks >>> spacing ticks % 2 == 0) = true := by
    rw [significand]
    decide
  exact within_iff.2 ⟨near, fun _ => even⟩

theorem roundsBack_above (upper : num < candidate * den) (near : 2 * (candidate * den - num) < gap) :
    roundsBack ticks candidate (num, den, gap) = true := by
  unfold roundsBack
  dsimp only
  rw [if_neg (Nat.not_le.2 upper)]
  exact within_iff.2 ⟨near.le, fun tie => absurd tie near.ne⟩

theorem roundsBack_or (positive : 0 < den) (dense : 10 ^ 16 * den ≤ num) (few : num ≤ 2 ^ 53 * gap)
    (half : narrowBelow ticks = true → num = 2 ^ 52 * gap) :
    roundsBack ticks (num / den) (num, den, gap) = true ∨
      roundsBack ticks (num / den + 1) (num, den, gap) = true := by
  have whole := Nat.div_add_mod num den
  have part := Nat.mod_lt num positive
  have next : (num / den + 1) * den = num / den * den + den := by ring
  rw [Nat.mul_comm den] at whole
  -- the nearer point is in reach; at a power of two the reach below is half of that above, but there a step
  -- of the grid is less than half a gap
  by_cases narrow : narrowBelow ticks = true
  · have half := half narrow
    by_cases near : 4 * (num % den) ≤ gap
    · exact .inl (roundsBack_narrow (by omega) narrow (by omega))
    · exact .inr (roundsBack_above (by omega) (by omega))
  · have wide : narrowBelow ticks = false := by simpa using narrow
    by_cases near : 2 * (num % den) ≤ den
    · exact .inl (roundsBack_below (by omega) wide (by omega))
    · exact .inr (roundsBack_above (by omega) (by omega))

end

/-- Seventeen digits are enough. -/
theorem isSome_ofLength? (leading : 10 ^ lead.toNat * one ≤ ticks * 10 ^ (-lead).toNat) :
    (ofLength? ticks lead 17).isSome = true := by
  have ten : ∀ n, 0 < 10 ^ n := fun n => Nat.pow_pos (by decide)
  have powers : 16 + (lead - 16).toNat + (-lead).toNat = lead.toNat + (-(lead - 16)).toNat := by omega
  have dense : 10 ^ 16 * (one * 10 ^ (lead - 16).toNat) ≤ ticks * 10 ^ (-(lead - 16)).toNat := by
    refine Nat.le_of_mul_le_mul_right ?_ (ten (-lead).toNat)
    have same := congrArg (10 ^ ·) powers
    simp only [Nat.pow_add] at same
    calc 10 ^ 16 * (one * 10 ^ (lead - 16).toNat) * 10 ^ (-lead).toNat
      _ = one * (10 ^ 16 * 10 ^ (lead - 16).toNat * 10 ^ (-lead).toNat) := by ring
      _ = 10 ^ lead.toNat * one * 10 ^ (-(lead - 16)).toNat := by
        rw [same]
        ring
      _ ≤ ticks * 10 ^ (-lead).toNat * 10 ^ (-(lead - 16)).toNat := Nat.mul_le_mul_right _ leading
      _ = ticks * 10 ^ (-(lead - 16)).toNat * 10 ^ (-lead).toNat := by ring
  have positive : 0 < one * 10 ^ (lead - 16).toNat := Nat.mul_pos one_pos (ten _)
  have first : 0 < ticks * 10 ^ (-(lead - 16)).toNat / (one * 10 ^ (lead - 16).toNat) :=
    Nat.div_pos (by omega) positive
  have few : ticks * 10 ^ (-(lead - 16)).toNat ≤ 2 ^ 53 * ((1 <<< spacing ticks) * 10 ^ (-(lead - 16)).toNat) := by
    rw [Nat.one_shiftLeft, ← Nat.mul_assoc, ← Nat.pow_add, Nat.add_comm]
    exact Nat.mul_le_mul_right _ (lt_two_pow_spacing ticks).le
  have half : narrowBelow ticks = true →
      ticks * 10 ^ (-(lead - 16)).toNat = 2 ^ 52 * ((1 <<< spacing ticks) * 10 ^ (-(lead - 16)).toNat) := by
    intro narrow
    rw [Nat.one_shiftLeft, ← Nat.mul_assoc, ← (narrowBelow_iff.1 narrow).2]
  have found := roundsBack_or positive dense few half
  have place : lead - ((17 - 1 : Nat) : Int) = lead - 16 := rfl
  unfold ofLength?
  dsimp only
  rw [place, onGrid_eq]
  dsimp only
  rw [decide_eq_true first, Bool.and_true]
  split
  · rfl
  · rfl
  · rfl
  · next below above =>
    rw [below, above] at found
    exact absurd found (by decide)

/-! ### The shortest decimal -/

theorem one_le_stepsToOne {limit : Nat} (enough : one ≤ ticks * 10 ^ limit) :
    one ≤ ticks * 10 ^ stepsToOne limit ticks := by
  induction limit generalizing ticks with
  | zero => exact enough
  | succ limit ih =>
    rw [stepsToOne]
    split_ifs with reached
    · rwa [Nat.pow_zero, Nat.mul_one]
    · have later := @ih (ticks * 10) (by rwa [Nat.mul_assoc, ← Nat.pow_succ'])
      rwa [Nat.mul_assoc, ← Nat.pow_succ'] at later

theorem leadingExponent_le (positive : 0 < ticks) :
    10 ^ (leadingExponent ticks).toNat * one ≤ ticks * 10 ^ (-leadingExponent ticks).toNat := by
  unfold leadingExponent
  split_ifs with above
  · have some : 0 < (Nat.toDigits 10 (ticks / one)).length := Nat.length_toDigits_pos
    have whole : 0 < ticks / one := Nat.div_pos above one_pos
    have leading : 10 ^ ((Nat.toDigits 10 (ticks / one)).length - 1) ≤ ticks / one := by
      rcases Nat.lt_or_ge 1 (Nat.toDigits 10 (ticks / one)).length with many | single
      · by_contra less
        have short := (Nat.length_toDigits_le_iff (by decide) (by omega)).2 (Nat.not_le.1 less)
        omega
      · rwa [Nat.sub_eq_zero_of_le single, Nat.pow_zero]
    generalize (Nat.toDigits 10 (ticks / one)).length = length at *
    have front : ((length : Int) - 1).toNat = length - 1 := by omega
    have back : (-((length : Int) - 1)).toNat = 0 := by omega
    rw [front, back, Nat.pow_zero, Nat.mul_one]
    exact (Nat.le_div_iff_mul_le one_pos).1 leading
  · have reached : one ≤ 10 ^ 330 := by decide +kernel
    have enough : one ≤ ticks * 10 ^ 330 := reached.trans (Nat.le_mul_of_pos_left _ positive)
    have front : (-(stepsToOne 330 ticks : Int)).toNat = 0 := Int.toNat_neg_natCast _
    rw [front, Int.neg_neg, Int.toNat_natCast, Nat.pow_zero, Nat.one_mul]
    exact one_le_stepsToOne enough

theorem exists_ofLength? {more length : Nat} (found : tryLengths ticks lead more length = some decimal) :
    ∃ length, ofLength? ticks lead length = some decimal := by
  induction more generalizing length with
  | zero => cases found
  | succ more ih =>
    rw [tryLengths] at found
    cases here : ofLength? ticks lead length with
    | none =>
      rw [here] at found
      exact ih found
    | some other =>
      rw [here] at found
      exact ⟨length, here.trans found⟩

theorem isSome_tryLengths {more length enough : Nat} (found : (ofLength? ticks lead enough).isSome = true)
    (least : length ≤ enough) (most : enough < length + more) :
    (tryLengths ticks lead more length).isSome = true := by
  induction more generalizing length with
  | zero => omega
  | succ more ih =>
    rw [tryLengths, Option.orElse_eq_orElse, Option.orElse_eq_or, Option.isSome_or, Bool.or_eq_true]
    rcases Nat.eq_or_lt_of_le least with rfl | later
    · exact .inl found
    · exact .inr (ih later (by omega))

theorem digits_shortest (ticks : Nat) : 0 < (shortest ticks).digits ∨ shortest ticks = ⟨0, 17⟩ := by
  unfold shortest
  cases found : tryLengths ticks (leadingExponent ticks) 17 1 with
  | none => exact .inr rfl
  | some decimal =>
    obtain ⟨length, here⟩ := exists_ofLength? found
    exact .inl (Decimal.digits_strip 17 (ofLength?_spec here).1)

/-- The shortest decimal of a double is nearest to that double. -/
theorem nearest_shortest (double : IsDouble ticks) (positive : 0 < ticks) : (shortest ticks).nearest = ticks := by
  have found := @isSome_tryLengths _ _ 17 1 17 (isSome_ofLength? (leadingExponent_le positive)) (by decide)
    (by decide)
  obtain ⟨decimal, found⟩ := Option.isSome_iff_exists.1 found
  obtain ⟨length, here⟩ := exists_ofLength? found
  unfold shortest
  rw [found, Option.getD_some, Decimal.nearest_strip]
  exact Decimal.nearest_of_roundsBack double (ofLength?_spec here).2

end ClusterLifecycle.Binary64
