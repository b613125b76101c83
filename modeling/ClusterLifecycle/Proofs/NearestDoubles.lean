import ClusterLifecycle.Number.Shortest
import Mathlib.Data.Nat.Basic
import Mathlib.Tactic.Linarith
import Mathlib.Tactic.Ring

/-!
Rounding to the nearest double. A double is a multiple of the gap around it, and a number in the interval
that the printer calls its own is rounded to it. The two ends of the interval are where ties go to the
even one, and below a power of two the interval is half as wide.
-/

namespace ClusterLifecycle.Binary64

theorem one_shiftLeft_pos (n : Nat) : 0 < 1 <<< n := by
  rw [Nat.one_shiftLeft]
  exact Nat.two_pow_pos n

theorem one_pos : 0 < one := one_shiftLeft_pos 1074

/-! ### Gaps -/

theorem lt_two_pow_spacing (n : Nat) : n < 2 ^ (spacing n + 53) := by
  have within : n.log2 + 1 ≤ spacing n + 53 := by
    unfold spacing
    omega
  calc n
    _ < 2 ^ (n.log2 + 1) := Nat.lt_log2_self
    _ ≤ 2 ^ (spacing n + 53) := Nat.pow_le_pow_right (by decide) within

theorem two_pow_spacing_le {n : Nat} (wide : 0 < spacing n) : 2 ^ (spacing n + 52) ≤ n := by
  have nonzero : n ≠ 0 := by
    intro zero
    rw [zero] at wide
    exact absurd wide (by decide)
  have same : spacing n + 52 = n.log2 := by
    unfold spacing at wide ⊢
    omega
  rw [same]
  exact Nat.log2_self_le nonzero

theorem spacing_le {n s : Nat} (below : n < 2 ^ (s + 53)) : spacing n ≤ s := by
  by_contra wider
  have front := two_pow_spacing_le (show 0 < spacing n by omega)
  have order : 2 ^ (s + 53) ≤ 2 ^ (spacing n + 52) := Nat.pow_le_pow_right (by decide) (by omega)
  omega

theorem le_spacing {n s : Nat} (above : 0 < s → 2 ^ (s + 52) ≤ n) : s ≤ spacing n := by
  by_contra narrower
  have back := lt_two_pow_spacing n
  have order : 2 ^ (spacing n + 53) ≤ 2 ^ (s + 52) := Nat.pow_le_pow_right (by decide) (by omega)
  have front := above (by omega)
  omega

theorem spacing_eq {n s : Nat} (below : n < 2 ^ (s + 53)) (above : 0 < s → 2 ^ (s + 52) ≤ n) :
    spacing n = s :=
  Nat.le_antisymm (spacing_le below) (le_spacing above)

theorem narrowBelow_iff {n : Nat} : narrowBelow n = true ↔ 0 < spacing n ∧ n = 2 ^ 52 * 2 ^ spacing n := by
  rw [← Nat.pow_add, Nat.add_comm 52, ← Nat.one_shiftLeft, narrowBelow, Bool.and_eq_true, decide_eq_true_iff,
    beq_iff_eq, gt_iff_lt]

/-! ### Quotients -/

theorem roundDiv_le (num den : Nat) : roundDiv num den ≤ num / den + 1 := by
  unfold roundDiv
  dsimp only
  split_ifs <;> omega

theorem roundDiv_eq {num den m : Nat} (positive : 0 < den) (above : 2 * (m * den) ≤ 2 * num + den)
    (below : 2 * num ≤ 2 * (m * den) + den) (aboveEven : 2 * (m * den) = 2 * num + den → m % 2 = 0)
    (belowEven : 2 * num = 2 * (m * den) + den → m % 2 = 0) : roundDiv num den = m := by
  have whole := Nat.div_add_mod num den
  have part := Nat.mod_lt num positive
  unfold roundDiv
  dsimp only
  generalize num / den = q at *
  generalize num % den = r at *
  have lower : q ≤ m := by
    by_contra less
    have step : (m + 1) * den ≤ q * den := Nat.mul_le_mul_right den (by omega)
    rw [Nat.add_mul, Nat.one_mul, Nat.mul_comm q] at step
    omega
  have upper : m ≤ q + 1 := by
    by_contra more
    have step : (q + 2) * den ≤ m * den := Nat.mul_le_mul_right den (by omega)
    rw [Nat.add_mul, Nat.mul_comm q] at step
    omega
  rcases Nat.lt_or_ge q m with next | same
  · obtain rfl : m = q + 1 := by omega
    rw [Nat.add_mul, Nat.one_mul, Nat.mul_comm q] at *
    have up : 2 * r > den ∨ 2 * r = den ∧ q % 2 = 1 := by omega
    rw [if_pos up]
  · obtain rfl : m = q := by omega
    rw [Nat.mul_comm m] at *
    have down : ¬ (2 * r > den ∨ 2 * r = den ∧ m % 2 = 1) := by omega
    rw [if_neg down]

theorem roundDiv_mul_right (num den : Nat) {c : Nat} (positive : 0 < c) :
    roundDiv (num * c) (den * c) = roundDiv num den := by
  unfold roundDiv
  dsimp only
  rw [Nat.mul_div_mul_right num den positive, Nat.mul_mod_mul_right, ← Nat.mul_assoc]
  have more : 2 * (num % den) * c > den * c ↔ 2 * (num % den) > den := Nat.mul_lt_mul_right positive
  have tie : 2 * (num % den) * c = den * c ↔ 2 * (num % den) = den := Nat.mul_left_inj positive.ne'
  simp only [more, tie]

theorem nearest_mul_right (num den : Nat) {c : Nat} (positive : 0 < c) :
    nearest (num * c) (den * c) = nearest num den := by
  unfold nearest
  dsimp only
  rw [Nat.mul_div_mul_right num den positive]
  generalize spacing (num / den) = s
  have scaled : (den * c) <<< s = (den <<< s) * c := by
    rw [Nat.shiftLeft_eq, Nat.shiftLeft_eq]
    ring
  rw [scaled, roundDiv_mul_right num _ positive]

theorem nearest_congr {num den num' den' : Nat} (positive : 0 < den) (positive' : 0 < den')
    (same : num * den' = num' * den) : nearest num den = nearest num' den' := by
  rw [← nearest_mul_right num den positive', ← nearest_mul_right num' den' positive, same, Nat.mul_comm den']

/-! ### Doubles -/

/-- The magnitude of a double: a multiple of the gap at it. -/
def IsDouble (ticks : Nat) : Prop :=
  2 ^ spacing ticks ∣ ticks

theorem isDouble_zero : IsDouble 0 := Nat.dvd_zero _

theorem isDouble_mul_two_pow {q : Nat} (few : q ≤ 2 ^ 53) (s : Nat) : IsDouble (q * 2 ^ s) := by
  unfold IsDouble
  rcases Nat.lt_or_eq_of_le few with less | rfl
  · have within : spacing (q * 2 ^ s) ≤ s := by
      refine spacing_le ?_
      rw [Nat.pow_add, Nat.mul_comm (2 ^ s)]
      exact Nat.mul_lt_mul_of_pos_right less (Nat.two_pow_pos s)
    exact Nat.dvd_mul_left_of_dvd (Nat.pow_dvd_pow 2 within) q
  · have power : 2 ^ 53 * 2 ^ s = 2 ^ (s + 53) := by rw [Nat.pow_add, Nat.mul_comm]
    have within : spacing (2 ^ (s + 53)) ≤ s + 1 := spacing_le (Nat.pow_lt_pow_right (by decide) (by omega))
    rw [power]
    exact Nat.pow_dvd_pow 2 (by omega)

theorem isDouble_nearest (num den : Nat) : IsDouble (nearest num den) := by
  unfold nearest
  dsimp only
  have bound := lt_two_pow_spacing (num / den)
  generalize spacing (num / den) = s at bound ⊢
  have quotient : num / (den <<< s) < 2 ^ 53 := by
    rw [Nat.shiftLeft_eq, ← Nat.div_div_eq_div_mul]
    rw [Nat.div_lt_iff_lt_mul (Nat.two_pow_pos s), ← Nat.pow_add, Nat.add_comm]
    exact bound
  have rounded : roundDiv num (den <<< s) ≤ 2 ^ 53 := (roundDiv_le num _).trans quotient
  rw [Nat.shiftLeft_eq]
  exact isDouble_mul_two_pow rounded s

section

variable {ticks num den : Nat}

theorem shiftRight_mul (double : IsDouble ticks) : ticks >>> spacing ticks * 2 ^ spacing ticks = ticks := by
  rw [Nat.shiftRight_eq_div_pow, Nat.div_mul_cancel double]

theorem shiftRight_lt (ticks : Nat) : ticks >>> spacing ticks < 2 ^ 53 := by
  rw [Nat.shiftRight_eq_div_pow, Nat.div_lt_iff_lt_mul (Nat.two_pow_pos _), ← Nat.pow_add, Nat.add_comm]
  exact lt_two_pow_spacing ticks

theorem le_shiftRight (wide : 0 < spacing ticks) : 2 ^ 52 ≤ ticks >>> spacing ticks := by
  rw [Nat.shiftRight_eq_div_pow, Nat.le_div_iff_mul_le (Nat.two_pow_pos _), ← Nat.pow_add, Nat.add_comm]
  exact two_pow_spacing_le wide

/-! ### What is rounded to a double -/

/-- A quotient at the gap of a double is rounded to it from half a gap away, the end being its own where the
significand is even. -/
theorem nearest_eq {m s : Nat} (positive : 0 < den) (around : spacing (num / den) = s)
    (above : 2 * (m * (den * 2 ^ s)) ≤ 2 * num + den * 2 ^ s)
    (below : 2 * num ≤ 2 * (m * (den * 2 ^ s)) + den * 2 ^ s)
    (even : 2 * (m * (den * 2 ^ s)) = 2 * num + den * 2 ^ s ∨ 2 * num = 2 * (m * (den * 2 ^ s)) + den * 2 ^ s →
      m % 2 = 0) : nearest num den = m * 2 ^ s := by
  unfold nearest
  dsimp only
  rw [around, Nat.shiftLeft_eq, Nat.shiftLeft_eq]
  have rounded : roundDiv num (den * 2 ^ s) = m :=
    roundDiv_eq (Nat.mul_pos positive (Nat.two_pow_pos s)) above below (fun tie => even (.inl tie))
      fun tie => even (.inr tie)
  rw [rounded]

theorem nearest_one (double : IsDouble ticks) : nearest ticks 1 = ticks := by
  have same := shiftRight_mul double
  have wide := Nat.two_pow_pos (spacing ticks)
  calc nearest ticks 1
    _ = ticks >>> spacing ticks * 2 ^ spacing ticks := by
      refine nearest_eq Nat.one_pos (by rw [Nat.div_one]) ?_ ?_ ?_ <;> rw [Nat.one_mul, same] <;> omega
    _ = ticks := same

theorem nearest_of_half (double : IsDouble ticks) (positive : 0 < den)
    (above : 2 * (ticks * den) ≤ 2 * num + den * 2 ^ spacing ticks)
    (below : 2 * num ≤ 2 * (ticks * den) + den * 2 ^ spacing ticks)
    (even : 2 * (ticks * den) = 2 * num + den * 2 ^ spacing ticks ∨
      2 * num = 2 * (ticks * den) + den * 2 ^ spacing ticks → ticks >>> spacing ticks % 2 = 0)
    (equal : ticks * den ≤ num ∨ narrowBelow ticks = false) : nearest num den = ticks := by
  have same := shiftRight_mul double
  have few := shiftRight_lt ticks
  have many : 0 < spacing ticks → 2 ^ 52 ≤ ticks >>> spacing ticks := le_shiftRight
  have narrow : narrowBelow ticks = false → 0 < spacing ticks → ticks >>> spacing ticks ≠ 2 ^ 52 := by
    intro equal wide power
    have narrow := narrowBelow_iff.2 ⟨wide, by rw [← power, same]⟩
    exact absurd narrow (by rw [equal]; decide)
  generalize spacing ticks = s at *
  generalize ticks >>> s = m at *
  obtain rfl := same
  have unit : 0 < den * 2 ^ s := Nat.mul_pos positive (Nat.two_pow_pos s)
  have shape : m * 2 ^ s * den = m * (den * 2 ^ s) := by ring
  rw [shape] at above below even equal
  -- half a gap never leads past the next power of two, and below the last one the gap would be narrower
  have around : spacing (num / den) = s := by
    refine spacing_eq ?_ ?_
    · rw [Nat.div_lt_iff_lt_mul positive]
      calc num
        _ < (m + 1) * (den * 2 ^ s) := by rw [Nat.add_mul]; omega
        _ ≤ 2 ^ 53 * (den * 2 ^ s) := Nat.mul_le_mul_right _ few
        _ = 2 ^ (s + 53) * den := by rw [Nat.pow_add]; ring
    · intro wide
      rw [Nat.le_div_iff_mul_le positive]
      have front : 2 ^ 52 * (den * 2 ^ s) ≤ num := by
        rcases equal with inside | wider
        · exact (Nat.mul_le_mul_right _ (many wide)).trans inside
        · have next : 2 ^ 52 + 1 ≤ m := Nat.lt_of_le_of_ne (many wide) (narrow wider wide).symm
          have step := Nat.mul_le_mul_right (den * 2 ^ s) next
          rw [Nat.add_mul] at step
          omega
      calc 2 ^ (s + 52) * den
        _ = 2 ^ 52 * (den * 2 ^ s) := by rw [Nat.pow_add]; ring
        _ ≤ num := front
  exact nearest_eq positive around above below even

/-- Rounding below a power of two, where the gap is half as wide. -/
theorem nearest_of_quarter (narrow : narrowBelow ticks = true) (positive : 0 < den) (inside : num < ticks * den)
    (near : 4 * (ticks * den) ≤ 4 * num + den * 2 ^ spacing ticks) : nearest num den = ticks := by
  obtain ⟨wide, power⟩ := narrowBelow_iff.1 narrow
  generalize spacing ticks = s at *
  obtain ⟨s, rfl⟩ : ∃ less, s = less + 1 := ⟨s - 1, by omega⟩
  have shape : ticks * den = 2 ^ 53 * (den * 2 ^ s) := by
    rw [power, Nat.pow_succ]
    ring
  have gap : den * 2 ^ (s + 1) = 2 * (den * 2 ^ s) := by
    rw [Nat.pow_succ]
    ring
  rw [gap] at near
  rw [shape] at near inside
  have unit : 0 < den * 2 ^ s := Nat.mul_pos positive (Nat.two_pow_pos s)
  -- in gaps of half the width, the power of two is the number just beyond 53 bits
  have around : spacing (num / den) = s := by
    refine spacing_eq ?_ ?_
    · rw [Nat.div_lt_iff_lt_mul positive]
      calc num
        _ < 2 ^ 53 * (den * 2 ^ s) := inside
        _ = 2 ^ (s + 53) * den := by rw [Nat.pow_add]; ring
    · intro _
      rw [Nat.le_div_iff_mul_le positive]
      calc 2 ^ (s + 52) * den
        _ = 2 ^ 52 * (den * 2 ^ s) := by rw [Nat.pow_add]; ring
        _ ≤ num := by omega
  calc nearest num den
    _ = 2 ^ 53 * 2 ^ s := nearest_eq positive around (by omega) (by omega) fun _ => by decide
    _ = ticks := by
      rw [power, Nat.pow_succ]
      ring

theorem within_iff {even : Bool} {distance room : Nat} :
    decide (if even = true then distance ≤ room else distance < room) = true ↔
      distance ≤ room ∧ (distance = room → even = true) := by
  cases even with
  | true => simp
  | false => simp [Nat.lt_iff_le_and_ne]

/-- What lies in the interval of a double is rounded to it. -/
theorem nearest_of_roundsBack {candidate : Nat} (double : IsDouble ticks) {factor : Nat} (positive : 0 < factor)
    (within : roundsBack ticks candidate (ticks * factor, den, (1 <<< spacing ticks) * factor) = true) :
    nearest (candidate * den) factor = ticks := by
  unfold roundsBack at within
  dsimp only at within
  rw [Nat.one_shiftLeft, Nat.mul_comm (2 ^ spacing ticks)] at within
  generalize candidate * den = num at *
  by_cases lower : num ≤ ticks * factor
  · rw [if_pos lower] at within
    by_cases narrow : narrowBelow ticks = true
    · rw [if_pos narrow] at within
      obtain ⟨room, -⟩ := within_iff.1 within
      rcases Nat.lt_or_eq_of_le lower with inside | same
      · exact nearest_of_quarter narrow positive inside (by omega)
      · have unit := Nat.mul_pos positive (Nat.two_pow_pos (spacing ticks))
        exact nearest_of_half double positive (by omega) (by omega) (by omega) (.inl (by omega))
    · rw [if_neg narrow] at within
      obtain ⟨room, tie⟩ := within_iff.1 within
      rw [beq_iff_eq] at tie
      exact nearest_of_half double positive (by omega) (by omega) (by omega) (.inr (by simpa using narrow))
  · rw [if_neg lower] at within
    obtain ⟨room, tie⟩ := within_iff.1 within
    rw [beq_iff_eq] at tie
    exact nearest_of_half double positive (by omega) (by omega) (by omega) (.inl (by omega))

end

/-! ### Significands scaled by powers of ten -/

theorem isDouble_divTen (steps start rest : Nat) : IsDouble (divTen steps start rest) := by
  induction steps generalizing start with
  | zero => exact isDouble_nearest _ _
  | succ steps ih =>
    rw [divTen]
    split_ifs
    · exact isDouble_zero
    · exact ih _

theorem isDouble_scaled {significand ticks : Nat} {exponent : Int} (found : scaled significand exponent = some ticks) :
    IsDouble ticks := by
  unfold scaled at found
  dsimp only at found
  split at found
  · split_ifs at found
    · obtain rfl := Option.some.inj found
      exact isDouble_nearest _ _
    · obtain rfl := Option.some.inj found
      exact isDouble_zero
  · obtain rfl := Option.some.inj found
    exact isDouble_divTen _ _ _

theorem isDouble_mul_one {q : Nat} (few : q ≤ 2 ^ 53) (k : Nat) : IsDouble (q * 2 ^ k * one) := by
  unfold one
  generalize 1074 = e
  rw [Nat.one_shiftLeft, Nat.mul_assoc, ← Nat.pow_add]
  exact isDouble_mul_two_pow few (k + e)

theorem ofNat_eq {n : Nat} (few : n ≤ 2 ^ 53) : ofNat n = n * one := by
  have double := isDouble_mul_one few 0
  rw [Nat.pow_zero, Nat.mul_one] at double
  exact nearest_one double

/-- The powers of ten that are doubles: their odd part has 53 bits. -/
theorem tenTo_eq {k : Nat} (small : k ≤ 22) : tenTo k = 10 ^ k * one := by
  have odd : 5 ^ k ≤ 2 ^ 53 := (Nat.pow_le_pow_right (by decide) small).trans (by decide)
  have double := isDouble_mul_one odd k
  rw [← Nat.mul_pow] at double
  exact nearest_one double

theorem nearest_one_le (n : Nat) : nearest n 1 ≤ 2 * n + 1 := by
  unfold nearest
  dsimp only
  rw [Nat.div_one, Nat.one_shiftLeft, Nat.shiftLeft_eq]
  have narrow : 2 ^ spacing n ≤ n + 1 := by
    rcases Nat.eq_zero_or_pos (spacing n) with zero | wide
    · rw [zero]
      omega
    · calc 2 ^ spacing n
        _ ≤ 2 ^ (spacing n + 52) := Nat.pow_le_pow_right (by decide) (by omega)
        _ ≤ n + 1 := (two_pow_spacing_le wide).trans (Nat.le_succ n)
  generalize 2 ^ spacing n = unit at narrow ⊢
  have whole := Nat.div_mul_le_self n unit
  calc roundDiv n unit * unit
    _ ≤ (n / unit + 1) * unit := Nat.mul_le_mul_right unit (roundDiv_le n unit)
    _ ≤ 2 * n + 1 := by
      rw [Nat.add_mul, Nat.one_mul]
      omega

theorem scaled_eq {significand : Nat} {exponent : Int} (few : significand ≤ 2 ^ 53) (least : -22 ≤ exponent)
    (most : exponent ≤ 22) : scaled significand exponent =
      some (nearest (significand * 10 ^ exponent.toNat * one) (10 ^ (-exponent).toNat)) := by
  unfold scaled
  dsimp only
  rw [ofNat_eq few]
  cases exponent with
  | ofNat k =>
    have small : k ≤ 22 := Int.ofNat_le.1 most
    have product : mul (significand * one) (tenTo k) = nearest (significand * 10 ^ k * one) 1 := by
      unfold mul
      rw [tenTo_eq small]
      exact nearest_congr one_pos Nat.one_pos (by ring)
    have inside : nearest (significand * 10 ^ k * one) 1 < overflow := by
      have power : 10 ^ k ≤ 2 ^ 74 := (Nat.pow_le_pow_right (by decide) small).trans (by decide)
      have bound : significand * 10 ^ k * one ≤ 2 ^ 53 * 2 ^ 74 * one :=
        Nat.mul_le_mul_right one (Nat.mul_le_mul few power)
      have wide : 2 * (2 ^ 53 * 2 ^ 74 * one) + 1 < overflow := by decide +kernel
      have rounded := nearest_one_le (significand * 10 ^ k * one)
      omega
    dsimp only
    have negated : (-(Int.ofNat k)).toNat = 0 := Int.toNat_neg_natCast k
    rw [if_pos (by omega), product, if_pos inside, negated]
    rfl
  | negSucc j =>
    have small : j + 1 ≤ 22 := by omega
    have steps : j / 308 = 0 := Nat.div_eq_of_lt (by omega)
    have rest : j % 308 + 1 = j + 1 := by rw [Nat.mod_eq_of_lt (by omega)]
    have quotient : div (significand * one) (tenTo (j + 1)) = nearest (significand * one) (10 ^ (j + 1)) := by
      unfold div
      rw [tenTo_eq small]
      exact nearest_congr (Nat.mul_pos (Nat.pow_pos (by decide)) one_pos) (Nat.pow_pos (by decide)) (by ring)
    dsimp only
    rw [steps, rest, divTen, quotient, Int.neg_negSucc, Int.toNat_negSucc, Nat.pow_zero, Nat.mul_one]
    rfl

end ClusterLifecycle.Binary64
