import ClusterLifecycle.Proofs.PrintedValues
import Mathlib.Data.List.Induction

/-!
Numerals of few digits. They are read as the nearest double, so a double that is printed with few digits comes
back as it was.
-/

namespace ClusterLifecycle.Json

open Text

def Numeral.power (n : Numeral) : Int :=
  match n.exponent with
  | none => 0
  | some (negative, digits) => if negative then -numberOf digits else numberOf digits

/-- All digits of a numeral as one number, with the place of the last. -/
def Numeral.decimal (n : Numeral) : Binary64.Decimal :=
  ⟨numberOf (n.whole ++ n.fraction), n.power - n.fraction.length⟩

/-- A numeral whose digits fit into a double, as the power of ten at its last place does. -/
structure Numeral.Short (n : Numeral) : Prop where
  few : n.decimal.digits ≤ 2 ^ 53
  least : -22 ≤ n.decimal.exponent
  most : n.decimal.exponent ≤ 22

/-! ### Reading -/

theorem le_foldl_digits (digits : List Nat) (start : Nat) :
    start ≤ digits.foldl (fun sum d => sum * 10 + d) start := by
  have power : 0 < 10 ^ digits.length := Nat.pow_pos (by decide)
  calc start
    _ ≤ start * 10 ^ digits.length := Nat.le_mul_of_pos_right start power
    _ ≤ digits.foldl (fun sum d => sum * 10 + d) start := by
      rw [foldl_digits digits start]
      exact Nat.le_add_right ..

theorem gatherWhole_eq {digits : List Nat} (few : digits.foldl (fun sum d => sum * 10 + d) 0 ≤ maxUnsigned) :
    gatherWhole digits = (digits.foldl (fun sum d => sum * 10 + d) 0, 0) := by
  induction digits using List.reverseRecOn with
  | nil => rfl
  | append_singleton front d ih =>
    have last : gatherWhole (front ++ [d]) =
        if (gatherWhole front).2 = 0 ∧ (gatherWhole front).1 * 10 + d ≤ maxUnsigned then
          ((gatherWhole front).1 * 10 + d, 0)
        else ((gatherWhole front).1, (gatherWhole front).2 + 1) := by
      rw [gatherWhole, List.foldl_append]
      rfl
    rw [List.foldl_append, List.foldl_cons, List.foldl_nil] at few ⊢
    rw [last, ih (by omega), if_pos ⟨rfl, few⟩]

theorem gatherFraction_eq {digits : List Nat} {start : Nat}
    (few : digits.foldl (fun sum d => sum * 10 + d) start ≤ maxUnsigned) :
    gatherFraction start digits = (digits.foldl (fun sum d => sum * 10 + d) start, digits.length) := by
  induction digits generalizing start with
  | nil => rfl
  | cons d rest ih =>
    have next : start * 10 + d ≤ maxUnsigned := (le_foldl_digits rest _).trans few
    rw [gatherFraction, if_pos next, ih few]
    rfl

theorem Numeral.ticks?_eq_scaled {n : Numeral} (few : numberOf (n.whole ++ n.fraction) ≤ maxUnsigned)
    (fractionDigits : ∀ c ∈ n.fraction, isDecimal c = true) (bounded : n.power.natAbs ≤ maxExponent) :
    n.ticks? = Binary64.scaled n.decimal.digits n.decimal.exponent := by
  have all : numberOf (n.whole ++ n.fraction) =
      (digitValues n.fraction).foldl (fun sum d => sum * 10 + d) (numberOf n.whole) := by
    rw [numberOf, digitValues_append, List.foldl_append]
    rfl
  have every := all ▸ few
  have whole : gatherWhole (digitValues n.whole) = (numberOf n.whole, 0) :=
    gatherWhole_eq ((le_foldl_digits _ _).trans every)
  have fraction := gatherFraction_eq every
  rw [← all, length_digitValues fractionDigits] at fraction
  unfold ticks? decimal
  rw [whole]
  dsimp only
  rw [fraction]
  unfold power at bounded ⊢
  cases exponent : n.exponent with
  | none =>
    dsimp only
    exact congrArg (Binary64.scaled _) (by omega)
  | some written =>
    obtain ⟨negative, digits⟩ := written
    rw [exponent] at bounded
    cases negative with
    | false =>
      dsimp only at bounded ⊢
      rw [if_neg Bool.false_ne_true] at bounded
      rw [if_neg (by omega)]
      exact congrArg (Binary64.scaled _) (by rw [if_neg Bool.false_ne_true, if_neg Bool.false_ne_true]; omega)
    | true =>
      dsimp only at bounded ⊢
      rw [if_pos rfl] at bounded
      rw [if_neg (by omega)]
      exact congrArg (Binary64.scaled _) (by rw [if_pos rfl, if_pos rfl]; omega)

/-- A short numeral is read as the double nearest its decimal. -/
theorem Numeral.Short.ticks?_eq {n : Numeral} (short : n.Short) (fractionDigits : ∀ c ∈ n.fraction, isDecimal c = true)
    (bounded : n.power.natAbs ≤ maxExponent) : n.ticks? = some n.decimal.nearest := by
  have room : 2 ^ 53 ≤ maxUnsigned := by decide
  rw [ticks?_eq_scaled (short.few.trans room) fractionDigits bounded]
  exact Binary64.scaled_eq short.few short.least short.most

theorem isDouble_ticks? {n : Numeral} {ticks : Nat} (found : n.ticks? = some ticks) : Binary64.IsDouble ticks := by
  unfold Numeral.ticks? at found
  dsimp only at found
  split at found
  · exact Binary64.isDouble_scaled found
  · split_ifs at found
    · obtain rfl := Option.some.inj found
      exact Binary64.isDouble_zero
    all_goals exact Binary64.isDouble_scaled found

/-! ### Printing -/

theorem numberOf_zeros (k : Nat) : numberOf (Value.zeros k) = 0 := by
  induction k with
  | zero => rfl
  | succ k ih =>
    rw [Value.zeros, List.replicate_succ', numberOf_append _ fun c => isDecimal_zero, ← Value.zeros, ih]
    rfl

section

variable {negative : Bool} {d : Binary64.Decimal} {n : Numeral}

theorem power_written (power : Int) (negative : Bool) (whole fraction : List Char) :
    (⟨negative, whole, fraction, some (power < 0, decimal power.natAbs)⟩ : Numeral).power = power := by
  unfold Numeral.power
  dsimp only
  rw [numberOf_decimal]
  split_ifs with below
  · have below := of_decide_eq_true below
    omega
  · have least := of_decide_eq_false (Bool.eq_false_iff.2 below)
    omega

theorem Layout.decimal_eq (layout : Layout negative d n) : ∃ zeros, n.decimal = d.pad zeros := by
  have digits : ∀ c ∈ decimal d.digits, isDecimal c = true := fun c => isDecimal_decimal
  cases layout with
  | whole zeros exponent short =>
    have shown : numberOf (decimal d.digits ++ Value.zeros zeros ++ ['0']) = d.digits * 10 ^ (zeros + 1) := by
      rw [numberOf_append _ fun c => isDecimal_zero, numberOf_append _ fun c => isDecimal_zeros, numberOf_decimal,
        numberOf_zeros, Value.zeros, List.length_replicate, List.length_singleton, Nat.pow_one, Nat.pow_succ]
      have last : numberOf ['0'] = 0 := rfl
      rw [last]
      ring
    have place : (0 : Int) - (['0'].length : Int) = d.exponent - (zeros + 1 : Nat) := by
      rw [exponent, List.length_singleton]
      omega
    exact ⟨zeros + 1, (Binary64.Decimal.mk.injEq ..).mpr ⟨shown, place⟩⟩
  | pointed point front back exponent =>
    have shown : numberOf ((decimal d.digits).take point ++ (decimal d.digits).drop point) = d.digits * 10 ^ 0 := by
      rw [List.take_append_drop, numberOf_decimal, Nat.pow_zero, Nat.mul_one]
    have place : (0 : Int) - ((decimal d.digits).drop point).length = d.exponent - (0 : Nat) := by
      rw [exponent, List.length_drop]
      omega
    exact ⟨0, (Binary64.Decimal.mk.injEq ..).mpr ⟨shown, place⟩⟩
  | small zeros few exponent =>
    have shown : numberOf (['0'] ++ (Value.zeros zeros ++ decimal d.digits)) = d.digits * 10 ^ 0 := by
      have front : numberOf (['0'] ++ Value.zeros zeros) = 0 := numberOf_zeros (zeros + 1)
      rw [← List.append_assoc, numberOf_append _ digits, front, numberOf_decimal, Nat.zero_mul, Nat.zero_add,
        Nat.pow_zero, Nat.mul_one]
    have place : (0 : Int) - (Value.zeros zeros ++ decimal d.digits).length = d.exponent - (0 : Nat) := by
      rw [exponent, List.length_append, Value.zeros, List.length_replicate]
      omega
    exact ⟨0, (Binary64.Decimal.mk.injEq ..).mpr ⟨shown, place⟩⟩
  | scientific power exponent far =>
    have shown : numberOf ((decimal d.digits).take 1 ++ (decimal d.digits).drop 1) = d.digits * 10 ^ 0 := by
      rw [List.take_append_drop, numberOf_decimal, Nat.pow_zero, Nat.mul_one]
    have some : 0 < (decimal d.digits).length := Nat.length_toDigits_pos
    have place : power - (((decimal d.digits).drop 1).length : Int) = d.exponent - (0 : Nat) := by
      rw [exponent, List.length_drop]
      omega
    refine ⟨0, (Binary64.Decimal.mk.injEq ..).mpr ⟨shown, ?_⟩⟩
    rw [power_written]
    exact place

theorem Layout.bounded (layout : Layout negative d n) (short : n.Short) : n.power.natAbs ≤ maxExponent := by
  have wide : 40 ≤ maxExponent := by decide
  cases layout with
  | scientific power exponent far =>
    obtain ⟨few, least, most⟩ := short
    have digits : numberOf ((decimal d.digits).take 1 ++ (decimal d.digits).drop 1) = d.digits := by
      rw [List.take_append_drop, numberOf_decimal]
    have few : d.digits ≤ 2 ^ 53 := digits ▸ few
    have length : (decimal d.digits).length ≤ 16 :=
      (Nat.length_toDigits_le_iff (by decide) (by decide)).2 (few.trans_lt (by decide))
    have some : 0 < (decimal d.digits).length := Nat.length_toDigits_pos
    unfold Numeral.decimal at least most
    rw [power_written] at *
    dsimp only at least most
    rw [List.length_drop] at least most
    omega
  | _ => exact Nat.zero_le _

end

theorem Value.readsBack_of_short {x : Binary64} (double : Binary64.IsDouble x.ticks) (short : (numeralOf x).Short) :
    ReadsBack x := by
  unfold ReadsBack rereadDouble?
  by_cases zero : x.ticks = 0
  · obtain ⟨negative, ticks⟩ := x
    obtain rfl : ticks = 0 := zero
    cases negative <;> decide +kernel
  · have layout := layout_numeralOf zero
    obtain ⟨zeros, written⟩ := layout.decimal_eq
    have read : (numeralOf x).ticks? = some x.ticks := by
      rw [short.ticks?_eq (grammatical_numeralOf x).fractionDigits (layout.bounded short), written, Binary64.Decimal.nearest_pad,
        Binary64.nearest_shortest double (Nat.pos_of_ne_zero zero)]
    rw [read]
    rfl

namespace Value

variable {room : Nat}

theorem isDouble_of_held {x : Binary64} (held : Held room (.float x)) : Binary64.IsDouble x.ticks := by
  obtain ⟨m, value⟩ := numeral_of_held held rfl
  unfold Numeral.value? at value
  cases integer : m.integer? with
  | some i => simp [integer] at value
  | none =>
    rw [integer] at value
    obtain ⟨ticks, read, same⟩ := Option.map_eq_some_iff.1 value
    obtain rfl := Value.float.inj same
    exact isDouble_ticks? read

mutual

theorem isDouble_of_mem : (value : Value) → ∀ {room : Nat}, Held room value → ∀ x ∈ value.doubles,
    Binary64.IsDouble x.ticks
  | .null, _, _ => nofun
  | .bool _, _, _ => nofun
  | .int _, _, _ => nofun
  | .string _, _, _ => nofun
  | .float x, _, held => by
    intro y member
    rw [List.mem_singleton.1 member]
    exact isDouble_of_held held
  | .array items, _, held => by
    obtain ⟨less, rfl, each⟩ := held_of_array held
    exact isDouble_of_mem_items items each
  | .object members, _, held => by
    obtain ⟨less, rfl, -, each⟩ := held_of_object held
    exact isDouble_of_mem_members members each

theorem isDouble_of_mem_items : (items : List Value) → ∀ {room : Nat}, (∀ item ∈ items, Held room item) →
    ∀ x ∈ doublesOfItems items, Binary64.IsDouble x.ticks
  | [], _, _ => nofun
  | item :: rest, _, each => by
    intro x member
    rcases List.mem_append.1 member with here | later
    · exact isDouble_of_mem item (each item (List.mem_cons_self ..)) x here
    · exact isDouble_of_mem_items rest (fun other listed => each other (List.mem_cons_of_mem _ listed)) x later

theorem isDouble_of_mem_members : (members : List (String × Value)) → ∀ {room : Nat},
    (∀ member ∈ members, Held room member.2) → ∀ x ∈ doublesOfMembers members, Binary64.IsDouble x.ticks
  | [], _, _ => nofun
  | (name, value) :: rest, _, each => by
    intro x member
    rcases List.mem_append.1 member with here | later
    · exact isDouble_of_mem value (each (name, value) (List.mem_cons_self ..)) x here
    · exact isDouble_of_mem_members rest (fun other listed => each other (List.mem_cons_of_mem _ listed)) x later

end

end Value

end ClusterLifecycle.Json
