import ClusterLifecycle.Text.Digits
import ClusterLifecycle.Uuid

/-!
Numbers and identifiers read back from the digits that write them. An identifier is therefore known
by its text.
-/

namespace ClusterLifecycle

namespace Text

variable {base : Nat}

theorem valueOf_nil (digit? : Char → Option Nat) : valueOf base digit? [] = some 0 := rfl

theorem valueOf_append {digit? : Char → Option Nat} (digits : List Char) {c : Char} {d total : Nat}
    (before : valueOf base digit? digits = some total) (digit : digit? c = some d) (small : d < base) :
    valueOf base digit? (digits ++ [c]) = some (total * base + d) := by
  unfold valueOf at before ⊢
  rw [List.foldl_append, before]
  simp [digit, small]

theorem hexDigit?_digitChar : ∀ n < 10, hexDigit? (Nat.digitChar n) = some n := by decide

theorem valueOf_decimal (n : Nat) : valueOf 10 hexDigit? (decimal n) = some n := by
  induction n using Nat.strongRecOn with
  | ind n ih =>
    unfold decimal at ih ⊢
    by_cases small : n < 10
    · rw [Nat.toDigits_of_lt_base small]
      have last := valueOf_append [] (valueOf_nil hexDigit?) (hexDigit?_digitChar n small) small
      simpa using last
    · have digit : n % 10 < 10 := Nat.mod_lt _ (by decide)
      rw [Nat.toDigits_of_base_le (by decide) (by omega)]
      have last := valueOf_append _ (ih (n / 10) (by omega)) (hexDigit?_digitChar (n % 10) digit) digit
      rw [last]
      congr 1
      omega

theorem natural?_decimal (n : Nat) : natural? 10 (decimal n) = some n := by
  unfold natural?
  rw [if_neg, valueOf_decimal]
  simp [decimal]

theorem decimalStep (total : Nat) (c : Char) :
    ((hexDigit? c).bind fun d => if d < 10 then some (total * 10 + d) else none) =
      if isDecimal c then some (10 * total + (c.toNat - '0'.toNat)) else none := by
  unfold hexDigit? isDecimal decimalDigit?
  by_cases digit : '0' ≤ c ∧ c ≤ '9'
  · have small : c.toNat - '0'.toNat < 10 := by
      have last : c.toNat ≤ '9'.toNat := digit.2
      have : '9'.toNat = 57 ∧ '0'.toNat = 48 := by decide
      omega
    rw [if_pos digit, if_pos digit, Option.bind_some, if_pos small, Option.isSome_some, if_pos rfl, Nat.mul_comm]
  · rw [if_neg digit, if_neg digit]
    split
    · simp
    · split <;> simp

theorem natural?_ten_eq_some_iff {digits : List Char} {n : Nat} :
    natural? 10 digits = some n ↔
      digits ≠ [] ∧ (∀ c ∈ digits, isDecimal c = true) ∧ Nat.ofDigitChars 10 digits 0 = n := by
  have from_start : ∀ start : Option Nat, digits.foldl (fun sum c => do
      let total ← sum
      let d ← hexDigit? c
      if d < 10 then some (total * 10 + d) else none) start = some n ↔
      (∀ c ∈ digits, isDecimal c = true) ∧ ∃ total, start = some total ∧ Nat.ofDigitChars 10 digits total = n := by
    induction digits with
    | nil => simp
    | cons c digits ih =>
      intro start
      rw [List.foldl_cons, ih, List.forall_mem_cons]
      cases start with
      | none => simp
      | some total =>
        simp only [Option.bind_eq_bind, Option.bind_some, decimalStep, Nat.ofDigitChars_cons]
        by_cases decimal : isDecimal c = true
        · simp [decimal]
        · simp [decimal]
  unfold natural? valueOf
  cases digits with
  | nil => simp
  | cons c digits =>
    simp only [List.isEmpty_cons, Bool.false_eq_true, if_false]
    rw [from_start]
    simp

end Text

namespace Uuid

open Text

theorem length_fixedHex (width n : Nat) : (fixedHex width n).length = width := by
  induction width generalizing n with
  | zero => rfl
  | succ width ih => rw [fixedHex, List.length_append, ih, List.length_singleton]

theorem valueOf_fixedHex (width n : Nat) :
    valueOf 16 hexDigit? (fixedHex width n) = some (n % Nat.pow 16 width) := by
  induction width generalizing n with
  | zero =>
    rw [Nat.pow_eq, Nat.pow_zero, Nat.mod_one]
    rfl
  | succ width ih =>
    have digit : n % 16 < 16 := Nat.mod_lt _ (by decide)
    rw [fixedHex, valueOf_append _ (ih (n / 16)) (hexDigit?_hexDigit _ digit) digit]
    congr 1
    rw [Nat.pow_eq, Nat.pow_eq, Nat.pow_succ', Nat.mod_mul, Nat.add_comm, Nat.mul_comm]

theorem length_digits (uuid : Uuid) : uuid.digits.length = 32 :=
  length_fixedHex 32 _

theorem ofDigits?_digits (uuid : Uuid) : ofDigits? uuid.digits = some uuid := by
  have bound : uuid.value.toNat < Nat.pow 16 32 := uuid.value.isLt
  have value : natural? 16 uuid.digits = some uuid.value.toNat := by
    unfold natural?
    rw [if_neg (by simpa using List.ne_nil_of_length_pos (by rw [length_digits]; decide)), digits,
      valueOf_fixedHex, Nat.mod_eq_of_lt bound]
  rw [ofDigits?, if_pos (length_digits uuid), value, Option.map_some, BitVec.ofNat_toNat,
    BitVec.setWidth_eq]

theorem length_hyphenate {digits : List Char} (whole : digits.length = 32) :
    (hyphenate digits).length = 36 := by
  simp [hyphenate, whole]

theorem ungrouped?_groups {a b c d e : List Char} (first : a.length = 8) (second : b.length = 4)
    (third : c.length = 4) (fourth : d.length = 4) (last : e.length = 12) :
    ungrouped? (a ++ '-' :: b ++ '-' :: c ++ '-' :: d ++ '-' :: e) = some (a ++ b ++ c ++ d ++ e) := by
  unfold ungrouped?
  rw [if_pos]
  · simp (disch := omega) [List.drop_append, List.drop_of_length_le, first, second, third, fourth]
  · simp [first, second, third, fourth, last]

theorem ungrouped?_hyphenate {digits : List Char} (whole : digits.length = 32) :
    ungrouped? (hyphenate digits) = some digits := by
  have groups := ungrouped?_groups (a := digits.take 8) (b := (digits.drop 8).take 4)
    (c := (digits.drop 12).take 4) (d := (digits.drop 16).take 4) (e := digits.drop 20)
    (by simp [whole]) (by simp [whole]) (by simp [whole]) (by simp [whole]) (by simp [whole])
  rw [hyphenate, groups]
  congr 1
  have joined : ∀ m n, (digits.drop m).take n ++ digits.drop (m + n) = digits.drop m := by
    intro m n
    rw [← List.drop_drop, List.take_append_drop]
  rw [List.append_assoc, joined 16 4, List.append_assoc, joined 12 4, List.append_assoc, joined 8 4,
    List.take_append_drop]

theorem ofText?_of_length {text : List Char} (length : text.length = 36) :
    ofText? text = ofHyphenated? text := by
  rw [ofText?, if_neg (by omega), if_neg (by omega), if_neg (by omega)]

theorem ofText?_toText (uuid : Uuid) : ofText? uuid.toText = some uuid := by
  rw [toText, ofText?_of_length (length_hyphenate (length_digits uuid)), ofHyphenated?,
    ungrouped?_hyphenate (length_digits uuid), Option.bind_eq_bind, Option.bind_some, ofDigits?_digits]

theorem toList_toString (uuid : Uuid) : (toString uuid).toList = uuid.toText :=
  String.toList_ofList

theorem ofString?_toString (uuid : Uuid) : ofString? (toString uuid) = some uuid := by
  rw [ofString?, toList_toString, ofText?_toText]

theorem toText_injective {uuid other : Uuid} (same : uuid.toText = other.toText) : uuid = other := by
  have read := ofText?_toText uuid
  rw [same, ofText?_toText] at read
  exact (Option.some.inj read).symm

end Uuid

end ClusterLifecycle
