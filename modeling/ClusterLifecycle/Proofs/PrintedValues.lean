import ClusterLifecycle.Proofs.JsonGrammar
import ClusterLifecycle.Proofs.JsonSameness
import ClusterLifecycle.Proofs.ShortestDecimals
import Mathlib.Tactic.Ring

/-!
What is read where data has been printed. Integers, texts and all that is made of them come back as they
were. A double comes back as whatever its decimal is read as.
-/

namespace ClusterLifecycle

open Text

namespace Json

/-! ### Numbers written in digits -/

theorem foldl_digits (digits : List Nat) (start : Nat) :
    digits.foldl (fun sum d => sum * 10 + d) start =
      start * 10 ^ digits.length + digits.foldl (fun sum d => sum * 10 + d) 0 := by
  induction digits generalizing start with
  | nil => simp
  | cons d rest ih =>
    rw [List.foldl_cons, List.foldl_cons, ih, ih (0 * 10 + d), List.length_cons, pow_succ]
    ring

theorem digitValues_append (front back : List Char) :
    digitValues (front ++ back) = digitValues front ++ digitValues back :=
  List.filterMap_append

theorem length_digitValues {digits : List Char} (decimal : ∀ c ∈ digits, isDecimal c = true) :
    (digitValues digits).length = digits.length := by
  induction digits with
  | nil => rfl
  | cons c rest ih =>
    obtain ⟨d, digit⟩ := Option.isSome_iff_exists.1 (decimal c (List.mem_cons_self ..))
    rw [digitValues, List.filterMap_cons_some digit, List.length_cons, List.length_cons, ← digitValues,
      ih fun other member => decimal other (List.mem_cons_of_mem c member)]

theorem numberOf_append (front : List Char) {back : List Char} (decimal : ∀ c ∈ back, isDecimal c = true) :
    numberOf (front ++ back) = numberOf front * 10 ^ back.length + numberOf back := by
  rw [numberOf, digitValues_append, List.foldl_append, foldl_digits, length_digitValues decimal]
  rfl

theorem numberOf_digit : ∀ d < 10, numberOf [Nat.digitChar d] = d := by decide

theorem numberOf_decimal (n : Nat) : numberOf (decimal n) = n := by
  induction n using Nat.strongRecOn with
  | ind n ih =>
    unfold decimal at ih ⊢
    by_cases small : n < 10
    · rw [Nat.toDigits_of_lt_base small]
      exact numberOf_digit n small
    · have digit : n % 10 < 10 := Nat.mod_lt _ (by decide)
      have last : ∀ c ∈ [Nat.digitChar (n % 10)], isDecimal c = true := by
        intro c member
        have single : decimal (n % 10) = [Nat.digitChar (n % 10)] := Nat.toDigits_of_lt_base digit
        exact isDecimal_decimal (single ▸ member)
      rw [Nat.toDigits_of_base_le (by decide) (by omega), numberOf_append _ last, numberOf_digit _ digit,
        ih (n / 10) (by omega), List.length_singleton, pow_one]
      omega

def InWord (n : Int) : Prop :=
  -(2 ^ 63) ≤ n ∧ n < 2 ^ 64

theorem inWord_of_integer? {numeral : Numeral} {n : Int} (found : numeral.integer? = some n) : InWord n := by
  unfold Numeral.integer? at found
  dsimp only at found
  have half : UInt64.size / 2 = 2 ^ 63 := by decide
  have whole : maxUnsigned = 2 ^ 64 - 1 := by decide
  rw [half, whole] at found
  unfold InWord
  split_ifs at found with plain below inside inside
  all_goals
    obtain rfl := Option.some.inj found
    omega

theorem value?_integer {n : Int} (inWord : InWord n) :
    (⟨n < 0, decimal n.natAbs, [], none⟩ : Numeral).value? = some (.int n) := by
  have half : UInt64.size / 2 = 2 ^ 63 := by decide
  have whole : maxUnsigned = 2 ^ 64 - 1 := by decide
  unfold InWord at inWord
  have read : (⟨n < 0, decimal n.natAbs, [], none⟩ : Numeral).integer? = some n := by
    unfold Numeral.integer?
    simp only [List.isEmpty_nil, Option.isNone_none, and_self, if_true, numberOf_decimal, decide_eq_true_eq,
      half, whole]
    by_cases below : n < 0
    · have same : -(n.natAbs : Int) = n := by omega
      rw [if_pos below, if_pos (by omega), same]
    · have same : (n.natAbs : Int) = n := by omega
      rw [if_neg below, if_pos (by omega), same]
  rw [Numeral.value?, read]

/-! ### How doubles are laid out -/

/-- The numerals that a decimal can be laid out as, with the place of its point. -/
inductive Layout (negative : Bool) (d : Binary64.Decimal) : Numeral → Prop where
  | whole (zeros : Nat) (exponent : d.exponent = zeros) (short : (decimal d.digits).length + zeros ≤ 16) :
    Layout negative d ⟨negative, decimal d.digits ++ Value.zeros zeros, ['0'], none⟩
  | pointed (point : Nat) (front : 0 < point) (back : point < (decimal d.digits).length)
    (exponent : d.exponent = point - (decimal d.digits).length) :
    Layout negative d ⟨negative, (decimal d.digits).take point, (decimal d.digits).drop point, none⟩
  | small (zeros : Nat) (few : zeros < 5) (exponent : d.exponent = -(zeros + (decimal d.digits).length)) :
    Layout negative d ⟨negative, ['0'], Value.zeros zeros ++ decimal d.digits, none⟩
  | scientific (power : Int) (exponent : d.exponent = power + 1 - (decimal d.digits).length)
    (far : power < -5 ∨ 16 ≤ power) :
    Layout negative d ⟨negative, (decimal d.digits).take 1, (decimal d.digits).drop 1,
      some (power < 0, decimal power.natAbs)⟩

theorem layout_numeralOf {x : Binary64} (nonzero : x.ticks ≠ 0) :
    Layout x.negative (Binary64.shortest x.ticks) (Value.numeralOf x) := by
  unfold Value.numeralOf
  rw [if_neg nonzero]
  generalize Binary64.shortest x.ticks = d
  dsimp only
  split_ifs with whole pointed small
  · have exponent : d.exponent = (d.exponent.toNat : Int) := (Int.toNat_of_nonneg whole.1).symm
    exact .whole d.exponent.toNat exponent (by omega)
  · exact .pointed _ (by omega) (by omega) (by omega)
  · exact .small _ (by omega) (by omega)
  · exact .scientific _ (by omega) (by omega)

section Layout

variable {negative : Bool} {d : Binary64.Decimal} {n : Numeral}

theorem isDecimal_zeros {k : Nat} {c : Char} (member : c ∈ Value.zeros k) : isDecimal c = true := by
  rw [List.eq_of_mem_replicate member]
  decide

theorem isDecimal_zero {c : Char} (member : c ∈ ['0']) : isDecimal c = true :=
  @isDecimal_zeros 1 c member

theorem Layout.grammatical (layout : Layout negative d n) (sound : 0 < d.digits ∨ d = ⟨0, 17⟩) :
    n.Grammatical := by
  have digits : ∀ c ∈ decimal d.digits, isDecimal c = true := fun c => isDecimal_decimal
  have some : decimal d.digits ≠ [] := Nat.toDigits_ne_nil
  cases layout with
  | whole zeros exponent short =>
    have positive : 0 < d.digits := by
      rcases sound with positive | rfl
      · exact positive
      · have room : 1 + zeros ≤ 16 := short
        exact absurd exponent (by dsimp only; omega)
    have front := head?_decimal positive
    constructor
    case whole => exact .inr ⟨by rw [List.head?_append_of_ne_nil _ some]; exact front, by simp [some]⟩
    case wholeDigits =>
      intro c member
      rcases List.mem_append.1 member with digit | zero
      · exact digits c digit
      · exact isDecimal_zeros zero
    case fractionDigits => exact fun c => isDecimal_zero
    case exponent => exact nofun
  | pointed point front back exponent =>
    have positive : 0 < d.digits := by
      rcases sound with positive | rfl
      · exact positive
      · have single : point < 1 := back
        omega
    constructor
    case whole =>
      refine .inr ⟨?_, by simp [front.ne', some]⟩
      rw [List.head?_take, if_neg front.ne']
      exact head?_decimal positive
    case wholeDigits => exact fun c member => digits c (List.mem_of_mem_take member)
    case fractionDigits => exact fun c member => digits c (List.mem_of_mem_drop member)
    case exponent => exact nofun
  | small zeros few exponent =>
    constructor
    case whole => exact .inl rfl
    case wholeDigits => exact fun c => isDecimal_zero
    case fractionDigits =>
      intro c member
      rcases List.mem_append.1 member with zero | digit
      · exact isDecimal_zeros zero
      · exact digits c digit
    case exponent => exact nofun
  | scientific power exponent far =>
    constructor
    case whole =>
      rcases sound with positive | rfl
      · refine .inr ⟨?_, by simp [some]⟩
        rw [List.head?_take, if_neg Nat.one_ne_zero]
        exact head?_decimal positive
      · exact .inl rfl
    case wholeDigits => exact fun c member => digits c (List.mem_of_mem_take member)
    case fractionDigits => exact fun c member => digits c (List.mem_of_mem_drop member)
    case exponent =>
      intro sign shown same
      obtain ⟨-, rfl⟩ := Prod.mk.inj (Option.some.inj same)
      exact ⟨Nat.toDigits_ne_nil, fun c => isDecimal_decimal⟩

theorem Layout.integer?_eq_none (layout : Layout negative d n) : n.integer? = none := by
  have some : decimal d.digits ≠ [] := Nat.toDigits_ne_nil
  cases layout with
  | whole zeros exponent short => simp [Numeral.integer?]
  | pointed point front back exponent => simp [Numeral.integer?, Nat.not_le.2 back]
  | small zeros few exponent => simp [Numeral.integer?, some]
  | scientific power exponent far => simp [Numeral.integer?]

theorem Layout.negative_eq (layout : Layout negative d n) : n.negative = negative := by
  cases layout <;> rfl

end Layout

theorem grammatical_numeralOf (x : Binary64) : (Value.numeralOf x).Grammatical := by
  by_cases zero : x.ticks = 0
  · rw [Value.numeralOf, if_pos zero]
    exact ⟨.inl rfl, fun c => isDecimal_zero, fun c => isDecimal_zero, nofun⟩
  · exact (layout_numeralOf zero).grammatical (Binary64.digits_shortest x.ticks)

/-- What a double is read as where it has been printed, if it is not too large by then. -/
def rereadDouble? (x : Binary64) : Option Binary64 :=
  (Value.numeralOf x).ticks?.map fun ticks => ⟨x.negative, ticks⟩

theorem value?_numeralOf (x : Binary64) : (Value.numeralOf x).value? = (rereadDouble? x).map .float := by
  rw [rereadDouble?, Option.map_map]
  by_cases zero : x.ticks = 0
  · rw [Value.numeralOf, if_pos zero]
    rfl
  · have layout := layout_numeralOf zero
    rw [Numeral.value?, layout.integer?_eq_none, layout.negative_eq]
    rfl

theorem exists_of_forall₂ {α β : Type} {R : α → β → Prop} {left : List α} {right : List β}
    (each : List.Forall₂ R left right) {b : β} (member : b ∈ right) : ∃ a ∈ left, R a b := by
  induction each with
  | nil => cases member
  | cons here _ ih =>
    rcases List.mem_cons.1 member with rfl | later
    · exact ⟨_, List.mem_cons_self .., here⟩
    · obtain ⟨a, listed, related⟩ := ih later
      exact ⟨a, List.mem_cons_of_mem _ listed, related⟩

namespace Value

mutual

def reread? : Value → Option Value
  | .null => some .null
  | .bool b => some (.bool b)
  | .int n => some (.int n)
  | .float x => (rereadDouble? x).map .float
  | .string s => some (.string s)
  | .array items => (rereadItems? items).map .array
  | .object members => (rereadMembers? members).map .object

def rereadItems? : List Value → Option (List Value)
  | [] => some []
  | item :: rest => do
    let first ← reread? item
    let more ← rereadItems? rest
    some (first :: more)

def rereadMembers? : List (String × Value) → Option (List (String × Value))
  | [] => some []
  | (name, value) :: rest => do
    let first ← reread? value
    let more ← rereadMembers? rest
    some ((name, first) :: more)

end

mutual

def doubles : Value → List Binary64
  | .float x => [x]
  | .array items => doublesOfItems items
  | .object members => doublesOfMembers members
  | _ => []

def doublesOfItems : List Value → List Binary64
  | [] => []
  | item :: rest => doubles item ++ doublesOfItems rest

def doublesOfMembers : List (String × Value) → List Binary64
  | [] => []
  | (_, value) :: rest => doubles value ++ doublesOfMembers rest

end

def Held (room : Nat) (value : Value) : Prop :=
  ∃ document, ofDocument? room document = some value

variable {room : Nat}

theorem numeral_of_held {value : Value} (held : Held room value) (number : value.kind = (int 0).kind) :
    ∃ m : Numeral, m.value? = some value := by
  obtain ⟨document, found⟩ := held
  have kind := (kind_of_ofDocument? found).symm.trans number
  cases document with
  | number m => exact ⟨m, found⟩
  | _ => cases kind

theorem inWord_of_held {n : Int} (held : Held room (.int n)) : InWord n := by
  obtain ⟨m, value⟩ := numeral_of_held held rfl
  unfold Numeral.value? at value
  cases integer : m.integer? with
  | none => simp [integer] at value
  | some i =>
    obtain rfl : i = n := by simpa [integer] using value
    exact inWord_of_integer? integer

theorem held_of_array {items : List Value} (held : Held room (.array items)) :
    ∃ less, room = less + 1 ∧ ∀ item ∈ items, Held less item := by
  obtain ⟨document, found⟩ := held
  have kind := kind_of_ofDocument? found
  cases document with
  | array documents =>
    obtain ⟨less, values, rfl, same, each⟩ := ofDocument?_array found
    obtain rfl := Value.array.inj same
    refine ⟨less, rfl, ?_⟩
    intro item member
    obtain ⟨document, -, read⟩ := exists_of_forall₂ each member
    exact ⟨document, read⟩
  | _ => cases kind

theorem held_of_object {members : List (String × Value)} (held : Held room (.object members)) :
    ∃ less, room = less + 1 ∧ members.Pairwise (·.1 < ·.1) ∧ ∀ member ∈ members, Held less member.2 := by
  obtain ⟨document, found⟩ := held
  have kind := kind_of_ofDocument? found
  cases document with
  | object documents =>
    obtain ⟨less, entries, rfl, same, each⟩ := ofDocument?_object found
    obtain rfl := Value.object.inj same
    refine ⟨less, rfl, pairwise_gathered entries, ?_⟩
    intro member listed
    obtain ⟨document, -, read⟩ := exists_of_forall₂ each (mem_gathered listed)
    exact ⟨document.2, read.2⟩
  | _ => cases kind

theorem map_fst_rereadMembers? {members found : List (String × Value)}
    (read : rereadMembers? members = some found) : found.map Prod.fst = members.map Prod.fst := by
  induction members generalizing found with
  | nil =>
    obtain rfl := Option.some.inj read
    rfl
  | cons member rest ih =>
    obtain ⟨name, value⟩ := member
    simp only [rereadMembers?, Option.bind_eq_bind, Option.bind_eq_some_iff, Option.some.injEq] at read
    obtain ⟨first, -, more, later, rfl⟩ := read
    rw [List.map_cons, List.map_cons, ih later]

-- by recursion on the value; that a document has held it is what keeps integers small, members sorted
-- and the nesting within its limit
mutual

theorem ofDocument?_toDocument : (value : Value) → ∀ {room : Nat}, Held room value →
    ofDocument? room value.toDocument = value.reread?
  | .null, _, _ => rfl
  | .bool _, _, _ => rfl
  | .int n, _, held => value?_integer (inWord_of_held held)
  | .float x, _, _ => value?_numeralOf x
  | .string _, _, _ => rfl
  | .array items, _, held => by
    obtain ⟨less, rfl, each⟩ := held_of_array held
    rw [toDocument, ofDocument?, if_neg (Nat.succ_ne_zero less), reread?, Nat.add_sub_cancel,
      ofItems?_toItems items each]
  | .object members, _, held => by
    obtain ⟨less, rfl, sorted, each⟩ := held_of_object held
    rw [toDocument, ofDocument?, if_neg (Nat.succ_ne_zero less), reread?, Nat.add_sub_cancel,
      ofMembers?_toMembers members each]
    refine Option.map_congr fun found read => ?_
    have names := map_fst_rereadMembers? read
    have still : found.Pairwise (·.1 < ·.1) := by
      rw [← List.pairwise_map] at sorted ⊢
      rwa [names]
    rw [sorted_eq_gathered, gathered_of_pairwise still]

theorem ofItems?_toItems : (items : List Value) → ∀ {room : Nat}, (∀ item ∈ items, Held room item) →
    ofItems? room (toItems items) = rereadItems? items
  | [], _, _ => rfl
  | item :: rest, _, each => by
    rw [toItems, ofItems?, rereadItems?, ofDocument?_toDocument item (each item (List.mem_cons_self ..)),
      ofItems?_toItems rest fun other member => each other (List.mem_cons_of_mem _ member)]

theorem ofMembers?_toMembers : (members : List (String × Value)) → ∀ {room : Nat},
    (∀ member ∈ members, Held room member.2) → ofMembers? room (toMembers members) = rereadMembers? members
  | [], _, _ => rfl
  | (name, value) :: rest, _, each => by
    rw [toMembers, ofMembers?, rereadMembers?, ofDocument?_toDocument value (each (name, value) (List.mem_cons_self ..)),
      ofMembers?_toMembers rest fun other member => each other (List.mem_cons_of_mem _ member)]
    rfl

end

mutual

theorem sound_toDocument : (value : Value) → value.toDocument.Sound
  | .null => trivial
  | .bool _ => trivial
  | .int n => by
    have grammatical := grammatical_decimal n.natAbs
    exact ⟨grammatical.whole, grammatical.wholeDigits, grammatical.fractionDigits, grammatical.exponent⟩
  | .float x => grammatical_numeralOf x
  | .string _ => rfl
  | .array items => sound_toItems items
  | .object members => sound_toMembers members

theorem sound_toItems : (items : List Value) → SoundItems (toItems items)
  | [] => trivial
  | item :: rest => ⟨sound_toDocument item, sound_toItems rest⟩

theorem sound_toMembers : (members : List (String × Value)) → SoundMembers (toMembers members)
  | [] => trivial
  | (_, value) :: rest => ⟨rfl, sound_toDocument value, sound_toMembers rest⟩

end

theorem ofText?_print {value : Value} (held : Held nestingLimit value) : ofText? value.print = value.reread? := by
  rw [ofText?, print, String.toList_ofList, ofText?_compact (sound_toDocument value)]
  exact ofDocument?_toDocument value held

/-! ### What comes back as it was -/

def ReadsBack (x : Binary64) : Prop :=
  rereadDouble? x = some x

instance : DecidablePred ReadsBack := fun x => inferInstanceAs (Decidable (rereadDouble? x = some x))

theorem eq_of_rereadDouble? {x y : Binary64} (read : rereadDouble? x = some y) (alike : y.numEq x = true) : y = x := by
  obtain ⟨ticks, -, rfl⟩ := Option.map_eq_some_iff.1 read
  obtain ⟨same, -⟩ := Bool.and_eq_true_iff.1 alike
  obtain rfl : ticks = x.ticks := by simpa using same
  rfl

mutual

theorem same_self : (value : Value) → value.same value = true
  | .null => rfl
  | .bool b => by simp [same]
  | .int n => by simp [same]
  | .float x => by simp [same, Binary64.numEq]
  | .string s => by simp [same]
  | .array items => sameItems_self items
  | .object members => sameMembers_self members

theorem sameItems_self : (items : List Value) → sameItems items items = true
  | [] => rfl
  | item :: rest => by rw [sameItems, same_self item, sameItems_self rest]; rfl

theorem sameMembers_self : (members : List (String × Value)) → sameMembers members members = true
  | [] => rfl
  | (name, value) :: rest => by rw [sameMembers, same_self value, sameMembers_self rest]; simp

end

mutual

theorem eq_of_reread? : (value : Value) → ∀ {other : Value}, value.reread? = some other →
    other.same value = true → other = value
  | .null, _, read, _ => (Option.some.inj read).symm
  | .bool _, _, read, _ => (Option.some.inj read).symm
  | .int _, _, read, _ => (Option.some.inj read).symm
  | .string _, _, read, _ => (Option.some.inj read).symm
  | .float x, _, read, alike => by
    obtain ⟨y, here, rfl⟩ := Option.map_eq_some_iff.1 read
    rw [eq_of_rereadDouble? here alike]
  | .array items, _, read, alike => by
    obtain ⟨others, each, rfl⟩ := Option.map_eq_some_iff.1 read
    rw [eq_of_rereadItems? items each alike]
  | .object members, _, read, alike => by
    obtain ⟨others, each, rfl⟩ := Option.map_eq_some_iff.1 read
    rw [eq_of_rereadMembers? members each alike]

theorem eq_of_rereadItems? : (items : List Value) → ∀ {others : List Value}, rereadItems? items = some others →
    sameItems others items = true → others = items
  | [], _, read, _ => (Option.some.inj read).symm
  | item :: rest, others, read, alike => by
    simp only [rereadItems?, Option.bind_eq_bind, Option.bind_eq_some_iff, Option.some.injEq] at read
    obtain ⟨first, here, more, later, rfl⟩ := read
    obtain ⟨head, tail⟩ := Bool.and_eq_true_iff.1 alike
    rw [eq_of_reread? item here head, eq_of_rereadItems? rest later tail]

theorem eq_of_rereadMembers? : (members : List (String × Value)) → ∀ {others : List (String × Value)},
    rereadMembers? members = some others → sameMembers others members = true → others = members
  | [], _, read, _ => (Option.some.inj read).symm
  | (name, value) :: rest, others, read, alike => by
    simp only [rereadMembers?, Option.bind_eq_bind, Option.bind_eq_some_iff, Option.some.injEq] at read
    obtain ⟨first, here, more, later, rfl⟩ := read
    obtain ⟨both, tail⟩ := Bool.and_eq_true_iff.1 alike
    obtain ⟨-, head⟩ := Bool.and_eq_true_iff.1 both
    rw [eq_of_reread? value here head, eq_of_rereadMembers? rest later tail]

end

mutual

/-- Only doubles can change. -/
theorem reread?_eq_self_iff : (value : Value) → (value.reread? = some value ↔ ∀ x ∈ value.doubles, ReadsBack x)
  | .null => by simp [reread?, doubles]
  | .bool _ => by simp [reread?, doubles]
  | .int _ => by simp [reread?, doubles]
  | .string _ => by simp [reread?, doubles]
  | .float x => by simp [reread?, doubles, ReadsBack]
  | .array items => by
    rw [reread?, doubles, ← rereadItems?_eq_self_iff items]
    simp
  | .object members => by
    rw [reread?, doubles, ← rereadMembers?_eq_self_iff members]
    simp

theorem rereadItems?_eq_self_iff : (items : List Value) →
    (rereadItems? items = some items ↔ ∀ x ∈ doublesOfItems items, ReadsBack x)
  | [] => by simp [rereadItems?, doublesOfItems]
  | item :: rest => by
    simp only [doublesOfItems, List.forall_mem_append]
    rw [← reread?_eq_self_iff item, ← rereadItems?_eq_self_iff rest]
    simp [rereadItems?, Option.bind_eq_some_iff]

theorem rereadMembers?_eq_self_iff : (members : List (String × Value)) →
    (rereadMembers? members = some members ↔ ∀ x ∈ doublesOfMembers members, ReadsBack x)
  | [] => by simp [rereadMembers?, doublesOfMembers]
  | (name, value) :: rest => by
    simp only [doublesOfMembers, List.forall_mem_append]
    rw [← reread?_eq_self_iff value, ← rereadMembers?_eq_self_iff rest]
    simp [rereadMembers?, Option.bind_eq_some_iff]

end

theorem same_reread?_iff (value : Value) :
    (∃ other, value.reread? = some other ∧ other.same value = true) ↔ ∀ x ∈ value.doubles, ReadsBack x := by
  rw [← reread?_eq_self_iff]
  constructor
  · intro found
    obtain ⟨other, read, alike⟩ := found
    obtain rfl := eq_of_reread? value read alike
    exact read
  · exact fun read => ⟨value, read, same_self value⟩

end Value

end Json

end ClusterLifecycle
