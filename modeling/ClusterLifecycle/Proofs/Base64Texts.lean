import ClusterLifecycle.Proofs.Utf8Pieces
import ClusterLifecycle.Text.Bytes
import Mathlib.Data.List.Basic
import Mathlib.Tactic.SplitIfs

/-!
Reading base64. Only one text stands for some bytes: it comes in groups of four characters, equals signs
fill up the last group and nothing else, and the bits that are left over in it are not set.
-/

namespace ClusterLifecycle.Text.Base64

open Utf8 (Bytes ofNat_eq)

def bits? (c : Char) : Option Nat :=
  if alphabet.idxOf c < 64 then some (alphabet.idxOf c) else none

/-- The number that characters stand for after the one that has been read so far. -/
def number? : Nat → List Char → Option Nat
  | n, [] => some n
  | n, c :: rest => do number? (n * 64 + (← bits? c)) rest

def last? (a b c : Char) : Option Bytes :=
  if c = '=' then do
    let n ← number? 0 [a, b]
    if n % 16 = 0 then some [UInt8.ofNat (n / 16)] else none
  else do
    let n ← number? 0 [a, b, c]
    if n % 4 = 0 then some [UInt8.ofNat (n / 1024), UInt8.ofNat (n / 4)] else none

/-- The bytes that a text in base64 stands for, if it is in the one form that is allowed. -/
def decode? : List Char → Option Bytes
  | [] => some []
  | a :: b :: c :: d :: rest =>
    if d = '=' then
      if rest = [] then last? a b c else none
    else do
      let n ← number? 0 [a, b, c, d]
      let later ← decode? rest
      some (UInt8.ofNat (n / 65536) :: UInt8.ofNat (n / 256) :: UInt8.ofNat n :: later)
  | _ => none

theorem bits?_symbol (n : Nat) : bits? (symbol n) = some (n % 64) := by
  have each : ∀ m < 64, bits? (alphabet.getD m '=') = some m := by decide +kernel
  exact each (n % 64) (Nat.mod_lt n (by decide))

theorem symbol_ne_fill (n : Nat) : symbol n ≠ '=' := by
  have each : ∀ m < 64, alphabet.getD m '=' ≠ '=' := by decide +kernel
  exact each (n % 64) (Nat.mod_lt n (by decide))

theorem symbol_congr {n m : Nat} (same : n % 64 = m % 64) : symbol n = symbol m := by
  rw [symbol, same, symbol]

theorem eq_symbol {c : Char} {bits : Nat} (read : bits? c = some bits) : c = symbol bits := by
  unfold bits? at read
  split_ifs at read with listed
  obtain rfl := Option.some.inj read
  have member : c ∈ alphabet := List.idxOf_lt_length_iff.1 listed
  rw [symbol, Nat.mod_eq_of_lt listed, List.getD_eq_getElem?_getD, List.getElem?_idxOf member, Option.getD_some]

theorem exists_symbol {symbols : List Char} {sofar n : Nat} (read : number? sofar symbols = some n) :
    ∀ c ∈ symbols, ∃ m, c = symbol m := by
  induction symbols generalizing sofar with
  | nil => simp
  | cons d symbols ih =>
    obtain ⟨bits, found, rest⟩ := Option.bind_eq_some_iff.1 read
    exact List.forall_mem_cons.2 ⟨⟨bits, eq_symbol found⟩, ih rest⟩

theorem number?_symbols (numbers : List Nat) (sofar : Nat) :
    number? sofar (numbers.map symbol) = some (numbers.foldl (fun n m => n * 64 + m % 64) sofar) := by
  induction numbers generalizing sofar with
  | nil => rfl
  | cons m numbers ih =>
    rw [List.map_cons, number?, bits?_symbol, List.foldl_cons, ← ih]
    rfl

section Groups

variable {a b c d : Char} {n : Nat} {rest : List Char} {later : Bytes}

theorem last?_pair (found : number? 0 [a, b] = some n) (spare : n % 16 = 0) :
    last? a b '=' = some [UInt8.ofNat (n / 16)] := by
  rw [last?, if_pos rfl, found]
  exact if_pos spare

theorem last?_triple (single : c ≠ '=') (found : number? 0 [a, b, c] = some n) (spare : n % 4 = 0) :
    last? a b c = some [UInt8.ofNat (n / 1024), UInt8.ofNat (n / 4)] := by
  rw [last?, if_neg single, found]
  exact if_pos spare

theorem decode?_last : decode? [a, b, c, '='] = last? a b c := by
  rw [decode?, if_pos rfl, if_pos rfl]

theorem decode?_full (full : d ≠ '=') (found : number? 0 [a, b, c, d] = some n) (others : decode? rest = some later) :
    decode? (a :: b :: c :: d :: rest) =
      some (UInt8.ofNat (n / 65536) :: UInt8.ofNat (n / 256) :: UInt8.ofNat n :: later) := by
  rw [decode?, if_neg full, found, others]
  rfl

end Groups

theorem number?_push {front : List Char} {sofar m n : Nat} (found : number? sofar front = some m)
    (leading : n / 64 = m) : number? sofar (front ++ [symbol n]) = some n := by
  induction front generalizing sofar with
  | nil =>
    obtain rfl := Option.some.inj found
    rw [List.nil_append, number?, bits?_symbol]
    exact congrArg some (by omega)
  | cons c front ih =>
    obtain ⟨bits, read, rest⟩ := Option.bind_eq_some_iff.1 found
    rw [List.cons_append, number?, read]
    exact ih rest

/-! A number of three bytes is read back from its symbols, and so are its first twelve or eighteen bits. -/

theorem number?_two {n : Nat} (small : n < 16777216) :
    number? 0 [symbol (n / 262144), symbol (n / 4096)] = some (n / 4096) := by
  have first : number? 0 [symbol (n / 262144)] = some (n / 262144) :=
    @number?_push [] 0 0 _ rfl (by omega)
  exact number?_push first (by omega)

theorem number?_three {n : Nat} (small : n < 16777216) :
    number? 0 [symbol (n / 262144), symbol (n / 4096), symbol (n / 64)] = some (n / 64) :=
  number?_push (number?_two small) (by omega)

theorem number?_four {n : Nat} (small : n < 16777216) :
    number? 0 [symbol (n / 262144), symbol (n / 4096), symbol (n / 64), symbol n] = some n :=
  number?_push (number?_three small) (by omega)

theorem decode?_encode (bytes : Bytes) : decode? (encode bytes) = some bytes := by
  induction bytes using encode.induct with
  | case1 => rfl
  | case2 a =>
    have small := a.toNat_lt
    rw [encode, decode?_last, last?_pair (number?_two (by omega)) (by omega), ofNat_eq a (by omega)]
  | case3 a b =>
    have small := a.toNat_lt
    have small' := b.toNat_lt
    rw [encode, decode?_last, last?_triple (symbol_ne_fill _) (number?_three (by omega)) (by omega),
      ofNat_eq a (by omega), ofNat_eq b (by omega)]
  | case4 a b c rest ih =>
    have small := a.toNat_lt
    have small' := b.toNat_lt
    have small'' := c.toNat_lt
    rw [encode, decode?_full (symbol_ne_fill _) (number?_four (by omega)) ih, ofNat_eq a (by omega),
      ofNat_eq b (by omega), ofNat_eq c (by omega)]

theorem encode_last {a b c : Char} {bytes : Bytes} (read : last? a b c = some bytes) :
    encode bytes = [a, b, c, '='] := by
  unfold last? at read
  split_ifs at read with single
  · obtain ⟨n, found, whole⟩ := Option.bind_eq_some_iff.1 read
    obtain ⟨x, rfl⟩ := exists_symbol found a (by simp)
    obtain ⟨y, rfl⟩ := exists_symbol found b (by simp)
    have number := found.symm.trans (number?_symbols [x, y] 0)
    simp only [List.foldl_cons, List.foldl_nil, Option.some.injEq] at number
    split_ifs at whole with spare
    obtain rfl := Option.some.inj whole
    rw [encode, UInt8.toNat_ofNat', single]
    simp only [List.cons.injEq, and_true]
    exact ⟨symbol_congr (by omega), symbol_congr (by omega)⟩
  · obtain ⟨n, found, whole⟩ := Option.bind_eq_some_iff.1 read
    obtain ⟨x, rfl⟩ := exists_symbol found a (by simp)
    obtain ⟨y, rfl⟩ := exists_symbol found b (by simp)
    obtain ⟨z, rfl⟩ := exists_symbol found c (by simp)
    have number := found.symm.trans (number?_symbols [x, y, z] 0)
    simp only [List.foldl_cons, List.foldl_nil, Option.some.injEq] at number
    split_ifs at whole with spare
    obtain rfl := Option.some.inj whole
    rw [encode, UInt8.toNat_ofNat', UInt8.toNat_ofNat']
    simp only [List.cons.injEq, and_true]
    exact ⟨symbol_congr (by omega), symbol_congr (by omega), symbol_congr (by omega)⟩

/-- Bytes are read from the one text that is written for them. -/
theorem decode?_eq_some_iff {text : List Char} {bytes : Bytes} : decode? text = some bytes ↔ encode bytes = text := by
  constructor
  · intro read
    fun_induction decode? text generalizing bytes with
    | case1 =>
      obtain rfl := Option.some.inj read
      rfl
    | case2 a b c => exact encode_last read
    | case3 => cases read
    | case4 a b c d rest full ih =>
      obtain ⟨n, found, more⟩ := Option.bind_eq_some_iff.1 read
      obtain ⟨later, others, whole⟩ := Option.bind_eq_some_iff.1 more
      obtain rfl := Option.some.inj whole
      obtain ⟨x, rfl⟩ := exists_symbol found a (by simp)
      obtain ⟨y, rfl⟩ := exists_symbol found b (by simp)
      obtain ⟨z, rfl⟩ := exists_symbol found c (by simp)
      obtain ⟨w, rfl⟩ := exists_symbol found d (by simp)
      have number := found.symm.trans (number?_symbols [x, y, z, w] 0)
      simp only [List.foldl_cons, List.foldl_nil, Option.some.injEq] at number
      rw [encode, ih others, UInt8.toNat_ofNat', UInt8.toNat_ofNat', UInt8.toNat_ofNat']
      simp only [List.cons.injEq, and_true]
      exact ⟨symbol_congr (by omega), symbol_congr (by omega), symbol_congr (by omega), symbol_congr (by omega)⟩
    | case5 => cases read
  · rintro rfl
    exact decode?_encode bytes

end ClusterLifecycle.Text.Base64
