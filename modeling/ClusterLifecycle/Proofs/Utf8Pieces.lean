import ClusterLifecycle.Text.Bytes
import Mathlib.Tactic.SplitIfs

/-!
What the decoder of UTF-8 makes of bytes. Bytes fall into encodings of characters and broken stretches, and
in a broken stretch no byte is ASCII. So bytes are decoded to the one text that they encode, and bytes that
encode no text still agree with the text they are read as in all that is ASCII.
-/

namespace ClusterLifecycle.Text.Utf8

def readFrom : Position → Bytes → List Piece
  | position, [] => finish position
  | position, b :: rest => (step position b).2 ++ readFrom (step position b).1 rest

theorem gathered_eq {gather : Position × List Piece → UInt8 → Position × List Piece}
    (gathers : ∀ position found b,
      gather (position, found) b = ((step position b).1, (step position b).2.reverse ++ found))
    (bytes : Bytes) (position : Position) (found : List Piece) :
    (bytes.foldl gather (position, found)).2.reverse ++ finish (bytes.foldl gather (position, found)).1 =
      found.reverse ++ readFrom position bytes := by
  induction bytes generalizing position found with
  | nil => rfl
  | cons b rest ih =>
    rw [List.foldl_cons, gathers, ih, readFrom, List.reverse_append, List.reverse_reverse, List.append_assoc]

theorem pieces_eq (bytes : Bytes) : pieces bytes = readFrom .between bytes :=
  gathered_eq (fun _ _ _ => rfl) bytes .between []

/-- What the first byte of a character brings about. Where a character has three bytes or four, the
bounds of the second one keep out what has a shorter form, surrogates, and what is no code. -/
inductive Opens (b : UInt8) : Position × List Piece → Prop where
  | ascii (small : b.toNat < 0x80) : Opens b (.between, [.char (Char.ofNat b.toNat)])
  | stray (apart : 0x80 ≤ b.toNat ∧ b.toNat < 0xC2 ∨ 0xF4 < b.toNat) : Opens b (.between, [.broken])
  | two (least : 0xC2 ≤ b.toNat) (most : b.toNat ≤ 0xDF) : Opens b (.inside 1 0x80 0xBF (b.toNat - 0xC0), [])
  | three {low high : UInt8} (least : 0xE0 ≤ b.toNat) (most : b.toNat ≤ 0xEF)
      (second : ∀ c : UInt8, low ≤ c ∧ c ≤ high ↔ 0x80 ≤ c.toNat ∧ c.toNat ≤ 0xBF ∧
        0x20 ≤ (b.toNat - 0xE0) * 64 + c.toNat % 64 ∧
        ((b.toNat - 0xE0) * 64 + c.toNat % 64 < 0x360 ∨ 0x380 ≤ (b.toNat - 0xE0) * 64 + c.toNat % 64)) :
      Opens b (.inside 2 low high (b.toNat - 0xE0), [])
  | four {low high : UInt8} (least : 0xF0 ≤ b.toNat) (most : b.toNat ≤ 0xF4)
      (second : ∀ c : UInt8, low ≤ c ∧ c ≤ high ↔ 0x80 ≤ c.toNat ∧ c.toNat ≤ 0xBF ∧
        0x10 ≤ (b.toNat - 0xF0) * 64 + c.toNat % 64 ∧ (b.toNat - 0xF0) * 64 + c.toNat % 64 < 0x110) :
      Opens b (.inside 3 low high (b.toNat - 0xF0), [])

theorem opens (b : UInt8) : Opens b (start b) := by
  have small := b.toNat_lt
  unfold start
  dsimp only
  split_ifs with ascii stray two e0 ed three f0 four f4
  · exact .ascii (by omega)
  · exact .stray (by omega)
  · exact .two (by omega) (by omega)
  · have bits : 0 = b.toNat - 0xE0 := by omega
    rw [bits]
    refine .three (by omega) (by omega) fun c => ?_
    simp only [UInt8.le_iff_toNat_le, UInt8.reduceToNat]
    omega
  · have bits : 0xD = b.toNat - 0xE0 := by omega
    rw [bits]
    refine .three (by omega) (by omega) fun c => ?_
    simp only [UInt8.le_iff_toNat_le, UInt8.reduceToNat]
    omega
  · refine .three (by omega) (by omega) fun c => ?_
    simp only [UInt8.le_iff_toNat_le, UInt8.reduceToNat]
    omega
  · have bits : 0 = b.toNat - 0xF0 := by omega
    rw [bits]
    refine .four (by omega) (by omega) fun c => ?_
    simp only [UInt8.le_iff_toNat_le, UInt8.reduceToNat]
    omega
  · refine .four (by omega) (by omega) fun c => ?_
    simp only [UInt8.le_iff_toNat_le, UInt8.reduceToNat]
    omega
  · have bits : 4 = b.toNat - 0xF0 := by omega
    rw [bits]
    refine .four (by omega) (by omega) fun c => ?_
    simp only [UInt8.le_iff_toNat_le, UInt8.reduceToNat]
    omega
  · exact .stray (by omega)

/-- The bytes that finish a character, given how many are owed, the bounds of the next one and the bits
gathered so far, and the code of that character. -/
inductive Finishes : Nat → UInt8 → UInt8 → Nat → Bytes → Nat → Prop where
  | last {low high : UInt8} {bits : Nat} (b : UInt8) (within : low ≤ b ∧ b ≤ high) :
      Finishes 1 low high bits [b] (bits * 64 + b.toNat % 64)
  | more {owed bits code : Nat} {low high : UInt8} {tail : Bytes} (b : UInt8) (within : low ≤ b ∧ b ≤ high)
      (rest : Finishes (owed + 1) 0x80 0xBF (bits * 64 + b.toNat % 64) tail code) :
      Finishes (owed + 2) low high bits (b :: tail) code

variable {owed bits code : Nat} {low high b : UInt8} {tail rest bytes : Bytes}

/-- A byte that cannot go on with a character is looked at again on its own. -/
theorem readFrom_refused (outside : ¬ (low ≤ b ∧ b ≤ high)) :
    readFrom (.inside owed low high bits) (b :: rest) = .broken :: readFrom .between (b :: rest) := by
  rw [readFrom, step, if_neg outside, readFrom, step]
  rfl

theorem readFrom_last (within : low ≤ b ∧ b ≤ high) :
    readFrom (.inside 1 low high bits) (b :: rest) =
      .char (Char.ofNat (bits * 64 + b.toNat % 64)) :: readFrom .between rest := by
  rw [readFrom, step, if_pos within]
  rfl

theorem readFrom_more (within : low ≤ b ∧ b ≤ high) :
    readFrom (.inside (owed + 2) low high bits) (b :: rest) =
      readFrom (.inside (owed + 1) 0x80 0xBF (bits * 64 + b.toNat % 64)) rest := by
  rw [readFrom, step, if_pos within]
  rfl

theorem Finishes.read (finishes : Finishes owed low high bits tail code) (rest : Bytes) :
    readFrom (.inside owed low high bits) (tail ++ rest) =
      .char (Char.ofNat code) :: readFrom .between rest := by
  induction finishes with
  | last b within => exact readFrom_last within
  | more b within _ ih =>
    rw [List.cons_append, readFrom_more within]
    exact ih

theorem finishes_or_breaks (owed : Nat) (floor : ∀ c, low ≤ c ∧ c ≤ high → 0x80 ≤ c) (bytes : Bytes) :
    (∃ tail rest code, bytes = tail ++ rest ∧ Finishes (owed + 1) low high bits tail code) ∨
      ∃ tail rest, bytes = tail ++ rest ∧ (∀ b ∈ tail, 0x80 ≤ b) ∧
        readFrom (.inside (owed + 1) low high bits) bytes = .broken :: readFrom .between rest := by
  induction owed generalizing low high bits bytes with
  | zero =>
    cases bytes with
    | nil => exact .inr ⟨[], [], rfl, nofun, rfl⟩
    | cons b rest =>
      by_cases within : low ≤ b ∧ b ≤ high
      · exact .inl ⟨[b], rest, _, rfl, .last b within⟩
      · exact .inr ⟨[], b :: rest, rfl, nofun, readFrom_refused within⟩
  | succ owed ih =>
    cases bytes with
    | nil => exact .inr ⟨[], [], rfl, nofun, rfl⟩
    | cons b rest =>
      by_cases within : low ≤ b ∧ b ≤ high
      · rcases ih (fun _ within => within.1) rest with
          ⟨tail, rest, code, rfl, finishes⟩ | ⟨tail, rest, rfl, large, broken⟩
        · exact .inl ⟨b :: tail, rest, code, rfl, .more b within finishes⟩
        · refine .inr ⟨b :: tail, rest, rfl, ?_, (readFrom_more within).trans broken⟩
          intro c member
          rcases List.mem_cons.1 member with rfl | later
          · exact floor _ within
          · exact large c later
      · exact .inr ⟨[], b :: rest, rfl, nofun, readFrom_refused within⟩

/-! ### Characters -/

theorem within_continuation {c : UInt8} : 0x80 ≤ c ∧ c ≤ 0xBF ↔ 0x80 ≤ c.toNat ∧ c.toNat ≤ 0xBF := by
  simp only [UInt8.le_iff_toNat_le, UInt8.reduceToNat]

theorem toNat_range (c : Char) : c.toNat < 0xD800 ∨ 0xE000 ≤ c.toNat ∧ c.toNat < 0x110000 := by
  rcases c.valid with low | ⟨above, below⟩
  · exact .inl low
  · exact .inr ⟨above, below⟩

theorem toNat_ofNat {code : Nat} (range : code < 0xD800 ∨ 0xE000 ≤ code ∧ code < 0x110000) :
    (Char.ofNat code).val.toNat = code := by
  have valid : code.isValidChar := range
  rw [Char.ofNat, dif_pos valid]
  rfl

theorem exists_byte (n : Nat) (small : n < 256) : ∃ b : UInt8, UInt8.ofNat n = b ∧ b.toNat = n :=
  ⟨UInt8.ofNat n, rfl, UInt8.toNat_ofNat_of_lt small⟩

theorem finishes_encode {c : Char} (large : 0x80 ≤ c.toNat) :
    ∃ lead owed low high bits tail, String.utf8EncodeChar c = lead :: tail ∧
      start lead = (.inside (owed + 1) low high bits, []) ∧ Finishes (owed + 1) low high bits tail c.toNat := by
  have range := toNat_range c
  have same : c.val.toNat = c.toNat := rfl
  rw [String.utf8EncodeChar.eq_1, same, if_neg (by omega)]
  generalize c.toNat = v at *
  split_ifs with two three
  · obtain ⟨a, first, lead⟩ := exists_byte (v / 64 % 32 + 192) (by omega)
    obtain ⟨b, next, second⟩ := exists_byte (v % 64 + 128) (by omega)
    rw [first, next]
    generalize started : start a = effect
    cases started ▸ opens a with
    | two least most =>
      have code : v = (a.toNat - 0xC0) * 64 + b.toNat % 64 := by omega
      refine ⟨a, _, _, _, _, _, rfl, started, ?_⟩
      rw [code]
      exact .last b (within_continuation.2 (by omega))
    | _ => omega
  · obtain ⟨a, first, lead⟩ := exists_byte (v / 4096 % 16 + 224) (by omega)
    obtain ⟨b, next, second⟩ := exists_byte (v / 64 % 64 + 128) (by omega)
    obtain ⟨d, last, third⟩ := exists_byte (v % 64 + 128) (by omega)
    rw [first, next, last]
    generalize started : start a = effect
    cases started ▸ opens a with
    | three least most bounds =>
      have code : v = ((a.toNat - 0xE0) * 64 + b.toNat % 64) * 64 + d.toNat % 64 := by omega
      refine ⟨a, _, _, _, _, _, rfl, started, ?_⟩
      rw [code]
      exact .more b ((bounds b).2 (by omega)) (.last d (within_continuation.2 (by omega)))
    | _ => omega
  · obtain ⟨a, first, lead⟩ := exists_byte (v / 262144 % 8 + 240) (by omega)
    obtain ⟨b, next, second⟩ := exists_byte (v / 4096 % 64 + 128) (by omega)
    obtain ⟨d, more, third⟩ := exists_byte (v / 64 % 64 + 128) (by omega)
    obtain ⟨e, last, fourth⟩ := exists_byte (v % 64 + 128) (by omega)
    rw [first, next, more, last]
    generalize started : start a = effect
    cases started ▸ opens a with
    | four least most bounds =>
      have code : v = (((a.toNat - 0xF0) * 64 + b.toNat % 64) * 64 + d.toNat % 64) * 64 + e.toNat % 64 := by
        omega
      refine ⟨a, _, _, _, _, _, rfl, started, ?_⟩
      rw [code]
      exact .more b ((bounds b).2 (by omega))
        (.more d (within_continuation.2 (by omega)) (.last e (within_continuation.2 (by omega))))
    | _ => omega

theorem ofNat_eq {n : Nat} (b : UInt8) (same : n % 256 = b.toNat) : UInt8.ofNat n = b := by
  rw [← UInt8.toNat_inj, UInt8.toNat_ofNat', same]

theorem encode_of_finishes {lead : UInt8} (started : start lead = (.inside owed low high bits, []))
    (finishes : Finishes owed low high bits tail code) :
    String.utf8EncodeChar (Char.ofNat code) = lead :: tail := by
  cases started ▸ opens lead with
  | two least most =>
    cases finishes with
    | last b within =>
      have second := within_continuation.1 within
      rw [String.utf8EncodeChar.eq_1, toNat_ofNat (by omega), if_neg (by omega), if_pos (by omega),
        ofNat_eq lead (by omega), ofNat_eq b (by omega)]
  | three least most bounds =>
    cases finishes with
    | more b within rest =>
      cases rest with
      | last d within' =>
        have second := (bounds b).1 within
        have third := within_continuation.1 within'
        rw [String.utf8EncodeChar.eq_1, toNat_ofNat (by omega), if_neg (by omega), if_neg (by omega),
          if_pos (by omega), ofNat_eq lead (by omega), ofNat_eq b (by omega), ofNat_eq d (by omega)]
  | four least most bounds =>
    cases finishes with
    | more b within rest =>
      cases rest with
      | more d within' rest =>
        cases rest with
        | last e within'' =>
          have second := (bounds b).1 within
          have third := within_continuation.1 within'
          have fourth := within_continuation.1 within''
          rw [String.utf8EncodeChar.eq_1, toNat_ofNat (by omega), if_neg (by omega), if_neg (by omega),
            if_neg (by omega), ofNat_eq lead (by omega), ofNat_eq b (by omega), ofNat_eq d (by omega),
            ofNat_eq e (by omega)]

/-! ### Texts -/

theorem encode_ascii {c : Char} (small : c.toNat < 0x80) : String.utf8EncodeChar c = [UInt8.ofNat c.toNat] := by
  have same : c.val.toNat = c.toNat := rfl
  rw [String.utf8EncodeChar.eq_1, same, if_pos (by omega)]

theorem readFrom_between : readFrom .between (b :: rest) = (start b).2 ++ readFrom (start b).1 rest := rfl

theorem readFrom_encode (c : Char) (rest : Bytes) :
    readFrom .between (String.utf8EncodeChar c ++ rest) = .char c :: readFrom .between rest := by
  by_cases large : 0x80 ≤ c.toNat
  · obtain ⟨lead, owed, low, high, bits, tail, shown, started, finishes⟩ := finishes_encode large
    rw [shown, List.cons_append, readFrom_between, started, List.nil_append, finishes.read, Char.ofNat_toNat]
  · obtain ⟨b, shown, code⟩ := exists_byte c.toNat (by omega)
    rw [encode_ascii (by omega), shown, List.singleton_append, readFrom_between]
    generalize started : start b = effect
    cases started ▸ opens b with
    | ascii small => rw [code, Char.ofNat_toNat]; rfl
    | _ => omega

/-- Bytes that fall into these pieces: encodings of characters, and broken stretches, in which no byte is
ASCII. -/
inductive Segments : Bytes → List Piece → Prop where
  | nil : Segments [] []
  | char {rest : Bytes} {found : List Piece} (c : Char) (more : Segments rest found) :
      Segments (String.utf8EncodeChar c ++ rest) (.char c :: found)
  | broken {stretch rest : Bytes} {found : List Piece} (some : stretch ≠ [])
      (large : ∀ b ∈ stretch, 0x80 ≤ b) (more : Segments rest found) :
      Segments (stretch ++ rest) (.broken :: found)

theorem start_cases (b : UInt8) :
    (start b = (.between, [.char (Char.ofNat b.toNat)]) ∧ String.utf8EncodeChar (Char.ofNat b.toNat) = [b]) ∨
      0x80 ≤ b ∧ (start b = (.between, [.broken]) ∨ ∃ owed low high bits,
        start b = (.inside (owed + 1) low high bits, []) ∧ ∀ c, low ≤ c ∧ c ≤ high → 0x80 ≤ c) := by
  have large : 0x80 ≤ b ↔ 0x80 ≤ b.toNat := UInt8.le_iff_toNat_le
  rw [large]
  generalize started : start b = effect
  cases started ▸ opens b with
  | ascii small =>
    have same : (Char.ofNat b.toNat).val.toNat = b.toNat := toNat_ofNat (by omega)
    refine .inl ⟨rfl, ?_⟩
    rw [String.utf8EncodeChar.eq_1, same, if_pos (by omega), UInt8.ofNat_toNat]
  | stray apart => exact .inr ⟨by omega, .inl rfl⟩
  | two least most => exact .inr ⟨by omega, .inr ⟨_, _, _, _, rfl, fun c within => within.1⟩⟩
  | three least most bounds =>
    refine .inr ⟨by omega, .inr ⟨_, _, _, _, rfl, fun c within => ?_⟩⟩
    exact UInt8.le_iff_toNat_le.2 ((bounds c).1 within).1
  | four least most bounds =>
    refine .inr ⟨by omega, .inr ⟨_, _, _, _, rfl, fun c within => ?_⟩⟩
    exact UInt8.le_iff_toNat_le.2 ((bounds c).1 within).1

/-- Any bytes fall into the pieces that they are read as. -/
theorem segments (bytes : Bytes) : Segments bytes (pieces bytes) := by
  rw [pieces_eq]
  -- by the length: a broken stretch ends before a byte that is looked at again
  induction size : bytes.length using Nat.strongRecOn generalizing bytes with
  | ind n ih =>
    cases bytes with
    | nil => exact .nil
    | cons b rest =>
      rw [List.length_cons] at size
      rw [readFrom_between]
      rcases start_cases b with ⟨started, shown⟩ | ⟨large, started | ⟨owed, low, high, bits, started, floor⟩⟩
      · rw [started]
        have found := Segments.char (Char.ofNat b.toNat) (ih rest.length (by omega) rest rfl)
        rwa [shown] at found
      · rw [started]
        exact @Segments.broken [b] _ _ (by simp) (by simpa using large) (ih rest.length (by omega) rest rfl)
      · rw [started, List.nil_append]
        rcases finishes_or_breaks owed floor rest with
          ⟨tail, after, code, rfl, finishes⟩ | ⟨tail, after, rfl, larger, broken⟩
        · rw [List.length_append] at size
          rw [finishes.read, ← List.cons_append, ← encode_of_finishes started finishes]
          exact .char _ (ih after.length (by omega) after rfl)
        · rw [List.length_append] at size
          rw [broken, ← List.cons_append]
          exact .broken (by simp) (by simpa using ⟨large, larger⟩) (ih after.length (by omega) after rfl)

theorem pieces_encode (text : List Char) : pieces (encode text) = text.map .char := by
  rw [pieces_eq]
  induction text with
  | nil => rfl
  | cons c text ih => rw [encode, List.flatMap_cons, readFrom_encode, ← encode, ih, List.map_cons]

theorem decode?_eq_some_iff_pieces {text : List Char} :
    decode? bytes = some text ↔ pieces bytes = text.map .char := by
  rw [decode?]
  generalize pieces bytes = found
  induction found generalizing text with
  | nil => cases text <;> simp
  | cons piece found ih =>
    rw [List.mapM_cons]
    cases piece with
    | broken => cases text <;> simp [Piece.char?]
    | char c =>
      cases text with
      | nil => cases read : found.mapM Piece.char? <;> simp [Piece.char?]
      | cons d text =>
        rw [List.map_cons, List.cons.injEq, ← ih]
        cases read : found.mapM Piece.char? <;> simp [Piece.char?]

theorem Segments.encode_eq {found : List Piece} {text : List Char} (segments : Segments bytes found)
    (whole : found = text.map .char) : encode text = bytes := by
  induction segments generalizing text with
  | nil =>
    rw [List.map_eq_nil_iff.1 whole.symm]
    rfl
  | char c more ih =>
    obtain ⟨_, later, rfl, same, rest⟩ := List.map_eq_cons_iff.1 whole.symm
    rw [Piece.char.inj same, encode, List.flatMap_cons, ← encode, ih rest.symm]
  | broken some large more ih =>
    obtain ⟨_, _, -, same, -⟩ := List.map_eq_cons_iff.1 whole.symm
    cases same

/-- Bytes are decoded to the one text that they encode, if there is one. -/
theorem decode?_eq_some_iff {text : List Char} : decode? bytes = some text ↔ encode text = bytes := by
  rw [decode?_eq_some_iff_pieces]
  constructor
  · exact (segments bytes).encode_eq
  · intro same
    rw [← same, pieces_encode]

/-! ### Broken texts -/

/-- Bytes and a text that differ in nothing ASCII: a character beyond it stands for a stretch of bytes
beyond it. -/
inductive Reads : Bytes → List Char → Prop where
  | nil : Reads [] []
  | ascii {rest : Bytes} {text : List Char} {c : Char} (small : c.toNat < 0x80) (more : Reads rest text) :
      Reads (UInt8.ofNat c.toNat :: rest) (c :: text)
  | other {stretch rest : Bytes} {text : List Char} {c : Char} (large : 0x80 ≤ c.toNat) (some : stretch ≠ [])
      (larger : ∀ b ∈ stretch, 0x80 ≤ b) (more : Reads rest text) : Reads (stretch ++ rest) (c :: text)

theorem Finishes.large (finishes : Finishes owed low high bits tail code)
    (floor : ∀ c, low ≤ c ∧ c ≤ high → 0x80 ≤ c) : ∀ b ∈ tail, 0x80 ≤ b := by
  induction finishes with
  | last b within => simpa using floor b within
  | more b within _ ih => simpa using ⟨floor b within, ih fun _ within => within.1⟩

theorem large_encode {c : Char} (large : 0x80 ≤ c.toNat) : ∀ b ∈ String.utf8EncodeChar c, 0x80 ≤ b := by
  obtain ⟨lead, owed, low, high, bits, tail, shown, started, finishes⟩ := finishes_encode large
  rcases start_cases lead with ⟨started', -⟩ | ⟨first, started' | ⟨_, _, _, _, started', floor⟩⟩
  · simp [started] at started'
  · simp [started] at started'
  · obtain ⟨rfl, rfl, rfl, rfl⟩ : _ ∧ _ ∧ _ ∧ _ := by simpa [started] using started'
    rw [shown]
    simpa using ⟨first, finishes.large floor⟩

theorem reads_of_segments {found : List Piece} (segments : Segments bytes found) :
    Reads bytes (found.map fun piece => piece.char?.getD '\uFFFD') := by
  induction segments with
  | nil => exact .nil
  | char c more ih =>
    rw [List.map_cons]
    by_cases large : 0x80 ≤ c.toNat
    · exact .other large (String.utf8EncodeChar_ne_nil) (large_encode large) ih
    · rw [encode_ascii (by omega)]
      exact .ascii (by omega) ih
  | broken some large more ih => exact .other (by decide) some large ih

theorem reads_lossy (bytes : Bytes) : Reads bytes (decodeLossy bytes) :=
  reads_of_segments (segments bytes)

/-- A character that breaks off takes nothing of the text after it along. -/
example : decodeLossy [0x72, 0xE2, 0x82, 0x65] = ['r', '\uFFFD', 'e'] := by decide

def asciiBytes (text : List Char) : Bytes :=
  text.map fun c => UInt8.ofNat c.toNat

section Occurrences

variable {marker text : List Char}

theorem toNat_byte {c : Char} (small : c.toNat < 0x80) : (UInt8.ofNat c.toNat).toNat = c.toNat :=
  UInt8.toNat_ofNat_of_lt (by show _ < 256; omega)

theorem byte_ne {c : Char} {b : UInt8} (small : c.toNat < 0x80) (large : 0x80 ≤ b) :
    UInt8.ofNat c.toNat ≠ b := by
  rintro rfl
  have code := UInt8.le_iff_toNat_le.1 large
  simp only [toNat_byte small, UInt8.reduceToNat] at code
  omega

theorem byte_inj {c d : Char} (small : c.toNat < 0x80) (small' : d.toNat < 0x80) :
    UInt8.ofNat c.toNat = UInt8.ofNat d.toNat ↔ c = d := by
  rw [← UInt8.toNat_inj, toNat_byte small, toNat_byte small', Char.toNat_inj]

theorem Reads.prefix_iff (reads : Reads bytes text) (ascii : ∀ c ∈ marker, c.toNat < 0x80) :
    marker <+: text ↔ asciiBytes marker <+: bytes := by
  induction marker generalizing bytes text with
  | nil => exact ⟨fun _ => List.nil_prefix, fun _ => List.nil_prefix⟩
  | cons c marker ih =>
    have small := ascii c (by simp)
    rw [asciiBytes, List.map_cons, ← asciiBytes]
    cases reads with
    | nil => simp
    | ascii small' more =>
      rw [List.cons_prefix_cons, List.cons_prefix_cons, byte_inj small small',
        ih more fun d member => ascii d (by simp [member])]
    | @other stretch rest text d large some larger more =>
      obtain ⟨b, stretch, rfl⟩ := List.exists_cons_of_ne_nil some
      have apart : c ≠ d := by
        rintro rfl
        omega
      rw [List.cons_append, List.cons_prefix_cons, List.cons_prefix_cons]
      exact ⟨fun both => absurd both.1 apart, fun both => absurd both.1 (byte_ne small (larger b (by simp)))⟩

/-- An ASCII text does not start in a stretch of bytes beyond ASCII. -/
theorem infix_stretch_iff {c : Char} {stretch : Bytes} (small : c.toNat < 0x80)
    (larger : ∀ b ∈ stretch, 0x80 ≤ b) :
    asciiBytes (c :: marker) <:+: stretch ++ rest ↔ asciiBytes (c :: marker) <:+: rest := by
  induction stretch with
  | nil => rfl
  | cons b stretch ih =>
    have apart := byte_ne small (larger b (by simp))
    rw [List.cons_append, List.infix_cons_iff, ih fun d member => larger d (by simp [member]), asciiBytes,
      List.map_cons, List.cons_prefix_cons]
    exact or_iff_right fun both => apart both.1

theorem Reads.infix_iff (reads : Reads bytes text) (ascii : ∀ c ∈ marker, c.toNat < 0x80) :
    marker <:+: text ↔ asciiBytes marker <:+: bytes := by
  induction reads with
  | nil => cases marker <;> simp [asciiBytes]
  | ascii small more ih =>
    rw [List.infix_cons_iff, List.infix_cons_iff, ih, (Reads.ascii small more).prefix_iff ascii]
  | @other stretch rest text d large some larger more ih =>
    cases marker with
    | nil => exact ⟨fun _ => List.nil_infix, fun _ => List.nil_infix⟩
    | cons c marker =>
      have small := ascii c (by simp)
      have apart : ¬ c :: marker <+: d :: text := by
        rw [List.cons_prefix_cons]
        rintro ⟨rfl, -⟩
        omega
      rw [infix_stretch_iff small larger, List.infix_cons_iff, ih]
      exact or_iff_right apart

end Occurrences

end ClusterLifecycle.Text.Utf8
