/-
ProxyClient/Bytes.lean

Byte strings as lists, and the two ways in which everything on the wire and
in a cache file is spelled: whole numbers as digits in base 256, the most
significant first, and texts as their UTF-8 bytes.

The law of the first is `ofBigEndian_bigEndian`: `width` digits keep a number
modulo `256 ^ width`.  The law of the second is `toText?_ofText`.
-/

namespace ProxyClient

-- powers of numbers are those of the core library, also beside one of monoids
attribute [instance (high), default_instance (high + 1)] instPowNat

/-- A byte string. -/
abbrev Bytes := List UInt8

namespace Bytes

/-! ### Numbers -/

/-- The last `width` digits of `n` in base 256, the most significant first. -/
def bigEndian : Nat → Nat → Bytes
  | 0, _ => []
  | width + 1, n => UInt8.ofNat (n / 256 ^ width) :: bigEndian width n

/-- The number whose digits in base 256 are `digits`, the most significant first. -/
def ofBigEndian (digits : Bytes) : Nat :=
  digits.foldl (fun n digit => 256 * n + digit.toNat) 0

@[simp] theorem length_bigEndian (width n : Nat) : (bigEndian width n).length = width := by
  induction width with
  | zero => rfl
  | succ width ih => simp [bigEndian, ih]

/-- Digits read after a number `n` stand to the right of it. -/
theorem foldl_bigEndian (width n start : Nat) :
    (bigEndian width n).foldl (fun n digit => 256 * n + digit.toNat) start =
      256 ^ width * start + n % 256 ^ width := by
  induction width generalizing start with
  | zero => simp [bigEndian, Nat.mod_one]
  | succ width ih =>
    simp only [bigEndian, List.foldl_cons, ih, UInt8.toNat_ofNat', Nat.reducePow]
    rw [Nat.pow_succ 256 width, Nat.mod_mul, Nat.mul_add]
    have e : 256 ^ width * (256 * start) = 256 ^ width * 256 * start := (Nat.mul_assoc ..).symm
    omega

/-- A number is read back from `width` digits modulo `256 ^ width`. -/
@[simp] theorem ofBigEndian_bigEndian (width n : Nat) :
    ofBigEndian (bigEndian width n) = n % 256 ^ width := by
  simp [ofBigEndian, foldl_bigEndian]

theorem ofBigEndian_cons (digit : UInt8) (digits : Bytes) :
    ofBigEndian (digit :: digits) = 256 ^ digits.length * digit.toNat + ofBigEndian digits := by
  have behind (start : Nat) : digits.foldl (fun n digit => 256 * n + digit.toNat) start =
      256 ^ digits.length * start + ofBigEndian digits := by
    induction digits generalizing start with
    | nil => simp [ofBigEndian]
    | cons next digits ih =>
      rw [ofBigEndian, List.foldl_cons, List.foldl_cons, ih, ih (256 * 0 + next.toNat),
        List.length_cons, Nat.pow_succ, Nat.mul_zero, Nat.zero_add, Nat.mul_add, Nat.mul_assoc]
      omega
  rw [ofBigEndian, List.foldl_cons, behind, Nat.mul_zero, Nat.zero_add]

theorem ofBigEndian_lt (digits : Bytes) : ofBigEndian digits < 256 ^ digits.length := by
  induction digits with
  | nil => exact Nat.one_pos
  | cons digit digits ih =>
    have last : 256 ^ digits.length * digit.toNat ≤ 256 ^ digits.length * 255 :=
      Nat.mul_le_mul_left _ (Nat.le_of_lt_succ digit.toNat_lt)
    rw [ofBigEndian_cons, List.length_cons, Nat.pow_succ]
    omega

/-- Digits are read back from their number. -/
theorem bigEndian_ofBigEndian (digits : Bytes) :
    bigEndian digits.length (ofBigEndian digits) = digits := by
  -- a leading digit does not show in the others
  have lower (start : Nat) : bigEndian digits.length
      (256 ^ digits.length * start + ofBigEndian digits) = digits := by
    induction digits generalizing start with
    | nil => rfl
    | cons digit digits ih =>
      have number : 256 ^ (digits.length + 1) * start + ofBigEndian (digit :: digits) =
          256 ^ digits.length * (256 * start + digit.toNat) + ofBigEndian digits := by
        rw [ofBigEndian_cons, Nat.pow_succ, Nat.mul_add, Nat.mul_assoc, Nat.add_assoc]
      have first : (256 ^ digits.length * (256 * start + digit.toNat) + ofBigEndian digits) /
          256 ^ digits.length = 256 * start + digit.toNat := by
        rw [Nat.mul_add_div (Nat.pow_pos (by decide)), Nat.div_eq_of_lt (ofBigEndian_lt digits),
          Nat.add_zero]
      rw [List.length_cons, number, bigEndian, first, ih, Nat.add_comm, UInt8.ofNat_add]
      simp
  simpa using lower 0

/-! ### Texts -/

/-- The UTF-8 bytes of a text. -/
def ofText (text : String) : Bytes :=
  text.toByteArray.data.toList

/-- The text whose UTF-8 bytes are given; nothing if they are not UTF-8. -/
def toText? (bytes : Bytes) : Option String :=
  String.fromUTF8? ⟨bytes.toArray⟩

/-- A text is read back from its bytes. -/
@[simp] theorem toText?_ofText (text : String) : toText? (ofText text) = some text := by
  simp [toText?, ofText, String.fromUTF8?, text.isValidUTF8, String.fromUTF8]

/-- Only the bytes of a text are read as that text. -/
theorem eq_ofText_of_toText? {bytes : Bytes} {text : String} (h : toText? bytes = some text) :
    bytes = ofText text := by
  simp only [toText?, String.fromUTF8?] at h
  split at h
  · obtain rfl := Option.some.inj h
    simp [ofText, String.fromUTF8]
  · exact absurd h (by simp)

/-- No two texts have the same bytes. -/
theorem ofText_inj {a b : String} : ofText a = ofText b ↔ a = b := by
  constructor
  · intro same
    have read := toText?_ofText a
    rw [same, toText?_ofText] at read
    exact (Option.some.inj read).symm
  · exact congrArg ofText

/-- A text is written letter by letter. -/
theorem ofText_eq_flatMap (text : String) :
    ofText text = text.toList.flatMap String.utf8EncodeChar := by
  rw [ofText, ← String.utf8Encode_toList, List.utf8Encode]
  simp

theorem ofText_append (a b : String) : ofText (a ++ b) = ofText a ++ ofText b := by
  rw [ofText_eq_flatMap, String.toList_append, List.flatMap_append, ← ofText_eq_flatMap,
    ← ofText_eq_flatMap]

theorem length_ofText (text : String) : (ofText text).length = text.utf8ByteSize :=
  String.size_toByteArray

/-- A letter of one byte is that byte. -/
theorem utf8EncodeChar_of_lt {c : Char} (single : c.toNat < 128) :
    String.utf8EncodeChar c = [c.toUInt8] := by
  have short : c.val.toNat ≤ 127 := Nat.le_of_lt_succ single
  rw [String.utf8EncodeChar]
  exact if_pos short

/-- A letter of one byte shares it with no other letter. -/
theorem mem_utf8EncodeChar_iff {letter c : Char} (single : letter.toNat < 128) :
    letter.toUInt8 ∈ String.utf8EncodeChar c ↔ c = letter := by
  have low : letter.toUInt8.toNat = letter.toNat := by
    show letter.toNat % 256 = letter.toNat
    omega
  -- every byte of a longer letter has its highest bit set
  have high : ∀ {n : Nat}, 128 ≤ n % 256 → letter.toUInt8 ≠ UInt8.ofNat n := by
    intro n large same
    have values := congrArg UInt8.toNat same
    rw [low, UInt8.toNat_ofNat'] at values
    omega
  rw [String.utf8EncodeChar]
  by_cases short : c.val.toNat ≤ 127
  · rw [if_pos short, List.mem_singleton, ← UInt8.toNat_inj, low, UInt8.toNat_ofNat',
      Nat.mod_eq_of_lt (by omega)]
    exact ⟨fun same => Char.ext (UInt32.toNat_inj.mp same.symm), fun same => same ▸ rfl⟩
  · rw [if_neg short]
    constructor
    · intro member
      split at member
      · simp only [List.mem_cons, List.not_mem_nil, or_false] at member
        rcases member with h | h <;> exact absurd h (high (by omega))
      · split at member
        · simp only [List.mem_cons, List.not_mem_nil, or_false] at member
          rcases member with h | h | h <;> exact absurd h (high (by omega))
        · simp only [List.mem_cons, List.not_mem_nil, or_false] at member
          rcases member with h | h | h | h <;> exact absurd h (high (by omega))
    · rintro rfl
      exact absurd (show c.val.toNat ≤ 127 by exact Nat.le_of_lt_succ single) short

end Bytes

end ProxyClient
