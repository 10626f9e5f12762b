/-
ProxyClient/Proofs/Text/Escaping.lean

Percent-encoding and back.  A text is escaped by encoding every byte of a character that
is neither a letter nor a digit.  What comes out is made of letters, digits and `%`, so it
holds no separator, and encoding it once more for a place where these may stand changes
nothing.  Reading it as a part of a form gives the text again:

    formText (escaped text) = text

and it is the text itself only if there was nothing to encode.
-/
import ProxyClient.Proofs.Text.Digits
import ProxyClient.Proofs.Text.Splitting
import ProxyClient.Text.Percent

namespace ProxyClient.Text

/-- A text with everything but letters and digits percent-encoded. -/
def escaped (text : String) : String :=
  String.ofList (percentEncode Char.isAlphanum text.toList)

/-! ### The letters of an escaped text -/

theorem isAlphanum_hexDigit : ∀ n < 16, (hexDigit n).isAlphanum = true := by decide

theorem mem_percentByte {byte : UInt8} {c : Char} (member : c ∈ percentByte byte) :
    c = '%' ∨ c.isAlphanum = true := by
  have small := byte.toNat_lt
  simp only [percentByte, List.mem_cons, List.not_mem_nil, or_false] at member
  rcases member with rfl | rfl | rfl
  · exact .inl rfl
  · exact .inr (isAlphanum_hexDigit _ (by omega))
  · exact .inr (isAlphanum_hexDigit _ (by omega))

/-- The text is made of letters, digits and `%`. -/
def IsEscaped (chars : List Char) : Prop :=
  ∀ c ∈ chars, c = '%' ∨ c.isAlphanum = true

theorem isEscaped_escaped (text : String) : IsEscaped (escaped text).toList := by
  intro c member
  rw [escaped, String.toList_ofList, percentEncode] at member
  obtain ⟨letter, -, inside⟩ := List.mem_flatMap.mp member
  by_cases kept : letter.isAlphanum = true
  · rw [if_pos kept] at inside
    exact .inr (List.mem_singleton.mp inside ▸ kept)
  · rw [if_neg kept] at inside
    obtain ⟨byte, -, digit⟩ := List.mem_flatMap.mp inside
    exact mem_percentByte digit

/-- No other character stands in it. -/
theorem IsEscaped.notMem {chars : List Char} (h : IsEscaped chars) {c : Char}
    (other : c ≠ '%' ∧ c.isAlphanum = false) : c ∉ chars := by
  intro member
  rcases h c member with percent | kept
  · exact other.1 percent
  · exact absurd (kept.symm.trans other.2) (by decide)

theorem toNat_of_isAlphanum {c : Char} (kept : c.isAlphanum = true) :
    0x30 ≤ c.toNat ∧ c.toNat ≤ 0x7A := by
  rcases Bool.or_eq_true_iff.mp kept with letter | digit
  · rcases Bool.or_eq_true_iff.mp letter with upper | lower
    · have bounds : 65 ≤ c.toNat ∧ c.toNat ≤ 90 := of_decide_eq_true upper
      omega
    · have bounds := Bool.and_eq_true_iff.mp lower
      have low : 97 ≤ c.toNat := of_decide_eq_true bounds.1
      have high : c.toNat ≤ 122 := of_decide_eq_true bounds.2
      omega
  · have bounds := toNat_of_isDigit digit
    omega

/-- Its characters are single bytes that can be printed. -/
theorem IsEscaped.toNat {chars : List Char} (h : IsEscaped chars) {c : Char} (member : c ∈ chars) :
    0x20 < c.toNat ∧ c.toNat < 0x7F := by
  rcases h c member with rfl | kept
  · decide
  · have bounds := toNat_of_isAlphanum kept
    omega

/-! ### Encoding what is encoded -/

/-- Where every character may stand nothing is encoded. -/
theorem percentEncode_eq_self {keep : Char → Bool} {chars : List Char}
    (kept : ∀ c ∈ chars, keep c = true) : percentEncode keep chars = chars := by
  induction chars with
  | nil => rfl
  | cons c chars ih =>
    obtain ⟨first, others⟩ := List.forall_mem_cons.mp kept
    rw [percentEncode, List.flatMap_cons, if_pos first]
    exact congrArg (c :: ·) (ih others)

/-- A character that is encoded takes more room. -/
theorem one_lt_length_encoded (c : Char) :
    1 < ((Bytes.ofText (String.singleton c)).flatMap percentByte).length := by
  have some : 0 < (Bytes.ofText (String.singleton c)).length := by
    rw [Bytes.length_ofText, String.utf8ByteSize_singleton]
    exact c.utf8Size_pos
  obtain ⟨byte, bytes, spelt⟩ := List.exists_cons_of_length_pos some
  rw [spelt, List.flatMap_cons, List.length_append, percentByte]
  simp only [List.length_cons]
  omega

theorem length_le_percentEncode (keep : Char → Bool) (chars : List Char) :
    chars.length ≤ (percentEncode keep chars).length := by
  induction chars with
  | nil => exact Nat.le_refl _
  | cons c chars ih =>
    have more := one_lt_length_encoded c
    rw [percentEncode, List.flatMap_cons, List.length_append, List.length_cons, ← percentEncode]
    split
    · simp only [List.length_singleton]
      omega
    · omega

/-- No text is escaped as nothing. -/
theorem toList_escaped_ne_nil {text : String} (given : text ≠ "") : (escaped text).toList ≠ [] := by
  have letters : 0 < text.toList.length :=
    List.length_pos_iff.mpr (mt String.toList_eq_nil_iff.mp given)
  have room := length_le_percentEncode Char.isAlphanum text.toList
  rw [escaped, String.toList_ofList]
  exact List.length_pos_iff.mp (Nat.lt_of_lt_of_le letters room)

/-- If a text takes no more room every character was kept. -/
theorem kept_of_percentEncode_eq {keep : Char → Bool} {chars : List Char}
    (same : (percentEncode keep chars).length ≤ chars.length) : ∀ c ∈ chars, keep c = true := by
  induction chars with
  | nil => exact fun c member => absurd member List.not_mem_nil
  | cons c chars ih =>
    have more := one_lt_length_encoded c
    have others := length_le_percentEncode keep chars
    rw [percentEncode, List.flatMap_cons, List.length_append, List.length_cons, ← percentEncode]
      at same
    split at same
    · next kept =>
      simp only [List.length_singleton] at same
      exact List.forall_mem_cons.mpr ⟨kept, ih (by omega)⟩
    · -- the room that is taken here is not given back by the others
      omega

/-- Only letters and digits are escaped as themselves. -/
theorem escaped_eq_self_iff {text : String} :
    escaped text = text ↔ ∀ c ∈ text.toList, c.isAlphanum = true := by
  constructor
  · intro same
    have chars := congrArg String.toList same
    rw [escaped, String.toList_ofList] at chars
    exact kept_of_percentEncode_eq (Nat.le_of_eq (congrArg List.length chars))
  · intro kept
    rw [escaped, percentEncode_eq_self kept, String.ofList_toList]

/-! ### Decoding -/

theorem hexValue?_hexDigit : ∀ n < 16, hexValue? (hexDigit n).toUInt8 = some n := by decide

theorem percentDecode_cons {byte : UInt8} (other : byte ≠ 37) (rest : Bytes) :
    percentDecode (byte :: rest) = byte :: percentDecode rest := by
  rw [percentDecode]
  intro high low rest' same
  exact absurd same other

theorem percentDecode_percentByte (byte : UInt8) (rest : Bytes) :
    percentDecode ((percentByte byte).map Char.toUInt8 ++ rest) = byte :: percentDecode rest := by
  have small := byte.toNat_lt
  have high := hexValue?_hexDigit (byte.toNat / 16) (by omega)
  have low := hexValue?_hexDigit (byte.toNat % 16) (by omega)
  show percentDecode (37 :: (hexDigit (byte.toNat / 16)).toUInt8 ::
    (hexDigit (byte.toNat % 16)).toUInt8 :: rest) = _
  rw [percentDecode]
  simp only [high, low]
  rw [Nat.div_add_mod, UInt8.ofNat_toNat]

theorem percentDecode_flatMap (bytes rest : Bytes) :
    percentDecode ((bytes.flatMap percentByte).map Char.toUInt8 ++ rest) =
      bytes ++ percentDecode rest := by
  induction bytes with
  | nil => rfl
  | cons byte bytes ih =>
    rw [List.flatMap_cons, List.map_append, List.append_assoc, percentDecode_percentByte, ih,
      List.cons_append]

/-- What is encoded is decoded, character by character. -/
theorem percentDecode_percentEncode (chars : List Char) :
    percentDecode ((percentEncode Char.isAlphanum chars).map Char.toUInt8) =
      chars.flatMap String.utf8EncodeChar := by
  induction chars with
  | nil => rfl
  | cons c chars ih =>
    rw [percentEncode, List.flatMap_cons, List.map_append, ← percentEncode, List.flatMap_cons, ← ih]
    split
    · -- a character that is kept is no percent sign
      next kept =>
      obtain ⟨low, high⟩ := toNat_of_isAlphanum kept
      have other : c.toUInt8 ≠ 37 := by
        intro percent
        have byte : c.toNat % 256 = 37 := congrArg UInt8.toNat percent
        omega
      rw [Bytes.utf8EncodeChar_of_lt (by omega), List.map_singleton, List.singleton_append,
        percentDecode_cons other]
      rfl
    · -- one that is escaped is spelt by its bytes
      rw [percentDecode_flatMap, Bytes.ofText_eq_flatMap]
      simp

theorem ofText_escaped (text : String) :
    Bytes.ofText (escaped text) = (escaped text).toList.map Char.toUInt8 := by
  rw [Bytes.ofText_eq_flatMap, List.map_eq_flatMap]
  refine List.flatMap_congr fun c member => Bytes.utf8EncodeChar_of_lt ?_
  have printed := (isEscaped_escaped text).toNat member
  omega

/-- **What is escaped is read as it was** where names and values of a form are read. -/
theorem formText_escaped (text : String) : formText (escaped text).toList = text := by
  have blanked : (escaped text).toList.map (fun c => if c = '+' then ' ' else c) =
      (escaped text).toList := by
    refine (List.map_congr_left fun c member => if_neg ?_).trans (List.map_id' _)
    exact fun plus => (isEscaped_escaped text).notMem (by decide) (plus ▸ member)
  rw [formText, blanked, String.ofList_toList, ofText_escaped, escaped, String.toList_ofList,
    percentDecode_percentEncode, ← Bytes.ofText_eq_flatMap, decodeLossy_ofText]

/-- So is a form of one name with its value. -/
theorem formPairs_escaped (name value : String) :
    formPairs ((escaped name).toList ++ '=' :: (escaped value).toList) = [(name, value)] := by
  have oneName : '=' ∉ (escaped name).toList := (isEscaped_escaped name).notMem (by decide)
  have onePart : '&' ∉ (escaped name).toList ++ '=' :: (escaped value).toList := by
    intro member
    rcases List.mem_append.mp member with inName | behind
    · exact (isEscaped_escaped name).notMem (by decide) inName
    · have inValue := (List.mem_cons.mp behind).resolve_left (by decide)
      exact (isEscaped_escaped value).notMem (by decide) inValue
  have given : [(escaped name).toList ++ '=' :: (escaped value).toList].filter (!·.isEmpty) =
      [(escaped name).toList ++ '=' :: (escaped value).toList] :=
    List.filter_eq_self.mpr (by simp)
  rw [formPairs, splitAll_of_notMem onePart, given, List.map_singleton, splitFirst_append oneName]
  dsimp only
  rw [formText_escaped, formText_escaped]

end ProxyClient.Text
