import NovaCommerce.TextDecoding

/-!
# Encoding text into bytes

UTF-8 writes every character as one unit, so that the bytes of a text are
decoded to the same text.
-/

namespace TextDecoding

theorem charOf_toNat (char : Char) : charOf char.toNat = char := by
  have isChar : char.toNat.isValidChar := char.valid
  rw [charOf, if_pos isChar, Char.ofNat_toNat]

/-- The loop has the bytes before its position, last one first. -/
theorem toList_loop_of_split {array : ByteArray} {before after : Bytes}
    (split : array.data.toList = before ++ after) :
    ByteArray.toList.loop array before.length before.reverse =
      array.data.toList := by
  have size : array.size = before.length + after.length := by
    rw [← List.length_append, ← split]
    rfl
  induction after generalizing before with
  | nil =>
      rw [ByteArray.toList.loop, if_neg (by simp [size]), split]
      simp
  | cons byte after ih =>
      have isNext : array.get! before.length = byte := by
        have found : array.data.toList[before.length]? = some byte := by
          simp [split]
        rw [Array.getElem?_toList] at found
        rw [ByteArray.get!, getElem!_def, found]
      have longer := @ih (before ++ [byte]) (by simp [split])
        (by simp [size]; omega)
      rw [ByteArray.toList.loop, if_pos (by simp [size]), isNext]
      simpa using longer

theorem toList_toUTF8 (text : String) :
    text.toUTF8.toList = text.toList.flatMap String.utf8EncodeChar := by
  have bytes : ByteArray.toList.loop text.toUTF8 0 [] = _ :=
    @toList_loop_of_split text.toUTF8 [] _ rfl
  rw [String.toUTF8_eq_toByteArray, ← String.utf8Encode_toList] at bytes ⊢
  rw [ByteArray.toList, bytes, List.utf8Encode, List.toList_data_toByteArray]

/-- The continuation byte that carries some bits. -/
def carrying (bits : Nat) : UInt8 :=
  UInt8.ofNat (bits + 128)

section Carrying

variable {bits : Nat} (rest : Bytes)

theorem toNat_carrying (small : bits < 64) :
    (carrying bits).toNat = bits + 128 :=
  UInt8.toNat_ofNat_of_lt' (show bits + 128 < 256 by omega)

theorem continuation_carrying (missing codePoint : Nat) (small : bits < 64) :
    continuation (missing + 1) codePoint (carrying bits :: rest) =
      continuation missing (codePoint * 64 + bits) rest := by
  have inRange : isContinuation (carrying bits) = true := by
    simp [isContinuation, UInt8.le_iff_toNat_le, toNat_carrying small]
    omega
  rw [continuation, if_pos inRange, toNat_carrying small, Nat.add_sub_cancel]

theorem sequence_carrying (missing first : Nat) {low high : UInt8}
    (small : bits < 64) (above : low.toNat ≤ bits + 128)
    (below : bits + 128 ≤ high.toNat) :
    sequence missing first low high (carrying bits :: rest) =
      continuation missing (first * 64 + bits) rest := by
  have inRange : (low ≤ carrying bits && carrying bits ≤ high) = true := by
    simp [UInt8.le_iff_toNat_le, toNat_carrying small, above, below]
  rw [sequence, if_pos inRange, toNat_carrying small, Nat.add_sub_cancel]

end Carrying

section Leading

variable {bits : Nat} (rest : Bytes)

theorem utf8Step_one (small : bits < 128) :
    utf8Step false (UInt8.ofNat bits) rest = (some bits, rest) := by
  have value : (UInt8.ofNat bits).toNat = bits :=
    UInt8.toNat_ofNat_of_lt' (show bits < 256 by omega)
  have isLow : UInt8.ofNat bits < 128 := by
    simpa [UInt8.lt_iff_toNat_lt, value] using small
  rw [utf8Step, if_pos isLow, value]

theorem utf8Step_two (above : 2 ≤ bits) (below : bits < 32) :
    utf8Step false (UInt8.ofNat (bits + 192)) rest =
      sequence 0 bits 128 191 rest := by
  have value : (UInt8.ofNat (bits + 192)).toNat = bits + 192 :=
    UInt8.toNat_ofNat_of_lt' (show bits + 192 < 256 by omega)
  simp only [utf8Step, UInt8.lt_iff_toNat_lt, value]
  rw [if_neg (by simp), if_neg (by simp; omega), if_pos (by simp; omega),
    Nat.add_sub_cancel]

theorem utf8Step_three (below : bits < 16) :
    utf8Step false (UInt8.ofNat (bits + 224)) rest =
      sequence 1 bits (if bits = 0 then 160 else 128)
        (if bits = 13 then 159 else 191) rest := by
  have value : (UInt8.ofNat (bits + 224)).toNat = bits + 224 :=
    UInt8.toNat_ofNat_of_lt' (show bits + 224 < 256 by omega)
  simp only [utf8Step, UInt8.lt_iff_toNat_lt, ← UInt8.toNat_inj, value]
  rw [if_neg (by simp), if_neg (by simp), if_neg (by simp)]
  by_cases isZero : bits = 0
  · simp [isZero]
  · by_cases isSurrogate : bits = 13
    · simp [isSurrogate]
    · simp [isZero, isSurrogate]
      intro isLarge
      omega

theorem utf8Step_four (below : bits < 5) :
    utf8Step false (UInt8.ofNat (bits + 240)) rest =
      sequence 2 bits (if bits = 0 then 144 else 128)
        (if bits = 4 then 143 else 191) rest := by
  have value : (UInt8.ofNat (bits + 240)).toNat = bits + 240 :=
    UInt8.toNat_ofNat_of_lt' (show bits + 240 < 256 by omega)
  simp only [utf8Step, UInt8.lt_iff_toNat_lt, ← UInt8.toNat_inj, value]
  rw [if_neg (by simp), if_neg (by simp), if_neg (by simp),
    if_neg (by simp), if_neg (by simp), if_neg (by simp)]
  by_cases isZero : bits = 0
  · simp [isZero]
  · by_cases isLast : bits = 4
    · simp [isLast]
    · simp [isZero, isLast]
      intro isLarge
      omega

end Leading

section Characters

variable {code : Nat} (rest : Bytes)

theorem utf8Step_eq_two (above : 0x7f < code) (below : code ≤ 0x7ff) :
    utf8Step false (UInt8.ofNat (code / 64 % 32 + 192))
      (carrying (code % 64) :: rest) = (some code, rest) := by
  have whole : code / 64 % 32 * 64 + code % 64 = code := by omega
  calc
    _ = sequence 0 (code / 64 % 32) 128 191 (carrying (code % 64) :: rest) :=
      utf8Step_two _ (by omega) (by omega)
    _ = continuation 0 (code / 64 % 32 * 64 + code % 64) rest :=
      sequence_carrying rest _ _ (by omega) (by simp) (by simp; omega)
    _ = (some code, rest) := by
      rw [whole, continuation]

/-- The second byte excludes overlong forms and surrogates. -/
theorem utf8Step_eq_three (above : 0x7ff < code) (below : code ≤ 0xffff)
    (isChar : code.isValidChar) :
    utf8Step false (UInt8.ofNat (code / 4096 % 16 + 224))
      (carrying (code / 64 % 64) :: carrying (code % 64) :: rest) =
        (some code, rest) := by
  have whole :
      (code / 4096 % 16 * 64 + code / 64 % 64) * 64 + code % 64 = code := by
    omega
  calc
    _ = sequence 1 (code / 4096 % 16)
          (if code / 4096 % 16 = 0 then 160 else 128)
          (if code / 4096 % 16 = 13 then 159 else 191)
          (carrying (code / 64 % 64) :: carrying (code % 64) :: rest) :=
      utf8Step_three _ (by omega)
    _ = continuation 1 (code / 4096 % 16 * 64 + code / 64 % 64)
          (carrying (code % 64) :: rest) := by
      refine sequence_carrying _ _ _ (by omega) ?_ ?_
      · split
        · simp
          omega
        · simp
      · unfold Nat.isValidChar at isChar
        split
        · simp
          omega
        · simp
          omega
    _ = continuation 0
          ((code / 4096 % 16 * 64 + code / 64 % 64) * 64 + code % 64) rest :=
      continuation_carrying rest _ _ (by omega)
    _ = (some code, rest) := by
      rw [whole, continuation]

theorem utf8Step_eq_four (above : 0xffff < code) (isChar : code.isValidChar) :
    utf8Step false (UInt8.ofNat (code / 262144 % 8 + 240))
      (carrying (code / 4096 % 64) :: carrying (code / 64 % 64) ::
        carrying (code % 64) :: rest) = (some code, rest) := by
  have below : code < 0x110000 := by
    unfold Nat.isValidChar at isChar
    omega
  have whole : ((code / 262144 % 8 * 64 + code / 4096 % 64) * 64 +
      code / 64 % 64) * 64 + code % 64 = code := by
    omega
  calc
    _ = sequence 2 (code / 262144 % 8)
          (if code / 262144 % 8 = 0 then 144 else 128)
          (if code / 262144 % 8 = 4 then 143 else 191)
          (carrying (code / 4096 % 64) :: carrying (code / 64 % 64) ::
            carrying (code % 64) :: rest) :=
      utf8Step_four _ (by omega)
    _ = continuation 2 (code / 262144 % 8 * 64 + code / 4096 % 64)
          (carrying (code / 64 % 64) :: carrying (code % 64) :: rest) := by
      refine sequence_carrying _ _ _ (by omega) ?_ ?_
      · split
        · simp
          omega
        · simp
      · split
        · simp
          omega
        · simp
          omega
    _ = continuation 1 ((code / 262144 % 8 * 64 + code / 4096 % 64) * 64 +
          code / 64 % 64) (carrying (code % 64) :: rest) :=
      continuation_carrying _ _ _ (by omega)
    _ = continuation 0 (((code / 262144 % 8 * 64 + code / 4096 % 64) * 64 +
          code / 64 % 64) * 64 + code % 64) rest :=
      continuation_carrying rest _ _ (by omega)
    _ = (some code, rest) := by
      rw [whole, continuation]

end Characters

/-- A character is written as one unit. -/
theorem utf8Step_encodeChar (char : Char) (rest : Bytes) :
    ∃ byte tail, String.utf8EncodeChar char = byte :: tail ∧
      utf8Step false byte (tail ++ rest) = (some char.toNat, rest) := by
  have isChar : char.toNat.isValidChar := char.valid
  have value : char.val.toNat = char.toNat := rfl
  unfold String.utf8EncodeChar
  dsimp only
  rw [value]
  by_cases isOne : char.toNat ≤ 0x7f
  · exact ⟨_, _, if_pos isOne, utf8Step_one rest (by omega)⟩
  rw [if_neg isOne]
  by_cases isTwo : char.toNat ≤ 0x7ff
  · exact ⟨_, _, if_pos isTwo, utf8Step_eq_two rest (by omega) isTwo⟩
  rw [if_neg isTwo]
  by_cases isThree : char.toNat ≤ 0xffff
  · exact ⟨_, _, if_pos isThree,
      utf8Step_eq_three rest (by omega) isThree isChar⟩
  · exact ⟨_, _, if_neg isThree, utf8Step_eq_four rest (by omega) isChar⟩

theorem units_encode (chars : List Char) (fuel : Nat)
    (enough : (chars.flatMap String.utf8EncodeChar).length ≤ fuel) :
    units (utf8Step false) fuel (chars.flatMap String.utf8EncodeChar) =
      chars.map fun char => some char.toNat := by
  induction chars generalizing fuel with
  | nil => cases fuel <;> rfl
  | cons char chars ih =>
      obtain ⟨byte, tail, bytes, step⟩ :=
        utf8Step_encodeChar char (chars.flatMap String.utf8EncodeChar)
      rw [List.flatMap_cons, bytes, List.cons_append, List.length_cons,
        List.length_append] at enough
      cases fuel with
      | zero => omega
      | succ fuel =>
          rw [List.flatMap_cons, bytes, List.cons_append, units, step,
            ih fuel (by omega)]
          rfl

/-- The bytes of a text are decoded to the text. -/
theorem ignoring_toUTF8 (text : String) :
    ignoring (decode (utf8Step false) text.toUTF8.toList) = text := by
  have chars : (text.toList.map fun char => some char.toNat).filterMap id =
      text.toList.map Char.toNat := by
    simp [List.filterMap_map]
  have same : charOf ∘ Char.toNat = id := funext charOf_toNat
  rw [toList_toUTF8, decode, units_encode _ _ (Nat.le_refl _), ignoring, chars,
    List.map_map, same, List.map_id, String.ofList_toList]

end TextDecoding
