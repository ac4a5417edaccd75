import Mathlib.Data.List.Basic

namespace Foundation

/-!
# The bytes of texts

The bytes of a text are those of its characters, one character behind the
other, and for characters up to 127 one byte each.
-/

/-- The bytes of an array from an index on. -/
theorem toList_loop
    (bytes : ByteArray)
    (i : Nat)
    (reversed : List UInt8) :
    ByteArray.toList.loop bytes i reversed =
      reversed.reverse ++ bytes.data.toList.drop i := by
  fun_induction ByteArray.toList.loop bytes i reversed with
  | case1 i reversed inside inductionHypothesis =>
      have inList : i < bytes.data.toList.length := inside
      rw [inductionHypothesis, List.drop_eq_getElem_cons inList]
      simp [ByteArray.get!, getElem!_pos, inside]
  | case2 i reversed outside =>
      have behind : bytes.data.toList.length ≤ i := Nat.le_of_not_lt outside
      rw [List.drop_of_length_le behind, List.append_nil]

theorem byteArray_toList
    (bytes : ByteArray) :
    bytes.toList = bytes.data.toList := by
  rw [ByteArray.toList, toList_loop]
  rfl

/-- The bytes of a text, character by character. -/
theorem utf8_eq_flatMap
    (text : String) :
    text.toUTF8.toList = text.toList.flatMap String.utf8EncodeChar := by
  rw [byteArray_toList]
  have isEncoded : text.toUTF8 = text.toList.utf8Encode :=
    String.utf8Encode_toList.symm
  rw [isEncoded, List.utf8Encode, List.toList_data_toByteArray]

/-- Bytes of texts follow each other. -/
theorem utf8_append
    (first second : String) :
    (first ++ second).toUTF8.toList =
      first.toUTF8.toList ++ second.toUTF8.toList := by
  simp only [utf8_eq_flatMap, String.toList_append, List.flatMap_append]

/-- Characters up to 127 have one byte each. -/
theorem utf8_length_of_ascii
    {text : String}
    (ascii : ∀ c ∈ text.toList, c.val ≤ 127) :
    text.toUTF8.toList.length = text.toList.length := by
  rw [utf8_eq_flatMap]
  generalize text.toList = chars at ascii
  induction chars with
  | nil =>
      rfl
  | cons c rest inductionHypothesis =>
      have isByte : c.utf8Size = 1 :=
        Char.utf8Size_eq_one_iff.mpr (ascii c (List.mem_cons_self ..))
      rw [List.flatMap_cons, List.length_append, List.length_cons,
        String.length_utf8EncodeChar, isByte,
        inductionHypothesis fun other member =>
          ascii other (List.mem_cons_of_mem c member)]
      exact Nat.add_comm _ _

end Foundation
