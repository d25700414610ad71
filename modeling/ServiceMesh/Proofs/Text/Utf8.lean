-- The UTF-8 bytes of a text: character by character, and back to the text.
import ServiceMesh.Json.Reader

namespace ServiceMesh.Text

/-- The bytes of some characters. -/
def utf8 (cs : List Char) : List UInt8 := cs.flatMap String.utf8EncodeChar

@[simp]
theorem utf8_nil : utf8 [] = [] := rfl

theorem utf8_cons (c : Char) (cs : List Char) :
    utf8 (c :: cs) = String.utf8EncodeChar c ++ utf8 cs := List.flatMap_cons

theorem utf8_append (cs ds : List Char) : utf8 (cs ++ ds) = utf8 cs ++ utf8 ds :=
  List.flatMap_append

/-! ## Bytes as lists -/

theorem toList_loop (b : ByteArray) (i : Nat) (seen : List UInt8) :
    ByteArray.toList.loop b i seen = seen.reverse ++ b.data.toList.drop i := by
  fun_induction ByteArray.toList.loop b i seen with
  | case1 i seen h ih =>
    have hget : b.get! i = b.data.toList.get ⟨i, h⟩ := by
      change b.data[i]! = _
      rw [getElem!_pos b.data i h]
      rfl
    rw [ih, hget, List.drop_eq_getElem_cons h]
    simp
  | case2 i seen h =>
    have none : b.data.toList.drop i = [] := List.drop_eq_nil_of_le (Nat.le_of_not_lt h)
    rw [none, List.append_nil]

theorem byteArray_toList (b : ByteArray) : b.toList = b.data.toList :=
  toList_loop b 0 []

theorem bytes_toUTF8 (s : String) : s.toUTF8.toList = utf8 s.toList := by
  have hbytes : s.toUTF8 = s.toList.utf8Encode := String.utf8Encode_toList.symm
  rw [byteArray_toList, hbytes]
  unfold List.utf8Encode utf8
  simp

/-- The bytes of a text are read as that text. -/
theorem textOfBytes_utf8 (cs : List Char) :
    Json.Reader.textOfBytes? (utf8 cs) = some (String.ofList cs) := by
  have hbytes : (⟨(utf8 cs).toArray⟩ : ByteArray) = cs.utf8Encode := by
    apply ByteArray.ext
    unfold List.utf8Encode utf8
    simp
  have valid : ByteArray.IsValidUTF8 ⟨(utf8 cs).toArray⟩ := by
    rw [hbytes]
    exact ByteArray.isValidUTF8_utf8Encode
  unfold Json.Reader.textOfBytes? String.fromUTF8?
  rw [dif_pos valid]
  simp only [String.fromUTF8, hbytes, String.ofList]

/-! ## Characters -/

theorem toNat_ofNat_ascii : ∀ n < 128, (Char.ofNat n).toNat = n := by decide

/-- A character of ASCII is one byte. -/
theorem utf8EncodeChar_ascii {c : Char} (h : c.toNat < 128) :
    String.utf8EncodeChar c = [c.toNat.toUInt8] := by
  have hval : c.val.toNat ≤ 0x7f := Nat.le_of_lt_succ h
  unfold String.utf8EncodeChar
  simp only [if_pos hval]
  rfl

theorem le_toUInt8 {n : Nat} (h : 128 ≤ n) (hn : n < 256) : 128 ≤ n.toUInt8 := by
  rw [UInt8.le_iff_toNat_le]
  have hsame : n.toUInt8.toNat = n := by
    rw [Nat.toUInt8, UInt8.toNat_ofNat']
    omega
  rw [hsame]
  exact h

/-- Any other character has only bytes beyond ASCII. -/
theorem le_of_mem_utf8EncodeChar {c : Char} (h : 128 ≤ c.toNat) :
    ∀ b ∈ String.utf8EncodeChar c, 128 ≤ b := by
  have hval : ¬ c.val.toNat ≤ 0x7f := Nat.not_le.mpr h
  unfold String.utf8EncodeChar
  simp only [if_neg hval]
  intro b hb
  split at hb
  · simp only [List.mem_cons, List.not_mem_nil, or_false] at hb
    rcases hb with rfl | rfl <;> exact le_toUInt8 (by omega) (by omega)
  · split at hb
    · simp only [List.mem_cons, List.not_mem_nil, or_false] at hb
      rcases hb with rfl | rfl | rfl <;> exact le_toUInt8 (by omega) (by omega)
    · simp only [List.mem_cons, List.not_mem_nil, or_false] at hb
      rcases hb with rfl | rfl | rfl | rfl <;> exact le_toUInt8 (by omega) (by omega)

end ServiceMesh.Text
