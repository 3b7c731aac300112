import CommandShell.LineSource
import Mathlib.Tactic.Basic

/-!
# Texts and their bytes

A text has certain bytes, and no other text has the same ones. Main statements: the bytes of a text
are those of its characters (`utf8_eq`), and bytes are read as the text whose bytes they are
(`LineSource.textOfBytes_eq_some_iff`).
-/

namespace CommandShell

/-- A sequence of bytes is listed in its own order. -/
theorem toList_byteArray (bytes : ByteArray) : bytes.toList = bytes.data.toList := by
  have hloop : ∀ (i : Nat) (before : List UInt8),
      ByteArray.toList.loop bytes i before = before.reverse ++ bytes.data.toList.drop i := by
    intro i before
    fun_induction ByteArray.toList.loop bytes i before with
    | case1 i before h ih =>
      have hlt : i < bytes.data.toList.length := by simpa using h
      rw [ih, List.drop_eq_getElem_cons hlt, List.reverse_cons, List.append_assoc]
      simp [ByteArray.get!, getElem!_pos bytes.data i hlt]
    | case2 i before h =>
      rw [List.drop_eq_nil_of_le (by simpa using h), List.append_nil]
  rw [ByteArray.toList, hloop]
  simp

theorem utf8_eq_data (text : String) : utf8 text = text.toByteArray.data.toList := by
  rw [utf8, String.toUTF8, toList_byteArray]

/-- The bytes of a text are those of its characters. -/
theorem utf8_eq (text : String) : utf8 text = text.toList.flatMap String.utf8EncodeChar := by
  obtain ⟨chars, rfl⟩ : ∃ chars, text = String.ofList chars :=
    ⟨text.toList, String.ofList_toList.symm⟩
  rw [utf8_eq_data, String.toByteArray_ofList, List.utf8Encode]
  simp

@[simp] theorem utf8_empty : utf8 "" = [] := by
  rw [utf8_eq]
  rfl

/-- Only the empty text has no bytes. -/
theorem utf8_eq_nil_iff {text : String} : utf8 text = [] ↔ text = "" := by
  refine ⟨fun h => ?_, by rintro rfl; exact utf8_empty⟩
  rw [utf8_eq, List.flatMap_eq_nil_iff] at h
  exact String.toList_eq_nil_iff.mp
    (List.eq_nil_iff_forall_not_mem.mpr fun c hc => String.utf8EncodeChar_ne_nil (h c hc))

theorem utf8_append (text more : String) : utf8 (text ++ more) = utf8 text ++ utf8 more := by
  rw [utf8_eq, utf8_eq, utf8_eq, String.toList_append, List.flatMap_append]

/-- Bytes are read as the text whose bytes they are. -/
theorem LineSource.textOfBytes_eq_some_iff {bytes : Bytes} {text : String} :
    textOfBytes bytes = some text ↔ utf8 text = bytes := by
  rw [textOfBytes, String.fromUTF8?, utf8_eq_data]
  constructor
  · intro h
    split at h
    · cases h
      rfl
    · cases h
  · rintro rfl
    rw [dif_pos text.isValidUTF8]
    rfl

end CommandShell
