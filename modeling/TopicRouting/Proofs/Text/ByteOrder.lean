import TopicRouting.Text.CharacterSet

set_option autoImplicit false

namespace TopicRouting

def bytes (text : String) : List UInt8 := text.toUTF8.data.toList

theorem bytes_characters (text : String) :
    bytes text = text.toList.flatMap String.utf8EncodeChar := by
  rw [bytes, String.toUTF8_eq_toByteArray, ← String.utf8Encode_toList, List.utf8Encode]
  simp

theorem byte_less_iff (a b : Nat) :
    UInt8.ofNat a < UInt8.ofNat b ↔ a % 256 < b % 256 := by
  rw [UInt8.lt_iff_toNat_lt, UInt8.toNat_ofNat', UInt8.toNat_ofNat']

theorem byte_same_iff (a b : Nat) : UInt8.ofNat a = UInt8.ofNat b ↔ a % 256 = b % 256 := by
  rw [← UInt8.toNat_inj, UInt8.toNat_ofNat', UInt8.toNat_ofNat']

theorem encode_less (a b : Char) (less : a < b) (front back : List UInt8) :
    String.utf8EncodeChar a ++ front < String.utf8EncodeChar b ++ back := by
  have codes : a.val.toNat < b.val.toNat := less
  have bound : b.val.toNat < 1114112 := by
    have valid := b.valid
    unfold UInt32.isValidChar Nat.isValidChar at valid
    omega
  have digits : ∀ v : Nat, v / 4096 = v / 64 / 64 ∧ v / 262144 = v / 64 / 64 / 64 := by omega
  unfold String.utf8EncodeChar
  generalize a.val.toNat = x at codes
  generalize b.val.toNat = y at codes bound
  simp only [digits]
  clear digits
  repeat' split
  all_goals
    simp only [List.cons_append, List.nil_append, List.cons_lt_cons_iff, byte_less_iff,
      byte_same_iff]
    omega

theorem characters_less (a b : List Char) (less : a < b) :
    a.flatMap String.utf8EncodeChar < b.flatMap String.utf8EncodeChar := by
  induction a generalizing b with
  | nil =>
      cases b with
      | nil => cases less
      | cons d later =>
          obtain ⟨first, others, encoded⟩ :=
            List.exists_cons_of_ne_nil (String.utf8EncodeChar_ne_nil (c := d))
          rw [List.flatMap_cons, encoded]
          exact List.nil_lt_cons first _
  | cons c rest ih =>
      cases b with
      | nil => cases less
      | cons d later =>
          rw [List.flatMap_cons, List.flatMap_cons]
          rcases List.cons_lt_cons_iff.mp less with smaller | ⟨rfl, behind⟩
          · exact encode_less c d smaller _ _
          · exact List.append_left_lt (ih later behind)

theorem bytes_less (a b : String) (less : a < b) : bytes a < bytes b := by
  rw [bytes_characters, bytes_characters]
  exact characters_less a.toList b.toList less

end TopicRouting
