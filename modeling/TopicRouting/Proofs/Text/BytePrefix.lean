import TopicRouting.Proofs.Text.ByteOrder
import TopicRouting.Topic.Segment

set_option autoImplicit false

namespace TopicRouting

def separatorByte : UInt8 := 46

theorem bytes_length (text : String) : (bytes text).length = text.utf8ByteSize := by
  simp [bytes]

theorem encode_once (a b : Char) (front back : List UInt8)
    (same : String.utf8EncodeChar a ++ front = String.utf8EncodeChar b ++ back) :
    a = b ∧ front = back := by
  have equal : a = b := by
    by_cases less : a < b
    · have before := encode_less a b less front back
      rw [same] at before
      exact absurd before (List.lt_irrefl _)
    · by_cases more : b < a
      · have before := encode_less b a more back front
        rw [same] at before
        exact absurd before (List.lt_irrefl _)
      · exact Char.le_antisymm (Char.not_lt.mp more) (Char.not_lt.mp less)
  subst equal
  exact ⟨rfl, List.append_cancel_left same⟩

theorem characters_start (a b : List Char) :
    a.flatMap String.utf8EncodeChar <+: b.flatMap String.utf8EncodeChar ↔ a <+: b := by
  induction a generalizing b with
  | nil => simp
  | cons c rest ih =>
      cases b with
      | nil => simp [String.utf8EncodeChar_ne_nil]
      | cons d later =>
          rw [List.flatMap_cons, List.flatMap_cons, List.cons_prefix_cons]
          constructor
          · rintro ⟨more, same⟩
            rw [List.append_assoc] at same
            obtain ⟨rfl, behind⟩ := encode_once c d _ _ same
            exact ⟨rfl, (ih later).mp ⟨more, behind⟩⟩
          · rintro ⟨rfl, starts⟩
            obtain ⟨more, same⟩ := (ih later).mpr starts
            exact ⟨more, by rw [List.append_assoc, same]⟩

theorem bytes_start (a b : String) : bytes a <+: bytes b ↔ a.toList <+: b.toList := by
  rw [bytes_characters, bytes_characters]
  exact characters_start a.toList b.toList

theorem encode_last (c : Char) :
    (String.utf8EncodeChar c).getLast? = some separatorByte ↔ c = separator := by
  have code : c = separator ↔ c.val.toNat = 46 := by
    rw [← Char.val_inj, ← UInt32.toNat_inj]
    rfl
  have byte : separatorByte = UInt8.ofNat 46 := rfl
  rw [code, byte]
  unfold String.utf8EncodeChar
  generalize c.val.toNat = v
  dsimp only
  -- By the number of bytes; the last of several is beyond 127.
  repeat' split
  all_goals
    simp only [List.getLast?_cons_cons, List.getLast?_singleton, Option.some.injEq, byte_same_iff]
    omega

theorem bytes_last (text : String) :
    (bytes text).getLast? = some separatorByte ↔ text.toList.getLast? = some separator := by
  rw [bytes_characters]
  rcases List.eq_nil_or_concat text.toList with empty | ⟨front, last, whole⟩
  · simp [empty]
  · have filled : (String.utf8EncodeChar last).getLast?.isSome := by
      simp [String.utf8EncodeChar_ne_nil]
    rw [whole, List.concat_eq_append, List.flatMap_append, List.flatMap_singleton,
      List.getLast?_append, Option.or_of_isSome filled, encode_last]
    simp

end TopicRouting
