set_option autoImplicit false

namespace TopicRouting

theorem numeral_clear (number : Nat) (c : Char) (other : c.isDigit = false) :
    c ∉ (toString number).toList := by
  intro member
  rw [Nat.toString_eq_repr, Nat.toList_repr] at member
  rw [Nat.isDigit_of_mem_toDigits (by decide) (by decide) member] at other
  cases other

theorem numbered_same (stem : String) (a b : Nat) (same : stem ++ toString a = stem ++ toString b) :
    a = b := by
  rw [String.append_right_inj, ← String.toList_inj, Nat.toString_eq_repr, Nat.toString_eq_repr,
    Nat.toList_repr, Nat.toList_repr] at same
  have read := congrArg (fun digits => Nat.ofDigitChars 10 digits 0) same
  rwa [Nat.ofDigitChars_ten_toDigits, Nat.ofDigitChars_ten_toDigits] at read

theorem text_bytes (characters : List Char) :
    (String.ofList characters).utf8ByteSize ≤ 4 * characters.length := by
  induction characters with
  | nil => decide
  | cons c characters ih =>
      have cut : String.ofList (c :: characters) =
          String.singleton c ++ String.ofList characters := by
        apply String.ext
        simp
      have one := c.utf8Size_le_four
      rw [cut, String.utf8ByteSize_append, String.utf8ByteSize_singleton, List.length_cons]
      omega

theorem numeral_bytes (number digits : Nat) (positive : 0 < digits)
    (small : number < Nat.pow 10 digits) : (toString number).utf8ByteSize ≤ 4 * digits := by
  have short := (Nat.length_toDigits_le_iff (by decide) positive).mpr small
  have bound := text_bytes (Nat.toDigits 10 number)
  rw [Nat.toString_eq_repr, Nat.repr_eq_ofList_toDigits]
  omega

end TopicRouting
