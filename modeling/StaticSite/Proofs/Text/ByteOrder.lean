import Mathlib.Tactic.SplitIfs

/-!
# The order of texts and the order of their bytes

Texts are compared by code point, character by character. In UTF-8 the encoding of a greater
character is greater at the first byte where the two differ, and none is the start of another, so
comparing the bytes gives the same order.

## Main results

* `Text.utf8EncodeChar_append_lt` — two different characters decide, whatever stands behind them
* `Text.lt_iff_utf8Bytes_lt` — texts are in order exactly when their bytes are
-/

namespace StaticSite.Text

/-- The bytes of a text in UTF-8. -/
def utf8Bytes (s : String) : List UInt8 :=
  s.toUTF8.data.toList

theorem utf8Bytes_eq (s : String) : utf8Bytes s = s.toList.flatMap String.utf8EncodeChar := by
  have hs : s.toUTF8 = (s.toList.flatMap String.utf8EncodeChar).toByteArray := by
    rw [String.toUTF8_eq_toByteArray, ← List.utf8Encode, ← String.toByteArray_ofList,
      String.ofList_toList]
  rw [utf8Bytes, hs, List.data_toByteArray]

/-- Of two numbers the greater one has the greater digit at the first place where they differ. -/
theorem digit_lt {m n : Nat} (h : m < n) : m / 64 < n / 64 ∨ m / 64 = n / 64 ∧ m % 64 < n % 64 := by
  omega

/-- **Two different characters decide**, whatever stands behind them. -/
theorem utf8EncodeChar_append_lt {c d : Char} (h : c < d) (s t : List UInt8) :
    String.utf8EncodeChar c ++ s < String.utf8EncodeChar d ++ t := by
  have hlt : c.val.toNat < d.val.toNat := UInt32.lt_iff_toNat_lt.1 (Char.lt_def.1 h)
  have hmax : d.val.toNat < 0x110000 := by
    have hvalid := d.valid
    simp only [UInt32.isValidChar, Nat.isValidChar] at hvalid
    omega
  simp only [String.utf8EncodeChar]
  generalize c.val.toNat = m at hlt ⊢
  generalize d.val.toNat = n at hlt hmax ⊢
  -- The first byte tells how many there are, and more bytes mean a greater first byte. With as many
  -- bytes, they are the digits of the code point to the base 64.
  have hlast := digit_lt hlt
  have hthird := @digit_lt (m / 64) (n / 64)
  have hsecond := @digit_lt (m / 64 / 64) (n / 64 / 64)
  simp only [Nat.div_div_eq_div_mul, Nat.reduceMul] at hthird hsecond
  split_ifs <;>
    simp (disch := omega) only [List.cons_append, List.nil_append, List.cons_lt_cons_iff,
      UInt8.lt_iff_toNat_lt, ← UInt8.toNat_inj, UInt8.toNat_ofNat', Nat.mod_eq_of_lt] <;> omega

theorem flatMap_utf8EncodeChar_lt {a b : List Char} (h : a < b) :
    a.flatMap String.utf8EncodeChar < b.flatMap String.utf8EncodeChar := by
  induction h with
  | @nil c rest =>
    rw [List.flatMap_nil, List.flatMap_cons]
    cases hc : String.utf8EncodeChar c with
    | nil => exact absurd hc String.utf8EncodeChar_ne_nil
    | cons x xs => exact List.nil_lt_cons _ _
  | rel hlt => exact utf8EncodeChar_append_lt hlt _ _
  | cons _ ih => exact List.append_left_lt ih

/-- **Texts are in order exactly when their bytes are.** -/
theorem lt_iff_utf8Bytes_lt {a b : String} : a < b ↔ utf8Bytes a < utf8Bytes b := by
  have hmono : ∀ {x y : String}, x < y → utf8Bytes x < utf8Bytes y := by
    intro x y hxy
    rw [utf8Bytes_eq, utf8Bytes_eq]
    exact flatMap_utf8EncodeChar_lt hxy
  refine ⟨hmono, fun h => ?_⟩
  -- Of two texts that are not in order the second is less or the same, and so are its bytes.
  refine Decidable.byContradiction fun hab => ?_
  by_cases hba : b < a
  · exact List.lt_asymm h (hmono hba)
  · have heq : a = b := String.le_antisymm (String.not_lt.1 hba) (String.not_lt.1 hab)
    rw [heq] at h
    exact List.lt_irrefl _ h

end StaticSite.Text
