import Mathlib.Data.List.Basic
import Mathlib.Data.String.Basic

/-!
# The Order of Texts

Texts are compared character by character. The encoding of characters as bytes respects their
order, and no encoding is the beginning of another, so that comparing the bytes comes to the same.

* `Text.le_iff_bytes_le`: texts are in the order of their bytes.
-/

namespace BuildScope.Text

/-- The bytes of a text. -/
def bytes (text : String) : List UInt8 :=
  text.toUTF8.data.toList

theorem bytes_eq_flatMap (text : String) :
    bytes text = text.toList.flatMap String.utf8EncodeChar := by
  conv_lhs => rw [← String.ofList_toList (s := text)]
  rw [bytes, String.toUTF8_eq_toByteArray, String.toByteArray_ofList, List.utf8Encode,
    List.toList_data_toByteArray]

/-- A character has bytes. -/
theorem utf8EncodeChar_ne_nil (c : Char) : String.utf8EncodeChar c ≠ [] := by
  rw [← List.length_pos_iff, String.length_utf8EncodeChar]
  exact c.utf8Size_pos

/-- The bytes of a character tell whether it comes before another, whatever follows. -/
theorem utf8EncodeChar_append_lt {c d : Char} (h : c < d) (rest other : List UInt8) :
    String.utf8EncodeChar c ++ rest < String.utf8EncodeChar d ++ other := by
  have hlt : c.val.toNat < d.val.toNat := UInt32.lt_iff_toNat_lt.1 h
  have hd : d.val.toNat < 0x110000 := by
    have hvalid := d.valid
    simp only [UInt32.isValidChar, Nat.isValidChar] at hvalid
    omega
  unfold String.utf8EncodeChar
  dsimp only
  generalize c.val.toNat = v at hlt
  generalize d.val.toNat = w at hlt hd
  have hbyte {m n : Nat} (hm : m < 256) (hn : n < 256) :
      UInt8.ofNat m < UInt8.ofNat n ↔ m < n := by
    rw [UInt8.lt_iff_toNat_lt, UInt8.toNat_ofNat', UInt8.toNat_ofNat', Nat.mod_eq_of_lt hm,
      Nat.mod_eq_of_lt hn]
  have hbyte_eq {m n : Nat} (hm : m < 256) (hn : n < 256) :
      UInt8.ofNat m = UInt8.ofNat n ↔ m = n := by
    rw [← UInt8.toNat_inj, UInt8.toNat_ofNat', UInt8.toNat_ofNat', Nat.mod_eq_of_lt hm,
      Nat.mod_eq_of_lt hn]
  -- of two numbers, the smaller one has smaller higher digits, or the same and a smaller last one
  have hlast (m n : Nat) : m < n → m / 64 < n / 64 ∨ m / 64 = n / 64 ∧ m % 64 < n % 64 := by omega
  have hfirst := hlast v w hlt
  have hsecond := hlast (v / 64) (w / 64)
  have hthird := hlast (v / 4096) (w / 4096)
  rw [Nat.div_div_eq_div_mul, Nat.div_div_eq_div_mul] at hsecond hthird
  have hv : v / 262144 % 8 = v / 262144 := Nat.mod_eq_of_lt (by omega)
  have hw : w / 262144 % 8 = w / 262144 := Nat.mod_eq_of_lt (by omega)
  -- one case for each two numbers of bytes
  split_ifs
  all_goals
    simp (disch := omega) only [List.cons_append, List.nil_append, List.cons_lt_cons_iff, hv, hw,
      hbyte, hbyte_eq]
    omega

/-- What characters spell comes in their order. -/
theorem flatMap_utf8EncodeChar_lt {text other : List Char} (h : text < other) :
    text.flatMap String.utf8EncodeChar < other.flatMap String.utf8EncodeChar := by
  induction text generalizing other with
  | nil =>
    cases other with
    | nil => exact absurd h (List.lt_irrefl _)
    | cons d other =>
      rw [List.flatMap_cons, List.flatMap_nil]
      cases hbytes : String.utf8EncodeChar d with
      | nil => exact absurd hbytes (utf8EncodeChar_ne_nil d)
      | cons byte bytes => exact List.nil_lt_cons _ _
  | cons c text ih =>
    cases other with
    | nil => exact absurd h (List.not_lt_nil _)
    | cons d other =>
      rw [List.flatMap_cons, List.flatMap_cons]
      -- the first characters differ, or are the same and the rest decides
      rcases List.cons_lt_cons_iff.1 h with hlt | ⟨rfl, hlt⟩
      · exact utf8EncodeChar_append_lt hlt _ _
      · exact List.append_left_lt (ih hlt)

theorem bytes_lt_of_lt {text other : String} (h : text < other) : bytes text < bytes other := by
  rw [bytes_eq_flatMap, bytes_eq_flatMap]
  exact flatMap_utf8EncodeChar_lt h

/-- One text comes before another as its bytes do. -/
theorem lt_iff_bytes_lt {text other : String} : text < other ↔ bytes text < bytes other := by
  refine ⟨bytes_lt_of_lt, fun h => String.not_le.1 fun hge => ?_⟩
  by_cases heq : other = text
  · rw [heq] at h
    exact List.lt_irrefl _ h
  · have hlt : other < text := String.not_le.1 fun hle => heq (String.le_antisymm hge hle)
    exact List.lt_asymm (bytes_lt_of_lt hlt) h

theorem compare_eq_lt_iff_bytes_lt {text other : String} :
    compare text other = .lt ↔ bytes text < bytes other := by
  rw [compare_lt_iff_lt, lt_iff_bytes_lt]

/-- Texts are in the order of their bytes. -/
theorem le_iff_bytes_le {text other : String} : text ≤ other ↔ bytes text ≤ bytes other := by
  rw [← String.not_lt, lt_iff_bytes_lt, List.not_lt]

end BuildScope.Text
