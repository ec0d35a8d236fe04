import BrowserPolicy.Http.HeaderValue
import Mathlib

namespace BrowserPolicy.Http

def spoilsField (c : Char) : Bool :=
  c.toNat ≤ 0x1F && c != '\t' || c.toNat == 0x7F

def Unsendable (text : String) : Prop :=
  ∃ c ∈ text.toList, spoilsField c = true

instance (text : String) : Decidable (Unsendable text) :=
  decidable_of_iff (text.toList.any spoilsField = true) List.any_eq_true

theorem spoilsField_iff {c : Char} :
    spoilsField c = true ↔ c.toNat ≤ 0x1F ∧ c.toNat ≠ 0x09 ∨ c.toNat = 0x7F := by
  simp [spoilsField, ← Char.toNat_inj]

theorem spoilsField_of_printable {c : Char} (hlow : 0x20 ≤ c.toNat) (hdelete : c.toNat ≠ 0x7F) :
    spoilsField c = false := by
  rw [← Bool.not_eq_true, spoilsField_iff]
  omega

theorem isFieldOctet_iff {b : UInt8} :
    isFieldOctet b = true ↔ b.toNat = 0x09 ∨ 0x20 ≤ b.toNat ∧ b.toNat ≠ 0x7F := by
  simp [isFieldOctet, UInt8.le_iff_toNat_le, ← UInt8.toNat_inj]

theorem isFieldOctet_of_le {b : UInt8} (h : 0x80 ≤ b.toNat) : isFieldOctet b = true :=
  isFieldOctet_iff.2 (Or.inr ⟨by omega, by omega⟩)

theorem isFieldOctet_ofNat_of_lt {c : Char} (h : c.toNat < 0x80) :
    isFieldOctet (UInt8.ofNat c.toNat) = !spoilsField c := by
  have hoctet : (UInt8.ofNat c.toNat).toNat = c.toNat := by
    rw [UInt8.toNat_ofNat']
    omega
  rw [Bool.eq_iff_iff, Bool.not_eq_true', ← Bool.not_eq_true, isFieldOctet_iff, spoilsField_iff,
    hoctet]
  omega

theorem utf8EncodeChar_of_lt {c : Char} (h : c.toNat < 0x80) :
    String.utf8EncodeChar c = [UInt8.ofNat c.toNat] :=
  if_pos (Nat.le_of_lt_succ h)

/-- All octets of a character outside ASCII have the highest bit. -/
theorem le_toNat_of_mem_utf8EncodeChar {c : Char} (h : 0x80 ≤ c.toNat) {b : UInt8}
    (hb : b ∈ String.utf8EncodeChar c) : 0x80 ≤ b.toNat := by
  have hmore : ¬ c.val.toNat ≤ 127 := Nat.not_le.2 h
  -- Whether two, three or four octets: each is a remainder with the highest bit added.
  simp only [String.utf8EncodeChar, if_neg hmore] at hb
  split at hb
  · simp only [List.mem_cons, List.not_mem_nil, or_false] at hb
    rcases hb with rfl | rfl <;> simp only [UInt8.toNat_ofNat'] <;> omega
  · split at hb
    · simp only [List.mem_cons, List.not_mem_nil, or_false] at hb
      rcases hb with rfl | rfl | rfl <;> simp only [UInt8.toNat_ofNat'] <;> omega
    · simp only [List.mem_cons, List.not_mem_nil, or_false] at hb
      rcases hb with rfl | rfl | rfl | rfl <;> simp only [UInt8.toNat_ofNat'] <;> omega

/-- The octets of a character can be sent exactly when it is no such control character. -/
theorem all_isFieldOctet_utf8EncodeChar (c : Char) :
    (String.utf8EncodeChar c).all isFieldOctet = !spoilsField c := by
  by_cases hascii : c.toNat < 0x80
  · rw [utf8EncodeChar_of_lt hascii, List.all_cons, List.all_nil, Bool.and_true,
      isFieldOctet_ofNat_of_lt hascii]
  · have hbeyond : 0x80 ≤ c.toNat := Nat.le_of_not_lt hascii
    rw [spoilsField_of_printable (by omega) (by omega), Bool.not_false, List.all_eq_true]
    intro b hb
    exact isFieldOctet_of_le (le_toNat_of_mem_utf8EncodeChar hbeyond hb)

/-- A text is refused for a character that no field can hold, and for nothing else. -/
theorem ofText?_eq_none_iff {text : String} :
    HeaderValue.ofText? text = none ↔ Unsendable text := by
  have hvalid : (Text.octets text).all isFieldOctet = true ↔ ¬ Unsendable text := by
    simp only [Text.octets, List.all_flatMap, all_isFieldOctet_utf8EncodeChar, Unsendable,
      List.all_eq_true, Bool.not_eq_true', not_exists, not_and, Bool.not_eq_true]
  simp only [HeaderValue.ofText?, dite_eq_right_iff, reduceCtorEq, imp_false, hvalid, not_not]

theorem unsendable_append {a b : String} :
    Unsendable (a ++ b) ↔ Unsendable a ∨ Unsendable b := by
  simp only [Unsendable, String.toList_append, List.mem_append, or_and_right, exists_or]

/-- A join cannot be sent when one of its texts cannot, as long as the separator can. -/
theorem unsendable_intercalate {separator : String} (h : ¬ Unsendable separator)
    {texts : List String} :
    Unsendable (separator.intercalate texts) ↔ ∃ text ∈ texts, Unsendable text := by
  induction texts with
  | nil => simp [Unsendable]
  | cons first rest ih =>
    by_cases hnil : rest = []
    · simp [hnil]
    · rw [String.intercalate_cons_of_ne_nil hnil, unsendable_append, unsendable_append, ih]
      simp [h]

end BrowserPolicy.Http
