import Mathlib.Algebra.Group.Nat.Defs
import A2dp.Octets

/-!
# The order of numerals and key texts

Numerals of one width are compared octet by octet as their numbers are: the digits before the last
one decide, then the last one, and the octets of the sixteen digits ascend with their values. Fronts
of one length decide before what follows them, so the text of a key, two numerals of fixed widths,
has the order of the key.
-/

namespace A2dp

namespace Text

/-- The octets of a text, as it is stored. -/
def octets (text : String) : Octets := text.toUTF8.data.toList

@[simp] theorem octets_append (text other : String) :
    octets (text ++ other) = octets text ++ octets other := by
  simp [octets]

@[simp] theorem octets_ofList (cs : List Char) :
    octets (String.ofList cs) = cs.flatMap String.utf8EncodeChar := by
  simp [octets, List.utf8Encode]

/-- Fronts of one length are compared before what follows them. -/
theorem compare_append {front front' : Octets} (h : front.length = front'.length)
    (rest rest' : Octets) :
    compare (front ++ rest) (front' ++ rest') =
      (compare front front').then (compare rest rest') := by
  induction front generalizing front' with
  | nil =>
    rw [List.eq_nil_of_length_eq_zero h.symm]
    simp
  | cons x front ih =>
    cases front' with
    | nil => cases h
    | cons y front' =>
      have hlength : front.length = front'.length := Nat.succ.inj h
      simp only [List.cons_append, List.compare_cons_cons, ih hlength, Ordering.then_assoc]

private theorem compare_append_left (front rest rest' : Octets) :
    compare (front ++ rest) (front ++ rest') = compare rest rest' := by
  rw [compare_append rfl, Std.compare_self, Ordering.eq_then]

end Text

namespace Hex

open Text (octets)

private theorem compare_split (m n : Nat) :
    compare m n = (compare (m / 16) (n / 16)).then (compare (m % 16) (n % 16)) := by
  cases h : compare (m / 16) (n / 16) with
  | lt =>
    have hlt := Nat.compare_eq_lt.mp h
    exact Nat.compare_eq_lt.mpr (by omega)
  | gt =>
    have hgt := Nat.compare_eq_gt.mp h
    exact Nat.compare_eq_gt.mpr (by omega)
  | eq =>
    have heq := Nat.compare_eq_eq.mp h
    have hlt : m < n ↔ m % 16 < n % 16 := by omega
    have hgt : n < m ↔ n % 16 < m % 16 := by omega
    simp only [Ordering.eq_then, Nat.compare_eq_ite_lt, hlt, hgt]

private theorem length_utf8_digit : ∀ n < 16, (String.utf8EncodeChar (digit n)).length = 1 := by
  decide

-- the letters come behind the decimal digits also as octets
private theorem compare_utf8_digit : ∀ m < 16, ∀ n < 16,
    compare (String.utf8EncodeChar (digit m)) (String.utf8EncodeChar (digit n)) = compare m n := by
  decide

private theorem utf8_digits_succ (width n : Nat) :
    (digits (width + 1) n).flatMap String.utf8EncodeChar =
      (digits width (n / 16)).flatMap String.utf8EncodeChar ++
        String.utf8EncodeChar (digit (n % 16)) := by
  simp [digits]

private theorem length_utf8_digits (width n : Nat) :
    ((digits width n).flatMap String.utf8EncodeChar).length = width := by
  induction width generalizing n with
  | zero => rfl
  | succ width ih =>
    have hdigit := length_utf8_digit (n % 16) (Nat.mod_lt n (by decide))
    rw [utf8_digits_succ, List.length_append, ih, hdigit]

private theorem compare_utf8_digits {width m n : Nat} (hm : m < 16 ^ width) (hn : n < 16 ^ width) :
    compare ((digits width m).flatMap String.utf8EncodeChar)
      ((digits width n).flatMap String.utf8EncodeChar) = compare m n := by
  induction width generalizing m n with
  | zero =>
    rw [Nat.lt_one_iff.mp hm, Nat.lt_one_iff.mp hn]
    rfl
  | succ width ih =>
    have hm' : m / 16 < 16 ^ width := (Nat.div_lt_iff_lt_mul (by decide)).mpr hm
    have hn' : n / 16 < 16 ^ width := (Nat.div_lt_iff_lt_mul (by decide)).mpr hn
    have hlength := (length_utf8_digits width (m / 16)).trans
      (length_utf8_digits width (n / 16)).symm
    have hlast := compare_utf8_digit (m % 16) (Nat.mod_lt m (by decide)) (n % 16)
      (Nat.mod_lt n (by decide))
    rw [utf8_digits_succ, utf8_digits_succ, Text.compare_append hlength, ih hm' hn', hlast,
      ← compare_split]

theorem length_numeral (width n : Nat) : (numeral width n).length = 2 + width := by
  have hmark : "0x".length = 2 := rfl
  rw [numeral, String.length_append, hmark, String.length_ofList, length_digits]

private theorem octets_numeral (width n : Nat) :
    octets (numeral width n) =
      octets "0x" ++ (digits width n).flatMap String.utf8EncodeChar := by
  simp [numeral]

private theorem length_octets_numeral (width n : Nat) :
    (octets (numeral width n)).length = 2 + width := by
  rw [octets_numeral, List.length_append, length_utf8_digits]
  rfl

/-- Numerals of one width have the order of their numbers. -/
theorem compare_octets_numeral {width m n : Nat} (hm : m < 16 ^ width) (hn : n < 16 ^ width) :
    compare (octets (numeral width m)) (octets (numeral width n)) = compare m n := by
  rw [octets_numeral, octets_numeral, Text.compare_append_left, compare_utf8_digits hm hn]

theorem eq_of_numeral_eq {width m n : Nat} (hm : m < 16 ^ width) (hn : n < 16 ^ width)
    (h : numeral width m = numeral width n) : m = n := by
  rw [← Nat.compare_eq_eq, ← compare_octets_numeral hm hn, h, Std.compare_self]

end Hex

namespace CodecKey

open Text (octets)

-- `compare` is that of keys here, that of other types is written in full

private theorem compare_vendorId (a b : CodecKey) :
    Ord.compare a.vendorId b.vendorId = Ord.compare a.vendorId.toNat b.vendorId.toNat := by
  simp only [Ord.compare, compareOfLessAndEq, UInt32.lt_iff_toNat_lt, UInt32.toNat_inj]

private theorem compare_codecId (a b : CodecKey) :
    Ord.compare a.codecId b.codecId = Ord.compare a.codecId.toNat b.codecId.toNat := by
  simp only [Ord.compare, compareOfLessAndEq, UInt16.lt_iff_toNat_lt, UInt16.toNat_inj]

private theorem compare_eq_lt_iff {a b : CodecKey} :
    a.compare b = .lt ↔
      a.vendorId < b.vendorId ∨ a.vendorId = b.vendorId ∧ a.codecId < b.codecId := by
  rw [compare, Ordering.then_eq_lt, Std.compare_eq_iff_eq, compare_vendorId, compare_codecId,
    Nat.compare_eq_lt, Nat.compare_eq_lt, UInt32.lt_iff_toNat_lt, UInt16.lt_iff_toNat_lt]

private theorem compare_eq_eq_iff {a b : CodecKey} : a.compare b = .eq ↔ a = b := by
  obtain ⟨vendorId, codecId⟩ := a
  obtain ⟨vendorId', codecId'⟩ := b
  rw [compare, Ordering.then_eq_eq, Std.compare_eq_iff_eq, Std.compare_eq_iff_eq, mk.injEq]

private theorem compare_octets_vendorText (a b : CodecKey) :
    Ord.compare (octets a.vendorText) (octets b.vendorText) =
      Ord.compare a.vendorId b.vendorId := by
  rw [compare_vendorId]
  exact Hex.compare_octets_numeral a.vendorId.toNat_lt b.vendorId.toNat_lt

private theorem compare_octets_codecText (a b : CodecKey) :
    Ord.compare (octets a.codecText) (octets b.codecText) = Ord.compare a.codecId b.codecId := by
  rw [compare_codecId]
  exact Hex.compare_octets_numeral a.codecId.toNat_lt b.codecId.toNat_lt

private theorem octets_text (key : CodecKey) :
    octets key.text = octets key.vendorText ++ (octets ":" ++ octets key.codecText) := by
  simp [text]

private theorem compare_octets_text (a b : CodecKey) :
    Ord.compare (octets a.text) (octets b.text) = a.compare b := by
  have hlength : (octets a.vendorText).length = (octets b.vendorText).length :=
    (Hex.length_octets_numeral _ _).trans (Hex.length_octets_numeral _ _).symm
  calc Ord.compare (octets a.text) (octets b.text)
    _ = (Ord.compare (octets a.vendorText) (octets b.vendorText)).then
          (Ord.compare (octets ":" ++ octets a.codecText) (octets ":" ++ octets b.codecText)) := by
        rw [octets_text, octets_text, Text.compare_append hlength]
    _ = (Ord.compare a.vendorId b.vendorId).then (Ord.compare a.codecId b.codecId) := by
        rw [compare_octets_vendorText, Text.compare_append_left, compare_octets_codecText]

private theorem length_text (key : CodecKey) : key.text.length = 17 := by
  rw [text, String.length_append, String.length_append, vendorText, codecText,
    Hex.length_numeral, Hex.length_numeral]
  rfl

/-- Texts compare octet by octet as their keys do: by vendor, and for one vendor by codec. All of
them have one length, and different keys have different texts. -/
theorem text_order_preserving (a b : CodecKey) :
    Ord.compare (octets a.text) (octets b.text) = a.compare b ∧
    (a.compare b = .lt ↔
      a.vendorId < b.vendorId ∨ a.vendorId = b.vendorId ∧ a.codecId < b.codecId) ∧
    (a.compare b = .eq ↔ a = b) ∧
    a.text.length = 17 ∧
    (a.text = b.text ↔ a = b) := by
  refine ⟨compare_octets_text a b, compare_eq_lt_iff, compare_eq_eq_iff, length_text a, ?_⟩
  constructor
  · intro h
    rw [← compare_eq_eq_iff, ← compare_octets_text, h, Std.compare_self]
  · exact congrArg text

-- A letter stands behind a decimal digit, and no codec makes up for the vendor.
example : Ord.compare (octets (mk 0x9 0xFFFF).text) (octets (mk 0xA 0x0).text) = .lt := by
  decide +kernel

end CodecKey

end A2dp
