import A2dp.Error
import A2dp.Octets
import A2dp.Text.Hex

/-!
# Reading hexadecimal digits

Decoding works on the octets of a text. It succeeds exactly if the text consists of digits of either
case that are the halves of octets in order: a character of several octets has one that is no digit,
so it does not matter that the octets are looked at and not the characters.
-/

namespace A2dp

/-- The two half octets of each octet, the high one first. -/
def Octets.halves (octets : Octets) : List Nat :=
  octets.flatMap fun octet => [octet.toNat / 16, octet.toNat % 16]

theorem Octets.halves_cons (octet : UInt8) (octets : Octets) :
    Octets.halves (octet :: octets) =
      octet.toNat / 16 :: octet.toNat % 16 :: Octets.halves octets := rfl

theorem Octets.length_halves (octets : Octets) :
    (Octets.halves octets).length = 2 * octets.length := by
  induction octets with
  | nil => rfl
  | cons octet octets ih => simp [halves_cons, ih, Nat.mul_add]

namespace Hex

/-- A digit as it may be typed. The decimal ones are the same in both cases. -/
structure Digit where
  value : Fin 16
  isCapital : Bool

namespace Digit

def char (d : Digit) : Char :=
  if d.isCapital then "0123456789ABCDEF".toList.getD d.value ' '
  else "0123456789abcdef".toList.getD d.value ' '

/-- What holds of the characters of all digits is checked on each of them. -/
theorem forall_char {motive : Char → Prop}
    (h : ∀ (value : Fin 16) (isCapital : Bool), motive (char ⟨value, isCapital⟩)) (d : Digit) :
    motive d.char :=
  h d.value d.isCapital

theorem forall_mem_chars {motive : Char → Prop}
    (h : ∀ (value : Fin 16) (isCapital : Bool), motive (char ⟨value, isCapital⟩))
    (digits : List Digit) : ∀ c ∈ digits.map char, motive c := by
  intro c hc
  obtain ⟨d, -, rfl⟩ := List.mem_map.mp hc
  exact forall_char h d

private theorem char_eq (d : Digit) :
    d.char = Char.ofNat (if d.value.val < 10 then 48 + d.value.val
      else if d.isCapital then 55 + d.value.val else 87 + d.value.val) := by
  obtain ⟨value, isCapital⟩ := d
  revert value isCapital
  decide

private theorem digitValue?_char (d : Digit) : digitValue? d.char = some d.value := by
  obtain ⟨value, isCapital⟩ := d
  revert value isCapital
  decide

end Digit

/-- The values come from three ranges of characters, each in a row. -/
theorem exists_digit {c : Char} {n : Nat} (h : digitValue? c = some n) :
    ∃ d : Digit, d.char = c ∧ d.value = n := by
  have hchar : ∀ {m}, c.toNat = m → Char.ofNat m = c := by
    rintro m rfl
    exact Char.ofNat_toNat c
  unfold digitValue? at h
  split at h
  · next hdecimal =>
    have hlow : 48 ≤ c.toNat := hdecimal.1
    have hhigh : c.toNat ≤ 57 := hdecimal.2
    cases h
    refine ⟨⟨⟨c.toNat - 48, by omega⟩, false⟩, ?_, rfl⟩
    rw [Digit.char_eq, if_pos (by simp only; omega)]
    exact hchar (by simp only; omega)
  split at h
  · next hsmall =>
    have hlow : 97 ≤ c.toNat := hsmall.1
    have hhigh : c.toNat ≤ 102 := hsmall.2
    cases h
    refine ⟨⟨⟨c.toNat - 87, by omega⟩, false⟩, ?_, rfl⟩
    rw [Digit.char_eq, if_neg (by simp only; omega), if_neg Bool.false_ne_true]
    exact hchar (by simp only; omega)
  split at h
  · next hcapital =>
    have hlow : 65 ≤ c.toNat := hcapital.1
    have hhigh : c.toNat ≤ 70 := hcapital.2
    cases h
    refine ⟨⟨⟨c.toNat - 55, by omega⟩, true⟩, ?_, rfl⟩
    rw [Digit.char_eq, if_neg (by simp only; omega), if_pos rfl]
    exact hchar (by simp only; omega)
  · cases h

/-- The value of the digit that an octet of text stands for. -/
def octetValue? (octet : UInt8) : Option Nat := digitValue? (Char.ofNat octet.toNat)

private theorem lt_of_octetValue? {octet : UInt8} {n : Nat} (h : octetValue? octet = some n) :
    n < 16 := by
  obtain ⟨d, -, rfl⟩ := exists_digit h
  exact d.value.isLt

private theorem nibble_eq_ok_iff {position n : Nat} {octet : UInt8} :
    nibble position octet = .ok n ↔ octetValue? octet = some n := by
  unfold nibble octetValue?
  cases digitValue? (Char.ofNat octet.toNat) <;> simp

/-- Consecutive pairs of digits are read as the halves of octets. -/
theorem ofPairs_eq_ok_iff {position : Nat} {text octets : List UInt8} :
    ofPairs position text = .ok octets ↔
      text.map octetValue? = (Octets.halves octets).map some := by
  fun_induction ofPairs position text generalizing octets with
  | case1 position =>
    cases octets <;> simp [Octets.halves]
  | case2 position octet =>
    cases octets <;> simp [Octets.halves]
  | case3 position high low rest ih =>
    simp only [bind_eq_ok, nibble_eq_ok_iff, ih]
    constructor
    · rintro ⟨h, hhigh, l, hlow, tail, hrest, hoctets⟩
      cases hoctets
      have hh := lt_of_octetValue? hhigh
      have hl := lt_of_octetValue? hlow
      have hoctet : (UInt8.ofNat (16 * h + l)).toNat = 16 * h + l := by
        rw [UInt8.toNat_ofNat', Nat.mod_eq_of_lt (by omega)]
      have hdiv : (16 * h + l) / 16 = h := by omega
      have hmod : (16 * h + l) % 16 = l := by omega
      simp only [List.map_cons, Octets.halves_cons, hhigh, hlow, hrest, hoctet, hdiv, hmod]
    · intro hvalues
      cases octets with
      | nil => simp [Octets.halves] at hvalues
      | cons octet octets =>
        simp only [Octets.halves_cons, List.map_cons, List.cons.injEq] at hvalues
        obtain ⟨hhigh, hlow, hrest⟩ := hvalues
        refine ⟨_, hhigh, _, hlow, octets, hrest, ?_⟩
        rw [Nat.div_add_mod, UInt8.ofNat_toNat]
        rfl

/-- What is asked of a way to decode: it takes exactly the texts of digits, of either case, that are
the halves of octets in order, and so are even in number. Its faults are its own. -/
structure IsDecoder (decode : Octets → Except Fault Octets) : Prop where
  eq_ok_iff : ∀ {text octets : Octets},
    decode text = .ok octets ↔ text.map octetValue? = (Octets.halves octets).map some

/-- The length that is checked first is even wherever the pairs are read. -/
theorem isDecoder_decode : IsDecoder decode := by
  refine ⟨fun {text octets} => ?_⟩
  unfold decode
  split
  · next hodd =>
    refine iff_of_false nofun ?_
    intro hvalues
    have hlength := congrArg List.length hvalues
    rw [List.length_map, List.length_map, Octets.length_halves] at hlength
    omega
  · exact ofPairs_eq_ok_iff

/-! ## Characters and octets -/

private theorem utf8EncodeChar_of_digit {c : Char} {n : Nat} (h : digitValue? c = some n) :
    ∃ octet, String.utf8EncodeChar c = [octet] ∧ octetValue? octet = some n := by
  obtain ⟨d, rfl, rfl⟩ := exists_digit h
  obtain ⟨value, isCapital⟩ := d
  refine ⟨UInt8.ofNat (Digit.char ⟨value, isCapital⟩).toNat, ?_, ?_⟩
  · revert value isCapital
    decide
  · revert value isCapital
    decide

private theorem toNat_lt_of_octetValue? {octet : UInt8} {n : Nat} (h : octetValue? octet = some n) :
    octet.toNat < 128 := by
  obtain ⟨d, hchar, -⟩ := exists_digit h
  have hoctet := octet.toNat_lt
  have hdigit : d.char.toNat < 128 := d.forall_char (motive := fun c => c.toNat < 128) (by decide)
  have hvalid : octet.toNat.isValidChar := Or.inl (by omega)
  rwa [hchar, Char.ofNat, dif_pos hvalid] at hdigit

private theorem exists_mem_utf8EncodeChar {c : Char} (h : 128 ≤ c.toNat) :
    ∃ octet ∈ String.utf8EncodeChar c, 128 ≤ octet.toNat := by
  have hlast : ∀ v : Nat, 128 ≤ (UInt8.ofNat (v % 64 + 128)).toNat := by
    intro v
    rw [UInt8.toNat_ofNat', Nat.mod_eq_of_lt (by omega)]
    omega
  refine ⟨UInt8.ofNat (c.toNat % 64 + 128), ?_, hlast c.toNat⟩
  have hascii : ¬ c.val.toNat ≤ 127 := Nat.not_le.mpr h
  simp only [String.utf8EncodeChar, if_neg hascii]
  split
  · simp
  · split <;> simp

/-- A character of several octets has one that is no digit. -/
theorem digitValue?_of_utf8 {c : Char}
    (h : ∀ octet ∈ String.utf8EncodeChar c, ∃ n, octetValue? octet = some n) :
    ∃ n, digitValue? c = some n := by
  by_cases hascii : c.toNat < 128
  · have hencode : String.utf8EncodeChar c = [UInt8.ofNat c.toNat] :=
      if_pos (Nat.le_of_lt_succ hascii)
    obtain ⟨n, hn⟩ := h (UInt8.ofNat c.toNat) (by simp [hencode])
    refine ⟨n, ?_⟩
    rwa [octetValue?, UInt8.toNat_ofNat', Nat.mod_eq_of_lt (by omega), Char.ofNat_toNat] at hn
  · obtain ⟨octet, hmem, hlarge⟩ := exists_mem_utf8EncodeChar (Nat.not_lt.mp hascii)
    obtain ⟨n, hn⟩ := h octet hmem
    exact absurd (toNat_lt_of_octetValue? hn) (Nat.not_lt.mpr hlarge)

/-- The text of characters is read as digits exactly if they are. -/
theorem map_octetValue?_eq_iff {cs : List Char} {values : List Nat} :
    (cs.flatMap String.utf8EncodeChar).map octetValue? = values.map some ↔
      cs.map digitValue? = values.map some := by
  induction cs generalizing values with
  | nil => exact Iff.rfl
  | cons c cs ih =>
    rw [List.flatMap_cons, List.map_append, List.map_cons]
    cases hc : digitValue? c with
    | some n =>
      obtain ⟨octet, hencode, hoctet⟩ := utf8EncodeChar_of_digit hc
      cases values with
      | nil => simp [hencode]
      | cons value values => simp [hencode, hoctet, ih]
    | none =>
      refine iff_of_false ?_ ?_
      · intro hvalues
        have hdigits : ∀ octet ∈ String.utf8EncodeChar c, ∃ n, octetValue? octet = some n := by
          intro octet hoctet
          have hmem : octetValue? octet ∈ values.map some := by
            rw [← hvalues]
            exact List.mem_append_left _ (List.mem_map_of_mem hoctet)
          obtain ⟨n, -, hn⟩ := List.mem_map.mp hmem
          exact ⟨n, hn.symm⟩
        obtain ⟨n, hn⟩ := digitValue?_of_utf8 hdigits
        cases hc.symm.trans hn
      · cases values <;> simp

theorem map_digitValue?_eq_iff {cs : List Char} {values : List Nat} :
    cs.map digitValue? = values.map some ↔
      ∃ digits : List Digit, digits.map Digit.char = cs ∧
        digits.map (fun d => d.value.val) = values := by
  constructor
  · intro h
    induction cs generalizing values with
    | nil =>
      cases values with
      | nil => exact ⟨[], rfl, rfl⟩
      | cons value values => cases h
    | cons c cs ih =>
      cases values with
      | nil => cases h
      | cons value values =>
        obtain ⟨hc, hcs⟩ := List.cons.inj h
        obtain ⟨d, hchar, hvalue⟩ := exists_digit hc
        obtain ⟨digits, hchars, hvalues⟩ := ih hcs
        exact ⟨d :: digits, by simp [hchar, hchars], by simp [hvalue, hvalues]⟩
  · rintro ⟨digits, rfl, rfl⟩
    simp [Function.comp_def, Digit.digitValue?_char]

end Hex

end A2dp
