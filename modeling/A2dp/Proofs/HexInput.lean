import A2dp.Probe.HexInput
import A2dp.Proofs.HexDigits

/-!
# Reading hexadecimal text back

The text of an octet string holds digits alone, without dividers and without the letter of a
mark, so that the probe takes it as it stands and reads the octets back.
-/

namespace A2dp

namespace Hex

private theorem ofOctets_cons (octet : UInt8) (octets : List UInt8) :
    ofOctets (octet :: octets) =
      digit (octet.toNat / 16) :: digit (octet.toNat % 16) :: ofOctets octets := by
  have hhigh : octet.toNat / 16 % 16 = octet.toNat / 16 := by
    have hoctet := octet.toNat_lt
    omega
  simp [ofOctets, digits, hhigh]

/-- What holds of the sixteen digits holds of every character of a number's text. -/
theorem forall_mem_digits {motive : Char → Prop} (h : ∀ n < 16, motive (digit n))
    (width n : Nat) : ∀ c ∈ digits width n, motive c := by
  induction width generalizing n with
  | zero =>
    intro c hc
    cases hc
  | succ width ih =>
    intro c hc
    rcases List.mem_append.mp hc with hfront | hlast
    · exact ih (n / 16) c hfront
    · rw [List.mem_singleton.mp hlast]
      exact h (n % 16) (Nat.mod_lt n (by decide))

private theorem forall_mem_ofOctets {motive : Char → Prop} (h : ∀ n < 16, motive (digit n))
    (octets : List UInt8) : ∀ c ∈ ofOctets octets, motive c := by
  intro c hc
  obtain ⟨octet, -, hdigit⟩ := List.mem_flatMap.mp hc
  exact forall_mem_digits h 2 octet.toNat c hdigit

private theorem digitValue?_digit : ∀ n < 16, digitValue? (digit n) = some n := by
  decide

private theorem map_digitValue?_ofOctets (octets : List UInt8) :
    (ofOctets octets).map digitValue? = (Octets.halves octets).map some := by
  induction octets with
  | nil => rfl
  | cons octet octets ih =>
    have hoctet := octet.toNat_lt
    rw [ofOctets_cons, Octets.halves_cons, List.map_cons, List.map_cons, List.map_cons,
      List.map_cons, digitValue?_digit _ (by omega), digitValue?_digit _ (by omega), ih]

/-- Decoding the text of octets gives them back. -/
theorem IsDecoder.decode_utf8_ofOctets {decode : Octets → Except Fault Octets}
    (h : IsDecoder decode) (octets : Octets) :
    decode ((ofOctets octets).flatMap String.utf8EncodeChar) = .ok octets := by
  rw [h.eq_ok_iff, map_octetValue?_eq_iff]
  exact map_digitValue?_ofOctets octets

end Hex

namespace Probe

theorem parts_eq_singleton {cs : List Char} (h : ∀ c ∈ cs, isDivider c = false) :
    parts cs = [cs] := by
  induction cs with
  | nil => rfl
  | cons c cs ih =>
    have hrest := ih fun other hother => h other (List.mem_cons_of_mem c hother)
    simp [parts, h c List.mem_cons_self, hrest]

theorem stripMarks_eq_self {letter : Char} {cs : List Char} (h : ∀ c ∈ cs, c ≠ letter) :
    stripMarks letter cs = cs := by
  fun_cases stripMarks letter cs with
  | case1 rest => exact absurd rfl (h letter (by simp))
  | case2 c rest hc => rfl
  | case3 cs hcs => rfl

/-- Text of digits is taken as it stands. -/
theorem cleaned_ofOctets (octets : Octets) :
    cleaned (Hex.ofOctets octets) = Hex.ofOctets octets := by
  have hdivider := Hex.forall_mem_ofOctets (motive := fun c => isDivider c = false)
    (by decide) octets
  have hlower := Hex.forall_mem_ofOctets (motive := fun c => c ≠ 'x') (by decide) octets
  have hupper := Hex.forall_mem_ofOctets (motive := fun c => c ≠ 'X') (by decide) octets
  unfold cleaned
  rw [parts_eq_singleton hdivider, List.flatMap_singleton, stripMarks_eq_self hlower,
    stripMarks_eq_self hupper]

/-- The text of octets, of which there is at least one, is read as these octets. -/
theorem readHexBy_text {decode : Octets → Except Hex.Fault Octets} (hdecode : Hex.IsDecoder decode)
    {octets : Octets} (h : octets ≠ []) :
    readHexBy decode (Hex.text octets).toList = .ok octets := by
  unfold readHexBy Hex.text
  rw [String.toList_ofList, cleaned_ofOctets, hdecode.decode_utf8_ofOctets]
  cases octets with
  | nil => exact absurd rfl h
  | cons octet octets => rfl

theorem readHex_text {octets : Octets} (h : octets ≠ []) :
    readHex (Hex.text octets).toList = .ok octets :=
  readHexBy_text Hex.isDecoder_decode h

end Probe

end A2dp
