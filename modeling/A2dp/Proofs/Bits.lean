import A2dp.Codec.Layout

/-!
# Octets as sets of bits

An octet is part of another when masking with it changes nothing. Every octet that is not zero has a
lowest bit, which alone makes up a part of it.
-/

namespace A2dp.Bits

variable {a b c m : UInt8}

theorem and_or_distrib_left (a b c : UInt8) : a &&& (b ||| c) = a &&& b ||| a &&& c := by
  rw [← UInt8.toNat_inj]
  simp only [UInt8.toNat_and, UInt8.toNat_or, Nat.and_or_distrib_left]

theorem and_or_distrib_right (a b c : UInt8) : (a ||| b) &&& c = a &&& c ||| b &&& c := by
  rw [← UInt8.toNat_inj]
  simp only [UInt8.toNat_and, UInt8.toNat_or, Nat.and_or_distrib_right]

/-- What a part has in common with a mask, the whole has too. -/
theorem and_ne_zero_of_part (h : a &&& b = a) (hm : a &&& m ≠ 0) : b &&& m ≠ 0 := by
  intro hzero
  apply hm
  rw [← h, UInt8.and_assoc, hzero, UInt8.and_zero]

theorem part_trans (hab : a &&& b = a) (hbc : b &&& c = b) : a &&& c = a := by
  rw [← hab, UInt8.and_assoc, hbc]

theorem and_part_left (a b : UInt8) : a &&& b &&& a = a &&& b := by
  rw [UInt8.and_comm a b, UInt8.and_assoc, UInt8.and_self]

theorem and_part_right (a b : UInt8) : a &&& b &&& b = a &&& b := by
  rw [UInt8.and_assoc, UInt8.and_self]

def single (i : Nat) : UInt8 := UInt8.ofNat (1 <<< i)

private theorem testBit_single {i : Nat} (hi : i < 8) (j : Nat) :
    (single i).toNat.testBit j = decide (j = i) := by
  have hvalue : ∀ i < 8, (single i).toNat = 1 <<< i := by decide
  rw [hvalue i hi, Nat.one_shiftLeft, Nat.testBit_two_pow]
  exact decide_eq_decide.mpr eq_comm

private theorem single_and {i : Nat} (hi : i < 8) (m : UInt8) :
    single i &&& m = if m.toNat.testBit i then single i else 0 := by
  rw [← UInt8.toNat_inj]
  apply Nat.eq_of_testBit_eq
  intro j
  rw [UInt8.toNat_and, Nat.testBit_and, testBit_single hi]
  by_cases hj : j = i
  · subst hj
    cases m.toNat.testBit j <;> simp [testBit_single hi]
  · cases m.toNat.testBit i <;> simp [testBit_single hi, hj]

private theorem lt_of_testBit {x : UInt8} {j : Nat} (h : x.toNat.testBit j = true) : j < 8 := by
  apply Nat.lt_of_not_le
  intro hj
  have hhigh := Nat.testBit_lt_two_pow
    (Nat.lt_of_lt_of_le x.toNat_lt (Nat.pow_le_pow_right (by decide) hj))
  rw [hhigh] at h
  cases h

/-- The lowest bit of an octet, and zero for zero. -/
def lowest (x : UInt8) : UInt8 :=
  match (List.range 8).find? fun i => x.toNat.testBit i with
  | some i => single i
  | none => 0

theorem lowest_and_self (x : UInt8) : lowest x &&& x = lowest x := by
  unfold lowest
  split
  case h_1 i hfind =>
    have hi : i < 8 := List.mem_range.mp (List.mem_of_find?_eq_some hfind)
    have hbit : x.toNat.testBit i = true := by simpa using List.find?_some hfind
    rw [single_and hi, if_pos hbit]
  case h_2 => exact UInt8.zero_and

theorem bitCount_lowest {x : UInt8} (h : x ≠ 0) : bitCount (lowest x) = 1 := by
  have hsingle : ∀ i < 8, bitCount (single i) = 1 := by decide
  unfold lowest
  split
  case h_1 i hfind =>
    exact hsingle i (List.mem_range.mp (List.mem_of_find?_eq_some hfind))
  case h_2 hfind =>
    -- without a bit among the eight the octet is zero
    refine absurd ?_ h
    rw [← UInt8.toNat_inj]
    apply Nat.eq_of_testBit_eq
    intro j
    have hbit : ¬ x.toNat.testBit j = true := fun hj =>
      List.find?_eq_none.mp hfind j (List.mem_range.mpr (lt_of_testBit hj)) hj
    simpa using hbit

private theorem exists_single_of_bitCount {x : UInt8} (h : bitCount x = 1) :
    ∃ i < 8, x = single i := by
  obtain ⟨i, hi⟩ := List.length_eq_one_iff.mp (List.countP_eq_length_filter.symm.trans h)
  have hbit : ∀ j, x.toNat.testBit j = true ↔ j = i := by
    intro j
    have hmem : j ∈ (List.range 8).filter (fun i => x.toNat.testBit i) ↔ j = i := by
      rw [hi, List.mem_singleton]
    rw [← hmem, List.mem_filter, List.mem_range]
    exact ⟨fun hj => ⟨lt_of_testBit hj, hj⟩, And.right⟩
  have hlt : i < 8 := lt_of_testBit ((hbit i).mpr rfl)
  refine ⟨i, hlt, ?_⟩
  rw [← UInt8.toNat_inj]
  apply Nat.eq_of_testBit_eq
  intro j
  rw [testBit_single hlt, Bool.eq_iff_iff, hbit, decide_eq_true_iff]

/-- A single bit that is in common with a mask is part of it. -/
theorem part_of_bitCount (h : bitCount a = 1) (hm : a &&& m ≠ 0) : a &&& m = a := by
  obtain ⟨i, hi, rfl⟩ := exists_single_of_bitCount h
  rw [single_and hi] at hm ⊢
  split at hm
  · exact if_pos ‹_›
  · exact absurd rfl hm

/-- Two single bits that have something in common are the same. -/
theorem eq_of_bitCount (ha : bitCount a = 1) (hb : bitCount b = 1) (h : a &&& b ≠ 0) : a = b := by
  have hab := part_of_bitCount ha h
  rw [UInt8.and_comm] at h
  rw [← hab, UInt8.and_comm, part_of_bitCount hb h]

end A2dp.Bits
