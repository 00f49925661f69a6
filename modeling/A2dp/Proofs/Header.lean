import A2dp.Header
import Mathlib.Algebra.Group.Nat.Defs

/-!
# What the header of a capability says

The checked reads of a buffer, the identity key and the header check as equivalences: each
succeeds exactly on the buffers that are described here octet by octet. The key and the check
depend on the nine octets of the header and on the length alone.
-/

namespace A2dp

namespace Octets

theorem drop_eq_getD_cons {b : Octets} {i : Nat} (h : i < b.length) :
    b.drop i = b.getD i 0 :: b.drop (i + 1) := by
  rw [List.drop_eq_getElem_cons h, List.getD_eq_getElem?_getD, List.getElem?_eq_getElem h]
  rfl

theorem getD_drop (b : Octets) (n i : Nat) : (b.drop n).getD i 0 = b.getD (n + i) 0 := by
  rw [List.getD_eq_getElem?_getD, List.getElem?_drop, List.getD_eq_getElem?_getD]

theorem length_take_drop {b : Octets} {start count : Nat} (h : start + count ≤ b.length) :
    ((b.drop start).take count).length = count := by
  rw [List.length_take, List.length_drop]
  omega

theorem overwrite_of_le {b new : Octets} {start : Nat} (h : start + new.length ≤ b.length) :
    b.overwrite start new = b.take start ++ new ++ b.drop (start + new.length) := by
  have hkept : new.take (b.length - start) = new := List.take_of_length_le (by omega)
  rw [overwrite, hkept]

private theorem octet_eq_ok_iff {b : Octets} {i : Nat} {x : UInt8} :
    b.octet i = .ok x ↔ b[i]? = some x := by
  unfold octet
  cases b[i]? <;> simp

theorem slice_eq_ok_iff {b s : Octets} {start count : Nat} :
    b.slice start count = .ok s ↔ start + count ≤ b.length ∧ (b.drop start).take count = s := by
  unfold slice
  by_cases h : start + count ≤ b.length
  · simp [h]
  · simp [h]

private theorem map_slice_eq_ok_iff {α : Type} {b : Octets} {start count : Nat} {f : Octets → α}
    {x : α} : (b.slice start count).map f = .ok x ↔
      start + count ≤ b.length ∧ f ((b.drop start).take count) = x := by
  unfold slice
  by_cases h : start + count ≤ b.length
  · simp [h, Except.map]
  · simp [h, Except.map]

/-- Reading back a number that fits gives the number. -/
theorem toNat_ofNat {count n : Nat} (h : n < 256 ^ count) : toNat (ofNat count n) = n := by
  induction count generalizing n with
  | zero => simp_all [ofNat, toNat]
  | succ count ih =>
    have hd : n / 256 < 256 ^ count := by
      rw [Nat.pow_succ] at h
      omega
    simp only [ofNat, toNat, ih hd, UInt8.toNat_ofNat']
    omega

/-- Writing a number that was read gives its octets back. -/
theorem ofNat_toNat (b : Octets) : ofNat b.length b.toNat = b := by
  induction b with
  | nil => rfl
  | cons x rest ih =>
    have hx := x.toNat_lt
    have hlow : UInt8.ofNat (x.toNat + 256 * toNat rest) = x := by
      apply UInt8.toNat_inj.mp
      rw [UInt8.toNat_ofNat']
      omega
    have hhigh : (x.toNat + 256 * toNat rest) / 256 = toNat rest := by omega
    simp only [List.length_cons, toNat, ofNat, hlow, hhigh, ih]

/-- The octets of a number are below the power that their count allows. -/
theorem toNat_lt (b : Octets) : b.toNat < 256 ^ b.length := by
  induction b with
  | nil => simp [toNat]
  | cons x rest ih =>
    have hx := x.toNat_lt
    simp only [toNat, List.length_cons, Nat.pow_succ]
    omega

/-- Octets spell a number exactly when they are those that are written for it. -/
theorem toNat_eq_iff {b : Octets} {n : Nat} (hn : n < 256 ^ b.length) :
    b.toNat = n ↔ b = ofNat b.length n := by
  constructor
  · intro h
    rw [← h]
    exact (ofNat_toNat b).symm
  · intro h
    rw [h]
    exact toNat_ofNat hn

end Octets

theorem MediaType.ofOctet_eq_audio_iff {octet : UInt8} :
    MediaType.ofOctet octet = .audio ↔ octet < 0x10 := by
  have hnumber : ∀ n : UInt8, ofNumber n = .audio ↔ n = 0 := by
    intro n
    unfold ofNumber
    repeat' split
    all_goals simp_all
  have hshift : (octet >>> 4).toNat = octet.toNat / 16 := by
    rw [UInt8.toNat_shiftRight, Nat.shiftRight_eq_div_pow]
    rfl
  have hsixteen : (0x10 : UInt8).toNat = 16 := rfl
  rw [ofOctet, hnumber, ← UInt8.toNat_inj, UInt8.lt_iff_toNat_lt, hshift, hsixteen]
  simp only [UInt8.toNat_zero]
  omega

private theorem CodecType.ofOctet_eq_vendor_iff {octet : UInt8} :
    CodecType.ofOctet octet = .vendor ↔ octet = 0xFF := by
  constructor
  · intro h
    rw [← toOctet_ofOctet octet, h]
    rfl
  · intro h
    rw [h]
    rfl

namespace Header

theorem vendorId_eq_ok_iff {b : Octets} {id : UInt32} :
    vendorId b = .ok id ↔ 7 ≤ b.length ∧ (b.drop 3).take 4 = Octets.ofNat 4 id.toNat := by
  rw [vendorId, Octets.map_slice_eq_ok_iff]
  apply and_congr_right
  intro hlength
  have hfour : ((b.drop 3).take 4).length = 4 := Octets.length_take_drop hlength
  have hlt : Octets.toNat ((b.drop 3).take 4) < 2 ^ 32 := by
    have hbound := Octets.toNat_lt ((b.drop 3).take 4)
    rw [hfour] at hbound
    exact hbound
  have hid := Octets.toNat_eq_iff (b := (b.drop 3).take 4) (n := id.toNat)
    (by rw [hfour]; exact id.toNat_lt)
  rw [hfour] at hid
  rw [← hid, ← UInt32.toNat_inj, UInt32.toNat_ofNat', Nat.mod_eq_of_lt hlt]

theorem codecId_eq_ok_iff {b : Octets} {id : UInt16} :
    codecId b = .ok id ↔ 9 ≤ b.length ∧ (b.drop 7).take 2 = Octets.ofNat 2 id.toNat := by
  rw [codecId, Octets.map_slice_eq_ok_iff]
  apply and_congr_right
  intro hlength
  have htwo : ((b.drop 7).take 2).length = 2 := Octets.length_take_drop hlength
  have hlt : Octets.toNat ((b.drop 7).take 2) < 2 ^ 16 := by
    have hbound := Octets.toNat_lt ((b.drop 7).take 2)
    rw [htwo] at hbound
    exact hbound
  have hid := Octets.toNat_eq_iff (b := (b.drop 7).take 2) (n := id.toNat)
    (by rw [htwo]; exact id.toNat_lt)
  rw [htwo] at hid
  rw [← hid, ← UInt16.toNat_inj, UInt16.toNat_ofNat', Nat.mod_eq_of_lt hlt]

/-- The key is read from any buffer that is as long as a header. -/
theorem key_eq_ok_iff {b : Octets} {k : CodecKey} :
    key b = .ok k ↔ vendorId b = .ok k.vendorId ∧ codecId b = .ok k.codecId := by
  unfold key
  constructor
  · intro h
    obtain ⟨vendor, hvendor, hrest⟩ := bind_eq_ok.mp h
    obtain ⟨codec, hcodec, hk⟩ := bind_eq_ok.mp hrest
    cases hk
    exact ⟨hvendor, hcodec⟩
  · intro ⟨hvendor, hcodec⟩
    exact bind_eq_ok.mpr ⟨_, hvendor, bind_eq_ok.mpr ⟨_, hcodec, rfl⟩⟩

theorem size_le_of_key {b : Octets} {k : CodecKey} (h : key b = .ok k) : size ≤ b.length :=
  (codecId_eq_ok_iff.mp (key_eq_ok_iff.mp h).2).1

theorem exists_key_of_size_le {b : Octets} (h : size ≤ b.length) : ∃ k, key b = .ok k := by
  have hvendor : b.slice 3 4 = .ok ((b.drop 3).take 4) := if_pos (Nat.le_trans (by decide) h)
  have hcodec : b.slice 7 2 = .ok ((b.drop 7).take 2) := if_pos h
  simp only [key, vendorId, codecId, hvendor, hcodec, Except.map]
  exact ⟨_, rfl⟩

theorem isVendor_iff {b : Octets} : isVendor b = true ↔ b[2]? = some 0xFF := by
  unfold isVendor codecType
  cases h : b[2]? with
  | none => simp [Octets.octet, h, Except.map]
  | some x =>
    have hx : CodecType.ofOctet x = .vendor ↔ x = 0xFF := CodecType.ofOctet_eq_vendor_iff
    simp only [Octets.octet, h, Except.map, Option.some.injEq, ← hx]
    cases CodecType.ofOctet x <;> simp

theorem codecType_of_vendor {b : Octets} (h : b[2]? = some 0xFF) : codecType b = .ok .vendor := by
  unfold codecType
  rw [Octets.octet_eq_ok_iff.mpr h]
  rfl

/-- The check passes exactly on the headers of an audio codec with the length octet and the
key, before all octets that the length octet announces. -/
theorem check_eq_ok_iff {b : Octets} {losc : UInt8} {k : CodecKey} :
    check b losc k = .ok () ↔
      losc.toNat + 1 ≤ b.length ∧ b[0]? = some losc ∧
        (∃ media, b[1]? = some media ∧ media < 0x10) ∧ b[2]? = some 0xFF ∧ key b = .ok k := by
  unfold check Octets.require
  simp only [↓demand_bind_eq_ok, bind_eq_ok, Octets.octet_eq_ok_iff, demand_eq_ok,
    MediaType.ofOctet_eq_audio_iff, CodecType.ofOctet_eq_vendor_iff]
  constructor
  · intro h
    obtain ⟨-, actual, hactual, rfl, hlength, media, hmedia, haudio, type, htype, rfl, found,
      hkey, rfl⟩ := h
    exact ⟨hlength, hactual, ⟨media, hmedia, haudio⟩, htype, hkey⟩
  · intro h
    obtain ⟨hlength, hlosc, ⟨media, hmedia, haudio⟩, htype, hkey⟩ := h
    exact ⟨size_le_of_key hkey, losc, hlosc, rfl, hlength, media, hmedia, haudio, _, htype, rfl, k,
      hkey, rfl⟩

/-- There is room where the buffer holds what is announced and that holds a header. -/
theorem room_eq_ok_iff {capacity total : Nat} {losc : UInt8} :
    room capacity losc = .ok total ↔ losc.toNat + 1 = total ∧ size ≤ total ∧ total ≤ capacity := by
  simp only [room]
  by_cases h : capacity < losc.toNat + 1 ∨ losc.toNat + 1 < size
  · rw [if_pos h]
    refine iff_of_false nofun ?_
    omega
  · rw [if_neg h, Except.ok.injEq]
    omega

theorem length_octets (losc : UInt8) (media : MediaType) (k : CodecKey) :
    (octets losc media k).length = size := by
  simp only [octets, List.length_cons, List.length_append, Octets.length_ofNat, size]

theorem key_octets_append (losc : UInt8) (media : MediaType) (k : CodecKey) (rest : Octets) :
    key (octets losc media k ++ rest) = .ok k := by
  have hlength : (octets losc media k ++ rest).length = size + rest.length := by
    rw [List.length_append, length_octets]
  rw [key_eq_ok_iff, vendorId_eq_ok_iff, codecId_eq_ok_iff, hlength]
  simp only [size]
  refine ⟨⟨by omega, ?_⟩, by omega, ?_⟩
  · rfl
  · rfl

theorem check_octets_append {losc : UInt8} (k : CodecKey) {rest : Octets}
    (h : losc.toNat + 1 ≤ size + rest.length) :
    check (octets losc .audio k ++ rest) losc k = .ok () := by
  rw [check_eq_ok_iff, List.length_append, length_octets]
  exact ⟨h, rfl, ⟨0, rfl, by decide⟩, rfl, key_octets_append losc .audio k rest⟩

/-- Two buffers of one length that start with the same header. -/
structure Agree (a b : Octets) : Prop where
  length : a.length = b.length
  take : a.take size = b.take size

namespace Agree

variable {a b : Octets}

theorem getElem? (h : Agree a b) {i : Nat} (hi : i < size) : a[i]? = b[i]? := by
  rw [← List.getElem?_take_of_lt hi, h.take, List.getElem?_take_of_lt hi]

theorem octet (h : Agree a b) {i : Nat} (hi : i < size) : a.octet i = b.octet i := by
  unfold Octets.octet
  rw [h.getElem? hi, h.length]

theorem slice (h : Agree a b) {start count : Nat} (hi : start + count ≤ size) :
    a.slice start count = b.slice start count := by
  have hdrop : (a.drop start).take count = (b.drop start).take count := by
    have hcut : ∀ c : Octets,
        (c.drop start).take count = ((c.take size).drop start).take count := by
      intro c
      rw [List.drop_take, List.take_take, Nat.min_eq_left (by omega)]
    rw [hcut a, hcut b, h.take]
  unfold Octets.slice
  rw [hdrop, h.length]

theorem codecType (h : Agree a b) : codecType a = codecType b := by
  unfold Header.codecType
  rw [h.octet (by decide)]

theorem vendorId (h : Agree a b) : vendorId a = vendorId b := by
  unfold Header.vendorId
  rw [h.slice (by decide)]

theorem codecId (h : Agree a b) : codecId a = codecId b := by
  unfold Header.codecId
  rw [h.slice (by decide)]

theorem key (h : Agree a b) : key a = key b := by
  unfold Header.key
  rw [h.vendorId, h.codecId]

theorem check (h : Agree a b) (losc : UInt8) (k : CodecKey) : check a losc k = check b losc k := by
  unfold Header.check Octets.require
  rw [h.length, h.octet (i := 0) (by decide), h.octet (i := 1) (by decide),
    h.octet (i := 2) (by decide), h.key]

end Agree

end Header

end A2dp
