import A2dp.Proofs.Header

/-!
# Writing a header and reading it back

A header is written exactly where it fits, over the first nine octets. What is read back is what
was written, up to the media type, of whose number four bits survive; so the check accepts what was
written for audio and nothing else. A buffer that passes the check is one that was written, apart
from the low half of its media octet.
-/

namespace A2dp

theorem Octets.overwrite_zero {b new : Octets} (h : new.length ≤ b.length) :
    b.overwrite 0 new = new ++ b.drop new.length := by
  rw [overwrite_of_le (by omega), List.take_zero, List.nil_append, Nat.zero_add]

namespace MediaType

private theorem ofNumber_eq_audio_iff {n : UInt8} : ofNumber n = .audio ↔ n = 0 := by
  constructor
  · intro h
    rw [← number_ofNumber n, h]
    rfl
  · intro h
    rw [h]
    rfl

/-- Of the number of a media type, four bits fit into its octet. -/
theorem ofOctet_toOctet (media : MediaType) :
    ofOctet media.toOctet = ofNumber (media.number % 16) := by
  have hbits : media.number <<< 4 >>> 4 = media.number % 16 := by
    apply UInt8.toNat_inj.mp
    have hlt := media.number.toNat_lt
    have hfour : (4 : UInt8).toNat % 8 = 4 := rfl
    have hsixteen : (16 : UInt8).toNat = 16 := rfl
    simp only [UInt8.toNat_shiftRight, UInt8.toNat_shiftLeft, UInt8.toNat_mod, hfour, hsixteen,
      Nat.shiftLeft_eq, Nat.shiftRight_eq_div_pow]
    omega
  rw [ofOctet, toOctet, hbits]

end MediaType

namespace Header

variable {b rest : Octets} {losc : UInt8} {media : MediaType} {k : CodecKey}

private theorem write_of_fits (hsize : 8 ≤ losc.toNat) (hroom : losc.toNat + 1 ≤ b.length) :
    write b losc media k = (.ok (losc.toNat + 1), octets losc media k ++ b.drop size) := by
  have hfits : room b.length losc = .ok (losc.toNat + 1) :=
    room_eq_ok_iff.mpr ⟨rfl, Nat.succ_le_succ hsize, hroom⟩
  have hlength := length_octets losc media k
  have hwritten : b.overwrite 0 (octets losc media k) = octets losc media k ++ b.drop size := by
    rw [Octets.overwrite_zero, hlength]
    rw [hlength, size]
    omega
  simp only [write, hfits, hwritten]

private theorem write_of_not_fits (h : ¬ (8 ≤ losc.toNat ∧ losc.toNat + 1 ≤ b.length)) :
    write b losc media k = (.error (.doesNotFit b.length losc), b) := by
  have hrefused : room b.length losc = .error (.doesNotFit b.length losc) := by
    rw [room, if_pos]
    simp only [size]
    omega
  simp only [write, hrefused]

/-- A header is written exactly where it has its nine octets and the buffer holds what it
announces. -/
theorem exists_write_eq_ok_iff :
    (∃ total, (write b losc media k).1 = .ok total) ↔
      8 ≤ losc.toNat ∧ losc.toNat + 1 ≤ b.length := by
  by_cases h : 8 ≤ losc.toNat ∧ losc.toNat + 1 ≤ b.length
  · rw [write_of_fits h.1 h.2]
    exact iff_of_true ⟨_, rfl⟩ h
  · rw [write_of_not_fits h]
    exact iff_of_false (fun ⟨_, htotal⟩ => by cases htotal) h

/-- The check accepts a written header as what it was written for, if it was written for audio. -/
theorem check_octets_append_iff {losc' : UInt8} {k' : CodecKey}
    (h : losc.toNat + 1 ≤ (octets losc media k ++ rest).length) :
    check (octets losc media k ++ rest) losc' k' = .ok () ↔
      losc' = losc ∧ k' = k ∧ media.number % 16 = 0 := by
  have haudio : media.toOctet < 0x10 ↔ media.number % 16 = 0 := by
    rw [← MediaType.ofOctet_eq_audio_iff, MediaType.ofOctet_toOctet,
      MediaType.ofNumber_eq_audio_iff]
  have hlosc : (octets losc media k ++ rest)[0]? = some losc := rfl
  have hmedia : (octets losc media k ++ rest)[1]? = some media.toOctet := rfl
  have htype : (octets losc media k ++ rest)[2]? = some 0xFF := rfl
  rw [check_eq_ok_iff, key_octets_append, hlosc, hmedia, htype, ← haudio]
  constructor
  · rintro ⟨-, hsame, ⟨octet, hoctet, hlow⟩, -, hkey⟩
    cases hsame
    cases hoctet
    cases hkey
    exact ⟨rfl, rfl, hlow⟩
  · rintro ⟨rfl, rfl, hlow⟩
    exact ⟨h, rfl, ⟨_, rfl, hlow⟩, rfl, rfl⟩

/-- A buffer that passes the check starts with the header for which it was checked, apart from the
low half of the media octet. -/
theorem eq_of_check (h : check b losc k = .ok ()) :
    ∃ low : UInt8, low < 0x10 ∧
      b = losc :: low :: 0xFF ::
        (Octets.ofNat 4 k.vendorId.toNat ++ Octets.ofNat 2 k.codecId.toNat ++ b.drop size) := by
  obtain ⟨-, hlosc, ⟨low, hlow, haudio⟩, htype, hkey⟩ := check_eq_ok_iff.mp h
  obtain ⟨hvendor, hcodec⟩ := key_eq_ok_iff.mp hkey
  have hv := (vendorId_eq_ok_iff.mp hvendor).2
  have hc := (codecId_eq_ok_iff.mp hcodec).2
  refine ⟨low, haudio, ?_⟩
  calc b = b.drop 0 := rfl
    _ = losc :: low :: 0xFF :: b.drop 3 := by
      obtain ⟨h0, hlosc⟩ := List.getElem?_eq_some_iff.mp hlosc
      obtain ⟨h1, hlow⟩ := List.getElem?_eq_some_iff.mp hlow
      obtain ⟨h2, htype⟩ := List.getElem?_eq_some_iff.mp htype
      rw [List.drop_eq_getElem_cons h0, List.drop_eq_getElem_cons h1,
        List.drop_eq_getElem_cons h2, hlosc, hlow, htype]
    _ = losc :: low :: 0xFF ::
        ((b.drop 3).take 4 ++ ((b.drop 7).take 2 ++ b.drop 9)) := by
      rw [← List.drop_drop (i := 2) (j := 7), List.take_append_drop,
        ← List.drop_drop (i := 4) (j := 3), List.take_append_drop]
    _ = _ := by rw [hv, hc, ← List.append_assoc]; rfl

/-- Writing over a buffer that passes the check clears the low half of its media octet. -/
theorem write_of_check (hsize : 8 ≤ losc.toNat) (h : check b losc k = .ok ()) :
    write b losc .audio k = (.ok (losc.toNat + 1), b.set 1 (b.getD 1 0 &&& 0xF0)) := by
  obtain ⟨low, hlow, hb⟩ := eq_of_check h
  have hcleared : low &&& 0xF0 = 0 := by
    have hhalf : ∀ n < 16, n &&& 240 = 0 := by decide
    exact UInt8.toNat_inj.mp (hhalf low.toNat hlow)
  rw [write_of_fits hsize (check_eq_ok_iff.mp h).1]
  generalize b.drop size = rest at hb
  subst hb
  simp only [List.getD_cons_succ, List.getD_cons_zero, List.set_cons_succ, List.set_cons_zero,
    hcleared]
  rfl

/-- Writing a header and checking one are inverse to each other. A header is written where it fits
and nothing is changed elsewhere; what is read back is what was written, up to the high bits of a
media type; and the check accepts it for the same length octet and key exactly if these bits left
audio. Conversely, to write the header for which a buffer passes the check only clears the low half
of its media octet. -/
theorem write_inverse_check (out : Octets) (l : UInt8) (m : MediaType) (k : CodecKey) :
    let written := write out l m k
    ((∃ total, written.1 = .ok total) ↔ 8 ≤ l.toNat ∧ l.toNat + 1 ≤ out.length) ∧
    (∀ cause, written.1 = .error cause → written.2 = out) ∧
    (∀ total, written.1 = .ok total →
      total = l.toNat + 1 ∧ written.2.length = out.length ∧
      written.2.drop size = out.drop size ∧
      Header.losc written.2 = .ok l ∧ codecType written.2 = .ok .vendor ∧
      key written.2 = .ok k ∧ mediaType written.2 = .ok (.ofNumber (m.number % 16)) ∧
      ∀ l' k', check written.2 l' k' = .ok () ↔ l' = l ∧ k' = k ∧ m.number % 16 = 0) ∧
    (check out l k = .ok () → 8 ≤ l.toNat →
      write out l .audio k = (.ok (l.toNat + 1), out.set 1 (out.getD 1 0 &&& 0xF0))) := by
  intro written
  refine ⟨exists_write_eq_ok_iff, ?_, ?_, fun hcheck hsize => write_of_check hsize hcheck⟩
  · intro cause hcause
    have hrefused : ¬ (8 ≤ l.toNat ∧ l.toNat + 1 ≤ out.length) := by
      intro hfits
      obtain ⟨total, htotal⟩ : ∃ total, written.1 = .ok total := exists_write_eq_ok_iff.mpr hfits
      cases hcause.symm.trans htotal
    simp only [written, write_of_not_fits hrefused]
  · intro total htotal
    obtain ⟨hsize, hroom⟩ := exists_write_eq_ok_iff.mp ⟨total, htotal⟩
    have hlength : (octets l m k ++ out.drop size).length = out.length := by
      rw [List.length_append, length_octets, List.length_drop, size]
      omega
    simp only [written, write_of_fits hsize hroom] at htotal ⊢
    refine ⟨(Except.ok.inj htotal).symm, hlength, List.drop_left' (length_octets l m k), rfl, rfl,
      key_octets_append l m k _, ?_, fun l' k' => check_octets_append_iff (by rwa [hlength])⟩
    exact congrArg Except.ok m.ofOctet_toOctet

end Header

end A2dp
