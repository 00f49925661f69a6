import A2dp.Proofs.Lookup

/-!
# Packets under any series of operations

A packet grows at its front only, into room that was cleared when it was made. Whatever is done to
it, by growing and writing into what was added or through the header of a codec, it stays a payload
behind cleared room: the packet after a run is one that could have been made at once, with the
regions of the run before the payload. A codec adds its header and nothing else, or refuses and
leaves the packet as it is.
-/

namespace A2dp

/-- Writing over octets of the same number replaces them and moves nothing. -/
theorem Octets.overwrite_append (front rest : Octets) {old new : Octets}
    (h : new.length = old.length) :
    Octets.overwrite (front ++ (old ++ rest)) front.length new = front ++ (new ++ rest) := by
  have hfits : front.length + new.length ≤ (front ++ (old ++ rest)).length := by
    simp only [List.length_append]
    omega
  have hdrop : (front ++ (old ++ rest)).drop (front.length + new.length) = rest := by
    rw [h, ← List.append_assoc]
    apply List.drop_left'
    exact List.length_append
  rw [overwrite_of_le hfits, hdrop, List.take_left, List.append_assoc]

namespace Packet

private theorem headroom_le (p : Packet) : p.headroom ≤ p.buffer.length := by
  have hsum := p.headroom_add_length
  omega

/-- Data are all that is behind the free room. -/
theorem data_eq_drop (p : Packet) : p.data = p.buffer.drop p.headroom := by
  have hsum := p.headroom_add_length
  apply List.take_of_length_le
  rw [List.length_drop]
  omega

private theorem length_data (p : Packet) : p.data.length = p.length := by
  have hsum := p.headroom_add_length
  rw [data_eq_drop, List.length_drop]
  omega

/-- What is frozen is exactly the data. -/
theorem freeze_eq_data (p : Packet) : p.freeze = p.data := by
  rw [freeze, data, List.drop_take, Nat.add_sub_cancel_left]

/-- The length of the data follows from the buffer and its free room. -/
theorem ext_buffer {p q : Packet} (hbuffer : p.buffer = q.buffer)
    (hheadroom : p.headroom = q.headroom) : p = q := by
  have hp := p.headroom_add_length
  have hq := q.headroom_add_length
  rw [hbuffer, hheadroom] at hp
  exact Packet.ext hbuffer hheadroom (by omega)

def roomEnd (p : Packet) (count : Nat) : Octets :=
  (p.buffer.take p.headroom).drop (p.headroom - count)

/-- The packet whose free room ends in these octets, which now belong to the data. -/
def putBefore (p : Packet) (region : Octets) : Packet where
  buffer := p.buffer.take (p.headroom - region.length) ++ (region ++ p.data)
  headroom := p.headroom - region.length
  length := region.length + p.length
  headroom_add_length := by
    have hle := p.headroom_le
    simp only [List.length_append, List.length_take, p.length_data]
    omega

variable {p : Packet} {count room : Nat} {region old new data : Octets}

private theorem length_roomEnd (h : count ≤ p.headroom) : (p.roomEnd count).length = count := by
  have hle := p.headroom_le
  simp only [roomEnd, List.length_drop, List.length_take]
  omega

private theorem length_take_room (p : Packet) (count : Nat) :
    (p.buffer.take (p.headroom - count)).length = p.headroom - count := by
  have hle := p.headroom_le
  rw [List.length_take]
  omega

private theorem data_putBefore (p : Packet) (region : Octets) :
    (p.putBefore region).data = region ++ p.data := by
  rw [data_eq_drop]
  exact List.drop_left' (p.length_take_room region.length)

private theorem take_append_data (p : Packet) : p.buffer.take p.headroom ++ p.data = p.buffer := by
  rw [data_eq_drop, List.take_append_drop]

private theorem putBefore_nil (p : Packet) : p.putBefore [] = p :=
  ext_buffer p.take_append_data rfl

private theorem grow_eq_ok (h : count ≤ p.headroom) :
    p.grow count = .ok (p.putBefore (p.roomEnd count)) := by
  have hroom : p.buffer.take (p.headroom - count) ++ p.roomEnd count =
      p.buffer.take p.headroom := by
    have hfront := List.take_append_drop (p.headroom - count) (p.buffer.take p.headroom)
    rwa [List.take_take, Nat.min_eq_left (Nat.sub_le _ _)] at hfront
  rw [grow, dif_pos h]
  congr 1
  apply ext_buffer
  · simp only [putBefore, length_roomEnd h, ← List.append_assoc, hroom, take_append_data]
  · simp only [putBefore, length_roomEnd h]

private theorem grow_eq_error (h : p.headroom < count) :
    p.grow count = .error (.noHeadroom count p.headroom) :=
  dif_neg (Nat.not_le.mpr h)

private theorem exists_grow_eq_error_iff :
    (∃ cause, p.grow count = .error cause) ↔ p.headroom < count := by
  constructor
  · intro ⟨cause, hcause⟩
    apply Nat.lt_of_not_le
    intro hcount
    rw [grow_eq_ok hcount] at hcause
    cases hcause
  · intro hshort
    exact ⟨_, grow_eq_error hshort⟩

private theorem overwrite_putBefore (h : new.length = old.length) :
    (p.putBefore old).overwrite new = p.putBefore new := by
  have hfront := p.length_take_room old.length
  have hbuffer := Octets.overwrite_append (p.buffer.take (p.headroom - old.length)) p.data h
  rw [hfront] at hbuffer
  apply ext_buffer
  · simp only [overwrite, putBefore, h]
    exact hbuffer
  · simp only [overwrite, putBefore, h]

/-- The octets, if there are any and they fit into so much room. -/
def within (room : Nat) (region? : Option Octets) : Option Octets :=
  region?.filter fun region => region.length ≤ room

private theorem within_eq_some_iff {region? : Option Octets} :
    within room region? = some region ↔ region? = some region ∧ region.length ≤ room := by
  rw [within, Option.filter_eq_some_iff, decide_eq_true_iff]

private theorem within_of_lt (h : room < region.length) : within room (some region) = none := by
  simp [within, Option.filter, h]

/-- Puts octets before the data, if there are any and the free room holds them. -/
def tryPut (p : Packet) (region? : Option Octets) : Bool × Packet :=
  (within p.headroom region?).elim (false, p) fun region => (true, p.putBefore region)

private theorem tryPut_of_le (h : region.length ≤ p.headroom) :
    p.tryPut (some region) = (true, p.putBefore region) := by
  rw [tryPut, within_eq_some_iff.mpr ⟨rfl, h⟩, Option.elim_some]

private theorem tryPut_of_lt (h : p.headroom < region.length) :
    p.tryPut (some region) = (false, p) := by
  rw [tryPut, within_of_lt h, Option.elim_none]

private theorem tryPut_eq_true_iff {region? : Option Octets} :
    (p.tryPut region?).1 = true ↔ ∃ region, within p.headroom region? = some region := by
  rw [tryPut]
  cases within p.headroom region? <;> simp

private theorem tryPut_of_eq_false {region? : Option Octets} (h : (p.tryPut region?).1 = false) :
    (p.tryPut region?).2 = p := by
  rw [tryPut] at h ⊢
  cases hregion : within p.headroom region? with
  | none => rfl
  | some region => simp [hregion] at h

end Packet

/-! ## The header of a codec -/

/-- The octets of a header that counts so many frames, if it can. -/
def FrameHeader.octets? (header : FrameHeader) (frames : UInt16) : Option Octets :=
  if frames ≤ header.maxFrames then some (frames.toUInt8 :: List.replicate (header.size - 1) 0)
  else none

private theorem FrameHeader.value_write {header : FrameHeader} (hsize : 0 < header.size)
    (p : Packet)
    (frames : UInt16) : (header.write p frames).value = p.tryPut (header.octets? frames) := by
  have hlength : (frames.toUInt8 :: List.replicate (header.size - 1) 0).length = header.size := by
    rw [List.length_cons, List.length_replicate]
    omega
  unfold write octets?
  by_cases hframes : frames ≤ header.maxFrames
  · rw [if_neg (UInt16.not_lt.mpr hframes), if_pos hframes]
    by_cases hroom : header.size ≤ p.headroom
    · have hregion := hlength.trans (Packet.length_roomEnd hroom).symm
      rw [Packet.grow_eq_ok hroom, Packet.tryPut_of_le (Nat.le_trans (Nat.le_of_eq hlength) hroom)]
      simp only [Reported.value_quiet, Packet.overwrite_putBefore hregion]
    · have hshort := Nat.not_le.mp hroom
      rw [Packet.grow_eq_error hshort, Packet.tryPut_of_lt (by rw [hlength]; exact hshort)]
      rfl
  · rw [if_pos (UInt16.not_le.mp hframes), if_neg hframes]
    rfl

/-- The header that a codec puts before so many frames, unless they are too many for it. -/
def Codec.packetHeader? (frames : UInt16) : Codec → Option Octets
  | .aptX | .aptXHD => some []
  | .ldac | .opus => if frames ≤ 15 then some [frames.toUInt8] else none
  | .lhdcV2 | .lhdcV3 | .lhdcV5 => if frames ≤ 63 then some [frames.toUInt8, 0] else none

private theorem Codec.packetHeader?_eq (c : Codec) (frames : UInt16) :
    c.packetHeader? frames =
      c.profile.frameHeader.elim (some []) fun header => header.octets? frames := by
  cases c <;> rfl

private theorem Codec.value_buildHeader (c : Codec) (p : Packet) (frames : UInt16) :
    (c.profile.buildHeader p frames).value = p.tryPut (c.packetHeader? frames) := by
  have hsize : ∀ header ∈ c.profile.frameHeader, 0 < header.size := by
    cases c <;> decide
  rw [packetHeader?_eq, Profile.buildHeader]
  cases hheader : c.profile.frameHeader with
  | some header => exact FrameHeader.value_write (hsize header hheader) p frames
  | none =>
    rw [Option.elim_none, Packet.tryPut_of_le (Nat.zero_le _), Packet.putBefore_nil]
    rfl

/-- The header of the codec that a buffer describes. A family that is known by name alone has
none. -/
def Registry.packetHeader? (r : Registry) (b : Octets) (frames : UInt16) : Option Octets :=
  match r.familyOf b with
  | some (.codec c) => c.packetHeader? frames
  | some (.nominal _) | none => none

private theorem Registry.packetHeader?_eq_some_iff {r : Registry} {b header : Octets}
    {frames : UInt16} : r.packetHeader? b frames = some header ↔
      ∃ c, r.familyOf b = some (.codec c) ∧ c.packetHeader? frames = some header := by
  unfold packetHeader?
  cases r.familyOf b with
  | none => simp
  | some family => cases family <;> simp

private theorem Registry.value_buildHeader (r : Registry) (b : Octets) (p : Packet)
    (frames : UInt16) : (r.buildHeader b p frames).value = p.tryPut (r.packetHeader? b frames) := by
  unfold buildHeader packetHeader?
  rw [value_ask]
  cases r.familyOf b with
  | none => rfl
  | some family =>
    cases family with
    | codec c => exact c.value_buildHeader p frames
    | nominal n => rfl

/-! ## Runs -/

/-- Writing into octets that may be changed but not moved: as many come out as went in. -/
structure Edit where
  apply : Octets → Octets
  length_apply : ∀ region, (apply region).length = region.length

namespace Packet

/-- What may be done to a packet. -/
inductive Operation where
  /-- Adds octets of the free room to the data, and writes into what was added. -/
  | prepend (count : Nat) (edit : Edit)
  /-- Puts the header of a buffer's codec before the data. -/
  | header (r : Registry) (b : Octets) (frames : UInt16)

/-- The packet after an operation. A refused one leaves it as it is. -/
def perform (p : Packet) : Operation → Packet
  | .prepend count edit =>
    match p.grow count with
    | .ok grown => grown.overwrite (edit.apply (grown.data.take count))
    | .error _ => p
  | .header r b frames => (r.buildHeader b p frames).value.2

def run (p : Packet) (ops : List Operation) : Packet := ops.foldl perform p

/-- The octets that an operation wants to add where the free room is clear. -/
def Operation.wanted? : Operation → Option Octets
  | .prepend count edit => some (edit.apply (List.replicate count 0))
  | .header r b frames => r.packetHeader? b frames

/-- The regions that a series of operations adds in so much free room, the newest first. -/
def regions : Nat → List Operation → List Octets
  | _, [] => []
  | room, op :: ops =>
    match within room op.wanted? with
    | some region => regions (room - region.length) ops ++ [region]
    | none => regions room ops

variable {p : Packet} {room count : Nat} {data region : Octets}

private theorem headroom_ofPayload (room : Nat) (data : Octets) :
    (ofPayload room data).headroom = room := rfl

private theorem data_ofPayload (room : Nat) (data : Octets) :
    (ofPayload room data).data = data := by
  rw [data_eq_drop]
  exact List.drop_left' List.length_replicate

private theorem length_ofPayload (room : Nat) (data : Octets) :
    (ofPayload room data).length = data.length := rfl

private theorem roomEnd_ofPayload (h : count ≤ room) :
    (ofPayload room data).roomEnd count = List.replicate count 0 := by
  simp only [roomEnd, ofPayload, List.take_left' List.length_replicate, List.drop_replicate]
  congr 1
  omega

private theorem putBefore_ofPayload (room : Nat) (data region : Octets) :
    (ofPayload room data).putBefore region =
      ofPayload (room - region.length) (region ++ data) := by
  apply ext_buffer
  · simp only [putBefore, data_ofPayload]
    simp only [ofPayload]
    rw [List.take_append_of_le_length (by simp), List.take_replicate,
      Nat.min_eq_left (Nat.sub_le _ _)]
  · rfl

private theorem grow_ofPayload (h : count ≤ room) :
    (ofPayload room data).grow count =
      .ok (ofPayload (room - count) (List.replicate count 0 ++ data)) := by
  have hgrow : (ofPayload room data).grow count = _ := grow_eq_ok h
  rw [hgrow, roomEnd_ofPayload h, putBefore_ofPayload, List.length_replicate]

private theorem perform_prepend_of_lt (h : p.headroom < count) (edit : Edit) :
    p.perform (.prepend count edit) = p := by
  simp only [perform, grow_eq_error h]

/-- One step: a packet that is a payload behind cleared room stays one. -/
theorem perform_ofPayload (room : Nat) (data : Octets) (op : Operation) :
    (ofPayload room data).perform op =
      (within room op.wanted?).elim (ofPayload room data) fun region =>
        ofPayload (room - region.length) (region ++ data) := by
  have hput : ∀ region?, ((ofPayload room data).tryPut region?).2 =
      (within room region?).elim (ofPayload room data) fun region =>
        ofPayload (room - region.length) (region ++ data) := by
    intro region?
    rw [tryPut, headroom_ofPayload]
    cases within room region? with
    | none => rfl
    | some region => exact putBefore_ofPayload room data region
  rw [← hput]
  cases op with
  | prepend count edit =>
    have hlength : (edit.apply (List.replicate count 0)).length = count := by
      rw [edit.length_apply, List.length_replicate]
    rw [Operation.wanted?]
    by_cases hcount : count ≤ room
    · rw [tryPut_of_le (Nat.le_trans (Nat.le_of_eq hlength) hcount)]
      have hgrow : (ofPayload room data).grow count =
          .ok ((ofPayload room data).putBefore (List.replicate count 0)) := by
        rw [grow_ofPayload hcount, putBefore_ofPayload, List.length_replicate]
      simp only [perform, hgrow, data_putBefore, List.take_left' List.length_replicate]
      exact overwrite_putBefore (hlength.trans List.length_replicate.symm)
    · have hshort : room < count := Nat.not_le.mp hcount
      rw [tryPut_of_lt (by rw [hlength]; exact hshort)]
      exact perform_prepend_of_lt hshort edit
  | header r b frames => exact congrArg Prod.snd (r.value_buildHeader b _ frames)

/-- A whole run: its regions stand before the payload, and what they take is taken from the room. -/
theorem run_ofPayload (room : Nat) (data : Octets) (ops : List Operation) :
    (regions room ops).flatten.length ≤ room ∧
      (ofPayload room data).run ops =
        ofPayload (room - (regions room ops).flatten.length)
          ((regions room ops).flatten ++ data) := by
  induction ops generalizing room data with
  | nil => exact ⟨Nat.zero_le _, rfl⟩
  | cons op ops ih =>
    rw [run, List.foldl_cons, ← run, perform_ofPayload]
    unfold regions
    cases hregion : within room op.wanted? with
    | none => exact ih room data
    | some region =>
      have hfits := (within_eq_some_iff.mp hregion).2
      obtain ⟨hrest, hrun⟩ := ih (room - region.length) (region ++ data)
      simp only [Option.elim_some, List.flatten_append, List.flatten_cons, List.flatten_nil,
        List.append_nil, List.length_append, hrun, List.append_assoc]
      refine ⟨by omega, ?_⟩
      congr 1
      omega

/-- Along every run of a packet the room and the data together keep their size, and the data are
the regions that were added, the newest first, before the payload. Growing is refused exactly where
the room is too small, which changes nothing, and otherwise adds cleared octets. -/
theorem run_keeps_payload (headroom : Nat) (payload : Octets) (ops : List Operation) :
    let p := (ofPayload headroom payload).run ops
    p.headroom + p.length = headroom + payload.length ∧
    p.data = (regions headroom ops).flatten ++ payload ∧
    p.freeze = p.data ∧
    ∀ count,
      ((∃ cause, p.grow count = .error cause) ↔ p.headroom < count) ∧
      (p.headroom < count → p.grow count = .error (.noHeadroom count p.headroom) ∧
        ∀ edit, p.perform (.prepend count edit) = p) ∧
      ∀ grown, p.grow count = .ok grown →
        grown.headroom + count = p.headroom ∧ grown.data = List.replicate count 0 ++ p.data := by
  obtain ⟨hfits, hrun⟩ := run_ofPayload headroom payload ops
  rw [hrun]
  intro p
  refine ⟨?_, data_ofPayload _ _, p.freeze_eq_data, fun count => ⟨exists_grow_eq_error_iff, ?_, ?_⟩⟩
  · simp only [p, length_ofPayload, headroom_ofPayload, List.length_append]
    omega
  · intro hshort
    exact ⟨grow_eq_error hshort, perform_prepend_of_lt hshort⟩
  · intro grown hgrown
    have hcount : count ≤ p.headroom := by
      apply Nat.le_of_not_lt
      intro hshort
      rw [grow_eq_error hshort] at hgrown
      cases hgrown
    have hgrow : p.grow count = _ := grow_ofPayload hcount
    rw [hgrow] at hgrown
    cases hgrown
    simp only [p, headroom_ofPayload, data_ofPayload] at hcount ⊢
    exact ⟨Nat.sub_add_cancel hcount, trivial⟩

end Packet

/-! ## What a header changes -/

namespace Codec

variable {c : Codec} {frames : UInt16} {room : Nat} {header : Octets}

/-- The codec puts a header before so many frames where there is so much free room. -/
def TakesHeader (frames : UInt16) (room : Nat) : Codec → Prop
  | .aptX | .aptXHD => True
  | .ldac | .opus => frames.toNat ≤ 15 ∧ 1 ≤ room
  | .lhdcV2 | .lhdcV3 | .lhdcV5 => frames.toNat ≤ 63 ∧ 2 ≤ room

/-- The header that a codec puts before so many frames, as numbers. -/
def headerNumbers (frames : UInt16) : Codec → List Nat
  | .aptX | .aptXHD => []
  | .ldac | .opus => [frames.toNat]
  | .lhdcV2 | .lhdcV3 | .lhdcV5 => [frames.toNat, 0]

private theorem exists_within_packetHeader?_iff :
    (∃ header, Packet.within room (c.packetHeader? frames) = some header) ↔
      c.TakesHeader frames room := by
  have hcount : ∀ {limit : UInt16} {octets : Octets},
      (∃ header, Packet.within room (if frames ≤ limit then some octets else none) =
        some header) ↔ frames.toNat ≤ limit.toNat ∧ octets.length ≤ room := by
    intro limit octets
    simp only [Packet.within_eq_some_iff, ← UInt16.le_iff_toNat_le]
    by_cases hframes : frames ≤ limit <;> simp [hframes]
  have hnone : (∃ header, Packet.within room (some []) = some header) ↔ True :=
    iff_true_intro ⟨[], Packet.within_eq_some_iff.mpr ⟨rfl, Nat.zero_le room⟩⟩
  cases c with
  | aptX => exact hnone
  | aptXHD => exact hnone
  | ldac => exact hcount
  | opus => exact hcount
  | lhdcV2 => exact hcount
  | lhdcV3 => exact hcount
  | lhdcV5 => exact hcount

/-- The count of frames in a header is never cut off. -/
theorem map_toNat_of_packetHeader? (h : c.packetHeader? frames = some header) :
    header.map UInt8.toNat = c.headerNumbers frames := by
  have hcount : ∀ {limit : UInt16} {rest : Octets}, limit.toNat < 256 →
      (if frames ≤ limit then some (frames.toUInt8 :: rest) else none) = some header →
      header.map UInt8.toNat = frames.toNat :: rest.map UInt8.toNat := by
    intro limit rest hlimit hheader
    by_cases hframes : frames ≤ limit
    · rw [if_pos hframes] at hheader
      cases hheader
      have hle := UInt16.le_iff_toNat_le.mp hframes
      rw [List.map_cons, UInt16.toNat_toUInt8, Nat.mod_eq_of_lt (by omega)]
    · rw [if_neg hframes] at hheader
      cases hheader
  cases c with
  | aptX => cases h; rfl
  | aptXHD => cases h; rfl
  | ldac => exact hcount (by decide) h
  | opus => exact hcount (by decide) h
  | lhdcV2 => exact hcount (by decide) h
  | lhdcV3 => exact hcount (by decide) h
  | lhdcV5 => exact hcount (by decide) h

end Codec

namespace Registry

/-- The header of a packet is written exactly where the codec of the buffer counts so many frames
and the packet has room for it, and then it stands before the data. A refused packet stays as it
is. -/
theorem buildHeader_written_iff (r : Registry) (b : Octets) (p : Packet) (frames : UInt16) :
    let result := (r.buildHeader b p frames).value
    (result.1 = true ↔
      ∃ c, r.resolveBuffer b = .ok (some (.codec c)) ∧ c.TakesHeader frames p.headroom) ∧
    (∀ c, r.resolveBuffer b = .ok (some (.codec c)) → result.1 = true →
      ∃ header : Octets, header.map UInt8.toNat = c.headerNumbers frames ∧
        result.2.data = header ++ p.data ∧
        result.2.headroom + header.length = p.headroom) ∧
    (result.1 = false → result.2 = p) := by
  intro result
  have hresult : result = p.tryPut (r.packetHeader? b frames) := r.value_buildHeader b p frames
  simp only [hresult, resolveBuffer_eq_ok_some_iff, Packet.tryPut_eq_true_iff]
  refine ⟨?_, ?_, Packet.tryPut_of_eq_false⟩
  · simp only [← Codec.exists_within_packetHeader?_iff, Packet.within_eq_some_iff,
      packetHeader?_eq_some_iff]
    constructor
    · rintro ⟨header, ⟨c, hc, hheader⟩, hroom⟩
      exact ⟨c, hc, header, hheader, hroom⟩
    · rintro ⟨c, hc, header, hheader, hroom⟩
      exact ⟨header, ⟨c, hc, hheader⟩, hroom⟩
  · rintro c hc ⟨header, hfits⟩
    obtain ⟨hsome, hroom⟩ := Packet.within_eq_some_iff.mp hfits
    obtain ⟨d, hd, hheader⟩ := packetHeader?_eq_some_iff.mp hsome
    cases hc.symm.trans hd
    refine ⟨header, Codec.map_toNat_of_packetHeader? hheader, ?_⟩
    rw [Packet.tryPut, hfits]
    exact ⟨Packet.data_putBefore p header, Nat.sub_add_cancel hroom⟩

end Registry

end A2dp
