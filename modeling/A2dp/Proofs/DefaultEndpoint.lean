import A2dp.Proofs.Adjustment
import A2dp.Proofs.Preservation
import A2dp.Proofs.Stores

/-!
# Default configurations of stream endpoints

Initialising an endpoint for an index forgets what it announced before, services other than content
protection apart. What it announces then is the default of the index: a capability that is valid in
the roles of its direction, belongs to the index, and has nothing to adjust.
-/

namespace A2dp

namespace Services

private theorem union_right_comm (s t u : Services) :
    (s.union t).union u = (s.union u).union t := by
  simp only [union, mk.injEq]
  rw [UInt16.or_assoc, UInt16.or_comm t.bits, ← UInt16.or_assoc]

private theorem none_without (s : Services) : none.without s = none := by
  simp only [without, none, UInt16.zero_and]

private theorem none_union (s : Services) : none.union s = s := by
  simp only [union, none, UInt16.zero_or]

end Services

namespace Endpoint

def addServices (e : Endpoint) (s : Services) : Endpoint :=
  { e with services := e.services.union s }

/-- Of a configuration that is emptied for a codec, only services other than content protection
are left. -/
theorem reset_eq (e : Endpoint) :
    e.reset = empty.reset.addServices (e.services.without .contentProtection) := by
  apply Endpoint.ext
  · rfl
  · rfl
  · rfl
  · rfl
  · simp only [reset, clearProtection, addServices, empty, Services.none_without]
    rw [Services.union_right_comm, Services.none_union]

/-- No service beside a media codec and content protection is announced. -/
def IsPlain (e : Endpoint) : Prop :=
  (e.services.without .contentProtection).union .mediaCodec = .mediaCodec

private theorem IsPlain.reset_eq {e : Endpoint} (h : e.IsPlain) : e.reset = empty.reset := by
  apply Endpoint.ext
  · rfl
  · rfl
  · rfl
  · rfl
  · exact h

private theorem addScmsT_addServices (e : Endpoint) (s : Services) :
    (e.addServices s).addScmsT = e.addScmsT.addServices s := by
  apply Endpoint.ext
  · rfl
  · rfl
  · rfl
  · rfl
  · exact Services.union_right_comm e.services s .contentProtection

private theorem capability_write (e : Endpoint) {new : Octets}
    (hlength : new.length = (new.headD 0).toNat + 1) (hroom : new.length ≤ 20) :
    (e.write 0 new).capability = new := by
  have hbuffer : (e.write 0 new).buffer = new ++ e.buffer.drop new.length := by
    have htake : new.take e.buffer.length = new := by
      rw [e.buffer_length]
      exact List.take_of_length_le hroom
    simp only [write, Octets.overwrite, List.take_zero, List.nil_append, Nat.sub_zero, htake,
      Nat.zero_add]
  have hhead : (new ++ e.buffer.drop new.length).headD 0 = new.headD 0 := by
    cases new with
    | nil => simp at hlength
    | cons x rest => rfl
  rw [capability, hbuffer, hhead, ← hlength, Nat.min_eq_left hroom]
  exact List.take_left

end Endpoint

namespace Profile

variable {p : Profile} {direction : Direction} {offer : Octets}

/-- Services that were there before are there afterwards, and have no other effect. -/
theorem value_initialise_addServices (p : Profile) (scmsT : Bool) (direction : Direction)
    (e : Endpoint) (s : Services) :
    (p.initialise scmsT direction (e.addServices s)).value =
      ((p.initialise scmsT direction e).value.1,
        (p.initialise scmsT direction e).value.2.addServices s) := by
  unfold initialise
  cases p.stores direction with
  | none => rfl
  | some stores =>
    have hbuffer : (e.addServices s).buffer = e.buffer := rfl
    simp only [hbuffer]
    cases Header.room e.buffer.length p.losc with
    | error cause => rfl
    | ok total =>
      simp only [Reported.value_quiet]
      split
      · rw [← Endpoint.addScmsT_addServices]
        rfl
      · rfl

/-- The capability that a codec announces for an offer. -/
def announcement (p : Profile) (offer : Octets) : Octets :=
  Header.octets p.losc .audio p.key ++ offer

private theorem key_announcement (p : Profile) (offer : Octets) :
    Header.key (p.announcement offer) = .ok p.key :=
  Header.key_octets_append p.losc .audio p.key offer

theorem length_announcement (p : Profile) (offer : Octets) :
    (p.announcement offer).length = Header.size + offer.length := by
  rw [announcement, List.length_append, Header.length_octets]

theorem drop_announcement (p : Profile) (offer : Octets) :
    (p.announcement offer).drop Header.size = offer :=
  List.drop_left' (Header.length_octets p.losc .audio p.key)

private theorem check_announcement (hlength : offer.length = p.layout.length) :
    Header.check (p.announcement offer) p.losc p.key = .ok () := by
  apply Header.check_octets_append
  rw [p.losc_toNat, hlength]
  simp only [Header.size]
  omega

private theorem read_announcement (hlength : offer.length = p.layout.length) (reading : Reading) :
    p.read reading (p.announcement offer) = p.layout.read reading offer := by
  rw [read_of_check (check_announcement hlength), drop_announcement]

private theorem adjust_announcement (hlength : offer.length = p.layout.length)
    (hnormal : p.layout.normalise offer = (false, offer)) :
    p.adjust (p.announcement offer) = (false, p.announcement offer) := by
  have hparts := List.take_append_drop Header.size (p.announcement offer)
  rw [drop_announcement] at hparts
  rw [adjust_of_check (check_announcement hlength), drop_announcement, hnormal, hparts]

/-- What is written is all that is announced, whatever the rest of the buffer holds. -/
theorem capability_write_announcement (hroom : p.losc.toNat + 1 ≤ 20)
    (hlength : offer.length = p.layout.length) (e : Endpoint) :
    (e.write 0 (p.announcement offer)).capability = p.announcement offer := by
  have hlosc := p.losc_toNat
  have hannounced : (p.announcement offer).length = p.losc.toNat + 1 := by
    rw [length_announcement, hlength, hlosc]
    simp only [Header.size]
    omega
  exact e.capability_write hannounced (by omega)

theorem room_buffer (hroom : p.losc.toNat + 1 ≤ 20) (e : Endpoint) :
    Header.room e.buffer.length p.losc = .ok (p.losc.toNat + 1) := by
  have hlosc := p.losc_toNat
  rw [Header.room_eq_ok_iff, e.buffer_length, Header.size]
  omega

theorem supports_source (p : Profile) :
    p.roles.supports .localSource = true ∧ p.roles.supports .peerSink = true := by
  rw [p.roles_eq]
  split
  · decide
  · decide

/-- A codec is received by the local endpoint exactly if it is sent by a peer, and then the sink has
something to offer. -/
theorem supports_sink (p : Profile) :
    p.roles.supports .localSink = (p.offer .sink).isSome ∧
      p.roles.supports .peerSource = (p.offer .sink).isSome := by
  rw [p.roles_eq, offer, Option.isSome_map, stores]
  cases p.sinkStores.isSome with
  | true => decide
  | false => decide

/-- Behind the header, stores leave the octets of the offer. -/
theorem store_header {stores : List Store} (hstores : p.stores direction = some stores)
    (hroom : p.losc.toNat + 1 ≤ 20) {b : Octets} (hb : b.length = 20) :
    Store.run stores (b.overwrite 0 (Header.octets p.losc .audio p.key)) =
      b.overwrite 0 (p.announcement (Store.content Header.size p.layout.length stores)) := by
  have hlosc := p.losc_toNat
  have hfits : Header.size + p.layout.length ≤ b.length := by
    rw [hb, Header.size]
    omega
  rw [Store.run_of_fill (stores_fill hstores) (by rwa [Octets.length_overwrite]),
    Octets.overwrite_overwrite_zero (Header.length_octets _ _ _) (by rwa [Store.length_content])]
  rfl

section Initialise

variable (hoffer : p.offer direction = some offer) (hroom : p.losc.toNat + 1 ≤ 20)
include hoffer hroom

/-- Whatever an endpoint held, header and stores together write the announcement. -/
theorem initialise_of_offer (scmsT : Bool) (e : Endpoint) :
    p.initialise scmsT direction e =
      .quiet (true, if scmsT && p.announcesScmsT then (e.write 0 (p.announcement offer)).addScmsT
        else e.write 0 (p.announcement offer)) := by
  obtain ⟨stores, hstores, rfl⟩ := Option.map_eq_some_iff.mp hoffer
  have hfilled : (e.write 0 (Header.octets p.losc .audio p.key)).store stores =
      e.write 0 (p.announcement (Store.content Header.size p.layout.length stores)) := by
    apply Endpoint.ext
    · exact store_header hstores hroom e.buffer_length
    · rfl
    · rfl
    · rfl
    · rfl
  unfold initialise
  simp only [hstores, room_buffer hroom e, hfilled]

theorem value_initialise (scmsT : Bool) (e : Endpoint) :
    (p.initialise scmsT direction e).value =
      (true, if scmsT && p.announcesScmsT then (e.write 0 (p.announcement offer)).addScmsT
        else e.write 0 (p.announcement offer)) :=
  congrArg Reported.value (initialise_of_offer hoffer hroom scmsT e)

private theorem capability_initialise (hlength : offer.length = p.layout.length) (scmsT : Bool)
    (e : Endpoint) :
    (p.initialise scmsT direction e).value.2.capability = p.announcement offer := by
  have hwrite := capability_write_announcement hroom hlength e
  rw [value_initialise hoffer hroom]
  split
  · exact hwrite
  · exact hwrite

private theorem isPlain_initialise (scmsT : Bool) :
    (p.initialise scmsT direction Endpoint.empty.reset).value.2.IsPlain := by
  have hreset : Endpoint.empty.reset.services = .mediaCodec := by decide
  have hmedia : (Services.mediaCodec.without .contentProtection).union .mediaCodec =
      .mediaCodec := by
    decide
  have hboth : ((Services.mediaCodec.union .contentProtection).without
      .contentProtection).union .mediaCodec = .mediaCodec := by
    decide
  rw [value_initialise hoffer hroom]
  unfold Endpoint.IsPlain
  split
  · simp only [Endpoint.addScmsT, Endpoint.writeProtection, Endpoint.write, hreset]
    exact hboth
  · simp only [Endpoint.write, hreset]
    exact hmedia

end Initialise

end Profile

namespace Codec

/-- What a codec offers can be read, and is in normal form. -/
theorem offer_wellFormed (c : Codec) (direction : Direction) :
    ∀ offer ∈ c.profile.offer direction,
      (c.profile.layout.read .capability offer).isOk = true ∧
        c.profile.layout.normalise offer = (false, offer) := by
  cases c <;> cases direction <;> decide

/-- A sink can take what it offers itself. -/
theorem sinkOffer_meets (c : Codec) : ∀ offer ∈ c.profile.offer .sink,
    ((c.profile.layout.read .capability offer).toOption.any fun settings =>
      c.profile.accepted.any fun accepted => settings.meets accepted) = true := by
  cases c <;> decide

theorem losc_fits (c : Codec) : c.profile.losc.toNat + 1 ≤ 20 := by
  cases c <;> decide

private theorem isSome_offer_of_owner {c : Codec} {index : CodecIndex}
    (h : index.owner = .vendor c.profile.key) :
    (c.profile.offer index.direction).isSome = true := by
  have hcodec : ∀ d : Codec, IndexOwner.vendor d.profile.key = .vendor c.profile.key → d = c :=
    fun d hd => eq_of_key_eq (IndexOwner.vendor.inj hd)
  cases index with
  | sinkLdac => rw [← hcodec .ldac h]; rfl
  | sinkOpus => rw [← hcodec .opus h]; rfl
  | sinkLhdcV3 => rw [← hcodec .lhdcV3 h]; rfl
  | sinkLhdcV5 => rw [← hcodec .lhdcV5 h]; rfl
  | sinkSbc => cases h
  | sinkAac => cases h
  | _ => rfl

end Codec

private theorem CodecIndex.exists_codec_of_owner {index : CodecIndex} {key : CodecKey}
    (h : index.owner = .vendor key) : ∃ c ∈ Codec.all, c.profile.key = key := by
  cases index <;> cases h <;> decide

/-- A key has at most one index in a direction. -/
theorem CodecIndex.ofKey?_of_owner {index : CodecIndex} {key : CodecKey}
    (h : index.owner = .vendor key) : ofKey? key index.direction = some index := by
  cases index <;> cases h <;> rfl

namespace Registry

variable {r : Registry} {index : CodecIndex} {c : Codec}

/-- A buffer is what the owner of an index announces: it belongs to the index, is valid in the roles
of the direction, and what is received from such a source is supported. -/
def IsAnnouncementOf (r : Registry) (index : CodecIndex) (b : Octets) : Prop :=
  match index.direction with
  | .source =>
    (r.sourceIndex b).value = some index ∧ (r.isValidFor .localSource b).value = true ∧
      (r.isValidFor .peerSink b).value = true
  | .sink =>
    (r.sinkIndex b).value = some index ∧ (r.isValidFor .localSink b).value = true ∧
      (r.isValidFor .peerSource b).value = true ∧ (r.isPeerSourceSupported b).value = true

theorem isValidFor_announcement {direction : Direction} {offer : Octets}
    (hresolve : r.resolve c.profile.key = some (.codec c))
    (hoffer : c.profile.offer direction = some offer) (role : Role)
    (hrole : c.profile.roles.supports role = true) :
    (r.isValidFor role (c.profile.announcement offer)).value = true := by
  have hlength := Profile.length_offer hoffer
  obtain ⟨hok, -⟩ := c.offer_wellFormed direction offer hoffer
  have hfamily : r.familyOf (c.profile.announcement offer) = some (.codec c) :=
    familyOf_eq_some_iff.mpr ⟨c.profile.key_announcement offer, hresolve⟩
  have hisOk := c.profile.isValid_eq_isOk (c.profile.announcement offer)
  rw [Profile.read_announcement hlength, hok] at hisOk
  exact isValidFor_iff.mpr ⟨.codec c, hfamily, hrole, hisOk⟩

private theorem isAnnouncementOf_announcement {offer : Octets}
    (howner : index.owner = .vendor c.profile.key)
    (hresolve : r.resolve c.profile.key = some (.codec c))
    (hoffer : c.profile.offer index.direction = some offer) :
    r.IsAnnouncementOf index (c.profile.announcement offer) := by
  have hlength := Profile.length_offer hoffer
  have hfamily : r.familyOf (c.profile.announcement offer) = some (.codec c) :=
    familyOf_eq_some_iff.mpr ⟨c.profile.key_announcement offer, hresolve⟩
  have hvalid := isValidFor_announcement hresolve hoffer
  have hindex := CodecIndex.ofKey?_of_owner howner
  unfold IsAnnouncementOf
  cases hdirection : index.direction with
  | source =>
    rw [hdirection] at hindex
    obtain ⟨hlocal, hpeer⟩ := c.profile.supports_source
    refine ⟨?_, hvalid _ hlocal, hvalid _ hpeer⟩
    exact (value_askFor_of_family hfamily hlocal _ _).trans hindex
  | sink =>
    rw [hdirection] at hindex hoffer
    have hsome := Option.isSome_of_eq_some hoffer
    have hlocal := c.profile.supports_sink.1.trans hsome
    have hpeer := c.profile.supports_sink.2.trans hsome
    refine ⟨?_, hvalid _ hlocal, hvalid _ hpeer, ?_⟩
    · exact (value_askFor_of_family hfamily hlocal _ _).trans hindex
    · refine (value_askFor_of_family hfamily hpeer _ _).trans ?_
      have hmeets := c.profile.meetsSink_eq_any .capability (c.profile.announcement offer)
      rw [Profile.read_announcement hlength, c.sinkOffer_meets offer hoffer] at hmeets
      exact hmeets

private theorem value_initialise_of_codec (howner : index.owner = .vendor c.profile.key)
    (hresolve : r.resolve c.profile.key = some (.codec c)) (e : Endpoint) :
    (r.initialise index e).value =
      (c.profile.initialise r.scmsT index.direction e.reset).value := by
  unfold initialise
  simp only [howner, hresolve]
  rfl

theorem initialise_of_codec (howner : index.owner = .vendor c.profile.key)
    (hresolve : r.resolve c.profile.key = some (.codec c)) :
    ∃ offer d, c.profile.offer index.direction = some offer ∧
      (r.defaultEndpoint index).value = some d ∧ d.capability = c.profile.announcement offer ∧
        ∀ e, (r.initialise index e).value =
          (true, d.addServices (e.services.without .contentProtection)) := by
  obtain ⟨offer, hoffer⟩ := Option.isSome_iff_exists.mp (Codec.isSome_offer_of_owner howner)
  have hlength := Profile.length_offer hoffer
  have hfresh := Profile.value_initialise hoffer c.losc_fits r.scmsT Endpoint.empty.reset
  refine ⟨offer, (c.profile.initialise r.scmsT index.direction Endpoint.empty.reset).value.2,
    hoffer, ?_, Profile.capability_initialise hoffer c.losc_fits hlength _ _, ?_⟩
  · simp only [defaultEndpoint, Reported.value_map, value_initialise_of_codec howner hresolve,
      hfresh, if_true]
  · intro e
    rw [value_initialise_of_codec howner hresolve, e.reset_eq,
      Profile.value_initialise_addServices, hfresh]

theorem initialise_eq_true_iff {e : Endpoint} :
    (r.initialise index e).value.1 = true ↔
      ∃ key c, index.owner = .vendor key ∧ r.resolve key = some (.codec c) := by
  constructor
  · intro h
    unfold initialise at h
    cases howner : index.owner with
    | standard => simp [howner] at h
    | unimplemented => simp [howner] at h
    | vendor key =>
      simp only [howner] at h
      cases hresolve : r.resolve key with
      | none => simp [hresolve] at h
      | some family =>
        cases family with
        | codec c => exact ⟨key, c, rfl, hresolve⟩
        | nominal n =>
          rw [hresolve] at h
          cases h
  · intro ⟨key, c, howner, hresolve⟩
    cases key_of_resolve hresolve
    obtain ⟨offer, d, -, -, -, hvalue⟩ := initialise_of_codec howner hresolve
    rw [hvalue]

/-- Initialises an endpoint for one index after another. -/
def initialiseAll (r : Registry) (e : Endpoint) (indexes : List CodecIndex) : Endpoint :=
  indexes.foldl (fun e index => (r.initialise index e).value.2) e

private theorem defaultEndpoint_of_initialise {d : Endpoint}
    (h : (r.initialise index .empty).value = (true, d)) :
    (r.defaultEndpoint index).value = some d := by
  simp only [defaultEndpoint, Reported.value_map, h, if_true]

/-- In a builtin registry a call either fails and leaves the configuration alone, or replaces a
plain one by the default of the index. -/
theorem initialise_builtin_of_isPlain (scmsT : Bool) (index : CodecIndex) {e : Endpoint}
    (h : e.IsPlain) :
    ((builtin scmsT).initialise index e).value.2 =
        ((builtin scmsT).defaultEndpoint index).value.getD e ∧
      (((builtin scmsT).defaultEndpoint index).value.getD e).IsPlain := by
  cases howner : index.owner with
  | standard =>
    simp only [defaultEndpoint, initialise, howner]
    exact ⟨rfl, h⟩
  | unimplemented =>
    simp only [defaultEndpoint, initialise, howner]
    exact ⟨rfl, h⟩
  | vendor key =>
    obtain ⟨c, -, hkey⟩ := CodecIndex.exists_codec_of_owner howner
    subst hkey
    have hresolve := resolve_builtin_key scmsT c
    obtain ⟨offer, hoffer⟩ := Option.isSome_iff_exists.mp (Codec.isSome_offer_of_owner howner)
    have hvalue : ∀ {e : Endpoint}, e.IsPlain → ((builtin scmsT).initialise index e).value =
        (true, (c.profile.initialise scmsT index.direction Endpoint.empty.reset).value.2) := by
      intro e he
      have hfresh := Profile.value_initialise hoffer c.losc_fits scmsT Endpoint.empty.reset
      rw [value_initialise_of_codec howner hresolve, he.reset_eq, hfresh]
      exact hfresh
    rw [hvalue h, defaultEndpoint_of_initialise (hvalue rfl)]
    exact ⟨rfl, Profile.isPlain_initialise hoffer c.losc_fits scmsT⟩

private theorem initialiseAll_builtin (scmsT : Bool) (indexes : List CodecIndex) {e : Endpoint}
    (h : e.IsPlain) :
    (builtin scmsT).initialiseAll e indexes =
      (indexes.reverse.findSome? fun index =>
        ((builtin scmsT).defaultEndpoint index).value).getD e := by
  induction indexes generalizing e with
  | nil => rfl
  | cons index indexes ih =>
    obtain ⟨hstep, hplain⟩ := initialise_builtin_of_isPlain scmsT index h
    have hrest := ih hplain
    -- the first call counts only if none of the later ones has a default
    rw [initialiseAll, List.foldl_cons, hstep, ← initialiseAll, hrest, List.reverse_cons,
      List.findSome?_append]
    cases indexes.reverse.findSome? fun index => ((builtin scmsT).defaultEndpoint index).value with
    | some d => rfl
    | none =>
      simp only [Option.none_or, Option.getD_none, List.findSome?_singleton]

/-- Initialising an endpoint succeeds exactly for an index of a codec, and then leaves the default
configuration of the index, to which services other than content protection are added that were
there before. What is announced belongs to the index and has nothing to adjust. So in a builtin
registry a series of calls leaves the default configuration of the last index that has one. -/
theorem initialise_default_and_announced (r : Registry) (index : CodecIndex) (e : Endpoint) :
    let result := (r.initialise index e).value
    (result.1 = true ↔
      ∃ key c, index.owner = .vendor key ∧ r.resolve key = some (.codec c)) ∧
    (result.1 = true → ∃ d, (r.defaultEndpoint index).value = some d ∧
      result.2 = { d with
        services := d.services.union (e.services.without .contentProtection) } ∧
      r.IsAnnouncementOf index result.2.capability ∧
      (r.adjust result.2.capability).value = (false, result.2.capability)) ∧
    ∀ scmsT indexes,
      (builtin scmsT).initialiseAll .empty indexes =
        (indexes.reverse.findSome? fun index =>
          ((builtin scmsT).defaultEndpoint index).value).getD .empty := by
  intro result
  refine ⟨initialise_eq_true_iff, ?_, fun scmsT indexes => initialiseAll_builtin scmsT indexes rfl⟩
  intro hresult
  obtain ⟨key, c, howner, hresolve⟩ := initialise_eq_true_iff.mp hresult
  cases key_of_resolve hresolve
  obtain ⟨offer, d, hoffer, hdefault, hcapability, hvalue⟩ := initialise_of_codec howner hresolve
  have hlength := Profile.length_offer hoffer
  obtain ⟨-, hnormal⟩ := c.offer_wellFormed index.direction offer hoffer
  have hresult2 : result.2 = d.addServices (e.services.without .contentProtection) := by
    simp only [result, hvalue]
  have hannounced : result.2.capability = c.profile.announcement offer := by
    rw [hresult2]
    exact hcapability
  have hfamily : r.familyOf (c.profile.announcement offer) = some (.codec c) :=
    familyOf_eq_some_iff.mpr ⟨c.profile.key_announcement offer, hresolve⟩
  refine ⟨d, hdefault, hresult2, ?_, ?_⟩
  · rw [hannounced]
    exact isAnnouncementOf_announcement howner hresolve hoffer
  · rw [hannounced, value_adjust, hfamily]
    exact Profile.adjust_announcement hlength hnormal

end Registry

end A2dp
