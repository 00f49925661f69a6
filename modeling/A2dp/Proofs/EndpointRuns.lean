import A2dp.Proofs.DefaultEndpoint

/-!
# Endpoint configurations under any series of operations

Content protection may be announced and withdrawn, and a codec may be initialised through a
registry or asked directly, in any order. All the configurations that arise differ in three things
only: whether a codec has been counted, whether content is protected, and the octets of the buffer.
So the fields that belong together always agree, and what stands in the buffer is a capability or
nothing, even where a shorter capability was written over a longer one or an initialisation failed.
-/

namespace A2dp

namespace Services

/-- A media codec and content protection, each if it is there. -/
def ofFlags (counted guarded : Bool) : Services :=
  (if counted then mediaCodec else none).union (if guarded then contentProtection else none)

variable (counted guarded : Bool)

private theorem ofFlags_union_contentProtection :
    (ofFlags counted guarded).union contentProtection = ofFlags counted true := by
  cases counted <;> cases guarded <;> decide

private theorem ofFlags_without_contentProtection :
    (ofFlags counted guarded).without contentProtection = ofFlags counted false := by
  cases counted <;> cases guarded <;> decide

private theorem ofFlags_union_mediaCodec :
    (ofFlags counted guarded).union mediaCodec = ofFlags true guarded := by
  cases counted <;> cases guarded <;> decide

private theorem ofFlags_without_both :
    (ofFlags counted guarded).without (mediaCodec.union contentProtection) = none := by
  cases counted <;> cases guarded <;> decide

end Services

namespace Endpoint

/-- The configuration with these octets, in which a codec is counted or not and content is
protected or not. -/
def ofShape (counted guarded : Bool) (buffer : Octets) (h : buffer.length = 20) : Endpoint where
  buffer := buffer
  protection := if guarded then [2, 2, 0] ++ List.replicate 87 0 else List.replicate 90 0
  codecCount := if counted then 1 else 0
  protectionCount := if guarded then 1 else 0
  services := .ofFlags counted guarded
  buffer_length := h
  protection_length := by cases guarded <;> simp

section Shape

variable (counted guarded : Bool) {buffer : Octets} (h : buffer.length = 20)

private theorem addScmsT_ofShape :
    (ofShape counted guarded buffer h).addScmsT = ofShape counted true buffer h := by
  apply Endpoint.ext
  · rfl
  · cases guarded <;> rfl
  · rfl
  · rfl
  · exact Services.ofFlags_union_contentProtection counted guarded

private theorem clearProtection_ofShape :
    (ofShape counted guarded buffer h).clearProtection = ofShape counted false buffer h := by
  apply Endpoint.ext
  · rfl
  · rfl
  · rfl
  · rfl
  · exact Services.ofFlags_without_contentProtection counted guarded

private theorem reset_ofShape :
    (ofShape counted guarded buffer h).reset =
      ofShape true false (List.replicate 20 0) List.length_replicate := by
  rw [reset, clearProtection_ofShape]
  apply Endpoint.ext
  · rfl
  · rfl
  · rfl
  · rfl
  · exact Services.ofFlags_union_mediaCodec counted false

end Shape

/-- The buffer is clear, or its octets up to the announced length are what a codec offers. -/
def HasOffer (e : Endpoint) : Prop :=
  e.buffer = List.replicate 20 0 ∨
    ∃ c direction, ∃ offer ∈ Codec.profile c |>.offer direction,
      e.capability = c.profile.announcement offer

/-- What is true of a configuration, whatever has been done to it. -/
def IsOrderly (e : Endpoint) : Prop :=
  e.HasOffer ∧ ∃ counted guarded, e = ofShape counted guarded e.buffer e.buffer_length

namespace IsOrderly

variable {e : Endpoint}

theorem empty : Endpoint.empty.IsOrderly := by
  refine ⟨.inl rfl, false, false, ?_⟩
  apply Endpoint.ext
  · rfl
  · rfl
  · rfl
  · rfl
  · decide

theorem addScmsT (h : e.IsOrderly) : e.addScmsT.IsOrderly := by
  obtain ⟨hoffer, counted, guarded, hshape⟩ := h
  refine ⟨hoffer, counted, true, ?_⟩
  rw [hshape, addScmsT_ofShape]
  rfl

theorem clearProtection (h : e.IsOrderly) : e.clearProtection.IsOrderly := by
  obtain ⟨hoffer, counted, guarded, hshape⟩ := h
  refine ⟨hoffer, counted, false, ?_⟩
  rw [hshape, clearProtection_ofShape]
  rfl

theorem reset (h : e.IsOrderly) : e.reset.IsOrderly := by
  obtain ⟨-, counted, guarded, hshape⟩ := h
  refine ⟨.inl rfl, true, false, ?_⟩
  rw [hshape, reset_ofShape]
  rfl

theorem initialise (h : e.IsOrderly) (c : Codec) (scmsT : Bool) (direction : Direction) :
    (c.profile.initialise scmsT direction e).value.2.IsOrderly := by
  cases hoffer : c.profile.offer direction with
  | none =>
    simp only [Profile.initialise, Option.map_eq_none_iff.mp hoffer, Reported.value_quiet]
    exact h
  | some offer =>
    have hlength := Profile.length_offer hoffer
    have hwrite : (e.write 0 (c.profile.announcement offer)).IsOrderly := by
      obtain ⟨-, counted, guarded, hshape⟩ := h
      refine ⟨.inr ⟨c, direction, offer, hoffer,
        Profile.capability_write_announcement c.losc_fits hlength e⟩, counted, guarded, ?_⟩
      rw [hshape]
      rfl
    rw [Profile.value_initialise hoffer c.losc_fits]
    split
    · exact hwrite.addScmsT
    · exact hwrite

end IsOrderly

/-- What may be done to a configuration. -/
inductive Operation where
  | addScmsT
  | clearProtection
  /-- Initialises it for an index, through a registry. -/
  | initialise (r : Registry) (index : CodecIndex)
  /-- Asks a codec for its default directly, with SCMS-T built in or not. -/
  | ask (c : Codec) (scmsT : Bool) (direction : Direction)

def perform (e : Endpoint) : Operation → Endpoint
  | .addScmsT => e.addScmsT
  | .clearProtection => e.clearProtection
  | .initialise r index => (r.initialise index e).value.2
  | .ask c scmsT direction => ((Family.codec c).initialise scmsT direction e).value.2

def run (e : Endpoint) (ops : List Operation) : Endpoint := ops.foldl perform e

end Endpoint

/-- A registry asks the family of the index, if there is one, about an emptied configuration. -/
theorem Registry.value_initialise (r : Registry) (index : CodecIndex) (e : Endpoint) :
    (r.initialise index e).value = (r.familyOfIndex index).elim (false, e) fun family =>
      (family.initialise r.scmsT index.direction e.reset).value := by
  unfold initialise familyOfIndex CodecIndex.key?
  cases index.owner with
  | standard => rfl
  | unimplemented => rfl
  | vendor key =>
    simp only [Option.bind_some]
    cases r.resolve key <;> rfl

namespace Endpoint

/-- One step. -/
theorem IsOrderly.perform {e : Endpoint} (h : e.IsOrderly) (op : Operation) :
    (e.perform op).IsOrderly := by
  cases op with
  | addScmsT => exact h.addScmsT
  | clearProtection => exact h.clearProtection
  | ask c scmsT direction => exact h.initialise c scmsT direction
  | initialise r index =>
    simp only [Endpoint.perform, Registry.value_initialise]
    cases r.familyOfIndex index with
    | none => exact h
    | some family =>
      cases family with
      | codec c => exact h.reset.initialise c r.scmsT index.direction
      | nominal n => exact h.reset

/-- A whole run. -/
theorem IsOrderly.run {e : Endpoint} (h : e.IsOrderly) (ops : List Operation) :
    (e.run ops).IsOrderly := by
  induction ops generalizing e with
  | nil => exact h
  | cons op ops ih => exact ih (h.perform op)

theorem HasOffer.isValidFor {e : Endpoint} (h : e.HasOffer) :
    e.buffer = List.replicate 20 0 ∨ ∀ scmsT,
      ((Registry.builtin scmsT).isValidFor .localSource e.capability).value = true := by
  rcases h with hclear | ⟨c, direction, offer, hoffer, hcapability⟩
  · exact .inl hclear
  · refine .inr fun scmsT => ?_
    rw [hcapability]
    exact Registry.isValidFor_announcement (Registry.resolve_builtin_key scmsT c) hoffer _
      c.profile.supports_source.1

/-- Whatever has been done to a new configuration, its protection count, its protection octets and
its service for content protection agree, at most one codec is counted, no service beside a media
codec and content protection is announced, and what stands in the buffer is clear or a valid
capability. -/
theorem run_empty_consistent (ops : List Operation) :
    let e := empty.run ops
    ((e.protectionCount = 0 ∧ e.protection = List.replicate 90 0 ∧
        e.services.bits &&& Services.contentProtection.bits = 0) ∨
      (e.protectionCount = 1 ∧ e.protection = [2, 2, 0] ++ List.replicate 87 0 ∧
        e.services.bits &&& Services.contentProtection.bits =
          Services.contentProtection.bits)) ∧
    (e.codecCount = 0 ∨ e.codecCount = 1) ∧
    e.services.without (Services.mediaCodec.union .contentProtection) = .none ∧
    (e.buffer = List.replicate 20 0 ∨ ∀ scmsT,
      ((Registry.builtin scmsT).isValidFor .localSource e.capability).value = true) := by
  intro e
  obtain ⟨hoffer, counted, guarded, hshape⟩ := IsOrderly.empty.run ops
  have hcount := congrArg Endpoint.protectionCount hshape
  have hoctets := congrArg Endpoint.protection hshape
  have hservices : e.services = .ofFlags counted guarded := congrArg Endpoint.services hshape
  refine ⟨?_, ?_, ?_, hoffer.isValidFor⟩
  · rw [hservices]
    cases guarded with
    | false => exact .inl ⟨hcount, hoctets, by cases counted <;> decide⟩
    | true => exact .inr ⟨hcount, hoctets, by cases counted <;> decide⟩
  · have hcodecs := congrArg Endpoint.codecCount hshape
    cases counted with
    | false => exact .inl hcodecs
    | true => exact .inr hcodecs
  · rw [hservices]
    exact Services.ofFlags_without_both counted guarded

end Endpoint

namespace Registry

variable {r : Registry} {index : CodecIndex} {e : Endpoint}

theorem familyOfIndex_eq_some_iff {family : Family} :
    r.familyOfIndex index = some family ↔
      ∃ key, index.owner = .vendor key ∧ r.resolve key = some family := by
  unfold familyOfIndex CodecIndex.key?
  cases index.owner <;> simp

private theorem initialise_eq_false_iff :
    (r.initialise index e).value.1 = false ↔ ∀ c, r.familyOfIndex index ≠ some (.codec c) := by
  rw [Bool.eq_false_iff, ne_eq, initialise_eq_true_iff]
  simp only [ne_eq, familyOfIndex_eq_some_iff, not_exists]
  exact forall_comm

private theorem mem_families_of_familyOfIndex {family : Family}
    (h : r.familyOfIndex index = some family) : family ∈ r.families := by
  obtain ⟨key, -, hresolve⟩ := familyOfIndex_eq_some_iff.mp h
  exact List.mem_of_find?_eq_some hresolve

/-- A failed initialisation leaves an emptied configuration behind where a family that is known by
name alone answers for the index, and changes nothing elsewhere. So it never changes anything in a
registry of codecs. -/
theorem refused_initialise_kept_iff (r : Registry) (index : CodecIndex) (e : Endpoint) :
    let result := (r.initialise index e).value
    (result.1 = false ↔ ∀ c, r.familyOfIndex index ≠ some (.codec c)) ∧
    (result.1 = false →
      result.2 = (if (r.familyOfIndex index).isSome then e.reset else e) ∧
      (result.2 = e ↔ r.familyOfIndex index = none ∨ e.reset = e) ∧
      ((∀ n, Family.nominal n ∉ r.families) → result.2 = e)) := by
  intro result
  refine ⟨initialise_eq_false_iff, fun hrefused => ?_⟩
  have hnocodec := initialise_eq_false_iff.mp hrefused
  simp only [result, value_initialise]
  cases hfamily : r.familyOfIndex index with
  | none => simp
  | some family =>
    cases family with
    | codec c => exact absurd hfamily (hnocodec c)
    | nominal n =>
      -- the family leaves alone what it is given, which is not what the registry was given
      have hvalue : ((Family.nominal n).initialise r.scmsT index.direction e.reset).value =
          (false, e.reset) := rfl
      have hmem := mem_families_of_familyOfIndex hfamily
      simp only [Option.elim_some, hvalue, Option.isSome_some, if_true, reduceCtorEq, false_or,
        true_and]
      exact fun hcodecs => absurd hmem (hcodecs n)

/-- A configuration with the capability of aptX loses it when a registry refuses to initialise it
for LDAC. -/
theorem refused_initialise_empties_aptX :
    let r : Registry := ⟨[.codec .aptX, .nominal ⟨"LDAC shell", .ldac, .all, none⟩], false⟩
    let e := (r.initialise .sourceAptX .empty).value.2
    (r.initialise .sourceLdac e).value.1 = false ∧
      (r.initialise .sourceLdac e).value.2 ≠ e ∧
      (r.initialise .sourceLdac e).value.2.buffer = List.replicate 20 0 := by
  decide

end Registry

end A2dp
