import A2dp.Proofs.Header
import A2dp.Registry.Query

/-!
# The family that answers

Every question about a buffer is answered by the first family of the registry with the key of
the buffer, and asked in a role only if the family takes part in it. The builtin registry has
exactly the codecs, each under its own key.
-/

namespace A2dp

namespace Registry

variable (r : Registry) (b : Octets)

def familyOf : Option Family := (Header.key b).toOption.bind r.resolve

theorem key_of_resolve {r : Registry} {key : CodecKey} {family : Family}
    (h : r.resolve key = some family) : family.key = key := by
  have hfound := List.find?_some h
  simpa using hfound

/-- Where the key tells the family, the order of the families does not matter. -/
theorem resolve_eq_some_iff {r : Registry}
    (hunique : ∀ f ∈ r.families, ∀ g ∈ r.families, f.key = g.key → f = g) {key : CodecKey}
    {family : Family} :
    r.resolve key = some family ↔ family ∈ r.families ∧ family.key = key := by
  constructor
  · intro h
    exact ⟨List.mem_of_find?_eq_some h, key_of_resolve h⟩
  · intro ⟨hmem, hkey⟩
    have hsome : (r.resolve key).isSome = true :=
      List.find?_isSome.mpr ⟨family, hmem, by simpa using hkey⟩
    obtain ⟨first, hfirst⟩ := Option.isSome_iff_exists.mp hsome
    have hsame : first = family :=
      hunique first (List.mem_of_find?_eq_some hfirst) family hmem
        ((key_of_resolve hfirst).trans hkey.symm)
    rw [hfirst, hsame]

theorem familyOf_eq_some_iff {r : Registry} {b : Octets} {family : Family} :
    r.familyOf b = some family ↔
      Header.key b = .ok family.key ∧ r.resolve family.key = some family := by
  simp only [familyOf, Option.bind_eq_some_iff, toOption_eq_some]
  constructor
  · intro ⟨key, hkey, hresolve⟩
    rw [key_of_resolve hresolve]
    exact ⟨hkey, hresolve⟩
  · intro ⟨hkey, hresolve⟩
    exact ⟨family.key, hkey, hresolve⟩

theorem resolveBuffer_eq_ok_some_iff {r : Registry} {b : Octets} {family : Family} :
    r.resolveBuffer b = .ok (some family) ↔ r.familyOf b = some family := by
  unfold resolveBuffer familyOf
  cases Header.key b <;> simp [Except.map, Except.toOption]

theorem familyOf_congr {a b : Octets} (h : Header.key a = Header.key b) :
    r.familyOf a = r.familyOf b := by
  unfold familyOf
  rw [h]

@[simp] theorem value_lookup : (r.lookup b).value = r.familyOf b := by
  unfold lookup familyOf
  cases Header.key b with
  | error cause => rfl
  | ok key =>
    simp only [Except.toOption, Option.bind_some]
    cases r.resolve key <;> rfl

@[simp] theorem value_lookupFor (role : Role) :
    (r.lookupFor role b).value =
      (r.familyOf b).filter fun family => family.roles.supports role := by
  unfold lookupFor
  rw [Reported.value_bind, value_lookup]
  cases r.familyOf b with
  | none => rfl
  | some family =>
    simp only [Option.filter]
    split <;> rfl

@[simp] theorem value_ask {α : Type} (unknown : α) (question : Family → Reported α) :
    (r.ask b unknown question).value =
      (r.familyOf b).elim unknown fun family => (question family).value := by
  unfold ask
  rw [Reported.value_bind, value_lookup]
  cases r.familyOf b <;> rfl

@[simp] theorem value_askFor {α : Type} (role : Role) (unknown : α)
    (question : Family → Reported α) :
    (r.askFor role b unknown question).value =
      ((r.familyOf b).filter fun family => family.roles.supports role).elim unknown
        fun family => (question family).value := by
  unfold askFor
  rw [Reported.value_bind, value_lookupFor]
  cases (r.familyOf b).filter fun family => family.roles.supports role <;> rfl

theorem value_askFor_of_family {α : Type} {r : Registry} {b : Octets} {role : Role}
    {family : Family} (hfamily : r.familyOf b = some family)
    (hrole : family.roles.supports role = true) (unknown : α) (question : Family → Reported α) :
    (r.askFor role b unknown question).value = (question family).value := by
  rw [value_askFor, hfamily]
  simp only [Option.filter, hrole, if_true, Option.elim_some]

theorem isValidFor_iff {r : Registry} {b : Octets} {role : Role} :
    (r.isValidFor role b).value = true ↔
      ∃ family, r.familyOf b = some family ∧ family.roles.supports role = true ∧
        (family.isValid b).value = true := by
  unfold isValidFor
  rw [value_askFor]
  cases r.familyOf b with
  | none => simp
  | some family =>
    cases hrole : family.roles.supports role <;> simp [Option.filter, hrole]

theorem resolve_builtin_key (scmsT : Bool) (c : Codec) :
    (builtin scmsT).resolve c.profile.key = some (.codec c) := by
  cases c <;> rfl

private theorem resolve_builtin_eq_some_iff {scmsT : Bool} {key : CodecKey} {family : Family} :
    (builtin scmsT).resolve key = some family ↔
      ∃ c : Codec, family = .codec c ∧ c.profile.key = key := by
  constructor
  · intro h
    obtain ⟨c, -, hc⟩ := List.mem_map.mp (List.mem_of_find?_eq_some h)
    exact ⟨c, hc.symm, by rw [← key_of_resolve h, ← hc]; rfl⟩
  · intro ⟨c, hfamily, hkey⟩
    rw [hfamily, ← hkey]
    exact resolve_builtin_key scmsT c

theorem familyOf_builtin_eq_some_iff {scmsT : Bool} {b : Octets} {family : Family} :
    (builtin scmsT).familyOf b = some family ↔
      ∃ c : Codec, family = .codec c ∧ Header.key b = .ok c.profile.key := by
  rw [familyOf_eq_some_iff, resolve_builtin_eq_some_iff]
  constructor
  · intro ⟨hkey, c, hfamily, hc⟩
    exact ⟨c, hfamily, hc ▸ hkey⟩
  · intro ⟨c, hfamily, hkey⟩
    subst hfamily
    exact ⟨hkey, c, rfl, rfl⟩

theorem familyOf_builtin_of_key {scmsT : Bool} {b : Octets} {c : Codec}
    (h : Header.key b = .ok c.profile.key) : (builtin scmsT).familyOf b = some (.codec c) :=
  familyOf_builtin_eq_some_iff.mpr ⟨c, rfl, h⟩

end Registry

/-- Different codecs have different keys. -/
theorem Codec.eq_of_key_eq {c d : Codec} (h : c.profile.key = d.profile.key) : c = d := by
  have hc := Registry.resolve_builtin_key false c
  rw [h, Registry.resolve_builtin_key false d] at hc
  simpa using hc.symm

end A2dp
