import A2dp.Codec
import A2dp.Proofs.HeaderWriting

/-!
# What a series of stores leaves

A store changes every octet on its own, so a series can be followed one octet at a time. An octet
that some store of the series replaces ends up the same whatever it was, and one that no store
touches stays. So a series that fills a range leaves the same octets there in every buffer. For the
stores of a default these are the octets that a codec offers.
-/

namespace A2dp

private theorem Octets.getElem?_overwrite (b new : Octets) (start i : Nat) :
    (b.overwrite start new)[i]? =
      if start ≤ i ∧ i < start + new.length then b[i]?.bind fun _ => new[i - start]?
      else b[i]? := by
  by_cases hi : i < b.length
  · have hfront : (b.take start).length = min start b.length := List.length_take
    have hnew : (new.take (b.length - start)).length = min (b.length - start) new.length :=
      List.length_take
    rw [overwrite, List.append_assoc, List.getElem?_append, List.getElem?_append, hfront, hnew,
      List.getElem?_eq_getElem hi, Option.bind_some]
    -- before the new octets, among them, and behind them
    by_cases hlow : i < start
    · rw [if_pos (by omega), if_neg (by omega), List.getElem?_take_of_lt hlow,
        List.getElem?_eq_getElem hi]
    · rw [if_neg (by omega), Nat.min_eq_left (by omega)]
      by_cases hin : i < start + new.length
      · rw [if_pos (by omega), if_pos (by omega), List.getElem?_take_of_lt (by omega)]
      · rw [if_neg (by omega), if_neg (by omega), List.getElem?_drop,
          ← List.getElem?_eq_getElem hi]
        congr 1
        omega
  · have hnone : b[i]? = none := List.getElem?_eq_none (by omega)
    rw [hnone, List.getElem?_eq_none (by rw [length_overwrite]; omega)]
    split <;> rfl

private theorem Octets.getElem?_overwrite_singleton (b : Octets) (x : UInt8) (index i : Nat) :
    (b.overwrite index [x])[i]? = if i = index then b[i]?.map fun _ => x else b[i]? := by
  rw [getElem?_overwrite, List.length_singleton]
  by_cases hi : i = index
  · subst hi
    rw [if_pos (by omega), if_pos rfl, Nat.sub_self]
    cases b[i]? <;> rfl
  · rw [if_neg (by omega), if_neg hi]

/-- Octets that are written behind others at the start of a buffer are written with them. -/
theorem Octets.overwrite_overwrite_zero {b new more : Octets} {i : Nat} (hi : new.length = i)
    (h : i + more.length ≤ b.length) :
    (b.overwrite 0 new).overwrite i more = b.overwrite 0 (new ++ more) := by
  have hboth : (new ++ more).length ≤ b.length := by
    rw [List.length_append]
    omega
  rw [overwrite_of_le (by rwa [length_overwrite]), overwrite_zero (by omega), overwrite_zero hboth,
    List.take_left' hi, ← hi, List.drop_length_add_append, List.drop_drop, List.length_append]

namespace Store

variable {b : Octets} {store : Store} {stores : List Store} {start count i : Nat}

/-- The octet at an index after a store, from the one before. -/
def effect (i : Nat) (x : UInt8) : Store → UInt8
  | .clear start count => if start ≤ i ∧ i < start + count then 0 else x
  | .put index octet => if i = index then octet else x
  | .add index bits => if i = index then x ||| bits else x

def effects (i : Nat) (stores : List Store) (x : UInt8) : UInt8 := stores.foldl (effect i) x

private theorem getElem?_apply (b : Octets) (store : Store) (i : Nat) :
    (store.apply b)[i]? = b[i]?.map fun x => store.effect i x := by
  cases store with
  | clear start count =>
    rw [apply, Octets.getElem?_overwrite, List.length_replicate]
    simp only [effect]
    split
    · rw [List.getElem?_replicate_of_lt (by omega)]
      cases b[i]? <;> rfl
    · exact Option.map_id'.symm
  | put index octet =>
    rw [apply, Octets.getElem?_overwrite_singleton]
    simp only [effect]
    split
    · rfl
    · exact Option.map_id'.symm
  | add index bits =>
    rw [apply, Octets.getElem?_overwrite_singleton]
    simp only [effect]
    split
    · next hi =>
      subst hi
      rw [List.getD_eq_getElem?_getD]
      cases b[i]? <;> rfl
    · exact Option.map_id'.symm

private theorem getElem?_run (stores : List Store) (b : Octets) (i : Nat) :
    (run stores b)[i]? = b[i]?.map (effects i stores) := by
  induction stores generalizing b with
  | nil => exact Option.map_id'.symm
  | cons store stores ih =>
    have hrest := ih (store.apply b)
    rw [getElem?_apply, Option.map_map] at hrest
    exact hrest

private theorem effect_of_replaces (h : store.replaces i = true) (x y : UInt8) :
    store.effect i x = store.effect i y := by
  cases store with
  | clear start count =>
    have hin : start ≤ i ∧ i < start + count := by simpa [replaces] using h
    simp only [effect, if_pos hin]
  | put index octet =>
    have hat : i = index := (of_decide_eq_true h).symm
    simp only [effect, if_pos hat]
  | add index bits => cases h

/-- Once replaced, an octet has forgotten what it was. -/
theorem effects_of_replaces (h : stores.any (·.replaces i) = true) (x y : UInt8) :
    effects i stores x = effects i stores y := by
  induction stores generalizing x y with
  | nil => cases h
  | cons store stores ih =>
    rcases Bool.or_eq_true_iff.mp h with hfirst | hrest
    · exact congrArg (effects i stores) (effect_of_replaces hfirst x y)
    · exact ih hrest _ _

private theorem effect_of_outside (h : i < store.start ∨ store.start + store.count ≤ i)
    (x : UInt8) : store.effect i x = x := by
  cases store <;> simp only [start, count] at h <;> simp only [effect] <;> apply if_neg <;> omega

private theorem effects_of_outside
    (h : ∀ store ∈ stores, i < store.start ∨ store.start + store.count ≤ i) (x : UInt8) :
    effects i stores x = x := by
  induction stores with
  | nil => rfl
  | cons store stores ih =>
    obtain ⟨hfirst, hrest⟩ := List.forall_mem_cons.mp h
    rw [effects, List.foldl_cons, effect_of_outside hfirst]
    exact ih hrest

/-- The octets that stores leave in a range that was clear. -/
def content (start count : Nat) (stores : List Store) : Octets :=
  (run stores (List.replicate (start + count) 0)).drop start

theorem length_content (start count : Nat) (stores : List Store) :
    (content start count stores).length = count := by
  rw [content, List.length_drop, length_run, List.length_replicate]
  omega

/-- Stores that fill a range leave the same octets there in every buffer. -/
theorem run_of_fill (h : Fill start count stores) (hb : start + count ≤ b.length) :
    run stores b = b.overwrite start (content start count stores) := by
  obtain ⟨hwithin, hreplaced⟩ := h
  apply List.ext_getElem?
  intro i
  rw [getElem?_run, Octets.getElem?_overwrite, length_content]
  by_cases hi : start ≤ i ∧ i < start + count
  · obtain ⟨offset, rfl⟩ := Nat.exists_eq_add_of_le hi.1
    have hoffset : offset < count := by omega
    rw [if_pos hi, Nat.add_sub_cancel_left, content, List.getElem?_drop, getElem?_run,
      List.getElem?_replicate_of_lt hi.2, List.getElem?_eq_getElem (by omega)]
    exact congrArg some (effects_of_replaces (hreplaced offset hoffset) _ _)
  · have houtside : ∀ store ∈ stores, i < store.start ∨ store.start + store.count ≤ i := by
      intro store hstore
      have hrange := hwithin store hstore
      omega
    have hsame : effects i stores = id := funext (effects_of_outside houtside)
    rw [if_neg hi, hsame, Option.map_id]
    rfl

end Store

namespace Profile

variable {p : Profile} {direction : Direction}

/-- The octets behind the header that make up the default of a direction. -/
def offer (p : Profile) (direction : Direction) : Option Octets :=
  (p.stores direction).map (Store.content Header.size p.layout.length)

theorem stores_fill {stores : List Store} (h : p.stores direction = some stores) :
    Store.Fill Header.size p.layout.length stores := by
  cases direction with
  | source =>
    cases h
    exact p.sourceStores_fill
  | sink => exact p.sinkStores_fill stores h

theorem length_offer {offer : Octets} (h : p.offer direction = some offer) :
    offer.length = p.layout.length := by
  obtain ⟨stores, -, rfl⟩ := Option.map_eq_some_iff.mp h
  exact Store.length_content Header.size p.layout.length stores

end Profile

end A2dp
