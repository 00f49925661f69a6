import A2dp.Octets

/-!
# Stores

Writes to a buffer as data. A series of stores can then be looked at before it is run: which octets
it touches, and which of them it replaces whatever they were.
-/

namespace A2dp

/-- A write to a buffer. -/
inductive Store where
  /-- Clears octets from an index on. -/
  | clear (start count : Nat)
  | put (index : Nat) (octet : UInt8)
  /-- Sets bits of an octet and leaves the others. -/
  | add (index : Nat) (bits : UInt8)
  deriving DecidableEq, Repr

namespace Store

def start : Store → Nat
  | .clear start _ => start
  | .put index _ | .add index _ => index

def count : Store → Nat
  | .clear _ count => count
  | .put _ _ | .add _ _ => 1

def apply (b : Octets) : Store → Octets
  | .clear start count => b.overwrite start (List.replicate count 0)
  | .put index octet => b.overwrite index [octet]
  | .add index bits => b.overwrite index [b.getD index 0 ||| bits]

/-- The buffer after a series of stores. -/
def run (stores : List Store) (b : Octets) : Octets := stores.foldl apply b

@[simp] theorem length_apply (b : Octets) (store : Store) : (store.apply b).length = b.length := by
  cases store <;> simp [apply]

@[simp] theorem length_run (stores : List Store) (b : Octets) :
    (run stores b).length = b.length := by
  induction stores generalizing b with
  | nil => rfl
  | cons store stores ih => exact (ih (store.apply b)).trans (length_apply b store)

/-- What was at the index before makes no difference. -/
def replaces (i : Nat) : Store → Bool
  | .clear start count => start ≤ i && i < start + count
  | .put index _ => index == i
  | .add _ _ => false

/-- The stores replace every octet of a range and touch no other. -/
def Fill (start count : Nat) (stores : List Store) : Prop :=
  (∀ store ∈ stores, start ≤ store.start ∧ store.start + store.count ≤ start + count) ∧
    ∀ i < count, stores.any (·.replaces (start + i)) = true

instance {start count : Nat} {stores : List Store} : Decidable (Fill start count stores) :=
  inferInstanceAs (Decidable (_ ∧ ∀ i < count, stores.any (·.replaces (start + i)) = true))

end Store

end A2dp
