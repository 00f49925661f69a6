import A2dp.Error

/-!
# Octet strings

Buffers are lists of octets. Every read is checked: octets that are not there are a `truncated`
cause. Writing replaces octets in place and never changes the length.
-/

namespace A2dp

abbrev Octets := List UInt8

namespace Octets

def require (b : Octets) (needed : Nat) : Except Error Unit :=
  demand (needed ≤ b.length) (.truncated needed b.length)

def octet (b : Octets) (i : Nat) : Except Error UInt8 :=
  match b[i]? with
  | some x => .ok x
  | none => .error (.truncated (i + 1) b.length)

def slice (b : Octets) (start count : Nat) : Except Error Octets :=
  if start + count ≤ b.length then .ok ((b.drop start).take count)
  else .error (.truncated (start + count) b.length)

/-- The buffer with the new octets in place of those from an index on. What would stand beyond
the end is dropped. -/
def overwrite (b : Octets) (start : Nat) (new : Octets) : Octets :=
  b.take start ++ new.take (b.length - start) ++ b.drop (start + new.length)

@[simp] theorem length_overwrite (b : Octets) (start : Nat) (new : Octets) :
    (b.overwrite start new).length = b.length := by
  simp only [overwrite, List.length_append, List.length_take, List.length_drop]
  omega

/-- The number whose octets these are, the least significant one first. -/
def toNat : Octets → Nat
  | [] => 0
  | x :: rest => x.toNat + 256 * toNat rest

/-- The given number of octets of a number, the least significant one first. -/
def ofNat : Nat → Nat → Octets
  | 0, _ => []
  | count + 1, n => UInt8.ofNat n :: ofNat count (n / 256)

@[simp] theorem length_ofNat (count n : Nat) : (ofNat count n).length = count := by
  induction count generalizing n with
  | zero => rfl
  | succ count ih => simp [ofNat, ih]

end Octets

end A2dp
