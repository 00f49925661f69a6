import A2dp.Proofs.HeaderWriting
import A2dp.Proofs.Stores

/-!
# Direct access

The operations on buffers once more, with nothing to fall back on: an index or a range that is
not there has no result at all, where a checked read has a cause and `take`, `drop` and
`overwrite` shorten what they are given. An operation that has a result here has made all its
accesses in range. The results are those of the checked operations, so the checks that each of
them makes first are enough for all that follows.
-/

namespace A2dp

namespace Octets

/-- The octet at an index that has to be there. -/
def at? (b : Octets) (i : Nat) : Option UInt8 := b[i]?

/-- The octets from one index to before another. The two have to be in order and in range. -/
def range? (b : Octets) (start stop : Nat) : Option Octets :=
  if start ≤ stop ∧ stop ≤ b.length then some ((b.take stop).drop start) else none

/-- Replaces octets that all have to be there. -/
def store? (b : Octets) (start : Nat) (new : Octets) : Option Octets :=
  if start + new.length ≤ b.length then some (b.overwrite start new) else none

variable {b new more : Octets} {i start count : Nat}

theorem at?_of_lt (h : i < b.length) : b.at? i = some (b.getD i 0) := by
  simp [at?, h]

theorem range?_of_le (h : start + count ≤ b.length) :
    b.range? start (start + count) = some ((b.drop start).take count) := by
  rw [range?, if_pos ⟨Nat.le_add_right start count, h⟩, List.drop_take, Nat.add_sub_cancel_left]

theorem store?_of_le (h : start + new.length ≤ b.length) :
    b.store? start new = some (b.overwrite start new) :=
  if_pos h

/-- Octets that are stored behind others at the start of a buffer are stored with them. -/
theorem store?_overwrite_zero (hi : new.length = i) (h : i + more.length ≤ b.length) :
    (b.overwrite 0 new).store? i more = some (b.overwrite 0 (new ++ more)) := by
  rw [store?_of_le (by rwa [length_overwrite]), overwrite_overwrite_zero hi h]

end Octets

namespace Direct

/-- A result, the cause of a refusal, or an access out of range. -/
abbrev Attempt (α : Type) : Type := ExceptT Error Option α

/-- Steps stay in range when the first one does and the rest does after its success. -/
theorem run_bind {α β : Type} {x : Attempt α} {y : Except Error α} {f : α → Attempt β}
    {g : α → Except Error β} (hx : x.run = some y)
    (hf : ∀ a, y = .ok a → (f a).run = some (g a)) : (x >>= f).run = some (y >>= g) := by
  rw [ExceptT.run_bind, hx]
  cases y with
  | ok a => exact hf a rfl
  | error cause => rfl

/-! ## Headers -/

section Header

variable (b : Octets) (losc : UInt8) (media : MediaType) (k : CodecKey)

def octet (i : Nat) : Attempt UInt8 := do
  b.require (i + 1)
  b.at? i

def slice (start count : Nat) : Attempt Octets := do
  b.require (start + count)
  b.range? start (start + count)

def mediaType : Attempt MediaType := do
  let octet ← octet b 1
  return MediaType.ofOctet octet

def codecType : Attempt CodecType := do
  let octet ← octet b 2
  return CodecType.ofOctet octet

def vendorId : Attempt UInt32 := do
  let octets ← slice b 3 4
  return UInt32.ofNat octets.toNat

def codecId : Attempt UInt16 := do
  let octets ← slice b 7 2
  return UInt16.ofNat octets.toNat

def key : Attempt CodecKey := do
  let vendorId ← vendorId b
  let codecId ← codecId b
  return ⟨vendorId, codecId⟩

def isVendor : Option Bool := do
  match ← (codecType b).run with
  | .ok .vendor => return true
  | _ => return false

/-- After the length of the header is checked, its first octets are read without a check. -/
def check : Attempt Unit := do
  b.require Header.size
  let actual ← b.at? 0
  demand (actual = losc) (.wrongLength losc actual)
  b.require (losc.toNat + 1)
  let media ← b.at? 1
  demand (MediaType.ofOctet media = .audio) (.wrongMedia media)
  let type ← b.at? 2
  demand (CodecType.ofOctet type = .vendor) (.wrongCodecType type)
  let found ← key b
  demand (found = k) (.wrongCodec found)

/-- Each field of the header is stored in its own place. -/
def storeHeader : Option Octets := do
  let b ← b.store? 0 [losc]
  let b ← b.store? 1 [media.toOctet]
  let b ← b.store? 2 [CodecType.vendor.toOctet]
  let b ← b.store? 3 (Octets.ofNat 4 k.vendorId.toNat)
  b.store? 7 (Octets.ofNat 2 k.codecId.toNat)

def write : Option (Except Error Nat × Octets) :=
  match Header.room b.length losc with
  | .ok total => do
    let b ← storeHeader b losc media k
    return (.ok total, b)
  | .error cause => some (.error cause, b)

variable {b}

private theorem le_of_require {needed : Nat} (h : b.require needed = .ok ()) : needed ≤ b.length :=
  demand_eq_ok.mp h

private theorem run_at? {i : Nat} (h : i < b.length) :
    (liftM (b.at? i) : Attempt UInt8).run = some (b.octet i) := by
  rw [Octets.at?, Octets.octet, List.getElem?_eq_getElem h]
  rfl

variable (b)

theorem run_octet (i : Nat) : (octet b i).run = some (b.octet i) := by
  have hrun : (octet b i).run = some (b.require (i + 1) >>= fun _ => b.octet i) :=
    run_bind rfl fun _ hlen => run_at? (le_of_require hlen)
  rw [hrun]
  by_cases hi : i + 1 ≤ b.length
  · rw [Octets.require, demand, if_pos hi]
    rfl
  · rw [Octets.require, demand, if_neg hi, Octets.octet, List.getElem?_eq_none (by omega)]
    rfl

private theorem run_slice (start count : Nat) :
    (slice b start count).run = some (b.slice start count) := by
  by_cases hlen : start + count ≤ b.length
  · rw [slice, Octets.require, demand, if_pos hlen, Octets.range?_of_le hlen, Octets.slice,
      if_pos hlen]
    rfl
  · rw [slice, Octets.require, demand, if_neg hlen, Octets.slice, if_neg hlen]
    rfl

/-- What is made of a reading is made of the checked one. -/
theorem run_map {α β : Type} {x : Attempt α} {y : Except Error α} (f : α → β)
    (hx : x.run = some y) : (x >>= fun a => pure (f a)).run = some (y.map f) := by
  rw [ExceptT.run_bind, hx]
  cases y <;> rfl

theorem run_mediaType : (mediaType b).run = some (Header.mediaType b) :=
  run_map _ (run_octet b 1)

theorem run_codecType : (codecType b).run = some (Header.codecType b) :=
  run_map _ (run_octet b 2)

theorem run_vendorId : (vendorId b).run = some (Header.vendorId b) :=
  run_map _ (run_slice b 3 4)

theorem run_codecId : (codecId b).run = some (Header.codecId b) :=
  run_map _ (run_slice b 7 2)

theorem run_key : (key b).run = some (Header.key b) :=
  run_bind (run_vendorId b) fun _ _ => run_bind (run_codecId b) fun _ _ => rfl

theorem isVendor_eq : isVendor b = some (Header.isVendor b) := by
  rw [isVendor, run_codecType, Header.isVendor]
  rcases Header.codecType b with cause | type
  · rfl
  · cases type <;> rfl

theorem run_check : (check b losc k).run = some (Header.check b losc k) := by
  refine run_bind rfl fun _ hsize => ?_
  -- The first demand covers the three octets that are read below without one.
  have hlen : 9 ≤ b.length := le_of_require hsize
  refine run_bind (run_at? (by omega)) fun actual _ => ?_
  refine run_bind rfl fun _ _ => run_bind rfl fun _ _ => ?_
  refine run_bind (run_at? (by omega)) fun media _ => run_bind rfl fun _ _ => ?_
  refine run_bind (run_at? (by omega)) fun type _ => run_bind rfl fun _ _ => ?_
  exact run_bind (run_key b) fun _ _ => rfl

private theorem storeHeader_eq (h : Header.size ≤ b.length) :
    storeHeader b losc media k = some (b.overwrite 0 (Header.octets losc media k)) := by
  have hlen : 9 ≤ b.length := h
  have hvendor := Octets.length_ofNat 4 k.vendorId.toNat
  have hcodec := Octets.length_ofNat 2 k.codecId.toNat
  have hfirst : b.store? 0 [losc] = some (b.overwrite 0 [losc]) :=
    Octets.store?_of_le (by rw [List.length_singleton]; omega)
  have hsecond (x : UInt8) : (b.overwrite 0 [losc]).store? 1 [x] =
      some (b.overwrite 0 [losc, x]) :=
    Octets.store?_overwrite_zero rfl (by rw [List.length_singleton]; omega)
  have hthird (x y : UInt8) : (b.overwrite 0 [losc, x]).store? 2 [y] =
      some (b.overwrite 0 [losc, x, y]) :=
    Octets.store?_overwrite_zero rfl (by rw [List.length_singleton]; omega)
  simp only [storeHeader, bind, hfirst, hsecond, hthird, Option.bind_some]
  rw [Octets.store?_overwrite_zero (i := 3) rfl (by omega), Option.bind_some,
    Octets.store?_overwrite_zero (i := 7) (by rw [List.length_append, hvendor]; rfl) (by omega)]
  rfl

/-- A buffer with room for what the length octet announces has room for every field of the
header. -/
theorem write_eq : write b losc media k = some (Header.write b losc media k) := by
  unfold write Header.write
  cases hroom : Header.room b.length losc with
  | ok total =>
    obtain ⟨-, hsize, hfits⟩ := Header.room_eq_ok_iff.mp hroom
    simp only [storeHeader_eq b losc media k (Nat.le_trans hsize hfits)]
    rfl
  | error cause => rfl

end Header

end Direct

end A2dp
