import A2dp.Proofs.Reading

/-!
# Settings without what is reserved

A reserved octet is read like any other field, but no answer is taken from it. Settings that differ
only there give the same numbers and the same description, leave the same choices open, and meet
the same demands.
-/

namespace A2dp

namespace Entry

/-- The entry with zero for the value of a reserved octet. -/
def cleared (entry : Entry) : Entry :=
  match entry.field with
  | .reserved => ⟨.reserved, 0⟩
  | _ => entry

@[simp] theorem number?_cleared (entry : Entry) (setting : Setting) :
    entry.cleared.number? setting = entry.number? setting := by
  obtain ⟨field, value⟩ := entry
  cases field <;> rfl

@[simp] theorem rate?_cleared (entry : Entry) : entry.cleared.rate? = entry.rate? := by
  obtain ⟨field, value⟩ := entry
  cases field <;> rfl

@[simp] theorem line_cleared (entry : Entry) : entry.cleared.line = entry.line := by
  obtain ⟨field, value⟩ := entry
  cases field <;> rfl

@[simp] theorem isDecided_cleared (entry : Entry) : entry.cleared.isDecided = entry.isDecided := by
  obtain ⟨field, value⟩ := entry
  cases field <;> rfl

@[simp] theorem bits?_cleared (entry : Entry) (setting : Setting) :
    entry.cleared.bits? setting = entry.bits? setting := by
  obtain ⟨field, value⟩ := entry
  cases field <;> rfl

@[simp] theorem meets_cleared (entry : Entry) (accepted : UInt8) :
    entry.cleared.meets accepted = entry.meets accepted := by
  obtain ⟨field, value⟩ := entry
  cases field <;> rfl

theorem cleared_eq_self {entry : Entry} (h : entry.field ≠ .reserved) : entry.cleared = entry := by
  obtain ⟨field, value⟩ := entry
  cases field with
  | reserved => exact absurd rfl h
  | choice setting choices => rfl
  | rateCode rates => rfl
  | version => rfl
  | features table => rfl

end Entry

namespace Settings

def cleared (settings : Settings) : Settings := settings.map Entry.cleared

@[simp] theorem number?_cleared (settings : Settings) (setting : Setting) :
    settings.cleared.number? setting = settings.number? setting := by
  simp only [number?, cleared, List.findSome?_map, Function.comp_def, Entry.number?_cleared]

@[simp] theorem rate?_cleared (settings : Settings) : settings.cleared.rate? = settings.rate? := by
  have hentry : Entry.rate? ∘ Entry.cleared = Entry.rate? := funext Entry.rate?_cleared
  simp only [rate?, cleared, List.findSome?_map, hentry]

@[simp] theorem text_cleared (settings : Settings) : settings.cleared.text = settings.text := by
  have hentry : Entry.line ∘ Entry.cleared = Entry.line := funext Entry.line_cleared
  simp only [text, cleared, List.map_map, hentry]

@[simp] theorem isDecided_cleared (settings : Settings) :
    settings.cleared.isDecided = settings.isDecided := by
  have hentry : Entry.isDecided ∘ Entry.cleared = Entry.isDecided := funext Entry.isDecided_cleared
  simp only [isDecided, cleared, List.all_map, hentry]

@[simp] theorem bits?_cleared (settings : Settings) (setting : Setting) :
    settings.cleared.bits? setting = settings.bits? setting := by
  simp only [bits?, cleared, List.findSome?_map, Function.comp_def, Entry.bits?_cleared]

@[simp] theorem meets_cleared (settings : Settings) (accepted : List UInt8) :
    settings.cleared.meets accepted = settings.meets accepted := by
  simp only [meets, cleared, List.zip_map_left, List.all_map, Function.comp_def, Prod.map_fst,
    Prod.map_snd, id_eq, Entry.meets_cleared]

/-- What two buffers say, if anything, differs at most in what is reserved. -/
def Alike (x y : Option Settings) : Prop := x.map cleared = y.map cleared

namespace Alike

variable {α : Type} {x y : Option Settings}

theorem bind (h : Alike x y) {f : Settings → Option α} (hf : ∀ s, f (cleared s) = f s) :
    x.bind f = y.bind f := by
  have hcomp : f ∘ cleared = f := funext hf
  rw [← hcomp, ← Option.bind_map, ← Option.bind_map, h]

theorem map (h : Alike x y) {f : Settings → α} (hf : ∀ s, f (cleared s) = f s) :
    x.map f = y.map f := by
  have hcomp : f ∘ cleared = f := funext hf
  rw [← hcomp, ← Option.map_map, ← Option.map_map, h]

theorem any (h : Alike x y) {p : Settings → Bool} (hp : ∀ s, p (cleared s) = p s) :
    x.any p = y.any p := by
  have hany : ∀ z : Option Settings, z.any p = (z.map cleared).any p := by
    intro z
    simp only [Option.any_map, hp]
  rw [hany x, hany y, h]

theorem filter (h : Alike x y) {p : Settings → Bool} (hp : ∀ s, p (cleared s) = p s) :
    Alike (x.filter p) (y.filter p) := by
  have hcomp : p ∘ cleared = p := funext hp
  unfold Alike
  rw [← hcomp, ← Option.filter_map, ← Option.filter_map, h]

end Alike

end Settings

end A2dp
