import A2dp.Proofs.Adjustment
import A2dp.Proofs.DefaultEndpoint
import A2dp.Proofs.DirectAccess
import A2dp.Proofs.Numbers

/-!
# The operations of a codec by direct access

A codec checks the header first. From the length octet on, every index of its layout is in the
buffer, and so is the range of its reserved octets; a rate code that was read is in its table; the
stores of a default stay within the endpoint; and no product of the numbers in the tables reaches
`2 ^ 31`.
-/

namespace A2dp

/-- The number of reserved octets at the end of a capability, where a codec copies and clears them
as one range. The range of aptX is empty. -/
def Codec.reserved? : Codec → Option Nat
  | .aptX => some 0
  | .aptXHD => some 4
  | .ldac | .opus | .lhdcV2 | .lhdcV3 | .lhdcV5 => none

/-- The layout before the reserved range. -/
def Codec.described (c : Codec) : Layout :=
  c.profile.layout.take (c.profile.layout.length - c.reserved?.getD 0)

private theorem Codec.layout_eq (c : Codec) :
    c.profile.layout = c.described ++ List.replicate (c.reserved?.getD 0) [.reserved] := by
  cases c <;> rfl

private theorem Codec.reserved?_le (c : Codec) : ∀ count ∈ c.reserved?, count ≤ 4 := by
  cases c <;> decide

namespace Direct

/-! ## Reading -/

/-- Reads the fields of a layout from an index on, octet by octet. -/
def readFrom (reading : Reading) (b : Octets) : Nat → Layout → Attempt Settings
  | _, [] => return []
  | i, fields :: layout => do
    let octet ← b.at? i
    let entries ← Layout.readOctet reading octet fields
    let settings ← readFrom reading b (i + 1) layout
    return entries ++ settings

/-- Copies the reserved octets from an index on to the front of the four that are kept for them. -/
def copyReserved (b : Octets) (i : Nat) : Option Nat → Option Octets
  | none => some []
  | some count => do
    let octets ← b.range? i (i + count)
    let kept ← Octets.store? (List.replicate 4 0) 0 octets
    kept.range? 0 count

def read (c : Codec) (reading : Reading) (b : Octets) : Attempt Settings := do
  check b c.profile.losc c.profile.key
  let settings ← readFrom reading b Header.size c.described
  let reserved ← copyReserved b (Header.size + c.described.length) c.reserved?
  return settings ++ reserved.map fun octet => ⟨.reserved, octet⟩

def readAny (c : Codec) (b : Octets) : Attempt Settings :=
  ExceptT.mk do
    match ← (read c .configuration b).run with
    | .ok settings => return .ok settings
    | .error _ => (read c .capability b).run

private theorem run_readFrom (reading : Reading) {b : Octets} {i : Nat} {layout : Layout}
    (h : i + layout.length ≤ b.length) :
    (readFrom reading b i layout).run = some (layout.read reading (b.drop i)) := by
  induction layout generalizing i with
  | nil =>
    cases b.drop i <;> rfl
  | cons fields layout ih =>
    rw [List.length_cons] at h
    have hi : i < b.length := by omega
    rw [readFrom, Octets.at?_of_lt hi, Octets.drop_eq_getD_cons hi]
    exact run_bind rfl fun _ _ => run_bind (ih (by omega)) fun _ _ => rfl

/-- The octets of two layouts are read one after the other. -/
theorem readFrom_append (reading : Reading) (b : Octets) (i : Nat) (layout more : Layout) :
    readFrom reading b i (layout ++ more) = do
      let settings ← readFrom reading b i layout
      let rest ← readFrom reading b (i + layout.length) more
      return settings ++ rest := by
  induction layout generalizing i with
  | nil => simp [readFrom]
  | cons fields layout ih =>
    simp only [List.cons_append, readFrom, ih, bind_assoc, pure_bind, List.append_assoc,
      List.length_cons, Nat.add_assoc, Nat.add_comm 1]

private theorem read_reserved (reading : Reading) (count : Nat) (octets : Octets) :
    Layout.read reading (List.replicate count [.reserved]) octets =
      .ok ((octets.take count).map fun octet => ⟨.reserved, octet⟩) := by
  induction count generalizing octets with
  | zero => cases octets <;> rfl
  | succ count ih =>
    cases octets with
    | nil => rfl
    | cons octet octets =>
      have hoctet : octet &&& 0xFF = octet := UInt8.and_neg_one
      simp only [List.replicate_succ, Layout.read, ih, Layout.readOctet, Field.read, Field.known,
        hoctet, List.take_succ_cons, List.map_cons]
      rfl

/-- What is copied are the reserved octets, as they are read one by one. -/
theorem copyReserved_eq {b : Octets} {i : Nat} {count? : Option Nat}
    (hkept : ∀ count ∈ count?, count ≤ 4) (h : i + count?.getD 0 ≤ b.length) :
    copyReserved b i count? = some ((b.drop i).take (count?.getD 0)) := by
  cases count? with
  | none => rfl
  | some count =>
    rw [Option.getD_some] at h ⊢
    let octets := (b.drop i).take count
    have hlength : octets.length = count := Octets.length_take_drop h
    have hfits : octets.length ≤ (List.replicate 4 (0 : UInt8)).length := by
      rw [hlength, List.length_replicate]
      exact hkept count rfl
    have hstore : Octets.store? (List.replicate 4 0) 0 octets =
        some (octets ++ (List.replicate 4 0).drop octets.length) := by
      rw [Octets.store?_of_le (by omega), Octets.overwrite_zero hfits]
    have hfront : Octets.range? (octets ++ (List.replicate 4 0).drop octets.length) 0 (0 + count) =
        some octets := by
      rw [Octets.range?_of_le (by rw [List.length_append]; omega), List.drop_zero,
        List.take_left' hlength]
    rw [Nat.zero_add] at hfront
    simp only [copyReserved, bind, Octets.range?_of_le h, Option.bind_some]
    rw [hstore, Option.bind_some, hfront]

/-- The check of the header is enough for every index of the layout. -/
theorem run_read (c : Codec) (reading : Reading) (b : Octets) :
    (read c reading b).run = some (c.profile.read reading b) := by
  have hrun : (read c reading b).run =
      some (Header.check b c.profile.losc c.profile.key >>= fun _ =>
        c.profile.layout.read reading (b.drop Header.size)) := by
    refine run_bind (run_check b _ _) fun _ hcheck => ?_
    have hlength := Profile.length_of_check hcheck
    rw [c.layout_eq, List.length_append, List.length_replicate, ← Nat.add_assoc] at hlength
    have hreserved : readFrom reading b (Header.size + c.described.length)
        (List.replicate (c.reserved?.getD 0) [.reserved]) = pure _ :=
      ExceptT.ext ((run_readFrom reading (by rwa [List.length_replicate])).trans
        (congrArg some (read_reserved reading _ _)))
    rw [← run_readFrom reading (Profile.length_of_check hcheck), c.layout_eq, readFrom_append,
      copyReserved_eq c.reserved?_le hlength, hreserved]
    rfl
  rw [hrun]
  cases hcheck : Header.check b c.profile.losc c.profile.key with
  | ok _ => rw [Profile.read_of_check hcheck]; rfl
  | error cause => rw [Profile.read, hcheck]; rfl

-- Without the check, a buffer that ends with its header has no octet for the layout.
example : (readFrom .capability (List.replicate 9 0) Header.size [[.version]]).run = none := rfl

private theorem run_readAny (c : Codec) (b : Octets) :
    (readAny c b).run = some (c.profile.readAny b) := by
  rw [readAny, ExceptT.run_mk, run_read, run_read, Profile.readAny]
  cases c.profile.read .configuration b <;> rfl

/-! ## Verdicts -/

section Verdicts

variable (c : Codec)

def isValid (b : Octets) : Option Bool := do
  let settings ← (readAny c b).run
  return settings.isOk

def meetsSink (reading : Reading) (b : Octets) : Option Bool := do
  match ← (read c reading b).run, c.profile.accepted with
  | .ok settings, some accepted => return settings.meets accepted
  | _, _ => return false

def isSupported (role : Role) (b : Octets) : Option Bool :=
  match role with
  | .localSink => meetsSink c .configuration b
  | .peerSource => meetsSink c .capability b
  | .localSource | .peerSink => some false

def typeEquals (a b : Octets) : Option Bool := do
  let first ← (read c .capability a).run
  let second ← (read c .capability b).run
  return first.isOk && second.isOk

def configEquals (a b : Octets) : Option Bool := do
  match ← (readAny c a).run, ← (readAny c b).run with
  | .ok s, .ok t => return s == t
  | _, _ => return false

def encoder (b : Octets) : Option (Option Handle) := do
  if ← isValid c b then return some c.profile.encoderHandle else return none

def decoder (b : Octets) : Option (Option Handle) := do
  let valid ← isValid c b
  return c.profile.decoderHandle.filter fun _ => valid

theorem isValid_eq (b : Octets) : isValid c b = some (c.profile.isValid b) := by
  rw [isValid, run_readAny]
  rfl

private theorem meetsSink_eq (reading : Reading) (b : Octets) :
    meetsSink c reading b = some (c.profile.meetsSink reading b) := by
  rw [meetsSink, run_read, Profile.meetsSink]
  cases c.profile.read reading b <;> cases c.profile.accepted <;> rfl

theorem isSupported_eq (role : Role) (b : Octets) :
    isSupported c role b = some (c.profile.isSupported role b) := by
  cases role with
  | localSink => exact meetsSink_eq c .configuration b
  | peerSource => exact meetsSink_eq c .capability b
  | localSource => rfl
  | peerSink => rfl

theorem typeEquals_eq (a b : Octets) : typeEquals c a b = some (c.profile.typeEquals a b) := by
  rw [typeEquals, run_read, run_read]
  rfl

theorem configEquals_eq (a b : Octets) :
    configEquals c a b = some (c.profile.configEquals a b) := by
  rw [configEquals, run_readAny, run_readAny, Profile.configEquals]
  cases c.profile.readAny a <;> cases c.profile.readAny b <;> rfl

theorem encoder_eq (b : Octets) : encoder c b = some (c.profile.encoder b) := by
  rw [encoder, isValid_eq, Profile.encoder]
  cases c.profile.isValid b <;> rfl

theorem decoder_eq (b : Octets) : decoder c b = some (c.profile.decoder b) := by
  rw [decoder, isValid_eq]
  rfl

end Verdicts

/-! ## Numbers -/

/-- A product of numbers with 31 bits that has 31 bits too. -/
def times? (m n : Nat) : Option Nat := if m * n ≤ 0x7FFFFFFF then some (m * n) else none

section Numbers

variable (c : Codec)

def configuration (b : Octets) : Option (Reported (Option Settings)) := do
  match ← (read c .configuration b).run with
  | .ok settings => return .quiet (some settings)
  | .error cause => return .noting none (.notConfiguration c.profile.name cause)

def number (setting : Setting) (b : Octets) : Option (Reported (Option Nat)) := do
  let settings ← configuration c b
  return settings.map (·.bind fun settings => c.profile.number? settings setting)

def sinkChannels (b : Octets) : Option (Reported (Option SinkChannels)) :=
  match c.profile.sinkChannelRule with
  | some rule => do
    let settings ← configuration c b
    return settings.map fun settings? => settings?.map rule.channels
  | none => some (.quiet none)

/-- The bit rate of a configuration, with every product in range. -/
def bitRateOf (settings : Settings) : Option (Option Nat) :=
  match c.profile.bitRateRule with
  | .quarterOfPcm =>
    match c.profile.number? settings .sampleRate, c.profile.number? settings .bitDepth,
      c.profile.number? settings .channelMode with
    | some rate, some depth, some channels => do
      let samples ← times? rate depth
      let pcm ← times? samples channels
      return some (pcm / 4)
    | _, _, _ => some none
  | .byBits _ _ | .byCode => some (c.profile.bitRate? settings)

def bitRate (b : Octets) : Option (Reported (Option Nat)) := do
  let settings ← configuration c b
  match settings.value with
  | some found => do
    let rate ← bitRateOf c found
    return settings.map fun _ => rate
  | none => return settings.map fun _ => none

private theorem configuration_eq (b : Octets) :
    configuration c b = some (c.profile.configuration b) := by
  rw [configuration, run_read, Profile.configuration]
  cases c.profile.read .configuration b <;> rfl

theorem number_eq (setting : Setting) (b : Octets) :
    number c setting b = some (c.profile.number setting b) := by
  rw [number, configuration_eq]
  rfl

theorem sinkChannels_eq (b : Octets) : sinkChannels c b = some (c.profile.sinkChannels b) := by
  rw [sinkChannels, configuration_eq, Profile.sinkChannels]
  cases c.profile.sinkChannelRule <;> rfl

end Numbers

private theorem times?_of_le {m n : Nat} (h : m * n ≤ 0x7FFFFFFF) :
    times? m n = some (m * n) := if_pos h

/-- The products of the numbers in the tables of a codec. -/
theorem products_le (c : Codec) :
    ∀ rate ∈ c.profile.numbers .sampleRate, ∀ depth ∈ c.profile.numbers .bitDepth,
      rate * depth ≤ 0x7FFFFFFF ∧
        ∀ channels ∈ c.profile.numbers .channelMode, rate * depth * channels ≤ 0x7FFFFFFF := by
  cases c <;> decide

private theorem bitRateOf_entries (c : Codec) (octets : Octets) :
    bitRateOf c (c.profile.layout.entries octets) =
      some (c.profile.bitRate? (c.profile.layout.entries octets)) := by
  unfold bitRateOf Profile.bitRate?
  cases hrule : c.profile.bitRateRule with
  | quarterOfPcm =>
    cases hrate : c.profile.number? (c.profile.layout.entries octets) .sampleRate with
    | none => rfl
    | some rate =>
      cases hdepth : c.profile.number? (c.profile.layout.entries octets) .bitDepth with
      | none => rfl
      | some depth =>
        cases hchannels : c.profile.number? (c.profile.layout.entries octets) .channelMode with
        | none => rfl
        | some channels =>
          obtain ⟨hsamples, hpcm⟩ := products_le c rate (Profile.mem_numbers hrate) depth
            (Profile.mem_numbers hdepth)
          simp only [times?_of_le hsamples, bind, Option.bind_some,
            times?_of_le (hpcm channels (Profile.mem_numbers hchannels))]
          rfl
  | byBits setting table => rfl
  | byCode => rfl

theorem bitRate_eq (c : Codec) (b : Octets) : bitRate c b = some (c.profile.bitRate b) := by
  rw [bitRate, configuration_eq, Profile.bitRate]
  cases hvalue : (c.profile.configuration b).value with
  | none => simp [Reported.map, hvalue]
  | some settings =>
    rw [Profile.entries_of_configuration hvalue] at hvalue
    simp [Reported.map, hvalue, bitRateOf_entries]

/-! ## Adjustment -/

/-- Brings the octets of a layout into normal form in place, from an index on. -/
def adjustFrom (b : Octets) (i : Nat) : Layout → Option (Bool × Octets)
  | [] => some (false, b)
  | fields :: layout => do
    let octet ← b.at? i
    let head := Layout.normalOctet fields octet
    let b ← b.store? i [head.2]
    let tail ← adjustFrom b (i + 1) layout
    return (head.1 || tail.1, tail.2)

/-- Clears the reserved octets from an index on. -/
def clearReserved (b : Octets) (i : Nat) : Option Nat → Option (Bool × Octets)
  | none => some (false, b)
  | some count => do
    let octets ← b.range? i (i + count)
    let b ← b.store? i (octets.map fun octet => octet &&& 0)
    return (octets.any fun octet => octet &&& 0 != octet, b)

def adjust (c : Codec) (b : Octets) : Option (Bool × Octets) := do
  match ← (check b c.profile.losc c.profile.key).run with
  | .ok _ => do
    let settings ← adjustFrom b Header.size c.described
    let reserved ← clearReserved settings.2 (Header.size + c.described.length) c.reserved?
    return (settings.1 || reserved.1, reserved.2)
  | .error _ => return (false, b)

private theorem adjustFrom_eq {b : Octets} {i : Nat} {layout : Layout}
    (h : i + layout.length ≤ b.length) :
    adjustFrom b i layout = some ((layout.normalise (b.drop i)).1,
      b.take i ++ (layout.normalise (b.drop i)).2) := by
  induction layout generalizing b i with
  | nil =>
    have hnil (octets : Octets) : Layout.normalise [] octets = (false, octets) := by
      cases octets <;> rfl
    rw [hnil, List.take_append_drop, adjustFrom]
  | cons fields layout ih =>
    rw [List.length_cons] at h
    have hi : i < b.length := by omega
    have hfront : (b.take i).length = i := by
      rw [List.length_take]
      omega
    let head := Layout.normalOctet fields (b.getD i 0)
    have hstore : b.store? i [head.2] = some (b.take i ++ [head.2] ++ b.drop (i + 1)) := by
      have hfits : i + [head.2].length ≤ b.length := hi
      rw [Octets.store?_of_le hfits, Octets.overwrite_of_le hfits, List.length_singleton]
    have hlength : (b.take i ++ [head.2]).length = i + 1 := by
      rw [List.length_append, hfront, List.length_singleton]
    -- The store leaves the octets behind `i` alone, so the rest is adjusted as it was.
    have htail := ih (b := b.take i ++ [head.2] ++ b.drop (i + 1)) (i := i + 1) (by
      rw [List.length_append, hlength, List.length_drop]
      omega)
    rw [List.drop_left' hlength, List.take_left' hlength] at htail
    rw [adjustFrom, Octets.at?_of_lt hi, Octets.drop_eq_getD_cons hi]
    simp only [bind, Option.bind_some]
    rw [hstore, Option.bind_some, htail]
    simp [Layout.normalise, head]

private theorem exists_adjustFrom {b : Octets} {i : Nat} {layout : Layout}
    (h : i + layout.length ≤ b.length) :
    ∃ front, adjustFrom b i layout = some front ∧ front.2.length = b.length := by
  refine ⟨_, adjustFrom_eq h, ?_⟩
  rw [List.length_append, Layout.length_normalise, ← List.length_append, List.take_append_drop]

/-- The octets of two layouts are adjusted one after the other. -/
theorem adjustFrom_append (b : Octets) (i : Nat) (layout more : Layout) :
    adjustFrom b i (layout ++ more) = do
      let front ← adjustFrom b i layout
      let rest ← adjustFrom front.2 (i + layout.length) more
      return (front.1 || rest.1, rest.2) := by
  induction layout generalizing b i with
  | nil => exact (Option.bind_fun_some _).symm
  | cons fields layout ih =>
    simp only [List.cons_append, adjustFrom, ih, bind_assoc, pure_bind, Bool.or_assoc,
      List.length_cons, Nat.add_assoc, Nat.add_comm 1]

private theorem normalise_reserved {count : Nat} {octets : Octets} (h : count ≤ octets.length) :
    Layout.normalise (List.replicate count [.reserved]) octets =
      ((octets.take count).any fun octet => octet &&& 0 != octet,
        (octets.take count).map (fun octet => octet &&& 0) ++ octets.drop count) := by
  induction count generalizing octets with
  | zero => cases octets <;> rfl
  | succ count ih =>
    cases octets with
    | nil => cases h
    | cons octet octets =>
      rw [List.replicate_succ, Layout.normalise, ih (Nat.le_of_succ_le_succ h)]
      simp [Layout.normalOctet, Layout.keptBits, Field.kept, Field.clamp]

/-- Clearing the reserved octets brings each of them into normal form. -/
theorem clearReserved_eq {b : Octets} {i : Nat} {count? : Option Nat}
    (h : i + count?.getD 0 ≤ b.length) :
    clearReserved b i count? =
      adjustFrom b i (List.replicate (count?.getD 0) [.reserved]) := by
  cases count? with
  | none => rfl
  | some count =>
    rw [Option.getD_some] at h ⊢
    have hcount : count ≤ (b.drop i).length := by
      rw [List.length_drop]
      omega
    let cleared := ((b.drop i).take count).map fun octet => octet &&& 0
    have hcleared : cleared.length = count := by
      rw [List.length_map, Octets.length_take_drop h]
    have hfits : i + cleared.length ≤ b.length := by rwa [hcleared]
    have hstore : b.store? i cleared = some (b.take i ++ (cleared ++ (b.drop i).drop count)) := by
      rw [Octets.store?_of_le hfits, Octets.overwrite_of_le hfits, hcleared, List.drop_drop,
        List.append_assoc]
    rw [adjustFrom_eq (by rwa [List.length_replicate]), normalise_reserved hcount]
    simp only [clearReserved, bind, Octets.range?_of_le h, Option.bind_some]
    rw [hstore]
    rfl

theorem adjust_eq (c : Codec) (b : Octets) : adjust c b = some (c.profile.adjust b) := by
  rw [adjust, run_check]
  cases hcheck : Header.check b c.profile.losc c.profile.key with
  | ok _ =>
    have hlength := Profile.length_of_check hcheck
    rw [Profile.adjust_of_check hcheck, ← adjustFrom_eq hlength, c.layout_eq, adjustFrom_append]
    rw [c.layout_eq, List.length_append, List.length_replicate, ← Nat.add_assoc] at hlength
    obtain ⟨front, hfront, hsame⟩ := exists_adjustFrom (Nat.le_of_add_right_le hlength)
    simp only [bind, Option.bind_some, hfront, clearReserved_eq (hsame ▸ hlength)]
  | error cause =>
    rw [Profile.adjust, hcheck]
    rfl

/-! ## Descriptions -/

/-- The text of an entry, with the rate of a code from its table. -/
def text (entry : Entry) : Option String :=
  match entry.field with
  | .rateCode rates => do
    let rate ← rates[entry.value.toNat]?
    let kilobits := rate / 1000
    let code := entry.value.toNat
    return s!"{kilobits} kbit/s (code {code})"
  | .choice _ _ | .version | .features _ | .reserved => some entry.text

def line (entry : Entry) : Option String :=
  match entry.label? with
  | some label => do
    let text ← text entry
    return "\t" ++ label ++ ": " ++ text ++ "\n"
  | none => some ""

def describe (c : Codec) (b : Octets) : Option String := do
  match ← (readAny c b).run with
  | .ok settings => do
    let lines ← settings.mapM line
    return "\tname: " ++ c.profile.name ++ "\n" ++ String.join lines
  | .error cause => return c.profile.name ++ " parse failed: " ++ cause.message

/-- A rate code that was read is in its table. -/
theorem text_entry {field : Field} {reading : Reading} {octet : UInt8}
    (h : field.Admits reading octet) :
    text (field.entry octet) = some (field.entry octet).text := by
  cases field with
  | rateCode rates =>
    let code := (octet &&& 3).toNat
    have hcode : code < rates.length := Field.admits_rateCode_iff.mp h
    have hrate : rates[code]? = some (rates.getD code 0) := by
      rw [List.getD_eq_getElem?_getD, List.getElem?_eq_getElem hcode]
      rfl
    change (rates[code]?.bind fun rate => _) = _
    rw [hrate]
    rfl
  | choice setting choices => rfl
  | version => rfl
  | features table => rfl
  | reserved => rfl

private theorem line_of_text {entry : Entry} (h : text entry = some entry.text) :
    line entry = some entry.line := by
  rw [line, Entry.line, h]
  cases entry.label? <;> rfl

private theorem mapM_line {reading : Reading} {layout : Layout} {octets : Octets}
    {settings : Settings} (h : layout.read reading octets = .ok settings) :
    settings.mapM line = some (settings.map Entry.line) := by
  obtain ⟨hadmits, rfl⟩ := Layout.read_eq_ok_iff.mp h
  have hlines : ∀ entry ∈ layout.entries octets, line entry = some entry.line := by
    intro entry hentry
    obtain ⟨pair, hpair, field, hfield, rfl⟩ := Layout.mem_entries.mp hentry
    exact line_of_text (text_entry (hadmits pair hpair field hfield))
  generalize layout.entries octets = settings at hlines
  induction settings with
  | nil => rfl
  | cons entry settings ih =>
    obtain ⟨hentry, hrest⟩ := List.forall_mem_cons.mp hlines
    rw [List.mapM_cons, hentry, ih hrest]
    rfl

theorem describe_eq (c : Codec) (b : Octets) : describe c b = some (c.profile.describe b) := by
  rw [describe, run_readAny, Profile.describe]
  cases hread : c.profile.readAny b with
  | error cause => rfl
  | ok settings =>
    rw [Profile.readAny_eq_read_capability, Profile.read_eq_ok_iff] at hread
    simp only [bind, Option.bind_some, mapM_line hread.2]
    rfl

/-! ## Packets -/

def timestamp (data : Octets) : Option (Option UInt32) :=
  if 4 ≤ data.length then do
    let octets ← data.range? 0 4
    return some (UInt32.ofNat octets.toNat)
  else some none

/-- Replaces octets at the start of the data, that all have to be there. -/
def storeFront (packet : Packet) (new : Octets) : Option Packet :=
  if packet.headroom + new.length ≤ packet.buffer.length then some (packet.overwrite new) else none

/-- Copies a payload behind so many cleared octets. -/
def ofPayload (headroom : Nat) (payload : Octets) : Option Packet := do
  let buffer ← Octets.store? (List.replicate (headroom + payload.length) 0) headroom payload
  if h : headroom + payload.length = buffer.length then
    some ⟨buffer, headroom, payload.length, h⟩
  else none

def data (packet : Packet) : Option Octets :=
  packet.buffer.range? packet.headroom (packet.headroom + packet.length)

/-- The packet after growing, and the region that was added. -/
def grow (packet : Packet) (count : Nat) : Attempt (Packet × Octets) := do
  let grown ← packet.grow count
  let region ← grown.buffer.range? grown.headroom (grown.headroom + count)
  return (grown, region)

/-- The region that a packet grew by is cleared, and the count is put into its first octet. -/
def writeFrames (header : FrameHeader) (packet : Packet) (frames : UInt16) :
    Option (Reported (Bool × Packet)) :=
  if header.maxFrames < frames then
    some (.noting (false, packet) (.tooManyFrames frames header.maxFrames))
  else do
    match ← (grow packet header.size).run with
    | .ok (grown, region) => do
      let cleared : Octets := region.map fun _ => 0
      let counted ← cleared.store? 0 [frames.toUInt8]
      let written ← storeFront grown counted
      return .quiet (true, written)
    | .error cause => return .noting (false, packet) (.headerNotWritten cause)

def buildHeader (c : Codec) (packet : Packet) (frames : UInt16) :
    Option (Reported (Bool × Packet)) :=
  match c.profile.frameHeader with
  | some header => writeFrames header packet frames
  | none => some (.quiet (true, packet))

theorem timestamp_eq (data : Octets) : timestamp data = some (Profile.timestamp data) := by
  unfold timestamp Profile.timestamp
  by_cases hlen : 4 ≤ data.length
  · have hrange : data.range? 0 (0 + 4) = some (data.take 4) := Octets.range?_of_le (by omega)
    rw [if_pos hlen, if_pos hlen, hrange]
    rfl
  · rw [if_neg hlen, if_neg hlen]

private theorem headroom_add_le_of_grow {packet grown : Packet} {count : Nat}
    (h : packet.grow count = .ok grown) : grown.headroom + count ≤ grown.buffer.length := by
  have hsum := packet.headroom_add_length
  by_cases hcount : count ≤ packet.headroom
  · rw [Packet.grow, dif_pos hcount] at h
    cases h
    simp only
    omega
  · rw [Packet.grow, dif_neg hcount] at h
    cases h

theorem ofPayload_eq (headroom : Nat) (payload : Octets) :
    ofPayload headroom payload = some (Packet.ofPayload headroom payload) := by
  have hfits : headroom + payload.length ≤
      (List.replicate (headroom + payload.length) (0 : UInt8)).length :=
    Nat.le_of_eq List.length_replicate.symm
  have hstore : Octets.store? (List.replicate (headroom + payload.length) 0) headroom payload =
      some (List.replicate headroom 0 ++ payload) := by
    rw [Octets.store?_of_le hfits, Octets.overwrite_of_le hfits, List.take_replicate,
      List.drop_replicate, Nat.min_eq_left (Nat.le_add_right _ _), Nat.sub_self,
      List.replicate_zero, List.append_nil]
  rw [ofPayload, hstore]
  exact dif_pos (by rw [List.length_append, List.length_replicate])

theorem data_eq (packet : Packet) : data packet = some packet.data :=
  Octets.range?_of_le (Nat.le_of_eq packet.headroom_add_length)

theorem freeze_eq (packet : Packet) : data packet = some packet.freeze :=
  if_pos ⟨Nat.le_add_right _ _, Nat.le_of_eq packet.headroom_add_length⟩

/-- The region that was added lies in the buffer. -/
theorem run_grow (packet : Packet) (count : Nat) :
    (grow packet count).run = some ((packet.grow count).map fun grown =>
      (grown, (grown.buffer.drop grown.headroom).take count)) := by
  rw [grow]
  cases hgrow : packet.grow count with
  | error cause => rfl
  | ok grown =>
    refine (run_bind rfl ?_ : _ = some (Except.ok grown >>= fun grown =>
      .ok (grown, (grown.buffer.drop grown.headroom).take count)))
    rintro _ ⟨⟩
    rw [Octets.range?_of_le (headroom_add_le_of_grow hgrow)]
    rfl

private theorem store?_replicate {size : Nat} (hsize : 0 < size) (count : UInt8) :
    Octets.store? (List.replicate size 0) 0 [count] =
      some (count :: List.replicate (size - 1) 0) := by
  have hfits : [count].length ≤ (List.replicate size (0 : UInt8)).length := by
    rwa [List.length_replicate]
  rw [Octets.store?_of_le (by omega), Octets.overwrite_zero hfits, List.drop_replicate]
  rfl

private theorem writeFrames_eq {header : FrameHeader} (hsize : 0 < header.size) (packet : Packet)
    (frames : UInt16) : writeFrames header packet frames = some (header.write packet frames) := by
  unfold writeFrames FrameHeader.write
  by_cases hframes : header.maxFrames < frames
  · rw [if_pos hframes, if_pos hframes]
  · rw [if_neg hframes, if_neg hframes]
    rw [run_grow]
    cases hgrow : packet.grow header.size with
    | error cause => rfl
    | ok grown =>
      have hroom := headroom_add_le_of_grow hgrow
      let region := (grown.buffer.drop grown.headroom).take header.size
      have hregion : region.length = header.size := Octets.length_take_drop hroom
      have hcleared : (region.map fun _ => (0 : UInt8)) = List.replicate header.size 0 := by
        rw [List.map_const', hregion]
      have hfront : storeFront grown (frames.toUInt8 :: List.replicate (header.size - 1) 0) =
          some (grown.overwrite (frames.toUInt8 :: List.replicate (header.size - 1) 0)) := by
        apply if_pos
        rw [List.length_cons, List.length_replicate]
        omega
      simp only [bind, Except.map, Option.bind_some]
      rw [hcleared, store?_replicate hsize, Option.bind_some, hfront]
      rfl

private theorem frameHeader_size_pos (c : Codec) :
    ∀ header ∈ c.profile.frameHeader, 0 < header.size := by
  cases c <;> decide

theorem buildHeader_eq (c : Codec) (packet : Packet) (frames : UInt16) :
    buildHeader c packet frames = some (c.profile.buildHeader packet frames) := by
  unfold buildHeader Profile.buildHeader
  cases hheader : c.profile.frameHeader with
  | none => rfl
  | some header => exact writeFrames_eq (frameHeader_size_pos c header hheader) packet frames

/-! ## Endpoints -/

def capability (e : Endpoint) : Option Octets := do
  let losc ← e.buffer.at? 0
  e.buffer.range? 0 (min (losc.toNat + 1) 20)

/-- The endpoint with another buffer, that has to be of the same size. -/
def withBuffer (e : Endpoint) (buffer : Octets) : Option Endpoint :=
  if h : buffer.length = 20 then some { e with buffer := buffer, buffer_length := h } else none

/-- The endpoint with other content protection, that has to be of the same size. -/
def withProtection (e : Endpoint) (protection : Octets) : Option Endpoint :=
  if h : protection.length = 90 then
    some { e with protection := protection, protection_length := h }
  else none

def addScmsT (e : Endpoint) : Option Endpoint := do
  let protection ← e.protection.store? 0 [2]
  let protection ← protection.store? 1 [2]
  let protection ← protection.store? 2 [0]
  let guarded ← withProtection e protection
  return { guarded with
    protectionCount := 1
    services := e.services.union .contentProtection }

/-- One store. A region is cleared in place, and bits are added to an octet that is read first. -/
def store (b : Octets) : Store → Option Octets
  | .clear start count => do
    let region ← b.range? start (start + count)
    b.store? start (region.map fun _ => 0)
  | .put index octet => b.store? index [octet]
  | .add index bits => do
    let octet ← b.at? index
    b.store? index [octet ||| bits]

def initialise (c : Codec) (scmsT : Bool) (direction : Direction) (e : Endpoint) :
    Option (Reported (Bool × Endpoint)) :=
  match c.profile.stores direction with
  | none => some (.quiet (false, e))
  | some stores => do
    match ← write e.buffer c.profile.losc .audio c.profile.key with
    | (.error cause, _) => return .noting (false, e) (.defaultNotWritten c.profile.name cause)
    | (.ok _, buffer) => do
      let buffer ← stores.foldlM store buffer
      let filled ← withBuffer e buffer
      let announced ← if scmsT && c.profile.announcesScmsT then addScmsT filled else some filled
      return .quiet (true, announced)

theorem capability_eq (e : Endpoint) : capability e = some e.capability := by
  have hlength := e.buffer_length
  have hlosc : e.buffer.at? 0 = some (e.buffer.headD 0) := by
    rw [Octets.at?_of_lt (by omega), List.headD_eq_head?_getD, List.head?_eq_getElem?,
      List.getD_eq_getElem?_getD]
  have hrange : e.buffer.range? 0 (min ((e.buffer.headD 0).toNat + 1) 20) = some e.capability := by
    rw [Octets.range?, if_pos (by omega)]
    rfl
  rw [capability, hlosc]
  exact hrange

private theorem addScmsT_eq (e : Endpoint) : addScmsT e = some e.addScmsT := by
  have hlength := e.protection_length
  have hfirst : e.protection.store? 0 [2] = some (e.protection.overwrite 0 [2]) :=
    Octets.store?_of_le (by rw [List.length_singleton]; omega)
  have hsecond : (e.protection.overwrite 0 [2]).store? 1 [2] =
      some (e.protection.overwrite 0 [2, 2]) :=
    Octets.store?_overwrite_zero rfl (by rw [List.length_singleton]; omega)
  have hthird : (e.protection.overwrite 0 [2, 2]).store? 2 [0] =
      some (e.protection.overwrite 0 [2, 2, 0]) :=
    Octets.store?_overwrite_zero rfl (by rw [List.length_singleton]; omega)
  have hsame : withProtection e (e.protection.overwrite 0 [2, 2, 0]) =
      some (e.writeProtection 0 [2, 2, 0]) :=
    dif_pos (by rw [Octets.length_overwrite, hlength])
  simp only [addScmsT, hfirst, hsecond, hthird, hsame, bind, Option.bind_some]
  rfl

private theorem store_eq {b : Octets} {s : Store} (h : s.start + s.count ≤ b.length) :
    store b s = some (s.apply b) := by
  cases s with
  | clear start count =>
    have hfits : start + count ≤ b.length := h
    have hregion : ((b.drop start).take count).length = count := Octets.length_take_drop hfits
    simp only [store, bind, Octets.range?_of_le hfits, Option.bind_some, List.map_const', hregion]
    exact Octets.store?_of_le (by rwa [List.length_replicate])
  | put index octet => exact Octets.store?_of_le h
  | add index bits =>
    have hindex : index < b.length := h
    simp only [store, bind, Octets.at?_of_lt hindex, Option.bind_some]
    exact Octets.store?_of_le hindex

private theorem foldlM_store_eq {b : Octets} {stores : List Store}
    (h : ∀ s ∈ stores, s.start + s.count ≤ b.length) :
    stores.foldlM store b = some (Store.run stores b) := by
  induction stores generalizing b with
  | nil => rfl
  | cons s stores ih =>
    obtain ⟨hfirst, hrest⟩ := List.forall_mem_cons.mp h
    have htail := ih (b := s.apply b) (by simpa only [Store.length_apply] using hrest)
    rw [List.foldlM_cons, store_eq hfirst]
    exact htail

/-- The stores of a default have their places in every endpoint. -/
theorem initialise_eq (c : Codec) (scmsT : Bool) (direction : Direction) (e : Endpoint) :
    initialise c scmsT direction e = some (c.profile.initialise scmsT direction e) := by
  unfold initialise Profile.initialise
  cases hstores : c.profile.stores direction with
  | none => rfl
  | some stores =>
    let written := e.write 0 (Header.octets c.profile.losc .audio c.profile.key)
    have hroom := Profile.room_buffer c.losc_fits e
    have hwrite : write e.buffer c.profile.losc .audio c.profile.key =
        some (.ok (c.profile.losc.toNat + 1), written.buffer) := by
      rw [write_eq, Header.write, hroom]
      rfl
    have hplaces : ∀ s ∈ stores, s.start + s.count ≤ written.buffer.length := by
      intro s hs
      have hend := ((Profile.stores_fill hstores).1 s hs).2
      have hlosc := c.profile.losc_toNat
      have hfits := c.losc_fits
      rw [written.buffer_length]
      simp only [Header.size] at hend
      omega
    have hsame : withBuffer e (Store.run stores written.buffer) = some (written.store stores) :=
      dif_pos (by rw [Store.length_run, written.buffer_length])
    simp only [hwrite, hroom, bind, Option.bind_some, foldlM_store_eq hplaces, hsame, addScmsT_eq]
    split <;> rfl

end Direct

end A2dp
