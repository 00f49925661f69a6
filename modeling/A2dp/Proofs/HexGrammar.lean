import A2dp.Proofs.AdjustedReport

/-!
# The grammar of hexadecimal input

An input is a series of parts with one divider between each two. A part is any number of marks with
the small letter, then any number with the capital one, then any number of digits, and the digits of
all parts, taken together, are read in pairs. Reading accepts exactly what this grammar derives, by
whatever decoder the digits are turned into octets.
-/

namespace A2dp

namespace Probe

open Hex (Digit)

/-- Marks one after the other: a zero and the letter each. -/
def marks (letter : Char) (count : Nat) : List Char :=
  (List.replicate count ['0', letter]).flatten

/-- A part of an input: marks with the small letter, marks with the capital one, and digits. -/
def partText (small capital : Nat) (digits : List Digit) : List Char :=
  marks 'x' small ++ (marks 'X' capital ++ digits.map Digit.char)

/-- The numbers of the characters with the property of white space. -/
def whiteSpace : List Nat :=
  List.range' 0x09 5 ++ [0x20, 0x85, 0xA0, 0x1680] ++ List.range' 0x2000 11 ++
    [0x2028, 0x2029, 0x202F, 0x205F, 0x3000]

def IsSeparator (c : Char) : Prop := c = ':' ∨ c.toNat ∈ whiteSpace

private theorem isDivider_iff_isSeparator {c : Char} : isDivider c = true ↔ IsSeparator c := by
  have hblank : Text.isBlank c = true ↔ c.toNat ∈ whiteSpace := by
    simp only [Text.isBlank, whiteSpace, Bool.or_eq_true, Bool.and_eq_true, decide_eq_true_eq,
      beq_iff_eq, List.mem_append, List.mem_range'_1, List.mem_cons, List.not_mem_nil, or_false]
    omega
  rw [isDivider, Bool.or_eq_true, beq_iff_eq, hblank, IsSeparator, or_comm]

/-- The grammar: the input consists of parts, with a separator between each two, and has these
digits in this order. -/
inductive Spells : List Char → List Digit → Prop where
  | part (small capital : Nat) (digits : List Digit) :
    Spells (partText small capital digits) digits
  | divided (small capital : Nat) (digits : List Digit) {divider : Char} {rest : List Char}
    {more : List Digit} (hseparator : IsSeparator divider) (hrest : Spells rest more) :
    Spells (partText small capital digits ++ divider :: rest) (digits ++ more)

def stripped (part : List Char) : List Char := stripMarks 'X' (stripMarks 'x' part)

private theorem mem_marks {letter c : Char} {count : Nat} (h : c ∈ marks letter count) :
    c = '0' ∨ c = letter := by
  obtain ⟨mark, hmark, hc⟩ := List.mem_flatten.mp h
  rw [List.eq_of_mem_replicate hmark] at hc
  simpa using hc

private theorem marks_succ_append (letter : Char) (count : Nat) (cs : List Char) :
    marks letter (count + 1) ++ cs = '0' :: letter :: (marks letter count ++ cs) := rfl

private theorem not_isDivider_of_mem_partText {small capital : Nat} {digits : List Digit} {c : Char}
    (h : c ∈ partText small capital digits) : isDivider c = false := by
  simp only [partText, List.mem_append] at h
  rcases h with hsmall | hcapital | hdigit
  · rcases mem_marks hsmall with rfl | rfl <;> decide
  · rcases mem_marks hcapital with rfl | rfl <;> decide
  · exact Digit.forall_mem_chars (motive := fun c => isDivider c = false) (by decide) digits c
      hdigit

private theorem stripMarks_marks_append (letter : Char) (count : Nat) (cs : List Char) :
    stripMarks letter (marks letter count ++ cs) = stripMarks letter cs := by
  induction count with
  | zero => rfl
  | succ count ih => rw [marks_succ_append, stripMarks, if_pos rfl, ih]

private theorem exists_marks_append (letter : Char) (cs : List Char) :
    ∃ count, cs = marks letter count ++ stripMarks letter cs := by
  fun_induction stripMarks letter cs with
  | case1 rest ih =>
    obtain ⟨count, hcount⟩ := ih
    refine ⟨count + 1, ?_⟩
    rw [marks_succ_append, ← hcount]
  | case2 c rest hc => exact ⟨0, rfl⟩
  | case3 cs hcs => exact ⟨0, rfl⟩

private theorem stripped_partText (small capital : Nat) (digits : List Digit) :
    stripped (partText small capital digits) = digits.map Digit.char := by
  have hx := Digit.forall_mem_chars (motive := fun c => c ≠ 'x') (by decide) digits
  have hX := Digit.forall_mem_chars (motive := fun c => c ≠ 'X') (by decide) digits
  have hsmall : ∀ c ∈ marks 'X' capital ++ digits.map Digit.char, c ≠ 'x' := by
    intro c hc
    rcases List.mem_append.mp hc with hmark | hc
    · rcases mem_marks hmark with rfl | rfl <;> decide
    · exact hx c hc
  rw [stripped, partText, stripMarks_marks_append, stripMarks_eq_self hsmall,
    stripMarks_marks_append, stripMarks_eq_self hX]

private theorem exists_partText {part : List Char} {digits : List Digit}
    (h : stripped part = digits.map Digit.char) :
    ∃ small capital, part = partText small capital digits := by
  obtain ⟨small, hsmall⟩ := exists_marks_append 'x' part
  obtain ⟨capital, hcapital⟩ := exists_marks_append 'X' (stripMarks 'x' part)
  refine ⟨small, capital, ?_⟩
  rw [stripped] at h
  rw [partText, ← h, ← hcapital, ← hsmall]

private theorem parts_append {part rest : List Char} {divider : Char}
    (hpart : ∀ c ∈ part, isDivider c = false) (hdivider : isDivider divider = true) :
    parts (part ++ divider :: rest) = part :: parts rest := by
  induction part with
  | nil => simp [parts, hdivider]
  | cons c part ih =>
    obtain ⟨hc, hrest⟩ := List.forall_mem_cons.mp hpart
    simp [parts, hc, ih hrest]

/-- An input is one part, or has a first divider. -/
theorem no_divider_or_first (input : List Char) :
    (∀ c ∈ input, isDivider c = false) ∨
      ∃ part divider rest, input = part ++ divider :: rest ∧ isDivider divider = true ∧
        ∀ c ∈ part, isDivider c = false := by
  induction input with
  | nil => exact .inl nofun
  | cons c input ih =>
    cases hc : isDivider c with
    | true => exact .inr ⟨[], c, input, rfl, hc, nofun⟩
    | false =>
      rcases ih with hnone | ⟨part, divider, rest, rfl, hdivider, hpart⟩
      · exact .inl (List.forall_mem_cons.mpr ⟨hc, hnone⟩)
      · exact .inr ⟨c :: part, divider, rest, rfl, hdivider, List.forall_mem_cons.mpr ⟨hc, hpart⟩⟩

private theorem cleaned_of_no_divider {input : List Char} (h : ∀ c ∈ input, isDivider c = false) :
    cleaned input = stripped input := by
  rw [cleaned, parts_eq_singleton h, List.flatMap_singleton, stripped]

private theorem cleaned_append {part rest : List Char} {divider : Char}
    (hpart : ∀ c ∈ part, isDivider c = false) (hdivider : isDivider divider = true) :
    cleaned (part ++ divider :: rest) = stripped part ++ cleaned rest := by
  rw [cleaned, parts_append hpart hdivider, List.flatMap_cons, cleaned, stripped]

private theorem Spells.cleaned_eq {input : List Char} {digits : List Digit}
    (h : Spells input digits) :
    cleaned input = digits.map Digit.char := by
  induction h with
  | part small capital digits =>
    rw [cleaned_of_no_divider fun c => not_isDivider_of_mem_partText, stripped_partText]
  | divided small capital digits hseparator hrest ih =>
    have hdivider := isDivider_iff_isSeparator.mpr hseparator
    rw [cleaned_append (fun c => not_isDivider_of_mem_partText) hdivider, stripped_partText, ih,
      List.map_append]

private theorem spells_of_cleaned_eq {input : List Char} {digits : List Digit}
    (h : cleaned input = digits.map Digit.char) : Spells input digits := by
  -- on the length of the input: the rest behind the first divider is shorter
  induction hlength : input.length using Nat.strongRecOn generalizing input digits with
  | ind n ih =>
    rcases no_divider_or_first input with hnone | ⟨part, divider, rest, rfl, hdivider, hpart⟩
    · rw [cleaned_of_no_divider hnone] at h
      obtain ⟨small, capital, rfl⟩ := exists_partText h
      exact .part small capital digits
    · rw [cleaned_append hpart hdivider] at h
      obtain ⟨first, more, rfl, hfirst, hmore⟩ := List.map_eq_append_iff.mp h.symm
      obtain ⟨small, capital, rfl⟩ := exists_partText hfirst.symm
      have hshorter : rest.length < n := by
        rw [← hlength, List.length_append, List.length_cons]
        omega
      exact .divided small capital first (isDivider_iff_isSeparator.mp hdivider)
        (ih rest.length hshorter hmore.symm rfl)

/-- What is left of the parts are these digits exactly if the grammar derives the input with
them. -/
theorem cleaned_eq_iff_spells {input : List Char} {digits : List Digit} :
    cleaned input = digits.map Digit.char ↔ Spells input digits :=
  ⟨spells_of_cleaned_eq, Spells.cleaned_eq⟩

/-! ## Reading an input -/

private theorem readHexBy_eq_ok_iff {decode : Octets → Except Hex.Fault Octets} {input : List Char}
    {octets : Octets} :
    readHexBy decode input = .ok octets ↔
      decode ((cleaned input).flatMap String.utf8EncodeChar) = .ok octets ∧ octets ≠ [] := by
  unfold readHexBy
  split
  · next hdecode =>
    refine iff_of_false nofun ?_
    rintro ⟨hoctets, hne⟩
    exact hne (Except.ok.inj (hdecode.symm.trans hoctets)).symm
  · next decoded hne hdecode =>
    rw [hdecode, Except.ok.injEq, Except.ok.injEq]
    constructor
    · rintro rfl
      exact ⟨rfl, hne⟩
    · exact And.left
  · next cause hdecode =>
    refine iff_of_false nofun ?_
    rintro ⟨hoctets, -⟩
    cases hdecode.symm.trans hoctets

/-- Digits are taken in pairs wherever their number is even. -/
theorem exists_halves_eq : ∀ digits : List Digit, digits.length % 2 = 0 →
    ∃ octets, Octets.halves octets = digits.map fun d => d.value.val
  | [], _ => ⟨[], rfl⟩
  | [_], hodd => by cases hodd
  | high :: low :: rest, heven => by
    have hrest : rest.length % 2 = 0 := by
      rw [List.length_cons, List.length_cons] at heven
      omega
    obtain ⟨octets, hoctets⟩ := exists_halves_eq rest hrest
    have hhigh := high.value.isLt
    have hlow := low.value.isLt
    refine ⟨UInt8.ofNat (16 * high.value + low.value) :: octets, ?_⟩
    rw [Octets.halves_cons, UInt8.toNat_ofNat', Nat.mod_eq_of_lt (by omega), hoctets,
      List.map_cons, List.map_cons]
    congr 1
    · omega
    · congr 1
      omega

section Decoder

variable {decode : Octets → Except Hex.Fault Octets} (hdecode : Hex.IsDecoder decode)
include hdecode

/-- An input is read as octets exactly if the grammar derives it with their halves. -/
theorem readHexBy_eq_ok_iff_spells {input : List Char} {octets : Octets} :
    readHexBy decode input = .ok octets ↔
      ∃ digits, Spells input digits ∧ digits.length % 2 = 0 ∧ digits.length ≠ 0 ∧
        (digits.map fun d => d.value.val) = Octets.halves octets := by
  rw [readHexBy_eq_ok_iff, hdecode.eq_ok_iff, Hex.map_octetValue?_eq_iff,
    Hex.map_digitValue?_eq_iff]
  constructor
  · rintro ⟨⟨digits, hchars, hvalues⟩, hne⟩
    have hlength := congrArg List.length hvalues
    rw [List.length_map, Octets.length_halves] at hlength
    have hpos := List.length_pos_iff.mpr hne
    exact ⟨digits, cleaned_eq_iff_spells.mp hchars.symm, by omega, by omega, hvalues⟩
  · rintro ⟨digits, hspells, -, hdigits, hvalues⟩
    refine ⟨⟨digits, (cleaned_eq_iff_spells.mpr hspells).symm, hvalues⟩, ?_⟩
    rintro rfl
    rw [List.map_eq_nil_iff.mp hvalues] at hdigits
    exact hdigits rfl

private theorem exists_readHexBy_eq_ok_iff {input : List Char} :
    (∃ octets, readHexBy decode input = .ok octets) ↔
      ∃ digits, Spells input digits ∧ digits.length % 2 = 0 ∧ digits.length ≠ 0 := by
  simp only [readHexBy_eq_ok_iff_spells hdecode]
  constructor
  · rintro ⟨octets, digits, hspells, heven, hne, -⟩
    exact ⟨digits, hspells, heven, hne⟩
  · rintro ⟨digits, hspells, heven, hne⟩
    obtain ⟨octets, hoctets⟩ := exists_halves_eq digits heven
    exact ⟨octets, digits, hspells, heven, hne, hoctets.symm⟩

end Decoder

namespace CapabilityReport

private theorem member?_codec_info (report : CapabilityReport) :
    report.json.member? "codec_info" = some (.string (Hex.text report.buffer)) := by
  simp [json, Text.Json.member?]

end CapabilityReport

/-- Reading accepts exactly the inputs that the grammar derives with an even number of digits, not
zero, and gives the octets they spell: by every decoder, of which no more is asked than that it
decodes, and so by the one that is used. It reads the text of octets, and so the texts of a
report. -/
theorem readHex_accepts_grammar :
    (∀ decode, Hex.IsDecoder decode → ∀ (input : String) (octets : Octets),
      (readHexBy decode input.toList = .ok octets ↔
        ∃ digits, Spells input.toList digits ∧ digits.length % 2 = 0 ∧ digits.length ≠ 0 ∧
          (digits.map fun d => d.value.val) = Octets.halves octets) ∧
      (octets ≠ [] → readHexBy decode (Hex.text octets).toList = .ok octets)) ∧
    Hex.IsDecoder Hex.decode ∧
    (∀ (input : String) (octets : Octets), readHex input.toList = .ok octets ↔
      ∃ digits, Spells input.toList digits ∧ digits.length % 2 = 0 ∧ digits.length ≠ 0 ∧
        (digits.map fun d => d.value.val) = Octets.halves octets) ∧
    (∀ input : String, (∃ octets, readHex input.toList = .ok octets) ↔
      ∃ digits, Spells input.toList digits ∧ digits.length % 2 = 0 ∧ digits.length ≠ 0) ∧
    (∀ octets : Octets, octets ≠ [] → readHex (Hex.text octets).toList = .ok octets) ∧
    (∀ (r : Registry) (b : Octets) (contentProtection : Bool),
      let report := (CapabilityReport.make r b contentProtection).value
      (b ≠ [] → ∃ text, report.json.member? "codec_info" = some (.string text) ∧
        readHex text.toList = .ok b) ∧
      ((r.adjust b).value.1 = true → ∃ text,
        report.json.member? "adjusted" = some (.string text) ∧
          readHex text.toList = .ok (r.adjust b).value.2) ∧
      ((r.adjust b).value.1 = false → report.json.member? "adjusted" = none)) := by
  refine ⟨?_, Hex.isDecoder_decode,
    fun input octets => readHexBy_eq_ok_iff_spells Hex.isDecoder_decode,
    fun input => exists_readHexBy_eq_ok_iff Hex.isDecoder_decode, fun octets => readHex_text, ?_⟩
  · intro decode hdecode input octets
    exact ⟨readHexBy_eq_ok_iff_spells hdecode, readHexBy_text hdecode⟩
  · intro r b contentProtection report
    have hadjusted := (CapabilityReport.member?_adjusted report).trans
      (congrArg _ (CapabilityReport.adjusted_make r b contentProtection))
    refine ⟨?_, ?_, ?_⟩
    · intro hne
      exact ⟨_, CapabilityReport.member?_codec_info report, readHex_text hne⟩
    · intro hflag
      refine ⟨Hex.text (r.adjust b).value.2, ?_, readHex_text (Registry.adjusted_ne_nil hflag)⟩
      rw [hadjusted, if_pos hflag]
      rfl
    · intro hflag
      rw [hadjusted, hflag]
      rfl

-- A part may be marks alone, an octet may be divided, and capital marks do not come first.
example : readHex "0x0Xb4:0x c\t0".toList = .ok [0xB4, 0xC0] := by rfl

example : readHex "0X0xb4".toList = .error (.malformed (.notDigit 120 1)) := by rfl

end Probe

end A2dp
