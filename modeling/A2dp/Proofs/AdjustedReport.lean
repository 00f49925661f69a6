import A2dp.Probe.Run
import A2dp.Proofs.Adjustment
import A2dp.Proofs.HexInput

/-!
# The adjusted buffer in a report

A report shows the adjusted buffer exactly where it differs. Given to the probe, its text is read
as the adjusted buffer, which has nothing left to adjust.
-/

namespace A2dp

/-- The value of the first member of an object with a name. -/
def Text.Json.member? : Text.Json → String → Option Text.Json
  | .object members, name => members.lookup name
  | _, _ => none

namespace Probe

private theorem lookup_optionalMember {α : Type} (name other : String) (value : Option α)
    (json : α → Text.Json) :
    (optionalMember name value json).lookup other =
      if other = name then value.map json else none := by
  by_cases h : other = name
  · cases value <;> simp [optionalMember, h]
  · have hne : (other == name) = false := by simpa using h
    cases value <;> simp [optionalMember, List.lookup_cons, h, hne]

namespace CapabilityReport

/-- No number has the label. -/
private theorem lookup_numbers (report : CapabilityReport) :
    (report.numbers.flatMap fun row => optionalMember row.1 (applicable row.2) .number).lookup
      "adjusted" = none := by
  simp [numbers, List.lookup_append, lookup_optionalMember]

theorem member?_adjusted (report : CapabilityReport) :
    report.json.member? "adjusted" =
      report.adjusted.map fun octets => .string (Hex.text octets) := by
  simp only [json, Text.Json.member?, List.lookup_append, lookup_numbers, lookup_optionalMember]
  cases report.adjusted <;> simp [List.lookup_cons]

theorem adjusted_make (r : Registry) (b : Octets) (contentProtection : Bool) :
    (make r b contentProtection).value.adjusted =
      if (r.adjust b).value.1 then some (r.adjust b).value.2 else none := rfl

end CapabilityReport

/-- The command line asks for a report on the capability in a text. -/
structure Options.AsksFor (options : Options) (text : String) : Prop where
  listFamilies : options.listFamilies = false
  index : options.index = none
  input : options.input = some text

/-- A run on the text of octets prints the report on them. -/
theorem stdout_runWith_text (r : Registry) {octets : Octets} (hne : octets ≠ [])
    {options : Options} (hasks : options.AsksFor (Hex.text octets)) (time : String)
    (settings : LogSettings) (logFile : Option String) :
    let report := (CapabilityReport.make r octets options.contentProtection).value
    let outcome := runWith r time options settings logFile
    outcome.exitCode = 0 ∧ outcome.stdout = rendered options.json report.json report.text := by
  have hanswer : (answer r options).value =
      .ok (rendered options.json
        (CapabilityReport.make r octets options.contentProtection).value.json
        (CapabilityReport.make r octets options.contentProtection).value.text) := by
    simp only [answer, hasks.listFamilies, hasks.index, hasks.input, readHex_text hne,
      Bool.false_eq_true, if_false, Reported.value_map]
  simp only [runWith, hanswer, and_self]

end Probe

namespace Registry

open Probe (CapabilityReport Options runWith rendered)

theorem adjusted_ne_nil {r : Registry} {b : Octets} (h : (r.adjust b).value.1 = true) :
    (r.adjust b).value.2 ≠ [] := by
  have hadjust := r.isAdjustment_adjust b
  intro hnil
  have hlength := hadjust.agree.length
  rw [hnil] at hlength
  exact hadjust.flag.mp h (hnil.trans (List.eq_nil_of_length_eq_zero hlength.symm).symm)

/-- Adjusting tells exactly whether an octet differs, touches only announced octets behind the
header, and only if the check of a codec passes; it brings these octets into normal form, and then
has nothing left to do. So the adjusted buffer of a report has a report without one. -/
theorem adjust_exact_framed_idempotent (r : Registry) (b : Octets) :
    ((r.adjust b).value.1 = true ↔ ∃ i : Nat, (r.adjust b).value.2[i]? ≠ b[i]?) ∧
    (r.adjust b).value.2.length = b.length ∧
    (∀ i < 9, (r.adjust b).value.2[i]? = b[i]?) ∧
    (∀ losc i, b[0]? = some losc → losc.toNat < i → (r.adjust b).value.2[i]? = b[i]?) ∧
    ((∀ c : Codec, r.familyOf b = some (.codec c) →
        Header.check b c.profile.losc c.profile.key ≠ .ok ()) →
      (r.adjust b).value = (false, b)) ∧
    (∀ c : Codec, r.familyOf b = some (.codec c) →
      Header.check b c.profile.losc c.profile.key = .ok () →
      c.profile.layout.IsNormal ((r.adjust b).value.2.drop Header.size) ∧
        ((r.adjust b).value.1 = true ↔ ¬ c.profile.layout.IsNormal (b.drop Header.size))) ∧
    (r.adjust (r.adjust b).value.2).value = (false, (r.adjust b).value.2) ∧
    (∀ contentProtection,
      (CapabilityReport.make r b contentProtection).value.json.member? "adjusted" =
        if (r.adjust b).value.1 then some (.string (Hex.text (r.adjust b).value.2)) else none) ∧
    (∀ contentProtection text,
      (CapabilityReport.make r b contentProtection).value.json.member? "adjusted" =
        some (.string text) →
      ∀ options : Options, options.AsksFor text →
        ∃ report : CapabilityReport, report.buffer = (r.adjust b).value.2 ∧
          report.adjusted = none ∧ report.json.member? "adjusted" = none ∧
          ∀ time settings logFile,
            (runWith r time options settings logFile).exitCode = 0 ∧
              (runWith r time options settings logFile).stdout =
                rendered options.json report.json report.text) := by
  have hadjust := r.isAdjustment_adjust b
  have hmember : ∀ contentProtection,
      (CapabilityReport.make r b contentProtection).value.json.member? "adjusted" =
        if (r.adjust b).value.1 then some (.string (Hex.text (r.adjust b).value.2)) else none := by
    intro contentProtection
    rw [CapabilityReport.member?_adjusted, CapabilityReport.adjusted_make]
    cases (r.adjust b).value.1 <;> rfl
  refine ⟨hadjust.flag_iff_exists, hadjust.agree.length, fun i hi => hadjust.agree.getElem? hi,
    hadjust.beyond, r.adjust_of_no_check b, ?_, r.adjust_adjust b, hmember, ?_⟩
  · intro c hfamily hcheck
    rw [r.value_adjust, hfamily]
    exact ⟨Profile.isNormal_adjust hcheck, Profile.adjust_flag_iff_not_isNormal hcheck⟩
  · intro contentProtection text htext options hasks
    rw [hmember] at htext
    cases hflag : (r.adjust b).value.1 with
    | false => simp [hflag] at htext
    | true =>
      have heq : Hex.text (r.adjust b).value.2 = text := by simpa [hflag] using htext
      rw [← heq] at hasks
      have hnone : (CapabilityReport.make r (r.adjust b).value.2
          options.contentProtection).value.adjusted = none := by
        rw [CapabilityReport.adjusted_make, r.adjust_adjust b]
        rfl
      refine ⟨_, rfl, hnone, ?_, Probe.stdout_runWith_text r (adjusted_ne_nil hflag) hasks⟩
      rw [CapabilityReport.member?_adjusted, hnone]
      rfl

end Registry

end A2dp
