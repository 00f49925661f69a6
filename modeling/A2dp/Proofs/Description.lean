import A2dp.Proofs.CanonicalForm
import A2dp.Proofs.HexInput
import A2dp.Proofs.NumeralOrder

/-!
# What a description tells

A description has a line for the name of the codec and one for each field that is not reserved. No
name has a line break in it, so the lines can be told apart again, and the text behind a label ends
with the value of the field. So capabilities have one description exactly if they belong to one
codec and its fields have the same values, and that is what their adjusted forms are compared by.
-/

namespace A2dp

namespace Text

/-- The first place of a character tells apart what is before it and behind it. -/
theorem eq_of_append_cons_eq {c : Char} {front front' rest rest' : List Char} (h : c ∉ front)
    (h' : c ∉ front') (heq : front ++ c :: rest = front' ++ c :: rest') :
    front = front' ∧ rest = rest' := by
  induction front generalizing front' with
  | nil =>
    cases front' with
    | nil => exact ⟨rfl, (List.cons.inj heq).2⟩
    | cons x front' => exact absurd ((List.cons.inj heq).1 ▸ List.mem_cons_self) h'
  | cons x front ih =>
    cases front' with
    | nil => exact absurd ((List.cons.inj heq).1 ▸ List.mem_cons_self) h
    | cons y front' =>
      obtain ⟨hfirst, htail⟩ := List.cons.inj heq
      obtain ⟨hfront, hrest⟩ := ih (fun hc => h (List.mem_cons_of_mem x hc))
        (fun hc => h' (List.mem_cons_of_mem y hc)) htail
      exact ⟨by rw [hfirst, hfront], hrest⟩

def IsSingleLine (text : String) : Prop := '\n' ∉ text.toList

instance (text : String) : Decidable (IsSingleLine text) :=
  inferInstanceAs (Decidable ('\n' ∉ text.toList))

@[simp] theorem isSingleLine_append {text other : String} :
    IsSingleLine (text ++ other) ↔ IsSingleLine text ∧ IsSingleLine other := by
  simp [IsSingleLine]

private theorem isSingleLine_intercalate {separator : String} {parts : List String}
    (hseparator : IsSingleLine separator) (h : ∀ part ∈ parts, IsSingleLine part) :
    IsSingleLine (separator.intercalate parts) := by
  induction parts with
  | nil =>
    rw [String.intercalate_nil]
    decide
  | cons part parts ih =>
    obtain ⟨hpart, hparts⟩ := List.forall_mem_cons.mp h
    cases parts with
    | nil => simpa using hpart
    | cons next parts =>
      rw [String.intercalate_cons_cons, isSingleLine_append, isSingleLine_append]
      exact ⟨⟨hpart, hseparator⟩, ih hparts⟩

private theorem eq_of_line_eq {line line' rest rest' : String} (h : IsSingleLine line)
    (h' : IsSingleLine line') (heq : line ++ "\n" ++ rest = line' ++ "\n" ++ rest') :
    line = line' ∧ rest = rest' := by
  have hchars : line.toList ++ '\n' :: rest.toList = line'.toList ++ '\n' :: rest'.toList := by
    simpa using congrArg String.toList heq
  obtain ⟨hline, hrest⟩ := eq_of_append_cons_eq h h' hchars
  exact ⟨String.toList_inj.mp hline, String.toList_inj.mp hrest⟩

private theorem not_mem_toDigits {c : Char} (h : c.isDigit = false) (n : Nat) :
    c ∉ Nat.toDigits 10 n := by
  intro hmem
  rw [Nat.isDigit_of_mem_toDigits (by decide) (by decide) hmem] at h
  cases h

private theorem eq_of_toDigits_eq {m n : Nat} (h : Nat.toDigits 10 m = Nat.toDigits 10 n) :
    m = n := by
  rw [← Nat.ofDigitChars_ten_toDigits (n := m), h, Nat.ofDigitChars_ten_toDigits]

end Text

namespace Hex

private theorem isSingleLine_numeral (width n : Nat) : Text.IsSingleLine (numeral width n) := by
  rw [numeral, Text.isSingleLine_append]
  refine ⟨by decide, ?_⟩
  intro hbreak
  rw [String.toList_ofList] at hbreak
  exact forall_mem_digits (motive := fun c => c ≠ '\n') (by decide) width n _ hbreak rfl

private theorem eq_of_octet_numeral_eq {x y : UInt8} (h : numeral 2 x.toNat = numeral 2 y.toNat) :
    x = y :=
  UInt8.toNat_inj.mp (eq_of_numeral_eq x.toNat_lt y.toNat_lt h)

end Hex

open Text (IsSingleLine)

private theorem isSingleLine_describeBits {value : UInt8} {table : List (UInt8 × String)}
    (h : ∀ row ∈ table, IsSingleLine row.2) : IsSingleLine (describeBits value table) := by
  have hlisted : ∀ names : List String, (∀ name ∈ names, IsSingleLine name) →
      IsSingleLine (if names.isEmpty then "NONE" else " ".intercalate names) := by
    intro names hnames
    split
    · decide
    · exact Text.isSingleLine_intercalate (by decide) hnames
  simp only [describeBits, Text.isSingleLine_append]
  refine ⟨⟨⟨hlisted _ ?_, by decide⟩, Hex.isSingleLine_numeral 2 value.toNat⟩, by decide⟩
  intro name hname
  obtain ⟨row, hrow, rfl⟩ := List.mem_map.mp hname
  exact h row (List.mem_filter.mp hrow).1

/-- The bits stand at the end, in as many characters for all of them. -/
theorem eq_of_describeBits_eq {x y : UInt8} {table : List (UInt8 × String)}
    (h : describeBits x table = describeBits y table) : x = y := by
  rw [describeBits, describeBits, String.append_left_inj] at h
  have hchars := congrArg String.toList h
  simp only [String.toList_append] at hchars
  have hlength : ∀ z : UInt8, (Hex.numeral 2 z.toNat).toList.length = 4 := fun z =>
    String.length_toList.trans (Hex.length_numeral 2 z.toNat)
  have hnumeral := (List.append_inj' hchars ((hlength x).trans (hlength y).symm)).2
  exact Hex.eq_of_octet_numeral_eq (String.toList_inj.mp hnumeral)

namespace Field

def names : Field → List String
  | .choice _ choices => choices.map Choice.name
  | .features table => table.map Feature.name
  | .rateCode _ | .version | .reserved => []

end Field

namespace Entry

private theorem toList_text_rateCode (rates : List Nat) (code : UInt8) :
    (Entry.mk (.rateCode rates) code).text.toList =
      Nat.toDigits 10 (rates.getD code.toNat 0 / 1000) ++ ' ' ::
        ("kbit/s (code ".toList ++ (Nat.toDigits 10 code.toNat ++ [')'])) := by
  simp [text, toString, Nat.toList_repr]

private theorem isSingleLine_text {field : Field} {value : UInt8}
    (h : ∀ name ∈ field.names, IsSingleLine name) : IsSingleLine (Entry.mk field value).text := by
  cases field with
  | choice setting choices =>
    apply isSingleLine_describeBits
    intro row hrow
    obtain ⟨choice, hchoice, rfl⟩ := List.mem_map.mp hrow
    exact h _ (List.mem_map_of_mem hchoice)
  | rateCode rates =>
    have hdigits := Text.not_mem_toDigits (c := '\n') (by decide)
    rw [IsSingleLine, toList_text_rateCode]
    simp [hdigits]
  | version => exact Hex.isSingleLine_numeral 2 value.toNat
  | features table =>
    apply isSingleLine_describeBits
    intro row hrow
    obtain ⟨feature, hfeature, rfl⟩ := List.mem_map.mp hrow
    exact h _ (List.mem_map_of_mem hfeature)
  | reserved => exact nofun

/-- The value can be told from the text. -/
theorem eq_of_text_eq {field : Field} {x y : UInt8} (hfield : field ≠ .reserved)
    (h : (Entry.mk field x).text = (Entry.mk field y).text) : x = y := by
  cases field with
  | choice setting choices => exact eq_of_describeBits_eq h
  | rateCode rates =>
    have hchars := congrArg String.toList h
    rw [toList_text_rateCode, toList_text_rateCode] at hchars
    have hdigits := Text.not_mem_toDigits (c := ' ') (by decide)
    -- what is behind the first blank is the same up to the code
    have hcode := (Text.eq_of_append_cons_eq (hdigits _) (hdigits _) hchars).2
    rw [List.append_cancel_left_eq, List.append_cancel_right_eq] at hcode
    exact UInt8.toNat_inj.mp (Text.eq_of_toDigits_eq hcode)
  | version => exact Hex.eq_of_octet_numeral_eq h
  | features table => exact eq_of_describeBits_eq h
  | reserved => exact absurd rfl hfield

private theorem exists_line_eq {field : Field} (hfield : field ≠ .reserved) :
    ∃ label, ∀ value, (Entry.mk field value).line =
      "\t" ++ label ++ ": " ++ (Entry.mk field value).text ++ "\n" := by
  cases field with
  | choice setting choices => exact ⟨_, fun value => rfl⟩
  | rateCode rates => exact ⟨_, fun value => rfl⟩
  | version => exact ⟨_, fun value => rfl⟩
  | features table => exact ⟨_, fun value => rfl⟩
  | reserved => exact absurd rfl hfield

/-- The line of a field tells its value, unless it is reserved, and where the next one starts. -/
theorem eq_of_line_append_eq {field : Field} {x y : UInt8} {rest rest' : String}
    (hnames : ∀ name ∈ field.names, IsSingleLine name)
    (h : (Entry.mk field x).line ++ rest = (Entry.mk field y).line ++ rest') :
    (Entry.mk field x).cleared = (Entry.mk field y).cleared ∧ rest = rest' := by
  by_cases hfield : field = .reserved
  · subst hfield
    exact ⟨rfl, by simpa [line, label?] using h⟩
  · obtain ⟨label, hline⟩ := exists_line_eq hfield
    have hlines : (Entry.mk field x).text ++ "\n" ++ rest =
        (Entry.mk field y).text ++ "\n" ++ rest' := by
      apply (String.append_right_inj ("\t" ++ label ++ ": ")).mp
      simpa only [hline, String.append_assoc] using h
    obtain ⟨htext, hrest⟩ := Text.eq_of_line_eq (isSingleLine_text hnames)
      (isSingleLine_text hnames) hlines
    rw [eq_of_text_eq hfield htext]
    exact ⟨rfl, hrest⟩

end Entry

namespace Settings

private theorem text_cons (entry : Entry) (settings : Settings) :
    text (entry :: settings) = entry.line ++ text settings := by
  simp [text, String.join_cons]

/-- Settings of the same fields have one description exactly if they agree but for what is
reserved. -/
theorem text_eq_iff {s t : Settings} (hfields : s.map Entry.field = t.map Entry.field)
    (hnames : ∀ entry ∈ s, ∀ name ∈ entry.field.names, IsSingleLine name) :
    s.text = t.text ↔ s.cleared = t.cleared := by
  constructor
  · intro h
    induction s generalizing t with
    | nil =>
      rw [List.map_eq_nil_iff.mp hfields.symm]
    | cons entry s ih =>
      cases t with
      | nil => cases hfields
      | cons other t =>
        obtain ⟨field, x⟩ := entry
        obtain ⟨field', y⟩ := other
        obtain ⟨hfield, htail⟩ := List.cons.inj hfields
        obtain ⟨hentry, hrest⟩ := List.forall_mem_cons.mp hnames
        cases hfield
        rw [text_cons, text_cons] at h
        obtain ⟨hfirst, hlines⟩ := Entry.eq_of_line_append_eq hentry h
        exact List.cons_eq_cons.mpr ⟨hfirst, ih htail hrest hlines⟩
  · intro h
    rw [← text_cleared s, h, text_cleared]

end Settings

namespace Layout

variable {layout : Layout} {octets other : Octets}

private theorem entries_take (layout : Layout) (octets : Octets) :
    layout.entries (octets.take layout.length) = layout.entries octets := by
  induction layout generalizing octets with
  | nil => rfl
  | cons fields layout ih =>
    cases octets with
    | nil => rfl
    | cons x octets => simp only [List.length_cons, List.take_succ_cons, entries_cons, ih]

private theorem text_entries_eq_iff
    (hnames : ∀ fields ∈ layout, ∀ field ∈ fields, ∀ name ∈ field.names, IsSingleLine name)
    (hlength : layout.length ≤ octets.length) (hother : layout.length ≤ other.length) :
    (layout.entries octets).text = (layout.entries other).text ↔
      (layout.entries octets).cleared = (layout.entries other).cleared := by
  apply Settings.text_eq_iff
  · rw [map_field_entries hlength, map_field_entries hother]
  · intro entry hentry
    have hfield : entry.field ∈ layout.flatten := by
      rw [← map_field_entries hlength]
      exact List.mem_map_of_mem hentry
    obtain ⟨fields, hfields, hmem⟩ := List.mem_flatten.mp hfield
    exact hnames fields hfields entry.field hmem

/-- Normal forms say the same exactly if what is normalised does, reserved octets apart. -/
theorem entries_normalise_eq_iff (htidy : layout.IsTidy)
    (hadmits : layout.Admits .capability octets) (hother : layout.Admits .capability other)
    (hlength : layout.length ≤ octets.length) (hlengthOther : layout.length ≤ other.length) :
    layout.entries (layout.normalise octets).2 = layout.entries (layout.normalise other).2 ↔
      (layout.entries octets).cleared = (layout.entries other).cleared := by
  constructor
  · intro h
    rw [← cleared_entries_normalise htidy hadmits, h, cleared_entries_normalise htidy hother]
  · intro h
    have htake := (take_normalise_eq_iff htidy hadmits hother hlength hlengthOther).mpr h
    rw [← entries_take, htake, entries_take]

end Layout

namespace Codec

private theorem isSingleLine_names (c : Codec) :
    ∀ fields ∈ c.profile.layout, ∀ field ∈ fields, ∀ name ∈ field.names, IsSingleLine name := by
  cases c <;> decide

private theorem isSingleLine_name (c : Codec) : IsSingleLine c.name := by
  cases c <;> decide

private theorem ofName?_name (c : Codec) : ofName? c.name = some c := by
  cases c <;> decide

private theorem eq_of_name_eq {c d : Codec} (h : c.name = d.name) : c = d := by
  have hfound := c.ofName?_name
  rw [h, d.ofName?_name] at hfound
  exact (Option.some.inj hfound).symm

private theorem localSource_mem_playedRoles (c : Codec) : Role.localSource ∈ c.playedRoles := by
  cases c <;> decide

private theorem exists_first_ne_tab (c : Codec) :
    ∃ first rest, c.name.toList = first :: rest ∧ first ≠ '\t' := by
  cases c <;> exact ⟨_, _, rfl, by decide⟩

end Codec

namespace Registry

variable {scmsT : Bool} {c d : Codec} {a b : Octets}

private theorem describe_of_key (hkey : Header.key b = .ok c.profile.key) :
    ((builtin scmsT).describe b).value = c.profile.describe b := by
  unfold describe
  rw [value_ask, familyOf_builtin_of_key hkey]
  rfl

private theorem describe_of_isValid (hkey : Header.key b = .ok c.profile.key)
    (hvalid : c.profile.isValid b = true) :
    ((builtin scmsT).describe b).value = "\tname: " ++ c.name ++ "\n" ++
      (c.profile.layout.entries (b.drop Header.size)).text := by
  rw [describe_of_key hkey, Profile.describe, Profile.readAny_eq_read_capability,
    Profile.read_of_isValid hvalid]
  rfl

private theorem describe_of_not_isValid (hkey : Header.key b = .ok c.profile.key)
    (hvalid : c.profile.isValid b = false) :
    ∃ cause : Error, ((builtin scmsT).describe b).value =
      c.name ++ " parse failed: " ++ cause.message := by
  rw [describe_of_key hkey, Profile.describe]
  unfold Profile.isValid at hvalid
  cases hread : c.profile.readAny b with
  | ok settings =>
    rw [hread] at hvalid
    cases hvalid
  | error cause => exact ⟨cause, rfl⟩

private theorem describe_of_unknown (h : (builtin scmsT).familyOf b = none) :
    ∃ rest, ((builtin scmsT).describe b).value = "Unsupported codec" ++ rest := by
  unfold describe
  rw [value_ask, h, Option.elim_none, unsupportedText]
  cases Header.key b with
  | ok key =>
    have hstart : "Unsupported codec vendor_id: " = "Unsupported codec" ++ " vendor_id: " := by
      decide
    simp only [hstart, String.append_assoc]
    exact ⟨_, rfl⟩
  | error cause =>
    have hstart : "Unsupported codec: " = "Unsupported codec" ++ ": " := by decide
    simp only [hstart, String.append_assoc]
    exact ⟨_, rfl⟩

private theorem configEquals_adjusted_iff_of_key (ha : Header.key a = .ok c.profile.key)
    (hb : Header.key b = .ok c.profile.key) (hva : c.profile.isValid a = true)
    (hvb : c.profile.isValid b = true) :
    ((builtin scmsT).configEquals ((builtin scmsT).adjust a).value.2
        ((builtin scmsT).adjust b).value.2).value = true ↔
      (c.profile.layout.entries (a.drop Header.size)).cleared =
        (c.profile.layout.entries (b.drop Header.size)).cleared := by
  obtain ⟨hca, hadmitsa⟩ := Profile.isValid_iff.mp hva
  obtain ⟨hcb, hadmitsb⟩ := Profile.isValid_iff.mp hvb
  have hkey : ∀ {d : Octets}, Header.key d = .ok c.profile.key →
      Header.key (c.profile.adjust d).2 = .ok c.profile.key :=
    fun hd => (c.profile.agree_adjust _).key.trans hd
  rw [value_adjust_builtin_of_key ha, value_adjust_builtin_of_key hb,
    configEquals_builtin_iff_of_key (hkey ha) (hkey hb)
      (Profile.isValid_adjust c.isTidy_layout hva) (Profile.isValid_adjust c.isTidy_layout hvb),
    Profile.drop_adjust hca, Profile.drop_adjust hcb,
    Layout.entries_normalise_eq_iff c.isTidy_layout hadmitsa hadmitsb
      (Profile.length_layout_le_of_check hca) (Profile.length_layout_le_of_check hcb)]

private theorem describe_eq_iff_of_key (ha : Header.key a = .ok c.profile.key)
    (hb : Header.key b = .ok c.profile.key) (hva : c.profile.isValid a = true)
    (hvb : c.profile.isValid b = true) :
    ((builtin scmsT).describe a).value = ((builtin scmsT).describe b).value ↔
      (c.profile.layout.entries (a.drop Header.size)).cleared =
        (c.profile.layout.entries (b.drop Header.size)).cleared := by
  rw [describe_of_isValid ha hva, describe_of_isValid hb hvb, String.append_right_inj,
    Layout.text_entries_eq_iff c.isSingleLine_names
      (Profile.length_layout_le_of_check (Profile.isValid_iff.mp hva).1)
      (Profile.length_layout_le_of_check (Profile.isValid_iff.mp hvb).1)]

/-- The first line tells the codec. -/
theorem eq_of_describe_eq (ha : Header.key a = .ok c.profile.key)
    (hb : Header.key b = .ok d.profile.key) (hva : c.profile.isValid a = true)
    (hvb : d.profile.isValid b = true)
    (h : ((builtin scmsT).describe a).value = ((builtin scmsT).describe b).value) : c = d := by
  rw [describe_of_isValid ha hva, describe_of_isValid hb hvb] at h
  have hline : ∀ e : Codec, IsSingleLine ("\tname: " ++ e.name) := fun e =>
    Text.isSingleLine_append.mpr ⟨by decide, e.isSingleLine_name⟩
  have hname := (Text.eq_of_line_eq (hline c) (hline d) h).1
  exact Codec.eq_of_name_eq ((String.append_right_inj "\tname: ").mp hname)

private theorem eq_of_configEquals_adjusted (ha : Header.key a = .ok c.profile.key)
    (hb : Header.key b = .ok d.profile.key)
    (h : ((builtin scmsT).configEquals ((builtin scmsT).adjust a).value.2
      ((builtin scmsT).adjust b).value.2).value = true) : c = d := by
  obtain ⟨e, s, hsa, hsb⟩ := configEquals_iff.mp h
  have hcodec : ∀ {f : Codec} {x : Octets}, Header.key x = .ok f.profile.key →
      (builtin scmsT).Says e s ((builtin scmsT).adjust x).value.2 → f = e := by
    intro f x hkey hstated
    rw [← ((builtin scmsT).isAdjustment_adjust x).agree.key] at hkey
    have hfamily := hstated.family
    rw [familyOf_builtin_of_key hkey] at hfamily
    simpa using hfamily
  rw [hcodec ha hsa, hcodec hb hsb]

private theorem exists_codec_of_isValidFor {role : Role}
    (h : ((builtin scmsT).isValidFor role b).value = true) :
    ∃ c : Codec, Header.key b = .ok c.profile.key ∧ c.profile.isValid b = true := by
  obtain ⟨family, hfamily, -⟩ := isValidFor_iff.mp h
  obtain ⟨c, -, hkey⟩ := familyOf_builtin_eq_some_iff.mp hfamily
  exact ⟨c, hkey, ((isValidFor_builtin_iff_of_key hkey).mp h).2⟩

private theorem isValidFor_localSource_iff_of_key (hkey : Header.key b = .ok c.profile.key) :
    ((builtin scmsT).isValidFor .localSource b).value = true ↔ c.profile.isValid b = true := by
  rw [isValidFor_builtin_iff_of_key hkey]
  exact and_iff_right c.localSource_mem_playedRoles

private theorem describe_of_not_isValidFor
    (h : ((builtin scmsT).isValidFor .localSource b).value = false) :
    (∃ (c : Codec) (rest : String), Header.key b = .ok c.profile.key ∧
      ((builtin scmsT).describe b).value = c.name ++ " parse failed: " ++ rest) ∨
    ((∀ c : Codec, Header.key b ≠ .ok c.profile.key) ∧
      ∃ rest, ((builtin scmsT).describe b).value = "Unsupported codec" ++ rest) := by
  cases hfamily : (builtin scmsT).familyOf b with
  | none =>
    refine .inr ⟨?_, describe_of_unknown hfamily⟩
    intro c hkey
    cases hfamily.symm.trans (familyOf_builtin_of_key hkey)
  | some family =>
    obtain ⟨c, -, hkey⟩ := familyOf_builtin_eq_some_iff.mp hfamily
    have hcodec : c.profile.isValid b = false := by
      rw [Bool.eq_false_iff] at h ⊢
      rwa [ne_eq, isValidFor_localSource_iff_of_key hkey] at h
    obtain ⟨cause, hcause⟩ := describe_of_not_isValid hkey hcodec
    exact .inl ⟨c, cause.message, hkey, hcause⟩

private theorem describe_ne_name_line
    (h : ((builtin scmsT).isValidFor .localSource b).value = false)
    (rest : String) : ((builtin scmsT).describe b).value ≠ "\tname: " ++ rest := by
  intro hline
  rcases describe_of_not_isValidFor h with ⟨c, cause, -, hcause⟩ | ⟨-, text, htext⟩
  · obtain ⟨first, tail, hname, hfirst⟩ := c.exists_first_ne_tab
    have hchars := congrArg String.toList (hcause.symm.trans hline)
    rw [String.toList_append, String.toList_append, String.toList_append, hname] at hchars
    exact hfirst (List.cons.inj hchars).1
  · have hchars := congrArg String.toList (htext.symm.trans hline)
    simp at hchars

/-- A description starts with the name line exactly if the buffer is valid, and says otherwise what
is wrong. Those of two valid buffers are the same exactly if their adjusted forms say the same. -/
theorem describe_faithful (scmsT : Bool) (b : Octets) :
    let r := builtin scmsT
    ((∃ rest, (r.describe b).value = "\tname: " ++ rest) ↔
      (r.isValidFor .localSource b).value = true) ∧
    ((r.isValidFor .localSource b).value = false →
      (∃ (c : Codec) (rest : String), Header.key b = .ok c.profile.key ∧
        (r.describe b).value = c.name ++ " parse failed: " ++ rest) ∨
      ((∀ c : Codec, Header.key b ≠ .ok c.profile.key) ∧
        ∃ rest, (r.describe b).value = "Unsupported codec" ++ rest)) ∧
    (∀ a, (r.isValidFor .localSource a).value = true →
      (r.isValidFor .localSource b).value = true →
      ((r.describe a).value = (r.describe b).value ↔
        (r.configEquals (r.adjust a).value.2 (r.adjust b).value.2).value = true)) := by
  intro r
  refine ⟨⟨?_, ?_⟩, describe_of_not_isValidFor, ?_⟩
  · rintro ⟨rest, hrest⟩
    cases hvalid : (r.isValidFor .localSource b).value with
    | true => rfl
    | false => exact absurd hrest (describe_ne_name_line hvalid rest)
  · intro hvalid
    obtain ⟨c, hkey, hcodec⟩ := exists_codec_of_isValidFor hvalid
    refine ⟨c.name ++ "\n" ++ (c.profile.layout.entries (b.drop Header.size)).text, ?_⟩
    rw [describe_of_isValid hkey hcodec]
    simp only [String.append_assoc]
  · intro a ha hb
    obtain ⟨c, hkeya, hva⟩ := exists_codec_of_isValidFor ha
    obtain ⟨d, hkeyb, hvb⟩ := exists_codec_of_isValidFor hb
    -- neither side holds for two codecs; for one, both compare what is read and not reserved
    by_cases hcodec : c = d
    · subst hcodec
      rw [describe_eq_iff_of_key hkeya hkeyb hva hvb,
        configEquals_adjusted_iff_of_key hkeya hkeyb hva hvb]
    · exact iff_of_false (fun h => hcodec (eq_of_describe_eq hkeya hkeyb hva hvb h))
        (fun h => hcodec (eq_of_configEquals_adjusted hkeya hkeyb h))

end Registry

end A2dp
