/-
  Settings that are accepted are valid, and survive being written.

  Settings are written as YAML, line by line, and as JSON, on one line in braces.  Both are read by
  one reader, and what it reads does not depend on the layout (`IsSettings.read`); the YAML half is
  `Settings.parse_toYamlText`.

  1. **JSON objects of names are mappings in braces** (`Json.isWrittenAs_object`).  Strings are
     escaped in JSON and in YAML by different rules, and a name is written as it is by both.

  2. **The JSON text** (`Settings.toList_toJsonText`) is short enough for a scan that keeps all
     tokens back, since a limit of 64 bits has at most twenty digits (`length_flowEntries`).

  3. **The limit that a text sets** fits into 64 bits (`preserves_fits`), so what is accepted is
     among the settings that survive (`maxDepth_of_parse`).
-/
import SampleSchema.Proofs.FlowMapping
import SampleSchema.Proofs.SettingsText

namespace SampleSchema

open Yaml

/-! ## JSON values as texts between brackets -/

namespace Json

/-- On one line the value is written as this text. -/
def IsWrittenAs (v : Json) (t : FlowText) : Prop := ∀ depth, v.chars .compact depth = t.chars

/-- The key is made of characters of names, and the value is written as the one of the entry. -/
structure EntryIsWrittenAs (p : String × Json) (e : FlowEntry) : Prop where
  key : p.1.toList = e.key
  name : ∀ c ∈ e.key, isNameChar c = true
  value : p.2.IsWrittenAs e.value

theorem escapedChar_of_isNameChar {c : Char} (hc : isNameChar c = true) : escapedChar c = [c] := by
  have hne : ∀ {d : Char}, isNameChar d = false → c ≠ d := fun hd => ne_of_isNameChar hc hd
  have hcontrol : ¬ c < ' ' := by
    have hprinted := isPrinted_of_isNameChar hc
    simp only [isPrinted, hne (d := '\n') (by decide), decide_false, Bool.false_or,
      Bool.and_eq_true, decide_eq_true_eq] at hprinted
    exact Char.not_lt.mpr hprinted.1
  rw [escapedChar, if_neg (hne (by decide)), if_neg (hne (by decide)), if_neg (hne (by decide)),
    if_neg (hne (by decide)), if_neg (hne (by decide)), if_neg (hne (by decide)),
    if_neg (hne (by decide)), if_neg hcontrol]

/-- A name is written as it is. -/
theorem stringChars_of_isNameChar {s : String} (hs : ∀ c ∈ s.toList, isNameChar c = true) :
    stringChars s = '"' :: (s.toList ++ ['"']) := by
  have hsame : ∀ cs : List Char, (∀ c ∈ cs, isNameChar c = true) → cs.flatMap escapedChar = cs := by
    intro cs hcs
    induction cs with
    | nil => rfl
    | cons c cs ih =>
      rw [List.flatMap_cons, escapedChar_of_isNameChar (hcs c List.mem_cons_self),
        ih fun d hd => hcs d (List.mem_cons_of_mem _ hd), List.singleton_append]
  rw [stringChars, hsame _ hs, List.cons_append]

theorem isWrittenAs_bool (b : Bool) : (bool b).IsWrittenAs (.word (Settings.boolWord b)) := by
  intro depth
  cases b <;> rfl

theorem isWrittenAs_whole (n : Nat) :
    (number (.whole n)).IsWrittenAs (.word (Nat.toDigits 10 n)) := by
  intro depth
  show (String.ofList (Nat.toDigits 10 n)).toList = Nat.toDigits 10 n
  rw [String.toList_ofList]

theorem EntryIsWrittenAs.chars {p : String × Json} {e : FlowEntry} (h : EntryIsWrittenAs p e)
    (depth : Nat) : stringChars p.1 ++ Layout.compact.colon ++ p.2.chars .compact depth = e.chars := by
  obtain ⟨hkey, hname, hvalue⟩ := h
  rw [stringChars_of_isNameChar (hkey ▸ hname), hkey, hvalue]
  simp [Layout.colon, FlowEntry.chars]

/-- Entries behind the first one. -/
theorem charsEntries_eq {ps : List (String × Json)} {es : List FlowEntry}
    (h : List.Forall₂ EntryIsWrittenAs ps es) (depth : Nat) :
    charsEntries .compact depth ps = FlowEntry.moreChars es := by
  induction h with
  | nil => rfl
  | @cons p e ps es hfirst _ ih =>
    obtain ⟨k, v⟩ := p
    have hentry := hfirst.chars depth
    rw [charsEntries, FlowEntry.moreChars_cons, ih, ← hentry]
    simp [Layout.newline]

/-- **An object of names is written as a mapping in braces.** -/
theorem isWrittenAs_object {ps : List (String × Json)} {b : FlowEntries}
    (h : List.Forall₂ EntryIsWrittenAs ps (b.first :: b.more)) :
    (object ps).IsWrittenAs (.mapping b) := by
  intro depth
  obtain ⟨first, more⟩ := b
  rcases h with _ | @⟨⟨k, v⟩, _, ps, _, hfirst, hmore⟩
  have hentry := hfirst.chars (depth + 1)
  have hothers := charsEntries_eq hmore (depth + 1)
  rw [chars, hothers]
  simp only [FlowText.mapping, FlowEntries.bracedChars, FlowEntries.chars, ← hentry]
  simp [Layout.newline]

end Json

namespace Settings

/-! ## Settings as JSON -/

/-- The entry of a switch, in braces. -/
def flowSwitch (t : Toggles) (f : Format) : FlowEntry :=
  ⟨f.name.toList, .word (boolWord (f.enabled t))⟩

/-- The entries of all switches. -/
def flowSwitches (t : Toggles) : FlowEntries :=
  ⟨flowSwitch t .uri, [.email, .date, .dateTime].map (flowSwitch t)⟩

/-- The entries of settings. -/
def flowEntries (s : Settings) : FlowEntries :=
  ⟨⟨Key.maxDepth.name.toList, .word (Nat.toDigits 10 s.maxDepth)⟩,
    [⟨Key.formats.name.toList, .mapping (flowSwitches s.formats)⟩]⟩

theorem valid_flowSwitch (t : Toggles) (f : Format) : (flowSwitch t f).Valid :=
  ⟨(word_format f).1.chars, FlowText.valid_word (word_boolWord _)⟩

theorem valid_flowSwitches (t : Toggles) : (flowSwitches t).Valid where
  first := valid_flowSwitch t .uri
  more := by
    intro e he
    obtain ⟨f, _, rfl⟩ := List.mem_map.mp he
    exact valid_flowSwitch t f

theorem valid_flowEntries (s : Settings) : s.flowEntries.Valid where
  first := ⟨(word_key .maxDepth).1.chars, FlowText.valid_word (word_toDigits _)⟩
  more := List.forall_mem_singleton.mpr
    ⟨(word_key .formats).1.chars, FlowText.valid_mapping (valid_flowSwitches _)⟩

/-- The JSON text says what the entries are. -/
theorem toList_toJsonText (s : Settings) : s.toJsonText.toList = s.flowEntries.bracedChars := by
  have hswitch : ∀ f : Format, Json.EntryIsWrittenAs (f.name, .bool (f.enabled s.formats))
      (flowSwitch s.formats f) :=
    fun f => ⟨rfl, (word_format f).1.chars, Json.isWrittenAs_bool _⟩
  have hswitches : (Json.object (s.formats.entries.map fun e => (e.1, .bool e.2))).IsWrittenAs
      (.mapping (flowSwitches s.formats)) :=
    Json.isWrittenAs_object (.cons (hswitch .uri) (.cons (hswitch .email)
      (.cons (hswitch .date) (.cons (hswitch .dateTime) .nil))))
  have hall : s.toJson.IsWrittenAs (.mapping s.flowEntries) :=
    Json.isWrittenAs_object
      (.cons ⟨rfl, (word_key .maxDepth).1.chars, Json.isWrittenAs_whole s.maxDepth⟩
        (.cons ⟨rfl, (word_key .formats).1.chars, hswitches⟩ .nil))
  rw [toJsonText, Json.write, String.toList_ofList]
  exact hall 0

theorem length_flowSwitches (t : Toggles) : (flowSwitches t).bracedChars.length ≤ 73 := by
  have hswitch : ∀ f, (flowSwitch t f).chars.length ≤ 17 := by
    intro f
    have hname : f.name.toList.length ≤ 9 := by cases f <;> decide
    have hword : (boolWord (f.enabled t)).length ≤ 5 := by cases f.enabled t <;> decide
    simp only [flowSwitch, FlowEntry.chars, FlowText.word, List.length_cons, List.length_append]
    omega
  have huri := hswitch .uri
  have hemail := hswitch .email
  have hdate := hswitch .date
  have hdateTime := hswitch .dateTime
  simp only [flowSwitches, FlowEntries.bracedChars, FlowEntries.chars, FlowEntry.moreChars,
    List.map_cons, List.map_nil, List.flatMap_cons, List.flatMap_nil, List.length_cons,
    List.length_append, List.length_nil]
  omega

/-- The JSON text is far shorter than a key may be. -/
theorem length_flowEntries {s : Settings} (hs : s.maxDepth < Nat.pow 2 64) :
    s.flowEntries.bracedChars.length ≤ longestKey := by
  have hdigits : (Nat.toDigits 10 s.maxDepth).length ≤ 20 :=
    (Nat.length_toDigits_le_iff (by decide) (by decide)).mpr (Nat.lt_trans hs (by decide))
  have hkey : ∀ k : Key, k.name.toList.length ≤ 9 := by
    intro k
    cases k <;> decide
  have hdepth := hkey .maxDepth
  have hformats := hkey .formats
  have hswitches := length_flowSwitches s.formats
  have hlongest : longestKey = 1024 := rfl
  rw [hlongest]
  simp only [flowEntries, FlowEntries.bracedChars, FlowEntries.chars, FlowEntry.moreChars,
    FlowEntry.chars, FlowText.word, FlowText.mapping, List.flatMap_cons, List.flatMap_nil,
    List.length_cons, List.length_append, List.length_nil] at hswitches ⊢
  omega

/-! ## Reading the JSON text back -/

theorem isSwitches_flow (t : Toggles) (column : Nat) :
    IsSwitches t ((flowSwitches t).bracedNodes column) := by
  obtain ⟨rows, hrows, hall⟩ := (flowSwitches t).nodes_eq_flatten (column + 1)
  refine ⟨_, rows, _, by rw [FlowEntries.bracedNodes, hrows], ?_⟩
  have hall' : List.Forall₂ (fun e nodes => ∃ column, nodes = FlowEntry.nodes column e)
      (Format.all.map (flowSwitch t)) rows := hall
  refine (List.forall₂_map_left_iff.mp hall').imp ?_
  rintro f _ ⟨column, rfl⟩
  exact ⟨.quoted, _, _, rfl⟩

theorem isSettings_flow (s : Settings) : IsSettings s (s.flowEntries.bracedNodes 0) :=
  ⟨.start, .quoted, ⟨0, 1⟩, ⟨0, s.flowEntries.first.valueColumn 1⟩,
    ⟨0, 1 + s.flowEntries.first.chars.length + 1⟩, _, s.flowEntries.closing 0, rfl,
    isSwitches_flow s.formats _⟩

/-- **Settings are read back from their JSON text**, be they valid or not. -/
theorem read_toJsonText {s : Settings} (hs : s.maxDepth < Nat.pow 2 64) :
    read s.toJsonText = .ok s :=
  read_of_isSettings
    ((valid_flowEntries s).ofText (toList_toJsonText s) (length_flowEntries hs))
    (isSettings_flow s) hs

theorem parse_toJsonText {s : Settings} (hs : s.maxDepth < Nat.pow 2 64) :
    parse s.toJsonText = s.validate := by
  rw [parse, read_toJsonText hs]

/-! ## Settings that are accepted -/

/-- No entry of a text sets a limit that does not fit into 64 bits. -/
theorem preserves_fits (d : Document) :
    settingsType.Preserves d fun s => s.maxDepth < Nat.pow 2 64 := by
  intro k s t path nodes rest h hs
  cases k with
  | maxDepth =>
    obtain ⟨⟨n, after⟩, hread, h⟩ := bind_eq_ok_iff.mp h
    cases h
    obtain ⟨text, hspelled⟩ := exists_spelling hread
    exact of_decide_eq_true (Option.filter_eq_some_iff.mp hspelled).2
  | formats =>
    obtain ⟨⟨u, after⟩, _, h⟩ := bind_eq_ok_iff.mp h
    cases h
    exact hs

/-- Settings that are read have a limit that fits. -/
theorem maxDepth_lt_of_read {text : String} {s : Settings} (h : read text = .ok s) :
    s.maxDepth < Nat.pow 2 64 := by
  unfold read at h
  split at h
  · next t heq =>
    cases h
    obtain ⟨⟨u, after⟩, hread, hdocument⟩ := bind_eq_ok_iff.mp heq
    have hu : u.maxDepth < Nat.pow 2 64 := (preserves_fits _).read hread (by decide)
    simp only at hdocument
    split at hdocument
    · cases hdocument
    · split at hdocument
      · cases hdocument
        exact hu
      · cases hdocument
  · cases h

/-- **A limit that is accepted** is at least one, and fits into 64 bits. -/
theorem maxDepth_of_parse {text : String} {t : Settings} (h : parse text = .ok t) :
    1 ≤ t.maxDepth ∧ t.maxDepth ≤ Nat.pow 2 64 - 1 := by
  unfold parse at h
  split at h
  · next s hread =>
    obtain ⟨hpos, rfl⟩ := validate_eq_ok_iff.mp h
    exact ⟨Nat.pos_of_ne_zero hpos, Nat.le_sub_one_of_lt (maxDepth_lt_of_read hread)⟩
  · cases h

/-- **Settings that are accepted are valid, and valid settings survive being written**, as YAML and
    as JSON.  So what a text is accepted as can be written, and is accepted again. -/
theorem accepted_valid_and_restored :
    (∀ text t, parse text = .ok t → 1 ≤ t.maxDepth ∧ t.maxDepth ≤ Nat.pow 2 64 - 1) ∧
    ∀ s : Settings, 1 ≤ s.maxDepth → s.maxDepth ≤ Nat.pow 2 64 - 1 →
      parse s.toYamlText = .ok s ∧ parse s.toJsonText = .ok s := by
  refine ⟨fun _ _ => maxDepth_of_parse, ?_⟩
  intro s hpos hfits
  have hlt : s.maxDepth < Nat.pow 2 64 := Nat.lt_of_le_pred (by decide) hfits
  have hvalid : s.validate = .ok s := validate_eq_ok_iff.mpr ⟨Nat.ne_of_gt hpos, rfl⟩
  exact ⟨(parse_toYamlText hlt).trans hvalid, (parse_toJsonText hlt).trans hvalid⟩

/-- The largest limit there is, with two formats switched off. -/
theorem accepted_valid_and_restored_largest :
    parse (toYamlText ⟨18446744073709551615, ⟨true, false, true, false⟩⟩) =
        .ok ⟨18446744073709551615, ⟨true, false, true, false⟩⟩ ∧
      parse (toJsonText ⟨18446744073709551615, ⟨true, false, true, false⟩⟩) =
        .ok ⟨18446744073709551615, ⟨true, false, true, false⟩⟩ ∧
      1 ≤ 18446744073709551615 ∧ 18446744073709551615 ≤ Nat.pow 2 64 - 1 := by
  obtain ⟨hyaml, hjson⟩ := accepted_valid_and_restored.2
    ⟨18446744073709551615, ⟨true, false, true, false⟩⟩ (by decide) (by decide)
  exact ⟨hyaml, hjson, accepted_valid_and_restored.1 _ _ hjson⟩

end Settings
end SampleSchema
