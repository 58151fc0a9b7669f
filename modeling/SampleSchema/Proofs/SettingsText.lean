/-
  Settings are read back from the text in which they are written.

  The text gives a number to one key, and to the other one a mapping of four switches, so it is a
  `Yaml.Nested` (`toList_toYamlText`), and what is left are its words:

  * A number is written in decimal and read as a scalar that may be many other things.  It is read
    back because its digits spell it (`natOf?_toDigits`) and because a scalar with a zero in front
    would be something else: only zero itself has one (`eq_nil_of_toDigits`).
  * A switch is a word for a boolean, under the name of its format.

  Settings are read from these words wherever they stand and however the keys are quoted
  (`IsSettings.read`).  Reading asks for no more than that the limit fits into 64 bits
  (`read_toYamlText`).  A limit of zero is read too; that it is refused comes after reading
  (`parse_toYamlText`).
-/
import SampleSchema.Format
import SampleSchema.Proofs.BlockMapping
import SampleSchema.Settings.Reader
import SampleSchema.Settings.Writer

namespace SampleSchema

/-! ## Digits -/

theorem digitValue?_digitChar : ∀ d, d < 10 → digitValue? 10 d.digitChar = some d := by decide

theorem digitsValue?_append (base : Nat) (cs ds : List Char) : ∀ n,
    digitsValue? base n (cs ++ ds) =
      (digitsValue? base n cs).bind fun m => digitsValue? base m ds := by
  induction cs with
  | nil => exact fun _ => rfl
  | cons c cs ih =>
    intro n
    rw [List.cons_append, digitsValue?, digitsValue?]
    cases digitValue? base c with
    | none => rfl
    | some d => exact ih _

/-- The digits of a number spell it. -/
theorem digitsValue?_toDigits (n : Nat) : digitsValue? 10 0 (Nat.toDigits 10 n) = some n := by
  induction n using Nat.strongRecOn with
  | _ n ih =>
    by_cases hn : n < 10
    · rw [Nat.toDigits_of_lt_base hn]
      simp [digitsValue?, digitValue?_digitChar n hn]
    · have hlast : n % 10 < 10 := Nat.mod_lt _ (by decide)
      rw [Nat.toDigits_of_base_le (by decide) (Nat.le_of_not_lt hn), digitsValue?_append,
        ih (n / 10) (by omega)]
      simp only [Option.bind_some, digitsValue?, digitValue?_digitChar _ hlast, Option.some.injEq]
      omega

/-- Only zero has a zero in front. -/
theorem eq_nil_of_toDigits (n : Nat) : ∀ cs, Nat.toDigits 10 n = '0' :: cs → cs = [] := by
  induction n using Nat.strongRecOn with
  | _ n ih =>
    intro cs h
    by_cases hn : n < 10
    · rw [Nat.toDigits_of_lt_base hn] at h
      exact (List.cons.inj h).2.symm
    · rw [Nat.toDigits_of_base_le (by decide) (Nat.le_of_not_lt hn)] at h
      obtain ⟨d, ds, hds⟩ :=
        List.exists_cons_of_ne_nil (Nat.toDigits_ne_nil (n := n / 10) (b := 10))
      rw [hds, List.cons_append] at h
      cases h
      -- the digits in front would be those of zero
      have hnil := ih (n / 10) (by omega) ds hds
      have hvalue := digitsValue?_toDigits (n / 10)
      rw [hds, hnil] at hvalue
      have hzero : 0 = n / 10 := Option.some.inj hvalue
      omega

theorem natOf?_toDigits (n : Nat) : natOf? 10 (Nat.toDigits 10 n) = some n := by
  have hne : (Nat.toDigits 10 n).isEmpty = false := by
    rw [Bool.eq_false_iff]
    exact fun h => Nat.toDigits_ne_nil (List.isEmpty_iff.mp h)
  rw [natOf?, hne]
  exact digitsValue?_toDigits n

theorem isNameChar_of_isDigit {c : Char} (h : c.isDigit = true) : Yaml.isNameChar c = true := by
  simp [Yaml.isNameChar, Char.isAlphanum, h]

theorem isDigit_toDigits {n : Nat} {c : Char} (h : c ∈ Nat.toDigits 10 n) : c.isDigit = true :=
  Nat.isDigit_of_mem_toDigits (by decide) (by decide) h

theorem word_toDigits (n : Nat) : Yaml.Word (Nat.toDigits 10 n) where
  chars c hc := isNameChar_of_isDigit (isDigit_toDigits hc)
  start := by
    obtain ⟨c, cs, h⟩ := List.exists_cons_of_ne_nil (Nat.toDigits_ne_nil (n := n) (b := 10))
    have hc : c.isDigit = true := isDigit_toDigits (h ▸ List.mem_cons_self)
    refine ⟨c, cs, h, ?_⟩
    rintro rfl
    cases hc

/-- **A number is read from its digits.** -/
theorem natural?_toDigits (n : Nat) :
    Yaml.natural? (String.ofList (Nat.toDigits 10 n)) = some n := by
  have hvalue := natOf?_toDigits n
  have hzero := eq_nil_of_toDigits n
  obtain ⟨c, cs, h⟩ := List.exists_cons_of_ne_nil (Nat.toDigits_ne_nil (n := n) (b := 10))
  have hc : c.isDigit = true := isDigit_toDigits (h ▸ List.mem_cons_self)
  rw [h] at hvalue hzero ⊢
  unfold Yaml.natural? Yaml.unsignedValue?
  rw [String.toList_ofList]
  split
  · next heq =>
    cases heq
    cases hc
  · split
    · next heq =>
      -- more digits behind a zero
      cases heq
      cases hzero _ rfl
    · exact hvalue

/-! ## The text of settings -/

namespace Settings

open Yaml

/-- The word for a boolean. -/
def boolWord (b : Bool) : List Char := (if b then "true" else "false").toList

/-- The entry of a switch. -/
def switchEntry (t : Toggles) (f : Format) : WordEntry := ⟨f.name.toList, boolWord (f.enabled t)⟩

/-- The entry of the limit. -/
def depthEntry (n : Nat) : WordEntry := ⟨Key.maxDepth.name.toList, Nat.toDigits 10 n⟩

/-- Settings as words by keys. -/
def nested (s : Settings) : Nested where
  outer := [depthEntry s.maxDepth]
  key := Key.formats.name.toList
  inner := Format.all.map (switchEntry s.formats)

theorem toList_switchLine (t : Toggles) (f : Format) :
    (switchLine (f.name, f.enabled t)).toList = (switchEntry t f).line 2 := by
  cases f <;> simp [switchLine, switchEntry, WordEntry.line, boolWord, List.replicate]

/-- The text says line by line what the entries are. -/
theorem toList_toYamlText (s : Settings) : s.toYamlText.toList = s.nested.text := by
  have hswitches : (String.join (s.formats.entries.map switchLine)).toList =
      (Format.all.map (switchEntry s.formats)).flatMap (·.line 2) := by
    have hentries : s.formats.entries = Format.all.map fun f => (f.name, f.enabled s.formats) := rfl
    rw [hentries, List.map_map, String.toList_join, List.flatMap_map, List.flatMap_map]
    simp only [Function.comp, toList_switchLine]
  rw [toYamlText, String.toList_append, String.toList_append, String.toList_append, hswitches]
  simp [nested, Nested.text, depthEntry, Key.name, WordEntry.line]

-- the settings that hold unless others are set
example : toYamlText {} =
    "max_depth: 256\nformats:\n  uri: true\n  email: true\n  date: true\n  date-time: true\n" := by
  decide +kernel

/-- The names of keys are words, and short ones. -/
theorem word_key (k : Key) : Word k.name.toList ∧ k.name.toList.length ≤ longestKey := by
  cases k <;> exact ⟨⟨List.all_eq_true.mp (by decide), _, _, rfl, by decide⟩, by decide⟩

theorem word_format (f : Format) : Word f.name.toList ∧ f.name.toList.length ≤ longestKey := by
  cases f <;> exact ⟨⟨List.all_eq_true.mp (by decide), _, _, rfl, by decide⟩, by decide⟩

theorem word_boolWord (b : Bool) : Word (boolWord b) := by
  cases b <;> exact ⟨List.all_eq_true.mp (by decide), _, _, rfl, by decide⟩

theorem valid_nested (s : Settings) : s.nested.Valid where
  outer := by
    intro e he
    rw [List.mem_singleton.mp he]
    exact ⟨(word_key .maxDepth).1, word_toDigits s.maxDepth, (word_key .maxDepth).2⟩
  key := (word_key .formats).1
  length := (word_key .formats).2
  inner := by
    intro e he
    obtain ⟨f, _, rfl⟩ := List.mem_map.mp he
    exact ⟨(word_format f).1, word_boolWord _, (word_format f).2⟩
  outer_ne := List.cons_ne_nil _ _
  inner_ne := List.cons_ne_nil _ _

/-! ## Reading settings -/

variable {d : Document} {path : List String} {m : Mark} {rest : List Yaml.Node}

theorem readBoolean_boolWord (b : Bool) :
    readBoolean d path (wordNode (boolWord b) m :: rest) = .ok (b, rest) := by
  refine readSpelled_open (s := ⟨none, .plain, String.ofList (boolWord b)⟩) rfl ?_
  cases b <;> decide

theorem readNatural_toDigits {n : Nat} (hn : n < Nat.pow 2 64) :
    readNatural d path (wordNode (Nat.toDigits 10 n) m :: rest) = .ok (n, rest) := by
  refine readSpelled_open (s := ⟨none, .plain, String.ofList (Nat.toDigits 10 n)⟩) rfl ?_
  rw [natural?_toDigits]
  exact Option.filter_some_pos (decide_eq_true hn)

/-- A scalar that names a key, whatever its style. -/
def keyNode (style : ScalarStyle) (name : String) (m : Mark) : Yaml.Node :=
  ⟨.scalar ⟨none, style, String.ofList name.toList⟩, m⟩

theorem togglesType_key? (f : Format) :
    togglesType.key? (String.ofList f.name.toList) = some f := by
  cases f <;> decide

theorem settingsType_key? (k : Key) :
    settingsType.key? (String.ofList k.name.toList) = some k := by
  cases k <;> decide

/-- An entry of a switch sets it. -/
theorem enters_switch (style : ScalarStyle) (f : Format) (b : Bool) (m m' : Mark) :
    togglesType.Enters d f (setToggle · b f) [keyNode style f.name m, wordNode (boolWord b) m'] := by
  refine ⟨_, m, [wordNode (boolWord b) m'], rfl, togglesType_key? f, ?_⟩
  intro u path rest
  show (readBoolean d path (wordNode (boolWord b) m' :: rest) >>= fun p => _) = _
  rw [readBoolean_boolWord]
  rfl

/-- An entry of the limit sets it. -/
theorem enters_depth (style : ScalarStyle) {n : Nat} (hn : n < Nat.pow 2 64) (m m' : Mark) :
    settingsType.Enters d .maxDepth (fun s => { s with maxDepth := n })
      [keyNode style Key.maxDepth.name m, wordNode (Nat.toDigits 10 n) m'] := by
  refine ⟨_, m, [wordNode (Nat.toDigits 10 n) m'], rfl, settingsType_key? .maxDepth, ?_⟩
  intro s path rest
  show (readNatural d path (wordNode (Nat.toDigits 10 n) m' :: rest) >>= fun p => _) = _
  rw [readNatural_toDigits hn]
  rfl

/-- The nodes of a mapping that holds the switches, one entry for each of them. -/
def IsSwitches (t : Toggles) (nodes : List Yaml.Node) : Prop :=
  ∃ m rows close, nodes = ⟨.mappingStart, m⟩ :: (rows.flatten ++ [⟨.mappingEnd, close⟩]) ∧
    List.Forall₂ (fun f row => ∃ style m m',
      row = [keyNode style (Format.name f) m, wordNode (boolWord (f.enabled t)) m']) Format.all rows

/-- The switches are read as they are. -/
theorem IsSwitches.read {t : Toggles} {nodes : List Yaml.Node} (h : IsSwitches t nodes)
    (u : Toggles) : togglesType.read u d path (nodes ++ rest) = .ok (t, rest) := by
  obtain ⟨m, rows, close, rfl, hrows⟩ := h
  have henters : List.Forall₂ (fun f row =>
      togglesType.Enters d (id f) (fun u => setToggle u (f.enabled t) f) row) Format.all rows := by
    refine hrows.imp ?_
    rintro f _ ⟨style, m, m', rfl⟩
    exact enters_switch style f _ m m'
  rw [List.cons_append, List.append_assoc]
  exact RecordType.read_entries id _ (by decide) henters u close

/-- An entry of the switches sets all of them. -/
theorem enters_formats (style : ScalarStyle) {t : Toggles} {nodes : List Yaml.Node}
    (h : IsSwitches t nodes) (m : Mark) :
    settingsType.Enters d .formats (fun s => { s with formats := t })
      (keyNode style Key.formats.name m :: nodes) := by
  refine ⟨_, m, nodes, rfl, settingsType_key? .formats, ?_⟩
  intro s path rest
  show (togglesType.read {} d path (nodes ++ rest) >>= fun p => _) = _
  rw [h.read]
  rfl

/-- Set what a key stands for as it is in these settings. -/
def restore (s : Settings) : Key → Settings → Settings
  | .maxDepth, u => { u with maxDepth := s.maxDepth }
  | .formats, u => { u with formats := s.formats }

/-- The nodes of a document that holds settings, an entry for the limit and one for the switches. -/
def IsSettings (s : Settings) (nodes : List Yaml.Node) : Prop :=
  ∃ m style m₁ m₂ m₃ switches close, nodes = ⟨.mappingStart, m⟩ ::
      ([[keyNode style Key.maxDepth.name m₁, wordNode (Nat.toDigits 10 s.maxDepth) m₂],
        keyNode style Key.formats.name m₃ :: switches].flatten ++ [⟨.mappingEnd, close⟩]) ∧
    IsSwitches s.formats switches

/-- **Settings are read from their nodes**, however their text is laid out. -/
theorem IsSettings.read {s : Settings} {nodes : List Yaml.Node} (h : IsSettings s nodes)
    (hs : s.maxDepth < Nat.pow 2 64) : settingsType.read {} d path nodes = .ok (s, []) := by
  obtain ⟨m, style, m₁, m₂, m₃, switches, close, rfl, hswitches⟩ := h
  have henters : List.Forall₂ (fun k row => settingsType.Enters d (id k) (s.restore k) row) Key.all
      [[keyNode style Key.maxDepth.name m₁, wordNode (Nat.toDigits 10 s.maxDepth) m₂],
        keyNode style Key.formats.name m₃ :: switches] :=
    .cons (enters_depth style hs m₁ m₂) (.cons (enters_formats style hswitches m₃) .nil)
  exact RecordType.read_entries id _ (by decide) henters {} close

/-- A text whose document holds settings is read as them. -/
theorem read_of_isSettings {s : Settings} {text : String} {nodes : List Yaml.Node}
    (htext : Document.ofText text = ⟨nodes, [], none, true⟩) (h : IsSettings s nodes)
    (hs : s.maxDepth < Nat.pow 2 64) : read text = .ok s := by
  have hread : readText (settingsType.read {}) text = .ok s := by
    unfold readText
    rw [htext]
    show (settingsType.read {} _ [] nodes >>= fun p => _) = _
    rw [h.read hs]
    rfl
  rw [read, hread]

/-! ## Reading the text back -/

theorem isSwitches_nested (s : Settings) : IsSwitches s.formats s.nested.innerNodes := by
  obtain ⟨rows, hrows, hall⟩ := WordEntry.allNodes_eq_flatten 2 s.nested.inner
    (s.nested.outer.length + 1)
  refine ⟨s.nested.innerMark, rows, s.nested.endMark, by rw [Nested.innerNodes, hrows], ?_⟩
  refine (List.forall₂_map_left_iff.mp hall).imp ?_
  rintro f _ ⟨m, rfl⟩
  exact ⟨.plain, m, _, rfl⟩

theorem isSettings_nested (s : Settings) : IsSettings s s.nested.nodes := by
  refine ⟨.start, .plain, ⟨0, 0⟩, (depthEntry s.maxDepth).wordMark ⟨0, 0⟩, s.nested.keyMark,
    s.nested.innerNodes, s.nested.endMark, ?_, isSwitches_nested s⟩
  simp [Nested.nodes, nested, WordEntry.allNodes, WordEntry.nodes, depthEntry, keyNode, wordNode]

/-- **Settings are read back from their text**, be they valid or not. -/
theorem read_toYamlText {s : Settings} (hs : s.maxDepth < Nat.pow 2 64) :
    read s.toYamlText = .ok s :=
  read_of_isSettings ((valid_nested s).ofText (toList_toYamlText s)) (isSettings_nested s) hs

/-- Settings in a text are checked as they are anywhere else. -/
theorem parse_toYamlText {s : Settings} (hs : s.maxDepth < Nat.pow 2 64) :
    parse s.toYamlText = s.validate := by
  rw [parse, read_toYamlText hs]

end Settings
end SampleSchema
