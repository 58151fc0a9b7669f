/-
  When a command has no settings.

  Settings come from a file or are the default ones, and options override them.  They can be
  refused at four points, each with words of its own (`Options.Refused`): the file cannot be read,
  its text holds no settings, they have the limit zero, or the options ask for the limit zero.
  Options cannot make up for what is wrong with the file.  Nothing else is refused
  (`Options.settings_eq_error_iff`, `Options.settings_eq_ok_iff`).

  A text holds no settings for one of three reasons (`Yaml.readText_eq_error_iff`): its nodes are no
  record of settings, it is not YAML up to the end of its document, or another document follows.
  The first two can go together, and then it depends on the nodes which one is told; but what is not
  YAML is refused in any case (`Options.refused_of_problem`).  No text is refused for having too
  many entries (`Settings.readEntries_settings`, `Settings.readEntries_toggles`).
-/
import SampleSchema.Proofs.Records
import SampleSchema.Proofs.Running

namespace SampleSchema

/-! ## Texts -/

/-- Reading a text fails as its nodes do, or by what is wrong behind them. -/
theorem Yaml.readText_eq_error_iff {α : Type} {read : Yaml.Reader α} {text : String}
    {p : Yaml.Problem} :
    Yaml.readText read text = .error p ↔
      let d := Yaml.Document.ofText text
      read d [] d.nodes = .error p ∨ ∃ x, read d [] d.nodes = .ok x ∧
        (d.problem = some p ∨ d.problem = none ∧ d.isOnly = false ∧ .severalDocuments = p) := by
  rw [readText]
  dsimp only
  cases read (Document.ofText text) [] (Document.ofText text).nodes with
  | error q => simp [bind, Except.bind]
  | ok x =>
    cases (Document.ofText text).problem with
    | some q => simp [bind, Except.bind]
    | none => cases (Document.ofText text).isOnly <;> simp [bind, Except.bind]

namespace Settings

variable {text : String}

theorem read_eq_error_iff {detail : String} : read text = .error detail ↔
    ∃ p, Yaml.readText (settingsType.read {}) text = .error p ∧ p.describe = detail := by
  rw [read]
  cases Yaml.readText (settingsType.read {}) text with
  | error p => simp
  | ok s => simp

/-- **What is not YAML holds no settings.** -/
theorem read_of_problem {p : Yaml.Problem} (h : (Yaml.Document.ofText text).problem = some p) :
    ∃ detail, read text = .error detail := by
  cases hnodes : settingsType.read {} (Yaml.Document.ofText text) []
      (Yaml.Document.ofText text).nodes with
  | error q =>
    exact ⟨_, read_eq_error_iff.mpr ⟨q, Yaml.readText_eq_error_iff.mpr (Or.inl hnodes), rfl⟩⟩
  | ok x =>
    exact ⟨_, read_eq_error_iff.mpr
      ⟨p, Yaml.readText_eq_error_iff.mpr (Or.inr ⟨x, hnodes, Or.inl h⟩), rfl⟩⟩

theorem parse_eq_ok_iff {s : Settings} :
    parse text = .ok s ↔ read text = .ok s ∧ s.maxDepth ≠ 0 := by
  rw [parse]
  cases read text with
  | error detail => simp
  | ok t =>
    simp only [validate_eq_ok_iff, Except.ok.injEq]
    constructor
    · rintro ⟨hpos, rfl⟩
      exact ⟨rfl, hpos⟩
    · rintro ⟨rfl, hpos⟩
      exact ⟨hpos, rfl⟩

theorem parse_eq_error_iff {f : Failure} : parse text = .error f ↔
    (∃ detail, read text = .error detail ∧ .badYaml detail = f) ∨
      ∃ s, read text = .ok s ∧ s.maxDepth = 0 ∧
        .badSetting "max_depth" "must be at least 1" = f := by
  rw [parse]
  cases read text with
  | error detail => simp
  | ok s => simp [validate_eq_error_iff]

/-! ### Entries -/

theorem shortens_toggles (d : Yaml.Document) (f : Format) (t : Toggles) :
    Yaml.Shortens (togglesType.readValue f t) d := by
  intro path nodes u rest h
  obtain ⟨⟨b, after⟩, hread, h⟩ := bind_eq_ok_iff.mp h
  cases h
  exact Yaml.shortens_readSpelled _ _ _ hread

theorem shortens_settings (d : Yaml.Document) (k : Key) (s : Settings) :
    Yaml.Shortens (settingsType.readValue k s) d := by
  intro path nodes t rest h
  cases k with
  | maxDepth =>
    obtain ⟨⟨n, after⟩, hread, h⟩ := bind_eq_ok_iff.mp h
    cases h
    exact Yaml.shortens_readSpelled _ _ _ hread
  | formats =>
    obtain ⟨⟨u, after⟩, hread, h⟩ := bind_eq_ok_iff.mp h
    cases h
    exact Yaml.RecordType.shortens_read (shortens_toggles d) _ hread

section Entries

variable (d : Yaml.Document) {path : List String} {start : Yaml.Mark} {nodes : List Yaml.Node}
  {fuel fuel' : Nat}

/-- **The switches are not cut off**: more steps than there are nodes change nothing. -/
theorem readEntries_toggles {seen : List Format} {t : Toggles} (h : nodes.length ≤ fuel)
    (h' : nodes.length ≤ fuel') : togglesType.readEntries d path start fuel seen t nodes =
      togglesType.readEntries d path start fuel' seen t nodes :=
  Yaml.RecordType.readEntries_of_length_le (shortens_toggles d) h h'

/-- **The settings are not cut off** either. -/
theorem readEntries_settings {seen : List Key} {s : Settings} (h : nodes.length ≤ fuel)
    (h' : nodes.length ≤ fuel') : settingsType.readEntries d path start fuel seen s nodes =
      settingsType.readEntries d path start fuel' seen s nodes :=
  Yaml.RecordType.readEntries_of_length_le (shortens_settings d) h h'

end Entries

end Settings

/-! ## Options -/

namespace Options

variable {o : Options} {read : FileReader} {s : Settings} {f : Failure}

/-- The options come to no settings, and why. -/
inductive Refused (o : Options) (read : FileReader) : Failure → Prop
  /-- The file with the settings cannot be read. -/
  | unreadable {path : String} {d : Denial} (config : o.config = some path)
      (denied : read path = .error d) : Refused o read (.fileNotFound (path ++ ": " ++ d.message))
  /-- Its text holds no settings. -/
  | malformed {path text detail : String} (config : o.config = some path)
      (found : read path = .ok text) (holds : Settings.read text = .error detail) :
      Refused o read (.badYaml detail)
  /-- It holds the limit zero, whatever the options say. -/
  | zeroInFile {path text : String} {s : Settings} (config : o.config = some path)
      (found : read path = .ok text) (holds : Settings.read text = .ok s) (zero : s.maxDepth = 0) :
      Refused o read (.badSetting "max_depth" "must be at least 1")
  /-- The options ask for the limit zero, and nothing is wrong with the file. -/
  | zeroAsked {s : Settings} (base : o.base read = .ok s) (zero : o.maxDepth = some 0) :
      Refused o read (.badSetting "max_depth" "must be at least 1")

theorem base_eq_ok_iff : o.base read = .ok s ↔
    (o.config = none ∧ s = {}) ∨ ∃ path text, o.config = some path ∧ read path = .ok text ∧
      Settings.read text = .ok s ∧ s.maxDepth ≠ 0 := by
  rw [base]
  cases o.config with
  | none => simp [eq_comm]
  | some path => cases hread : read path <;> simp [Settings.load, hread, Settings.parse_eq_ok_iff]

theorem base_eq_error_iff : o.base read = .error f ↔ ∃ path, o.config = some path ∧
    ((∃ d, read path = .error d ∧ .fileNotFound (path ++ ": " ++ d.message) = f) ∨
      ∃ text, read path = .ok text ∧ Settings.parse text = .error f) := by
  rw [base]
  cases o.config with
  | none => simp
  | some path => cases hread : read path <;> simp [Settings.load, hread]

theorem maxDepth_of_base (h : o.base read = .ok s) : s.maxDepth ≠ 0 := by
  rcases base_eq_ok_iff.mp h with ⟨_, rfl⟩ | ⟨_, _, _, _, _, hpos⟩
  · decide
  · exact hpos

/-- Where there are settings, they can only be spoilt by asking for the limit zero. -/
theorem maxDepth_override_eq_zero_iff (h : o.base read = .ok s) :
    (o.override s).maxDepth = 0 ↔ o.maxDepth = some 0 := by
  rw [override]
  cases o.maxDepth with
  | none => simpa using maxDepth_of_base h
  | some d => simp

/-- **Settings are refused for these reasons and for no other.** -/
theorem settings_eq_error_iff : o.settings read = .error f ↔ o.Refused read f := by
  constructor
  · intro h
    cases hbase : o.base read with
    | error g =>
      rw [settings_eq_error o hbase] at h
      cases h
      obtain ⟨path, hconfig, ⟨d, hd, rfl⟩ | ⟨text, htext, hparse⟩⟩ := base_eq_error_iff.mp hbase
      · exact .unreadable hconfig hd
      · rcases Settings.parse_eq_error_iff.mp hparse with ⟨_, hnone, rfl⟩ | ⟨s, hs, hzero, rfl⟩
        · exact .malformed hconfig htext hnone
        · exact .zeroInFile hconfig htext hs hzero
    | ok s =>
      rw [settings_eq o hbase] at h
      obtain ⟨hzero, rfl⟩ := Settings.validate_eq_error_iff.mp h
      exact .zeroAsked hbase ((maxDepth_override_eq_zero_iff hbase).mp hzero)
  · intro h
    cases h with
    | unreadable config denied =>
      exact settings_eq_error o (base_eq_error_iff.mpr ⟨_, config, Or.inl ⟨_, denied, rfl⟩⟩)
    | malformed config found holds =>
      exact settings_eq_error o (base_eq_error_iff.mpr ⟨_, config, Or.inr ⟨_, found,
        Settings.parse_eq_error_iff.mpr (Or.inl ⟨_, holds, rfl⟩)⟩⟩)
    | zeroInFile config found holds zero =>
      exact settings_eq_error o (base_eq_error_iff.mpr ⟨_, config, Or.inr ⟨_, found,
        Settings.parse_eq_error_iff.mpr (Or.inr ⟨_, holds, zero, rfl⟩)⟩⟩)
    | zeroAsked hbase zero =>
      rw [settings_eq o hbase]
      exact Settings.validate_eq_error_iff.mpr
        ⟨(maxDepth_override_eq_zero_iff hbase).mpr zero, rfl⟩

/-- **A file that is not YAML** is refused, whatever the options say. -/
theorem refused_of_problem {path text : String} {p : Yaml.Problem} (config : o.config = some path)
    (found : read path = .ok text) (h : (Yaml.Document.ofText text).problem = some p) :
    ∃ detail, o.Refused read (.badYaml detail) := by
  obtain ⟨detail, hdetail⟩ := Settings.read_of_problem h
  exact ⟨detail, .malformed config found hdetail⟩

/-- **Settings are accepted** if nothing is wrong with the file and the options do not ask for the
    limit zero. -/
theorem settings_eq_ok_iff {t : Settings} : o.settings read = .ok t ↔
    ∃ s, o.base read = .ok s ∧ o.maxDepth ≠ some 0 ∧ o.override s = t := by
  cases hbase : o.base read with
  | error g => simp [settings_eq_error o hbase]
  | ok s =>
    rw [settings_eq o hbase, Settings.validate_eq_ok_iff, Ne, maxDepth_override_eq_zero_iff hbase]
    exact ⟨fun h => ⟨s, rfl, h⟩, fun ⟨_, hs, h⟩ => (by cases hs; exact h)⟩

end Options
end SampleSchema
