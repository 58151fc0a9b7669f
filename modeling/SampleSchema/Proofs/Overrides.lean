/-
  Options that override settings mean the same as other settings in the file.

  One command has a file with settings and overrides them, another one has a file in which the
  overriding values stand.  They run on stores that are the same but for this file (`Files.Alike`),
  and four things have to be seen:

  1. **Both end up with the same settings** (`settings_withoutOverrides`).  Values come by two ways,
     as a number in a text and as one among the options, and they are checked twice, after reading
     and after overriding.  The first check may refuse in one run what the second one refuses in
     the other, which makes no difference, since it is the same check with the same words.

  2. **Both stores look alike** to whoever follows a path, as no path goes through a file.  So a
     path reads the same from both unless it leads to the file with the settings (`read_cases`),
     and a text can be written to both or to neither (`write_cases`).

  3. **The file with the settings may be among the samples.**  Its texts differ then.  But they are
     no JSON, and what is wrong with them is the same, as it is wrong with their first character
     (`json_parse_toYamlText`).

  4. Hence the samples are the same (`SameSamples`), and so is all that is made of them.

  The output may go over the file with the settings too; it is settled before it is written.
-/
import SampleSchema.Proofs.Outcome
import SampleSchema.Proofs.SettingsText

namespace SampleSchema

/-! ## Stores that differ in one file -/

namespace Files

/-- Two stores which hold one of two texts at one place, and are the same everywhere else. -/
structure Alike (f g : Files) (place : Place) (s t : String) : Prop where
  left : f.entryAt place = some (.text s)
  right : g.entryAt place = some (.text t)
  same : f.SameBut g place

namespace Alike

variable {f g : Files} {place : Place} {s t : String}

/-- What is at a place is the same, or a text in both stores. -/
theorem entryAt_cases (h : Alike f g place s t) (p : Place) :
    g.entryAt p = f.entryAt p ∨ f.entryAt p = some (.text s) ∧ g.entryAt p = some (.text t) := by
  by_cases hp : p = place
  · exact Or.inr ⟨hp ▸ h.left, hp ▸ h.right⟩
  · exact Or.inl (h.same.entryAt p hp)

/-- No name is looked up in a file, be its text one or the other. -/
theorem enter_eq (h : Alike f g place s t) (p : Place) (name : String) :
    g.enter p name = f.enter p name := by
  rw [enter, enter]
  rcases h.entryAt_cases p with heq | ⟨hf, hg⟩
  · rw [heq, h.same.allow_eq]
  · rw [hf, hg]

theorem follow_eq (h : Alike f g place s t) (p : Place) (names : List String) :
    g.follow p names = f.follow p names := by
  rw [follow, follow, show g.enter = f.enter from funext fun q => funext (h.enter_eq q)]

/-- Paths lead to the same places, as they go through directories only. -/
theorem locate_eq (h : Alike f g place s t) (path : String) : g.locate path = f.locate path := by
  rw [locate, locate, h.same.origin_eq, h.follow_eq]

/-- A path reads the same from both, unless it leads to the file in which they differ. -/
theorem read_cases (h : Alike f g place s t) (path : String) :
    g.read path = f.read path ∨ (f.read path = .ok s ∧ g.read path = .ok t) := by
  rw [read, read, h.locate_eq]
  cases f.locate path with
  | error d => exact Or.inl rfl
  | ok p =>
    simp only [bind, Except.bind, h.same.allow_eq]
    rcases h.entryAt_cases p with heq | ⟨hf, hg⟩
    · rw [heq]
      exact Or.inl rfl
    · rw [hf, hg]
      dsimp only
      cases f.allow .read p with
      | error d => exact Or.inl rfl
      | ok u => exact Or.inr ⟨rfl, rfl⟩

/-- A text can be set under a name in both stores or in neither. -/
theorem put_cases (h : Alike f g place s t) (p : Place) (name text : String) :
    (∃ d, f.put p name text = .error d ∧ g.put p name text = .error d) ∨
      ∃ f' g', f.put p name text = .ok f' ∧ g.put p name text = .ok g' := by
  rw [put, put, h.enter_eq]
  cases f.enter p name with
  | error d => exact Or.inl ⟨d, rfl, rfl⟩
  | ok q =>
    simp only [bind, Except.bind, h.same.allow_eq]
    rcases h.entryAt_cases q with heq | ⟨hf, hg⟩
    · rw [heq]
      split
      · exact Or.inl ⟨_, rfl, rfl⟩
      · cases f.allow .write q with
        | error d => exact Or.inl ⟨d, rfl, rfl⟩
        | ok u => exact Or.inr ⟨_, _, rfl, rfl⟩
      · cases f.allow .write p with
        | error d => exact Or.inl ⟨d, rfl, rfl⟩
        | ok u =>
          cases f.allow .write q with
          | error d => exact Or.inl ⟨d, rfl, rfl⟩
          | ok u => exact Or.inr ⟨_, _, rfl, rfl⟩
    · rw [hf, hg]
      dsimp only
      cases f.allow .write q with
      | error d => exact Or.inl ⟨d, rfl, rfl⟩
      | ok u => exact Or.inr ⟨_, _, rfl, rfl⟩

/-- A text can be written to both stores or to neither. -/
theorem write_cases (h : Alike f g place s t) (path text : String) :
    (∃ d, f.write path text = .error d ∧ g.write path text = .error d) ∨
      ∃ f' g', f.write path text = .ok f' ∧ g.write path text = .ok g' := by
  rw [write, write, h.same.origin_eq]
  cases checkPath path with
  | error d => exact Or.inl ⟨d, rfl, rfl⟩
  | ok u =>
    simp only [bind, Except.bind]
    split
    · exact Or.inl ⟨_, rfl, rfl⟩
    · next name before _ =>
      rw [h.follow_eq]
      cases f.follow (f.origin path) (before.reverse ++ ["."]) with
      | error d => exact Or.inl ⟨d, rfl, rfl⟩
      | ok p =>
        dsimp only
        split
        · exact Or.inl ⟨_, rfl, rfl⟩
        · exact h.put_cases p name text

/-- After a write stores still differ at most at that place. -/
theorem sameBut_of_write (h : Alike f g place s t) {path text : String} {f' g' : Files}
    (hf : f.write path text = .ok f') (hg : g.write path text = .ok g') :
    f'.SameBut g' place := by
  obtain ⟨p, hp, _, hleft, hf⟩ := write_ok hf
  obtain ⟨q, hq, _, hright, hg⟩ := write_ok hg
  -- both texts go to the same place
  rw [h.locate_eq, hp] at hq
  cases hq
  refine ⟨?_, ?_, fun l hl => ?_⟩
  · rw [hg.workingDirectory, h.same.workingDirectory, hf.workingDirectory]
  · rw [hg.refusals, h.same.refusals, hf.refusals]
  · by_cases hlp : l = p
    · rw [hlp, hleft, hright]
    · rw [hg.entryAt l hlp, h.same.entryAt l hl, hf.entryAt l hlp]

end Alike

/-- Stores that are the same but for a file that can be read in both of them. -/
theorem alike_of_read {f g : Files} {path s t : String} {place : Place}
    (hplace : f.locate path = .ok place) (hsame : f.SameBut g place) (hf : f.read path = .ok s)
    (hg : g.read path = .ok t) : Alike f g place s t := by
  obtain ⟨p, hp, hleft, _⟩ := read_eq_ok_iff.mp hf
  cases hplace.symm.trans hp
  have hfile : f.entryAt place ≠ some .directory := by
    rw [hleft]
    exact fun hc => (by cases hc)
  obtain ⟨q, hq, hright, _⟩ := read_eq_ok_iff.mp hg
  cases (hsame.locate_eq_ok hfile hplace).symm.trans hq
  exact ⟨hleft, hright, hsame⟩

end Files

/-! ## What a command makes of samples -/

/-- Of a text only the sample counts that it holds, or how it fails to hold one. -/
theorem inferFile_congr (s : Settings) {path : String} {text text' : Except Denial String}
    (h : readSample path text' = readSample path text) :
    inferFile s path text' = inferFile s path text := by
  rw [inferFile, inferFile, h]

/-- The same samples under every path, be they the same texts or not. -/
structure Sources.SameSamples (src src' : Sources) : Prop where
  files : ∀ path, readSample path (src'.read path) = readSample path (src.read path)
  input : src'.input = src.input

namespace Sources.SameSamples

variable {src src' : Sources}

theorem textOf (h : SameSamples src src') (path : String) :
    readSample path (src'.textOf path) = readSample path (src.textOf path) := by
  unfold Sources.textOf
  split
  · rw [h.input]
  · exact h.files path

theorem without (h : SameSamples src src') (path : String) :
    SameSamples (src.without path) (src'.without path) := by
  unfold Sources.without
  split
  · exact ⟨h.files, rfl⟩
  · exact h

end Sources.SameSamples

theorem inferFiles_congr (s : Settings) (paths : List String) : ∀ {src src' : Sources},
    src.SameSamples src' → inferFiles s src' paths = inferFiles s src paths := by
  induction paths with
  | nil => exact fun _ => rfl
  | cons path paths ih =>
    intro src src' h
    rw [inferFiles, inferFiles, inferFile_congr s (h.textOf path), ih (h.without path)]

theorem Task.evaluate_congr (s : Settings) (task : Task) {src src' : Sources}
    (h : src.SameSamples src') : task.evaluate s src' = task.evaluate s src := by
  cases task with
  | infer path => exact inferFile_congr s (h.textOf path)
  | unify paths => rw [evaluate, evaluate, inferFiles_congr s paths h]

/-! ## The file with the settings as a sample -/

/-- Settings in YAML are no JSON, whatever they are. -/
theorem Settings.json_parse_toYamlText (s : Settings) :
    Json.parse s.toYamlText = .error "expected value at line 1 column 1" := by
  obtain ⟨r, hr⟩ : ∃ r, s.toYamlText.toList = 'm' :: r := by
    rw [toList_toYamlText]
    exact ⟨_, rfl⟩
  have hfault : Json.parseChars s.toYamlText.toList = .error ⟨.valueExpected, 'm' :: r, 1⟩ := by
    rw [hr]
    rfl
  have hplace : Position.afterBytes ('m' :: r)
      (byteLength ('m' :: r) - byteLength ('m' :: r) + 1) = ⟨1, 1⟩ := by
    rw [Nat.sub_self]
    rfl
  have hwords : Json.Cause.valueExpected.message ++ " at " ++ Position.describe ⟨1, 1⟩ =
      "expected value at line 1 column 1" := by decide
  rw [Json.parse, hfault, hr]
  show Except.error (Json.Fault.describe ⟨.valueExpected, 'm' :: r, 1⟩ ('m' :: r)) = _
  rw [Json.Fault.describe, Json.Fault.position, hplace]
  exact congrArg Except.error hwords

/-- As samples, two files with settings fail alike. -/
theorem Files.Alike.sameSamples {f g : Files} {place : Place} {s t : Settings}
    (h : Alike f g place s.toYamlText t.toYamlText) (input : Except Denial String) :
    Sources.SameSamples ⟨f.read, input⟩ ⟨g.read, input⟩ where
  files path := by
    rcases h.read_cases path with heq | ⟨hf, hg⟩
    · exact congrArg (readSample path) heq
    · show readSample path (g.read path) = readSample path (f.read path)
      rw [hf, hg, readSample, readSample]
      simp only [Settings.json_parse_toYamlText]
  input := rfl

/-! ## Flags and settings -/

namespace Options

/-- The options without those that override settings. -/
def withoutOverrides (o : Options) : Options := { o with maxDepth := none, noFormats := false }

/-- **Overriding settings is writing others into the file.** -/
theorem settings_withoutOverrides {o : Options} {c : Settings} {read read' : FileReader}
    {path : String} (hvalid : 0 < c.maxDepth) (hsmall : c.maxDepth < Nat.pow 2 64)
    (hflag : ∀ m, o.maxDepth = some m → m < Nat.pow 2 64) (hconfig : o.config = some path)
    (hread : read path = .ok c.toYamlText) (hread' : read' path = .ok (o.override c).toYamlText) :
    o.withoutOverrides.settings read' = o.settings read := by
  have hsmall' : (o.override c).maxDepth < Nat.pow 2 64 := by
    show o.maxDepth.getD c.maxDepth < Nat.pow 2 64
    cases hm : o.maxDepth with
    | none => exact hsmall
    | some m => exact hflag m hm
  have hbase : o.base read = .ok c := by
    rw [base, hconfig]
    simp only [Settings.load, hread, Settings.parse_toYamlText hsmall, Settings.validate,
      if_neg (Nat.ne_of_gt hvalid)]
  have hbase' : o.withoutOverrides.base read' = (o.override c).validate := by
    have hconfig' : o.withoutOverrides.config = some path := hconfig
    rw [base, hconfig']
    simp only [Settings.load, hread', Settings.parse_toYamlText hsmall']
  rw [settings_eq o hbase, settings_eq_bind, hbase']
  -- what has been read is checked a second time, with the same outcome
  by_cases hzero : (o.override c).maxDepth = 0
  · simp only [Settings.validate, if_pos hzero, Except.bind]
  · simp only [Settings.validate, if_neg hzero, Except.bind]
    exact if_neg hzero

end Options

namespace Command

/-- Both runs come to the same text, or to the same failure, and report the same on the way. -/
theorem evaluate_withoutOverrides {o : Options} (task : Task) {src src' : Sources}
    (hsettings : o.withoutOverrides.settings src'.read = o.settings src.read)
    (hsamples : src.SameSamples src') :
    evaluate ⟨o.withoutOverrides, task⟩ src' = evaluate ⟨o, task⟩ src := by
  have hload :
      loadSettings ⟨o.withoutOverrides, task⟩ src'.read = loadSettings ⟨o, task⟩ src.read :=
    congrArg (Evaluation.mk (o.config.toList.map .loading)) hsettings
  rw [evaluate, evaluate, hload]
  simp only [Task.evaluate_congr _ task hsamples]
  rfl

/-- Two runs which come to the same leave the same behind, the file apart in which their stores
    differ. -/
theorem run_alike {c c' : Command} {files files' : Files} {place : Place} {s t : String}
    {input : Except Denial String} (h : Files.Alike files files' place s t)
    (hevaluate : c'.evaluate ⟨files'.read, input⟩ = c.evaluate ⟨files.read, input⟩)
    (hout : c'.options.output = c.options.output) :
    (c'.run files' input).failure = (c.run files input).failure ∧
      (c'.run files' input).printed = (c.run files input).printed ∧
      (c'.run files' input).log = (c.run files input).log ∧
      (∀ out, c.options.output = some out → (c.run files input).failure = none →
        ∃ text, (c.run files input).files.Holds out text ∧
          (c'.run files' input).files.Holds out text) ∧
      (c.run files input).files.SameBut (c'.run files' input).files place := by
  unfold run
  dsimp only
  rw [hevaluate, hout]
  cases (c.evaluate ⟨files.read, input⟩).result with
  | error f => exact ⟨rfl, rfl, rfl, fun _ _ hc => (by cases hc), h.same⟩
  | ok text =>
    cases c.options.output with
    | none => exact ⟨rfl, rfl, rfl, fun _ hc => (by cases hc), h.same⟩
    | some path =>
      rcases h.write_cases path text with ⟨d, hleft, hright⟩ | ⟨f', g', hleft, hright⟩
      · dsimp only
        rw [hleft, hright]
        exact ⟨rfl, rfl, rfl, fun _ _ hc => (by cases hc), h.same⟩
      · dsimp only
        rw [hleft, hright]
        refine ⟨rfl, rfl, rfl, ?_, h.sameBut_of_write hleft hright⟩
        intro out hpath _
        cases hpath
        exact ⟨text, Files.holds_of_write hleft, Files.holds_of_write hright⟩

/-- **Flags mean the same as editing the settings.**  A command has valid settings in a file, and
    its options may override their limit, be it by zero, and switch all formats off.  Without these
    options, and with the settings so edited in the file, it fails with the same failure or comes to
    the same schema, and reports the same, whatever the samples are and whatever else is stored.
    Both leave the same behind, the edited file apart, and if there is an output file it holds the
    same even if it is that file. -/
theorem run_flags_as_edit (o : Options) (task : Task) (c : Settings) (files edited : Files)
    (input : Except Denial String) (path : String) (place : Place)
    (hvalid : 0 < c.maxDepth) (hsmall : c.maxDepth < Nat.pow 2 64)
    (hflag : ∀ m, o.maxDepth = some m → m < Nat.pow 2 64) (hconfig : o.config = some path)
    (hfile : files.read path = .ok c.toYamlText)
    (hedited : edited.read path = .ok (Settings.toYamlText
      ⟨o.maxDepth.getD c.maxDepth, if o.noFormats then ⟨false, false, false, false⟩ else c.formats⟩))
    (hplace : files.locate path = .ok place) (hsame : files.SameBut edited place) :
    let flagged := run ⟨o, task⟩ files input
    let plain := run ⟨{ o with maxDepth := none, noFormats := false }, task⟩ edited input
    plain.failure = flagged.failure ∧ plain.printed = flagged.printed ∧ plain.log = flagged.log ∧
      (∀ out, o.output = some out → flagged.failure = none →
        ∃ text, flagged.files.Holds out text ∧ plain.files.Holds out text) ∧
      flagged.files.SameBut plain.files place := by
  intro flagged plain
  have halike := Files.alike_of_read hplace hsame hfile hedited
  have hsettings : o.withoutOverrides.settings edited.read = o.settings files.read :=
    Options.settings_withoutOverrides hvalid hsmall hflag hconfig hfile hedited
  have hsamples : Sources.SameSamples ⟨files.read, input⟩ ⟨edited.read, input⟩ :=
    halike.sameSamples input
  exact run_alike halike (evaluate_withoutOverrides task hsettings hsamples) rfl

/-- A sample above the working directory, with a mail address and an array that stands too deep, and
    settings below the root, over which the schema is written. -/
theorem run_flags_as_edit_mail :
    let o : Options :=
      { config := some "/etc/c", maxDepth := some 1, noFormats := true, output := some "../etc/c" }
    let c : Settings := ⟨3, { uri := false }⟩
    let files : Files :=
      { entries := [(["etc", "c"], .text c.toYamlText), (["s"], .text "[\"a@b.c\",[]]")] }
    let edited := files.set ["etc", "c"] (.text (Settings.toYamlText ⟨1, .none⟩))
    let flagged := run ⟨o, .infer "../s"⟩ files (.ok "")
    let plain :=
      run ⟨{ o with maxDepth := none, noFormats := false }, .infer "../s"⟩ edited (.ok "")
    let text := (Schema.arrayOf (.choice [.ofKind .string, .ofKind .array])).write .indented ++ "\n"
    flagged.failure = none ∧ flagged.files = files.set ["etc", "c"] (.text text) ∧
      plain.failure = none ∧ plain.printed = flagged.printed ∧ plain.log = flagged.log ∧
      plain.files.Holds "../etc/c" text := by
  intro o c files edited flagged plain text
  have hfile : files.read "/etc/c" = .ok c.toYamlText := rfl
  have hedited : edited.read "/etc/c" = .ok (Settings.toYamlText ⟨1, .none⟩) := rfl
  have hplace : files.locate "/etc/c" = .ok ["etc", "c"] := rfl
  have hetc : files.entryAt ["etc"] = some .directory := rfl
  have hsame : files.SameBut edited ["etc", "c"] := Files.sameBut_set _ hetc
  have hrun : flagged.failure = none ∧ flagged.files = files.set ["etc", "c"] (.text text) := by
    decide +kernel
  obtain ⟨hfailure, hprinted, hlog, hwritten, _⟩ := run_flags_as_edit o (.infer "../s") c files
    edited (.ok "") "/etc/c" ["etc", "c"] (by decide) (by decide) (by intro m hm; cases hm; decide)
    rfl hfile hedited hplace hsame
  obtain ⟨t, ⟨p, hp, ht⟩, hplain⟩ := hwritten "../etc/c" rfl hrun.1
  have hleads : (files.set ["etc", "c"] (.text text)).locate "../etc/c" = .ok ["etc", "c"] := rfl
  have hholds : (files.set ["etc", "c"] (.text text)).entryAt ["etc", "c"] = some (.text text) :=
    rfl
  rw [hrun.2] at hp ht
  cases hleads.symm.trans hp
  have htext : text = t := Entry.text.inj (Option.some.inj (hholds.symm.trans ht))
  rw [← htext] at hplain
  exact ⟨hrun.1, hrun.2, hfailure.trans hrun.1, hprinted, hlog, hplain⟩

end Command
end SampleSchema
