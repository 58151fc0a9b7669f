/-
  A command does all of its work or none.

  A command has many exits, all of them before its only write, or in it.  What is said here of its
  outcome holds for every command, every store and every input:

  1. **It fails with the first failure** (`failure_run_iff`).  `Command.Fails` tells what that is
     without running the command: settings from the file, settings once they are overridden,
     samples in their order, writing, where every clause asks that nothing failed before.

  2. **If it fails, nothing has changed and nothing is printed.**

  3. **If it succeeds, at most one place has changed** (`Files.write_ok`), and it holds what the
     command would have printed.  No clause asks which files the command has read: what it writes
     is settled before it writes, so it may as well write over them.
-/
import SampleSchema.Proofs.FileStore
import SampleSchema.Proofs.SettingsRefused

namespace SampleSchema

/-! ## Samples of which one fails -/

/-- A sample fails if it cannot be read, or if its text is not JSON. -/
theorem readSample_eq_error_iff {path : String} {text : Except Denial String} {f : Failure} :
    readSample path text = .error f ↔
      (∃ d, text = .error d ∧ .sampleUnreadable path d.message = f) ∨
        ∃ s detail, text = .ok s ∧ Json.parse s = .error detail ∧
          .sampleMalformed path detail = f := by
  unfold readSample
  cases text with
  | error d => simp
  | ok s => cases hs : Json.parse s <;> simp [hs]

/-- This is the first failure if the samples at these paths are read in their order. -/
inductive Sources.Fails : Sources → List String → Failure → Prop
  | unreadable {src : Sources} {path : String} {paths : List String} {d : Denial}
      (denied : src.textOf path = .error d) :
      Fails src (path :: paths) (.sampleUnreadable path d.message)
  | malformed {src : Sources} {path text detail : String} {paths : List String}
      (found : src.textOf path = .ok text) (holds : Json.parse text = .error detail) :
      Fails src (path :: paths) (.sampleMalformed path detail)
  | later {src : Sources} {path text : String} {paths : List String} {v : Json} {f : Failure}
      (found : src.textOf path = .ok text) (holds : Json.parse text = .ok v)
      (others : Fails (src.without path) paths f) : Fails src (path :: paths) f

theorem Sources.fails_cons_iff {src : Sources} {path : String} {paths : List String}
    {f : Failure} : src.Fails (path :: paths) f ↔
      readSample path (src.textOf path) = .error f ∨
        ∃ v, readSample path (src.textOf path) = .ok v ∧ (src.without path).Fails paths f := by
  constructor
  · intro h
    cases h with
    | unreadable denied => exact Or.inl (readSample_eq_error_iff.mpr (Or.inl ⟨_, denied, rfl⟩))
    | malformed found holds =>
      exact Or.inl (readSample_eq_error_iff.mpr (Or.inr ⟨_, _, found, holds, rfl⟩))
    | later found holds others =>
      exact Or.inr ⟨_, found ▸ readSample_of_parse holds path, others⟩
  · rintro (hfirst | ⟨v, hfirst, others⟩)
    · rcases readSample_eq_error_iff.mp hfirst with ⟨_, hd, rfl⟩ | ⟨_, _, hs, hparse, rfl⟩
      · exact .unreadable hd
      · exact .malformed hs hparse
    · obtain ⟨_, htext, hparse⟩ := readSample_eq_ok_iff.mp hfirst
      exact .later htext hparse others

/-- All samples hold values, or one of them is the first that does not. -/
theorem Sources.supplies_or_fails (paths : List String) : ∀ src : Sources,
    (∃ vs, src.Supplies paths vs) ∨ ∃ f, src.Fails paths f := by
  induction paths with
  | nil => intro src; exact Or.inl ⟨[], .nil⟩
  | cons path paths ih =>
    intro src
    cases hfirst : readSample path (src.textOf path) with
    | error f => exact Or.inr ⟨f, fails_cons_iff.mpr (Or.inl hfirst)⟩
    | ok v =>
      rcases ih (src.without path) with ⟨vs, hvs⟩ | ⟨f, hf⟩
      · exact Or.inl ⟨v :: vs, .cons hfirst hvs⟩
      · exact Or.inr ⟨f, fails_cons_iff.mpr (Or.inr ⟨v, hfirst, hf⟩)⟩

theorem result_inferFile_error (s : Settings) {path : String} {text : Except Denial String}
    {f : Failure} (h : readSample path text = .error f) :
    (inferFile s path text).result = .error f := by
  rw [inferFile, h]

theorem result_inferFiles_error (s : Settings) {paths : List String} : ∀ {src : Sources}
    {f : Failure}, src.Fails paths f → (inferFiles s src paths).result = .error f := by
  induction paths with
  | nil => intro src f h; cases h
  | cons path paths ih =>
    intro src f h
    rcases Sources.fails_cons_iff.mp h with hfirst | ⟨v, hfirst, others⟩
    · exact Evaluation.result_andThen_error (result_inferFile_error s hfirst) _
    · rw [inferFiles, Evaluation.result_andThen (result_inferFile s hfirst)]
      exact Evaluation.result_andThen_error (ih others) _

namespace Task

/-- The schema of a task from the schemas of its samples. -/
def join : Task → List Schema → Schema
  | infer _, ss => ss.headD .any
  | unify _, ss => Schema.unify ss

theorem result_evaluate_ok {task : Task} (s : Settings) {src : Sources} {vs : List Json}
    (h : src.Supplies task.samples vs) :
    (task.evaluate s src).result = .ok (task.join (vs.map fun v => (inferJson s v).schema)) := by
  cases task with
  | infer path =>
    cases h with
    | cons first others =>
      cases others with
      | nil => exact result_inferFile s first
  | unify paths =>
    have hpaths : src.Supplies paths vs := h
    rw [evaluate, Evaluation.result_andThen (result_inferFiles s hpaths)]
    rfl

theorem result_evaluate_error {task : Task} (s : Settings) {src : Sources} {f : Failure}
    (h : src.Fails task.samples f) : (task.evaluate s src).result = .error f := by
  cases task with
  | infer path =>
    rcases Sources.fails_cons_iff.mp h with hfirst | ⟨_, _, others⟩
    · exact result_inferFile_error s hfirst
    · cases others
  | unify paths =>
    have hpaths : src.Fails paths f := h
    exact Evaluation.result_andThen_error (result_inferFiles_error s hpaths) _

end Task

/-! ## The first failure of a command -/

namespace Command

/-- The text of a command whose samples hold these values. -/
def textFor (c : Command) (s : Settings) (vs : List Json) : String :=
  (c.task.join (vs.map fun v => (inferJson s v).schema)).write c.options.chosenLayout ++ "\n"

/-- This is the first failure of a command, step by step. -/
inductive Fails (c : Command) (files : Files) (input : Except Denial String) : Failure → Prop
  /-- There are no settings, for one of the reasons that there are. -/
  | settings {f : Failure} (refused : c.options.Refused files.read f) : Fails c files input f
  /-- A sample cannot be read, or is not JSON. -/
  | sample {s : Settings} {f : Failure} (accepted : c.options.settings files.read = .ok s)
      (h : Sources.Fails ⟨files.read, input⟩ c.task.samples f) : Fails c files input f
  /-- The schema cannot be written. -/
  | writing {s : Settings} {vs : List Json} {path : String} {d : Denial}
      (accepted : c.options.settings files.read = .ok s)
      (samples : Sources.Supplies ⟨files.read, input⟩ c.task.samples vs)
      (output : c.options.output = some path) (h : files.write path (c.textFor s vs) = .error d) :
      Fails c files input (.inputOutput d.message)

variable {c : Command} {files : Files} {input : Except Denial String}

theorem result_evaluate_error {src : Sources} {f : Failure}
    (h : c.options.settings src.read = .error f ∨
      ∃ s, c.options.settings src.read = .ok s ∧ (c.task.evaluate s src).result = .error f) :
    (c.evaluate src).result = .error f := by
  refine Evaluation.result_andThen_error ?_ _
  rcases h with hsettings | ⟨s, hsettings, htask⟩
  · exact Evaluation.result_andThen_error (x := c.loadSettings src.read) hsettings _
  · rw [Evaluation.result_andThen (x := c.loadSettings src.read) hsettings, htask]

/-- **A command that fails does nothing else.** -/
theorem run_of_fails {f : Failure} (h : c.Fails files input f) :
    c.run files input = ⟨files, "", (c.evaluate ⟨files.read, input⟩).log, some f⟩ := by
  have hearly : (c.evaluate ⟨files.read, input⟩).result = .error f →
      c.run files input = ⟨files, "", (c.evaluate ⟨files.read, input⟩).log, some f⟩ := by
    intro hresult
    rw [run]
    simp only [hresult]
  cases h with
  | settings refused =>
    exact hearly (result_evaluate_error (Or.inl (Options.settings_eq_error_iff.mpr refused)))
  | @sample s _ accepted h =>
    exact hearly (result_evaluate_error (Or.inr ⟨s, accepted, Task.result_evaluate_error s h⟩))
  | @writing s vs path d accepted samples output h =>
    have htext : (c.evaluate ⟨files.read, input⟩).result = .ok (c.textFor s vs) :=
      result_evaluate accepted (Task.result_evaluate_ok s samples)
    rw [run]
    simp only [htext, output, h]

/-- Where nothing fails there is a text, and it is written if it is to be. -/
theorem fails_or_written (c : Command) (files : Files) (input : Except Denial String) :
    (∃ f, c.Fails files input f) ∨
      ∃ text, (c.evaluate ⟨files.read, input⟩).result = .ok text ∧
        ∀ path, c.options.output = some path → ∃ files', files.write path text = .ok files' := by
  cases hsettings : c.options.settings files.read with
  | error f => exact Or.inl ⟨f, .settings (Options.settings_eq_error_iff.mp hsettings)⟩
  | ok s =>
    rcases Sources.supplies_or_fails c.task.samples ⟨files.read, input⟩ with ⟨vs, hvs⟩ | ⟨f, hf⟩
    · have htext : (c.evaluate ⟨files.read, input⟩).result = .ok (c.textFor s vs) :=
        result_evaluate hsettings (Task.result_evaluate_ok s hvs)
      cases hout : c.options.output with
      | none => exact Or.inr ⟨_, htext, fun _ hc => (by cases hc)⟩
      | some path =>
        cases hwrite : files.write path (c.textFor s vs) with
        | error d => exact Or.inl ⟨_, .writing hsettings hvs hout hwrite⟩
        | ok files' =>
          refine Or.inr ⟨_, htext, fun other hother => ?_⟩
          cases hother
          exact ⟨files', hwrite⟩
    · exact Or.inl ⟨f, .sample hsettings hf⟩

/-- **A command fails with its first failure**, and only if there is one. -/
theorem failure_run_iff {f : Failure} :
    (c.run files input).failure = some f ↔ c.Fails files input f := by
  refine ⟨fun h => ?_, fun h => by rw [run_of_fails h]⟩
  rcases fails_or_written c files input with ⟨g, hg⟩ | ⟨text, htext, hwritten⟩
  · rw [run_of_fails hg] at h
    cases h
    exact hg
  · rw [run] at h
    simp only [htext] at h
    cases hout : c.options.output with
    | none =>
      simp only [hout] at h
      cases h
    | some path =>
      obtain ⟨files', hwrite⟩ := hwritten path hout
      simp only [hout, hwrite] at h
      cases h

/-! ## What a command leaves behind -/

/-- The same command, which prints its text. -/
def withoutOutput (c : Command) : Command := { c with options := { c.options with output := none } }

/-- A command that succeeds with an output file: what it has written, and what it would have
    printed. -/
theorem run_written {path : String} (hout : c.options.output = some path)
    (h : (c.run files input).failure = none) :
    ∃ text files', files.write path text = .ok files' ∧
      (c.withoutOutput.run files input).printed = text ∧
      (c.withoutOutput.run files input).failure = none ∧
      (c.run files input).files = files' ∧ (c.run files input).printed = "" := by
  rcases fails_or_written c files input with ⟨f, hf⟩ | ⟨text, htext, hwritten⟩
  · rw [run_of_fails hf] at h
    cases h
  · obtain ⟨files', hwrite⟩ := hwritten path hout
    have hprints := run_of_result (c := c.withoutOutput) htext rfl
    have hwrites : c.run files input =
        ⟨files', "", (c.evaluate ⟨files.read, input⟩).log ++ [.wrote path], none⟩ := by
      rw [run]
      simp only [htext, hout, hwrite]
    rw [hprints, hwrites]
    exact ⟨text, files', hwrite, rfl, rfl, rfl, rfl⟩

/-- **All or nothing.**  A command fails exactly with the first failure among its steps; then no
    file has changed and nothing is printed.  If it succeeds it prints, and no file has changed; or
    else it has an output file: then nothing is printed, the file holds what the same command prints
    without output file on the same files, which is what it reads unless it refuses to be read, and
    but for the place where the path leads everything is as it was. -/
theorem run_all_or_nothing (c : Command) (files : Files) (input : Except Denial String) :
    (∀ f, (c.run files input).failure = some f ↔ c.Fails files input f) ∧
    (∀ f, (c.run files input).failure = some f →
      (c.run files input).files = files ∧ (c.run files input).printed = "") ∧
    (c.options.output = none → (c.run files input).files = files) ∧
    (∀ path, c.options.output = some path → (c.run files input).failure = none →
      (c.run files input).printed = "" ∧
      (c.withoutOutput.run files input).failure = none ∧
      ∃ place, files.locate path = .ok place ∧ files.SameBut (c.run files input).files place ∧
        (c.run files input).files.locate path = .ok place ∧
        (c.run files input).files.entryAt place =
          some (.text (c.withoutOutput.run files input).printed) ∧
        (files.allow .read place = .ok () → (c.run files input).files.read path =
          .ok (c.withoutOutput.run files input).printed)) := by
  refine ⟨fun f => failure_run_iff, fun f hf => ?_, fun hout => ?_, ?_⟩
  · rw [run_of_fails (failure_run_iff.mp hf)]
    exact ⟨rfl, rfl⟩
  · rcases fails_or_written c files input with ⟨f, hf⟩ | ⟨text, htext, _⟩
    · rw [run_of_fails hf]
    · rw [run_of_result htext hout]
  · intro path hout h
    obtain ⟨text, files', hwrite, hprinted, hdone, hfiles, hsilent⟩ := run_written hout h
    obtain ⟨place, hplace, hplace', hholds, hsame⟩ := Files.write_ok hwrite
    rw [hprinted, hfiles]
    refine ⟨hsilent, hdone, place, hplace, hsame, hplace', hholds, fun hallowed => ?_⟩
    exact Files.read_eq_ok_iff.mpr
      ⟨place, hplace', hholds, (hsame.allow_eq .read place).trans hallowed⟩

/-- A schema that is written over one of its samples, along a detour from the root, with standard
    input for the other sample; and settings that are there, but refuse to be read. -/
theorem run_all_or_nothing_over_sample :
    let c : Command := ⟨{ output := some "/etc/../home/./a" }, .unify ["a", "-"]⟩
    let d : Command := ⟨{ config := some "/etc/c" }, .infer "../home/a"⟩
    let files : Files :=
      { Files.ofList [("a", .text "null"), ("b", .bytes), ("/etc/c", .bytes)] with
        refusals := [⟨["etc", "c"], .read, "Permission denied (os error 13)"⟩] }
    let printed := (c.withoutOutput.run files (.ok "true")).printed
    (c.run files (.ok "true")).failure = none ∧
      printed = (Schema.choice [.ofKind .null, .ofKind .boolean]).write .indented ++ "\n" ∧
      (c.run files (.ok "true")).files.read "/etc/../home/./a" = .ok printed ∧
      files.SameBut (c.run files (.ok "true")).files ["home", "a"] ∧
      d.Fails files (.ok "") (.fileNotFound "/etc/c: Permission denied (os error 13)") ∧
      (d.run files (.ok "")).files = files ∧ (d.run files (.ok "")).printed = "" := by
  intro c d files printed
  have hdone : (c.run files (.ok "true")).failure = none := by decide +kernel
  obtain ⟨_, _, place, hplace, hsame, _, _, hread⟩ :=
    (run_all_or_nothing c files (.ok "true")).2.2.2 "/etc/../home/./a" rfl hdone
  have hleads : files.locate "/etc/../home/./a" = .ok ["home", "a"] := rfl
  cases hleads.symm.trans hplace
  have hfails : (d.run files (.ok "")).failure =
      some (.fileNotFound "/etc/c: Permission denied (os error 13)") := by decide +kernel
  obtain ⟨hfirst, hnothing, _⟩ := run_all_or_nothing d files (.ok "")
  exact ⟨hdone, by decide +kernel, hread rfl, hsame, (hfirst _).mp hfails, hnothing _ hfails⟩

end Command
end SampleSchema
