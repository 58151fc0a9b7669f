/-
  What a command comes to when nothing fails.

  A command is a chain of steps, each of which may end it.  Here the chain is followed where every
  step succeeds:

  * `Options.base` are the settings before the options override them, from the file or the default
    ones; with them, and a limit that is accepted, the settings of the command are known;
  * `Sources.Supplies` says which values samples hold that are read one after the other.  Standard
    input is empty from the second time on, so what a sample holds may depend on those before it;
  * from both, the text of the command (`result_evaluate_infer`, `result_evaluate_unify`), which a
    command without output file prints (`run_of_result`).
-/
import SampleSchema.Command.Run

namespace SampleSchema

/-! ## Steps that succeed -/

namespace Evaluation

variable {α β : Type}

theorem result_andThen {x : Evaluation α} {v : α} (h : x.result = .ok v) (f : α → Evaluation β) :
    (x.andThen f).result = (f v).result := by
  rw [andThen, h]
  rfl

theorem result_andThen_error {x : Evaluation α} {e : Failure} (h : x.result = .error e)
    (f : α → Evaluation β) : (x.andThen f).result = .error e := by
  rw [andThen, h]

end Evaluation

/-! ## Settings -/

namespace Options

/-- The settings that the options override: those in the file, if there is one. -/
def base (o : Options) (read : FileReader) : Except Failure Settings :=
  match o.config with
  | none => .ok {}
  | some path => Settings.load read path

/-- Settings are read, then overridden, then checked. -/
theorem settings_eq_bind (o : Options) (read : FileReader) :
    o.settings read = (o.base read).bind fun s => (o.override s).validate := by
  rw [settings, base]
  cases o.config with
  | none => rfl
  | some path =>
    dsimp only
    cases Settings.load read path <;> rfl

theorem settings_eq (o : Options) {read : FileReader} {s : Settings} (h : o.base read = .ok s) :
    o.settings read = (o.override s).validate := by
  rw [settings_eq_bind, h]
  rfl

theorem settings_eq_error (o : Options) {read : FileReader} {f : Failure}
    (h : o.base read = .error f) : o.settings read = .error f := by
  rw [settings_eq_bind, h]
  rfl

/-- With a limit among the options, only the switches come from elsewhere. -/
theorem settings_limited (o : Options) {read : FileReader} {s : Settings} {d : Nat} (hd : 0 < d)
    (h : o.base read = .ok s) :
    Options.settings { o with maxDepth := some d } read = .ok ⟨d, (o.override s).formats⟩ := by
  have hbase : Options.base { o with maxDepth := some d } read = .ok s := h
  rw [settings_eq _ hbase, Settings.validate]
  exact if_neg (Nat.ne_of_gt hd)

end Options

/-! ## Samples -/

namespace Sources

theorem textOf_standardInput (src : Sources) : src.textOf standardInput = src.input := if_pos rfl

theorem textOf_file (src : Sources) {path : String} (h : path ≠ standardInput) :
    src.textOf path = src.read path := if_neg h

theorem without_file (src : Sources) {path : String} (h : path ≠ standardInput) :
    src.without path = src := if_neg h

/-- The samples at these paths hold these values, if they are read in their order. -/
inductive Supplies : Sources → List String → List Json → Prop
  | nil {src : Sources} : Supplies src [] []
  | cons {src : Sources} {path : String} {paths : List String} {v : Json} {vs : List Json}
      (first : readSample path (src.textOf path) = .ok v)
      (others : Supplies (src.without path) paths vs) : Supplies src (path :: paths) (v :: vs)

end Sources

theorem readSample_eq_ok_iff {path : String} {text : Except Denial String} {v : Json} :
    readSample path text = .ok v ↔ ∃ s, text = .ok s ∧ Json.parse s = .ok v := by
  unfold readSample
  cases text with
  | error d => simp
  | ok s => cases hs : Json.parse s <;> simp [hs]

theorem readSample_of_parse {text : String} {v : Json} (h : Json.parse text = .ok v)
    (path : String) : readSample path (.ok text) = .ok v :=
  readSample_eq_ok_iff.mpr ⟨text, rfl, h⟩

theorem result_inferFile (s : Settings) {path : String} {text : Except Denial String} {v : Json}
    (h : readSample path text = .ok v) :
    (inferFile s path text).result = .ok (inferJson s v).schema := by
  rw [inferFile, h]

theorem result_inferFiles (s : Settings) {src : Sources} {paths : List String} {vs : List Json}
    (h : src.Supplies paths vs) :
    (inferFiles s src paths).result = .ok (vs.map fun v => (inferJson s v).schema) := by
  induction h with
  | nil => rfl
  | cons first _ ih =>
    rw [inferFiles, Evaluation.result_andThen (result_inferFile s first),
      Evaluation.result_andThen ih]
    rfl

/-! ## Commands -/

namespace Command

theorem result_evaluate {c : Command} {src : Sources} {s : Settings} {schema : Schema}
    (hsettings : c.options.settings src.read = .ok s)
    (htask : (c.task.evaluate s src).result = .ok schema) :
    (c.evaluate src).result = .ok (schema.write c.options.chosenLayout ++ "\n") := by
  have hchain : ((c.loadSettings src.read).andThen fun s => c.task.evaluate s src).result =
      .ok schema := by
    rw [Evaluation.result_andThen (x := c.loadSettings src.read) hsettings, htask]
  rw [evaluate, Evaluation.result_andThen hchain]

/-- The text of a command that infers. -/
theorem result_evaluate_infer {o : Options} {src : Sources} {s : Settings} {path : String}
    {v : Json} (hsettings : o.settings src.read = .ok s)
    (h : readSample path (src.textOf path) = .ok v) :
    (evaluate ⟨o, .infer path⟩ src).result =
      .ok ((inferJson s v).schema.write o.chosenLayout ++ "\n") :=
  result_evaluate hsettings (result_inferFile s h)

/-- The text of a command that unifies. -/
theorem result_evaluate_unify {o : Options} {src : Sources} {s : Settings} {paths : List String}
    {vs : List Json} (hsettings : o.settings src.read = .ok s) (h : src.Supplies paths vs) :
    (evaluate ⟨o, .unify paths⟩ src).result =
      .ok ((Schema.unify (vs.map fun v => (inferJson s v).schema)).write o.chosenLayout ++ "\n") :=
  by
  refine result_evaluate hsettings ?_
  rw [Task.evaluate, Evaluation.result_andThen (result_inferFiles s h)]

/-- Without output file the text is printed, and the store stays as it is. -/
theorem run_of_result {c : Command} {files : Files} {input : Except Denial String} {text : String}
    (h : (c.evaluate ⟨files.read, input⟩).result = .ok text) (hout : c.options.output = none) :
    c.run files input = ⟨files, text, (c.evaluate ⟨files.read, input⟩).log, none⟩ := by
  rw [run]
  simp only [h, hout]

end Command
end SampleSchema
