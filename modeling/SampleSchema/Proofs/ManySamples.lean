/-
  Samples one by one, or in one array.

  The schemas of several samples can be made one afterwards, or the samples can be put into an array
  and looked at in one inference.  Inside the array every sample stands one level deeper, and the
  array is open around it.  Neither counts: identities of different containers of a value differ,
  so that values are looked at as if they had none (`schemaAt_eq`), and one level more in the limit
  leaves the room that there was (`schemaAt_succ`).  The items of the array are therefore described
  by what the samples unify to, with no exception for the empty array, which the schema that accepts
  everything describes.

  The same holds of the two commands, for as long as their samples can be read
  (`infer_array_of_samples`).
-/
import SampleSchema.Proofs.JsonText
import SampleSchema.Proofs.Placement
import SampleSchema.Proofs.Running

namespace SampleSchema
namespace Json

/-- One level deeper under a limit that is one level further. -/
theorem schemaAt_succ (t : Toggles) (d depth : Nat) (v : Json) :
    schemaAt ⟨d + 1, t⟩ (depth + 1) v = schemaAt ⟨d, t⟩ depth v := by
  rw [schemaAt_eq, schemaAt_eq]
  have hroom : d + 1 - (depth + 1) = d - depth := by omega
  exact schema_outline_shift look t (d - depth) (depth + 1) depth [] v hroom rfl

/-- An array as a sample of its own. -/
theorem schema_inferJson_array (t : Toggles) (d : Nat) (vs : List Json) :
    (inferJson ⟨d + 1, t⟩ (.array vs)).schema =
      .arrayOf (Schema.unify (vs.map fun v => (inferJson ⟨d, t⟩ v).schema)) := by
  rw [schema_inferJson, schemaAt_array, if_neg (Nat.not_succ_le_zero d)]
  congr 2
  exact List.map_congr_left fun v _ => (schemaAt_succ t d 0 v).trans (schema_inferJson _ v).symm

end Json

/-- **Samples that are unified have the schema of the items of their array**, which has one level
    more to go: as schemas, for any number of samples and any limit; and as what the two commands
    print, with options that are the same but for the limit, in any stores and with any standard
    input that hold the samples and the array of them.  (A command refuses the limit zero.) -/
theorem infer_array_of_samples :
    (∀ (t : Toggles) (d : Nat) (vs : List Json),
      (inferJson ⟨d + 1, t⟩ (.array vs)).schema =
        .arrayOf (Schema.unify (vs.map fun v => (inferJson ⟨d, t⟩ v).schema))) ∧
    (∀ (o : Options) (s : Settings) (d : Nat) (vs : List Json) (paths : List String)
      (path : String) (files files' : Files) (input input' : Except Denial String),
      0 < d → o.output = none → o.base files.read = .ok s → o.base files'.read = .ok s →
      Sources.Supplies ⟨files.read, input⟩ paths vs →
      readSample path (Sources.textOf ⟨files'.read, input'⟩ path) = .ok (.array vs) →
      ∃ item log log',
        (inferJson ⟨d + 1, (o.override s).formats⟩ (.array vs)).schema = .arrayOf item ∧
        Command.run ⟨{ o with maxDepth := some d }, .unify paths⟩ files input =
          ⟨files, item.write o.chosenLayout ++ "\n", log, none⟩ ∧
        Command.run ⟨{ o with maxDepth := some (d + 1) }, .infer path⟩ files' input' =
          ⟨files', (Schema.arrayOf item).write o.chosenLayout ++ "\n", log', none⟩) := by
  refine ⟨Json.schema_inferJson_array, ?_⟩
  intro o s d vs paths path files files' input input' hd hout hbase hbase' hsamples harray
  have hschema := Json.schema_inferJson_array (o.override s).formats d vs
  have hunify := Command.result_evaluate_unify (Options.settings_limited o hd hbase) hsamples
  have hinfer := Command.result_evaluate_infer
    (Options.settings_limited o (Nat.succ_pos d) hbase') harray
  rw [hschema] at hinfer
  exact ⟨_, _, _, hschema, Command.run_of_result hunify hout, Command.run_of_result hinfer hout⟩

/-- A file below the root and standard input, unified; and the array of both from a file above the
    working directory. -/
theorem infer_array_of_samples_printed :
    let v : Json := .string "x"
    let w : Json := .array [v]
    let both : Json := .array [v, w]
    let files : Files := { entries := [(["data", "a"], .text (v.write .compact))] }
    let files' : Files := { entries := [(["both"], .text (both.write .compact))] }
    ∃ item log log',
      (inferJson ⟨2, {}⟩ both).schema = .arrayOf item ∧
      Command.run ⟨{ maxDepth := some 1 }, .unify ["/data/a", "-"]⟩ files
          (.ok (w.write .compact)) =
        ⟨files, item.write .indented ++ "\n", log, none⟩ ∧
      Command.run ⟨{ maxDepth := some 2 }, .infer "../both"⟩ files' (.ok "") =
        ⟨files', (Schema.arrayOf item).write .indented ++ "\n", log', none⟩ := by
  intro v w both files files'
  have hv : v.Textual := .string "x"
  have hw : w.Textual := .array (List.forall_mem_singleton.mpr hv)
  have hboth : both.Textual := .array (by simp [hv, hw])
  have hread : files.read "/data/a" = .ok (v.write .compact) := rfl
  have hread' : files'.read "../both" = .ok (both.write .compact) := rfl
  have hfile : "/data/a" ≠ standardInput := by decide
  have hsamples : Sources.Supplies ⟨files.read, .ok (w.write .compact)⟩
      ["/data/a", standardInput] [v, w] := by
    refine .cons ?_ (.cons ?_ .nil)
    · rw [Sources.textOf_file _ hfile]
      show readSample "/data/a" (files.read "/data/a") = _
      rw [hread]
      exact readSample_of_parse (hv.parse_write (by decide) .compact) "/data/a"
    · rw [Sources.without_file _ hfile, Sources.textOf_standardInput]
      exact readSample_of_parse (hw.parse_write (by decide) .compact) standardInput
  have harray : readSample "../both" (Sources.textOf ⟨files'.read, .ok ""⟩ "../both") =
      .ok both := by
    rw [Sources.textOf_file _ (by decide)]
    show readSample "../both" (files'.read "../both") = _
    rw [hread']
    exact readSample_of_parse (hboth.parse_write (by decide) .compact) "../both"
  exact infer_array_of_samples.2 {} {} 1 [v, w] ["/data/a", standardInput] "../both" files files'
    _ _ Nat.one_pos rfl rfl rfl hsamples harray

end SampleSchema
