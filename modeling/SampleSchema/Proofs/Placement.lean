/-
  The schema of a part of a sample, in its place.

  A part stands some way below the limit of the whole.  Where it stands counts only for the room
  that it leaves (`schema_outline_shift`); so in its place a part has the schema that it has as a
  sample of its own, truncated to that room (`Json.schemaAt_eq_truncate`).

  `Json.schemaAt` is what a visit at some depth gives for a JSON value.  Its equations for arrays
  and objects (`schemaAt_array`, `schemaAt_object`) go from a container to its parts one level
  deeper, and no state and no identities are left in them: inductions over values start here.
-/
import SampleSchema.Proofs.Shape
import SampleSchema.Proofs.Simulation
import SampleSchema.Proofs.Truncation

namespace SampleSchema

/-! ## Only the room counts -/

/-- Where a value stands counts only for the room that it leaves above the limit. -/
theorem schema_outline_shift {σ : Type} {m n : Nat} (look : σ → Layer σ) (t : Toggles) :
    ∀ (room depth depth' : Nat) (above : List Nat) (x : σ), m - depth = room → n - depth' = room →
    (outline m look depth above x).schema t = (outline n look depth' above x).schema t := by
  intro room
  induction room with
  | zero =>
    intro depth depth' above x hm hn
    have hm : m ≤ depth := by omega
    have hn : n ≤ depth' := by omega
    rw [outline.eq_def m, outline.eq_def n]
    cases look x <;> simp only [if_pos hm, if_pos hn] <;> rfl
  | succ room ih =>
    intro depth depth' above x hm hn
    have hm' : ¬ m ≤ depth := by omega
    have hn' : ¬ n ≤ depth' := by omega
    have hinside : ∀ above (y : σ), (outline m look (depth + 1) above y).schema t =
        (outline n look (depth' + 1) above y).schema t :=
      fun above y => ih (depth + 1) (depth' + 1) above y (by omega) (by omega)
    rw [outline.eq_def m, outline.eq_def n]
    cases look x with
    | array identity items =>
      simp only [if_neg hm', if_neg hn']
      by_cases hrep : Repeats identity above
      · rw [if_pos hrep, if_pos hrep]
        rfl
      · rw [if_neg hrep, if_neg hrep, Outline.schema, Outline.schema, Outline.schemas_eq_map,
          Outline.schemas_eq_map, List.map_map, List.map_map]
        congr 2
        exact List.map_congr_left fun y _ => hinside _ y
    | object identity entries =>
      simp only [if_neg hm', if_neg hn']
      by_cases hrep : Repeats identity above
      · rw [if_pos hrep, if_pos hrep]
        rfl
      · rw [if_neg hrep, if_neg hrep, Outline.schema, Outline.schema, Outline.properties_eq_map,
          Outline.properties_eq_map, List.map_map, List.map_map]
        congr 2
        exact List.map_congr_left fun e _ => congrArg (Prod.mk e.1) (hinside _ e.2)
    | _ => rfl

/-! ## JSON values -/

namespace Json

/-- The schema that inference gives a value which stands at `depth`. -/
def schemaAt (s : Settings) (depth : Nat) (v : Json) : Schema :=
  ((Inference.visitAt s Node.look depth v.numbered).run ⟨[], []⟩).1

theorem schemaAt_eq (s : Settings) (depth : Nat) (v : Json) :
    schemaAt s depth v = (outline s.maxDepth look depth [] v).schema s.formats := by
  rw [schemaAt, Inference.visitAt, Inference.visit_settles s Node.look _ depth [] _ rfl,
    outline_numbered]

theorem schema_inferJson (s : Settings) (v : Json) : (inferJson s v).schema = schemaAt s 0 v := by
  rw [inferJson_eq, infer_eq, schemaAt_eq]

/-- In its place a value has the schema that it has on its own, cut to the room that is left. -/
theorem schemaAt_eq_truncate (s : Settings) (depth : Nat) (v : Json) :
    schemaAt s depth v = (inferJson s v).schema.truncate (s.maxDepth - depth) 0 := by
  rw [schema_inferJson, schemaAt_eq, schemaAt_eq,
    truncate_schema_outline (Nat.sub_le _ _) look s.formats _ 0 [] v rfl]
  exact schema_outline_shift look s.formats _ depth 0 [] v rfl rfl

theorem typed_schemaAt (s : Settings) (depth : Nat) (v : Json) :
    Typed s.formats (schemaAt s depth v) := by
  rw [schemaAt_eq]
  exact Outline.schema_typed _ _

theorem schemaAt_array (s : Settings) (depth : Nat) (xs : List Json) :
    schemaAt s depth (.array xs) =
      if s.maxDepth ≤ depth then .ofKind .array
      else .arrayOf (Schema.unify (xs.map (schemaAt s (depth + 1)))) := by
  rw [schemaAt_eq, schema_outline_array s.formats rfl]
  simp only [← schemaAt_eq]

theorem schemaAt_object (s : Settings) (depth : Nat) (es : List (String × Json)) :
    schemaAt s depth (.object es) =
      if s.maxDepth ≤ depth then .ofKind .object
      else .objectSeen (Keyed.ofEntries (Keyed.mapValues (schemaAt s (depth + 1)) es)) := by
  rw [schemaAt_eq, schema_outline_object s.formats rfl]
  simp only [← schemaAt_eq]

end Json
end SampleSchema
