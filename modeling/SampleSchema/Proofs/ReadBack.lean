/-
  Inferred schemas that were written down, read again.

  A text may nest 127 containers.  That holds for samples and for schemas alike, but a schema nests
  deeper than its sample: an object costs two levels of the document (the schema, and the map of its
  properties), an array one, and an array of items that disagree three (the schema, the choice, and
  its list).  So a schema is read back exactly if its document stays within the limit, and there are
  samples that are read and whose schemas are not.

  `nesting_schemaAt_le` is the bound: three levels for each level that was opened, and one more.
  With a depth limit of 42, or a sample that nests 42 levels, the document stays within 127
  (`infer_read_back`).  Beyond that it need not: objects inside one another are the plainest example
  (`Json.nested`), 64 of them give a document that nests 128 levels (`nested_not_read_back`).
-/
import SampleSchema.Command.Run
import SampleSchema.Proofs.JsonTree
import SampleSchema.Proofs.Placement
import SampleSchema.Proofs.SchemaText

namespace SampleSchema

/-! ## Inferred schemas set no key twice -/

mutual

theorem Typed.wellKeyed {t : Toggles} {s : Schema} : Typed t s → s.WellKeyed
  | .intro _ anyOf _ _ item _ _ distinct property =>
    .intro (by rw [anyOf]; nofun) distinct
      (fun p hp e he => (property p hp e he).wellKeyed) (fun i hi => (item i hi).wellKeyed)

theorem ItemShape.wellKeyed {t : Toggles} {s : Schema} : ItemShape t s → s.WellKeyed
  | .any => .intro nofun nofun nofun nofun
  | .typed h => h.wellKeyed
  | .choice h _ _ => .intro (by rintro _ ⟨⟩ a ha; exact (h a ha).wellKeyed) nofun nofun nofun

end

theorem wellKeyed_inferJson (s : Settings) (v : Json) : (inferJson s v).schema.WellKeyed := by
  rw [Json.schema_inferJson]
  exact (Json.typed_schemaAt s 0 v).wellKeyed

/-! ## How deep the document of a schema nests -/

namespace Schema

/-- A document nests one level deeper than what its fields hold. -/
theorem nesting_toJson_le {s : Schema} {n : Nat} :
    s.toJson.nesting ≤ n + 1 ↔ ∀ f j, s.part? f = some j → j.nesting ≤ n := by
  rw [toJson_eq, Json.nesting_object_le]
  constructor
  · intro h f j hj
    have hf : f ∈ Field.all := by cases f <;> decide
    exact h (f.key, j) (List.mem_filterMap.mpr ⟨f, hf, by rw [hj]; rfl⟩)
  · intro h e he
    obtain ⟨f, _, hf⟩ := List.mem_filterMap.mp he
    obtain ⟨j, hj, rfl⟩ := Option.map_eq_some_iff.mp hf
    exact h f j hj

/-- The document of a property stands inside that of the schema. -/
theorem nesting_property_le {s : Schema} {p : Keyed Schema} (hp : s.properties = some p)
    {e : String × Schema} (he : e ∈ p) {n : Nat} (h : s.toJson.nesting ≤ n) :
    e.2.toJson.nesting ≤ n := by
  have hfield : s.part? .properties = some (.object (Keyed.mapValues toJson p)) := by
    rw [part?, hp]
    rfl
  have hmap : (Json.object (Keyed.mapValues toJson p)).nesting ≤ n :=
    nesting_toJson_le.mp (Nat.le_succ_of_le h) .properties _ hfield
  exact Json.nesting_object_le.mp (Nat.le_succ_of_le hmap) _ (Keyed.mem_mapValues.mpr ⟨e, he, rfl⟩)

theorem nesting_ofKind (k : Kind) : (ofKind k).toJson.nesting = 1 := rfl

theorem nesting_text (f : Option Format) : (text f).toJson.nesting = 1 := by cases f <;> rfl

theorem nesting_arrayOf {i : Schema} {n : Nat} (h : i.toJson.nesting ≤ n) :
    (arrayOf i).toJson.nesting ≤ n + 1 := by
  refine nesting_toJson_le.mpr ?_
  rintro (_ | _ | _ | _ | _ | _) j ⟨⟩
  · exact Nat.zero_le n
  · exact h

theorem nesting_choice {ss : List Schema} {n : Nat} (h : ∀ a ∈ ss, a.toJson.nesting ≤ n) :
    (choice ss).toJson.nesting ≤ n + 2 := by
  refine nesting_toJson_le.mpr ?_
  rintro (_ | _ | _ | _ | _ | _) j ⟨⟩
  exact Json.nesting_array_le.mpr (List.forall_mem_map.mpr h)

/-- An object schema, with properties and required keys or without. -/
theorem nesting_object {p : Option (Keyed Schema)} {r : Option (List String)} {n : Nat}
    (h : ∀ q, p = some q → ∀ e ∈ q, e.2.toJson.nesting ≤ n) :
    ({ kind := some .object, properties := p, required := r } : Schema).toJson.nesting ≤ n + 2 := by
  refine nesting_toJson_le.mpr ?_
  intro f j hj
  cases f with
  | kind =>
    cases hj
    exact Nat.zero_le _
  | properties =>
    obtain ⟨q, hq, rfl⟩ := Option.map_eq_some_iff.mp hj
    exact Json.nesting_object_le.mpr (List.forall_mem_map.mpr (h q hq))
  | required =>
    obtain ⟨keys, _, rfl⟩ := Option.map_eq_some_iff.mp hj
    exact Json.nesting_array_le.mpr (List.forall_mem_map.mpr fun _ _ => Nat.zero_le n)
  | _ => cases hj

/-- Unifying adds two levels at most: those of a choice. -/
theorem nesting_unify {ss : List Schema} {n : Nat} (h : ∀ s ∈ ss, s.toJson.nesting ≤ n) :
    (unify ss).toJson.nesting ≤ n + 2 := by
  cases siblings ss with
  | none =>
    show 1 ≤ n + 2
    omega
  | objects hne hobj =>
    rw [unify_objects hne hobj]
    refine nesting_object ?_
    intro q hq e he
    obtain ⟨pool, hpool, rfl⟩ := Option.map_eq_some_iff.mp hq
    obtain ⟨part, hpart, hmem⟩ := mem_of_mem_pooled hpool (Keyed.mem_of_mem_ofEntries he)
    obtain ⟨s, hs, hsp⟩ := List.mem_map.mp hpart
    exact nesting_property_le hsp hmem (h s hs)
  | alike hfirst hrest =>
    rw [unify_alike hfirst hrest]
    exact Nat.le_add_right_of_le (h _ List.mem_cons_self)
  | mixed hmixed =>
    rw [unify_mixed hmixed]
    exact nesting_choice h

end Schema

/-- **Three levels for each level that is opened**, and one more.  A level is opened if the sample
    has it and it is above the limit. -/
theorem nesting_schemaAt_le (s : Settings) : ∀ (v : Json) (depth : Nat),
    (Json.schemaAt s depth v).toJson.nesting ≤ 3 * min (s.maxDepth - depth) v.nesting + 1 := by
  intro v
  induction v with
  | array xs ih =>
    intro depth
    rw [Json.schemaAt_array]
    split
    · rw [Schema.nesting_ofKind]
      omega
    · next hdepth =>
      have hpos := Json.nesting_array_pos xs
      have hitem : ∀ r ∈ xs.map (Json.schemaAt s (depth + 1)), r.toJson.nesting ≤
          3 * min (s.maxDepth - (depth + 1)) ((Json.array xs).nesting - 1) + 1 := by
        intro r hr
        obtain ⟨x, hx, rfl⟩ := List.mem_map.mp hr
        have hx' : x.nesting ≤ (Json.array xs).nesting - 1 :=
          Json.nesting_array_le.mp (by omega) x hx
        have hbelow := ih x hx (depth + 1)
        omega
      have harray := Schema.nesting_arrayOf (Schema.nesting_unify hitem)
      omega
  | object es ih =>
    intro depth
    rw [Json.schemaAt_object]
    split
    · rw [Schema.nesting_ofKind]
      omega
    · next hdepth =>
      have hpos := Json.nesting_object_pos es
      have hentry : ∀ e ∈ Keyed.ofEntries (Keyed.mapValues (Json.schemaAt s (depth + 1)) es),
          e.2.toJson.nesting ≤
            3 * min (s.maxDepth - (depth + 1)) ((Json.object es).nesting - 1) + 1 := by
        intro e he
        obtain ⟨a, ha, rfl⟩ := Keyed.mem_mapValues.mp (Keyed.mem_of_mem_ofEntries he)
        have ha' : a.2.nesting ≤ (Json.object es).nesting - 1 :=
          Json.nesting_object_le.mp (by omega) a ha
        have hbelow := ih a ha (depth + 1)
        show (Json.schemaAt s (depth + 1) a.2).toJson.nesting ≤ _
        omega
      have hobject := Schema.nesting_object (p := some _)
        (r := some (Keyed.ofEntries (Keyed.mapValues (Json.schemaAt s (depth + 1)) es)).keys)
        (by rintro _ ⟨⟩; exact hentry)
      rw [Schema.objectSeen, Schema.objectOf]
      omega
  | string x =>
    intro depth
    rw [Json.schemaAt_eq, outline]
    show (Schema.text _).toJson.nesting ≤ _
    rw [Schema.nesting_text]
    omega
  | _ =>
    intro depth
    rw [Json.schemaAt_eq, outline]
    show (Schema.ofKind _).toJson.nesting ≤ _
    rw [Schema.nesting_ofKind]
    omega

/-! ## Reading inferred schemas back -/

/-- **What becomes of the text of an inferred schema.**  It is read back as the same schema exactly
    if it nests no deeper than texts may; otherwise it is refused for that reason.  It does not nest
    too deep if the depth limit is 42 or less, or if the sample nests 42 levels or less. -/
theorem infer_read_back (s : Settings) (v : Json) (l : Layout) :
    let schema := (inferJson s v).schema
    (Schema.parse (schema.write l) = .ok schema ↔ schema.toJson.nesting ≤ Json.deepest) ∧
      (Json.deepest < schema.toJson.nesting → ∃ place : Position,
        Schema.parse (schema.write l) =
          .error ("recursion limit exceeded at " ++ place.describe)) ∧
      (s.maxDepth ≤ 42 ∨ v.nesting ≤ 42 → Schema.parse (schema.write l) = .ok schema) := by
  intro schema
  have hkeys : schema.WellKeyed := wellKeyed_inferJson s v
  have hbound : schema.toJson.nesting ≤ 3 * min s.maxDepth v.nesting + 1 := by
    show (inferJson s v).schema.toJson.nesting ≤ _
    rw [Json.schema_inferJson]
    exact nesting_schemaAt_le s v 0
  have hdeepest : Json.deepest = 127 := rfl
  rcases Schema.parse_cases hkeys l with ⟨hfits, hread⟩ | ⟨hdeep, place, hfails⟩
  · refine ⟨⟨fun _ => hfits, fun _ => hread⟩, ?_, fun _ => hread⟩
    intro hdeep
    exact absurd hfits (Nat.not_le.mpr hdeep)
  · refine ⟨⟨?_, fun hfits => absurd hfits (Nat.not_le.mpr hdeep)⟩, fun _ => ⟨place, hfails⟩, ?_⟩
    · intro hread
      rw [hread] at hfails
      cases hfails
    · intro hlimit
      omega

/-! ## A sample whose schema is not read back -/

namespace Json

/-- Objects inside one another, each the only entry of the one around it. -/
def nested : Nat → Json
  | 0 => .object []
  | n + 1 => .object [("k", nested n)]

theorem textual_nested (n : Nat) : (nested n).Textual := by
  induction n with
  | zero => exact .object List.nodup_nil fun e he => absurd he List.not_mem_nil
  | succ n ih => exact .object (List.pairwise_singleton _ _) (List.forall_mem_singleton.mpr ih)

theorem nesting_nested (n : Nat) : (nested n).nesting = n + 1 := by
  induction n with
  | zero => rfl
  | succ n ih =>
    show 1 + max (nested n).nesting 0 = _
    omega

/-- Each object costs two levels, if none is at the limit. -/
theorem nesting_schemaAt_nested (s : Settings) (n : Nat) : ∀ depth, depth + n < s.maxDepth →
    (schemaAt s depth (nested n)).toJson.nesting = 2 * n + 2 := by
  induction n with
  | zero =>
    intro depth hdepth
    rw [nested, schemaAt_object, if_neg (by omega)]
    rfl
  | succ n ih =>
    intro depth hdepth
    have hinner := ih (depth + 1) (by omega)
    rw [nested, schemaAt_object, if_neg (by omega)]
    show 1 + max 0 (max (1 + max (schemaAt s (depth + 1) (nested n)).toJson.nesting 0)
      (max (1 + max 0 0) 0)) = _
    omega

end Json

/-- Of objects inside one another, as many as are read, by default none is too deep to be opened;
    from 64 on the document of the schema nests deeper than what is read. -/
theorem nested_read_and_lost {n : Nat} (hlow : 63 ≤ n) (hhigh : n < Json.deepest) (path : String)
    (l : Layout) :
    readSample path (.ok ((Json.nested n).write l)) = .ok (Json.nested n) ∧
      Json.deepest < (inferJson {} (Json.nested n)).schema.toJson.nesting := by
  have hdeepest : Json.deepest = 127 := rfl
  have hdefault : ({} : Settings).maxDepth = 256 := rfl
  refine ⟨?_, ?_⟩
  · have hdeep : (Json.nested n).nesting ≤ Json.deepest := by
      rw [Json.nesting_nested]
      exact hhigh
    unfold readSample
    simp only [(Json.textual_nested n).parse_write hdeep l]
  · rw [Json.schema_inferJson, Json.nesting_schemaAt_nested {} n 0 (by omega)]
    omega

/-- 64 objects inside one another are a sample whose schema is written down and not read back. -/
theorem nested_not_read_back :
    readSample "nested.json" (.ok ((Json.nested 63).write .compact)) = .ok (Json.nested 63) ∧
      ¬ ∃ schema, Schema.parse ((inferJson {} (Json.nested 63)).schema.write .compact) =
        .ok schema := by
  obtain ⟨hread, hnesting⟩ :=
    nested_read_and_lost (Nat.le_refl 63) (by decide) "nested.json" .compact
  refine ⟨hread, ?_⟩
  rintro ⟨schema, hparse⟩
  rcases Schema.parse_cases (wellKeyed_inferJson {} (Json.nested 63)) .compact with
    ⟨hfits, _⟩ | ⟨_, _, hfails⟩
  · exact absurd hfits (Nat.not_le.mpr hnesting)
  · rw [hfails] at hparse
    cases hparse

end SampleSchema
