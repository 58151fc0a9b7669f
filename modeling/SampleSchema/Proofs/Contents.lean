/-
  What the contents of scalars decide: formats, and nothing else.

  Two values have the same SHAPE if they differ at most in which booleans, which strings and which
  numbers they hold; a number without fraction stays one.  Inference on the one and on the other,
  with whatever switches, gives the same once formats are erased, and reports the same events.

  1. **Erasing formats passes through everything that builds schemas.**  `Schema.withoutFormats`
     keeps the type of every node, so siblings agree on a type before it exactly if they do after
     it.  The crux is `withoutFormats_unify`: which sibling stands for all, which property
     overwrites which, and whether there is a choice were decided without a look at formats.

  2. **Values of one shape** are then followed in step, from containers to their parts, once for the
     schema (`withoutFormats_schemaAt`) and once for the events (`events_outline`), which tell of
     kinds, depths and counts only.
-/
import SampleSchema.Proofs.JsonTree
import SampleSchema.Proofs.Placement

namespace SampleSchema

/-! ## Schemas without formats -/

namespace Schema

mutual

/-- Erase every format, at any depth. -/
def withoutFormats : Schema → Schema
  | ⟨k, a, p, i, r, _⟩ =>
    { kind := k
      anyOf := match a with
        | none => none
        | some ss => some (withoutFormatsAll ss)
      properties := match p with
        | none => none
        | some es => some (withoutFormatsUnder es)
      items := match i with
        | none => none
        | some s => some (withoutFormats s)
      required := r }

/-- Erase the formats in every schema of a list. -/
def withoutFormatsAll : List Schema → List Schema
  | [] => []
  | s :: ss => withoutFormats s :: withoutFormatsAll ss

/-- Erase the formats in the schema of every entry. -/
def withoutFormatsUnder : List (String × Schema) → List (String × Schema)
  | [] => []
  | (key, s) :: es => (key, withoutFormats s) :: withoutFormatsUnder es

end

theorem withoutFormatsAll_eq_map (ss : List Schema) :
    withoutFormatsAll ss = ss.map withoutFormats := by
  induction ss with
  | nil => rfl
  | cons s ss ih => rw [withoutFormatsAll, ih, List.map_cons]

theorem withoutFormatsUnder_eq_mapValues (es : List (String × Schema)) :
    withoutFormatsUnder es = Keyed.mapValues withoutFormats es := by
  induction es with
  | nil => rfl
  | cons e es ih =>
    rw [withoutFormatsUnder, ih]
    rfl

/-- A node keeps its parts, its format apart. -/
theorem withoutFormats_eq (s : Schema) :
    s.withoutFormats =
      { kind := s.kind
        anyOf := s.anyOf.map (List.map withoutFormats)
        properties := s.properties.map (Keyed.mapValues withoutFormats)
        items := s.items.map withoutFormats
        required := s.required } := by
  obtain ⟨k, a, p, i, r, f⟩ := s
  rw [withoutFormats.eq_def]
  dsimp only
  congr 1
  · cases a with
    | none => rfl
    | some ss => exact congrArg some (withoutFormatsAll_eq_map ss)
  · cases p with
    | none => rfl
    | some es => exact congrArg some (withoutFormatsUnder_eq_mapValues es)
  · cases i <;> rfl

@[simp] theorem kind_withoutFormats (s : Schema) : s.withoutFormats.kind = s.kind := by
  rw [withoutFormats_eq]

theorem isSome_anyOf_withoutFormats (s : Schema) :
    s.withoutFormats.anyOf.isSome = s.anyOf.isSome := by
  rw [withoutFormats_eq, Option.isSome_map]

theorem withoutFormats_ofKind (k : Kind) : (ofKind k).withoutFormats = ofKind k :=
  withoutFormats_eq _

theorem withoutFormats_text (f : Option Format) : (text f).withoutFormats = ofKind .string :=
  withoutFormats_eq _

theorem withoutFormats_any : any.withoutFormats = any := withoutFormats_eq _

theorem withoutFormats_choice (ss : List Schema) :
    (choice ss).withoutFormats = choice (ss.map withoutFormats) := withoutFormats_eq _

theorem withoutFormats_arrayOf (i : Schema) :
    (arrayOf i).withoutFormats = arrayOf i.withoutFormats := withoutFormats_eq _

theorem withoutFormats_objectSeen (p : Keyed Schema) :
    (objectSeen p).withoutFormats = objectSeen (Keyed.mapValues withoutFormats p) := by
  refine (withoutFormats_eq _).trans ?_
  rw [objectSeen, objectSeen, objectOf, objectOf, Keyed.keys_mapValues]
  rfl

/-- Erasing formats and merging objects commute. -/
theorem withoutFormats_mergeObjects (ss : List Schema) :
    (mergeObjects ss).withoutFormats = mergeObjects (ss.map withoutFormats) := by
  have hproperties : ∀ s ∈ ss, s.withoutFormats.properties =
      s.properties.map (Keyed.mapValues withoutFormats) := fun s _ => by rw [withoutFormats_eq]
  have hrequired : ∀ s ∈ ss, s.withoutFormats.required = s.required :=
    fun s _ => by rw [withoutFormats_eq]
  rw [withoutFormats_eq, mergeObjects_map hproperties hrequired]
  rfl

/-- **Erasing formats and unifying siblings commute**, whatever the siblings. -/
theorem withoutFormats_unify (ss : List Schema) :
    (unify ss).withoutFormats = unify (ss.map withoutFormats) :=
  unify_map kind_withoutFormats withoutFormats_any withoutFormats_choice
    (fun ss _ => withoutFormats_mergeObjects ss) ss

end Schema

/-! ## Values of one shape -/

namespace Json

/-- The same kinds everywhere, the same keys in the same order, and as many items.  Numbers without
    fraction are a kind of their own. -/
inductive SameShape : Json → Json → Prop where
  | null : SameShape .null .null
  | bool (b c : Bool) : SameShape (.bool b) (.bool c)
  | number {m n : Number} (whole : m.isWhole = n.isWhole) : SameShape (.number m) (.number n)
  | string (s t : String) : SameShape (.string s) (.string t)
  | array {xs ys : List Json} (items : List.Forall₂ SameShape xs ys) :
      SameShape (.array xs) (.array ys)
  | object {es fs : List (String × Json)} (keys : es.map (·.1) = fs.map (·.1))
      (values : List.Forall₂ SameShape (es.map (·.2)) (fs.map (·.2))) :
      SameShape (.object es) (.object fs)

variable {v w : Json}

theorem SameShape.kind_look (h : v.SameShape w) : v.look.kind = w.look.kind := by
  cases h with
  | number whole =>
    show (if _ then _ else _) = (if _ then _ else _)
    rw [whole]
  | _ => rfl

/-! ## Followed in step -/

variable (t u : Toggles) {d depth : Nat}

/-- Of a value that holds no others only the type is left. -/
theorem withoutFormats_scalar (hv : v.look.container? = none) :
    (schemaAt ⟨d, t⟩ depth v).withoutFormats = .ofKind v.look.kind := by
  rw [schemaAt_eq, outline]
  cases v with
  | array xs => cases hv
  | object es => cases hv
  | string s => exact Schema.withoutFormats_text _
  | _ => exact Schema.withoutFormats_ofKind _

theorem events_scalar (hv : v.look.container? = none) :
    (outline d look depth [] v).events t = [] := by
  rw [outline]
  cases v with
  | array xs => cases hv
  | object es => cases hv
  | _ => rfl

/-- **The schema of a value in its place**, formats erased, is that of its shape. -/
theorem SameShape.withoutFormats_schemaAt (h : v.SameShape w) : ∀ depth,
    (schemaAt ⟨d, t⟩ depth v).withoutFormats = (schemaAt ⟨d, u⟩ depth w).withoutFormats := by
  induction v generalizing w with
  | array xs ih =>
    cases h with
    | array items =>
      intro depth
      rw [schemaAt_array, schemaAt_array]
      by_cases hd : d ≤ depth
      · rw [if_pos hd, if_pos hd]
      · rw [if_neg hd, if_neg hd, Schema.withoutFormats_arrayOf, Schema.withoutFormats_arrayOf,
          Schema.withoutFormats_unify, Schema.withoutFormats_unify, List.map_map, List.map_map]
        congr 2
        exact map_eq_map_of_forall₂ items fun x hx y hxy => ih x hx hxy (depth + 1)
  | object es ih =>
    cases h with
    | @object es fs keys values =>
      intro depth
      rw [schemaAt_object, schemaAt_object]
      by_cases hd : d ≤ depth
      · rw [if_pos hd, if_pos hd]
      · rw [if_neg hd, if_neg hd, Schema.withoutFormats_objectSeen,
          Schema.withoutFormats_objectSeen, Keyed.mapValues_ofEntries, Keyed.mapValues_ofEntries]
        have hrows : Keyed.mapValues Schema.withoutFormats
              (Keyed.mapValues (schemaAt ⟨d, t⟩ (depth + 1)) es) =
            Keyed.mapValues Schema.withoutFormats
              (Keyed.mapValues (schemaAt ⟨d, u⟩ (depth + 1)) fs) := by
          rw [Keyed.mapValues, Keyed.mapValues, Keyed.mapValues, Keyed.mapValues, List.map_map,
            List.map_map]
          refine map_eq_map_of_forall₂ (forall₂_entries_iff.mpr ⟨keys, values⟩) ?_
          rintro e he f ⟨hkey, hef⟩
          exact Prod.ext hkey (ih e he hef (depth + 1))
        rw [hrows]
  | _ =>
    intro depth
    have hkind := h.kind_look
    cases h
    rw [withoutFormats_scalar t rfl, withoutFormats_scalar u rfl, hkind]

/-- **The events of a value in its place** are those of its shape. -/
theorem SameShape.events_outline (h : v.SameShape w) : ∀ depth,
    (outline d look depth [] v).events t = (outline d look depth [] w).events u := by
  induction v generalizing w with
  | array xs ih =>
    cases h with
    | @array xs ys items =>
      intro depth
      have hv : (Json.array xs).look = .array none xs := rfl
      have hw : (Json.array ys).look = .array none ys := rfl
      rw [outline_array hv, outline_array hw]
      by_cases hd : d ≤ depth
      · rw [if_pos hd, if_pos hd]
        rfl
      · rw [if_neg hd, if_neg hd, Outline.events, Outline.events, Outline.itemEvents_eq_flatMap,
          Outline.itemEvents_eq_flatMap, Outline.schemas_eq_map, Outline.schemas_eq_map,
          List.flatMap_def, List.flatMap_def, List.map_map, List.map_map, List.map_map,
          List.map_map]
        have hevents : xs.map (Outline.events t ∘ outline d look (depth + 1) []) =
            ys.map (Outline.events u ∘ outline d look (depth + 1) []) :=
          map_eq_map_of_forall₂ items fun x hx y hxy => ih x hx hxy (depth + 1)
        have hkinds : (xs.map (Outline.schema t ∘ outline d look (depth + 1) [])).map (·.kind) =
            (ys.map (Outline.schema u ∘ outline d look (depth + 1) [])).map (·.kind) := by
          rw [List.map_map, List.map_map]
          refine map_eq_map_of_forall₂ items fun x _ y hxy => ?_
          show ((outline d look (depth + 1) [] x).schema t).kind =
            ((outline d look (depth + 1) [] y).schema u).kind
          rw [kind_schema_outline, kind_schema_outline, hxy.kind_look]
        rw [hevents, Schema.disagreement?_congr hkinds]
  | object es ih =>
    cases h with
    | @object es fs keys values =>
      intro depth
      have hv : (Json.object es).look = .object none es := rfl
      have hw : (Json.object fs).look = .object none fs := rfl
      rw [outline_object hv, outline_object hw]
      by_cases hd : d ≤ depth
      · rw [if_pos hd, if_pos hd]
        rfl
      · rw [if_neg hd, if_neg hd, Outline.events, Outline.events, Outline.entryEvents_eq_flatMap,
          Outline.entryEvents_eq_flatMap, List.flatMap_def, List.flatMap_def, List.map_map,
          List.map_map]
        congr 1
        refine map_eq_map_of_forall₂ (forall₂_entries_iff.mpr ⟨keys, values⟩) ?_
        rintro e he f ⟨_, hef⟩
        exact ih e he hef (depth + 1)
  | _ =>
    intro depth
    cases h
    rw [events_scalar t rfl, events_scalar u rfl]

end Json

/-- **Only the shape decides, formats aside.**  Two values of one shape, looked at with any switches
    and the same limit, have schemas that are the same once formats are erased, and the same
    events. -/
theorem infer_sameShape {v w : Json} (h : v.SameShape w) (t u : Toggles) (d : Nat) :
    (inferJson ⟨d, t⟩ v).schema.withoutFormats = (inferJson ⟨d, u⟩ w).schema.withoutFormats ∧
      (inferJson ⟨d, t⟩ v).log = (inferJson ⟨d, u⟩ w).log := by
  have hschema : (inferJson ⟨d, t⟩ v).schema.withoutFormats =
      (inferJson ⟨d, u⟩ w).schema.withoutFormats := by
    rw [Json.schema_inferJson, Json.schema_inferJson]
    exact h.withoutFormats_schemaAt t u 0
  refine ⟨hschema, ?_⟩
  -- the closing event tells of the type and of a choice, which are left once formats are erased
  have hkind := congrArg Schema.kind hschema
  have hchoice := congrArg (fun s : Schema => s.anyOf.isSome) hschema
  rw [Schema.kind_withoutFormats, Schema.kind_withoutFormats] at hkind
  simp only [Schema.isSome_anyOf_withoutFormats] at hchoice
  have hlog : ∀ (t : Toggles) (x : Json), (inferJson ⟨d, t⟩ x).log =
      (outline d Json.look 0 [] x).events t ++
        [.inferred (inferJson ⟨d, t⟩ x).schema.kind (inferJson ⟨d, t⟩ x).schema.anyOf.isSome] := by
    intro t x
    rw [inferJson_eq, infer_eq]
  rw [hlog, hlog, h.events_outline t u 0, hkind, hchoice]

/-- A mail address against another text, and numbers and booleans that differ; the format is found
    on one side only. -/
theorem infer_sameShape_mail :
    let v : Json :=
      .object [("m", .string "a@b.c"), ("xs", .array [.number (.whole 1), .bool true])]
    let w : Json := .object [("m", .string ""), ("xs", .array [.number (.whole 7), .bool false])]
    let t : Toggles := { uri := false }
    v.SameShape w ∧
      (inferJson ⟨2, t⟩ v).schema.withoutFormats = (inferJson ⟨2, .none⟩ w).schema.withoutFormats ∧
      (inferJson ⟨2, t⟩ v).log = (inferJson ⟨2, .none⟩ w).log ∧
      ((inferJson ⟨2, t⟩ v).schema.property? "m").map (·.format) = some (some .email) ∧
      ((inferJson ⟨2, .none⟩ w).schema.property? "m").map (·.format) = some none := by
  intro v w t
  have hshape : v.SameShape w :=
    .object rfl (.cons (.string _ _) (.cons (.array (.cons (.number rfl) (.cons (.bool _ _) .nil)))
      .nil))
  obtain ⟨hschema, hlog⟩ := infer_sameShape hshape t .none 2
  exact ⟨hshape, hschema, hlog, rfl, rfl⟩

end SampleSchema
