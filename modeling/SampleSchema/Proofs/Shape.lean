/-
  The shape of an inferred schema.

  A schema has six optional parts and admits far more combinations than inference ever builds.
  `Typed` says which ones it builds: every schema has a type, every other part appears with its own
  type only, `required` repeats the keys of `properties`, and below `items` there is either nothing
  known, or one such schema, or a choice between schemas of at least two types (`ItemShape`).  A
  choice and the schema that accepts everything appear there and nowhere else.

  The crux is the merge of objects: its `properties` are built last value first place, its
  `required` separately, without repeats, from the same siblings.  Both end with the same keys in
  the same order (`Schema.required_mergeObjects`), because on either side only the row of keys
  matters, and bare objects, which have neither part, add to neither row.
-/
import SampleSchema.Proofs.KeyedMap
import SampleSchema.Proofs.Outline
import SampleSchema.Proofs.Unification

namespace SampleSchema

/-! ## The grammar of inferred schemas -/

mutual

/-- A schema with a type, as inference builds it under the toggles `t`. -/
inductive Typed (t : Toggles) : Schema → Prop where
  | intro {s : Schema} {k : Kind} (kind : s.kind = some k)
      (anyOf : s.anyOf = none)
      (format : ∀ f, s.format = some f → k = .string ∧ Format.enabled t f = true)
      (items : s.items ≠ none → k = .array)
      (item : ∀ i, s.items = some i → ItemShape t i)
      (properties : s.properties ≠ none → k = .object)
      (required : s.required = s.properties.map Keyed.keys)
      (distinct : ∀ p, s.properties = some p → Keyed.Distinct p)
      (property : ∀ p, s.properties = some p → ∀ e ∈ p, Typed t e.2) : Typed t s

/-- What stands below `items`. -/
inductive ItemShape (t : Toggles) : Schema → Prop where
  /-- No item was seen. -/
  | any : ItemShape t .any
  | typed {s : Schema} (h : Typed t s) : ItemShape t s
  | choice {ss : List Schema} (h : ∀ s ∈ ss, Typed t s) (two : 2 ≤ ss.length)
      (differ : ∃ a ∈ ss, ∃ b ∈ ss, a.kind ≠ b.kind) : ItemShape t (.choice ss)

end

/-! ## Each way of building a schema stays inside the grammar -/

namespace Typed

variable {t : Toggles}

/-- A type, and at most a format. -/
theorem plain {k : Kind} {f : Option Format}
    (h : ∀ g, f = some g → k = .string ∧ Format.enabled t g = true) :
    Typed t { kind := some k, format := f } := by
  refine .intro rfl rfl h ?_ ?_ ?_ rfl ?_ ?_
  · intro hi; exact absurd rfl hi
  · intro i hi; cases hi
  · intro hp; exact absurd rfl hp
  · intro p hp; cases hp
  · intro p hp; cases hp

theorem ofKind (k : Kind) : Typed t (.ofKind k) := plain nofun

theorem text {f : Option Format} (h : ∀ g, f = some g → Format.enabled t g = true) :
    Typed t (.text f) := plain fun g hg => ⟨rfl, h g hg⟩

theorem arrayOf {i : Schema} (h : ItemShape t i) : Typed t (.arrayOf i) := by
  refine .intro rfl rfl ?_ ?_ ?_ ?_ rfl ?_ ?_
  · intro f hf; cases hf
  · intro _; rfl
  · intro j hj; cases hj; exact h
  · intro hp; exact absurd rfl hp
  · intro p hp; cases hp
  · intro p hp; cases hp

/-- The type of objects, and at most properties with all their keys required. -/
theorem object {p : Option (Keyed Schema)} (hd : ∀ q, p = some q → q.Distinct)
    (h : ∀ q, p = some q → ∀ e ∈ q, Typed t e.2) :
    Typed t { kind := some .object, properties := p, required := p.map Keyed.keys } := by
  refine .intro rfl rfl ?_ ?_ ?_ ?_ rfl hd h
  · intro f hf; cases hf
  · intro hi; exact absurd rfl hi
  · intro i hi; cases hi
  · intro _; rfl

theorem objectSeen {p : Keyed Schema} (hd : p.Distinct) (h : ∀ e ∈ p, Typed t e.2) :
    Typed t (.objectSeen p) := by
  refine object (p := some p) ?_ ?_
  · intro q hq; cases hq; exact hd
  · intro q hq; cases hq; exact h

theorem required_eq {s : Schema} (h : Typed t s) : s.required = s.properties.map Keyed.keys := by
  cases h with
  | intro _ _ _ _ _ _ required _ _ => exact required

theorem anyOf_eq {s : Schema} (h : Typed t s) : s.anyOf = none := by
  cases h with
  | intro _ anyOf _ _ _ _ _ _ _ => exact anyOf

/-- Only arrays have items. -/
theorem items_eq_none {s : Schema} (h : Typed t s) (hk : s.kind ≠ some .array) :
    s.items = none := by
  cases h with
  | intro kind _ _ items _ _ _ _ _ =>
    cases hi : s.items with
    | none => rfl
    | some i => exact absurd (kind.trans (congrArg some (items (by rw [hi]; nofun)))) hk

theorem distinct_properties {s : Schema} (h : Typed t s) :
    ∀ p, s.properties = some p → Keyed.Distinct p := by
  cases h with
  | intro _ _ _ _ _ _ _ distinct _ => exact distinct

theorem of_mem_properties {s : Schema} (h : Typed t s) {p : Keyed Schema}
    (hp : s.properties = some p) {e : String × Schema} (he : e ∈ p) : Typed t e.2 := by
  cases h with
  | intro _ _ _ _ _ _ _ _ property => exact property p hp e he

/-- **Merging keeps the shape.** -/
theorem mergeObjects {ss : List Schema} (h : ∀ s ∈ ss, Typed t s) :
    Typed t (Schema.mergeObjects ss) := by
  have hrequired := Schema.required_mergeObjects fun s hs => (h s hs).required_eq
  rw [Schema.mergeObjects_eq rfl hrequired]
  refine object ?_ ?_
  · intro p hp
    exact Schema.distinct_mergeObjects hp
  · intro p hp e he
    obtain ⟨s, hs, q, hq, heq⟩ := Schema.mem_properties_mergeObjects hp he
    exact (h s hs).of_mem_properties hq heq

end Typed

/-- What stands below `items` once the items are unified. -/
theorem ItemShape.unify {t : Toggles} {ss : List Schema} (h : ∀ s ∈ ss, Typed t s) :
    ItemShape t (Schema.unify ss) := by
  cases Schema.siblings ss with
  | none =>
    rw [Schema.unify_nil]
    exact .any
  | objects hne hobj =>
    rw [Schema.unify_objects hne hobj]
    exact .typed (.mergeObjects h)
  | alike hs hrest =>
    rw [Schema.unify_alike hs hrest]
    exact .typed (h _ List.mem_cons_self)
  | mixed hmixed =>
    rw [Schema.unify_mixed hmixed]
    refine .choice h ?_ hmixed
    -- two members of different types are two members
    obtain ⟨a, ha, b, hb, hab⟩ := hmixed
    match ss, ha, hb with
    | [s], ha, hb =>
      rw [List.mem_singleton] at ha hb
      exact absurd (ha ▸ hb ▸ rfl) hab
    | _ :: _ :: _, _, _ => show 2 ≤ _ + 1 + 1; omega

/-! ## Every outline has a schema of this shape -/

theorem Outline.schema_typed (t : Toggles) (o : Outline) : Typed t (o.schema t) := by
  induction o with
  | null => exact .ofKind _
  | boolean => exact .ofKind _
  | number n => exact .ofKind _
  | string x =>
    refine .text ?_
    intro f hf
    have hfound := List.find?_some hf
    rw [Bool.and_eq_true] at hfound
    exact hfound.1
  | foreign => exact .ofKind _
  | tooDeep kind depth limit => exact .ofKind _
  | cyclic kind depth => exact .ofKind _
  | array items ih =>
    rw [Outline.schema, Outline.schemas_eq_map]
    refine .arrayOf (.unify ?_)
    intro s hs
    obtain ⟨o, ho, rfl⟩ := List.mem_map.mp hs
    exact ih o ho
  | object entries ih =>
    rw [Outline.schema, Outline.properties_eq_map]
    refine .objectSeen (Keyed.distinct_ofEntries _) ?_
    intro e he
    obtain ⟨a, ha, rfl⟩ := List.mem_map.mp (Keyed.mem_of_mem_ofEntries he)
    exact ih a ha

/-- **Every inferred schema has this shape**, whatever the sample, the toggles and the limit; its
    type is that of the sample, and a sample without JSON form gives a plain string. -/
theorem infer_shape {σ : Type} (s : Settings) (look : σ → Layer σ) (x : σ) :
    Typed s.formats (infer s look x).schema ∧
      (infer s look x).schema.kind = some (look x).kind ∧
      (look x = .foreign → (infer s look x).schema = .ofKind .string) := by
  rw [infer_eq]
  refine ⟨Outline.schema_typed _ _, kind_schema_outline _ look _ 0 [] x, ?_⟩
  intro h
  rw [outline, h]
  rfl

end SampleSchema
