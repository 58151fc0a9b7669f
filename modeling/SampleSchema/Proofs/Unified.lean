/-
  What the schema of siblings is, told apart from how it is computed.

  `Schema.unify` folds over the siblings, with a map and a list of keys that grow on the way.  Here
  its result is told by rules that fold over nothing:

  1. **One rule for each way in which siblings agree or not** (`Unified`): nothing to agree on, one
     type that is not that of objects, types that differ, objects only.

  2. **Objects** (`Merged`).  Each part of the merged object is told by the same part of the
     siblings.  It is absent if it is absent everywhere.  The keys are those of all siblings in a
     row, from which repeats are erased; what a sibling requires has no bearing on its properties,
     nor the other way round.  A property has the schema that the last sibling with this property
     gives it (`LastProperty`).

  3. **The rules and `unify` agree, both ways** (`unify_eq_iff`).  That the rules hold of the result
     is read off the folds part by part.  The crux of the other direction is that the rules leave no
     choice (`Merged.unique`): keys in a row, and one schema for each key, are a whole map.

  Nothing is asked of the siblings but that their maps are maps.  They may have parts that no
  inference puts together.
-/
import SampleSchema.Proofs.Unification

namespace SampleSchema
namespace Schema

/-! ## The rules -/

/-- The keys of the properties, if there are properties. -/
def propertyKeys (s : Schema) : List String := (s.properties.map Keyed.keys).getD []

/-- The keys that are required, if any are. -/
def requiredKeys (s : Schema) : List String := s.required.getD []

/-- Of the siblings that have this property, the last one gives it the schema `x`. -/
def LastProperty (ss : List Schema) (key : String) (x : Schema) : Prop :=
  ∃ before s after, ss = before ++ s :: after ∧ s.property? key = some x ∧
    ∀ t ∈ after, t.property? key = none

/-- `t` is an object schema pooled from those of the siblings, with nothing else of theirs. -/
structure Merged (ss : List Schema) (t : Schema) : Prop where
  kind : t.kind = some .object
  anyOf : t.anyOf = none
  items : t.items = none
  format : t.format = none
  noProperties : t.properties = none ↔ ∀ s ∈ ss, s.properties = none
  keys : ∀ p, t.properties = some p → Keyed.keys p = (ss.flatMap propertyKeys).eraseDups
  property : ∀ p, t.properties = some p → ∀ e ∈ p, LastProperty ss e.1 e.2
  noRequired : t.required = none ↔ ∀ s ∈ ss, s.required = none
  required : ∀ r, t.required = some r → r = (ss.flatMap requiredKeys).eraseDups

/-- The schema that stands for siblings, by the ways in which they agree or not. -/
inductive Unified : List Schema → Schema → Prop
  /-- Nothing was seen, so nothing is asked. -/
  | none : Unified [] any
  /-- One type, or no type throughout: the first sibling as it is. -/
  | first {s : Schema} {rest : List Schema} (hs : s.kind ≠ some .object)
      (h : ∀ r ∈ rest, r.kind = s.kind) : Unified (s :: rest) s
  /-- Different types: all siblings as they are, and nothing else. -/
  | choice {ss : List Schema} (h : ∃ a ∈ ss, ∃ b ∈ ss, a.kind ≠ b.kind) :
      Unified ss { anyOf := some ss }
  /-- Objects only. -/
  | objects {ss : List Schema} {t : Schema} (hne : ss ≠ [])
      (h : ∀ s ∈ ss, s.kind = some .object) (merged : Merged ss t) : Unified ss t

/-! ## The rules leave no choice -/

theorem LastProperty.iff_findSome? {ss : List Schema} {key : String} {x : Schema} :
    LastProperty ss key x ↔ ss.reverse.findSome? (·.property? key) = some x := by
  rw [List.findSome?_eq_some_iff]
  constructor
  · rintro ⟨before, s, after, rfl, hs, hafter⟩
    refine ⟨after.reverse, s, before.reverse, by simp, hs, ?_⟩
    intro t ht
    exact hafter t (List.mem_reverse.mp ht)
  · rintro ⟨after, s, before, hss, hs, hafter⟩
    refine ⟨before.reverse, s, after.reverse, ?_, hs, ?_⟩
    · rw [← List.reverse_reverse ss, hss]
      simp
    · intro t ht
      exact hafter t (List.mem_reverse.mp ht)

theorem LastProperty.unique {ss : List Schema} {key : String} {x y : Schema}
    (hx : LastProperty ss key x) (hy : LastProperty ss key y) : x = y := by
  have hfirst := LastProperty.iff_findSome?.mp hx
  have hsecond := LastProperty.iff_findSome?.mp hy
  exact Option.some.inj (hfirst.symm.trans hsecond)

/-- A part that is there or not for one reason, and is told where it is there. -/
theorem eq_of_absent_iff {α : Type} {a b : Option α} {absent : Prop} (ha : a = none ↔ absent)
    (hb : b = none ↔ absent) (h : ∀ x y, a = some x → b = some y → x = y) : a = b := by
  cases a with
  | none => exact (hb.mpr (ha.mp rfl)).symm
  | some x =>
    cases b with
    | none => exact ha.mpr (hb.mp rfl)
    | some y => rw [h x y rfl rfl]

/-- **There is one merged object.** -/
theorem Merged.unique {ss : List Schema} {t u : Schema} (ht : Merged ss t) (hu : Merged ss u) :
    t = u := by
  have hproperties : t.properties = u.properties := by
    refine eq_of_absent_iff ht.noProperties hu.noProperties ?_
    intro p q hp hq
    refine Keyed.eq_of_keys ((ht.keys p hp).trans (hu.keys q hq).symm) ?_
    intro k v w hv hw
    exact (ht.property p hp _ hv).unique (hu.property q hq _ hw)
  have hrequired : t.required = u.required := by
    refine eq_of_absent_iff ht.noRequired hu.noRequired ?_
    intro r r' hr hr'
    exact (ht.required r hr).trans (hu.required r' hr').symm
  obtain ⟨k, a, p, i, r, f⟩ := t
  obtain ⟨k', a', p', i', r', f'⟩ := u
  have hkind : k = k' := ht.kind.trans hu.kind.symm
  have hanyOf : a = a' := ht.anyOf.trans hu.anyOf.symm
  have hitems : i = i' := ht.items.trans hu.items.symm
  have hformat : f = f' := ht.format.trans hu.format.symm
  subst hkind hanyOf hitems hformat
  rw [show p = p' from hproperties, show r = r' from hrequired]

/-! ## Merging follows the rules -/

variable {α : Type}

theorem pooled_eq_none_iff {parts : List (Option (List α))} :
    pooled parts = none ↔ ∀ p ∈ parts, p = none := by
  refine ⟨fun h p hp => ?_, pooled_eq_none⟩
  cases p with
  | none => rfl
  | some part =>
    obtain ⟨pool, hpool, _⟩ := mem_pooled_of_mem hp
    rw [h] at hpool
    cases hpool

/-- What is pooled is all parts in a row. -/
theorem pooled_eq_some {parts : List (Option (List α))} {pool : List α}
    (h : pooled parts = some pool) : pool = parts.flatMap (·.getD []) := by
  have hflat : ∀ parts : List (Option (List α)),
      (parts.filterMap id).flatten = parts.flatMap (·.getD []) := by
    intro parts
    induction parts with
    | nil => rfl
    | cons p parts ih =>
      rw [List.flatMap_cons, ← ih]
      cases p <;> rfl
  unfold pooled at h
  split at h
  · cases h
  · exact (Option.some.inj h).symm.trans (hflat parts)

theorem merged_mergeObjects {ss : List Schema}
    (hkeys : ∀ s ∈ ss, ∀ p, s.properties = some p → Keyed.Distinct p) :
    Merged ss (mergeObjects ss) where
  kind := rfl
  anyOf := rfl
  items := rfl
  format := rfl
  noProperties := by
    show (pooled (ss.map (·.properties))).map Keyed.ofEntries = none ↔ _
    rw [Option.map_eq_none_iff, pooled_eq_none_iff, List.forall_mem_map]
  keys := by
    intro p hp
    have hrow := keys_mergeObjects ss
    rw [hp] at hrow
    obtain ⟨pool, hpool, hfirst⟩ := Option.map_eq_some_iff.mp hrow.symm
    have hall : pool = ss.flatMap propertyKeys := by
      rw [pooled_eq_some hpool, List.flatMap_map]
      rfl
    rw [← hfirst, hall, firstSeen_eq_eraseDups]
  property := by
    intro p hp e he
    have hlookup : (mergeObjects ss).property? e.1 = some e.2 := by
      show (mergeObjects ss).properties.bind (Keyed.get? · e.1) = some e.2
      rw [hp]
      exact (Keyed.get?_eq_some_iff (distinct_mergeObjects hp)).mpr he
    rw [property?_mergeObjects hkeys] at hlookup
    exact LastProperty.iff_findSome?.mpr hlookup
  noRequired := by
    show (pooled (ss.map (·.required))).map firstSeen = none ↔ _
    rw [Option.map_eq_none_iff, pooled_eq_none_iff, List.forall_mem_map]
  required := by
    intro r hr
    obtain ⟨pool, hpool, hfirst⟩ := Option.map_eq_some_iff.mp hr
    have hall : pool = ss.flatMap requiredKeys := by
      rw [pooled_eq_some hpool, List.flatMap_map]
      rfl
    rw [← hfirst, hall, firstSeen_eq_eraseDups]

/-! ## Unifying follows the rules -/

/-- **What the schema of siblings is.**  It is the one that the rules give: for no sibling the
    schema that accepts everything; for siblings of one type other than object, or without type, the
    first one as it is; for siblings of different types the choice between all of them as they are;
    for objects the merged object. -/
theorem unify_eq_iff {ss : List Schema}
    (hkeys : ∀ s ∈ ss, ∀ p, s.properties = some p → Keyed.Distinct p) (t : Schema) :
    unify ss = t ↔ Unified ss t := by
  constructor
  · rintro rfl
    cases siblings ss with
    | none => exact .none
    | objects hne hobj =>
      rw [unify_objects hne hobj]
      exact .objects hne hobj (merged_mergeObjects hkeys)
    | alike hs hrest =>
      rw [unify_alike hs hrest]
      exact .first hs hrest
    | mixed hmixed =>
      rw [unify_mixed hmixed]
      exact .choice hmixed
  · intro h
    cases h with
    | none => exact unify_nil
    | first hs hrest => exact unify_alike hs hrest
    | choice hmixed => exact unify_mixed hmixed
    | objects hne hobj merged =>
      rw [unify_objects hne hobj]
      exact (merged_mergeObjects hkeys).unique merged

/-- Objects with parts that no inference gives to objects, or gives together: a format, keys that
    are required twice or are no properties, properties without required keys, nothing at all. -/
theorem unify_eq_iff_stray :
    let ss : List Schema := [
      { kind := some .object, properties := some [("a", .ofKind .integer), ("b", .any)]
        required := some ["b", "z", "b"], format := some .uri },
      { kind := some .object },
      { kind := some .object, properties := some [("c", .ofKind .null), ("a", .text none)]
        anyOf := some [.any] }]
    let t : Schema :=
      { kind := some .object
        properties := some [("a", .text none), ("b", .any), ("c", .ofKind .null)]
        required := some ["b", "z"] }
    (∀ s ∈ ss, ∀ p, s.properties = some p → Keyed.Distinct p) ∧ unify ss = t ∧ Unified ss t := by
  intro ss t
  have hkeys : ∀ s ∈ ss, ∀ p, s.properties = some p → Keyed.Distinct p := by
    intro s hs p hp
    simp only [ss, List.mem_cons, List.not_mem_nil, or_false] at hs
    rcases hs with rfl | rfl | rfl
    · cases hp
      exact (by decide : ["a", "b"].Nodup)
    · cases hp
    · cases hp
      exact (by decide : ["c", "a"].Nodup)
  exact ⟨hkeys, rfl, (unify_eq_iff hkeys t).mp rfl⟩

end Schema
end SampleSchema
