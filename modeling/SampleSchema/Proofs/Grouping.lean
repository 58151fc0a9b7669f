/-
  Siblings in groups.

  Siblings that have one type can be unified at once, or in groups: each group becomes one schema,
  and the schemas of the groups become one.  Both ways give the same schema, down to the order of
  its properties and of its required keys (`unify_groups`).

  With a type other than that of objects there is little to see, since the first sibling of the
  first group stands for all on either side.  For objects the two parts of the merged object are
  regrouped apart from each other, by one argument (`map_pooled_groups`).  A part is a pool of rows
  that is then cleared of repeats, and

  * a part is absent from a group if it is absent from each of its members, so it is absent from all
    groups if it is absent from all members;
  * to clear the groups first and their pool again is to clear the whole pool once.  For the
    properties, in which the last row decides on the schema and the first one on the place, that is
    `Keyed.ofEntries_flatten`; the required keys, in which only places matter, inherit it
    (`firstSeen_flatten`).

  Siblings of different types do not regroup: a group of one type would be told by its first member,
  and a group of several types has itself no type.
-/
import SampleSchema.Proofs.Unified

namespace SampleSchema

/-- Keys in order of first appearance may be gathered in parts. -/
theorem firstSeen_flatten (rows : List (List String)) :
    firstSeen (rows.map firstSeen).flatten = firstSeen rows.flatten := by
  -- keys are the keys of a map in which every key is set to the same value
  have hkeys : ∀ ks : List String,
      (Keyed.ofEntries (ks.map fun k => (k, ()))).keys = firstSeen ks := by
    intro ks
    rw [Keyed.keys_ofEntries, List.map_map]
    exact congrArg firstSeen (List.map_id ks)
  have hrows := congrArg Keyed.keys
    (Keyed.ofEntries_flatten (rows.map fun ks => ks.map fun k => (k, ())))
  rw [← List.map_flatten, hkeys, Keyed.keys_ofEntries, List.map_flatten, List.map_map,
    List.map_map] at hrows
  rw [← hrows]
  congr 2
  exact List.map_congr_left fun ks _ => (hkeys ks).symm

namespace Schema

/-! ## Pools of pools -/

variable {α : Type}

/-- The rows in a pool, be there one or not. -/
theorem getD_pooled (parts : List (Option (List α))) :
    (pooled parts).getD [] = parts.flatMap (·.getD []) := by
  cases h : pooled parts with
  | none =>
    refine (List.flatMap_eq_nil_iff.mpr fun p hp => ?_).symm
    rw [pooled_eq_none_iff.mp h p hp]
    rfl
  | some pool => exact pooled_eq_some h

/-- What is pooled from groups, where `clear` drops from a pool what it repeats, and may do so as
    well part by part. -/
theorem map_pooled_groups {clear : List α → List α} (hnil : clear [] = [])
    (hparts : ∀ rows : List (List α), clear (rows.map clear).flatten = clear rows.flatten)
    (groups : List (List (Option (List α)))) :
    (pooled (groups.map fun g => (pooled g).map clear)).map clear =
      (pooled groups.flatten).map clear := by
  have habsent : (pooled groups.flatten).map clear = none ↔ ∀ p ∈ groups.flatten, p = none := by
    rw [Option.map_eq_none_iff, pooled_eq_none_iff]
  have habsent' : (pooled (groups.map fun g => (pooled g).map clear)).map clear = none ↔
      ∀ p ∈ groups.flatten, p = none := by
    rw [Option.map_eq_none_iff, pooled_eq_none_iff, List.forall_mem_flatten, List.forall_mem_map]
    simp only [Option.map_eq_none_iff, pooled_eq_none_iff]
  have hrow : ∀ g : List (Option (List α)),
      ((pooled g).map clear).getD [] = clear (g.flatMap (·.getD [])) := by
    intro g
    calc ((pooled g).map clear).getD []
        = ((pooled g).map clear).getD (clear []) := by rw [hnil]
      _ = clear ((pooled g).getD []) := Option.getD_map clear [] (pooled g)
      _ = clear (g.flatMap (·.getD [])) := by rw [getD_pooled]
  refine eq_of_absent_iff habsent' habsent ?_
  intro x y hx hy
  obtain ⟨pool, hpool, rfl⟩ := Option.map_eq_some_iff.mp hx
  obtain ⟨all, hall, rfl⟩ := Option.map_eq_some_iff.mp hy
  have hgroups : pool = ((groups.map fun g => g.flatMap (·.getD [])).map clear).flatten := by
    rw [pooled_eq_some hpool, List.flatMap_map, List.flatMap_def, List.map_map]
    exact congrArg List.flatten (List.map_congr_left fun g _ => hrow g)
  have hmembers : all = (groups.map fun g => g.flatMap (·.getD [])).flatten := by
    rw [pooled_eq_some hall, List.flatMap_def, List.map_flatten, List.flatten_flatten, List.map_map]
    rfl
  rw [hgroups, hmembers, hparts]

/-! ## Merged objects in groups -/

/-- **Merging objects goes in groups**, whatever parts the objects have. -/
theorem mergeObjects_groups (groups : List (List Schema)) :
    mergeObjects (groups.map mergeObjects) = mergeObjects groups.flatten := by
  refine mergeObjects_eq ?_ ?_
  · have h := map_pooled_groups rfl Keyed.ofEntries_flatten
      (groups.map fun g => g.map Schema.properties)
    rw [List.map_map, ← List.map_flatten] at h
    show (pooled ((groups.map mergeObjects).map (·.properties))).map Keyed.ofEntries = _
    rw [List.map_map]
    exact h
  · have h := map_pooled_groups rfl firstSeen_flatten (groups.map fun g => g.map Schema.required)
    rw [List.map_map, ← List.map_flatten] at h
    show (pooled ((groups.map mergeObjects).map (·.required))).map firstSeen = _
    rw [List.map_map]
    exact h

/-! ## Unified siblings in groups -/

/-- Siblings of one type unify to a schema of this type. -/
theorem kind_unify {ss : List Schema} {k : Option Kind} (hne : ss ≠ []) (h : ∀ s ∈ ss, s.kind = k) :
    (unify ss).kind = k := by
  cases siblings ss with
  | none => exact absurd rfl hne
  | objects hne hobj =>
    obtain ⟨s, rest, rfl⟩ := List.exists_cons_of_ne_nil hne
    rw [unify_objects hne hobj, ← h s List.mem_cons_self, hobj s List.mem_cons_self]
    rfl
  | alike hs hrest =>
    rw [unify_alike hs hrest]
    exact h _ List.mem_cons_self
  | mixed hmixed =>
    obtain ⟨a, ha, b, hb, hab⟩ := hmixed
    exact absurd ((h a ha).trans (h b hb).symm) hab

/-- **Siblings of one type may be unified in groups**, in which they stay in their order. -/
theorem unify_groups {groups : List (List Schema)} (hne : ∀ g ∈ groups, g ≠ [])
    (h : ∀ a ∈ groups.flatten, ∀ b ∈ groups.flatten, a.kind = b.kind) :
    unify (groups.map unify) = unify groups.flatten := by
  cases groups with
  | nil => rfl
  | cons g gs =>
    obtain ⟨s, rest, rfl⟩ := List.exists_cons_of_ne_nil (hne g List.mem_cons_self)
    have hfirst : s ∈ ((s :: rest) :: gs).flatten :=
      List.mem_flatten.mpr ⟨_, List.mem_cons_self, List.mem_cons_self⟩
    have hkind : ∀ g ∈ (s :: rest) :: gs, ∀ a ∈ g, a.kind = s.kind := fun g hg a ha =>
      h a (List.mem_flatten.mpr ⟨g, hg, ha⟩) s hfirst
    have hgroup : ∀ a ∈ ((s :: rest) :: gs).map unify, a.kind = s.kind :=
      List.forall_mem_map.mpr fun g hg => kind_unify (hne g hg) (hkind g hg)
    by_cases hs : s.kind = some .object
    · have hmerge : ((s :: rest) :: gs).map unify = ((s :: rest) :: gs).map mergeObjects :=
        List.map_congr_left fun g hg =>
          unify_objects (hne g hg) fun a ha => (hkind g hg a ha).trans hs
      calc unify (((s :: rest) :: gs).map unify)
          = mergeObjects (((s :: rest) :: gs).map unify) :=
            unify_objects (List.cons_ne_nil _ _) fun a ha => (hgroup a ha).trans hs
        _ = mergeObjects (((s :: rest) :: gs).map mergeObjects) := by rw [hmerge]
        _ = mergeObjects ((s :: rest) :: gs).flatten := mergeObjects_groups _
        _ = unify ((s :: rest) :: gs).flatten :=
            (unify_objects (List.cons_ne_nil _ _) fun a ha => (h a ha s hfirst).trans hs).symm
    · -- the first member of the first group stands for its group, and for all groups
      have hstands : unify (s :: rest) = s := unify_alike hs fun r hr =>
        hkind _ List.mem_cons_self r (List.mem_cons_of_mem _ hr)
      calc unify (unify (s :: rest) :: gs.map unify)
          = unify (s :: gs.map unify) := by rw [hstands]
        _ = s := unify_alike hs fun r hr => hgroup r (List.mem_cons_of_mem _ hr)
        _ = unify (s :: (rest ++ gs.flatten)) :=
            (unify_alike hs fun r hr => h r (List.mem_cons_of_mem _ hr) s hfirst).symm

/-- **Unifying goes in chunks.**  Two rows of siblings, all of one type or without type, unify to
    what their two schemas unify to; and so do any number of groups, with the order of properties
    and of required keys.  Nothing else is asked of the siblings. -/
theorem unify_chunks :
    (∀ xs ys : List Schema, xs ≠ [] → ys ≠ [] →
      (∀ a ∈ xs ++ ys, ∀ b ∈ xs ++ ys, a.kind = b.kind) →
      unify (xs ++ ys) = unify [unify xs, unify ys]) ∧
    (∀ groups : List (List Schema), (∀ g ∈ groups, g ≠ []) →
      (∀ a ∈ groups.flatten, ∀ b ∈ groups.flatten, a.kind = b.kind) →
      unify (groups.map unify) = unify groups.flatten) := by
  refine ⟨?_, fun groups hne h => unify_groups hne h⟩
  intro xs ys hxs hys h
  have hflat : [xs, ys].flatten = xs ++ ys := by simp
  rw [← hflat] at h ⊢
  exact (unify_groups (List.forall_mem_cons.mpr ⟨hxs, List.forall_mem_singleton.mpr hys⟩) h).symm

/-- Objects some parts of which are absent, with a key whose place comes from the first group and
    its schema from the last one, and a required key that is repeated. -/
theorem unify_chunks_absent :
    let a : Schema := { kind := some .object, required := some ["z", "k", "z"] }
    let b : Schema :=
      { kind := some .object, properties := some [("k", .any), ("l", .text none)] }
    let c : Schema := { kind := some .object, properties := some [], format := some .uri }
    let d : Schema :=
      { kind := some .object, properties := some [("m", .any), ("k", .ofKind .null)]
        required := some ["k"] }
    let whole : Schema :=
      { kind := some .object
        properties := some [("k", .ofKind .null), ("l", .text none), ("m", .any)]
        required := some ["z", "k"] }
    unify [a, b, c, d] = whole ∧ unify [unify [a, b], unify [c, d]] = whole ∧
      unify [unify [a], unify [b, c], unify [d]] = whole := by
  intro a b c d whole
  have hkind : ∀ x ∈ [a, b, c, d], ∀ y ∈ [a, b, c, d], x.kind = y.kind := by
    have hobject : ∀ x ∈ [a, b, c, d], x.kind = some .object := by simp [a, b, c, d]
    exact fun x hx y hy => (hobject x hx).trans (hobject y hy).symm
  have hwhole : unify [a, b, c, d] = whole := rfl
  refine ⟨hwhole, ?_, ?_⟩
  · exact (unify_chunks.1 [a, b] [c, d] (List.cons_ne_nil _ _) (List.cons_ne_nil _ _) hkind).symm
  · exact unify_chunks.2 [[a], [b, c], [d]] (by simp) hkind

end Schema
end SampleSchema
