/-
  Many objects, or one object with all their entries.

  There are two ways to sum up entries.  Inside one object they set the keys of one map, from left
  to right.  Objects side by side in an array first become schemas, each with a map of its own and a
  row of required keys, and then the maps and the rows are merged.  The two ways agree:

      array [o₁, …, oₙ]  and  array [o]    where o has the entries of o₁, of o₂, …, of oₙ

  have the same schema, keys that repeat inside one object or across objects included
  (`infer_concatenated`).

  The crux is `mergeObjects_objectSeen`, about schemas alone: maps that are built in parts are built
  at once (`Keyed.ofEntries_flatten`), and the required keys follow the properties
  (`required_mergeObjects`).  At the limit there is nothing to agree on, since all the objects are
  bare.  Identities are out of the way where nothing repeats (`infer_eq_of_unrepeated`).
-/
import SampleSchema.Proofs.Identities
import SampleSchema.Proofs.Shape

namespace SampleSchema

/-! ## Merged maps -/

namespace Schema

/-- **Merging objects is building one**: properties and required keys are those of a single object
    with all the entries. -/
theorem mergeObjects_objectSeen {rows : List (List (String × Schema))} (hne : rows ≠ []) :
    mergeObjects (rows.map fun row => objectSeen (Keyed.ofEntries row)) =
      objectSeen (Keyed.ofEntries rows.flatten) := by
  have hproperties :
      (mergeObjects (rows.map fun row => objectSeen (Keyed.ofEntries row))).properties =
        some (Keyed.ofEntries rows.flatten) := by
    have hparts : (rows.map fun row => objectSeen (Keyed.ofEntries row)).map (·.properties) =
        (rows.map Keyed.ofEntries).map some := by
      rw [List.map_map, List.map_map]
      rfl
    have hne' : rows.map Keyed.ofEntries ≠ [] := fun h => hne (List.map_eq_nil_iff.mp h)
    show (pooled ((rows.map fun row => objectSeen (Keyed.ofEntries row)).map
      (·.properties))).map Keyed.ofEntries = _
    rw [hparts, pooled_map_some hne', Option.map_some, Keyed.ofEntries_flatten]
  have hrequired : (mergeObjects (rows.map fun row => objectSeen (Keyed.ofEntries row))).required
      = some (Keyed.ofEntries rows.flatten).keys := by
    rw [required_mergeObjects (List.forall_mem_map.mpr fun row _ => rfl), hproperties]
    rfl
  exact mergeObjects_eq hproperties hrequired

/-- Objects side by side, as one object. -/
theorem unify_objectSeen {rows : List (List (String × Schema))} (hne : rows ≠ []) :
    unify (rows.map fun row => objectSeen (Keyed.ofEntries row)) =
      objectSeen (Keyed.ofEntries rows.flatten) := by
  have hne' : rows.map (fun row => objectSeen (Keyed.ofEntries row)) ≠ [] :=
    fun h => hne (List.map_eq_nil_iff.mp h)
  rw [unify_objects hne' (List.forall_mem_map.mpr fun row _ => rfl), mergeObjects_objectSeen hne]

/-- Bare objects side by side, as one. -/
theorem unify_bare {ss : List Schema} (hne : ss ≠ []) (h : ∀ s ∈ ss, s = ofKind .object) :
    unify ss = ofKind .object := by
  rw [unify_objects hne fun s hs => by rw [h s hs]; rfl, mergeObjects_bare h]

end Schema

/-! ## Objects side by side in a sample -/

variable {σ : Type} {look : σ → Layer σ}

theorem Layer.eq_object_of_kind {l : Layer σ} (h : l.kind = .object) :
    l = .object l.identity? l.entries := by
  cases l with
  | object i es => rfl
  | number n => by_cases hn : n.isWhole <;> simp [Layer.kind, hn] at h
  | _ => cases h

/-- Objects side by side at some depth have the schema of one object with all the entries, at that
    depth. -/
theorem unify_schema_outline {limit depth : Nat} {t : Toggles} {above : List Nat} {o : σ}
    {os : List σ} (hne : os ≠ []) (hos : ∀ p ∈ os, look p = .object none (look p).entries)
    (ho : look o = .object none (os.flatMap fun p => (look p).entries)) :
    Schema.unify (os.map fun p => (outline limit look depth above p).schema t) =
      Schema.unify [(outline limit look depth above o).schema t] := by
  by_cases hlimit : limit ≤ depth
  · -- all of them are bare
    have hbare : ∀ (p : σ) es, look p = .object none es →
        (outline limit look depth above p).schema t = .ofKind .object := by
      intro p es hp
      rw [schema_outline_object t hp, if_pos hlimit]
    rw [Schema.unify_bare (fun h => hne (List.map_eq_nil_iff.mp h))
        (List.forall_mem_map.mpr fun p hp => hbare p _ (hos p hp)),
      Schema.unify_bare (List.cons_ne_nil _ _) (List.forall_mem_singleton.mpr (hbare o _ ho))]
  · -- each of them has a row of properties, and the one object has all the rows
    let row (es : List (String × σ)) : List (String × Schema) := Keyed.mapValues
      (fun y => (outline limit look (depth + 1) above y).schema t) es
    have hrow : ∀ (p : σ) es, look p = .object none es →
        (outline limit look depth above p).schema t = .objectSeen (Keyed.ofEntries (row es)) := by
      intro p es hp
      rw [schema_outline_object t hp, if_neg hlimit]
    have hmany : os.map (fun p => (outline limit look depth above p).schema t) =
        (os.map fun p => row (look p).entries).map fun r => .objectSeen (Keyed.ofEntries r) := by
      rw [List.map_map]
      exact List.map_congr_left fun p hp => hrow p _ (hos p hp)
    have hflat : row (os.flatMap fun p => (look p).entries) =
        (os.map fun p => row (look p).entries).flatten := List.map_flatMap ..
    have hrows : (os.map fun p => row (look p).entries) ≠ [] :=
      fun h => hne (List.map_eq_nil_iff.mp h)
    have hsingle := Schema.unify_objectSeen
      (List.cons_ne_nil (os.map fun p => row (look p).entries).flatten [])
    rw [List.flatten_singleton] at hsingle
    rw [hmany, Schema.unify_objectSeen hrows, hrow o _ ho, hflat]
    exact hsingle.symm

/-- The same of whole samples, the arrays and the objects in them without identity. -/
theorem schema_outline_concatenated {limit : Nat} (t : Toggles) {x y o : σ} {os : List σ}
    (hx : look x = .array none os) (hne : os ≠ [])
    (hos : ∀ p ∈ os, look p = .object none (look p).entries) (hy : look y = .array none [o])
    (ho : look o = .object none (os.flatMap fun p => (look p).entries)) :
    (outline limit look 0 [] x).schema t = (outline limit look 0 [] y).schema t := by
  rw [schema_outline_array t hx, schema_outline_array t hy, unify_schema_outline hne hos ho]
  rfl

/-! ## The identities of the one object and of the many -/

/-- If nothing repeats around the objects, nothing repeats around the one object either, provided
    that the array around it has an identity that nothing inside has. -/
theorem unrepeated_concatenated {x y o : σ} {i j : Option Nat} {os : List σ}
    (hx : look x = .array i os) (hy : look y = .array j [o])
    (ho : look o = .object none (os.flatMap fun p => (look p).entries))
    (hfree : Unrepeated look x) (hj : ∀ k, j = some k → j = i ∨ ¬ Within look o k) :
    Unrepeated look y := by
  have hxs : (look x).parts = os := by rw [hx, Layer.parts_array]
  have hys : (look y).parts = [o] := by rw [hy, Layer.parts_array]
  -- the parts of the one object are those of the many
  have hpart : ∀ v ∈ (look o).parts, ∃ p ∈ (look x).parts, v ∈ (look p).parts := by
    intro v hv
    rw [ho, Layer.parts_object] at hv
    obtain ⟨e, he, rfl⟩ := List.mem_map.mp hv
    obtain ⟨p, hp, hep⟩ := List.mem_flatMap.mp he
    exact ⟨p, hxs ▸ hp, List.mem_append_right _ (List.mem_map_of_mem hep)⟩
  have hroot := unrepeated_iff.mp hfree
  have hone : Unrepeated look o := by
    refine unrepeated_iff.mpr ⟨?_, ?_⟩
    · intro k hk
      rw [ho] at hk
      cases hk
    · intro v hv
      obtain ⟨p, hp, hvp⟩ := hpart v hv
      exact (unrepeated_iff.mp (hroot.2 p hp)).2 v hvp
  refine unrepeated_iff.mpr ⟨?_, ?_⟩
  · intro k hk a ha hwithin
    rw [hys, List.mem_singleton] at ha
    subst ha
    rw [hy] at hk
    have hjk : j = some k := hk
    rcases hj k hjk with hij | hnot
    · -- with the identity of the first array, what is inside the object is inside that array
      rcases within_iff.mp hwithin with hok | ⟨v, hv, hvk⟩
      · rw [ho] at hok
        cases hok
      · obtain ⟨p, hp, hvp⟩ := hpart v hv
        have hik : (look x).identity? = some k := by
          rw [hx]
          exact hij.symm.trans hjk
        exact hroot.1 k hik p hp (within_iff.mpr (Or.inr ⟨v, hvp, hvk⟩))
    · exact hnot hwithin
  · intro a ha
    rw [hys, List.mem_singleton] at ha
    exact ha ▸ hone

/-- **An array of objects infers exactly like an array of their concatenation.**  The objects, at
    least one, may repeat keys inside and across; the one object has all their entries in their
    order, and no identity.  No container has the identity of one around it; the array around the
    one object has the identity of the first array, or one that nothing inside has, or none. -/
theorem infer_concatenated (s : Settings) (look : σ → Layer σ) {x y o : σ} {i j : Option Nat}
    {os : List σ} (hx : look x = .array i os) (hne : os ≠ [])
    (hos : ∀ p ∈ os, (look p).kind = .object) (hy : look y = .array j [o])
    (ho : look o = .object none (os.flatMap fun p => (look p).entries))
    (hfree : Unrepeated look x) (hj : ∀ k, j = some k → j = i ∨ ¬ Within look o k) :
    (infer s look x).schema = (infer s look y).schema := by
  have hfree' : Unrepeated look y := unrepeated_concatenated hx hy ho hfree hj
  rw [infer_eq_of_unrepeated s hfree, infer_eq_of_unrepeated s hfree', infer_eq, infer_eq]
  -- the same objects, seen without identities
  have hx' : relabel look (fun _ => none) x = .array none os := by rw [relabel, hx]; rfl
  have hy' : relabel look (fun _ => none) y = .array none [o] := by rw [relabel, hy]; rfl
  have hbare : ∀ p ∈ os, relabel look (fun _ => none) p = .object none (look p).entries := by
    intro p hp
    rw [relabel, Layer.eq_object_of_kind (hos p hp)]
    rfl
  have hentries : ∀ p ∈ os, (relabel look (fun _ => none) p).entries = (look p).entries := by
    intro p hp
    rw [hbare p hp]
    rfl
  have hos' : ∀ p ∈ os, relabel look (fun _ => none) p =
      .object none (relabel look (fun _ => none) p).entries := by
    intro p hp
    rw [hentries p hp, hbare p hp]
  have ho' : relabel look (fun _ => none) o =
      .object none (os.flatMap fun p => (relabel look (fun _ => none) p).entries) := by
    rw [List.flatMap_congr hentries, relabel, ho]
    rfl
  exact schema_outline_concatenated s.formats hx' hne hos' hy' ho'

/-- Three objects, two of them with the same identity, and keys that repeat inside and across. -/
theorem infer_concatenated_repeats :
    let os : List Node := [
      .object (some 2) [("a", .boolean true), ("b", .null), ("a", .number (.whole 1))],
      .object none [],
      .object (some 2) [("c", .string "x"), ("a", .null)]]
    let o : Node := .object none [("a", .boolean true), ("b", .null), ("a", .number (.whole 1)),
      ("c", .string "x"), ("a", .null)]
    Unrepeated Node.look (.array (some 1) os) ∧
      (infer {} Node.look (.array (some 1) os)).schema =
        (infer {} Node.look (.array (some 1) [o])).schema ∧
      (infer {} Node.look (.array (some 1) [o])).schema = .arrayOf (.objectSeen
        [("a", .ofKind .null), ("b", .ofKind .null), ("c", .text none)]) := by
  intro os o
  -- the objects have other identities than the array, and what they hold has none
  have hobject : ∀ p ∈ os, p.look.identity? ≠ some 1 := by
    simp only [os]
    decide
  have hleaf : ∀ p ∈ os, ∀ a ∈ p.look.parts,
      a.look.identity? = none ∧ a.look.parts.isEmpty = true := by
    simp only [os]
    decide
  have hwithin : ∀ p ∈ os, ∀ a ∈ p.look.parts, ∀ k, ¬ Within Node.look a k := by
    intro p hp a ha k hk
    obtain ⟨hid, hparts⟩ := hleaf p hp a ha
    rcases within_iff.mp hk with hk | ⟨b, hb, _⟩
    · rw [hid] at hk
      cases hk
    · rw [List.isEmpty_iff.mp hparts] at hb
      exact List.not_mem_nil hb
  have hfree : Unrepeated Node.look (.array (some 1) os) := by
    refine unrepeated_iff.mpr ⟨?_, ?_⟩
    · intro k hk p hp hpk
      cases hk
      rcases within_iff.mp hpk with hid | ⟨a, ha, hak⟩
      · exact hobject p hp hid
      · exact hwithin p hp a ha 1 hak
    · intro p hp
      refine unrepeated_iff.mpr ⟨fun k _ a ha => hwithin p hp a ha k, ?_⟩
      intro a ha
      refine unrepeated_iff.mpr ?_
      rw [List.isEmpty_iff.mp (hleaf p hp a ha).2]
      exact ⟨fun _ _ b hb => absurd hb List.not_mem_nil, List.forall_mem_nil _⟩
  refine ⟨hfree, ?_, rfl⟩
  refine infer_concatenated {} Node.look rfl (List.cons_ne_nil _ _) ?_ rfl rfl hfree ?_
  · simp [os, Node.look, Layer.kind]
  · intro k _
    exact Or.inl rfl

end SampleSchema
