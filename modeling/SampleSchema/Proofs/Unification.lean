/-
  How siblings become one schema, case by case.

  `Schema.unify` looks at the types of the siblings and at nothing else before it decides.  There
  are four ways in which siblings can agree or not (`Siblings`, complete by `siblings`), and one
  equation for `unify` in each of them:

  * no sibling            — `unify_nil`;
  * objects only          — `unify_objects`, the siblings are merged;
  * another common type   — `unify_alike`, the first sibling stands for all;
  * two different types   — `unify_mixed`, a choice between all of them.

  Proofs about `unify` split with `siblings` and rewrite with the equation of the case; the list of
  types (`tags`) is told here by membership and does not appear elsewhere.  A change of all siblings
  alike that keeps their types passes through `unify` (`unify_map`) once it passes through the merge
  of objects, for which `mergeObjects_map` is the rule.
-/
import SampleSchema.Proofs.KeyedMap
import SampleSchema.Schema.Unify

namespace SampleSchema
namespace Schema

/-! ## The list of types, by membership -/

/-- The accumulator form of `mem_tags`. -/
theorem mem_foldl_tags (ss : List Schema) : ∀ (acc : List (Option Kind)) (k : Option Kind),
    k ∈ ss.foldl (fun ts s => if s.kind ∈ ts then ts else ts ++ [s.kind]) acc ↔
      k ∈ acc ∨ ∃ s ∈ ss, s.kind = k := by
  induction ss with
  | nil => intro acc k; simp
  | cons s ss ih =>
    intro acc k
    rw [List.foldl_cons, ih]
    -- the step adds the type of `s`, by appending it or by finding it there
    have hstep : k ∈ (if s.kind ∈ acc then acc else acc ++ [s.kind]) ↔ k ∈ acc ∨ s.kind = k := by
      split
      · next h =>
        constructor
        · exact Or.inl
        · rintro (hk | rfl)
          · exact hk
          · exact h
      · rw [List.mem_append, List.mem_singleton, eq_comm]
    rw [hstep, or_assoc]
    simp only [List.mem_cons, exists_eq_or_imp]

theorem mem_tags {ss : List Schema} {k : Option Kind} : k ∈ tags ss ↔ ∃ s ∈ ss, s.kind = k := by
  unfold tags
  rw [mem_foldl_tags]
  simp

/-- The types are listed without repeats. -/
theorem nodup_tags (ss : List Schema) : (tags ss).Nodup := by
  have haux : ∀ (ss : List Schema) (acc : List (Option Kind)), acc.Nodup →
      (ss.foldl (fun ts s => if s.kind ∈ ts then ts else ts ++ [s.kind]) acc).Nodup := by
    intro ss
    induction ss with
    | nil => intro acc h; exact h
    | cons s ss ih =>
      intro acc h
      rw [List.foldl_cons]
      refine ih _ ?_
      split
      · exact h
      · next hs =>
        rw [List.nodup_append]
        refine ⟨h, by simp, ?_⟩
        intro a ha b hb hab
        rw [List.mem_singleton] at hb
        exact hs (hb ▸ hab ▸ ha)
  exact haux ss [] List.nodup_nil

/-- One type is listed exactly when there are siblings and all of them have it. -/
theorem tags_eq_singleton {ss : List Schema} {k : Option Kind} (hne : ss ≠ [])
    (h : ∀ s ∈ ss, s.kind = k) : tags ss = [k] := by
  have hall : ∀ t ∈ tags ss, t = k := by
    intro t ht
    obtain ⟨s, hs, hst⟩ := mem_tags.mp ht
    exact hst.symm.trans (h s hs)
  cases ht : tags ss with
  | nil =>
    obtain ⟨s, rest, rfl⟩ := List.exists_cons_of_ne_nil hne
    have hmem : s.kind ∈ tags (s :: rest) := mem_tags.mpr ⟨s, List.mem_cons_self, rfl⟩
    rw [ht] at hmem
    exact absurd hmem List.not_mem_nil
  | cons t ts =>
    rw [ht] at hall
    obtain rfl : t = k := hall t List.mem_cons_self
    cases ts with
    | nil => rfl
    | cons u us =>
      have hnodup := nodup_tags ss
      rw [ht, hall u (by simp)] at hnodup
      exact absurd hnodup (by simp)

/-! ## The four cases -/

/-- The ways in which siblings can agree or not on a type. -/
inductive Siblings : List Schema → Prop where
  | none : Siblings []
  | objects {ss : List Schema} (hne : ss ≠ []) (h : ∀ s ∈ ss, s.kind = some .object) : Siblings ss
  | alike {s : Schema} {rest : List Schema} (hs : s.kind ≠ some .object)
      (h : ∀ r ∈ rest, r.kind = s.kind) : Siblings (s :: rest)
  | mixed {ss : List Schema} (h : ∃ a ∈ ss, ∃ b ∈ ss, a.kind ≠ b.kind) : Siblings ss

/-- There is no fifth way. -/
theorem siblings (ss : List Schema) : Siblings ss := by
  cases ss with
  | nil => exact .none
  | cons s rest =>
    by_cases h : ∀ r ∈ rest, r.kind = s.kind
    · by_cases hs : s.kind = some .object
      · refine .objects (List.cons_ne_nil _ _) ?_
        intro r hr
        rcases List.mem_cons.mp hr with rfl | hr
        · exact hs
        · exact (h r hr).trans hs
      · exact .alike hs h
    · obtain ⟨r, hr⟩ := Classical.not_forall.mp h
      obtain ⟨hr, hne⟩ := Classical.not_imp.mp hr
      exact .mixed ⟨r, List.mem_cons_of_mem _ hr, s, List.mem_cons_self, hne⟩

theorem unify_nil : unify [] = any := rfl

theorem unify_objects {ss : List Schema} (hne : ss ≠ []) (h : ∀ s ∈ ss, s.kind = some .object) :
    unify ss = mergeObjects ss := by
  unfold unify
  rw [tags_eq_singleton hne h]

theorem unify_alike {s : Schema} {rest : List Schema} (hs : s.kind ≠ some .object)
    (h : ∀ r ∈ rest, r.kind = s.kind) : unify (s :: rest) = s := by
  have htags : tags (s :: rest) = [s.kind] := by
    refine tags_eq_singleton (List.cons_ne_nil _ _) ?_
    intro r hr
    rcases List.mem_cons.mp hr with rfl | hr
    · rfl
    · exact h r hr
  unfold unify
  rw [htags]
  split
  · next heq => cases heq
  · next heq => exact absurd (List.cons.inj heq).1 hs
  · rfl
  · next hno => exact absurd rfl (hno s.kind)

theorem unify_mixed {ss : List Schema} (h : ∃ a ∈ ss, ∃ b ∈ ss, a.kind ≠ b.kind) :
    unify ss = choice ss := by
  obtain ⟨a, ha, b, hb, hab⟩ := h
  have hat : a.kind ∈ tags ss := mem_tags.mpr ⟨a, ha, rfl⟩
  have hbt : b.kind ∈ tags ss := mem_tags.mpr ⟨b, hb, rfl⟩
  have hlong : ∀ k, tags ss ≠ [k] := by
    intro k hk
    rw [hk, List.mem_singleton] at hat hbt
    exact hab (hat.trans hbt.symm)
  unfold unify
  split
  · next heq => rw [heq] at hat; exact absurd hat List.not_mem_nil
  · next heq => exact absurd heq (hlong _)
  · next heq => exact absurd heq (hlong _)
  · rfl

/-! ## Pooling the parts that are present -/

variable {α β : Type}

theorem pooled_eq_none {parts : List (Option (List α))} (h : ∀ p ∈ parts, p = none) :
    pooled parts = none := by
  unfold pooled
  rw [if_pos]
  rw [List.all_eq_true]
  intro p hp
  rw [h p hp]
  rfl

/-- Everything in the pool was in one of the parts. -/
theorem mem_of_mem_pooled {parts : List (Option (List α))} {pool : List α} {e : α}
    (h : pooled parts = some pool) (he : e ∈ pool) : ∃ part, some part ∈ parts ∧ e ∈ part := by
  unfold pooled at h
  split at h
  · cases h
  · cases h
    obtain ⟨part, hpart, hmem⟩ := List.mem_flatten.mp he
    obtain ⟨p, hp, hid⟩ := List.mem_filterMap.mp hpart
    exact ⟨part, (show p = some part from hid) ▸ hp, hmem⟩

/-- Everything in one of the parts is in the pool, which there is then. -/
theorem mem_pooled_of_mem {parts : List (Option (List α))} {part : List α}
    (hpart : some part ∈ parts) : ∃ pool, pooled parts = some pool ∧ ∀ e ∈ part, e ∈ pool := by
  have hall : ¬ parts.all (·.isNone) = true := by
    rw [List.all_eq_true]
    intro h
    cases h _ hpart
  refine ⟨(parts.filterMap id).flatten, ?_, ?_⟩
  · unfold pooled
    rw [if_neg hall]
  · intro e he
    exact List.mem_flatten.mpr ⟨part, List.mem_filterMap.mpr ⟨some part, hpart, rfl⟩, he⟩

/-- Changing the members of every part and pooling commute. -/
theorem pooled_map (f : α → β) (parts : List (Option (List α))) :
    pooled (parts.map (Option.map (List.map f))) = (pooled parts).map (List.map f) := by
  have hnone : (parts.map (Option.map (List.map f))).all (·.isNone) = parts.all (·.isNone) := by
    rw [List.all_map]
    congr 1
    funext p
    cases p <;> rfl
  have hflat : ((parts.map (Option.map (List.map f))).filterMap id).flatten =
      ((parts.filterMap id).flatten).map f := by
    rw [List.filterMap_map, List.map_flatten, List.map_filterMap]
    rfl
  unfold pooled
  rw [hnone, hflat]
  split <;> rfl

/-- If every part is present, so is the pool, with everything in it. -/
theorem pooled_map_some {parts : List (List α)} (h : parts ≠ []) :
    pooled (parts.map some) = some parts.flatten := by
  have hall : ¬ (parts.map some).all (·.isNone) = true := by
    obtain ⟨p, rest, rfl⟩ := List.exists_cons_of_ne_nil h
    simp
  have hflat : ((parts.map some).filterMap id).flatten = parts.flatten := by
    rw [List.filterMap_map]
    simp
  unfold pooled
  rw [if_neg hall, hflat]

/-! ## Merged objects -/

/-- A merged object is told by its properties and its required keys. -/
theorem mergeObjects_eq {ss : List Schema} {p : Option (Keyed Schema)} {r : Option (List String)}
    (hp : (mergeObjects ss).properties = p) (hr : (mergeObjects ss).required = r) :
    mergeObjects ss = { kind := some .object, properties := p, required := r } := by
  rw [← hp, ← hr]
  rfl

/-- Bare objects leave a bare object. -/
theorem mergeObjects_bare {ss : List Schema} (h : ∀ s ∈ ss, s = ofKind .object) :
    mergeObjects ss = ofKind .object := by
  have hproperties : pooled (ss.map (·.properties)) = none :=
    pooled_eq_none (List.forall_mem_map.mpr fun s hs => by rw [h s hs]; rfl)
  have hrequired : pooled (ss.map (·.required)) = none :=
    pooled_eq_none (List.forall_mem_map.mpr fun s hs => by rw [h s hs]; rfl)
  refine mergeObjects_eq ?_ ?_
  · show (pooled (ss.map (·.properties))).map Keyed.ofEntries = none
    rw [hproperties, Option.map_none]
  · show (pooled (ss.map (·.required))).map firstSeen = none
    rw [hrequired, Option.map_none]

/-- The keys of the merged properties, from those of each sibling. -/
theorem keys_mergeObjects (ss : List Schema) :
    (mergeObjects ss).properties.map Keyed.keys =
      (pooled (ss.map fun s => s.properties.map Keyed.keys)).map firstSeen := by
  have hrows : (ss.map fun s => s.properties.map Keyed.keys) =
      (ss.map (·.properties)).map (Option.map (List.map (·.1))) := by
    rw [List.map_map]
    rfl
  show ((pooled (ss.map (·.properties))).map Keyed.ofEntries).map Keyed.keys = _
  rw [hrows, pooled_map, Option.map_map, Option.map_map]
  congr 1
  funext p
  exact Keyed.keys_ofEntries p

theorem distinct_mergeObjects {ss : List Schema} {p : Keyed Schema}
    (hp : (mergeObjects ss).properties = some p) : p.Distinct := by
  obtain ⟨pool, _, rfl⟩ := Option.map_eq_some_iff.mp hp
  exact Keyed.distinct_ofEntries pool

/-- The schema of a key in the merged properties is that of some sibling. -/
theorem mem_properties_mergeObjects {ss : List Schema} {p : Keyed Schema}
    (hp : (mergeObjects ss).properties = some p) {e : String × Schema} (he : e ∈ p) :
    ∃ s ∈ ss, ∃ q, s.properties = some q ∧ e ∈ q := by
  obtain ⟨pool, hpool, rfl⟩ := Option.map_eq_some_iff.mp hp
  obtain ⟨q, hq, heq⟩ := mem_of_mem_pooled hpool (Keyed.mem_of_mem_ofEntries he)
  obtain ⟨s, hs, hsq⟩ := List.mem_map.mp hq
  exact ⟨s, hs, q, hsq, heq⟩

/-- If some sibling has properties, so has the merged object. -/
theorem properties_mergeObjects_ne_none {ss : List Schema} {s : Schema} (hs : s ∈ ss)
    (hp : s.properties ≠ none) : (mergeObjects ss).properties ≠ none := by
  obtain ⟨p, hp⟩ := Option.ne_none_iff_exists'.mp hp
  have hpart : some p ∈ ss.map (·.properties) := hp ▸ List.mem_map_of_mem hs
  obtain ⟨pool, hpool, _⟩ := mem_pooled_of_mem hpart
  show (pooled (ss.map (·.properties))).map Keyed.ofEntries ≠ none
  rw [hpool]
  nofun

/-- **If each object requires the keys of its properties, so does the merged one.**  The keys to
    pool are those of the properties to pool, so dropping repeats from the ones and overwriting in
    the others leave the same keys. -/
theorem required_mergeObjects {ss : List Schema}
    (h : ∀ s ∈ ss, s.required = s.properties.map Keyed.keys) :
    (mergeObjects ss).required = (mergeObjects ss).properties.map Keyed.keys := by
  rw [keys_mergeObjects, ← List.map_congr_left h]
  rfl

/-- **The last sibling that has a property decides its schema.** -/
theorem property?_mergeObjects {ss : List Schema}
    (h : ∀ s ∈ ss, ∀ p, s.properties = some p → Keyed.Distinct p) (key : String) :
    (mergeObjects ss).property? key = ss.reverse.findSome? (·.property? key) := by
  have hrows : (mergeObjects ss).property? key =
      (Keyed.ofEntries ((ss.map (·.properties)).filterMap id).flatten).get? key := by
    show ((pooled (ss.map (·.properties))).map Keyed.ofEntries).bind (Keyed.get? · key) = _
    unfold pooled
    split
    · next hnone =>
      -- no sibling has properties: there is nothing to find on either side
      have hempty : (ss.map (·.properties)).filterMap id = [] := by
        refine List.filterMap_eq_nil_iff.mpr fun p hp => ?_
        exact Option.isNone_iff_eq_none.mp (List.all_eq_true.mp hnone p hp)
      rw [hempty]
      rfl
    · rfl
  have hdistinct : ∀ r ∈ (ss.map (·.properties)).filterMap id, Keyed.Distinct r := by
    intro r hr
    obtain ⟨p, hp, rfl⟩ := List.mem_filterMap.mp hr
    obtain ⟨s, hs, hsp⟩ := List.mem_map.mp hp
    exact h s hs r hsp
  rw [hrows, Keyed.ofEntries, Keyed.get?_insertAll_flatten hdistinct, Keyed.get?_nil,
    Option.or_none, List.filterMap_map, ← List.filterMap_reverse, ← List.head?_filterMap,
    List.filterMap_filterMap, List.head?_filterMap]
  rfl

/-- Changing the schema of every property alike and merging commute. -/
theorem mergeObjects_map {f g : Schema → Schema} {ss : List Schema}
    (hproperties : ∀ s ∈ ss, (f s).properties = s.properties.map (Keyed.mapValues g))
    (hrequired : ∀ s ∈ ss, (f s).required = s.required) :
    mergeObjects (ss.map f) =
      { mergeObjects ss with
        properties := (mergeObjects ss).properties.map (Keyed.mapValues g) } := by
  have hrows : (ss.map f).map (·.properties) =
      (ss.map (·.properties)).map (Option.map (List.map fun e => (e.1, g e.2))) := by
    rw [List.map_map, List.map_map]
    exact List.map_congr_left hproperties
  have hkeys : (ss.map f).map (·.required) = ss.map (·.required) := by
    rw [List.map_map]
    exact List.map_congr_left hrequired
  have hmerged : (pooled ((ss.map f).map (·.properties))).map Keyed.ofEntries =
      (mergeObjects ss).properties.map (Keyed.mapValues g) := by
    show _ = ((pooled (ss.map (·.properties))).map Keyed.ofEntries).map (Keyed.mapValues g)
    rw [hrows, pooled_map, Option.map_map, Option.map_map]
    congr 1
    funext p
    exact (Keyed.mapValues_ofEntries g p).symm
  unfold mergeObjects at hmerged ⊢
  rw [hmerged, hkeys]

/-- **Changing siblings and unifying them commute**, if the change keeps their types and passes
    through choices and merged objects. -/
theorem unify_map {f : Schema → Schema} (hkind : ∀ s, (f s).kind = s.kind) (hany : f any = any)
    (hchoice : ∀ ss, f (choice ss) = choice (ss.map f))
    (hmerge : ∀ ss, (∀ s ∈ ss, s.kind = some .object) →
      f (mergeObjects ss) = mergeObjects (ss.map f)) (ss : List Schema) :
    f (unify ss) = unify (ss.map f) := by
  cases siblings ss with
  | none =>
    rw [List.map_nil, unify_nil, hany]
  | objects hne hobj =>
    have hobj' : ∀ s ∈ ss.map f, s.kind = some .object :=
      List.forall_mem_map.mpr fun s hs => (hkind s).trans (hobj s hs)
    have hne' : ss.map f ≠ [] := fun hc => hne (List.map_eq_nil_iff.mp hc)
    rw [unify_objects hne hobj, unify_objects hne' hobj', hmerge ss hobj]
  | alike hs hrest =>
    next s rest =>
    have hs' : (f s).kind ≠ some .object := by
      rw [hkind]
      exact hs
    have hrest' : ∀ r ∈ rest.map f, r.kind = (f s).kind :=
      List.forall_mem_map.mpr fun r hr => by rw [hkind, hkind, hrest r hr]
    rw [unify_alike hs hrest, List.map_cons, unify_alike hs' hrest']
  | mixed hmixed =>
    have hmixed' : ∃ a ∈ ss.map f, ∃ b ∈ ss.map f, a.kind ≠ b.kind := by
      obtain ⟨a, ha, b, hb, hab⟩ := hmixed
      refine ⟨_, List.mem_map_of_mem ha, _, List.mem_map_of_mem hb, ?_⟩
      rw [hkind, hkind]
      exact hab
    rw [unify_mixed hmixed, unify_mixed hmixed', hchoice]

/-- A disagreement is one of types. -/
theorem disagreement?_congr {ss ts : List Schema} (h : ss.map (·.kind) = ts.map (·.kind)) :
    disagreement? ss = disagreement? ts := by
  have htags : ∀ rs : List Schema, tags rs =
      (rs.map (·.kind)).foldl (fun ks k => if k ∈ ks then ks else ks ++ [k]) [] := by
    intro rs
    rw [List.foldl_map]
    rfl
  have hlength : ss.length = ts.length := by
    simpa using congrArg List.length h
  unfold disagreement?
  rw [htags ss, htags ts, h, hlength]

end Schema
end SampleSchema
