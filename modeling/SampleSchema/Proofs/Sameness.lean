/-
  Schemas that are the same.

  Two schemas are compared part by part, lists in order, and properties key by key whatever their
  order (`Schema.same`).  Siblings that are the same, one by one, unify to schemas that are the same
  and have documents that are.

  1. **One layer.**  The comparison goes through one map and asks the other for each key.  Where no
     key is set twice, that is to say that the maps have the same keys and under each key the same
     (`Keyed.perm_keys_and_get?_iff`).  In this form a layer of two schemas is told by equations and
     look-ups (`SameBy`, `same_iff`), on both sides alike.

  2. **Things which are the same as one thing are the same as each other** (`same_euclid`), by
     induction on the one thing; with reflexivity, this gives symmetry and transitivity.  No
     induction goes over two schemas at once.

  3. **The crux is the merge of objects**, which goes by the order of the properties: it places a
     key where it was seen first and keeps what was seen last.  But the last sibling that has a key
     is the same on both sides, so the look-ups are (`rel_property?_mergeObjects`), and places do
     not count.

  4. Documents are compared in the same way (`Json.Reordered`), by induction (`same_toJson`).
-/
import Mathlib.Data.List.Perm.Subperm
import SampleSchema.Proofs.Rearrangement
import SampleSchema.Proofs.SchemaText

namespace SampleSchema

/-! ## Parts that are related to one thing -/

theorem rel_imp {α β : Type} {R S : α → β → Prop} {x : Option α} {y : Option β}
    (hxy : Option.Rel R x y) (h : ∀ a, x = some a → ∀ b, R a b → S a b) : Option.Rel S x y := by
  cases hxy with
  | none => exact .none
  | some hab => exact .some (h _ rfl _ hab)

theorem rel_map {α β γ δ : Type} {R : α → β → Prop} {S : γ → δ → Prop} {f : α → γ} {g : β → δ}
    {x : Option α} {y : Option β} (hxy : Option.Rel R x y)
    (h : ∀ a, x = some a → ∀ b, R a b → S (f a) (g b)) : Option.Rel S (x.map f) (y.map g) := by
  cases hxy with
  | none => exact .none
  | some hab => exact .some (h _ rfl _ hab)

theorem rel_euclid {α β γ : Type} {R : α → β → Prop} {S : α → γ → Prop} {T : β → γ → Prop}
    {x : Option α} {y : Option β} {z : Option γ} (hxy : Option.Rel R x y) (hxz : Option.Rel S x z)
    (h : ∀ a, x = some a → ∀ b c, R a b → S a c → T b c) : Option.Rel T y z := by
  cases hxy with
  | none =>
    cases hxz
    exact .none
  | some hab =>
    cases hxz with
    | some hac => exact .some (h _ rfl _ _ hab hac)

theorem forall₂_euclid {α β γ : Type} {R : α → β → Prop} {S : α → γ → Prop} {T : β → γ → Prop}
    {xs : List α} {ys : List β} {zs : List γ} (hxy : List.Forall₂ R xs ys)
    (hxz : List.Forall₂ S xs zs) (h : ∀ a ∈ xs, ∀ b c, R a b → S a c → T b c) :
    List.Forall₂ T ys zs := by
  induction hxy generalizing zs with
  | nil =>
    cases hxz
    exact .nil
  | cons hab _ ih =>
    cases hxz with
    | cons hac hrest =>
      refine .cons (h _ List.mem_cons_self _ _ hab hac) (ih hrest ?_)
      exact fun a ha => h a (List.mem_cons_of_mem _ ha)

/-- **Going through one map and asking the other** is to compare keys and look-ups, if the one map
    sets no key twice. -/
theorem Keyed.perm_keys_and_get?_iff {α β : Type} {R : α → β → Prop} {m : Keyed α} {n : Keyed β}
    (hm : m.Distinct) :
    (List.Perm m.keys n.keys ∧ ∀ key, Option.Rel R (m.get? key) (n.get? key)) ↔
      m.length = n.length ∧ ∀ e ∈ m, ∃ y, n.get? e.1 = some y ∧ R e.2 y := by
  constructor
  · rintro ⟨hkeys, hget⟩
    have hlength := hkeys.length_eq
    rw [keys, keys, List.length_map, List.length_map] at hlength
    refine ⟨hlength, fun e he => ?_⟩
    have hrel := hget e.1
    rw [(get?_eq_some_iff hm).mpr he] at hrel
    generalize n.get? e.1 = o at hrel
    cases hrel with
    | some hy => exact ⟨_, rfl, hy⟩
  · rintro ⟨hlength, hall⟩
    -- as many keys as on the other side, and all of them there
    have hsubset : m.keys ⊆ n.keys := by
      intro key hkey
      obtain ⟨e, he, rfl⟩ := mem_keys.mp hkey
      obtain ⟨y, hy, _⟩ := hall e he
      exact mem_keys.mpr ⟨_, mem_of_get? hy, rfl⟩
    have hkeys : List.Perm m.keys n.keys := by
      refine (List.subperm_of_subset hm hsubset).perm_of_length_le ?_
      rw [keys, keys, List.length_map, List.length_map]
      exact Nat.le_of_eq hlength.symm
    refine ⟨hkeys, fun key => ?_⟩
    cases hget : m.get? key with
    | some x =>
      obtain ⟨y, hy, hxy⟩ := hall _ (mem_of_get? hget)
      rw [hy]
      exact .some hxy
    | none =>
      have hnot : key ∉ m.keys := by
        intro hkey
        obtain ⟨e, he, rfl⟩ := mem_keys.mp hkey
        rw [(get?_eq_some_iff hm).mpr he] at hget
        cases hget
      rw [get?_of_not_mem fun hkey => hnot (hkeys.mem_iff.mpr hkey)]
      exact .none

namespace Schema

/-! ## The parts of a schema -/

/-- The schemas that stand directly in a schema. -/
def parts (s : Schema) : List Schema :=
  s.anyOf.getD [] ++ (s.properties.getD []).map (·.2) ++ s.items.toList

variable {a b c s x : Schema}

theorem mem_parts_iff : x ∈ s.parts ↔ (∃ ss, s.anyOf = some ss ∧ x ∈ ss) ∨
    (∃ p, s.properties = some p ∧ ∃ e ∈ p, e.2 = x) ∨ s.items = some x := by
  unfold parts
  rw [List.mem_append, List.mem_append, List.mem_map, Option.mem_toList, or_assoc]
  cases s.anyOf <;> cases s.properties <;> simp

theorem mem_parts_of_anyOf {ss : List Schema} (h : s.anyOf = some ss) (hx : x ∈ ss) :
    x ∈ s.parts :=
  mem_parts_iff.mpr (.inl ⟨ss, h, hx⟩)

theorem mem_parts_of_property? {key : String} (h : s.property? key = some x) : x ∈ s.parts := by
  obtain ⟨p, hp, hx⟩ := Option.bind_eq_some_iff.mp h
  exact mem_parts_iff.mpr (.inr (.inl ⟨p, hp, _, Keyed.mem_of_get? hx, rfl⟩))

theorem mem_parts_of_items (h : s.items = some x) : x ∈ s.parts :=
  mem_parts_iff.mpr (.inr (.inr h))

namespace WellKeyed

theorem distinct (h : s.WellKeyed) : ∀ p, s.properties = some p → Keyed.Distinct p := by
  cases h with
  | intro _ distinct _ _ => exact distinct

theorem parts (h : s.WellKeyed) : ∀ x ∈ s.parts, x.WellKeyed := by
  cases h with
  | intro alternative _ property item =>
    intro x hx
    rcases mem_parts_iff.mp hx with ⟨ss, hs, hx⟩ | ⟨p, hs, e, he, rfl⟩ | hs
    · exact alternative ss hs x hx
    · exact property p hs e he
    · exact item x hs

/-- Induction over schemas, with one hypothesis for all parts. -/
theorem induction {motive : Schema → Prop}
    (step : ∀ s, s.WellKeyed → (∀ x ∈ s.parts, motive x) → motive s) (h : s.WellKeyed) :
    motive s := by
  induction h with
  | @intro s alternative distinct property item ihs ihp ihi =>
    refine step s (.intro alternative distinct property item) fun x hx => ?_
    rcases mem_parts_iff.mp hx with ⟨ss, hs, hx⟩ | ⟨p, hs, e, he, rfl⟩ | hs
    · exact ihs ss hs x hx
    · exact ihp p hs e he
    · exact ihi x hs

end WellKeyed

/-! ## The comparison, layer by layer -/

/-- One layer of two schemas is the same, with parts that `R` relates; the order of properties does
    not count. -/
structure SameBy (R : Schema → Schema → Prop) (a b : Schema) : Prop where
  kind : a.kind = b.kind
  required : a.required = b.required
  format : a.format = b.format
  alternatives : Option.Rel (List.Forall₂ R) a.anyOf b.anyOf
  item : Option.Rel R a.items b.items
  keys : Option.Rel List.Perm (a.properties.map Keyed.keys) (b.properties.map Keyed.keys)
  property : ∀ key, Option.Rel R (a.property? key) (b.property? key)

/-- If the one map sets no key twice, the other one does not. -/
theorem SameBy.distinct {R : Schema → Schema → Prop} (h : SameBy R a b)
    (ha : ∀ p, a.properties = some p → Keyed.Distinct p) :
    ∀ p, b.properties = some p → Keyed.Distinct p := by
  intro q hq
  have hkeys := h.keys
  rw [hq] at hkeys
  generalize a.properties = o at hkeys ha
  cases o with
  | none => cases hkeys
  | some p =>
    cases hkeys with
    | some hperm => exact hperm.nodup_iff.mp (ha p rfl)

theorem sameAll_iff {xs ys : List Schema} :
    sameAll xs ys = true ↔ List.Forall₂ (fun x y => same x y = true) xs ys := by
  induction xs generalizing ys with
  | nil => cases ys <;> simp [sameAll]
  | cons x xs ih => cases ys <;> simp [sameAll, ih]

theorem sameUnder_iff {m n : List (String × Schema)} : sameUnder m n = true ↔
    ∀ e ∈ m, ∃ y, Keyed.get? n e.1 = some y ∧ same e.2 y = true := by
  induction m with
  | nil => simp [sameUnder]
  | cons e m ih =>
    obtain ⟨key, x⟩ := e
    rw [sameUnder, Bool.and_eq_true, ih, List.forall_mem_cons]
    cases Keyed.get? n key <;> simp

theorem sameBy_iff {R : Schema → Schema → Prop} : SameBy R a b ↔
    ((((a.kind = b.kind ∧ a.required = b.required) ∧ a.format = b.format) ∧
      Option.Rel (List.Forall₂ R) a.anyOf b.anyOf) ∧ Option.Rel R a.items b.items) ∧
      Option.Rel List.Perm (a.properties.map Keyed.keys) (b.properties.map Keyed.keys) ∧
        ∀ key, Option.Rel R (a.property? key) (b.property? key) :=
  ⟨fun ⟨h₁, h₂, h₃, h₄, h₅, h₆, h₇⟩ => ⟨⟨⟨⟨⟨h₁, h₂⟩, h₃⟩, h₄⟩, h₅⟩, h₆, h₇⟩,
    fun ⟨⟨⟨⟨⟨h₁, h₂⟩, h₃⟩, h₄⟩, h₅⟩, h₆, h₇⟩ => ⟨h₁, h₂, h₃, h₄, h₅, h₆, h₇⟩⟩

/-- **The comparison decides sameness layer by layer**, where no key is set twice. -/
theorem same_iff (ha : ∀ p, a.properties = some p → Keyed.Distinct p) :
    same a b = true ↔ SameBy (fun x y => same x y = true) a b := by
  obtain ⟨k, as, p, i, r, f⟩ := a
  obtain ⟨k', as', p', i', r', f'⟩ := b
  rw [sameBy_iff, same.eq_def]
  simp only [Bool.and_eq_true, decide_eq_true_eq]
  refine and_congr (and_congr (and_congr Iff.rfl ?_) ?_) ?_
  · cases as <;> cases as' <;> simp [sameAll_iff]
  · cases i <;> cases i' <;> simp
  · cases p with
    | none => cases p' <;> simp [property?]
    | some m =>
      cases p' with
      | none => simp
      | some n =>
        simp only [Bool.and_eq_true, decide_eq_true_eq, sameUnder_iff]
        have hmaps := Keyed.perm_keys_and_get?_iff (R := fun x y => same x y = true) (n := n)
          (ha m rfl)
        refine hmaps.symm.trans ?_
        simp [property?]

/-! ## An equivalence relation -/

theorem same_refl (ha : a.WellKeyed) : same a a = true := by
  refine ha.induction (motive := fun s => same s s = true) fun s hs ih => ?_
  refine (same_iff hs.distinct).mpr ⟨rfl, rfl, rfl, ?_, ?_, ?_, fun key => ?_⟩
  · cases h : s.anyOf with
    | none => exact .none
    | some ss => exact .some (List.forall₂_same.mpr fun x hx => ih x (mem_parts_of_anyOf h hx))
  · cases h : s.items with
    | none => exact .none
    | some x => exact .some (ih x (mem_parts_of_items h))
  · cases s.properties with
    | none => exact .none
    | some p => exact .some (.refl _)
  · cases h : s.property? key with
    | none => exact .none
    | some x => exact .some (ih x (mem_parts_of_property? h))

/-- **Things which are the same as one thing are the same as each other.** -/
theorem same_euclid (ha : a.WellKeyed) : ∀ {b c : Schema}, same a b = true → same a c = true →
    same b c = true := by
  refine ha.induction (motive := fun s => ∀ {b c : Schema}, same s b = true → same s c = true →
    same b c = true) fun s hs ih b c hb hc => ?_
  have hsb := (same_iff hs.distinct).mp hb
  have hsc := (same_iff hs.distinct).mp hc
  refine (same_iff (hsb.distinct hs.distinct)).mpr ⟨hsb.kind.symm.trans hsc.kind,
    hsb.required.symm.trans hsc.required, hsb.format.symm.trans hsc.format, ?_, ?_, ?_, ?_⟩
  · refine rel_euclid hsb.alternatives hsc.alternatives fun ss hss ts us hst hsu => ?_
    exact forall₂_euclid hst hsu fun x hx y z => ih x (mem_parts_of_anyOf hss hx)
  · exact rel_euclid hsb.item hsc.item fun x hx y z => ih x (mem_parts_of_items hx)
  · exact rel_euclid hsb.keys hsc.keys fun _ _ _ _ hst hsu => hst.symm.trans hsu
  · intro key
    exact rel_euclid (hsb.property key) (hsc.property key) fun x hx y z =>
      ih x (mem_parts_of_property? hx)

theorem same_symm (ha : a.WellKeyed) (h : same a b = true) : same b a = true :=
  same_euclid ha h (same_refl ha)

theorem same_trans (ha : a.WellKeyed) (hb : b.WellKeyed) (hab : same a b = true)
    (hbc : same b c = true) : same a c = true :=
  same_euclid hb (same_symm ha hab) hbc

/-! ## Documents -/

/-- **Schemas that are the same have documents that are**, up to the order of entries. -/
theorem same_toJson (ha : a.WellKeyed) : ∀ {b : Schema}, same a b = true →
    a.toJson.Reordered b.toJson := by
  refine ha.induction (motive := fun s => ∀ {b : Schema}, same s b = true →
    s.toJson.Reordered b.toJson) fun s hs ih b hb => ?_
  have hsb := (same_iff hs.distinct).mp hb
  have hequal : ∀ {v w : Option Json}, v = w → Option.Rel Json.Reordered v w := by
    rintro (_ | v) _ rfl
    · exact .none
    · exact .some (.refl v)
  have hfield : ∀ f, Option.Rel Json.Reordered (s.part? f) (b.part? f) := by
    intro f
    cases f with
    | kind => exact hequal (congrArg (Option.map _) hsb.kind)
    | required => exact hequal (congrArg (Option.map _) hsb.required)
    | format => exact hequal (congrArg (Option.map _) hsb.format)
    | anyOf =>
      refine rel_map hsb.alternatives fun ss hss ts hst => .array ?_
      rw [List.forall₂_map_left_iff, List.forall₂_map_right_iff]
      exact forall₂_of_mem hst fun x hx y => ih x (mem_parts_of_anyOf hss hx)
    | items => exact rel_map hsb.item fun x hx y => ih x (mem_parts_of_items hx)
    | properties =>
      have hmaps : Option.Rel (Keyed.UpToOrder fun x y => x.toJson.Reordered y.toJson)
          s.properties b.properties := by
        refine Keyed.rel_upToOrder hs.distinct (hsb.distinct hs.distinct) hsb.keys fun key => ?_
        exact rel_imp (hsb.property key) fun x hx y => ih x (mem_parts_of_property? hx)
      exact rel_map hmaps fun p _ q hpq => .object (hpq.mapValues fun _ _ _ h => h)
  rw [toJson_eq, toJson_eq]
  refine .object (Keyed.upToOrder_of_forall₂ (List.rel_filterMap ?_ (List.forall₂_same.mpr
    fun f _ => rfl)))
  rintro f _ rfl
  exact rel_map (hfield f) fun _ _ _ hvw => ⟨rfl, hvw⟩

/-! ## Unified siblings -/

section

variable {ss ts : List Schema}

theorem wellKeyed_unify (h : ∀ s ∈ ss, s.WellKeyed) : (unify ss).WellKeyed := by
  cases siblings ss with
  | none => exact .intro nofun nofun nofun nofun
  | objects hne hobj =>
    rw [unify_objects hne hobj]
    refine .intro nofun (fun p => distinct_mergeObjects) (fun p hp e he => ?_) nofun
    obtain ⟨s, hs, q, hq, he⟩ := mem_properties_mergeObjects hp he
    exact (h s hs).parts e.2 (mem_parts_iff.mpr (.inr (.inl ⟨q, hq, e, he, rfl⟩)))
  | alike hs hrest =>
    rw [unify_alike hs hrest]
    exact h _ List.mem_cons_self
  | mixed hmixed =>
    rw [unify_mixed hmixed]
    refine .intro (fun as has => ?_) nofun nofun nofun
    cases has
    exact h

/-- **Objects that are the same merge into objects that are**: on both sides the last sibling that
    has a key is the same. -/
theorem sameBy_mergeObjects {R : Schema → Schema → Prop} (h : List.Forall₂ (SameBy R) ss ts)
    (hss : ∀ s ∈ ss, s.WellKeyed) : SameBy R (mergeObjects ss) (mergeObjects ts) := by
  have hdistinct : ∀ s ∈ ss, ∀ p, s.properties = some p → Keyed.Distinct p :=
    fun s hs => (hss s hs).distinct
  have hdistinct' : ∀ t ∈ ts, ∀ p, t.properties = some p → Keyed.Distinct p := by
    intro t ht
    obtain ⟨s, hs, hst⟩ := exists_of_mem_right h ht
    exact hst.distinct (hdistinct s hs)
  have hrequired : ss.map (·.required) = ts.map (·.required) :=
    map_eq_map_of_forall₂ h fun _ _ _ hst => hst.required
  refine ⟨rfl, ?_, rfl, .none, .none, ?_, fun key => ?_⟩
  · exact congrArg (fun rows => (pooled rows).map firstSeen) hrequired
  · exact rel_keys_mergeObjects (h.imp fun _ _ hst => hst.keys)
  · exact rel_property?_mergeObjects hdistinct hdistinct' (h.imp fun _ _ hst => hst.property key)

/-- **Siblings that are the same unify to schemas that are.** -/
theorem same_unify (h : List.Forall₂ (fun x y => same x y = true) ss ts)
    (hss : ∀ s ∈ ss, s.WellKeyed) : same (unify ss) (unify ts) = true := by
  have hlayers : List.Forall₂ (SameBy fun x y => same x y = true) ss ts :=
    forall₂_of_mem h fun s hs t hst => (same_iff (hss s hs).distinct).mp hst
  refine (same_iff (wellKeyed_unify hss).distinct).mpr ?_
  refine unify_rel (fun _ _ hab => hab.kind) ?_ hlayers ?_ (sameBy_mergeObjects hlayers hss)
  · exact ⟨rfl, rfl, rfl, .none, .none, .none, fun _ => .none⟩
  · exact ⟨rfl, rfl, rfl, .some h, .none, .none, fun _ => .none⟩

end

/-- **Sameness is an equivalence and unification respects it.**  Schemas whose maps set no key twice
    are compared at every depth, properties whatever their order; that is an equivalence relation.
    Rows of schemas that are the same, one by one, unify to schemas that are the same and that have
    documents equal up to the order of entries. -/
theorem same_equivalence_unify :
    Equivalence (fun a b : { s : Schema // s.WellKeyed } => same a b = true) ∧
      ∀ ss ts : List Schema, (∀ s ∈ ss, s.WellKeyed) →
        List.Forall₂ (fun x y => same x y = true) ss ts →
        same (unify ss) (unify ts) = true ∧ (unify ss).toJson.Reordered (unify ts).toJson := by
  refine ⟨⟨fun a => same_refl a.2, fun {a _} h => same_symm a.2 h,
    fun {a b _} hab hbc => same_trans a.2 b.2 hab hbc⟩, ?_⟩
  intro ss ts hss h
  have hsame := same_unify h hss
  exact ⟨hsame, same_toJson (wellKeyed_unify hss) hsame⟩

/-- Rows that list properties in other orders, at two levels: the merged objects differ in the order
    of their keys, and nothing else. -/
theorem same_equivalence_unify_rows :
    let x := objectOf [("p", text none), ("q", any)] ["q"]
    let y := objectOf [("q", any), ("p", text none)] ["q"]
    let ss := [objectOf [("a", x), ("b", any)] ["b"], objectOf [("b", y)] []]
    let ts := [objectOf [("b", any), ("a", y)] ["b"], objectOf [("b", x)] []]
    (∀ s ∈ ss, s.WellKeyed) ∧ List.Forall₂ (fun s t => same s t = true) ss ts ∧
      unify ss = objectOf [("a", x), ("b", y)] ["b"] ∧
      unify ts = objectOf [("b", x), ("a", y)] ["b"] ∧
      same (unify ss) (unify ts) = true ∧ (unify ss).toJson.Reordered (unify ts).toJson := by
  intro x y ss ts
  have hobject : ∀ {p : Keyed Schema} (r : List String), p.keys.Nodup →
      (∀ e ∈ p, e.2.WellKeyed) → (objectOf p r).WellKeyed := by
    intro p r hp he
    refine .intro nofun (fun q hq => ?_) (fun q hq => ?_) nofun
    · cases hq; exact hp
    · cases hq; exact he
  have hplain : ∀ k, WellKeyed { kind := k } := fun k => .intro nofun nofun nofun nofun
  have hss : ∀ s ∈ ss, s.WellKeyed := by
    refine List.forall_mem_cons.mpr ⟨hobject _ (by decide) ?_, List.forall_mem_singleton.mpr
      (hobject _ (by decide) (List.forall_mem_singleton.mpr ?_))⟩
    · refine List.forall_mem_cons.mpr ⟨?_, List.forall_mem_singleton.mpr (hplain none)⟩
      exact hobject _ (by decide) (List.forall_mem_cons.mpr ⟨hplain _,
        List.forall_mem_singleton.mpr (hplain none)⟩)
    · exact hobject _ (by decide) (List.forall_mem_cons.mpr ⟨hplain none,
        List.forall_mem_singleton.mpr (hplain _)⟩)
  have hrows : List.Forall₂ (fun s t => same s t = true) ss ts := .cons rfl (.cons rfl .nil)
  exact ⟨hss, hrows, rfl, rfl, same_equivalence_unify.2 ss ts hss hrows⟩

end Schema
end SampleSchema
