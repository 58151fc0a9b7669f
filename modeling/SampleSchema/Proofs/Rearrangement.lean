/-
  The order in which objects list their entries.

  Two values that differ only in the order of the entries of their objects have schemas that differ
  only in the order in which objects list properties and required keys.  Nothing of the kind holds
  for items, since the first of several arrays stands for all, and a choice lists its alternatives
  in the order of the items.

  1. **Up to order.**  `Keyed.UpToOrder R` is for maps: the same keys in any order, with values that
     `R` relates.  `Json.Reordered` and `Schema.Rearranged` use it at every depth.  Where no key is
     set twice it can be told by look-ups (`Keyed.upToOrder_of_get?`).

  2. **The crux is the merge of objects** (`rearranged_mergeObjects`), where rows of entries are set
     one after the other.  Reordering a row moves keys, the first places of others included; but the
     last row that has a key is the same on both sides, and it alone decides what is found under the
     key (`property?_mergeObjects`).

  3. Values are then followed in step, from containers to their parts (`rearranged_schemaAt`).
-/
import Mathlib.Data.List.Forall2
import Mathlib.Data.List.Perm.Basic
import SampleSchema.Proofs.JsonTree
import SampleSchema.Proofs.Placement

namespace SampleSchema

/-! ## Maps up to order -/

namespace Keyed

variable {α β : Type} {R : α → β → Prop}

/-- The same keys, and under each of them values that `R` relates; the entries come in any order. -/
inductive UpToOrder (R : α → β → Prop) : List (String × α) → List (String × β) → Prop where
  | nil : UpToOrder R [] []
  | cons (key : String) {x : α} {y : β} {m : List (String × α)} {n : List (String × β)}
      (value : R x y) (rest : UpToOrder R m n) : UpToOrder R ((key, x) :: m) ((key, y) :: n)
  | reorder {l m : List (String × α)} {n : List (String × β)} (order : List.Perm l m)
      (h : UpToOrder R m n) : UpToOrder R l n

theorem upToOrder_of_forall₂ {m : Keyed α} {n : Keyed β}
    (h : List.Forall₂ (fun e f => e.1 = f.1 ∧ R e.2 f.2) m n) : UpToOrder R m n := by
  induction h with
  | nil => exact .nil
  | @cons e f _ _ hef _ ih =>
    obtain ⟨key, x⟩ := e
    obtain ⟨_, y⟩ := f
    obtain ⟨rfl, hvalue⟩ := hef
    exact .cons key hvalue ih

/-- One order is enough: in it the entries are related one by one. -/
theorem UpToOrder.exists_order {m : Keyed α} {n : Keyed β} (h : UpToOrder R m n) :
    ∃ r, List.Perm m r ∧ List.Forall₂ (fun e f => e.1 = f.1 ∧ R e.2 f.2) r n := by
  induction h with
  | nil => exact ⟨[], .refl _, .nil⟩
  | cons key value _ ih =>
    obtain ⟨r, order, hr⟩ := ih
    exact ⟨_ :: r, order.cons _, .cons ⟨rfl, value⟩ hr⟩
  | reorder order _ ih =>
    obtain ⟨r, order', hr⟩ := ih
    exact ⟨r, order.trans order', hr⟩

theorem UpToOrder.keys_perm {m : Keyed α} {n : Keyed β} (h : UpToOrder R m n) :
    List.Perm m.keys n.keys := by
  obtain ⟨r, order, hr⟩ := h.exists_order
  have hkeys : keys r = n.keys := map_eq_map_of_forall₂ hr fun _ _ _ hef => hef.1
  exact hkeys ▸ order.map Prod.fst

theorem UpToOrder.distinct {m : Keyed α} {n : Keyed β} (h : UpToOrder R m n) (hm : m.Distinct) :
    n.Distinct :=
  h.keys_perm.nodup_iff.mp hm

/-- Rows that are related entry by entry have related look-ups. -/
theorem rel_get? {m : Keyed α} {n : Keyed β}
    (h : List.Forall₂ (fun e f => e.1 = f.1 ∧ R e.2 f.2) m n) (key : String) :
    Option.Rel R (m.get? key) (n.get? key) := by
  induction h with
  | nil => exact .none
  | cons hef _ ih =>
    obtain ⟨hkey, hvalue⟩ := hef
    rw [get?_cons, get?_cons, hkey]
    split
    · exact .some hvalue
    · exact ih

theorem UpToOrder.rel_get? {m : Keyed α} {n : Keyed β} (h : UpToOrder R m n) (hm : m.Distinct)
    (key : String) : Option.Rel R (m.get? key) (n.get? key) := by
  obtain ⟨r, order, hr⟩ := h.exists_order
  rw [get?_congr_of_perm hm order]
  exact Keyed.rel_get? hr key

/-- Related maps stay so when their values are changed in a way that keeps them related. -/
theorem UpToOrder.mapValues {γ δ : Type} {S : γ → δ → Prop} {f : α → γ} {g : β → δ} {m : Keyed α}
    {n : Keyed β} (h : UpToOrder R m n) (hRS : ∀ e ∈ m, ∀ y, R e.2 y → S (f e.2) (g y)) :
    UpToOrder S (Keyed.mapValues f m) (Keyed.mapValues g n) := by
  obtain ⟨r, order, hr⟩ := h.exists_order
  refine .reorder (order.map _) (upToOrder_of_forall₂ ?_)
  rw [List.forall₂_map_left_iff, Keyed.mapValues, List.forall₂_map_right_iff]
  refine forall₂_of_mem hr ?_
  rintro e he f' ⟨hkey, hef⟩
  exact ⟨hkey, hRS e (order.mem_iff.mpr he) _ hef⟩

/-- **Maps with the same keys and related look-ups** are related up to order.  The induction is on
    the second map; the first one is split at the entry that has the key in turn. -/
theorem upToOrder_of_get? {n : Keyed β} (hn : n.Distinct) : ∀ {m : Keyed α}, m.Distinct →
    List.Perm m.keys n.keys → (∀ key, Option.Rel R (m.get? key) (n.get? key)) →
    UpToOrder R m n := by
  induction n with
  | nil =>
    intro m _ hkeys _
    obtain rfl : m = [] := List.map_eq_nil_iff.mp hkeys.eq_nil
    exact .nil
  | cons f n ih =>
    intro m hm hkeys hget
    have hnodup : f.1 ∉ keys n ∧ (keys n).Nodup := List.nodup_cons.mp hn
    obtain ⟨e, he, hef⟩ := mem_keys.mp (hkeys.mem_iff.mpr List.mem_cons_self)
    obtain ⟨before, after, rfl⟩ := List.append_of_mem he
    have hfront : List.Perm (before ++ e :: after) (e :: (before ++ after)) := List.perm_middle
    have hm' : Distinct (e :: (before ++ after)) := (hfront.map Prod.fst).nodup_iff.mp hm
    have hrest : e.1 ∉ keys (before ++ after) ∧ (keys (before ++ after)).Nodup :=
      List.nodup_cons.mp hm'
    have hkeys' : List.Perm (keys (before ++ after)) (keys n) := by
      have hall := (hfront.map Prod.fst).symm.trans hkeys
      rw [List.map_cons, hef] at hall
      exact hall.cons_inv
    have hget' : ∀ key, Option.Rel R (get? (before ++ after) key) (get? n key) := by
      intro key
      by_cases hkey : f.1 = key
      · subst hkey
        have hkey' : f.1 ∉ keys (before ++ after) := fun hc => hrest.1 (hef ▸ hc)
        rw [get?_of_not_mem hkey', get?_of_not_mem hnodup.1]
        exact .none
      · have hboth := hget key
        rwa [get?_congr_of_perm hm hfront, get?_cons, get?_cons, if_neg hkey, if_neg (hef ▸ hkey)]
          at hboth
    have hvalue : R e.2 f.2 := by
      have hboth := hget f.1
      rw [get?_congr_of_perm hm hfront, get?_cons, get?_cons, if_pos hef, if_pos rfl] at hboth
      cases hboth with
      | some h => exact h
    obtain ⟨key, x⟩ := e
    obtain ⟨_, y⟩ := f
    obtain rfl : key = _ := hef
    exact .reorder hfront (.cons key hvalue (ih hnodup.2 hrest.2 hkeys' hget'))

/-- The same for maps that there may be. -/
theorem rel_upToOrder {p : Option (Keyed α)} {q : Option (Keyed β)}
    (hp : ∀ m, p = some m → m.Distinct) (hq : ∀ n, q = some n → n.Distinct)
    (hkeys : Option.Rel List.Perm (p.map keys) (q.map keys))
    (hget : ∀ key, Option.Rel R (p.bind (get? · key)) (q.bind (get? · key))) :
    Option.Rel (UpToOrder R) p q := by
  cases p <;> cases q <;> cases hkeys
  · exact .none
  · next m n h => exact .some (upToOrder_of_get? (hq n rfl) (hp m rfl) h hget)

end Keyed

/-! ## Values and schemas up to order -/

/-- Equal up to the order of the entries of objects, at any depth. -/
inductive Json.Reordered : Json → Json → Prop where
  | null : Reordered .null .null
  | bool (b : Bool) : Reordered (.bool b) (.bool b)
  | number (n : Number) : Reordered (.number n) (.number n)
  | string (s : String) : Reordered (.string s) (.string s)
  | array {xs ys : List Json} (items : List.Forall₂ Reordered xs ys) :
      Reordered (.array xs) (.array ys)
  | object {es fs : List (String × Json)} (entries : Keyed.UpToOrder Reordered es fs) :
      Reordered (.object es) (.object fs)

theorem Json.Reordered.refl (v : Json) : v.Reordered v := by
  induction v with
  | null => exact .null
  | bool b => exact .bool b
  | number n => exact .number n
  | string s => exact .string s
  | array xs ih => exact .array (List.forall₂_same.mpr ih)
  | object es ih =>
    exact .object (Keyed.upToOrder_of_forall₂ (List.forall₂_same.mpr fun e he => ⟨rfl, ih e he⟩))

namespace Schema

/-- Equal up to the order in which objects list their properties and their required keys, at any
    depth. -/
inductive Rearranged : Schema → Schema → Prop where
  | intro {a b : Schema} (kind : a.kind = b.kind) (format : a.format = b.format)
      (alternatives : Option.Rel (List.Forall₂ Rearranged) a.anyOf b.anyOf)
      (items : Option.Rel Rearranged a.items b.items)
      (properties : Option.Rel (Keyed.UpToOrder Rearranged) a.properties b.properties)
      (required : Option.Rel List.Perm a.required b.required) : Rearranged a b

/-- A schema with a type and at most a format has nothing to rearrange. -/
theorem rearranged_plain (k : Option Kind) (f : Option Format) :
    Rearranged { kind := k, format := f } { kind := k, format := f } :=
  .intro rfl rfl .none .none .none .none

theorem rearranged_arrayOf {i j : Schema} (h : Rearranged i j) :
    Rearranged (arrayOf i) (arrayOf j) :=
  .intro rfl rfl .none (.some h) .none .none

theorem rearranged_choice {ss ts : List Schema} (h : List.Forall₂ Rearranged ss ts) :
    Rearranged (choice ss) (choice ts) :=
  .intro rfl rfl (.some h) .none .none .none

theorem rearranged_objectSeen {p q : Keyed Schema} (h : Keyed.UpToOrder Rearranged p q) :
    Rearranged (objectSeen p) (objectSeen q) :=
  .intro rfl rfl .none .none (.some h) (.some h.keys_perm)

namespace Rearranged

variable {a b : Schema}

theorem kind_eq (h : Rearranged a b) : a.kind = b.kind := by
  cases h with
  | intro kind _ _ _ _ _ => exact kind

theorem keys_perm (h : Rearranged a b) :
    Option.Rel List.Perm (a.properties.map Keyed.keys) (b.properties.map Keyed.keys) := by
  cases h with
  | intro _ _ _ _ properties _ =>
    generalize a.properties = p, b.properties = q at properties ⊢
    cases properties with
    | none => exact .none
    | some h => exact .some h.keys_perm

theorem rel_property? (h : Rearranged a b)
    (ha : ∀ p, a.properties = some p → Keyed.Distinct p) (key : String) :
    Option.Rel Rearranged (a.property? key) (b.property? key) := by
  cases h with
  | intro _ _ _ _ properties _ =>
    unfold property?
    generalize a.properties = p, b.properties = q at properties ha ⊢
    cases properties with
    | none => exact .none
    | some h => exact h.rel_get? (ha _ rfl) key

theorem required_perm (h : Rearranged a b) : Option.Rel List.Perm a.required b.required := by
  cases h with
  | intro _ _ _ _ _ required => exact required

end Rearranged

/-! ## Merging objects that are rearranged -/

theorem firstSeen_perm {ks ls : List String} (h : List.Perm ks ls) :
    List.Perm (firstSeen ks) (firstSeen ls) := by
  refine (List.perm_ext_iff_of_nodup (nodup_firstSeen ks) (nodup_firstSeen ls)).mpr fun k => ?_
  rw [mem_firstSeen, mem_firstSeen, h.mem_iff]

/-- Rearranged rows of keys, pooled and without repeats, are rearranged; and if there is nothing to
    pool on one side there is nothing on the other. -/
theorem firstSeen_pooled_perm {parts parts' : List (Option (List String))}
    (h : List.Forall₂ (Option.Rel List.Perm) parts parts') :
    Option.Rel List.Perm ((pooled parts).map firstSeen) ((pooled parts').map firstSeen) := by
  have hnone : parts.all (·.isNone) = parts'.all (·.isNone) := by
    induction h with
    | nil => rfl
    | cons hp _ ih =>
      rw [List.all_cons, List.all_cons, ih]
      cases hp <;> rfl
  have hparts : List.Forall₂ List.Perm (parts.filterMap id) (parts'.filterMap id) :=
    List.rel_filterMap (fun _ _ hp => hp) h
  unfold pooled
  rw [hnone]
  split
  · exact .none
  · exact .some (firstSeen_perm (List.Perm.flatten_congr hparts))

/-- What is found first in related lists is related. -/
theorem rel_findSome? {α β γ δ : Type} {R : α → β → Prop} {S : γ → δ → Prop} {xs : List α}
    {ys : List β} {f : α → Option γ} {g : β → Option δ} (h : List.Forall₂ R xs ys)
    (hfg : ∀ x ∈ xs, ∀ y, R x y → Option.Rel S (f x) (g y)) :
    Option.Rel S (xs.findSome? f) (ys.findSome? g) := by
  have hfound : List.Forall₂ S (xs.filterMap f) (ys.filterMap g) :=
    List.rel_filterMap (fun _ _ hxy => hxy) (forall₂_of_mem h hfg)
  rw [← List.head?_filterMap, ← List.head?_filterMap]
  generalize xs.filterMap f = found, ys.filterMap g = found' at hfound ⊢
  cases hfound with
  | nil => exact .none
  | cons hxy _ => exact .some hxy

/-- Merged properties have the same keys, if those of the siblings have. -/
theorem rel_keys_mergeObjects {ss ts : List Schema} (h : List.Forall₂ (fun s t : Schema =>
    Option.Rel List.Perm (s.properties.map Keyed.keys) (t.properties.map Keyed.keys)) ss ts) :
    Option.Rel List.Perm ((mergeObjects ss).properties.map Keyed.keys)
      ((mergeObjects ts).properties.map Keyed.keys) := by
  rw [keys_mergeObjects, keys_mergeObjects]
  refine firstSeen_pooled_perm ?_
  rw [List.forall₂_map_left_iff, List.forall₂_map_right_iff]
  exact h

/-- What merged objects have under a key is related, if what the siblings have is. -/
theorem rel_property?_mergeObjects {R : Schema → Schema → Prop} {ss ts : List Schema}
    {key : String} (hss : ∀ s ∈ ss, ∀ p, s.properties = some p → Keyed.Distinct p)
    (hts : ∀ t ∈ ts, ∀ p, t.properties = some p → Keyed.Distinct p)
    (h : List.Forall₂ (fun s t => Option.Rel R (s.property? key) (t.property? key)) ss ts) :
    Option.Rel R ((mergeObjects ss).property? key) ((mergeObjects ts).property? key) := by
  rw [property?_mergeObjects hss, property?_mergeObjects hts]
  exact rel_findSome? (List.forall₂_reverse_iff.mpr h) fun _ _ _ hst => hst

/-- **Rearranged objects merge into rearranged ones**, if none of them sets a key twice. -/
theorem rearranged_mergeObjects {ss ts : List Schema} (h : List.Forall₂ Rearranged ss ts)
    (hss : ∀ s ∈ ss, ∀ p, s.properties = some p → Keyed.Distinct p)
    (hts : ∀ t ∈ ts, ∀ p, t.properties = some p → Keyed.Distinct p) :
    Rearranged (mergeObjects ss) (mergeObjects ts) := by
  refine .intro rfl rfl .none .none ?_ ?_
  · refine Keyed.rel_upToOrder (fun _ => distinct_mergeObjects) (fun _ => distinct_mergeObjects)
      ?_ fun key => ?_
    · exact rel_keys_mergeObjects (h.imp fun _ _ hab => hab.keys_perm)
    · exact rel_property?_mergeObjects hss hts
        (forall₂_of_mem h fun s hs _ hst => hst.rel_property? (hss s hs) key)
  · refine firstSeen_pooled_perm ?_
    rw [List.forall₂_map_left_iff, List.forall₂_map_right_iff]
    exact h.imp fun _ _ hab => hab.required_perm

/-- **Related siblings unify to related schemas**, if the relation keeps types and passes through
    choices and merged objects: on both sides the same case of `unify` applies. -/
theorem unify_rel {R : Schema → Schema → Prop} (hkind : ∀ a b, R a b → a.kind = b.kind)
    (hany : R any any) {ss ts : List Schema} (h : List.Forall₂ R ss ts)
    (hchoice : R (choice ss) (choice ts)) (hmerge : R (mergeObjects ss) (mergeObjects ts)) :
    R (unify ss) (unify ts) := by
  have hkinds : ss.map (·.kind) = ts.map (·.kind) :=
    map_eq_map_of_forall₂ h fun _ _ _ hab => hkind _ _ hab
  have hsame : ∀ {k : Option Kind}, (∀ s ∈ ss, s.kind = k) → ∀ t ∈ ts, t.kind = k := by
    intro k hk
    have hall : ∀ l ∈ ss.map (·.kind), l = k := List.forall_mem_map.mpr hk
    rw [hkinds] at hall
    exact List.forall_mem_map.mp hall
  cases siblings ss with
  | none =>
    cases h
    exact hany
  | objects hne hobj =>
    have hne' : ts ≠ [] := fun hc => hne (List.map_eq_nil_iff.mp (hkinds.trans (hc ▸ rfl)))
    rw [unify_objects hne hobj, unify_objects hne' (hsame hobj)]
    exact hmerge
  | alike hs hrest =>
    next s rest =>
    have hall := hsame (k := s.kind) (List.forall_mem_cons.mpr ⟨rfl, hrest⟩)
    cases h with
    | cons hfirst hothers =>
      next t rest' =>
      obtain ⟨ht, hrest'⟩ := List.forall_mem_cons.mp hall
      rw [unify_alike hs hrest, unify_alike (ht ▸ hs) (ht ▸ hrest')]
      exact hfirst
  | mixed hmixed =>
    have hmixed' : ∃ a ∈ ts, ∃ b ∈ ts, a.kind ≠ b.kind := by
      obtain ⟨a, ha, b, hb, hab⟩ := hmixed
      have hka : a.kind ∈ ts.map (·.kind) := hkinds ▸ List.mem_map_of_mem ha
      have hkb : b.kind ∈ ts.map (·.kind) := hkinds ▸ List.mem_map_of_mem hb
      obtain ⟨a', ha', hea⟩ := List.mem_map.mp hka
      obtain ⟨b', hb', heb⟩ := List.mem_map.mp hkb
      exact ⟨a', ha', b', hb', fun hc => hab (hea.symm.trans (hc.trans heb))⟩
    rw [unify_mixed hmixed, unify_mixed hmixed']
    exact hchoice

/-- **Rearranged siblings unify to rearranged schemas.** -/
theorem rearranged_unify {ss ts : List Schema} (h : List.Forall₂ Rearranged ss ts)
    (hss : ∀ s ∈ ss, ∀ p, s.properties = some p → Keyed.Distinct p)
    (hts : ∀ t ∈ ts, ∀ p, t.properties = some p → Keyed.Distinct p) :
    Rearranged (unify ss) (unify ts) :=
  unify_rel (fun _ _ hab => hab.kind_eq) (rearranged_plain none none) h (rearranged_choice h)
    (rearranged_mergeObjects h hss hts)

end Schema

/-! ## Followed in step -/

namespace Json

/-- **The schema of a value in its place** is rearranged when the value is reordered. -/
theorem rearranged_schemaAt (s : Settings) {v w : Json} (hkeys : v.WellKeyed)
    (h : v.Reordered w) : ∀ depth, Schema.Rearranged (schemaAt s depth v) (schemaAt s depth w) := by
  have hdistinct : ∀ depth (xs : List Json), ∀ r ∈ xs.map (schemaAt s depth), ∀ p,
      r.properties = some p → Keyed.Distinct p := by
    intro depth xs
    exact List.forall_mem_map.mpr fun x _ => (typed_schemaAt s depth x).distinct_properties
  induction v generalizing w with
  | array xs ih =>
    cases h with
    | array items =>
      cases hkeys with
      | array hitems =>
        intro depth
        rw [schemaAt_array, schemaAt_array]
        split
        · exact Schema.rearranged_plain _ _
        · refine Schema.rearranged_arrayOf (Schema.rearranged_unify ?_ (hdistinct _ _)
            (hdistinct _ _))
          rw [List.forall₂_map_left_iff, List.forall₂_map_right_iff]
          exact forall₂_of_mem items fun x hx y hxy => ih x hx (hitems x hx) hxy (depth + 1)
  | object es ih =>
    cases h with
    | @object _ fs entries =>
      cases hkeys with
      | object hes hentries =>
        intro depth
        have hfs : Keyed.Distinct fs := entries.distinct hes
        rw [schemaAt_object, schemaAt_object, Keyed.ofEntries_of_distinct
          (Keyed.distinct_mapValues.mpr hes), Keyed.ofEntries_of_distinct
          (Keyed.distinct_mapValues.mpr hfs)]
        split
        · exact Schema.rearranged_plain _ _
        · refine Schema.rearranged_objectSeen (entries.mapValues ?_)
          intro e he w' hew
          exact ih e he (hentries e he) hew (depth + 1)
  | _ =>
    intro depth
    cases h
    rw [schemaAt_eq, outline]
    exact Schema.rearranged_plain _ _

end Json

/-- **The order of entries decides on the order of keys and on nothing else.** -/
theorem infer_reordered (s : Settings) {v w : Json} (hkeys : v.WellKeyed) (h : v.Reordered w) :
    Schema.Rearranged (inferJson s v).schema (inferJson s w).schema := by
  rw [Json.schema_inferJson, Json.schema_inferJson]
  exact Json.rearranged_schemaAt s hkeys h 0

/-- Two rows turned round at two levels: the merged row lists its keys in another order, and under
    `q` both sides keep what the second row has there. -/
theorem infer_reordered_rows :
    let v : Json := .array
      [.object [("p", .bool true), ("q", .object [("x", .bool false), ("y", .null)])],
        .object [("q", .object [("y", .string ""), ("x", .null)])]]
    let w : Json := .array
      [.object [("q", .object [("y", .null), ("x", .bool false)]), ("p", .bool true)],
        .object [("q", .object [("x", .null), ("y", .string "")])]]
    let s : Settings := { formats := .none }
    v.WellKeyed ∧ v.Reordered w ∧
      Schema.Rearranged (inferJson s v).schema (inferJson s w).schema ∧
      (inferJson s v).schema = .arrayOf (.objectSeen [("p", .ofKind .boolean),
        ("q", .objectSeen [("y", .ofKind .string), ("x", .ofKind .null)])]) ∧
      (inferJson s w).schema = .arrayOf (.objectSeen
        [("q", .objectSeen [("x", .ofKind .null), ("y", .ofKind .string)]),
          ("p", .ofKind .boolean)]) := by
  intro v w s
  have hpair : ∀ {k l : String} {x y : Json}, k ≠ l → x.WellKeyed → y.WellKeyed →
      (Json.object [(k, x), (l, y)]).WellKeyed := by
    intro k l x y hkl hx hy
    refine .object (List.nodup_cons.mpr ⟨?_, List.pairwise_singleton _ l⟩) ?_
    · exact fun hc => hkl (List.mem_singleton.mp hc)
    · exact List.forall_mem_cons.mpr ⟨hx, List.forall_mem_singleton.mpr hy⟩
  have hturned : ∀ {k l : String} {x y x' y' : Json}, x.Reordered x' → y.Reordered y' →
      (Json.object [(k, x), (l, y)]).Reordered (.object [(l, y'), (k, x')]) :=
    fun hx hy => .object (.reorder (.swap _ _ _) (.cons _ hy (.cons _ hx .nil)))
  have hkeys : v.WellKeyed := by
    refine .array (List.forall_mem_cons.mpr ⟨hpair (by decide) (.bool _) ?_,
      List.forall_mem_singleton.mpr (.object (List.pairwise_singleton _ _)
        (List.forall_mem_singleton.mpr ?_))⟩)
    · exact hpair (by decide) (.bool _) .null
    · exact hpair (by decide) (.string _) .null
  have hvw : v.Reordered w :=
    .array (.cons (hturned (.bool _) (hturned (.bool _) .null))
      (.cons (.object (.cons _ (hturned (.string _) .null) .nil)) .nil))
  exact ⟨hkeys, hvw, infer_reordered s hkeys hvw, rfl, rfl⟩

end SampleSchema
