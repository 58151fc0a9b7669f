/-
  What a schema says about values, and when an inferred schema is true of its sample.

  `Schema.accepts` reads a schema as JSON Schema does: each part that is present is a condition of
  its own, `format` is none.  An inferred schema need not accept its sample, because an array whose
  items have one type is summed up by fewer schemas than it has items.  It does accept it when every
  array is COHERENT: its items differ in type, or their schemas differ in nothing but formats and
  the order of keys (`Schema.Similar`).

  The crux is `accepts_unify`: for coherent siblings, what one of them accepts the unified schema
  accepts.  Siblings of different types become alternatives.  Siblings of one type are similar, and
  the schema that stands for them is similar to each of them, the first sibling as well as the
  merged object (`similar_mergeObjects`): there the schema of a key comes from whichever sibling had
  the key last, and that one is similar to all others.  Acceptance does not see the difference
  between similar schemas (`Similar.accepts`).
-/
import Mathlib.Data.List.Nodup
import SampleSchema.Proofs.JsonTree
import SampleSchema.Proofs.Placement

namespace SampleSchema

/-! ## What a schema accepts -/

namespace Json

/-- The items, for an array. -/
def items : Json → List Json
  | array xs => xs
  | _ => []

/-- The entries, for an object. -/
def entries : Json → List (String × Json)
  | object es => es
  | _ => []

/-- Does the object have this key?  Values that are no objects are not asked. -/
def has (key : String) : Json → Bool
  | object es => (Keyed.keys es).contains key
  | _ => true

end Json

/-- Is the value of this type?  A number without fraction is an integer, and every integer is a
    number. -/
def Kind.admits : Kind → Json → Bool
  | .null, .null => true
  | .boolean, .bool _ => true
  | .integer, .number n => n.isWhole
  | .number, .number _ => true
  | .string, .string _ => true
  | .array, .array _ => true
  | .object, .object _ => true
  | _, _ => false

namespace Schema

mutual

/-- Is the value as the schema says?  Every part that is present has to agree; formats are hints and
    are not looked at. -/
def accepts : Schema → Json → Bool
  | ⟨k, a, p, i, r, _⟩, v =>
    (match k with
      | none => true
      | some k => k.admits v)
    && (match a with
        | none => true
        | some ss => acceptsSome ss v)
    && (match p with
        | none => true
        | some es => acceptsUnder es v)
    && (match i with
        | none => true
        | some s => v.items.all fun x => accepts s x)
    && (match r with
        | none => true
        | some keys => keys.all fun key => v.has key)

/-- Is the value as one of the schemas says? -/
def acceptsSome : List Schema → Json → Bool
  | [], _ => false
  | s :: ss, v => accepts s v || acceptsSome ss v

/-- Is every entry of the value whose key is listed as the schema of the key says? -/
def acceptsUnder : List (String × Schema) → Json → Bool
  | [], _ => true
  | (key, s) :: es, v =>
    (v.entries.all fun e => e.1 != key || accepts s e.2) && acceptsUnder es v

end

/-- Acceptance, part by part. -/
structure Accepts (s : Schema) (v : Json) : Prop where
  kind : ∀ k, s.kind = some k → k.admits v = true
  anyOf : ∀ ss, s.anyOf = some ss → ∃ a ∈ ss, a.accepts v = true
  properties : ∀ p, s.properties = some p → ∀ e ∈ p, ∀ f ∈ v.entries, f.1 = e.1 →
    e.2.accepts f.2 = true
  items : ∀ i, s.items = some i → ∀ x ∈ v.items, i.accepts x = true
  required : ∀ keys, s.required = some keys → ∀ key ∈ keys, v.has key = true

theorem acceptsSome_iff {ss : List Schema} {v : Json} :
    acceptsSome ss v = true ↔ ∃ a ∈ ss, a.accepts v = true := by
  induction ss with
  | nil => simp [acceptsSome]
  | cons s ss ih => simp [acceptsSome, ih]

theorem acceptsUnder_iff {p : List (String × Schema)} {v : Json} :
    acceptsUnder p v = true ↔
      ∀ e ∈ p, ∀ f ∈ v.entries, f.1 = e.1 → e.2.accepts f.2 = true := by
  induction p with
  | nil => simp [acceptsUnder]
  | cons e p ih =>
    obtain ⟨key, s⟩ := e
    rw [acceptsUnder, Bool.and_eq_true, ih, List.forall_mem_cons, List.all_eq_true]
    refine and_congr_left' (forall₂_congr fun f _ => ?_)
    rw [Bool.or_eq_true, bne_iff_ne, ← imp_iff_not_or]

theorem accepts_iff {s : Schema} {v : Json} : s.accepts v = true ↔ s.Accepts v := by
  obtain ⟨k, a, p, i, r, f⟩ := s
  rw [accepts.eq_def]
  simp only [Bool.and_eq_true]
  constructor
  · rintro ⟨⟨⟨⟨hk, ha⟩, hp⟩, hi⟩, hr⟩
    refine ⟨?_, ?_, ?_, ?_, ?_⟩
    · rintro _ rfl
      exact hk
    · rintro _ rfl
      exact acceptsSome_iff.mp ha
    · rintro _ rfl
      exact acceptsUnder_iff.mp hp
    · rintro _ rfl
      exact List.all_eq_true.mp hi
    · rintro _ rfl
      exact List.all_eq_true.mp hr
  · intro h
    refine ⟨⟨⟨⟨?_, ?_⟩, ?_⟩, ?_⟩, ?_⟩
    · cases k with
      | none => rfl
      | some k => exact h.kind k rfl
    · cases a with
      | none => rfl
      | some ss => exact acceptsSome_iff.mpr (h.anyOf ss rfl)
    · cases p with
      | none => rfl
      | some p => exact acceptsUnder_iff.mpr (h.properties p rfl)
    · cases i with
      | none => rfl
      | some i => exact List.all_eq_true.mpr (h.items i rfl)
    · cases r with
      | none => rfl
      | some keys => exact List.all_eq_true.mpr (h.required keys rfl)

/-! ## What the schemas that inference builds accept -/

theorem accepts_text {f : Option Format} (s : String) : (text f).accepts (.string s) = true := by
  refine accepts_iff.mpr ⟨?_, nofun, nofun, nofun, nofun⟩
  intro k hk
  cases hk
  rfl

theorem accepts_ofKind {k : Kind} {v : Json} (h : k.admits v = true) :
    (ofKind k).accepts v = true := by
  refine accepts_iff.mpr ⟨?_, nofun, nofun, nofun, nofun⟩
  intro k' hk
  cases hk
  exact h

theorem accepts_choice {ss : List Schema} {a : Schema} {v : Json} (ha : a ∈ ss)
    (h : a.accepts v = true) : (choice ss).accepts v = true := by
  refine accepts_iff.mpr ⟨nofun, ?_, nofun, nofun, nofun⟩
  intro ts hts
  cases hts
  exact ⟨a, ha, h⟩

theorem accepts_arrayOf {i : Schema} {xs : List Json} (h : ∀ x ∈ xs, i.accepts x = true) :
    (arrayOf i).accepts (.array xs) = true := by
  refine accepts_iff.mpr ⟨?_, nofun, nofun, ?_, nofun⟩
  · intro k hk
    cases hk
    rfl
  · intro j hj
    cases hj
    exact h

theorem accepts_objectSeen {p : Keyed Schema} {es : List (String × Json)}
    (hkeys : ∀ key ∈ p.keys, key ∈ Keyed.keys es)
    (h : ∀ e ∈ p, ∀ f ∈ es, f.1 = e.1 → e.2.accepts f.2 = true) :
    (objectSeen p).accepts (.object es) = true := by
  refine accepts_iff.mpr ⟨?_, nofun, ?_, nofun, ?_⟩
  · intro k hk
    cases hk
    rfl
  · intro q hq
    cases hq
    exact h
  · intro keys hr key hkey
    cases hr
    exact List.contains_iff_mem.mpr (hkeys key hkey)

/-! ## Schemas that differ in nothing that counts -/

/-- Equal up to formats and up to the order of properties and of required keys, at any depth. -/
inductive Similar : Schema → Schema → Prop where
  | intro {a b : Schema} (kind : a.kind = b.kind)
      (choices : a.anyOf.map List.length = b.anyOf.map List.length)
      (choice : ∀ ss ts, a.anyOf = some ss → b.anyOf = some ts →
        ∀ (n : Nat) (s t : Schema), ss[n]? = some s → ts[n]? = some t → Similar s t)
      (keys : Option.Rel List.Perm (a.properties.map Keyed.keys) (b.properties.map Keyed.keys))
      (property : ∀ p q, a.properties = some p → b.properties = some q →
        ∀ e ∈ p, ∀ f ∈ q, e.1 = f.1 → Similar e.2 f.2)
      (present : a.items.isSome = b.items.isSome)
      (item : ∀ s t, a.items = some s → b.items = some t → Similar s t)
      (required : Option.Rel List.Perm a.required b.required) : Similar a b

/-- Schemas with a type and at most a format are similar when they have the type in common. -/
theorem similar_plain {k : Option Kind} {f g : Option Format} :
    Similar { kind := k, format := f } { kind := k, format := g } :=
  .intro rfl rfl nofun .none nofun rfl nofun .none

/-- Object schemas are similar when their keys are, up to order, and the schemas of each key. -/
theorem similar_objectSeen {p q : Keyed Schema} (hkeys : List.Perm p.keys q.keys)
    (h : ∀ e ∈ p, ∀ f ∈ q, e.1 = f.1 → Similar e.2 f.2) :
    Similar (objectSeen p) (objectSeen q) := by
  refine .intro rfl rfl nofun (.some hkeys) ?_ rfl nofun (.some hkeys)
  rintro _ _ ⟨⟩ ⟨⟩
  exact h

/-- **Acceptance does not see the difference** between similar schemas. -/
theorem Similar.accepts {a b : Schema} (h : Similar a b) :
    ∀ {v : Json}, a.accepts v = true → b.accepts v = true := by
  induction h with
  | @intro a b kind choices choice keys property present item required ihchoice ihproperty ihitem =>
    intro v hv
    have ha := accepts_iff.mp hv
    refine accepts_iff.mpr ⟨?_, ?_, ?_, ?_, ?_⟩
    · intro k hk
      exact ha.kind k (kind.trans hk)
    · -- the alternative that accepts has a partner at its place
      intro ts hts
      cases hss : a.anyOf with
      | none =>
        rw [hss, hts] at choices
        cases choices
      | some ss =>
        obtain ⟨r, hr, hrv⟩ := ha.anyOf ss hss
        rw [hss, hts] at choices
        obtain ⟨n, hn, rfl⟩ := List.getElem_of_mem hr
        have hn' : n < ts.length := Option.some.inj choices ▸ hn
        have hpartner : ts[n].accepts v = true :=
          ihchoice ss ts hss hts n ss[n] ts[n] (List.getElem?_eq_getElem hn)
            (List.getElem?_eq_getElem hn') hrv
        exact ⟨ts[n], List.getElem_mem hn', hpartner⟩
    · -- both sides list the key
      intro q hq f hf x hx hkey
      cases hp : a.properties with
      | none =>
        rw [hp, hq] at keys
        cases keys
      | some p =>
        rw [hp, hq] at keys
        cases keys with
        | some hperm =>
          have hmem : f.1 ∈ Keyed.keys p := hperm.mem_iff.mpr (Keyed.mem_keys.mpr ⟨f, hf, rfl⟩)
          obtain ⟨e, he, hef⟩ := Keyed.mem_keys.mp hmem
          have hx' := ha.properties p hp e he x hx (hkey.trans hef.symm)
          exact ihproperty p q hp hq e he f hf hef hx'
    · intro t ht x hx
      cases hs : a.items with
      | none =>
        rw [hs, ht] at present
        cases present
      | some s => exact ihitem s t hs ht (ha.items s hs x hx)
    · intro keys' hkeys' key hkey
      cases hr : a.required with
      | none =>
        rw [hr, hkeys'] at required
        cases required
      | some ks =>
        rw [hr, hkeys'] at required
        cases required with
        | some hperm => exact ha.required ks hr key (hperm.mem_iff.mpr hkey)

/-! ## The schema that stands for similar siblings is similar to each of them -/

/-- The keys of the merged properties are those of each sibling, in some order. -/
theorem keys_mergeObjects_perm {ss : List Schema} {s : Schema} (hs : s ∈ ss)
    (hdistinct : ∀ r ∈ ss, ∀ p, r.properties = some p → Keyed.Distinct p)
    (hsimilar : ∀ r ∈ ss, Similar s r) :
    Option.Rel List.Perm (s.properties.map Keyed.keys)
      ((mergeObjects ss).properties.map Keyed.keys) := by
  have hkeys : ∀ r ∈ ss, Option.Rel List.Perm (s.properties.map Keyed.keys)
      (r.properties.map Keyed.keys) := by
    intro r hr
    cases hsimilar r hr with
    | intro _ _ _ keys _ _ _ _ => exact keys
  cases hp : s.properties with
  | none =>
    -- no sibling has properties, so nothing is pooled
    have hnone : pooled (ss.map (·.properties)) = none := by
      refine pooled_eq_none ?_
      intro part hpart
      obtain ⟨r, hr, rfl⟩ := List.mem_map.mp hpart
      have hrel := hkeys r hr
      rw [hp] at hrel
      cases hq : r.properties with
      | none => rfl
      | some q =>
        rw [hq] at hrel
        cases hrel
    show Option.Rel List.Perm none (((pooled (ss.map (·.properties))).map Keyed.ofEntries).map _)
    rw [hnone]
    exact .none
  | some p =>
    have hpart : some p ∈ ss.map (·.properties) := hp ▸ List.mem_map_of_mem hs
    obtain ⟨pool, hpool, hsub⟩ := mem_pooled_of_mem hpart
    show Option.Rel List.Perm (some (Keyed.keys p))
      (((pooled (ss.map (·.properties))).map Keyed.ofEntries).map Keyed.keys)
    rw [hpool]
    refine .some ((List.perm_ext_iff_of_nodup (hdistinct s hs p hp)
      (Keyed.distinct_ofEntries pool)).mpr ?_)
    intro key
    rw [Keyed.mem_keys_ofEntries, Keyed.mem_keys]
    constructor
    · rintro ⟨e, he, rfl⟩
      exact ⟨e, hsub e he, rfl⟩
    · rintro ⟨e, he, rfl⟩
      -- the entry came from a sibling, which has the keys of `s`
      obtain ⟨q, hq, heq⟩ := mem_of_mem_pooled hpool he
      obtain ⟨r, hr, hrq⟩ := List.mem_map.mp hq
      have hrel := hkeys r hr
      rw [hp, hrq] at hrel
      cases hrel with
      | some hperm =>
        exact Keyed.mem_keys.mp (hperm.mem_iff.mpr (Keyed.mem_keys.mpr ⟨e, heq, rfl⟩))

/-- **Merged objects are similar to each of them**, if those are similar to each other. -/
theorem similar_mergeObjects {t : Toggles} {ss : List Schema} {s : Schema} (hs : s ∈ ss)
    (hobj : s.kind = some .object) (htyped : ∀ r ∈ ss, Typed t r)
    (hsimilar : ∀ r ∈ ss, Similar s r) : Similar s (mergeObjects ss) := by
  have hkeys := keys_mergeObjects_perm hs (fun r hr => (htyped r hr).distinct_properties) hsimilar
  have hrequired : Option.Rel List.Perm s.required (mergeObjects ss).required := by
    rw [(htyped s hs).required_eq, (Typed.mergeObjects htyped).required_eq]
    exact hkeys
  have hanyOf : s.anyOf = none := (htyped s hs).anyOf_eq
  have hitems : s.items = none := (htyped s hs).items_eq_none (by rw [hobj]; nofun)
  refine .intro hobj (by rw [hanyOf]; rfl) ?_ hkeys ?_ (by rw [hitems]; rfl) ?_ hrequired
  · intro _ _ hss
    rw [hanyOf] at hss
    cases hss
  · intro p m hp hm e he f hf hef
    -- the schema of a key is that of some sibling
    obtain ⟨r, hr, q, hrq, hfq⟩ := mem_properties_mergeObjects hm hf
    cases hsimilar r hr with
    | intro _ _ _ _ property _ _ _ => exact property p q hp hrq e he f hfq hef
  · intro _ _ hi
    rw [hitems] at hi
    cases hi

/-- Siblings of which two differ in type, or that do not differ in anything that counts. -/
def Coherent (ss : List Schema) : Prop :=
  (∃ a ∈ ss, ∃ b ∈ ss, a.kind ≠ b.kind) ∨ ∀ a ∈ ss, ∀ b ∈ ss, Similar a b

/-- Coherent siblings of one type are similar. -/
theorem Coherent.similar {ss : List Schema} {k : Option Kind} (h : Coherent ss)
    (hk : ∀ s ∈ ss, s.kind = k) : ∀ a ∈ ss, ∀ b ∈ ss, Similar a b := by
  rcases h with ⟨a, ha, b, hb, hab⟩ | h
  · exact absurd ((hk a ha).trans (hk b hb).symm) hab
  · exact h

/-- **What one of coherent siblings accepts, the unified schema accepts.** -/
theorem accepts_unify {t : Toggles} {ss : List Schema} (htyped : ∀ r ∈ ss, Typed t r)
    (hcoherent : Coherent ss) {s : Schema} (hs : s ∈ ss) {v : Json} (hv : s.accepts v = true) :
    (unify ss).accepts v = true := by
  cases siblings ss with
  | none => exact absurd hs List.not_mem_nil
  | objects hne hobj =>
    have hsimilar := hcoherent.similar hobj
    rw [unify_objects hne hobj]
    exact (similar_mergeObjects hs (hobj s hs) htyped (hsimilar s hs)).accepts hv
  | alike hfirst hrest =>
    next first rest =>
    have hkind : ∀ r ∈ first :: rest, r.kind = first.kind := List.forall_mem_cons.mpr ⟨rfl, hrest⟩
    rw [unify_alike hfirst hrest]
    exact (hcoherent.similar hkind s hs first List.mem_cons_self).accepts hv
  | mixed hmixed =>
    rw [unify_mixed hmixed]
    exact accepts_choice hs hv

/-! ## Truncation keeps similar schemas similar -/

theorem Similar.truncate {limit : Nat} {a b : Schema} (h : Similar a b) :
    ∀ depth, Similar (a.truncate limit depth) (b.truncate limit depth) := by
  induction h with
  | @intro a b kind choices choice keys property present item required ihchoice ihproperty ihitem =>
    intro depth
    by_cases hcut : limit ≤ depth ∧ IsContainer a.kind
    · rw [truncate_of_cut hcut.1 hcut.2, truncate_of_cut hcut.1 (kind ▸ hcut.2), kind]
      exact similar_plain
    · rw [truncate_of_keep hcut, truncate_of_keep (kind ▸ hcut)]
      refine .intro kind ?_ ?_ ?_ ?_ ?_ ?_ required
      · simpa [Function.comp_def] using choices
      · intro _ _ hss' hts' n _ _ hs' ht'
        obtain ⟨ss, hss, rfl⟩ := Option.map_eq_some_iff.mp hss'
        obtain ⟨ts, hts, rfl⟩ := Option.map_eq_some_iff.mp hts'
        rw [List.getElem?_map] at hs' ht'
        obtain ⟨s, hs, rfl⟩ := Option.map_eq_some_iff.mp hs'
        obtain ⟨t, ht, rfl⟩ := Option.map_eq_some_iff.mp ht'
        exact ihchoice ss ts hss hts n s t hs ht depth
      · simpa [Function.comp_def] using keys
      · intro _ _ hp' hq' _ he' _ hf' hef
        obtain ⟨p, hp, rfl⟩ := Option.map_eq_some_iff.mp hp'
        obtain ⟨q, hq, rfl⟩ := Option.map_eq_some_iff.mp hq'
        obtain ⟨e, he, rfl⟩ := Keyed.mem_mapValues.mp he'
        obtain ⟨f, hf, rfl⟩ := Keyed.mem_mapValues.mp hf'
        exact ihproperty p q hp hq e he f hf hef (depth + 1)
      · simpa using present
      · intro _ _ hs' ht'
        obtain ⟨s, hs, rfl⟩ := Option.map_eq_some_iff.mp hs'
        obtain ⟨t, ht, rfl⟩ := Option.map_eq_some_iff.mp ht'
        exact ihitem s t hs ht (depth + 1)

theorem Coherent.truncate {ss : List Schema} (h : Coherent ss) (limit depth : Nat) :
    Coherent (ss.map (Schema.truncate limit depth)) := by
  rcases h with ⟨a, ha, b, hb, hab⟩ | h
  · refine Or.inl ⟨_, List.mem_map_of_mem ha, _, List.mem_map_of_mem hb, ?_⟩
    rw [kind_truncate, kind_truncate]
    exact hab
  · refine Or.inr ?_
    intro _ ha' _ hb'
    obtain ⟨a, ha, rfl⟩ := List.mem_map.mp ha'
    obtain ⟨b, hb, rfl⟩ := List.mem_map.mp hb'
    exact (h a ha b hb).truncate depth

end Schema

/-! ## A sample is accepted by its schema -/

namespace Json

/-- `part` stands in a value inside this many containers. -/
inductive Inside (part : Json) : Nat → Json → Prop where
  | self : Inside part 0 part
  | item {k : Nat} {xs : List Json} {x : Json} (hx : x ∈ xs) (h : Inside part k x) :
      Inside part (k + 1) (.array xs)
  | entry {k : Nat} {es : List (String × Json)} {e : String × Json} (he : e ∈ es)
      (h : Inside part k e.2) : Inside part (k + 1) (.object es)

/-- A value at any depth, whose arrays are coherent by the schemas of their items in their places.
    The induction is on the value. -/
theorem accepts_schemaAt (s : Settings) : ∀ (v : Json) (depth : Nat), v.WellKeyed →
    (∀ k xs, Inside (.array xs) k v → Schema.Coherent (xs.map (schemaAt s (depth + k + 1)))) →
    (schemaAt s depth v).accepts v = true := by
  intro v
  induction v with
  | null =>
    intro depth _ _
    rw [schemaAt_eq, outline]
    exact Schema.accepts_ofKind rfl
  | bool b =>
    intro depth _ _
    rw [schemaAt_eq, outline]
    exact Schema.accepts_ofKind rfl
  | number n =>
    intro depth _ _
    rw [schemaAt_eq, outline]
    show (Schema.ofKind (if n.isWhole then _ else _)).accepts _ = true
    split
    · next hwhole => exact Schema.accepts_ofKind hwhole
    · exact Schema.accepts_ofKind rfl
  | string x =>
    intro depth _ _
    rw [schemaAt_eq, outline]
    exact Schema.accepts_text x
  | array xs ih =>
    intro depth hkeys hcoherent
    rw [schemaAt_array]
    split
    · exact Schema.accepts_ofKind rfl
    · refine Schema.accepts_arrayOf ?_
      intro x hx
      cases hkeys with
      | array hitems =>
        have haccepts : (schemaAt s (depth + 1) x).accepts x = true := by
          refine ih x hx (depth + 1) (hitems x hx) ?_
          intro k ys hys
          have hdeeper := hcoherent (k + 1) ys (.item hx hys)
          rwa [show depth + (k + 1) + 1 = depth + 1 + k + 1 by omega] at hdeeper
        refine Schema.accepts_unify (t := s.formats) ?_ (hcoherent 0 xs .self)
          (List.mem_map_of_mem hx) haccepts
        intro r hr
        obtain ⟨y, _, rfl⟩ := List.mem_map.mp hr
        exact typed_schemaAt s _ y
  | object es ih =>
    intro depth hkeys hcoherent
    rw [schemaAt_object]
    split
    · exact Schema.accepts_ofKind rfl
    · cases hkeys with
      | object hdistinct hentries =>
        have hdistinct' : Keyed.Distinct (Keyed.mapValues (schemaAt s (depth + 1)) es) := by
          unfold Keyed.Distinct
          rw [Keyed.keys_mapValues]
          exact hdistinct
        rw [Keyed.ofEntries_of_distinct hdistinct']
        refine Schema.accepts_objectSeen ?_ ?_
        · intro key hkey
          rwa [Keyed.keys_mapValues] at hkey
        · intro e he f hf hfe
          obtain ⟨a, ha, rfl⟩ := Keyed.mem_mapValues.mp he
          -- a key has one entry
          obtain rfl : f = a := List.inj_on_of_nodup_map hdistinct hf ha hfe
          refine ih f hf (depth + 1) (hentries f hf) ?_
          intro k ys hys
          have hdeeper := hcoherent (k + 1) ys (.entry hf hys)
          rwa [show depth + (k + 1) + 1 = depth + 1 + k + 1 by omega] at hdeeper

end Json

/-- **A schema accepts the sample that it was inferred from**, if every array inside is coherent:
    by the schemas of its items on their own, or by those that they have in their places, where the
    limit may have made more of them alike. -/
theorem infer_accepts (s : Settings) (v : Json) (hkeys : v.WellKeyed)
    (hcoherent : ∀ k xs, Json.Inside (.array xs) k v →
      Schema.Coherent (xs.map fun x => (inferJson s x).schema) ∨
        Schema.Coherent (xs.map (Json.schemaAt s (k + 1)))) :
    (inferJson s v).schema.accepts v = true := by
  rw [Json.schema_inferJson]
  refine Json.accepts_schemaAt s v 0 hkeys ?_
  intro k xs hxs
  rw [Nat.zero_add]
  rcases hcoherent k xs hxs with hown | hplace
  · have hcut := hown.truncate (s.maxDepth - (k + 1)) 0
    rw [List.map_map] at hcut
    rwa [List.map_congr_left fun x _ => Json.schemaAt_eq_truncate s (k + 1) x]
  · exact hplace

/-- Two objects that differ in the order of their keys and in a format: the schema that stands for
    both keeps the order of the first and the missing format of the second. -/
theorem infer_accepts_shuffled :
    let s : Settings := { formats := { Toggles.none with date := true } }
    let v : Json := .array
      [.object [("id", .bool true), ("at", .string "2024-01-02")],
        .object [("at", .string "later"), ("id", .bool false)]]
    v.WellKeyed ∧
      (∀ k xs, Json.Inside (.array xs) k v →
        Schema.Coherent (xs.map fun x => (inferJson s x).schema) ∨
          Schema.Coherent (xs.map (Json.schemaAt s (k + 1)))) ∧
      (inferJson s v).schema =
        .arrayOf (.objectSeen [("id", .ofKind .boolean), ("at", .text none)]) ∧
      (inferJson s v).schema.accepts v = true := by
  intro s v
  have hkeys : v.WellKeyed := by
    refine .array (List.forall_mem_cons.mpr ⟨.object ?_ ?_, List.forall_mem_singleton.mpr
      (.object ?_ ?_)⟩)
    · exact List.nodup_cons.mpr (by decide)
    · exact List.forall_mem_cons.mpr ⟨.bool _, List.forall_mem_singleton.mpr (.string _)⟩
    · exact List.nodup_cons.mpr (by decide)
    · exact List.forall_mem_cons.mpr ⟨.string _, List.forall_mem_singleton.mpr (.bool _)⟩
  let rows : List (Keyed Schema) := [[("id", .ofKind .boolean), ("at", .text (some .date))],
    [("at", .text none), ("id", .ofKind .boolean)]]
  have hperm : ∀ p ∈ rows, ∀ q ∈ rows, List.Perm (Keyed.keys p) (Keyed.keys q) := by decide
  have hentry : ∀ p ∈ rows, ∀ e ∈ p,
      e = ("id", .ofKind .boolean) ∨ ∃ f, e = ("at", .text f) := by
    intro p hp e he
    rcases List.mem_pair.mp hp with rfl | rfl <;> rcases List.mem_pair.mp he with rfl | rfl
    · exact Or.inl rfl
    · exact Or.inr ⟨_, rfl⟩
    · exact Or.inr ⟨_, rfl⟩
    · exact Or.inl rfl
  have hrows : Schema.Coherent (rows.map .objectSeen) := by
    refine Or.inr ?_
    intro _ ha _ hb
    obtain ⟨p, hp, rfl⟩ := List.mem_map.mp ha
    obtain ⟨q, hq, rfl⟩ := List.mem_map.mp hb
    refine Schema.similar_objectSeen (hperm p hp q hq) ?_
    intro e he f hf hef
    rcases hentry p hp e he with rfl | ⟨f, rfl⟩ <;> rcases hentry q hq _ hf with rfl | ⟨g, rfl⟩
    · exact Schema.similar_plain
    · exact absurd hef (show ¬ "id" = "at" by decide)
    · exact absurd hef (show ¬ "at" = "id" by decide)
    · exact Schema.similar_plain
  have hcoherent : ∀ k xs, Json.Inside (.array xs) k v →
      Schema.Coherent (xs.map fun x => (inferJson s x).schema) ∨
        Schema.Coherent (xs.map (Json.schemaAt s (k + 1))) := by
    intro k xs hxs
    unfold v at hxs
    -- the objects hold no arrays
    cases hxs with
    | self => exact Or.inl hrows
    | item hx h =>
      rcases List.mem_pair.mp hx with rfl | rfl <;> cases h with
      | entry he h => rcases List.mem_pair.mp he with rfl | rfl <;> cases h
  exact ⟨hkeys, hcoherent, rfl, infer_accepts s v hkeys hcoherent⟩

end SampleSchema
