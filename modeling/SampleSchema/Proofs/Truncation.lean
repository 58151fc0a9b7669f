/-
  The depth limit cuts the schema, not only the sample.

  The limit acts on the sample: a container that stands too deep is not opened.  Siblings are
  unified after that, so it is not clear at once that a lower limit gives the same schema with its
  deep containers made bare.  It does:

      schema at limit m  =  truncate m (schema at limit n)          for m ≤ n.

  `Schema.truncate` counts the containers around a part: one more through `items` and through every
  property, none through a choice.  The crux is `truncate_unify`, truncating siblings and unifying
  them commute, for all siblings whatever: their types stay, so the same case of `unify` applies on
  both sides, and in the case of objects either all of them lose both rows (at the limit) or each
  row is changed entry by entry (above it), which pooling and overwriting do not notice.
-/
import SampleSchema.Proofs.KeyedMap
import SampleSchema.Proofs.Outline
import SampleSchema.Proofs.Unification
import SampleSchema.Sample.Heap

namespace SampleSchema
namespace Schema

/-! ## Truncation of a schema -/

/-- Is this the schema of an array or of an object? -/
def IsContainer (k : Option Kind) : Prop := k = some .array ∨ k = some .object

instance (k : Option Kind) : Decidable (IsContainer k) :=
  inferInstanceAs (Decidable (k = some .array ∨ k = some .object))

mutual

/-- Make every array and object bare that stands at the limit or deeper, where the schema itself
    stands at `depth`. -/
def truncate (limit depth : Nat) : Schema → Schema
  | ⟨k, a, p, i, r, f⟩ =>
    if limit ≤ depth ∧ IsContainer k then { kind := k }
    else
      { kind := k
        anyOf := match a with
          | none => none
          | some ss => some (truncateAll limit depth ss)
        properties := match p with
          | none => none
          | some es => some (truncateUnder limit (depth + 1) es)
        items := match i with
          | none => none
          | some s => some (truncate limit (depth + 1) s)
        required := r
        format := f }

/-- Truncate every schema of a list, all at one depth. -/
def truncateAll (limit depth : Nat) : List Schema → List Schema
  | [] => []
  | s :: ss => truncate limit depth s :: truncateAll limit depth ss

/-- Truncate the schema of every entry. -/
def truncateUnder (limit depth : Nat) : List (String × Schema) → List (String × Schema)
  | [] => []
  | (key, s) :: es => (key, truncate limit depth s) :: truncateUnder limit depth es

end

theorem truncateAll_eq_map (limit depth : Nat) (ss : List Schema) :
    truncateAll limit depth ss = ss.map (truncate limit depth) := by
  induction ss with
  | nil => rfl
  | cons s ss ih => rw [truncateAll, ih, List.map_cons]

theorem truncateUnder_eq_mapValues (limit depth : Nat) (es : List (String × Schema)) :
    truncateUnder limit depth es = Keyed.mapValues (truncate limit depth) es := by
  induction es with
  | nil => rfl
  | cons e es ih =>
    rw [truncateUnder, ih]
    rfl

variable {limit depth : Nat}

/-- A container at the limit keeps its type and nothing else. -/
theorem truncate_of_cut {s : Schema} (h : limit ≤ depth) (hs : IsContainer s.kind) :
    s.truncate limit depth = { kind := s.kind } := by
  obtain ⟨k, a, p, i, r, f⟩ := s
  rw [truncate.eq_def]
  exact if_pos ⟨h, hs⟩

/-- Anything else keeps its own parts; truncation goes on below. -/
theorem truncate_of_keep {s : Schema} (h : ¬ (limit ≤ depth ∧ IsContainer s.kind)) :
    s.truncate limit depth =
      { kind := s.kind
        anyOf := s.anyOf.map (List.map (truncate limit depth))
        properties := s.properties.map (Keyed.mapValues (truncate limit (depth + 1)))
        items := s.items.map (truncate limit (depth + 1))
        required := s.required
        format := s.format } := by
  obtain ⟨k, a, p, i, r, f⟩ := s
  rw [truncate.eq_def]
  refine (if_neg h).trans ?_
  congr 1
  · cases a with
    | none => rfl
    | some ss => exact congrArg some (truncateAll_eq_map limit depth ss)
  · cases p with
    | none => rfl
    | some es => exact congrArg some (truncateUnder_eq_mapValues limit (depth + 1) es)
  · cases i <;> rfl

@[simp] theorem kind_truncate (s : Schema) : (s.truncate limit depth).kind = s.kind := by
  by_cases h : limit ≤ depth ∧ IsContainer s.kind
  · rw [truncate_of_cut h.1 h.2]
  · rw [truncate_of_keep h]

/-- A bare schema stays, cut or not. -/
theorem truncate_ofKind (k : Kind) : (ofKind k).truncate limit depth = ofKind k := by
  by_cases h : limit ≤ depth ∧ IsContainer (ofKind k).kind
  · exact truncate_of_cut h.1 h.2
  · exact truncate_of_keep h

theorem truncate_text (f : Option Format) : (text f).truncate limit depth = text f := by
  refine truncate_of_keep ?_
  rintro ⟨_, h | h⟩ <;> cases h

theorem truncate_any : any.truncate limit depth = any := by
  refine truncate_of_keep ?_
  rintro ⟨_, h | h⟩ <;> cases h

theorem truncate_choice (ss : List Schema) :
    (choice ss).truncate limit depth = choice (ss.map (truncate limit depth)) := by
  refine truncate_of_keep ?_
  rintro ⟨_, h | h⟩ <;> cases h

theorem truncate_arrayOf (i : Schema) (h : ¬ limit ≤ depth) :
    (arrayOf i).truncate limit depth = arrayOf (i.truncate limit (depth + 1)) :=
  truncate_of_keep fun hc => h hc.1

theorem truncate_objectSeen (p : Keyed Schema) (h : ¬ limit ≤ depth) :
    (objectSeen p).truncate limit depth =
      objectSeen (Keyed.mapValues (truncate limit (depth + 1)) p) := by
  refine (truncate_of_keep fun hc => h hc.1).trans ?_
  rw [objectSeen, objectSeen, objectOf, objectOf, Keyed.keys_mapValues]
  rfl

/-! ## Truncating siblings and unifying them commute -/

/-- Truncating objects and merging them commute.  At the limit no object has a row left; above it
    the schema of every property is changed alike. -/
theorem truncate_mergeObjects {ss : List Schema} (hobj : ∀ s ∈ ss, s.kind = some .object) :
    (mergeObjects ss).truncate limit depth = mergeObjects (ss.map (truncate limit depth)) := by
  by_cases h : limit ≤ depth
  · have hbare : ∀ s ∈ ss.map (truncate limit depth), s = ofKind .object :=
      List.forall_mem_map.mpr fun s hs => by
        rw [truncate_of_cut h (Or.inr (hobj s hs)), hobj s hs]
        rfl
    rw [truncate_of_cut h (Or.inr rfl), mergeObjects_bare hbare]
    rfl
  · have hkeep : ∀ s : Schema, ¬ (limit ≤ depth ∧ IsContainer s.kind) := fun _ hc => h hc.1
    have hproperties : ∀ s ∈ ss, (s.truncate limit depth).properties =
        s.properties.map (Keyed.mapValues (truncate limit (depth + 1))) :=
      fun s _ => by rw [truncate_of_keep (hkeep s)]
    have hrequired : ∀ s ∈ ss, (s.truncate limit depth).required = s.required :=
      fun s _ => by rw [truncate_of_keep (hkeep s)]
    rw [truncate_of_keep (hkeep _), mergeObjects_map hproperties hrequired]
    rfl

/-- **Truncating siblings and unifying them commute**, whatever the siblings. -/
theorem truncate_unify (ss : List Schema) :
    (unify ss).truncate limit depth = unify (ss.map (truncate limit depth)) :=
  unify_map kind_truncate truncate_any truncate_choice (fun _ => truncate_mergeObjects) ss

/-! ## The parts of a schema, by depth -/

/-- `part` stands in a schema inside this many containers. -/
inductive Occurs (part : Schema) : Nat → Schema → Prop where
  | self : Occurs part 0 part
  | items {k : Nat} {s i : Schema} (hi : s.items = some i) (h : Occurs part k i) :
      Occurs part (k + 1) s
  | property {k : Nat} {s : Schema} {p : Keyed Schema} {e : String × Schema}
      (hp : s.properties = some p) (he : e ∈ p) (h : Occurs part k e.2) : Occurs part (k + 1) s
  | choice {k : Nat} {s a : Schema} {ss : List Schema} (hs : s.anyOf = some ss) (ha : a ∈ ss)
      (h : Occurs part k a) : Occurs part k s

/-- Nothing but bare containers is left at the limit. -/
theorem Occurs.bare_of_truncate {part whole : Schema} {k : Nat} (h : Occurs part k whole) :
    ∀ (s : Schema) (depth : Nat), whole = s.truncate limit depth → limit ≤ depth + k →
      IsContainer part.kind → part = { kind := part.kind } := by
  induction h with
  | self =>
    intro s depth hwhole hdepth hpart
    subst hwhole
    rw [kind_truncate] at hpart
    rw [kind_truncate]
    exact truncate_of_cut hdepth hpart
  | @items k t i hi _ ih =>
    intro s depth hwhole hdepth hpart
    subst hwhole
    by_cases hcut : limit ≤ depth ∧ IsContainer s.kind
    · rw [truncate_of_cut hcut.1 hcut.2] at hi
      cases hi
    · rw [truncate_of_keep hcut] at hi
      obtain ⟨j, _, rfl⟩ := Option.map_eq_some_iff.mp hi
      exact ih j (depth + 1) rfl (by omega) hpart
  | @property k t p e hp he _ ih =>
    intro s depth hwhole hdepth hpart
    subst hwhole
    by_cases hcut : limit ≤ depth ∧ IsContainer s.kind
    · rw [truncate_of_cut hcut.1 hcut.2] at hp
      cases hp
    · rw [truncate_of_keep hcut] at hp
      obtain ⟨q, _, rfl⟩ := Option.map_eq_some_iff.mp hp
      obtain ⟨a, _, rfl⟩ := Keyed.mem_mapValues.mp he
      exact ih a.2 (depth + 1) rfl (by omega) hpart
  | @choice k t a ss hs ha _ ih =>
    intro s depth hwhole hdepth hpart
    subst hwhole
    by_cases hcut : limit ≤ depth ∧ IsContainer s.kind
    · rw [truncate_of_cut hcut.1 hcut.2] at hs
      cases hs
    · rw [truncate_of_keep hcut] at hs
      obtain ⟨ts, _, rfl⟩ := Option.map_eq_some_iff.mp hs
      obtain ⟨b, _, rfl⟩ := List.mem_map.mp ha
      exact ih b depth rfl hdepth hpart

/-- Above the limit every part keeps its place. -/
theorem Occurs.truncate {part s : Schema} {k : Nat} (h : Occurs part k s) :
    ∀ depth, depth + k < limit →
      Occurs (part.truncate limit (depth + k)) k (s.truncate limit depth) := by
  induction h with
  | self => intro depth _; exact .self
  | items hi _ ih =>
    intro depth hdepth
    have hbelow := ih (depth + 1) (by omega)
    rw [Nat.add_right_comm] at hbelow
    refine .items ?_ hbelow
    rw [truncate_of_keep (by omega), hi]
    rfl
  | @property k t p e hp he _ ih =>
    intro depth hdepth
    have hbelow := ih (depth + 1) (by omega)
    rw [Nat.add_right_comm] at hbelow
    have hp' : (t.truncate limit depth).properties =
        some (Keyed.mapValues (Schema.truncate limit (depth + 1)) p) := by
      rw [truncate_of_keep (by omega), hp]
      rfl
    exact .property hp' (Keyed.mem_mapValues.mpr ⟨e, he, rfl⟩) hbelow
  | choice hs ha _ ih =>
    intro depth hdepth
    refine .choice ?_ (List.mem_map_of_mem ha) (ih depth hdepth)
    rw [truncate_of_keep (by omega), hs]
    rfl

end Schema

/-! ## A lower limit truncates the schema -/

/-- One value, at any depth and inside any containers.  The induction is on the room above the lower
    limit; the guard against cycles does not depend on the limit, so it decides alike on both
    sides. -/
theorem truncate_schema_outline {σ : Type} {m n : Nat} (h : m ≤ n) (look : σ → Layer σ)
    (t : Toggles) : ∀ (room depth : Nat) (above : List Nat) (x : σ), m - depth = room →
    ((outline n look depth above x).schema t).truncate m depth =
      (outline m look depth above x).schema t := by
  intro room
  induction room with
  | zero =>
    -- at the lower limit: a container is bare on both sides, the higher limit notwithstanding
    intro depth above x hroom
    have hlimit : m ≤ depth := by omega
    have hkind := kind_schema_outline n look t depth above x
    have hcut : Schema.IsContainer ((outline n look depth above x).schema t).kind →
        ((outline n look depth above x).schema t).truncate m depth = .ofKind (look x).kind := by
      intro hc
      rw [Schema.truncate_of_cut hlimit hc, hkind]
      rfl
    rw [hkind] at hcut
    rw [outline.eq_def m]
    cases hx : look x with
    | array identity items =>
      rw [hcut (by rw [hx]; exact Or.inl rfl), hx]
      simp only [if_pos hlimit]
      rfl
    | object identity entries =>
      rw [hcut (by rw [hx]; exact Or.inr rfl), hx]
      simp only [if_pos hlimit]
      rfl
    | string text =>
      rw [outline, hx]
      exact Schema.truncate_text _
    | _ =>
      rw [outline, hx]
      exact Schema.truncate_ofKind _
  | succ room ih =>
    -- above both limits: the same containers are opened, with the same ones around their parts
    intro depth above x hroom
    have hm : ¬ m ≤ depth := by omega
    have hn : ¬ n ≤ depth := by omega
    have hnext : m - (depth + 1) = room := by omega
    rw [outline.eq_def m, outline.eq_def n]
    cases look x with
    | array identity items =>
      simp only [if_neg hm, if_neg hn]
      by_cases hrep : Repeats identity above
      · rw [if_pos hrep, if_pos hrep]
        exact Schema.truncate_ofKind _
      · rw [if_neg hrep, if_neg hrep, Outline.schema, Outline.schema,
          Schema.truncate_arrayOf _ hm, Schema.truncate_unify, Outline.schemas_eq_map,
          Outline.schemas_eq_map, List.map_map, List.map_map, List.map_map]
        congr 2
        exact List.map_congr_left fun y _ => ih (depth + 1) _ y hnext
    | object identity entries =>
      simp only [if_neg hm, if_neg hn]
      by_cases hrep : Repeats identity above
      · rw [if_pos hrep, if_pos hrep]
        exact Schema.truncate_ofKind _
      · rw [if_neg hrep, if_neg hrep, Outline.schema, Outline.schema,
          Schema.truncate_objectSeen _ hm, Keyed.mapValues_ofEntries, Outline.properties_eq_map,
          Outline.properties_eq_map, Keyed.mapValues, List.map_map, List.map_map, List.map_map]
        congr 2
        exact List.map_congr_left fun e _ => congrArg (Prod.mk e.1) (ih (depth + 1) _ e.2 hnext)
    | string text => exact Schema.truncate_text _
    | _ => exact Schema.truncate_ofKind _

/-- **The depth limit is truncation.**  With a lower limit inference gives the truncated schema;
    hence nothing but bare containers is left at the limit and below it, and every part above the
    limit is still there, with its own type, format, keys and required keys. -/
theorem infer_truncate {σ : Type} {m n : Nat} (h : m ≤ n) (s : Settings) (look : σ → Layer σ)
    (x : σ) :
    (infer { s with maxDepth := m } look x).schema =
        (infer { s with maxDepth := n } look x).schema.truncate m 0 ∧
      (∀ k part, Schema.Occurs part k (infer { s with maxDepth := m } look x).schema → m ≤ k →
        Schema.IsContainer part.kind → part = { kind := part.kind }) ∧
      (∀ k part, Schema.Occurs part k (infer { s with maxDepth := n } look x).schema → k < m →
        ∃ q, Schema.Occurs q k (infer { s with maxDepth := m } look x).schema ∧
          q.kind = part.kind ∧ q.format = part.format ∧ q.required = part.required ∧
          q.properties.map Keyed.keys = part.properties.map Keyed.keys) := by
  have heq : (infer { s with maxDepth := m } look x).schema =
      (infer { s with maxDepth := n } look x).schema.truncate m 0 := by
    rw [infer_eq, infer_eq]
    exact (truncate_schema_outline h look s.formats _ 0 [] x rfl).symm
  refine ⟨heq, ?_, ?_⟩
  · intro k part hpart hk hc
    exact hpart.bare_of_truncate _ 0 heq (by omega) hc
  · intro k part hpart hk
    have hq := hpart.truncate 0 (show 0 + k < m by omega)
    rw [Nat.zero_add, ← heq] at hq
    refine ⟨_, hq, ?_⟩
    rw [Schema.truncate_of_keep (by omega)]
    refine ⟨rfl, rfl, rfl, ?_⟩
    show Option.map _ (Option.map _ _) = _
    rw [Option.map_map]
    congr 1
    funext p
    exact Keyed.keys_mapValues _ p

/-- An object that holds itself beside a list, one level of it and two. -/
theorem infer_truncate_cycle :
    let look := Heap.look ⟨#[.object [("me", .object 0), ("list", .array 1)], .array [.null]]⟩
    1 ≤ 2 ∧
      (infer { maxDepth := 1 } look (.object 0)).schema =
        (infer { maxDepth := 2 } look (.object 0)).schema.truncate 1 0 ∧
      (infer { maxDepth := 1 } look (.object 0)).schema =
        .objectSeen [("me", .ofKind .object), ("list", .ofKind .array)] ∧
      (infer { maxDepth := 2 } look (.object 0)).schema =
        .objectSeen [("me", .ofKind .object), ("list", .arrayOf (.ofKind .null))] :=
  ⟨by decide, (infer_truncate (by decide) {} _ _).1, rfl, rfl⟩

end SampleSchema
