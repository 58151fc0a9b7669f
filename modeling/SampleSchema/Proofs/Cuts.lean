/-
  The log tells what was lost.

  Three things make a schema say less than the sample shows: a container that stands at the limit, a
  container that is met inside itself, and items that do not agree on a type.  Each of them costs
  one event.

  1. **Every loss in the schema has its event** (`outline_reported`).  A bare container somewhere
     inside is told with its type and the depth at which it stands, and a choice with the number of
     its alternatives and of their types.  This holds at every part of the schema (`Everywhere`).
     The crux is that unifying siblings brings no loss of its own but disagreement
     (`Reported.unify`): a merged object is bare only if all of its siblings are.  The converse
     fails.  A sibling that another one stands for is dropped, with all that its events tell of.

  2. **No event of a container at the limit** means that the limit made no difference; a higher one
     finds the same outline, hence the same schema and the same events
     (`outline_eq_of_not_tooDeep`).

  3. For whole inferences this is read off the log, which ends with the one event that sums up the
     schema (`infer_log`).
-/
import SampleSchema.Proofs.Truncation

namespace SampleSchema

/-! ## Schemas, part by part -/

namespace Schema

/-- The schema of an array that says nothing of items, or of an object that says nothing of
    properties. -/
def Bare (s : Schema) : Prop :=
  (s.kind = some .array ∧ s.items = none) ∨ (s.kind = some .object ∧ s.properties = none)

/-- No bare container anywhere inside. -/
def Filled (s : Schema) : Prop := ∀ k part, Occurs part k s → ¬ part.Bare

/-- Every part of a schema that stands at `depth` has a property, which may depend on the depth at
    which the part stands. -/
def Everywhere (P : Nat → Schema → Prop) (depth : Nat) (s : Schema) : Prop :=
  ∀ k part, Occurs part k s → P (depth + k) part

namespace Everywhere

variable {P : Nat → Schema → Prop} {depth : Nat} {s : Schema}

theorem self (h : Everywhere P depth s) : P depth s := h 0 s .self

theorem property (h : Everywhere P depth s) {p : Keyed Schema} (hp : s.properties = some p)
    {e : String × Schema} (he : e ∈ p) : Everywhere P (depth + 1) e.2 := by
  intro k part hpart
  rw [Nat.add_right_comm]
  exact h (k + 1) part (.property hp he hpart)

theorem item (h : Everywhere P depth s) {i : Schema} (hi : s.items = some i) :
    Everywhere P (depth + 1) i := by
  intro k part hpart
  rw [Nat.add_right_comm]
  exact h (k + 1) part (.items hi hpart)

theorem alternative (h : Everywhere P depth s) {ss : List Schema} (hs : s.anyOf = some ss)
    {a : Schema} (ha : a ∈ ss) : Everywhere P depth a :=
  fun k part hpart => h k part (.choice hs ha hpart)

theorem mono {Q : Nat → Schema → Prop} (h : Everywhere P depth s)
    (himp : ∀ d part, P d part → Q d part) : Everywhere Q depth s :=
  fun k part hpart => himp _ part (h k part hpart)

/-- What holds of a schema and everywhere in what it holds, holds everywhere. -/
theorem intro (self : P depth s) (item : ∀ i, s.items = some i → Everywhere P (depth + 1) i)
    (property : ∀ p, s.properties = some p → ∀ e ∈ p, Everywhere P (depth + 1) e.2)
    (alternative : ∀ ss, s.anyOf = some ss → ∀ a ∈ ss, Everywhere P depth a) :
    Everywhere P depth s := by
  intro k part h
  cases h with
  | self => exact self
  | items hi h => exact Nat.add_right_comm depth _ 1 ▸ item _ hi _ part h
  | property hp he h => exact Nat.add_right_comm depth _ 1 ▸ property _ hp _ he _ part h
  | choice hs ha h => exact alternative _ hs _ ha _ part h

/-- A type, and at most a format. -/
theorem plain {k : Option Kind} {f : Option Format} (self : P depth { kind := k, format := f }) :
    Everywhere P depth { kind := k, format := f } := intro self nofun nofun nofun

theorem arrayOf {i : Schema} (self : P depth (.arrayOf i)) (item : Everywhere P (depth + 1) i) :
    Everywhere P depth (.arrayOf i) := by
  refine intro self ?_ nofun nofun
  intro j hj
  cases hj
  exact item

theorem objectSeen {p : Keyed Schema} (self : P depth (.objectSeen p))
    (property : ∀ e ∈ p, Everywhere P (depth + 1) e.2) : Everywhere P depth (.objectSeen p) := by
  refine intro self nofun ?_ nofun
  intro q hq
  cases hq
  exact property

/-- **Siblings bring all their parts along and nothing else**, but for the schema that stands for
    them. -/
theorem unify {ss : List Schema} (self : P depth (Schema.unify ss))
    (h : ∀ s ∈ ss, Everywhere P depth s) : Everywhere P depth (Schema.unify ss) := by
  cases siblings ss with
  | none =>
    rw [unify_nil] at self ⊢
    exact plain self
  | objects hne hobj =>
    rw [unify_objects hne hobj] at self ⊢
    refine intro self nofun ?_ nofun
    intro p hp e he
    obtain ⟨s, hs, q, hq, heq⟩ := mem_properties_mergeObjects hp he
    exact (h s hs).property hq heq
  | alike hs hrest =>
    rw [unify_alike hs hrest]
    exact h _ List.mem_cons_self
  | mixed hmixed =>
    rw [unify_mixed hmixed] at self ⊢
    refine intro self nofun nofun ?_
    intro ts hts
    cases hts
    exact h

end Everywhere

/-! ## Losses and the events that tell of them -/

/-- The events tell of what one schema at `depth` lacks: of a bare container by its type and its
    depth, of a choice by the number of the alternatives and of their types. -/
structure Reported (limit : Nat) (es : List Event) (depth : Nat) (s : Schema) : Prop where
  bare : s.Bare → ∃ kind, s.kind = some kind ∧
    (.tooDeep kind depth limit ∈ es ∨ .cyclic kind depth ∈ es)
  choice : ∀ ss, s.anyOf = some ss → .disagreed ⟨ss.length, (tags ss).length⟩ ∈ es

/-- Different types are a disagreement. -/
theorem disagreement?_mixed {ss : List Schema} (h : ∃ a ∈ ss, ∃ b ∈ ss, a.kind ≠ b.kind) :
    disagreement? ss = some ⟨ss.length, (tags ss).length⟩ := by
  obtain ⟨a, ha, b, hb, hab⟩ := h
  have hat : a.kind ∈ tags ss := mem_tags.mpr ⟨a, ha, rfl⟩
  have hbt : b.kind ∈ tags ss := mem_tags.mpr ⟨b, hb, rfl⟩
  refine if_pos ?_
  -- two different types are two types
  match htags : tags ss with
  | [] =>
    rw [htags] at hat
    exact absurd hat List.not_mem_nil
  | [k] =>
    rw [htags, List.mem_singleton] at hat hbt
    exact absurd (hat.trans hbt.symm) hab
  | _ :: _ :: _ => exact Nat.le_add_left 2 _

namespace Reported

variable {limit depth : Nat} {es fs : List Event}

theorem mono {s : Schema} (h : Reported limit es depth s) (hsub : ∀ e ∈ es, e ∈ fs) :
    Reported limit fs depth s where
  bare := fun hbare => by
    obtain ⟨kind, hkind, hevent⟩ := h.bare hbare
    exact ⟨kind, hkind, hevent.imp (hsub _) (hsub _)⟩
  choice := fun ss hss => hsub _ (h.choice ss hss)

/-- A schema that lacks nothing. -/
theorem whole {s : Schema} (hbare : ¬ s.Bare) (hchoice : s.anyOf = none) :
    Reported limit es depth s where
  bare := fun h => absurd h hbare
  choice := fun ss hss => by
    rw [hchoice] at hss
    cases hss

theorem plain {k : Option Kind} {f : Option Format} (hk : ¬ IsContainer k) :
    Reported limit es depth { kind := k, format := f } := by
  refine whole ?_ rfl
  rintro (⟨h, _⟩ | ⟨h, _⟩)
  · exact hk (Or.inl h)
  · exact hk (Or.inr h)

/-- A container that is not opened. -/
theorem cut {kind : Kind} (h : .tooDeep kind depth limit ∈ es ∨ .cyclic kind depth ∈ es) :
    Reported limit es depth (.ofKind kind) where
  bare := fun _ => ⟨kind, rfl, h⟩
  choice := nofun

theorem arrayOf (i : Schema) : Reported limit es depth (.arrayOf i) := by
  refine whole ?_ rfl
  rintro (⟨_, hnone⟩ | ⟨hkind, _⟩)
  · cases hnone
  · cases hkind

theorem objectSeen (p : Keyed Schema) : Reported limit es depth (.objectSeen p) := by
  refine whole ?_ rfl
  rintro (⟨hkind, _⟩ | ⟨_, hnone⟩)
  · cases hkind
  · cases hnone

/-- Merged objects are bare only if all of them were. -/
theorem mergeObjects {ss : List Schema} (hne : ss ≠ []) (hobj : ∀ s ∈ ss, s.kind = some .object)
    (h : ∀ s ∈ ss, Reported limit es depth s) :
    Reported limit es depth (Schema.mergeObjects ss) where
  bare := by
    rintro (⟨hkind, _⟩ | ⟨_, hnone⟩)
    · cases hkind
    · obtain ⟨s, rest, rfl⟩ := List.exists_cons_of_ne_nil hne
      have hs : s ∈ s :: rest := List.mem_cons_self
      have hbare : s.properties = none :=
        Classical.byContradiction fun hsome => properties_mergeObjects_ne_none hs hsome hnone
      obtain ⟨kind, hkind, hevent⟩ := (h s hs).bare (Or.inr ⟨hobj s hs, hbare⟩)
      exact ⟨kind, (hobj s hs).symm.trans hkind, hevent⟩
  choice := nofun

/-- **The only loss that siblings add is disagreement.** -/
theorem unify {ss : List Schema} (h : ∀ s ∈ ss, Reported limit es depth s)
    (hdisagree : ∀ d, disagreement? ss = some d → .disagreed d ∈ es) :
    Reported limit es depth (Schema.unify ss) := by
  cases siblings ss with
  | none =>
    rw [unify_nil]
    exact plain (by decide)
  | objects hne hobj =>
    rw [unify_objects hne hobj]
    exact .mergeObjects hne hobj h
  | alike hs hrest =>
    rw [unify_alike hs hrest]
    exact h _ List.mem_cons_self
  | mixed hmixed =>
    rw [unify_mixed hmixed]
    constructor
    · rintro (⟨hkind, _⟩ | ⟨hkind, _⟩) <;> cases hkind
    · intro ts hts
      cases hts
      exact hdisagree _ (disagreement?_mixed hmixed)

end Reported
end Schema

/-! ## Outlines and their events -/

namespace Outline

/-- The events of an array are those of its items and at most a disagreement between them. -/
theorem mem_events_array {t : Toggles} {os : List Outline} {e : Event} :
    e ∈ (array os).events t ↔ (∃ o ∈ os, e ∈ o.events t) ∨
      ∃ d, Schema.disagreement? (os.map (schema t)) = some d ∧ .disagreed d = e := by
  rw [events, itemEvents_eq_flatMap, schemas_eq_map, List.mem_append, List.mem_flatMap,
    Option.mem_toList, Option.map_eq_some_iff]

/-- The events of an object are those of its entries. -/
theorem mem_events_object {t : Toggles} {es : List (String × Outline)} {e : Event} :
    e ∈ (object es).events t ↔ ∃ a ∈ es, e ∈ a.2.events t := by
  rw [events, entryEvents_eq_flatMap, List.mem_flatMap]

section

variable {limit depth : Nat} {t : Toggles}

/-- If the losses in the items are told by their events, those in the array are. -/
theorem reported_array {os : List Outline}
    (h : ∀ o ∈ os, Schema.Everywhere (Schema.Reported limit (o.events t)) (depth + 1)
      (o.schema t)) :
    Schema.Everywhere (Schema.Reported limit ((array os).events t)) depth
      ((array os).schema t) := by
  have hitems : ∀ s ∈ os.map (schema t),
      Schema.Everywhere (Schema.Reported limit ((array os).events t)) (depth + 1) s := by
    refine List.forall_mem_map.mpr fun o ho => (h o ho).mono fun _ _ hpart => hpart.mono ?_
    exact fun e he => mem_events_array.mpr (Or.inl ⟨o, ho, he⟩)
  rw [schema, schemas_eq_map]
  refine .arrayOf (.arrayOf _) (.unify (.unify (fun s hs => (hitems s hs).self) ?_) hitems)
  exact fun d hd => mem_events_array.mpr (Or.inr ⟨d, hd, rfl⟩)

/-- If the losses in the entries are told by their events, those in the object are. -/
theorem reported_object {es : List (String × Outline)}
    (h : ∀ e ∈ es, Schema.Everywhere (Schema.Reported limit (e.2.events t)) (depth + 1)
      (e.2.schema t)) :
    Schema.Everywhere (Schema.Reported limit ((object es).events t)) depth
      ((object es).schema t) := by
  rw [schema, properties_eq_map]
  refine .objectSeen (.objectSeen _) fun p hp => ?_
  obtain ⟨e, he, rfl⟩ := List.mem_map.mp (Keyed.mem_of_mem_ofEntries hp)
  refine (h e he).mono fun _ _ hpart => hpart.mono ?_
  exact fun a ha => mem_events_object.mpr ⟨e, he, ha⟩

end

end Outline

/-- **Every loss in the schema has its event**, whatever the value, where it stands and inside which
    containers. -/
theorem outline_reported {σ : Type} (limit : Nat) (look : σ → Layer σ) (t : Toggles) (depth : Nat)
    (above : List Nat) (x : σ) :
    Schema.Everywhere (Schema.Reported limit ((outline limit look depth above x).events t)) depth
      ((outline limit look depth above x).schema t) := by
  fun_induction outline limit look depth above x with
  | case1 | case2 | case4 | case5 => exact .plain (.plain (by decide))
  | case3 depth above x n =>
    refine .plain (.plain ?_)
    split <;> decide
  | case6 | case9 => exact .plain (.cut (Or.inl List.mem_cons_self))
  | case7 | case10 => exact .plain (.cut (Or.inr List.mem_cons_self))
  | case8 depth above x identity items _ _ _ ih =>
    exact Outline.reported_array (List.forall_mem_map.mpr fun y _ => ih y)
  | case11 depth above x identity entries _ _ _ ih =>
    exact Outline.reported_object (List.forall_mem_map.mpr fun e _ => ih e)

/-- Where nothing is cut off nothing is bare. -/
theorem Outline.filled_schema {σ : Type} {limit depth : Nat} {look : σ → Layer σ} {t : Toggles}
    {above : List Nat} (x : σ)
    (hlimit : ∀ kind d l, .tooDeep kind d l ∉ (outline limit look depth above x).events t)
    (hcycle : ∀ kind d, .cyclic kind d ∉ (outline limit look depth above x).events t) :
    ((outline limit look depth above x).schema t).Filled := by
  intro k part hpart hbare
  obtain ⟨kind, _, hevent⟩ := (outline_reported limit look t depth above x k part hpart).bare hbare
  exact hevent.elim (hlimit kind _ _) (hcycle kind _)

/-- **A limit that cuts nothing off makes no difference.**  The induction is on the room above the
    lower limit; the guard against cycles decides alike on both sides. -/
theorem outline_eq_of_not_tooDeep {σ : Type} {m n : Nat} (h : m ≤ n) (look : σ → Layer σ)
    (t : Toggles) : ∀ (room depth : Nat) (above : List Nat) (x : σ), m - depth = room →
    (∀ kind d limit, .tooDeep kind d limit ∉ (outline m look depth above x).events t) →
    outline n look depth above x = outline m look depth above x := by
  intro room
  induction room with
  | zero =>
    intro depth above x hroom huncut
    have hlimit : m ≤ depth := by omega
    rw [outline.eq_def m] at huncut ⊢
    rw [outline.eq_def n]
    cases hx : look x with
    | array identity items =>
      rw [hx] at huncut
      simp only [if_pos hlimit] at huncut
      exact absurd List.mem_cons_self (huncut .array depth m)
    | object identity entries =>
      rw [hx] at huncut
      simp only [if_pos hlimit] at huncut
      exact absurd List.mem_cons_self (huncut .object depth m)
    | _ => rfl
  | succ room ih =>
    intro depth above x hroom huncut
    have hm : ¬ m ≤ depth := by omega
    have hn : ¬ n ≤ depth := by omega
    have hnext : m - (depth + 1) = room := by omega
    rw [outline.eq_def m] at huncut ⊢
    rw [outline.eq_def n]
    cases hx : look x with
    | array identity items =>
      rw [hx] at huncut
      simp only [if_neg hm, if_neg hn] at huncut ⊢
      by_cases hrep : Repeats identity above
      · rw [if_pos hrep, if_pos hrep]
      · rw [if_neg hrep] at huncut
        rw [if_neg hrep, if_neg hrep]
        congr 1
        refine List.map_congr_left fun y hy => ih (depth + 1) _ y hnext ?_
        intro kind d limit hc
        exact huncut kind d limit
          (Outline.mem_events_array.mpr (Or.inl ⟨_, List.mem_map_of_mem hy, hc⟩))
    | object identity entries =>
      rw [hx] at huncut
      simp only [if_neg hm, if_neg hn] at huncut ⊢
      by_cases hrep : Repeats identity above
      · rw [if_pos hrep, if_pos hrep]
      · rw [if_neg hrep] at huncut
        rw [if_neg hrep, if_neg hrep]
        congr 1
        refine List.map_congr_left fun e he =>
          congrArg (Prod.mk e.1) (ih (depth + 1) _ e.2 hnext ?_)
        intro kind d limit hc
        exact huncut kind d limit
          (Outline.mem_events_object.mpr ⟨_, List.mem_map_of_mem he, hc⟩)
    | _ => rfl

/-! ## The log of an inference -/

/-- Along the way nothing is reported but the three kinds of loss. -/
theorem Outline.level_of_mem_events {t : Toggles} (o : Outline) :
    ∀ e ∈ o.events t, e.level = .warn ∨ e.level = .trace := by
  induction o with
  | tooDeep kind depth limit => exact List.forall_mem_singleton.mpr (Or.inl rfl)
  | cyclic kind depth => exact List.forall_mem_singleton.mpr (Or.inr rfl)
  | array items ih =>
    intro e he
    rcases mem_events_array.mp he with ⟨o, ho, he⟩ | ⟨d, _, rfl⟩
    · exact ih o ho e he
    · exact Or.inr rfl
  | object entries ih =>
    intro e he
    obtain ⟨a, ha, he⟩ := mem_events_object.mp he
    exact ih a ha e he
  | _ => exact fun e he => absurd he List.not_mem_nil

/-- **The log tells what was lost.**  Without a warning every higher limit gives the same schema and
    the same events.  Without a warning and without a cycle no container in the schema is bare, and
    without a disagreement nothing in it is a choice.  In every case the log ends with the one event
    of its level that sums up the schema. -/
theorem infer_log {σ : Type} (s : Settings) (look : σ → Layer σ) (x : σ) :
    let r := infer s look x
    ((∀ e ∈ r.log, e.level ≠ .warn) →
        ∀ n, s.maxDepth ≤ n → infer { s with maxDepth := n } look x = r) ∧
      ((∀ e ∈ r.log, e.level ≠ .warn ∧ ∀ kind depth, e ≠ .cyclic kind depth) →
        r.schema.Filled) ∧
      ((∀ d, .disagreed d ∉ r.log) →
        ∀ k part, Schema.Occurs part k r.schema → part.anyOf = none) ∧
      r.log.filter (fun e => e.level = .debug) =
        [.inferred r.schema.kind r.schema.anyOf.isSome] ∧
      r.log.getLast? = some (.inferred r.schema.kind r.schema.anyOf.isSome) := by
  intro r
  have hr : r = infer s look x := rfl
  clear_value r
  rw [infer_eq] at hr
  have hmem : ∀ e ∈ (outline s.maxDepth look 0 [] x).events s.formats, e ∈ r.log := by
    rw [hr]
    exact fun e he => List.mem_append_left _ he
  refine ⟨?_, ?_, ?_, ?_, ?_⟩
  · intro hwarn n hn
    have huncut := outline_eq_of_not_tooDeep hn look s.formats _ 0 [] x rfl
      fun kind d limit hc => hwarn _ (hmem _ hc) rfl
    rw [infer_eq, huncut, hr]
  · intro hlost
    rw [hr]
    exact Outline.filled_schema x (fun kind d limit hc => (hlost _ (hmem _ hc)).1 rfl)
      fun kind d hc => (hlost _ (hmem _ hc)).2 kind d rfl
  · intro hagreed k part hpart
    rw [hr] at hpart
    have hreported := outline_reported s.maxDepth look s.formats 0 [] x k part hpart
    cases hchoice : part.anyOf with
    | none => rfl
    | some ss => exact absurd (hmem _ (hreported.choice ss hchoice)) (hagreed _)
  · have hnone : ∀ e ∈ (outline s.maxDepth look 0 [] x).events s.formats,
        ¬ decide (e.level = .debug) = true := by
      intro e he
      rcases Outline.level_of_mem_events _ e he with h | h <;> simp [h]
    rw [hr, List.filter_append, List.filter_eq_nil_iff.mpr hnone]
    rfl
  · rw [hr]
    exact List.getLast?_concat

/-- An array whose items disagree, looked at as a whole, and one that holds itself. -/
theorem infer_log_disagreement_and_cycle :
    let whole := infer ⟨2, {}⟩ Node.look (.array none [.array none [.null], .boolean true])
    let knot := infer ⟨2, {}⟩ (Heap.look ⟨#[.array [.array 0]]⟩) (.array 0)
    whole.log = [.disagreed ⟨2, 2⟩, .inferred (some .array) false] ∧
      infer ⟨300, {}⟩ Node.look (.array none [.array none [.null], .boolean true]) = whole ∧
      whole.schema.Filled ∧
      knot.log = [.cyclic .array 1, .inferred (some .array) false] ∧
      ∀ k part, Schema.Occurs part k knot.schema → part.anyOf = none := by
  intro whole knot
  have hwhole : whole.log = [.disagreed ⟨2, 2⟩, .inferred (some .array) false] := rfl
  have hknot : knot.log = [.cyclic .array 1, .inferred (some .array) false] := rfl
  refine ⟨hwhole, (infer_log ⟨2, {}⟩ _ _).1 ?_ 300 (by decide), (infer_log _ _ _).2.1 ?_, hknot,
    (infer_log _ _ _).2.2.1 ?_⟩
  · show ∀ e ∈ whole.log, _
    rw [hwhole]
    simp [Event.level]
  · show ∀ e ∈ whole.log, _
    rw [hwhole]
    simp [Event.level]
  · show ∀ d, _ ∉ knot.log
    rw [hknot]
    simp

end SampleSchema
