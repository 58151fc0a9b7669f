/-
  Inference without state: the outline of a sample.

  The walk of `Inference.visit` opens and closes containers in one changing set and writes to one
  log.  Neither matters for what it finds.  What the walk meets is a finite tree that can be told
  beforehand, the OUTLINE of the sample: the sample unfolded from the value, cut off at containers
  that stand too deep and at containers that are met inside themselves.

  * `outline limit look depth above x` is that tree.  It recurses over the sample with the
    identities of the containers around the value (`above`) handed DOWN; nothing is handed back up,
    so what was met in one branch is unknown in the next.
  * `Outline.schema` and `Outline.events` read the schema and the log off the tree, by recursion on
    the tree alone.

  `visit_settles` joins the two: a visit begun with any set of open containers ends with the schema
  and the events of the outline and leaves the set as it found it.  The proof never opens the state
  monad; it goes through one rule for each way of putting steps together (`Settles`).  Facts about
  inference are from here on inductions over outlines, for which `Outline.induction` is the rule.

  A container without identity is cut off at the limit only; its schema is told by the schemas of
  its parts (`schema_outline_array`, `schema_outline_object`).
-/
import SampleSchema.Inference
import SampleSchema.Proofs.KeyedMap

namespace SampleSchema

/-- A sample as far as it is looked at. -/
inductive Outline where
  | null
  | boolean
  | number (n : Number)
  | string (s : String)
  | foreign
  /-- A container at the depth limit or below it. -/
  | tooDeep (kind : Kind) (depth limit : Nat)
  /-- A container that was met inside itself. -/
  | cyclic (kind : Kind) (depth : Nat)
  | array (items : List Outline)
  | object (entries : List (String × Outline))

namespace Outline

/-- Induction over outlines, with the hypotheses for the parts of a container by membership. -/
@[elab_as_elim, induction_eliminator]
theorem induction {motive : Outline → Prop}
    (null : motive .null) (boolean : motive .boolean) (number : ∀ n, motive (.number n))
    (string : ∀ s, motive (.string s)) (foreign : motive .foreign)
    (tooDeep : ∀ kind depth limit, motive (.tooDeep kind depth limit))
    (cyclic : ∀ kind depth, motive (.cyclic kind depth))
    (array : ∀ items, (∀ o ∈ items, motive o) → motive (.array items))
    (object : ∀ entries, (∀ e ∈ entries, motive e.2) → motive (.object entries)) :
    ∀ o, motive o
  | .null => null
  | .boolean => boolean
  | .number n => number n
  | .string s => string s
  | .foreign => foreign
  | .tooDeep kind depth limit => tooDeep kind depth limit
  | .cyclic kind depth => cyclic kind depth
  | .array items => array items fun o ho =>
    have := List.sizeOf_lt_of_mem ho
    induction null boolean number string foreign tooDeep cyclic array object o
  | .object entries => object entries fun e he =>
    have := List.sizeOf_lt_of_mem he
    have : sizeOf e.2 < sizeOf e := by
      obtain ⟨key, o⟩ := e
      show sizeOf o < 1 + sizeOf key + sizeOf o
      omega
    induction null boolean number string foreign tooDeep cyclic array object e.2

/-! ## The schema and the events of an outline -/

mutual

/-- The schema of an outline: bare where it is cut off. -/
def schema (t : Toggles) : Outline → Schema
  | null => .ofKind .null
  | boolean => .ofKind .boolean
  | number n => .ofKind (if n.isWhole then .integer else .number)
  | string s => .text (Format.detect t s)
  | foreign => .ofKind .string
  | tooDeep kind _ _ => .ofKind kind
  | cyclic kind _ => .ofKind kind
  | array items => .arrayOf (Schema.unify (schemas t items))
  | object entries => .objectSeen (Keyed.ofEntries (properties t entries))

/-- The schemas of some items. -/
def schemas (t : Toggles) : List Outline → List Schema
  | [] => []
  | o :: os => schema t o :: schemas t os

/-- The schemas of some entries. -/
def properties (t : Toggles) : List (String × Outline) → List (String × Schema)
  | [] => []
  | (key, o) :: es => (key, schema t o) :: properties t es

end

mutual

/-- The events of an outline, in the order in which the walk reports them. -/
def events (t : Toggles) : Outline → List Event
  | tooDeep kind depth limit => [.tooDeep kind depth limit]
  | cyclic kind depth => [.cyclic kind depth]
  | array items =>
    itemEvents t items ++ ((Schema.disagreement? (schemas t items)).map .disagreed).toList
  | object entries => entryEvents t entries
  | null | boolean | number _ | string _ | foreign => []

/-- The events of some items. -/
def itemEvents (t : Toggles) : List Outline → List Event
  | [] => []
  | o :: os => events t o ++ itemEvents t os

/-- The events of some entries. -/
def entryEvents (t : Toggles) : List (String × Outline) → List Event
  | [] => []
  | (_, o) :: es => events t o ++ entryEvents t es

end

theorem schemas_eq_map (t : Toggles) (os : List Outline) : schemas t os = os.map (schema t) := by
  induction os with
  | nil => rfl
  | cons o os ih => rw [schemas, ih, List.map_cons]

theorem properties_eq_map (t : Toggles) (es : List (String × Outline)) :
    properties t es = es.map fun e => (e.1, schema t e.2) := by
  induction es with
  | nil => rfl
  | cons e es ih => rw [properties, ih, List.map_cons]

theorem itemEvents_eq_flatMap (t : Toggles) (os : List Outline) :
    itemEvents t os = os.flatMap (events t) := by
  induction os with
  | nil => rfl
  | cons o os ih => rw [itemEvents, ih, List.flatMap_cons]

theorem entryEvents_eq_flatMap (t : Toggles) (es : List (String × Outline)) :
    entryEvents t es = es.flatMap fun e => events t e.2 := by
  induction es with
  | nil => rfl
  | cons e es ih => rw [entryEvents, ih, List.flatMap_cons]

end Outline

/-! ## The outline of a sample -/

/-- The kind and the identity of a container; `none` for anything else. -/
def Layer.container? {σ : Type} : Layer σ → Option (Kind × Option Nat)
  | .array identity _ => some (.array, identity)
  | .object identity _ => some (.object, identity)
  | _ => none

/-- The type of a value, a number without fraction being an integer; a value without JSON form
    counts as a string. -/
def Layer.kind {σ : Type} : Layer σ → Kind
  | .null => .null
  | .boolean => .boolean
  | .number n => if n.isWhole then .integer else .number
  | .string _ => .string
  | .array _ _ => .array
  | .object _ _ => .object
  | .foreign => .string

/-- Does a container with this identity stand inside a container with the same one?  Without
    identity it does not. -/
def Repeats (identity : Option Nat) (above : List Nat) : Prop := ∃ i ∈ above, identity = some i

instance (identity : Option Nat) (above : List Nat) : Decidable (Repeats identity above) :=
  inferInstanceAs (Decidable (∃ i, i ∈ above ∧ identity = some i))

/-- The outline of a value at `depth` that stands inside containers with the identities `above`.
    A container is cut off at the limit, or when it repeats one around it; otherwise it is opened
    and its own identity goes with those around its parts. -/
def outline {σ : Type} (limit : Nat) (look : σ → Layer σ) (depth : Nat) (above : List Nat) (x : σ) :
    Outline :=
  match look x with
  | .null => .null
  | .boolean => .boolean
  | .number n => .number n
  | .string s => .string s
  | .foreign => .foreign
  | .array identity items =>
    if limit ≤ depth then .tooDeep .array depth limit
    else if Repeats identity above then .cyclic .array depth
    else .array (items.map fun y => outline limit look (depth + 1) (identity.toList ++ above) y)
  | .object identity entries =>
    if limit ≤ depth then .tooDeep .object depth limit
    else if Repeats identity above then .cyclic .object depth
    else .object (entries.map fun e =>
      (e.1, outline limit look (depth + 1) (identity.toList ++ above) e.2))
termination_by limit - depth

theorem not_repeats_none (above : List Nat) : ¬ Repeats none above := by
  rintro ⟨i, _, hi⟩
  cases hi

section

variable {σ : Type} {limit depth : Nat} {look : σ → Layer σ} {above : List Nat} {x : σ}
  {i : Option Nat} {xs : List σ} {es : List (String × σ)}

/-- An array that repeats no container around it is cut off at the limit only. -/
theorem outline_opened_array (hx : look x = .array i xs) (hi : ¬ Repeats i above) :
    outline limit look depth above x =
      if limit ≤ depth then .tooDeep .array depth limit
      else .array (xs.map (outline limit look (depth + 1) (i.toList ++ above))) := by
  rw [outline, hx]
  simp only [if_neg hi]

/-- An object that repeats no container around it is cut off at the limit only. -/
theorem outline_opened_object (hx : look x = .object i es) (hi : ¬ Repeats i above) :
    outline limit look depth above x =
      if limit ≤ depth then .tooDeep .object depth limit
      else .object (es.map fun e =>
        (e.1, outline limit look (depth + 1) (i.toList ++ above) e.2)) := by
  rw [outline, hx]
  simp only [if_neg hi]

/-- The schema of such an array, from those of its items. -/
theorem schema_opened_array (t : Toggles) (hx : look x = .array i xs) (hi : ¬ Repeats i above) :
    (outline limit look depth above x).schema t =
      if limit ≤ depth then .ofKind .array
      else .arrayOf (Schema.unify
        (xs.map fun y => (outline limit look (depth + 1) (i.toList ++ above) y).schema t)) := by
  rw [outline_opened_array hx hi]
  split
  · rfl
  · rw [Outline.schema, Outline.schemas_eq_map, List.map_map]
    rfl

/-- The schema of such an object, from those of its entries. -/
theorem schema_opened_object (t : Toggles) (hx : look x = .object i es) (hi : ¬ Repeats i above) :
    (outline limit look depth above x).schema t =
      if limit ≤ depth then .ofKind .object
      else .objectSeen (Keyed.ofEntries (Keyed.mapValues
        (fun y => (outline limit look (depth + 1) (i.toList ++ above) y).schema t) es)) := by
  rw [outline_opened_object hx hi]
  split
  · rfl
  · rw [Outline.schema, Outline.properties_eq_map, List.map_map]
    rfl

/-! Containers without identity repeat none. -/

theorem outline_array (hx : look x = .array none xs) :
    outline limit look depth above x =
      if limit ≤ depth then .tooDeep .array depth limit
      else .array (xs.map (outline limit look (depth + 1) above)) :=
  outline_opened_array hx (not_repeats_none above)

theorem outline_object (hx : look x = .object none es) :
    outline limit look depth above x =
      if limit ≤ depth then .tooDeep .object depth limit
      else .object (es.map fun e => (e.1, outline limit look (depth + 1) above e.2)) :=
  outline_opened_object hx (not_repeats_none above)

theorem schema_outline_array (t : Toggles) (hx : look x = .array none xs) :
    (outline limit look depth above x).schema t =
      if limit ≤ depth then .ofKind .array
      else .arrayOf (Schema.unify
        (xs.map fun y => (outline limit look (depth + 1) above y).schema t)) :=
  schema_opened_array t hx (not_repeats_none above)

theorem schema_outline_object (t : Toggles) (hx : look x = .object none es) :
    (outline limit look depth above x).schema t =
      if limit ≤ depth then .ofKind .object
      else .objectSeen (Keyed.ofEntries (Keyed.mapValues
        (fun y => (outline limit look (depth + 1) above y).schema t) es)) :=
  schema_opened_object t hx (not_repeats_none above)

end

/-- The type in the schema is the type of the value, wherever the value stands. -/
theorem kind_schema_outline {σ : Type} (limit : Nat) (look : σ → Layer σ) (t : Toggles)
    (depth : Nat) (above : List Nat) (x : σ) :
    ((outline limit look depth above x).schema t).kind = some (look x).kind := by
  rw [outline]
  cases look x with
  | array identity items => dsimp only; split <;> (try split) <;> rfl
  | object identity entries => dsimp only; split <;> (try split) <;> rfl
  | _ => rfl

/-! ## The rules for steps of the walk -/

namespace Inference

variable {α β σ : Type} {opened : List Nat}

/-- Begun with the containers `opened`, the step `w` gives `a`, adds `es` to the log, whatever was
    in the log before, and leaves the same containers open. -/
def Settles (opened : List Nat) (w : Walk α) (a : α) (es : List Event) : Prop :=
  ∀ log, w.run ⟨opened, log⟩ = (a, ⟨opened, log ++ es⟩)

theorem Settles.pure (a : α) : Settles opened (Pure.pure a) a [] := by
  intro log
  rw [List.append_nil]
  rfl

theorem Settles.bind {w : Walk α} {f : α → Walk β} {a : α} {b : β} {es fs : List Event}
    (hw : Settles opened w a es) (hf : Settles opened (f a) b fs) :
    Settles opened (w >>= f) b (es ++ fs) := by
  intro log
  rw [StateT.run_bind, hw log]
  show (f a).run ⟨opened, log ++ es⟩ = _
  rw [hf, List.append_assoc]

theorem Settles.map {w : Walk α} {a : α} {es : List Event} (f : α → β)
    (hw : Settles opened w a es) : Settles opened (do return f (← w)) (f a) es := by
  have h := hw.bind (f := fun r => Pure.pure (f r)) (Settles.pure (f a))
  rwa [List.append_nil] at h

theorem Settles.report (e : Event) : Settles opened (report e) () [e] := fun _ => rfl

theorem Settles.mapM {f : α → Walk β} {g : α → β} {e : α → List Event} {xs : List α}
    (h : ∀ x ∈ xs, Settles opened (f x) (g x) (e x)) :
    Settles opened (xs.mapM f) (xs.map g) (xs.flatMap e) := by
  induction xs with
  | nil => exact Settles.pure []
  | cons x xs ih =>
    rw [List.mapM_cons, List.map_cons, List.flatMap_cons]
    have htail := ih fun y hy => h y (List.mem_cons_of_mem _ hy)
    exact (h x List.mem_cons_self).bind (htail.map fun ys => g x :: ys)

theorem Settles.joinItems (parts : List Schema) :
    Settles opened (joinItems parts) (Schema.unify parts)
      ((Schema.disagreement? parts).map .disagreed).toList := by
  intro log
  show Inference.joinItems parts ⟨opened, log⟩ = _
  unfold Inference.joinItems
  cases Schema.disagreement? parts with
  | none => rw [Option.map_none, Option.toList_none, List.append_nil]
  | some d => rfl

theorem run_enter_of_repeats {kind : Kind} {identity : Option Nat} {depth : Nat} {p : Progress}
    (h : Repeats identity p.opened) :
    (enter kind identity depth).run p =
      (false, { p with log := p.log ++ [.cyclic kind depth] }) := by
  obtain ⟨i, hi, rfl⟩ := h
  exact if_pos hi

theorem run_enter_of_not_repeats {kind : Kind} {identity : Option Nat} {depth : Nat} {p : Progress}
    (h : ¬ Repeats identity p.opened) :
    (enter kind identity depth).run p =
      (true, { p with opened := identity.toList ++ p.opened }) := by
  cases identity with
  | none => rfl
  | some i => exact if_neg fun hi => h ⟨i, hi, rfl⟩

/-- A container that repeats one around it is reported and not opened. -/
theorem Settles.recognised {kind : Kind} {identity : Option Nat} {depth : Nat} {w : Walk α} {a : α}
    (h : Repeats identity opened) :
    Settles opened (do if ← enter kind identity depth then w else Pure.pure a) a
      [.cyclic kind depth] := by
  intro log
  rw [StateT.run_bind, run_enter_of_repeats h]
  rfl

/-- **The bracket.**  What is done between opening a container and closing it sees the identity of
    the container; what follows does not. -/
theorem Settles.within {kind : Kind} {identity : Option Nat} {depth : Nat} {w : Walk α}
    {f : α → Walk β} {no : Walk β} {a : α} {b : β} {es fs : List Event}
    (h : ¬ Repeats identity opened) (hw : Settles (identity.toList ++ opened) w a es)
    (hf : Settles opened (f a) b fs) :
    Settles opened
      (do if ← enter kind identity depth then
            let r ← w
            leave identity
            f r
          else no) b (es ++ fs) := by
  intro log
  have hleave : (leave identity).run ⟨identity.toList ++ opened, log ++ es⟩ =
      ((), ⟨opened, log ++ es⟩) := by
    cases identity with
    | none => rfl
    | some i =>
      show ((), (⟨(i :: opened).erase i, log ++ es⟩ : Progress)) = _
      rw [List.erase_cons_head]
  rw [StateT.run_bind, run_enter_of_not_repeats h]
  show (w >>= fun r => leave identity >>= fun _ => f r).run ⟨identity.toList ++ opened, log⟩ = _
  rw [StateT.run_bind, hw log]
  show (leave identity >>= fun _ => f a).run ⟨identity.toList ++ opened, log ++ es⟩ = _
  rw [StateT.run_bind, hleave]
  show (f a).run ⟨opened, log ++ es⟩ = _
  rw [hf, List.append_assoc]

/-! ## A visit settles with its outline -/

/-- **One visit**, begun with any containers open and any log.  The induction is on the room above
    the limit, which is what `visit` recurses on; the outline speaks of the limit itself. -/
theorem visit_settles (s : Settings) (look : σ → Layer σ) : ∀ (room depth : Nat) (opened : List Nat)
    (x : σ), s.maxDepth - depth = room →
    Settles opened (visit s look room depth x)
      ((outline s.maxDepth look depth opened x).schema s.formats)
      ((outline s.maxDepth look depth opened x).events s.formats) := by
  intro room
  induction room with
  | zero =>
    -- no room: a container is cut off before its identity is looked at
    intro depth opened x hroom
    have hlimit : s.maxDepth ≤ depth := by omega
    rw [visit, outline]
    cases look x with
    | array identity items =>
      simp only [if_pos hlimit]
      exact (Settles.report _).bind (Settles.pure _)
    | object identity entries =>
      simp only [if_pos hlimit]
      exact (Settles.report _).bind (Settles.pure _)
    | _ => exact Settles.pure _
  | succ room ih =>
    intro depth opened x hroom
    have hlimit : ¬ s.maxDepth ≤ depth := by omega
    have hnext : s.maxDepth - (depth + 1) = room := by omega
    rw [visit, outline]
    cases look x with
    | array identity items =>
      simp only [if_neg hlimit]
      by_cases hrep : Repeats identity opened
      · rw [if_pos hrep]
        exact Settles.recognised hrep
      · rw [if_neg hrep]
        -- the items, read off their outlines one by one
        have hitems := Settles.mapM fun y (_ : y ∈ items) =>
          ih (depth + 1) (identity.toList ++ opened) y hnext
        rw [Outline.schema, Outline.events, Outline.schemas_eq_map, Outline.itemEvents_eq_flatMap,
          List.map_map, List.flatMap_map]
        exact Settles.within hrep hitems ((Settles.joinItems _).map Schema.arrayOf)
    | object identity entries =>
      simp only [if_neg hlimit]
      by_cases hrep : Repeats identity opened
      · rw [if_pos hrep]
        exact Settles.recognised hrep
      · rw [if_neg hrep]
        -- as for items, with the key beside each result
        have hentry : ∀ e ∈ entries, Settles (identity.toList ++ opened)
            (do return (e.1, ← visit s look room (depth + 1) e.2))
            (e.1, (outline s.maxDepth look (depth + 1) (identity.toList ++ opened) e.2).schema
              s.formats)
            ((outline s.maxDepth look (depth + 1) (identity.toList ++ opened) e.2).events
              s.formats) := by
          intro e _
          exact (ih (depth + 1) (identity.toList ++ opened) e.2 hnext).map fun r => (e.1, r)
        rw [Outline.schema, Outline.events, Outline.properties_eq_map,
          Outline.entryEvents_eq_flatMap, List.map_map, List.flatMap_map,
          ← List.append_nil (entries.flatMap _)]
        exact Settles.within hrep (Settles.mapM hentry) (Settles.pure _)
    | _ => exact Settles.pure _

end Inference

/-- A whole inference: the schema and the events of the outline, and the closing event. -/
theorem infer_eq {σ : Type} (s : Settings) (look : σ → Layer σ) (x : σ) :
    infer s look x =
      ⟨(outline s.maxDepth look 0 [] x).schema s.formats,
        (outline s.maxDepth look 0 [] x).events s.formats ++
          [.inferred ((outline s.maxDepth look 0 [] x).schema s.formats).kind
            ((outline s.maxDepth look 0 [] x).schema s.formats).anyOf.isSome]⟩ := by
  unfold infer
  rw [Inference.visitAt, Inference.visit_settles s look _ 0 [] x rfl []]
  rfl

/-! ## The guard against cycles knows the path and nothing else -/

/-- An outline that is cut off for one of two reasons has the bare schema in both cases; if the
    whole one has another schema, the bare one tells that there was a reason. -/
theorem schema_cut_iff {t : Toggles} {p q : Prop} [Decidable p] [Decidable q] {bare : Schema}
    {cut cut' whole : Outline} (hcut : cut.schema t = bare) (hcut' : cut'.schema t = bare)
    (hwhole : whole.schema t ≠ bare) :
    (if p then cut else if q then cut' else whole).schema t = bare ↔ p ∨ q := by
  by_cases hp : p
  · rw [if_pos hp]
    exact ⟨fun _ => Or.inl hp, fun _ => hcut⟩
  · rw [if_neg hp]
    by_cases hq : q
    · rw [if_pos hq]
      exact ⟨fun _ => Or.inr hq, fun _ => hcut'⟩
    · rw [if_neg hq]
      exact ⟨fun h => absurd h hwhole, fun h => (h.elim hp hq).elim⟩

/-- The outline of a container has the bare schema exactly when it is cut off. -/
theorem schema_outline_bare_iff {σ : Type} (s : Settings) (look : σ → Layer σ) (depth : Nat)
    (above : List Nat) (x : σ) {kind : Kind} {identity : Option Nat}
    (h : (look x).container? = some (kind, identity)) :
    (outline s.maxDepth look depth above x).schema s.formats = .ofKind kind ↔
      s.maxDepth ≤ depth ∨ Repeats identity above := by
  rw [outline]
  cases hx : look x with
  | array i items =>
    rw [hx] at h
    cases h
    refine schema_cut_iff rfl rfl ?_
    intro hbare
    rw [Outline.schema] at hbare
    cases congrArg Schema.items hbare
  | object i entries =>
    rw [hx] at h
    cases h
    refine schema_cut_iff rfl rfl ?_
    intro hbare
    rw [Outline.schema] at hbare
    cases congrArg Schema.properties hbare
  | _ =>
    rw [hx] at h
    cases h

/-- **The guard is path-scoped.**  A visit at any depth, begun with any containers open, leaves
    exactly these open and gives what the outline gives, which knows the containers around the
    value and not what was met before it.  A container gets its bare type exactly when it stands at
    the limit or its identity is that of a container around it.  A whole inference is the visit
    inside no container. -/
theorem visit_path_scoped {σ : Type} (s : Settings) (look : σ → Layer σ) (depth : Nat)
    (opened : List Nat) (log : List Event) (x : σ) :
    (Inference.visitAt s look depth x).run ⟨opened, log⟩ =
        ((outline s.maxDepth look depth opened x).schema s.formats,
          ⟨opened, log ++ (outline s.maxDepth look depth opened x).events s.formats⟩) ∧
      (∀ kind identity, (look x).container? = some (kind, identity) →
        (((Inference.visitAt s look depth x).run ⟨opened, log⟩).1 = .ofKind kind ↔
          s.maxDepth ≤ depth ∨ Repeats identity opened)) ∧
      (infer s look x).schema = (outline s.maxDepth look 0 [] x).schema s.formats := by
  have hrun := Inference.visit_settles s look _ depth opened x rfl log
  refine ⟨hrun, ?_, ?_⟩
  · intro kind identity h
    rw [Inference.visitAt, hrun]
    exact schema_outline_bare_iff s look depth opened x h
  · rw [infer_eq]

end SampleSchema
