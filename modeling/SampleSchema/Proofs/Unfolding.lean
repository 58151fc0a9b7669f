/-
  Graphs of shared containers, unfolded into trees.

  A handle of a heap unfolds to a JSON value when looking into the containers behind it, as often as
  they occur, yields that value (`Heap.Unfolds`).  A container that is shared is unfolded anew at
  every place; a cycle or a value without JSON form leaves nothing to unfold to.  On the other side,
  a handle that leads to no cycle and to no such value does unfold (`Heap.exists_unfolds`): going
  down, the places passed are pairwise different, and there are only so many.  Conversely, a handle
  that unfolds leads to no cycle (`Heap.Unfolds.acyclicFrom`).

  The main result is that inference cannot tell the two apart (`infer_unfolded`).  It is a
  simulation, step by step: the tree has no identities, so the guard never fires there; on the heap
  it does not fire either, since a container that repeats one around it would be part of a cycle.
  What makes this true of the containers AROUND a value, and not only of the value, is the last part
  of `Heap.UnfoldsWithin`: no handle that the value leads to stands at one of their places.
-/
import Mathlib.Logic.Relation
import SampleSchema.Proofs.JsonTree
import SampleSchema.Proofs.Session
import SampleSchema.Proofs.Simulation
import SampleSchema.Proofs.Termination

namespace SampleSchema

namespace Heap

variable {h : Heap}

/-! ## What a handle leads to -/

/-- The container behind `a` holds `b`. -/
def Holds (h : Heap) (a b : Handle) : Prop := b ∈ (h.look a).parts

/-- No container that `root` leads to leads back to itself. -/
def AcyclicFrom (h : Heap) (root : Handle) : Prop :=
  ∀ r, Relation.ReflTransGen h.Holds root r → ¬ Relation.TransGen h.Holds r r

/-- Everything that `root` leads to has a JSON form. -/
def JsonFrom (h : Heap) (root : Handle) : Prop :=
  ∀ label, ¬ Relation.ReflTransGen h.Holds root (.foreign label)

theorem AcyclicFrom.of_holds {a b : Handle} (ha : h.AcyclicFrom a) (hab : h.Holds a b) :
    h.AcyclicFrom b :=
  fun r hr => ha r (.head hab hr)

theorem JsonFrom.of_holds {a b : Handle} (ha : h.JsonFrom a) (hab : h.Holds a b) :
    h.JsonFrom b :=
  fun label hr => ha label (.head hab hr)

/-- Where a rank goes down from every container to its parts, there are no cycles. -/
theorem acyclicFrom_of_rank (rank : Handle → Nat)
    (hrank : ∀ a b, h.Holds a b → rank b < rank a) (root : Handle) : h.AcyclicFrom root := by
  have hdown : ∀ a b, Relation.TransGen h.Holds a b → rank b < rank a := by
    intro a b hab
    induction hab with
    | single hab => exact hrank _ _ hab
    | tail _ hbc ih => exact Nat.lt_trans (hrank _ _ hbc) ih
  intro r _ hr
  exact Nat.lt_irrefl _ (hdown r r hr)

/-- What a handle that refers leads to refers. -/
theorem Refers.of_reaches (hc : h.Closed) {a b : Handle}
    (hab : Relation.ReflTransGen h.Holds a b) (ha : h.Refers a) : h.Refers b := by
  induction hab with
  | refl => exact ha
  | tail _ hcd _ => exact Inference.refers_of_mem_parts hc hcd

theorem holds_array {p : Nat} {r : Handle} (hr : r ∈ h.itemsAt p) : h.Holds (.array p) r :=
  List.mem_append_left _ hr

theorem holds_object {p : Nat} {e : String × Handle} (he : e ∈ h.entriesAt p) :
    h.Holds (.object p) e.2 :=
  List.mem_map_of_mem he

/-- At one place stands one container. -/
theorem Refers.eq_of_place {a b : Handle} {p : Nat} (ha : h.Refers a) (hb : h.Refers b)
    (hap : a.place? = some p) (hbp : b.place? = some p) : a = b := by
  cases a with
  | array q =>
    cases hap
    cases b with
    | array q => cases hbp; rfl
    | object q =>
      -- an array and an object at one place
      cases hbp
      obtain ⟨xs, hxs⟩ := ha
      obtain ⟨es, hes⟩ := hb
      cases hxs.symm.trans hes
    | _ => cases hbp
  | object q =>
    cases hap
    cases b with
    | array q =>
      cases hbp
      obtain ⟨es, hes⟩ := ha
      obtain ⟨xs, hxs⟩ := hb
      cases hxs.symm.trans hes
    | object q => cases hbp; rfl
    | _ => cases hbp
  | _ => cases hap

/-! ## Unfolding -/

/-- The value that a handle unfolds to. -/
inductive Unfolds (h : Heap) : Handle → Json → Prop where
  | null : Unfolds h .null .null
  | boolean (b : Bool) : Unfolds h (.boolean b) (.bool b)
  | number (n : Number) : Unfolds h (.number n) (.number n)
  | string (s : String) : Unfolds h (.string s) (.string s)
  | array {p : Nat} {vs : List Json} (items : List.Forall₂ (Unfolds h) (h.itemsAt p) vs) :
      Unfolds h (.array p) (.array vs)
  | object {p : Nat} {fs : List (String × Json)}
      (keys : (h.entriesAt p).map (·.1) = fs.map (·.1))
      (values : List.Forall₂ (Unfolds h) ((h.entriesAt p).map (·.2)) (fs.map (·.2))) :
      Unfolds h (.object p) (.object fs)

/-- Lists whose members are related to one thing each are related to one list. -/
theorem eq_of_forall₂ {α β : Type} {R : α → β → Prop} {xs : List α} {vs : List β}
    (hv : List.Forall₂ R xs vs) : ∀ {ws : List β}, List.Forall₂ R xs ws →
      (∀ v ∈ vs, ∀ x w, R x v → R x w → v = w) → vs = ws := by
  induction hv with
  | nil =>
    intro ws hw _
    cases hw
    rfl
  | cons hxv _ ih =>
    intro ws hw hone
    cases hw with
    | cons hxw hws =>
      rw [hone _ List.mem_cons_self _ _ hxv hxw,
        ih hws fun v hv => hone v (List.mem_cons_of_mem _ hv)]

/-- **A handle unfolds to one value at most.** -/
theorem Unfolds.unique {r : Handle} {v w : Json} (hv : h.Unfolds r v) (hw : h.Unfolds r w) :
    v = w := by
  induction v generalizing r w with
  | array vs ih =>
    cases hv with
    | array hvs =>
      cases hw with
      | array hws =>
        rw [eq_of_forall₂ hvs hws fun v hmem x u hxv hxu => ih v hmem hxv hxu]
  | object fs ih =>
    cases hv with
    | object hkeys hvs =>
      cases hw with
      | object hkeys' hws =>
        -- keys are equal, and so are values; hence the entries are
        have hvalues := eq_of_forall₂ hvs hws fun v hmem x u hxv hxu => by
          obtain ⟨f, hf, rfl⟩ := List.mem_map.mp hmem
          exact ih f hf hxv hxu
        have hentries := List.zip_of_prod (hkeys.symm.trans hkeys') hvalues
        rw [hentries, ← List.zip_of_prod rfl rfl]
  | _ => cases hv; cases hw; rfl

/-- Where no object sets a key twice, no object of an unfolded value does. -/
theorem Unfolds.wellKeyed (hk : h.WellKeyed) {r : Handle} {v : Json} (hv : h.Unfolds r v) :
    v.WellKeyed := by
  induction v generalizing r with
  | null => exact .null
  | bool b => exact .bool b
  | number n => exact .number n
  | string s => exact .string s
  | array vs ih =>
    cases hv with
    | array hvs =>
      refine .array ?_
      intro v hmem
      obtain ⟨x, _, hxv⟩ := exists_of_mem_right hvs hmem
      exact ih v hmem hxv
  | object fs ih =>
    cases hv with
    | @object p _ hkeys hvs =>
      refine .object ?_ ?_
      · have hdistinct := hk.distinct_entriesAt p
        show (fs.map (·.1)).Nodup
        rw [← hkeys]
        exact hdistinct
      · intro f hf
        obtain ⟨x, _, hxf⟩ := exists_of_mem_right hvs (List.mem_map_of_mem hf)
        exact ih f hf hxf

/-! ## What leads to no cycle unfolds -/

/-- `path` are the places passed on the way down to `r`. -/
structure Trail (h : Heap) (path : List Nat) (r : Handle) : Prop where
  nodup : path.Nodup
  leads : ∀ p ∈ path, ∃ a, a.place? = some p ∧ h.Refers a ∧ Relation.TransGen h.Holds a r

/-- A container that leads to no cycle stands at a place that was not passed. -/
theorem Trail.fresh {path : List Nat} {r : Handle} {p : Nat} (ht : h.Trail path r)
    (hr : h.Refers r) (hp : r.place? = some p) (hcycle : h.AcyclicFrom r) : p ∉ path := by
  intro hmem
  obtain ⟨a, hap, ha, har⟩ := ht.leads p hmem
  -- the container passed at this place would be the present one
  obtain rfl := ha.eq_of_place hr hap hp
  exact hcycle a .refl har

/-- There are no more places to pass than the heap has, the present one included. -/
theorem Trail.length_lt {path : List Nat} {r : Handle} {p : Nat} (ht : h.Trail path r)
    (hr : h.Refers r) (hp : r.place? = some p) (hcycle : h.AcyclicFrom r) :
    path.length < h.cells.size := by
  have hnodup : (p :: path).Nodup := List.nodup_cons.mpr ⟨ht.fresh hr hp hcycle, ht.nodup⟩
  have hsubset : p :: path ⊆ List.range h.cells.size := by
    intro q hq
    rcases List.mem_cons.mp hq with rfl | hq
    · exact List.mem_range.mpr (hr.place_lt hp)
    · obtain ⟨a, haq, ha, _⟩ := ht.leads q hq
      exact List.mem_range.mpr (ha.place_lt haq)
  have hlength := hnodup.length_le_of_subset hsubset
  rwa [List.length_range] at hlength

/-- **One step down** from a container passes its place. -/
theorem Trail.step {path : List Nat} {r y : Handle} {p : Nat} (ht : h.Trail path r)
    (hr : h.Refers r) (hp : r.place? = some p) (hcycle : h.AcyclicFrom r) (hy : h.Holds r y) :
    h.Trail (p :: path) y := by
  refine ⟨List.nodup_cons.mpr ⟨ht.fresh hr hp hcycle, ht.nodup⟩, ?_⟩
  intro q hq
  rcases List.mem_cons.mp hq with rfl | hq
  · exact ⟨r, hp, hr, .single hy⟩
  · obtain ⟨a, haq, ha, har⟩ := ht.leads q hq
    exact ⟨a, haq, ha, .tail har hy⟩

/-- If each member is related to something, the list is related to a list. -/
theorem exists_forall₂ {α β : Type} {R : α → β → Prop} {xs : List α}
    (h : ∀ x ∈ xs, ∃ y, R x y) : ∃ ys, List.Forall₂ R xs ys := by
  induction xs with
  | nil => exact ⟨[], .nil⟩
  | cons x xs ih =>
    obtain ⟨y, hxy⟩ := h x List.mem_cons_self
    obtain ⟨ys, hys⟩ := ih fun z hz => h z (List.mem_cons_of_mem _ hz)
    exact ⟨y :: ys, .cons hxy hys⟩

/-- A container unfolds when everything in it does. -/
theorem exists_unfolds_of_parts {r : Handle} {p : Nat} (hp : r.place? = some p)
    (hparts : ∀ y, h.Holds r y → ∃ v, h.Unfolds y v) : ∃ v, h.Unfolds r v := by
  cases r with
  | array q =>
    obtain ⟨vs, hvs⟩ := exists_forall₂ fun y hy => hparts y (holds_array hy)
    exact ⟨.array vs, .array hvs⟩
  | object q =>
    have hentries : ∀ e ∈ h.entriesAt q, ∃ f : String × Json, e.1 = f.1 ∧ h.Unfolds e.2 f.2 := by
      intro e he
      obtain ⟨v, hv⟩ := hparts e.2 (holds_object he)
      exact ⟨(e.1, v), rfl, hv⟩
    obtain ⟨fs, hfs⟩ := exists_forall₂ hentries
    obtain ⟨hkeys, hvalues⟩ := forall₂_entries_iff.mp hfs
    exact ⟨.object fs, .object hkeys hvalues⟩
  | _ => cases hp

/-- A value that is no container unfolds if it has a JSON form. -/
theorem exists_unfolds_of_scalar {r : Handle} (hp : r.place? = none) (hjson : h.JsonFrom r) :
    ∃ v, h.Unfolds r v := by
  cases r with
  | null => exact ⟨_, .null⟩
  | boolean b => exact ⟨_, .boolean b⟩
  | number n => exact ⟨_, .number n⟩
  | string s => exact ⟨_, .string s⟩
  | foreign label => exact absurd .refl (hjson label)
  | array q => cases hp
  | object q => cases hp

/-- The recursion goes down; each container leaves fewer places to pass. -/
theorem exists_unfolds_of_trail (hc : h.Closed) {path : List Nat} {r : Handle}
    (ht : h.Trail path r) (hr : h.Refers r) (hcycle : h.AcyclicFrom r) (hjson : h.JsonFrom r) :
    ∃ v, h.Unfolds r v := by
  cases hp : r.place? with
  | none => exact exists_unfolds_of_scalar hp hjson
  | some p =>
    have hlt := ht.length_lt hr hp hcycle
    refine exists_unfolds_of_parts hp ?_
    intro y hy
    have hrefers := Inference.refers_of_mem_parts hc hy
    exact exists_unfolds_of_trail hc (ht.step hr hp hcycle hy) hrefers (hcycle.of_holds hy)
      (hjson.of_holds hy)
termination_by h.cells.size - path.length
decreasing_by
  rw [List.length_cons]
  omega

/-- **What leads to no cycle and to no foreign value unfolds.** -/
theorem exists_unfolds (hc : h.Closed) {r : Handle} (hr : h.Refers r) (hcycle : h.AcyclicFrom r)
    (hjson : h.JsonFrom r) : ∃ v, h.Unfolds r v := by
  have hstart : h.Trail [] r := ⟨List.nodup_nil, fun p hp => absurd hp List.not_mem_nil⟩
  exact exists_unfolds_of_trail hc hstart hr hcycle hjson

/-- What a container holds unfolds to what its value holds. -/
theorem Unfolds.parts {r : Handle} {v : Json} (hv : h.Unfolds r v) :
    List.Forall₂ h.Unfolds (h.look r).parts v.look.parts := by
  cases hv with
  | array items =>
    rw [look, Json.look, Layer.parts_array, Layer.parts_array]
    exact items
  | object _ values => exact values
  | _ => exact .nil

theorem nesting_lt_of_mem_parts {v w : Json} (hw : w ∈ v.look.parts) : w.nesting < v.nesting := by
  cases v with
  | array vs =>
    rw [Json.look, Layer.parts_array] at hw
    have := Json.itemNesting_le.mp (Nat.le_refl _) w hw
    rw [Json.nesting]
    omega
  | object fs =>
    rw [Json.look, Layer.parts_object] at hw
    obtain ⟨f, hf, rfl⟩ := List.mem_map.mp hw
    have := Json.entryNesting_le.mp (Nat.le_refl _) f hf
    rw [Json.nesting]
    omega
  | _ => cases hw

/-- **What unfolds leads to no cycle**: the values nest less on the way down, and a container
    unfolds to one value only. -/
theorem Unfolds.acyclicFrom {r : Handle} {v : Json} (hv : h.Unfolds r v) : h.AcyclicFrom r := by
  have hstep : ∀ {a b : Handle} {v : Json}, h.Unfolds a v → h.Holds a b →
      ∃ w, h.Unfolds b w ∧ w.nesting < v.nesting := by
    intro a b v hav hab
    obtain ⟨w, hw, hbw⟩ := exists_of_mem_left hav.parts hab
    exact ⟨w, hbw, nesting_lt_of_mem_parts hw⟩
  have hdown : ∀ {a b : Handle} {v : Json}, h.Unfolds a v → Relation.TransGen h.Holds a b →
      ∃ w, h.Unfolds b w ∧ w.nesting < v.nesting := by
    intro a b v hav hab
    induction hab with
    | single hab => exact hstep hav hab
    | tail _ hbc ih =>
      obtain ⟨w, hbw, hlt⟩ := ih
      obtain ⟨u, hcu, hlt'⟩ := hstep hbw hbc
      exact ⟨u, hcu, Nat.lt_trans hlt' hlt⟩
  intro a hra haa
  obtain ⟨w, haw⟩ : ∃ w, h.Unfolds a w := by
    rcases Relation.reflTransGen_iff_eq_or_transGen.mp hra with rfl | hra
    · exact ⟨v, hv⟩
    · obtain ⟨w, haw, _⟩ := hdown hv hra
      exact ⟨w, haw⟩
  obtain ⟨w', haw', hlt⟩ := hdown haw haa
  rw [haw.unique haw'] at hlt
  exact Nat.lt_irrefl _ hlt

/-! ## The guard does not fire on the heap -/

/-- `r` unfolds to `v`, and nothing that it leads to stands at a place of the containers around
    it. -/
structure UnfoldsWithin (h : Heap) (above _above' : List Nat) (r : Handle) (v : Json) : Prop where
  unfolds : h.Unfolds r v
  refers : h.Refers r
  acyclic : h.AcyclicFrom r
  apart : ∀ a, Relation.ReflTransGen h.Holds r a → ∀ p ∈ above, a.place? ≠ some p

/-- A container does not repeat one around it. -/
theorem UnfoldsWithin.not_repeats {above above' : List Nat} {r : Handle} {v : Json} {p : Nat}
    (hu : h.UnfoldsWithin above above' r v) (hp : r.place? = some p) :
    ¬ Repeats (some p) above := by
  rintro ⟨q, hq, hpq⟩
  exact hu.apart r .refl q hq (hp.trans hpq)

/-- A part of a container is apart from the container as well, or there would be a cycle. -/
theorem UnfoldsWithin.part (hc : h.Closed) {above above' inside : List Nat} {r y : Handle}
    {v w : Json} {p : Nat} (hu : h.UnfoldsWithin above above' r v) (hp : r.place? = some p)
    (hy : h.Holds r y) (hyw : h.Unfolds y w) :
    h.UnfoldsWithin ((some p).toList ++ above) inside y w := by
  refine ⟨hyw, Inference.refers_of_mem_parts hc hy, hu.acyclic.of_holds hy, ?_⟩
  intro a hya q hq haq
  rcases List.mem_cons.mp hq with rfl | hq
  · have hrefers := Refers.of_reaches hc (.head hy hya) hu.refers
    obtain rfl := hrefers.eq_of_place hu.refers haq hp
    exact hu.acyclic a .refl (.head' hy hya)
  · exact hu.apart a (.head hy hya) q hq haq

/-- **The tree simulates the graph.** -/
theorem unfoldsWithin_simulates (hc : h.Closed) : Simulates h.look Json.look h.UnfoldsWithin := by
  intro above above' r v hu
  -- in the tree nothing repeats, and on the heap neither
  have hguard : ∀ p, r.place? = some p → (Repeats (some p) above ↔ Repeats none above') := by
    intro p hp
    refine iff_of_false (hu.not_repeats hp) ?_
    rintro ⟨i, _, hi⟩
    cases hi
  cases hu.unfolds with
  | null => exact .null
  | boolean b => exact .boolean
  | number n => exact .number n
  | string s => exact .string s
  | array hvs =>
    refine .array (hguard _ rfl) (forall₂_of_mem hvs ?_)
    intro y hy w hyw
    exact hu.part hc rfl (holds_array hy) hyw
  | object hkeys hvs =>
    refine .object (hguard _ rfl) (forall₂_of_mem (forall₂_entries_iff.mpr ⟨hkeys, hvs⟩) ?_)
    rintro e he f ⟨hkey, hef⟩
    exact ⟨hkey, hu.part hc rfl (holds_object he) hef⟩

end Heap

/-- **Graphs and trees infer alike.**  Take any heap that a client can build and any handle that it
    holds, from which neither a cycle nor a value without JSON form can be reached; containers may
    be shared at will.  The handle unfolds to exactly one JSON value, and inference gives the same
    schema and the same events for both, whatever the settings. -/
theorem infer_unfolded (ops : List Operation) (s : Settings) (root : Handle)
    (hroot : root ∈ (Session.run ops).registers)
    (hcycle : (Session.run ops).heap.AcyclicFrom root)
    (hjson : (Session.run ops).heap.JsonFrom root) :
    let h := (Session.run ops).heap
    ∃ v, h.Unfolds root v ∧ (∀ w, h.Unfolds root w → w = v) ∧ v.WellKeyed ∧
      infer s h.look root = inferJson s v := by
  intro h
  have hsound := Session.sound_run ops
  have hrefers : h.Refers root := hsound.refers root hroot
  obtain ⟨v, hv⟩ := Heap.exists_unfolds hsound.closed hrefers hcycle hjson
  refine ⟨v, hv, fun w hw => hw.unique hv, hv.wellKeyed (Session.wellKeyed_run ops), ?_⟩
  rw [inferJson_eq]
  refine infer_eq_of_simulates (Heap.unfoldsWithin_simulates hsound.closed) s ?_
  exact ⟨hv, hrefers, hcycle, fun a _ p hp => absurd hp List.not_mem_nil⟩

/-- One list under two keys of an object, seen with room for the object alone: both places of the
    list are too deep, and each is reported. -/
theorem infer_unfolded_shared :
    let ops : List Operation :=
      [.copy (.array [.number (.whole 1)]), .newObject, .insert 1 "left" 0, .insert 1 "right" 0]
    let s : Settings := { maxDepth := 1 }
    let h := (Session.run ops).heap
    let list : Json := .array [.number (.whole 1)]
    .object 1 ∈ (Session.run ops).registers ∧ h.AcyclicFrom (.object 1) ∧
      h.JsonFrom (.object 1) ∧ h.Unfolds (.object 1) (.object [("left", list), ("right", list)]) ∧
      infer s h.look (.object 1) = inferJson s (.object [("left", list), ("right", list)]) ∧
      (infer s h.look (.object 1)).log =
        [.tooDeep .array 1 1, .tooDeep .array 1 1, .inferred (some .object) false] := by
  intro ops s h list
  have hroot : Handle.object 1 ∈ (Session.run ops).registers := by decide
  -- the list stands at the first place, the object at the second, and there is no third
  have hparts : ∀ a b, h.Holds a b → (a = .array 0 ∧ b = .number (.whole 1)) ∨
      (a = .object 1 ∧ b = .array 0) := by
    intro a b hab
    match a, hab with
    | .array 0, hab => exact Or.inl ⟨rfl, List.mem_singleton.mp hab⟩
    | .object 1, hab =>
      have hmem : b ∈ [Handle.array 0, Handle.array 0] := hab
      rcases List.mem_cons.mp hmem with rfl | hmem
      · exact Or.inr ⟨rfl, rfl⟩
      · exact Or.inr ⟨rfl, List.mem_singleton.mp hmem⟩
    | .array 1, hab | .array (n + 2), hab | .object 0, hab | .object (n + 2), hab =>
      exact absurd hab List.not_mem_nil
  have hcycle : h.AcyclicFrom (.object 1) := by
    refine Heap.acyclicFrom_of_rank (fun | .object _ => 2 | .array _ => 1 | _ => 0) ?_ _
    intro a b hab
    rcases hparts a b hab with ⟨rfl, rfl⟩ | ⟨rfl, rfl⟩
    · exact Nat.zero_lt_one
    · exact Nat.lt_succ_self 1
  have hjson : h.JsonFrom (.object 1) := by
    intro label hreach
    cases hreach with
    | tail _ hab =>
      rcases hparts _ _ hab with ⟨_, hb⟩ | ⟨_, hb⟩
      · cases hb
      · cases hb
  have hlist : h.Unfolds (.array 0) list := .array (.cons (.number _) .nil)
  have hunfolds : h.Unfolds (.object 1) (.object [("left", list), ("right", list)]) :=
    .object rfl (.cons hlist (.cons hlist .nil))
  obtain ⟨v, _, hone, _, heq⟩ := infer_unfolded ops s _ hroot hcycle hjson
  rw [hone _ hunfolds]
  exact ⟨hroot, hcycle, hjson, hone _ hunfolds ▸ hunfolds, heq, rfl⟩

end SampleSchema
