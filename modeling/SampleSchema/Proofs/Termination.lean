/-
  Why inference ends, on every graph of shared containers.

  `Inference.visit` is written with the room above the limit as an argument that gets smaller.  The
  recursion that it stands for has no such argument: a visit at one depth visits the parts one level
  deeper, and a limit of `2 ^ 64 - 1` is no comfort.  Here the recursion is told without the room
  (`level`) and its calls are made explicit.

  * A `Call` is a visit with the progress it begins in; `calls` are the visits it makes itself, each
    with the progress that the one before it left.  `run_level` says that these are all: one level
    of the recursion asks for the results of these calls and for nothing else.
  * A `Nesting` is a call, a call it makes, a call which that makes, and so on.  `opened?` says
    which container a call descends into.

  The invariant along a nesting is that the open containers are those of the calls so far, innermost
  first, and pairwise different (`nodup_opened`).  It needs that the calls made before, in other
  branches, have closed what they opened, which is what `visit_settles` says.  On a heap every
  container has its place for its identity, so a nesting descends into no more containers than the
  heap has, whatever the limit.
-/
import SampleSchema.Proofs.Outline
import SampleSchema.Proofs.Session

namespace SampleSchema

/-- What a container holds, in the order of the visits. -/
def Layer.parts {σ : Type} (l : Layer σ) : List σ := l.items ++ l.entries.map (·.2)

@[simp] theorem Layer.parts_array {σ : Type} (i : Option Nat) (xs : List σ) :
    (Layer.array i xs).parts = xs :=
  List.append_nil xs

@[simp] theorem Layer.parts_object {σ : Type} (i : Option Nat) (es : List (String × σ)) :
    (Layer.object i es).parts = es.map (·.2) :=
  rfl

namespace Inference

variable {σ : Type}

/-! ## The recursion without a bound -/

/-- One level of a visit: what it does at `depth`, if `visitPart` visits the parts. -/
def level (s : Settings) (look : σ → Layer σ) (visitPart : Nat → σ → Walk Schema) (depth : Nat)
    (x : σ) : Walk Schema :=
  match look x with
  | .null => pure (.ofKind .null)
  | .boolean => pure (.ofKind .boolean)
  | .number n => pure (.ofKind (if n.isWhole then .integer else .number))
  | .string t => pure (.text (Format.detect s.formats t))
  | .foreign => pure (.ofKind .string)
  | .array identity items =>
    if s.maxDepth ≤ depth then do
      report (.tooDeep .array depth s.maxDepth)
      pure (.ofKind .array)
    else do
      if ← enter .array identity depth then
        let parts ← items.mapM (visitPart (depth + 1))
        leave identity
        return .arrayOf (← joinItems parts)
      else pure (.ofKind .array)
  | .object identity entries =>
    if s.maxDepth ≤ depth then do
      report (.tooDeep .object depth s.maxDepth)
      pure (.ofKind .object)
    else do
      if ← enter .object identity depth then
        let parts ← entries.mapM fun e => do
          return (e.1, ← visitPart (depth + 1) e.2)
        leave identity
        return .objectSeen (Keyed.ofEntries parts)
      else pure (.ofKind .object)

/-- A visit is a solution of the recursion. -/
theorem visitAt_eq_level (s : Settings) (look : σ → Layer σ) (depth : Nat) (x : σ) :
    visitAt s look depth x = level s look (visitAt s look) depth x := by
  cases hroom : s.maxDepth - depth with
  | zero =>
    have hlimit : s.maxDepth ≤ depth := by omega
    rw [visitAt, hroom, visit, level]
    cases look x <;> simp only [if_pos hlimit]
  | succ room =>
    have hlimit : ¬ s.maxDepth ≤ depth := by omega
    have hnext : s.maxDepth - (depth + 1) = room := by omega
    have hpart : visitAt s look (depth + 1) = visit s look room (depth + 1) := by
      funext y
      rw [visitAt, hnext]
    rw [visitAt, hroom, visit, level, hpart]
    cases look x <;> simp only [if_neg hlimit]

/-! ## The calls of a visit -/

/-- A visit, with the progress it begins in. -/
structure Call (σ : Type) where
  depth : Nat
  progress : Progress
  value : σ

/-- The visits to parts at `depth`, one after the other: each begins where the one before ended. -/
def callsFrom (s : Settings) (look : σ → Layer σ) (depth : Nat) : Progress → List σ → List (Call σ)
  | _, [] => []
  | p, y :: ys => ⟨depth, p, y⟩ :: callsFrom s look depth ((visitAt s look depth y).run p).2 ys

/-- If the call opens a container: its identity, and the progress once it is open. -/
def descent? (s : Settings) (look : σ → Layer σ) (c : Call σ) : Option (Option Nat × Progress) :=
  match (look c.value).container? with
  | none => none
  | some (kind, identity) =>
    if s.maxDepth ≤ c.depth then none
    else
      match (enter kind identity c.depth).run c.progress with
      | (true, inside) => some (identity, inside)
      | (false, _) => none

/-- The visits that a call makes itself. -/
def calls (s : Settings) (look : σ → Layer σ) (c : Call σ) : List (Call σ) :=
  match descent? s look c with
  | none => []
  | some (_, inside) => callsFrom s look (c.depth + 1) inside (look c.value).parts

/-- The identity of the container that a call opens, if it opens one that has an identity. -/
def opened? (s : Settings) (look : σ → Layer σ) (c : Call σ) : Option Nat :=
  (descent? s look c).bind (·.1)

/-- Calls each of which is made by the one before it, the first one by `c`. -/
inductive Nesting (s : Settings) (look : σ → Layer σ) : Call σ → List (Call σ) → Prop where
  | nil (c : Call σ) : Nesting s look c []
  | cons {c d : Call σ} {cs : List (Call σ)} (made : d ∈ calls s look c)
      (rest : Nesting s look d cs) : Nesting s look c (d :: cs)

/-! ## One level asks for the results of its calls and for nothing else -/

/-- The visits to the parts `xs.map f`, whatever is made of their results. -/
theorem run_mapM_congr {α β : Type} (s : Settings) (look : σ → Layer σ)
    {visitPart : Nat → σ → Walk Schema} (depth : Nat) (f : α → σ) (g : α → Schema → β) :
    ∀ (xs : List α) (p : Progress),
      (∀ c ∈ callsFrom s look depth p (xs.map f),
        (visitPart c.depth c.value).run c.progress =
          (visitAt s look c.depth c.value).run c.progress) →
      (xs.mapM fun a => do return g a (← visitPart depth (f a))).run p =
        (xs.mapM fun a => do return g a (← visitAt s look depth (f a))).run p := by
  intro xs
  induction xs with
  | nil => intro p _; rfl
  | cons a xs ih =>
    intro p h
    have hhead : (visitPart depth (f a)).run p = (visitAt s look depth (f a)).run p :=
      h _ List.mem_cons_self
    have htail := ih _ fun c hc => h c (List.mem_cons_of_mem _ hc)
    rw [List.mapM_cons, List.mapM_cons, StateT.run_bind, StateT.run_bind, StateT.run_bind,
      StateT.run_bind, hhead]
    show (StateT.run _ ((visitAt s look depth (f a)).run p).2 : Id _) =
      (StateT.run _ ((visitAt s look depth (f a)).run p).2 : Id _)
    rw [StateT.run_bind, StateT.run_bind, htail]

/-- **The calls are all that one level asks for.** -/
theorem run_level (s : Settings) (look : σ → Layer σ) {visitPart : Nat → σ → Walk Schema}
    (c : Call σ)
    (h : ∀ d ∈ calls s look c, (visitPart d.depth d.value).run d.progress =
      (visitAt s look d.depth d.value).run d.progress) :
    (level s look visitPart c.depth c.value).run c.progress =
      (visitAt s look c.depth c.value).run c.progress := by
  rw [visitAt_eq_level]
  unfold level
  unfold calls descent? at h
  cases hx : look c.value with
  | array identity items =>
    simp only [hx, Layer.container?] at h ⊢
    by_cases hlimit : s.maxDepth ≤ c.depth
    · simp only [if_pos hlimit]
    · simp only [if_neg hlimit] at h ⊢
      rw [StateT.run_bind, StateT.run_bind]
      by_cases hrep : Repeats identity c.progress.opened
      · rw [run_enter_of_repeats hrep]
        rfl
      · rw [run_enter_of_not_repeats hrep] at h ⊢
        have hparts : (Layer.array identity items).parts = items.map id := by
          show items ++ [] = _
          rw [List.append_nil, List.map_id]
        dsimp only at h
        rw [hparts] at h
        -- items are visited as they are; entries, below, keep their keys beside the results
        have hitems := run_mapM_congr s look (c.depth + 1) id (fun _ r => r) items _ h
        simp only [bind_pure, id] at hitems
        show StateT.run (_ >>= _) _ = StateT.run (_ >>= _) _
        rw [StateT.run_bind, StateT.run_bind, hitems]
  | object identity entries =>
    simp only [hx, Layer.container?] at h ⊢
    by_cases hlimit : s.maxDepth ≤ c.depth
    · simp only [if_pos hlimit]
    · simp only [if_neg hlimit] at h ⊢
      rw [StateT.run_bind, StateT.run_bind]
      by_cases hrep : Repeats identity c.progress.opened
      · rw [run_enter_of_repeats hrep]
        rfl
      · rw [run_enter_of_not_repeats hrep] at h ⊢
        have hparts : (Layer.object identity entries).parts = entries.map (·.2) := rfl
        dsimp only at h
        rw [hparts] at h
        have hentries := run_mapM_congr s look (c.depth + 1) (·.2) (fun e r => (e.1, r)) entries _ h
        show StateT.run (_ >>= _) _ = StateT.run (_ >>= _) _
        rw [StateT.run_bind, StateT.run_bind, hentries]
  | _ => rfl

/-! ## What a call hands on -/

theorem descent?_eq_some {s : Settings} {look : σ → Layer σ} {c : Call σ} {identity : Option Nat}
    {inside : Progress} (h : descent? s look c = some (identity, inside)) :
    (∃ kind, (look c.value).container? = some (kind, identity)) ∧ c.depth < s.maxDepth ∧
      ¬ Repeats identity c.progress.opened ∧
      inside.opened = identity.toList ++ c.progress.opened := by
  unfold descent? at h
  split at h
  · cases h
  · next kind i hc =>
    split at h
    · cases h
    · next hlimit =>
      by_cases hrep : Repeats i c.progress.opened
      · rw [run_enter_of_repeats hrep] at h
        cases h
      · rw [run_enter_of_not_repeats hrep] at h
        cases h
        exact ⟨⟨kind, hc⟩, Nat.lt_of_not_le hlimit, hrep, rfl⟩

/-- Visits to parts find the same containers open, each of them: the ones before have closed what
    they opened. -/
theorem mem_callsFrom {s : Settings} {look : σ → Layer σ} {depth : Nat} {d : Call σ} :
    ∀ (ys : List σ) (p : Progress), d ∈ callsFrom s look depth p ys →
      d.depth = depth ∧ d.progress.opened = p.opened ∧ d.value ∈ ys := by
  intro ys
  induction ys with
  | nil => intro p h; exact absurd h List.not_mem_nil
  | cons y ys ih =>
    intro p h
    rcases List.mem_cons.mp h with rfl | h
    · exact ⟨rfl, rfl, List.mem_cons_self⟩
    · obtain ⟨hdepth, hopened, hmem⟩ := ih _ h
      -- the visit to `y` comes before that to `d` and must not leave anything open
      have hclosed := visit_settles s look _ depth p.opened y rfl p.log
      refine ⟨hdepth, ?_, List.mem_cons_of_mem _ hmem⟩
      rw [hopened, visitAt]
      exact congrArg (fun r : Schema × Progress => r.2.opened) hclosed

/-- **One call**: it opens a container above the limit that none of the open ones repeats, and its
    own calls find this container open beside those. -/
theorem mem_calls {s : Settings} {look : σ → Layer σ} {c d : Call σ} (h : d ∈ calls s look c) :
    (∃ kind, (look c.value).container? = some (kind, opened? s look c)) ∧ c.depth < s.maxDepth ∧
      ¬ Repeats (opened? s look c) c.progress.opened ∧ d.depth = c.depth + 1 ∧
      d.progress.opened = (opened? s look c).toList ++ c.progress.opened ∧
      d.value ∈ (look c.value).parts := by
  unfold calls at h
  split at h
  · exact absurd h List.not_mem_nil
  · next identity inside hdescent =>
    obtain ⟨hkind, hlimit, hrep, hinside⟩ := descent?_eq_some hdescent
    obtain ⟨hdepth, hopened, hmem⟩ := mem_callsFrom _ _ h
    have heq : opened? s look c = identity := by
      rw [opened?, hdescent]
      rfl
    rw [heq]
    exact ⟨hkind, hlimit, hrep, hdepth, hopened.trans hinside, hmem⟩

theorem opened?_eq_some {s : Settings} {look : σ → Layer σ} {c : Call σ} {i : Nat}
    (h : opened? s look c = some i) :
    (∃ kind, (look c.value).container? = some (kind, some i)) ∧ c.depth < s.maxDepth ∧
      i ∉ c.progress.opened := by
  obtain ⟨⟨identity, inside⟩, hdescent, rfl⟩ := Option.bind_eq_some_iff.mp h
  obtain ⟨hkind, hlimit, hrep, _⟩ := descent?_eq_some hdescent
  exact ⟨hkind, hlimit, fun hi => hrep ⟨i, hi, rfl⟩⟩

/-- **The recursion has one solution.**  Two solutions agree on a call when they agree on the calls
    that it makes, and these stand one level deeper, down to the limit. -/
theorem eq_visitAt_of_level {s : Settings} {look : σ → Layer σ} {walk : Nat → σ → Walk Schema}
    (hwalk : ∀ depth x, walk depth x = level s look walk depth x) (depth : Nat) (x : σ) :
    walk depth x = visitAt s look depth x := by
  -- the room gets smaller along calls; the value does not, it may come round again
  have haux : ∀ (room : Nat) (c : Call σ), s.maxDepth - c.depth = room →
      (walk c.depth c.value).run c.progress = (visitAt s look c.depth c.value).run c.progress := by
    intro room
    induction room with
    | zero =>
      intro c hroom
      rw [hwalk]
      refine run_level s look c ?_
      intro d hd
      obtain ⟨_, hlimit, _⟩ := mem_calls hd
      omega
    | succ room ih =>
      intro c hroom
      rw [hwalk]
      refine run_level s look c ?_
      intro d hd
      obtain ⟨_, _, _, hdepth, _⟩ := mem_calls hd
      exact ih d (by omega)
  funext p
  exact haux _ ⟨depth, p, x⟩ rfl

/-! ## Nested calls open different containers -/

variable {s : Settings} {look : σ → Layer σ}

/-- **The open containers along a nesting are pairwise different**, those that were open before it
    included. -/
theorem nodup_opened {c : Call σ} {cs : List (Call σ)} (h : Nesting s look c cs) :
    c.progress.opened.Nodup →
      (((c :: cs).filterMap (opened? s look)).reverse ++ c.progress.opened).Nodup := by
  induction h with
  | nil c =>
    intro hnodup
    rw [List.filterMap_cons, List.filterMap_nil]
    cases hi : opened? s look c with
    | none => exact hnodup
    | some i =>
      obtain ⟨_, _, hfresh⟩ := opened?_eq_some hi
      exact List.nodup_cons.mpr ⟨hfresh, hnodup⟩
  | @cons c d cs made _ ih =>
    intro hnodup
    obtain ⟨_, _, hfresh, _, hopened, _⟩ := mem_calls made
    -- `d` finds what `c` found and the container of `c`, which is not among those
    have hbelow : d.progress.opened.Nodup := by
      rw [hopened]
      cases hi : opened? s look c with
      | none => exact hnodup
      | some i => exact List.nodup_cons.mpr ⟨fun hmem => hfresh ⟨i, hmem, hi⟩, hnodup⟩
    have hrest := ih hbelow
    rw [hopened] at hrest
    rw [List.filterMap_cons]
    cases hi : opened? s look c with
    | none =>
      rw [hi] at hrest
      exact hrest
    | some i =>
      rw [hi] at hrest
      show ((i :: (d :: cs).filterMap (opened? s look)).reverse ++ c.progress.opened).Nodup
      rw [List.reverse_cons, List.append_assoc]
      exact hrest

/-- Each container that is opened takes one level of the room above the limit. -/
theorem length_opened_le {c : Call σ} {cs : List (Call σ)} (h : Nesting s look c cs) :
    ((c :: cs).filterMap (opened? s look)).length ≤ s.maxDepth - c.depth := by
  induction h with
  | nil c =>
    rw [List.filterMap_cons, List.filterMap_nil]
    cases hi : opened? s look c with
    | none => exact Nat.zero_le _
    | some i =>
      obtain ⟨_, hlimit, _⟩ := opened?_eq_some hi
      show 1 ≤ s.maxDepth - c.depth
      omega
  | @cons c d cs made _ ih =>
    obtain ⟨_, hlimit, _, hdepth, _, _⟩ := mem_calls made
    rw [List.filterMap_cons]
    cases opened? s look c with
    | none =>
      show ((d :: cs).filterMap (opened? s look)).length ≤ s.maxDepth - c.depth
      omega
    | some i =>
      show ((d :: cs).filterMap (opened? s look)).length + 1 ≤ s.maxDepth - c.depth
      omega

/-- Every call but the last opens a container; where all have identities, that shows. -/
theorem length_le_opened {c : Call σ} {cs : List (Call σ)}
    (hidentity : ∀ x kind, (look x).container? ≠ some (kind, none)) (h : Nesting s look c cs) :
    cs.length ≤ ((c :: cs).filterMap (opened? s look)).length := by
  induction h with
  | nil c => exact Nat.zero_le _
  | @cons c d cs made _ ih =>
    obtain ⟨⟨kind, hkind⟩, _⟩ := mem_calls made
    rw [List.filterMap_cons]
    cases hi : opened? s look c with
    | none =>
      rw [hi] at hkind
      exact absurd hkind (hidentity _ _)
    | some i => exact Nat.succ_le_succ ih

/-- All calls that are nested at most `n` deep below `c`, and `c` itself. -/
def callsWithin (s : Settings) (look : σ → Layer σ) : Nat → Call σ → List (Call σ)
  | 0, c => [c]
  | n + 1, c => c :: (calls s look c).flatMap (callsWithin s look n)

theorem mem_callsWithin {c : Call σ} {cs : List (Call σ)} (h : Nesting s look c cs) :
    ∀ n, cs.length ≤ n → ∀ d ∈ c :: cs, d ∈ callsWithin s look n c := by
  induction h with
  | nil c =>
    intro n _ d hd
    rw [List.mem_singleton.mp hd]
    cases n <;> exact List.mem_cons_self
  | @cons c d cs made _ ih =>
    intro n hn e he
    obtain ⟨m, rfl⟩ := Nat.exists_eq_add_of_lt (Nat.lt_of_lt_of_le (Nat.succ_pos cs.length) hn)
    rw [Nat.zero_add] at hn ⊢
    rcases List.mem_cons.mp he with rfl | he
    · exact List.mem_cons_self
    · refine List.mem_cons_of_mem _ (List.mem_flatMap.mpr ⟨d, made, ?_⟩)
      exact ih m (Nat.le_of_succ_le_succ hn) e he

/-! ## On a heap -/

theorem refers_of_mem_parts {h : Heap} (hc : h.Closed) {a r : Handle}
    (hr : r ∈ (h.look a).parts) : h.Refers r := by
  cases a with
  | array p =>
    have hmem : r ∈ h.itemsAt p ++ [] := hr
    rw [List.append_nil] at hmem
    exact Heap.refers_of_mem_itemsAt hc hmem
  | object p =>
    obtain ⟨e, he, rfl⟩ := List.mem_map.mp (show r ∈ (h.entriesAt p).map (·.2) from hr)
    exact Heap.refers_of_mem_entriesAt hc he
  | _ => exact absurd hr List.not_mem_nil

/-- Calls on handles that refer lead to calls on handles that refer. -/
theorem refers_of_nesting {h : Heap} (hc : h.Closed) {c : Call Handle} {cs : List (Call Handle)}
    (hn : Nesting s h.look c cs) : h.Refers c.value → ∀ d ∈ c :: cs, h.Refers d.value := by
  induction hn with
  | nil c =>
    intro hroot d hd
    rw [List.mem_singleton.mp hd]
    exact hroot
  | cons made _ ih =>
    intro hroot e he
    rcases List.mem_cons.mp he with rfl | he
    · exact hroot
    · obtain ⟨_, _, _, _, _, hpart⟩ := mem_calls made
      exact ih (refers_of_mem_parts hc hpart) e he

/-- The identity of a container in a heap is its place. -/
theorem container?_look {h : Heap} {a : Handle} {kind : Kind} {identity : Option Nat}
    (hk : (h.look a).container? = some (kind, identity)) :
    a.place? = identity ∧ identity ≠ none := by
  cases a with
  | array p => cases hk; exact ⟨rfl, nofun⟩
  | object p => cases hk; exact ⟨rfl, nofun⟩
  | _ => cases hk

/-- The containers opened along a nesting are places of the heap. -/
theorem opened_lt_size {h : Heap} (hc : h.Closed) {c : Call Handle} {cs : List (Call Handle)}
    (hn : Nesting s h.look c cs) (hroot : h.Refers c.value) :
    ∀ i ∈ (c :: cs).filterMap (opened? s h.look), i < h.cells.size := by
  intro i hi
  obtain ⟨d, hd, hopened⟩ := List.mem_filterMap.mp hi
  obtain ⟨⟨kind, hkind⟩, _, _⟩ := opened?_eq_some hopened
  obtain ⟨hplace, _⟩ := container?_look hkind
  exact (refers_of_nesting hc hn hroot d hd).place_lt hplace

/-- Different places are not more than the heap has. -/
theorem length_opened_le_size {h : Heap} (hc : h.Closed) {c : Call Handle}
    {cs : List (Call Handle)} (hn : Nesting s h.look c cs) (hroot : h.Refers c.value)
    (hempty : c.progress.opened = []) :
    ((c :: cs).filterMap (opened? s h.look)).Nodup ∧
      ((c :: cs).filterMap (opened? s h.look)).length ≤ h.cells.size := by
  have hnodup : ((c :: cs).filterMap (opened? s h.look)).Nodup := by
    have hall := nodup_opened hn (by rw [hempty]; exact List.nodup_nil)
    rw [hempty, List.append_nil] at hall
    exact (List.reverse_perm _).nodup_iff.mp hall
  refine ⟨hnodup, ?_⟩
  -- different places, each below the size of the heap
  have hsubset : (c :: cs).filterMap (opened? s h.look) ⊆ List.range h.cells.size := by
    intro i hi
    exact List.mem_range.mpr (opened_lt_size hc hn hroot i hi)
  have hlength := hnodup.length_le_of_subset hsubset
  rwa [List.length_range] at hlength

end Inference

open Inference in
/-- **Inference ends on every graph.**  Take any heap that a client can build, any handle that the
    client holds and any limit below `2 ^ 64`.  The recursion of a visit, without any bound built
    in, has the visits of inference for its only solution.  All calls below that handle are found
    within a nesting no deeper than the limit and the number of containers; along every nesting the
    containers descended into are pairwise different, hence at most that many, and the depth of
    their parts stays below `2 ^ 64`. -/
theorem infer_terminates (ops : List Operation) (s : Settings) (hlimit : s.maxDepth < UInt64.size)
    (root : Handle) (hroot : root ∈ (Session.run ops).registers) :
    let h := (Session.run ops).heap
    let start : Call Handle := ⟨0, ⟨[], []⟩, root⟩
    let bound := min s.maxDepth h.cells.size
    (∀ walk : Nat → Handle → Walk Schema,
        (∀ depth x, walk depth x = level s h.look walk depth x) ↔ walk = visitAt s h.look) ∧
      (∀ cs, Nesting s h.look start cs → ∀ c ∈ start :: cs,
        c ∈ callsWithin s h.look bound start) ∧
      ∀ cs, Nesting s h.look start cs →
        let opened := (start :: cs).filterMap (opened? s h.look)
        opened.Nodup ∧ opened.length ≤ bound ∧ cs.length ≤ opened.length ∧
          ∀ c ∈ start :: cs, opened? s h.look c ≠ none → c.depth + 1 < UInt64.size := by
  intro h start bound
  have hsound := Session.sound_run ops
  have hrefers : h.Refers start.value := hsound.refers root hroot
  have hidentity : ∀ x kind, (h.look x).container? ≠ some (kind, none) :=
    fun x kind hk => (container?_look hk).2 rfl
  have hchain : ∀ cs, Nesting s h.look start cs →
      ((start :: cs).filterMap (opened? s h.look)).Nodup ∧
        ((start :: cs).filterMap (opened? s h.look)).length ≤ bound ∧
        cs.length ≤ ((start :: cs).filterMap (opened? s h.look)).length := by
    intro cs hn
    obtain ⟨hnodup, hsize⟩ := length_opened_le_size hsound.closed hn hrefers rfl
    exact ⟨hnodup, Nat.le_min.mpr ⟨length_opened_le hn, hsize⟩, length_le_opened hidentity hn⟩
  refine ⟨?_, ?_, ?_⟩
  · intro walk
    constructor
    · intro hwalk
      funext depth x
      exact eq_visitAt_of_level hwalk depth x
    · rintro rfl
      exact visitAt_eq_level s h.look
  · intro cs hn
    obtain ⟨_, hbound, hlength⟩ := hchain cs hn
    exact mem_callsWithin hn bound (Nat.le_trans hlength hbound)
  · intro cs hn
    obtain ⟨hnodup, hbound, hlength⟩ := hchain cs hn
    refine ⟨hnodup, hbound, hlength, ?_⟩
    intro c _ hopened
    obtain ⟨i, hi⟩ := Option.ne_none_iff_exists'.mp hopened
    obtain ⟨_, hdepth, _⟩ := opened?_eq_some hi
    omega

open Inference in
/-- An object that holds itself is opened once, the largest limit or not. -/
theorem infer_terminates_cycle :
    let ops : List Operation := [.newObject, .insert 0 "me" 0]
    let s : Settings := { maxDepth := UInt64.size - 1 }
    let h := (Session.run ops).heap
    let start : Call Handle := ⟨0, ⟨[], []⟩, .object 0⟩
    s.maxDepth < UInt64.size ∧ .object 0 ∈ (Session.run ops).registers ∧
      h.cells = #[.object [("me", .object 0)]] ∧
      ∀ cs, Nesting s h.look start cs →
        ((start :: cs).filterMap (opened? s h.look)).length ≤ 1 ∧ cs.length ≤ 1 := by
  intro ops s h start
  have hlimit : s.maxDepth < UInt64.size := by decide
  have hroot : Handle.object 0 ∈ (Session.run ops).registers := List.mem_singleton.mpr rfl
  refine ⟨hlimit, hroot, rfl, ?_⟩
  intro cs hn
  obtain ⟨_, _, hchain⟩ := infer_terminates ops s hlimit _ hroot
  obtain ⟨_, hbound, hlength, _⟩ := hchain cs hn
  have hopened := Nat.le_trans hbound (Nat.min_le_right _ _)
  exact ⟨hopened, Nat.le_trans hlength hopened⟩

end SampleSchema
