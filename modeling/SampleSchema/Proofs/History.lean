/-
  What a container holds is the history of the calls made on it.

  Handles are copied, stored and taken out again, so one container can be changed from many places,
  from inside itself as well.  None of that counts for what it holds: the calls made on handles of
  its identity, in their order, are replayed on what it held when it was made.

  1. **A change by itself** is a function on contents (`Cell.after`), told without heaps and
     handles.  A call is meant for one container and one change (`Session.change?`), which depends
     on nothing but the registers.

  2. **One call** does to a container that is there what it is meant to do to it, and nothing to any
     other (`getElem?_step`).  The crux is that the heap and the replay agree on the calls that
     miss: an array is not changed by setting a key, because a handle that refers to it is one of an
     array.  Here soundness comes in.

  3. **A run** replays the changes since the call that made the container
     (`exists_creation`), by induction on the run from its end; what was there stays there, and what
     is new was made by the last call.
-/
import Mathlib.Data.List.Induction
import SampleSchema.Proofs.Session

namespace SampleSchema

/-! ## Changes of one container -/

/-- What a call may do to the contents of a container. -/
inductive Change where
  | push (v : Handle)
  | insert (key : String) (v : Handle)
  | clear

/-- The contents after a change.  An item is appended; so is an entry with a new key, and with an
    old key it takes the place of the old entry.  A change that is not for containers of this sort
    does nothing. -/
def Cell.after : Cell → Change → Cell
  | .array xs, .push v => .array (xs ++ [v])
  | .array xs, .insert _ _ => .array xs
  | .array _, .clear => .array []
  | .object es, .push _ => .object es
  | .object es, .insert key v =>
    .object (if key ∈ es.keys then es.map fun e => if e.1 = key then (key, v) else e
      else es ++ [(key, v)])
  | .object _, .clear => .object []

/-- Setting a key does what the change says, if no key is set twice. -/
theorem Cell.after_insert {es : Keyed Handle} (h : es.Distinct) (key : String) (v : Handle) :
    (Cell.object es).after (.insert key v) = .object (es.insert key v) := by
  show Cell.object (if key ∈ es.keys then _ else _) = _
  split
  · next hkey => rw [Keyed.insert_of_mem h v hkey]
  · next hkey => rw [Keyed.insert_of_not_mem v hkey]

/-- The contents of the container at a place after a call that is meant to make this change. -/
def Cell.afterCall (place : Nat) (c : Cell) : Option (Nat × Change) → Cell
  | none => c
  | some (q, x) => if q = place then c.after x else c

namespace Session

/-- The container that a call is meant to change, by its identity, and the change. -/
def change? (S : Session) : Operation → Option (Nat × Change)
  | .push r v => S.registers[r]?.bind fun a => S.registers[v]?.bind fun b =>
    a.place?.map fun p => (p, .push b)
  | .insert r key v => S.registers[r]?.bind fun a => S.registers[v]?.bind fun b =>
    a.place?.map fun p => (p, .insert key b)
  | .clear r => S.registers[r]?.bind fun a => a.place?.map fun p => (p, .clear)
  | _ => none

/-- The change that a call makes to the container at a place, if it is meant for that one. -/
def changesAt (S : Session) (place : Nat) (op : Operation) : List Change :=
  ((S.change? op).filter fun x => x.1 = place).toList.map (·.2)

/-- The changes that a row of calls makes to the container at a place. -/
def changes (place : Nat) : Session → List Operation → List Change
  | _, [] => []
  | S, op :: ops => S.changesAt place op ++ changes place (S.step op) ops

/-- A call makes a container at a place, with these contents to begin with. -/
inductive Creates (S : Session) : Operation → Nat → Cell → Prop where
  | newArray : Creates S .newArray S.heap.cells.size (.array [])
  | newObject : Creates S .newObject S.heap.cells.size (.object [])
  /-- One of the containers that a copy of a JSON value is made of. -/
  | copy (v : Json) {p : Nat} {c : Cell} (new : S.heap.cells.size ≤ p)
      (contents : (S.heap.ofJson v).2.cells[p]? = some c) : Creates S (.copy v) p c

end Session

/-! ## Containers that are there -/

namespace Heap

mutual

/-- Copying a value changes no container that is there. -/
theorem getElem?_ofJson {h : Heap} {p : Nat} {c : Cell} (hc : h.cells[p]? = some c) :
    ∀ v : Json, (h.ofJson v).2.cells[p]? = some c
  | .null | .bool _ | .number _ | .string _ => hc
  | .array xs => by
    rw [ofJson]
    exact getElem?_pushCell _ (getElem?_ofItems hc xs)
  | .object es => by
    rw [ofJson]
    exact getElem?_pushCell _ (getElem?_ofJsonEntries hc es)

theorem getElem?_ofItems {h : Heap} {p : Nat} {c : Cell} (hc : h.cells[p]? = some c) :
    ∀ xs : List Json, (h.ofItems xs).2.cells[p]? = some c
  | [] => hc
  | x :: xs => by
    rw [ofItems]
    exact getElem?_ofItems (getElem?_ofJson hc x) xs

theorem getElem?_ofJsonEntries {h : Heap} {p : Nat} {c : Cell} (hc : h.cells[p]? = some c) :
    ∀ es : List (String × Json), (h.ofJsonEntries es).2.cells[p]? = some c
  | [] => hc
  | (_, x) :: es => by
    rw [ofJsonEntries]
    exact getElem?_ofJsonEntries (getElem?_ofJson hc x) es

end

variable {h : Heap} {p : Nat} {c : Cell}

/-- A change at one place is seen there and nowhere else. -/
theorem getElem?_modify {q : Nat} {f : Cell → Cell} {x : Change} (hc : h.cells[p]? = some c)
    (hf : f c = c.after x) : (h.cells.modify q f)[p]? = some (c.afterCall p (some (q, x))) := by
  show _ = some (if q = p then c.after x else c)
  rw [Array.getElem?_modify, hc]
  split
  · rw [← hf]
    rfl
  · rfl

/-- A change that misses what stands at its place is seen nowhere. -/
theorem getElem?_missed {q : Nat} {x : Change} (hc : h.cells[p]? = some c)
    (hmissed : ∀ d, h.cells[q]? = some d → d.after x = d) :
    h.cells[p]? = some (c.afterCall p (some (q, x))) := by
  show _ = some (if q = p then c.after x else c)
  split
  · next hq => rw [hmissed c (hq ▸ hc), hc]
  · exact hc

theorem getElem?_push (hc : h.cells[p]? = some c) {a : Handle} (ha : h.Refers a) (b : Handle) :
    (h.push a b).2.cells[p]? = some (c.afterCall p (a.place?.map fun q => (q, .push b))) := by
  cases a with
  | array q => exact getElem?_modify hc (by cases c <;> rfl)
  | object q =>
    obtain ⟨es, hes⟩ := ha
    refine getElem?_missed hc fun d hd => ?_
    cases hd.symm.trans hes
    rfl
  | _ => exact hc

theorem getElem?_insert (hc : h.cells[p]? = some c) {a : Handle} (ha : h.Refers a)
    (hkeys : c.WellKeyed) (key : String) (b : Handle) :
    (h.insert a key b).2.cells[p]? =
      some (c.afterCall p (a.place?.map fun q => (q, .insert key b))) := by
  cases a with
  | array q =>
    obtain ⟨xs, hxs⟩ := ha
    refine getElem?_missed hc fun d hd => ?_
    cases hd.symm.trans hxs
    rfl
  | object q =>
    refine getElem?_modify hc ?_
    cases c with
    | array xs => rfl
    | object es => exact (Cell.after_insert hkeys key b).symm
  | _ => exact hc

theorem getElem?_clear (hc : h.cells[p]? = some c) (a : Handle) :
    (h.clear a).cells[p]? = some (c.afterCall p (a.place?.map fun q => (q, .clear))) := by
  unfold clear
  cases a.place? with
  | none => exact hc
  | some q => exact getElem?_modify hc (by cases c <;> rfl)

end Heap

/-! ## Containers that are new -/

namespace Heap

theorem size_push (h : Heap) (a b : Handle) : (h.push a b).2.cells.size = h.cells.size := by
  cases a with
  | array p => exact Array.size_modify
  | _ => rfl

theorem size_insert (h : Heap) (a : Handle) (key : String) (b : Handle) :
    (h.insert a key b).2.cells.size = h.cells.size := by
  cases a with
  | object p => exact Array.size_modify
  | _ => rfl

theorem size_clear (h : Heap) (a : Handle) : (h.clear a).cells.size = h.cells.size := by
  unfold clear
  cases a.place? with
  | none => rfl
  | some p => exact Array.size_modify

/-- A container that comes with a new one is the new one. -/
theorem eq_of_pushCell {h : Heap} {p : Nat} {c new : Cell} (hsize : h.cells.size ≤ p)
    (hc : (h.cells.push new)[p]? = some c) : h.cells.size = p ∧ new = c := by
  rw [Array.getElem?_push] at hc
  split at hc
  · next hp => exact ⟨hp.symm, Option.some.inj hc⟩
  · have hlt := (Array.getElem?_eq_some_iff.mp hc).1
    omega

end Heap

/-! ## One call -/

namespace Session

theorem foldl_changesAt (S : Session) (place : Nat) (op : Operation) (c : Cell) :
    (S.changesAt place op).foldl Cell.after c = c.afterCall place (S.change? op) := by
  unfold changesAt
  cases S.change? op with
  | none => rfl
  | some x =>
    obtain ⟨q, x⟩ := x
    show _ = if q = place then c.after x else c
    by_cases hq : q = place
    · rw [if_pos hq, Option.filter_some, if_pos (decide_eq_true hq)]
      rfl
    · rw [if_neg hq, Option.filter_some, if_neg fun hc => hq (of_decide_eq_true hc)]
      rfl

/-- **One call does to a container that is there what it is meant to do**, which is nothing if it is
    meant for another one. -/
theorem getElem?_step {S : Session} (hS : S.Sound) (hkeys : S.heap.WellKeyed) {p : Nat} {c : Cell}
    (hc : S.heap.cells[p]? = some c) (op : Operation) :
    (S.step op).heap.cells[p]? = some (c.afterCall p (S.change? op)) := by
  have hrefers : ∀ {r : Nat} {a : Handle}, S.registers[r]? = some a → S.heap.Refers a :=
    fun ha => hS.refers _ (List.mem_of_getElem? ha)
  cases op with
  | newArray => exact Heap.getElem?_pushCell _ hc
  | newObject => exact Heap.getElem?_pushCell _ hc
  | foreign label => exact hc
  | copy v => exact Heap.getElem?_ofJson hc v
  | duplicate r | item r index | entry r key =>
    rw [Session.step, heap_keep?]
    exact hc
  | push r v =>
    rw [Session.step, change?]
    cases ha : S.registers[r]? with
    | none => exact hc
    | some a =>
      cases S.registers[v]? with
      | none => exact hc
      | some b => exact Heap.getElem?_push hc (hrefers ha) b
  | insert r key v =>
    rw [Session.step, change?]
    cases ha : S.registers[r]? with
    | none => exact hc
    | some a =>
      cases S.registers[v]? with
      | none => exact hc
      | some b => exact Heap.getElem?_insert hc (hrefers ha) (hkeys p c hc) key b
  | clear r =>
    rw [Session.step, change?]
    cases S.registers[r]? with
    | none => exact hc
    | some a => exact Heap.getElem?_clear hc a

/-- **A container that was not there before was made by the call.** -/
theorem creates_of_new {S : Session} {op : Operation} {p : Nat} {c : Cell}
    (hnew : S.heap.cells[p]? = none) (hc : (S.step op).heap.cells[p]? = some c) :
    S.Creates op p c := by
  have hsize : S.heap.cells.size ≤ p := Array.getElem?_eq_none_iff.mp hnew
  -- the other calls leave as many containers as there were
  have hsame : ∀ {h : Heap}, h.cells.size = S.heap.cells.size → h.cells[p]? ≠ some c := by
    intro h hh hp
    have hlt := (Array.getElem?_eq_some_iff.mp hp).1
    omega
  cases op with
  | newArray =>
    obtain ⟨rfl, rfl⟩ := Heap.eq_of_pushCell hsize hc
    exact .newArray
  | newObject =>
    obtain ⟨rfl, rfl⟩ := Heap.eq_of_pushCell hsize hc
    exact .newObject
  | copy v => exact .copy v hsize hc
  | foreign label => exact absurd hc (hsame rfl)
  | duplicate r | item r index | entry r key =>
    rw [Session.step, heap_keep?] at hc
    exact absurd hc (hsame rfl)
  | push r v =>
    rw [Session.step] at hc
    split at hc
    · exact absurd hc (hsame (Heap.size_push _ _ _))
    · exact absurd hc (hsame rfl)
  | insert r key v =>
    rw [Session.step] at hc
    split at hc
    · exact absurd hc (hsame (Heap.size_insert _ _ _ _))
    · exact absurd hc (hsame rfl)
  | clear r =>
    rw [Session.step] at hc
    split at hc
    · exact absurd hc (hsame (Heap.size_clear _ _))
    · exact absurd hc (hsame rfl)

/-! ## A run -/

theorem run_append (ops ops' : List Operation) :
    run (ops ++ ops') = ops'.foldl Session.step (run ops) :=
  List.foldl_append

theorem changes_append (place : Nat) (ops' : List Operation) : ∀ (ops : List Operation)
    (S : Session), changes place S (ops ++ ops') =
      changes place S ops ++ changes place (ops.foldl Session.step S) ops' := by
  intro ops
  induction ops with
  | nil => intro S; rfl
  | cons op ops ih =>
    intro S
    rw [List.cons_append, changes, changes, ih, List.append_assoc, List.foldl_cons]

/-- **A container holds what its history leaves**: it was made by a call of the run, and the changes
    that the calls after it made to it are replayed on what it was made with. -/
theorem exists_creation (ops : List Operation) : ∀ {p : Nat} {c : Cell},
    (run ops).heap.cells[p]? = some c → ∃ before op later c₀, ops = before ++ op :: later ∧
      (run before).Creates op p c₀ ∧
      c = (changes p ((run before).step op) later).foldl Cell.after c₀ := by
  induction ops using List.reverseRecOn with
  | nil =>
    intro p c hc
    cases hc
  | append_singleton ops op ih =>
    intro p c hc
    rw [run_append] at hc
    cases hold : (run ops).heap.cells[p]? with
    | none => exact ⟨ops, op, [], c, rfl, creates_of_new hold hc, rfl⟩
    | some d =>
      obtain ⟨before, made, later, c₀, hops, hmade, hd⟩ := ih hold
      refine ⟨before, made, later ++ [op], c₀, ?_, hmade, ?_⟩
      · rw [hops, List.append_assoc, List.cons_append]
      · have hrun : later.foldl Session.step ((run before).step made) = run ops := by
          rw [hops, run_append]
          rfl
        have hstep := getElem?_step (sound_run ops) (wellKeyed_run ops) hold op
        rw [changes_append, hrun, List.foldl_append, ← hd, changes, changes, List.append_nil,
          foldl_changesAt]
        exact Option.some.inj (hc.symm.trans hstep)

/-- **The contents of a container are its history**, after every run.  What a container holds is
    what it was made with and then, in their order, the changes made on handles of its identity.  A
    call that fails changes no container, and neither does clearing a scalar; and no call changes a
    container that its handle does not refer to. -/
theorem contents_run (ops : List Operation) :
    (∀ p c, (run ops).heap.cells[p]? = some c → ∃ before op later c₀, ops = before ++ op :: later ∧
      (run before).Creates op p c₀ ∧
      c = (changes p ((run before).step op) later).foldl Cell.after c₀) ∧
    (∀ a key b,
      (((run ops).heap.push a b).1 = false → ((run ops).heap.push a b).2 = (run ops).heap) ∧
      (((run ops).heap.insert a key b).1 = false →
        ((run ops).heap.insert a key b).2 = (run ops).heap) ∧
      (a.place? = none → (run ops).heap.clear a = (run ops).heap)) ∧
    (∀ op p c, (run ops).heap.cells[p]? = some c → (∀ x, (run ops).change? op ≠ some (p, x)) →
      ((run ops).step op).heap.cells[p]? = some c) := by
  refine ⟨fun p c => exists_creation ops, ?_, ?_⟩
  · intro a key b
    refine ⟨?_, ?_, ?_⟩
    · intro hfails
      cases a with
      | array p => cases hfails
      | _ => rfl
    · intro hfails
      cases a with
      | object p => cases hfails
      | _ => rfl
    · intro hscalar
      unfold Heap.clear
      rw [hscalar]
  · intro op p c hc hother
    have hstep := getElem?_step (sound_run ops) (wellKeyed_run ops) hc op
    cases hmeant : (run ops).change? op with
    | none => rwa [hmeant] at hstep
    | some x =>
      obtain ⟨q, x⟩ := x
      have hq : q ≠ p := fun hq => hother x (hq ▸ hmeant)
      rwa [hmeant, Cell.afterCall, if_neg hq] at hstep

/-- An object that holds itself and a list that holds both: the object is changed through itself,
    the list through the object, and a call for lists is made on the object. -/
theorem contents_run_knot :
    let ops : List Operation := [.newObject, .newArray, .insert 0 "me" 0, .insert 0 "list" 1,
      .entry 0 "me", .entry 2 "list", .push 3 3, .push 0 1, .insert 2 "me" 3, .push 1 2]
    (run ops).heap.cells[0]? = some (.object [("me", .array 1), ("list", .array 1)]) ∧
      (run ops).heap.cells[1]? = some (.array [.array 1, .object 0]) ∧
      changes 0 (run (ops.take 1)) (ops.drop 1) = [.insert "me" (.object 0),
        .insert "list" (.array 1), .push (.array 1), .insert "me" (.array 1)] ∧
      ∃ before op later c₀, ops = before ++ op :: later ∧ (run before).Creates op 0 c₀ ∧
        Cell.object [("me", .array 1), ("list", .array 1)] =
          (changes 0 ((run before).step op) later).foldl Cell.after c₀ :=
  ⟨rfl, rfl, rfl, (contents_run _).1 0 _ rfl⟩

end Session
end SampleSchema
