/-
  Which call a handle descends from.

  A handle comes from another one: it is copied, put into a container, taken out again.  At the
  start there is a call that made the container: one for a new array, one for a new object, or the
  copy of a JSON value, which makes a container for each array and each object in the value.
  Nothing of this is in a handle, which knows a place of the heap only.

  1. **Runs with descent** (`TracedSession`).  Every handle carries the origin of its container
     along: the call that made it, and the node of the value that was copied.  The origin is given
     when the container is made, and goes wherever the handle goes; no place is looked at for it.
     Without the origins such a run is a run (`erase_run`).

  2. **Origins and places** (`Follows`).  The containers of the heap, in the order of their places,
     have origins that differ from each other, and every handle carries that of its place.  The crux
     is the copy of a value: its containers differ by their nodes, since the items of one container
     are at positions of their own (`origins_ofJson`).

  3. Hence two handles refer to the same container if their identities are the same place, and that
     is so if they descend from the same call and node (`descent_run`).  That an array and an object
     never have one identity is a matter of soundness.
-/
import SampleSchema.Proofs.History
import SampleSchema.Proofs.Identities

namespace SampleSchema

/-! ## Runs with descent -/

/-- The call that made a container, by its number in the run; in the copy of a JSON value, the
    position of the container in the value as well. -/
structure Origin where
  call : Nat
  node : List Nat := []
  deriving DecidableEq

/-- A handle, and the origin of the container that it descends from. -/
structure Traced where
  handle : Handle
  origin : Option Origin := none
  deriving DecidableEq

/-- What a container holds, with descent. -/
inductive TracedCell where
  | array (items : List Traced)
  | object (entries : Keyed Traced)

/-- The containers, with descent. -/
structure TracedHeap where
  cells : Array TracedCell := #[]

namespace TracedCell

/-- The handles that a container holds. -/
def handles : TracedCell → List Traced
  | array xs => xs
  | object es => es.map (·.2)

/-- Append to an array. -/
def push (v : Traced) : TracedCell → TracedCell
  | array xs => array (xs ++ [v])
  | object es => object es

/-- Set an entry of an object. -/
def insert (key : String) (v : Traced) : TracedCell → TracedCell
  | array xs => array xs
  | object es => object (es.insert key v)

/-- Empty a container. -/
def clear : TracedCell → TracedCell
  | array _ => array []
  | object _ => object []

/-- What a container holds, without descent. -/
def erase : TracedCell → Cell
  | array xs => .array (xs.map Traced.handle)
  | object es => .object (Keyed.mapValues Traced.handle es)

end TracedCell

namespace TracedHeap

/-- The containers, without descent. -/
def erase (H : TracedHeap) : Heap := ⟨H.cells.map TracedCell.erase⟩

/-- The items of the array at a place. -/
def itemsAt (H : TracedHeap) (place : Nat) : List Traced :=
  match H.cells[place]? with
  | some (.array xs) => xs
  | _ => []

/-- The entries of the object at a place. -/
def entriesAt (H : TracedHeap) (place : Nat) : Keyed Traced :=
  match H.cells[place]? with
  | some (.object es) => es
  | _ => []

/-- Append to an array; nothing changes for anything else. -/
def push (H : TracedHeap) (r v : Traced) : TracedHeap :=
  match r.handle with
  | .array p => ⟨H.cells.modify p (.push v)⟩
  | _ => H

/-- Set an entry of an object; nothing changes for anything else. -/
def insert (H : TracedHeap) (r : Traced) (key : String) (v : Traced) : TracedHeap :=
  match r.handle with
  | .object p => ⟨H.cells.modify p (.insert key v)⟩
  | _ => H

/-- Empty a container. -/
def clear (H : TracedHeap) (r : Traced) : TracedHeap :=
  match r.handle.place? with
  | none => H
  | some p => ⟨H.cells.modify p .clear⟩

/-- The item of an array at an index. -/
def item? (H : TracedHeap) (r : Traced) (index : Nat) : Option Traced :=
  match r.handle with
  | .array p => (H.itemsAt p)[index]?
  | _ => none

/-- The entry of an object under a key. -/
def entry? (H : TracedHeap) (r : Traced) (key : String) : Option Traced :=
  match r.handle with
  | .object p => (H.entriesAt p).get? key
  | _ => none

mutual

/-- Copy the part of a JSON value at a position into new containers. -/
def ofJson (H : TracedHeap) (call : Nat) (position : List Nat) : Json → Traced × TracedHeap
  | .null => (⟨.null, none⟩, H)
  | .bool b => (⟨.boolean b, none⟩, H)
  | .number n => (⟨.number n, none⟩, H)
  | .string s => (⟨.string s, none⟩, H)
  | .array xs =>
    let r := ofItems H call position 0 xs
    (⟨.array r.2.cells.size, some ⟨call, position⟩⟩, ⟨r.2.cells.push (.array r.1)⟩)
  | .object es =>
    let r := ofJsonEntries H call position 0 es
    (⟨.object r.2.cells.size, some ⟨call, position⟩⟩,
      ⟨r.2.cells.push (.object (Keyed.ofEntries r.1))⟩)

/-- Copy items, of which the first one is the `n`-th of its container. -/
def ofItems (H : TracedHeap) (call : Nat) (position : List Nat) (n : Nat) :
    List Json → List Traced × TracedHeap
  | [] => ([], H)
  | x :: xs =>
    let r := ofJson H call (n :: position) x
    let s := ofItems r.2 call position (n + 1) xs
    (r.1 :: s.1, s.2)

/-- Copy entries, of which the first one is the `n`-th of its container. -/
def ofJsonEntries (H : TracedHeap) (call : Nat) (position : List Nat) (n : Nat) :
    List (String × Json) → List (String × Traced) × TracedHeap
  | [] => ([], H)
  | (k, x) :: es =>
    let r := ofJson H call (n :: position) x
    let s := ofJsonEntries r.2 call position (n + 1) es
    ((k, r.1) :: s.1, s.2)

end

end TracedHeap

/-- The heap and the handles that a client holds, with descent, and the number of calls so far. -/
structure TracedSession where
  heap : TracedHeap := {}
  registers : List Traced := []
  calls : Nat := 0

namespace TracedSession

/-- The session without descent. -/
def erase (T : TracedSession) : Session := ⟨T.heap.erase, T.registers.map Traced.handle⟩

/-- After a call that leaves this heap and yields this handle, if any. -/
def next (T : TracedSession) (H : TracedHeap) (kept : Option Traced) : TracedSession :=
  ⟨H, T.registers ++ kept.toList, T.calls + 1⟩

/-- One call.  Only calls that make containers give an origin. -/
def step (T : TracedSession) : Operation → TracedSession
  | .newArray => T.next ⟨T.heap.cells.push (.array [])⟩
      (some ⟨.array T.heap.cells.size, some ⟨T.calls, []⟩⟩)
  | .newObject => T.next ⟨T.heap.cells.push (.object [])⟩
      (some ⟨.object T.heap.cells.size, some ⟨T.calls, []⟩⟩)
  | .foreign label => T.next T.heap (some ⟨.foreign label, none⟩)
  | .copy v => T.next (T.heap.ofJson T.calls [] v).2 (some (T.heap.ofJson T.calls [] v).1)
  | .duplicate r => T.next T.heap T.registers[r]?
  | .item r index => T.next T.heap (T.registers[r]?.bind fun a => T.heap.item? a index)
  | .entry r key => T.next T.heap (T.registers[r]?.bind fun a => T.heap.entry? a key)
  | .push r v => T.next ((T.registers[r]?.bind fun a =>
      T.registers[v]?.map fun b => T.heap.push a b).getD T.heap) none
  | .insert r key v => T.next ((T.registers[r]?.bind fun a =>
      T.registers[v]?.map fun b => T.heap.insert a key b).getD T.heap) none
  | .clear r => T.next ((T.registers[r]?.map T.heap.clear).getD T.heap) none

/-- The calls of a client that begins with nothing. -/
def run (ops : List Operation) : TracedSession := ops.foldl step {}

/-- A handle that is held in a register or stored in a container. -/
def Holds (T : TracedSession) (a : Traced) : Prop :=
  a ∈ T.registers ∨ ∃ (p : Nat) (c : TracedCell), T.heap.cells[p]? = some c ∧ a ∈ c.handles

end TracedSession

/-! ## Runs with descent are runs -/

namespace TracedCell

theorem handles_erase (c : TracedCell) : c.erase.handles = c.handles.map Traced.handle := by
  cases c with
  | array xs => rfl
  | object es =>
    show (Keyed.mapValues Traced.handle es).map (·.2) = _
    rw [Keyed.mapValues, List.map_map]
    show _ = (es.map (·.2)).map Traced.handle
    rw [List.map_map]
    rfl

end TracedCell

namespace TracedHeap

theorem getElem?_erase (H : TracedHeap) (p : Nat) :
    H.erase.cells[p]? = (H.cells[p]?).map TracedCell.erase := Array.getElem?_map

theorem size_erase (H : TracedHeap) : H.erase.cells.size = H.cells.size := Array.size_map

theorem erase_pushCell (H : TracedHeap) (c : TracedCell) :
    erase ⟨H.cells.push c⟩ = ⟨H.erase.cells.push c.erase⟩ :=
  congrArg Heap.mk Array.map_push

theorem erase_modify (H : TracedHeap) (p : Nat) {f : TracedCell → TracedCell} {g : Cell → Cell}
    (h : ∀ c : TracedCell, (f c).erase = g c.erase) :
    erase ⟨H.cells.modify p f⟩ = ⟨H.erase.cells.modify p g⟩ := by
  refine congrArg Heap.mk (Array.ext_getElem? fun q => ?_)
  rw [Array.getElem?_map, Array.getElem?_modify, Array.getElem?_modify, getElem?_erase]
  split
  · rw [Option.map_map, Option.map_map]
    exact congrArg (fun k => (H.cells[q]?).map k) (funext h)
  · rfl

theorem erase_push (H : TracedHeap) (a b : Traced) :
    (H.push a b).erase = (H.erase.push a.handle b.handle).2 := by
  unfold push Heap.push
  cases a.handle with
  | array p =>
    refine erase_modify H p fun c => ?_
    cases c with
    | array xs => exact congrArg Cell.array (List.map_append ..)
    | object es => rfl
  | _ => rfl

theorem erase_insert (H : TracedHeap) (a : Traced) (key : String) (b : Traced) :
    (H.insert a key b).erase = (H.erase.insert a.handle key b.handle).2 := by
  unfold insert Heap.insert
  cases a.handle with
  | object p =>
    refine erase_modify H p fun c => ?_
    cases c with
    | array xs => rfl
    | object es => exact congrArg Cell.object (Keyed.mapValues_insert Traced.handle es key b)
  | _ => rfl

theorem erase_clear (H : TracedHeap) (a : Traced) :
    (H.clear a).erase = H.erase.clear a.handle := by
  unfold clear Heap.clear
  cases a.handle.place? with
  | none => rfl
  | some p =>
    refine erase_modify H p fun c => ?_
    cases c <;> rfl

theorem erase_item? (H : TracedHeap) (a : Traced) (index : Nat) :
    (H.item? a index).map Traced.handle = H.erase.item? a.handle index := by
  unfold item? Heap.item?
  cases a.handle with
  | array p =>
    show ((H.itemsAt p)[index]?).map Traced.handle = (H.erase.itemsAt p)[index]?
    have hitems : H.erase.itemsAt p = (H.itemsAt p).map Traced.handle := by
      rw [Heap.itemsAt, itemsAt, getElem?_erase]
      cases H.cells[p]? with
      | none => rfl
      | some c => cases c <;> rfl
    rw [hitems, List.getElem?_map]
  | _ => rfl

theorem erase_entry? (H : TracedHeap) (a : Traced) (key : String) :
    (H.entry? a key).map Traced.handle = H.erase.entry? a.handle key := by
  unfold entry? Heap.entry?
  cases a.handle with
  | object p =>
    show ((H.entriesAt p).get? key).map Traced.handle = (H.erase.entriesAt p).get? key
    have hentries : H.erase.entriesAt p = Keyed.mapValues Traced.handle (H.entriesAt p) := by
      rw [Heap.entriesAt, entriesAt, getElem?_erase]
      cases H.cells[p]? with
      | none => rfl
      | some c => cases c <;> rfl
    rw [hentries, Keyed.get?_mapValues]
  | _ => rfl

mutual

theorem erase_ofJson (H : TracedHeap) (call : Nat) (position : List Nat) : ∀ v : Json,
    ((H.ofJson call position v).1.handle, (H.ofJson call position v).2.erase) = H.erase.ofJson v
  | .null | .bool _ | .number _ | .string _ => rfl
  | .array xs => by
    rw [ofJson, Heap.ofJson, ← erase_ofItems H call position 0 xs]
    dsimp only
    rw [size_erase, erase_pushCell]
    rfl
  | .object es => by
    rw [ofJson, Heap.ofJson, ← erase_ofJsonEntries H call position 0 es]
    dsimp only
    rw [size_erase, erase_pushCell, ← Keyed.mapValues_ofEntries]
    rfl

theorem erase_ofItems (H : TracedHeap) (call : Nat) (position : List Nat) (n : Nat) :
    ∀ xs : List Json, ((H.ofItems call position n xs).1.map Traced.handle,
      (H.ofItems call position n xs).2.erase) = H.erase.ofItems xs
  | [] => rfl
  | x :: xs => by
    rw [ofItems, Heap.ofItems, ← erase_ofJson H call (n :: position) x,
      ← erase_ofItems _ call position (n + 1) xs]
    rfl

theorem erase_ofJsonEntries (H : TracedHeap) (call : Nat) (position : List Nat) (n : Nat) :
    ∀ es : List (String × Json),
      (Keyed.mapValues Traced.handle (H.ofJsonEntries call position n es).1,
        (H.ofJsonEntries call position n es).2.erase) = H.erase.ofJsonEntries es
  | [] => rfl
  | (key, x) :: es => by
    rw [ofJsonEntries, Heap.ofJsonEntries, ← erase_ofJson H call (n :: position) x,
      ← erase_ofJsonEntries _ call position (n + 1) es]
    rfl

end

end TracedHeap

namespace TracedSession

theorem erase_next (T : TracedSession) (H : TracedHeap) (kept : Option Traced) :
    (T.next H kept).erase =
      Session.keep? { T.erase with heap := H.erase } (kept.map Traced.handle) := by
  unfold next erase
  rw [List.map_append]
  cases kept with
  | none => exact congrArg (Session.mk H.erase) (List.append_nil _)
  | some a => rfl

theorem getElem?_registers_erase (T : TracedSession) (r : Nat) :
    T.erase.registers[r]? = (T.registers[r]?).map Traced.handle := List.getElem?_map ..

/-- **One call does what it does without descent.** -/
theorem erase_step (T : TracedSession) (op : Operation) : (T.step op).erase = T.erase.step op := by
  cases op with
  | newArray =>
    rw [step, erase_next, TracedHeap.erase_pushCell, ← TracedHeap.size_erase]
    rfl
  | newObject =>
    rw [step, erase_next, TracedHeap.erase_pushCell, ← TracedHeap.size_erase]
    rfl
  | foreign label =>
    rw [step, erase_next]
    rfl
  | copy v =>
    rw [step, erase_next]
    show _ = Session.keep { T.erase with heap := (T.heap.erase.ofJson v).2 }
      (T.heap.erase.ofJson v).1
    rw [← TracedHeap.erase_ofJson T.heap T.calls [] v]
    rfl
  | duplicate r =>
    rw [step, erase_next, Session.step, getElem?_registers_erase]
    rfl
  | item r index =>
    rw [step, erase_next, Session.step, getElem?_registers_erase]
    cases T.registers[r]? with
    | none => rfl
    | some a => exact congrArg (Session.keep? T.erase) (TracedHeap.erase_item? T.heap a index)
  | entry r key =>
    rw [step, erase_next, Session.step, getElem?_registers_erase]
    cases T.registers[r]? with
    | none => rfl
    | some a => exact congrArg (Session.keep? T.erase) (TracedHeap.erase_entry? T.heap a key)
  | push r v =>
    rw [step, erase_next, Session.step, getElem?_registers_erase, getElem?_registers_erase]
    cases T.registers[r]? with
    | none => rfl
    | some a =>
      cases T.registers[v]? with
      | none => rfl
      | some b => exact congrArg (Session.mk · _) (TracedHeap.erase_push T.heap a b)
  | insert r key v =>
    rw [step, erase_next, Session.step, getElem?_registers_erase, getElem?_registers_erase]
    cases T.registers[r]? with
    | none => rfl
    | some a =>
      cases T.registers[v]? with
      | none => rfl
      | some b => exact congrArg (Session.mk · _) (TracedHeap.erase_insert T.heap a key b)
  | clear r =>
    rw [step, erase_next, Session.step, getElem?_registers_erase]
    cases T.registers[r]? with
    | none => rfl
    | some a => exact congrArg (Session.mk · _) (TracedHeap.erase_clear T.heap a)

/-- **A run with descent is the run**, once the origins are left out. -/
theorem erase_run (ops : List Operation) : (run ops).erase = Session.run ops := by
  have haux : ∀ (ops : List Operation) (T : TracedSession),
      (ops.foldl step T).erase = ops.foldl Session.step T.erase := by
    intro ops
    induction ops with
    | nil => intro T; rfl
    | cons op ops ih =>
      intro T
      rw [List.foldl_cons, ih, erase_step, List.foldl_cons]
  have hempty : erase {} = {} := congrArg (Session.mk · []) (congrArg Heap.mk Array.map_empty)
  rw [run, haux, hempty, Session.run]

end TracedSession

/-! ## Every handle has the origin of its place -/

/-- A call makes a container for the node at a position: for a new array or object there is one
    node, and in a copied value there is one for each container. -/
inductive Operation.Makes : Operation → List Nat → Prop where
  | newArray : Makes .newArray []
  | newObject : Makes .newObject []
  | items {v : Json} {node : List Nat} {xs : List Json}
      (h : partAt? Json.look v node = some (.array xs)) : Makes (.copy v) node
  | entries {v : Json} {node : List Nat} {es : List (String × Json)}
      (h : partAt? Json.look v node = some (.object es)) : Makes (.copy v) node

/-- The handle has the origin that is listed for its place; a scalar has neither. -/
def Names (origins : List Origin) (a : Traced) : Prop :=
  a.handle.place?.map (fun p => origins[p]?) = a.origin.map some

/-- More containers do not take an origin away. -/
theorem Names.append {origins : List Origin} {a : Traced} (h : Names origins a)
    (new : List Origin) : Names (origins ++ new) a := by
  obtain ⟨r, o⟩ := a
  unfold Names at *
  cases hp : r.place? with
  | none =>
    rw [hp] at h
    exact h
  | some p =>
    rw [hp] at h
    cases o with
    | none => cases h
    | some o =>
      have hold : origins[p]? = some o := Option.some.inj h
      have hlt := (List.getElem?_eq_some_iff.mp hold).1
      show some (origins ++ new)[p]? = some (some o)
      rw [List.getElem?_append_left hlt, hold]

/-- **Handles of one place have one origin, and the other way round**, if no origin is listed
    twice. -/
theorem Names.place_iff_origin {origins : List Origin} (hdistinct : origins.Nodup) {a b : Traced}
    (ha : Names origins a) (hb : Names origins b) :
    (∃ p, a.handle.place? = some p ∧ b.handle.place? = some p) ↔
      ∃ o, a.origin = some o ∧ b.origin = some o := by
  unfold Names at ha hb
  constructor
  · rintro ⟨p, hap, hbp⟩
    rw [hap] at ha
    rw [hbp] at hb
    obtain ⟨o, hao, ho⟩ := Option.map_eq_some_iff.mp ha.symm
    obtain ⟨o', hbo, ho'⟩ := Option.map_eq_some_iff.mp hb.symm
    have heq : o = o' := Option.some.inj (ho.trans ho'.symm)
    exact ⟨o, hao, heq ▸ hbo⟩
  · rintro ⟨o, hao, hbo⟩
    rw [hao] at ha
    rw [hbo] at hb
    obtain ⟨p, hap, hp⟩ := Option.map_eq_some_iff.mp ha
    obtain ⟨q, hbq, hq⟩ := Option.map_eq_some_iff.mp hb
    obtain ⟨hlt, _⟩ := List.getElem?_eq_some_iff.mp hp
    have heq : p = q := (List.getElem?_inj hlt hdistinct).mp (hp.trans hq.symm)
    exact ⟨p, hap, heq ▸ hbq⟩

namespace TracedHeap

/-- Each container has an origin in this list, and the handles inside have those of their
    places. -/
structure Named (H : TracedHeap) (origins : List Origin) : Prop where
  places : origins.length = H.cells.size
  stored : ∀ (p : Nat) (c : TracedCell), H.cells[p]? = some c → ∀ a ∈ c.handles, Names origins a

variable {H : TracedHeap} {origins : List Origin}

/-- The origin of a new container goes to the end. -/
theorem Named.pushCell (hH : H.Named origins) {c : TracedCell}
    (hc : ∀ a ∈ c.handles, Names origins a) (o : Origin) :
    Named ⟨H.cells.push c⟩ (origins ++ [o]) := by
  constructor
  · rw [List.length_append, hH.places, Array.size_push]
    rfl
  · intro p d hd a ha
    change (H.cells.push c)[p]? = some d at hd
    rw [Array.getElem?_push] at hd
    split at hd
    · cases hd
      exact (hc a ha).append [o]
    · exact (hH.stored p d hd a ha).append [o]

theorem Named.names_array (hH : H.Named origins) (o : Origin) :
    Names (origins ++ [o]) ⟨.array H.cells.size, some o⟩ := by
  show some (origins ++ [o])[H.cells.size]? = some (some o)
  rw [← hH.places, List.getElem?_concat_length]

theorem Named.names_object (hH : H.Named origins) (o : Origin) :
    Names (origins ++ [o]) ⟨.object H.cells.size, some o⟩ := hH.names_array o

theorem Named.modify (hH : H.Named origins) (p : Nat) {f : TracedCell → TracedCell}
    (hf : ∀ c : TracedCell, (∀ a ∈ c.handles, Names origins a) →
      ∀ a ∈ (f c).handles, Names origins a) : Named ⟨H.cells.modify p f⟩ origins := by
  constructor
  · exact hH.places.trans Array.size_modify.symm
  · intro q d hd a ha
    change (H.cells.modify p f)[q]? = some d at hd
    rw [Array.getElem?_modify] at hd
    split at hd
    · obtain ⟨c, hc, rfl⟩ := Option.map_eq_some_iff.mp hd
      exact hf c (hH.stored q c hc) a ha
    · exact hH.stored q d hd a ha

theorem Named.push (hH : H.Named origins) (a : Traced) {b : Traced} (hb : Names origins b) :
    (H.push a b).Named origins := by
  unfold TracedHeap.push
  cases a.handle with
  | array p =>
    refine hH.modify p fun c hold x hx => ?_
    cases c with
    | array xs =>
      rcases List.mem_append.mp hx with hx | hx
      · exact hold x hx
      · rw [List.mem_singleton.mp hx]
        exact hb
    | object es => exact hold x hx
  | _ => exact hH

theorem Named.insert (hH : H.Named origins) (a : Traced) (key : String) {b : Traced}
    (hb : Names origins b) : (H.insert a key b).Named origins := by
  unfold TracedHeap.insert
  cases a.handle with
  | object p =>
    refine hH.modify p fun c hold x hx => ?_
    cases c with
    | array xs => exact hold x hx
    | object es =>
      obtain ⟨e, he, rfl⟩ := List.mem_map.mp hx
      rcases Keyed.mem_of_mem_insert he with he | rfl
      · exact hold _ (List.mem_map_of_mem he)
      · exact hb
  | _ => exact hH

theorem Named.clear (hH : H.Named origins) (a : Traced) : (H.clear a).Named origins := by
  unfold TracedHeap.clear
  cases a.handle.place? with
  | none => exact hH
  | some p =>
    refine hH.modify p fun c _ x hx => ?_
    cases c <;> exact absurd hx List.not_mem_nil

theorem Named.item? (hH : H.Named origins) {a b : Traced} {index : Nat}
    (hb : H.item? a index = some b) : Names origins b := by
  unfold TracedHeap.item? at hb
  cases ha : a.handle with
  | array p =>
    rw [ha] at hb
    have hmem : b ∈ H.itemsAt p := List.mem_of_getElem? hb
    unfold itemsAt at hmem
    split at hmem
    · next xs hp => exact hH.stored p _ hp b hmem
    · exact absurd hmem List.not_mem_nil
  | _ =>
    rw [ha] at hb
    cases hb

theorem Named.entry? (hH : H.Named origins) {a b : Traced} {key : String}
    (hb : H.entry? a key = some b) : Names origins b := by
  unfold TracedHeap.entry? at hb
  cases ha : a.handle with
  | object p =>
    rw [ha] at hb
    have hmem : (key, b) ∈ H.entriesAt p := Keyed.mem_of_get? hb
    unfold entriesAt at hmem
    split at hmem
    · next es hp => exact hH.stored p _ hp b (List.mem_map_of_mem hmem)
    · exact absurd hmem List.not_mem_nil
  | _ =>
    rw [ha] at hb
    cases hb

/-! ## The origins of a copy -/

/-- The origins of new containers: they differ, and are those of nodes of the value that the call
    copies, all of them inside the part that is meant. -/
structure Copies (v : Json) (call : Nat) (inside : List Nat → Prop) (new : List Origin) : Prop where
  distinct : new.Nodup
  made : ∀ o ∈ new, o.call = call ∧ (Operation.copy v).Makes o.node ∧ inside o.node

theorem copies_nil (v : Json) (call : Nat) (inside : List Nat → Prop) : Copies v call inside [] :=
  ⟨List.nodup_nil, fun _ ho => absurd ho List.not_mem_nil⟩

variable {v : Json} {call : Nat} {inside inside' : List Nat → Prop} {new new' : List Origin}

/-- Two parts that do not meet. -/
theorem Copies.append {whole : List Nat → Prop} (h : Copies v call inside new)
    (h' : Copies v call inside' new') (hapart : ∀ node, inside node → ¬ inside' node)
    (hwhole : ∀ node, inside node ∨ inside' node → whole node) :
    Copies v call whole (new ++ new') := by
  constructor
  · refine List.nodup_append.mpr ⟨h.distinct, h'.distinct, ?_⟩
    rintro o ho _ ho' rfl
    exact hapart o.node (h.made o ho).2.2 (h'.made o ho').2.2
  · intro o ho
    rcases List.mem_append.mp ho with ho | ho
    · obtain ⟨hcall, hmakes, hin⟩ := h.made o ho
      exact ⟨hcall, hmakes, hwhole _ (Or.inl hin)⟩
    · obtain ⟨hcall, hmakes, hin⟩ := h'.made o ho
      exact ⟨hcall, hmakes, hwhole _ (Or.inr hin)⟩

theorem copies_single {node : List Nat} (hmakes : (Operation.copy v).Makes node)
    (hin : inside node) : Copies v call inside [⟨call, node⟩] := by
  constructor
  · exact List.pairwise_singleton _ _
  · intro o ho
    rw [List.mem_singleton.mp ho]
    exact ⟨rfl, hmakes, hin⟩

/-- The nodes at a position and below. -/
def Below (position node : List Nat) : Prop := position <:+ node

/-- The nodes of the parts of a container at a position, from the `n`-th part on. -/
def BelowFrom (n : Nat) (position node : List Nat) : Prop := ∃ j, n ≤ j ∧ j :: position <:+ node

theorem BelowFrom.below {n : Nat} {position node : List Nat} (h : BelowFrom n position node) :
    Below position node := by
  obtain ⟨j, _, hj⟩ := h
  exact (List.suffix_cons j position).trans hj

/-- Parts of one container have no node in common. -/
theorem not_belowFrom {n : Nat} {position node : List Nat} (h : Below (n :: position) node) :
    ¬ BelowFrom (n + 1) position node := by
  rintro ⟨j, hj, hnode⟩
  obtain ⟨before, rfl⟩ := h
  obtain ⟨before', hbefore⟩ := hnode
  have hlength : before'.length = before.length := by
    have := congrArg List.length hbefore
    simp only [List.length_append, List.length_cons] at this
    omega
  have heq := (List.append_inj hbefore hlength).2
  have hjn : j = n := (List.cons.inj heq).1
  omega

/-- A container is not among its parts. -/
theorem not_belowFrom_self {n : Nat} {position : List Nat} : ¬ BelowFrom n position position := by
  rintro ⟨j, _, hj⟩
  have := hj.length_le
  simp only [List.length_cons] at this
  omega

/-- The parts of a container, from one part on. -/
theorem Copies.cons {n : Nat} {position : List Nat} (h : Copies v call (Below (n :: position)) new)
    (h' : Copies v call (BelowFrom (n + 1) position) new') :
    Copies v call (BelowFrom n position) (new ++ new') := by
  refine h.append h' (fun _ => not_belowFrom) ?_
  rintro node (hnode | ⟨j, hj, hnode⟩)
  · exact ⟨n, Nat.le_refl n, hnode⟩
  · exact ⟨j, by omega, hnode⟩

/-- A container after its parts. -/
theorem Copies.close {position : List Nat} (h : Copies v call (BelowFrom 0 position) new)
    (hmakes : (Operation.copy v).Makes position) :
    Copies v call (Below position) (new ++ [⟨call, position⟩]) := by
  have hself : Copies v call (· = position) [⟨call, position⟩] := copies_single hmakes rfl
  refine h.append hself ?_ ?_
  · rintro _ hnode rfl
    exact not_belowFrom_self hnode
  · rintro node (hnode | rfl)
    · exact hnode.below
    · exact List.suffix_refl _

mutual

/-- **A copy makes a container for each one in the value**, and its handle has the origin of its
    place. -/
theorem origins_ofJson {H : TracedHeap} {origins : List Origin} (hH : H.Named origins)
    (call : Nat) (position : List Nat) : ∀ x : Json, partAt? Json.look v position = some x →
    ∃ new, Copies v call (Below position) new ∧
      (H.ofJson call position x).2.Named (origins ++ new) ∧
      Names (origins ++ new) (H.ofJson call position x).1
  | .null, _ | .bool _, _ | .number _, _ | .string _, _ => by
    refine ⟨[], copies_nil v call _, ?_, rfl⟩
    rw [List.append_nil]
    exact hH
  | .array xs, hx => by
    have hparts : ∀ i y, xs[i]? = some y →
        partAt? Json.look v ((0 + i) :: position) = some y := by
      intro i y hy
      rw [partAt?, hx, Nat.zero_add]
      show (Layer.array none xs).parts[i]? = some y
      rw [Layer.parts_array, hy]
    obtain ⟨new, hnew, hnamed, hitems⟩ := origins_ofItems hH call position 0 xs hparts
    refine ⟨_, hnew.close (.items hx), ?_⟩
    rw [ofJson, ← List.append_assoc]
    exact ⟨hnamed.pushCell (c := .array _) hitems _, hnamed.names_array _⟩
  | .object es, hx => by
    have hparts : ∀ i (e : String × Json), es[i]? = some e →
        partAt? Json.look v ((0 + i) :: position) = some e.2 := by
      intro i e he
      rw [partAt?, hx, Nat.zero_add]
      show (Layer.object none es).parts[i]? = some e.2
      rw [Layer.parts_object, List.getElem?_map, he]
      rfl
    obtain ⟨new, hnew, hnamed, hentries⟩ := origins_ofJsonEntries hH call position 0 es hparts
    refine ⟨_, hnew.close (.entries hx), ?_⟩
    rw [ofJson, ← List.append_assoc]
    refine ⟨hnamed.pushCell ?_ _, hnamed.names_object _⟩
    intro a ha
    obtain ⟨e, he, rfl⟩ := List.mem_map.mp ha
    exact hentries e (Keyed.mem_of_mem_ofEntries he)

theorem origins_ofItems {H : TracedHeap} {origins : List Origin} (hH : H.Named origins)
    (call : Nat) (position : List Nat) (n : Nat) : ∀ xs : List Json,
    (∀ i x, xs[i]? = some x → partAt? Json.look v ((n + i) :: position) = some x) →
    ∃ new, Copies v call (BelowFrom n position) new ∧
      (H.ofItems call position n xs).2.Named (origins ++ new) ∧
      ∀ a ∈ (H.ofItems call position n xs).1, Names (origins ++ new) a
  | [], _ => by
    refine ⟨[], copies_nil v call _, ?_, fun a ha => absurd ha List.not_mem_nil⟩
    rw [List.append_nil]
    exact hH
  | x :: xs, hx => by
    have htail : ∀ i y, xs[i]? = some y →
        partAt? Json.look v ((n + 1 + i) :: position) = some y := by
      intro i y hy
      rw [Nat.add_assoc, Nat.add_comm 1 i]
      exact hx (i + 1) y hy
    obtain ⟨new, hnew, hnamed, hitem⟩ := origins_ofJson hH call (n :: position) x (hx 0 x rfl)
    obtain ⟨new', hnew', hnamed', hitems⟩ := origins_ofItems hnamed call position (n + 1) xs htail
    refine ⟨_, hnew.cons hnew', ?_⟩
    rw [ofItems, ← List.append_assoc]
    refine ⟨hnamed', ?_⟩
    intro a ha
    rcases List.mem_cons.mp ha with rfl | ha
    · exact hitem.append new'
    · exact hitems a ha

theorem origins_ofJsonEntries {H : TracedHeap} {origins : List Origin} (hH : H.Named origins)
    (call : Nat) (position : List Nat) (n : Nat) : ∀ es : List (String × Json),
    (∀ i (e : String × Json), es[i]? = some e →
      partAt? Json.look v ((n + i) :: position) = some e.2) →
    ∃ new, Copies v call (BelowFrom n position) new ∧
      (H.ofJsonEntries call position n es).2.Named (origins ++ new) ∧
      ∀ e ∈ (H.ofJsonEntries call position n es).1, Names (origins ++ new) e.2
  | [], _ => by
    refine ⟨[], copies_nil v call _, ?_, fun a ha => absurd ha List.not_mem_nil⟩
    rw [List.append_nil]
    exact hH
  | (key, x) :: es, hx => by
    have htail : ∀ i (e : String × Json), es[i]? = some e →
        partAt? Json.look v ((n + 1 + i) :: position) = some e.2 := by
      intro i e he
      rw [Nat.add_assoc, Nat.add_comm 1 i]
      exact hx (i + 1) e he
    obtain ⟨new, hnew, hnamed, hentry⟩ := origins_ofJson hH call (n :: position) x (hx 0 _ rfl)
    obtain ⟨new', hnew', hnamed', hentries⟩ :=
      origins_ofJsonEntries hnamed call position (n + 1) es htail
    refine ⟨_, hnew.cons hnew', ?_⟩
    rw [ofJsonEntries, ← List.append_assoc]
    refine ⟨hnamed', ?_⟩
    intro e he
    rcases List.mem_cons.mp he with rfl | he
    · exact hentry.append new'
    · exact hentries e he

end

end TracedHeap

/-! ## Every run -/

namespace TracedSession

/-- After these calls, the containers have origins that differ, each of which a call has made, and
    handles have the origins of their places. -/
structure Follows (T : TracedSession) (ops : List Operation) (origins : List Origin) : Prop where
  calls : T.calls = ops.length
  distinct : origins.Nodup
  made : ∀ o ∈ origins, ∃ op, ops[o.call]? = some op ∧ op.Makes o.node
  named : T.heap.Named origins
  held : ∀ a ∈ T.registers, Names origins a

/-- A call that makes containers at these origins, none or more. -/
theorem Follows.next {T : TracedSession} {ops : List Operation} {origins : List Origin}
    (hT : T.Follows ops origins) {op : Operation} {new : List Origin} (hnew : new.Nodup)
    (hmade : ∀ o ∈ new, o.call = T.calls ∧ op.Makes o.node) {H : TracedHeap}
    (hH : H.Named (origins ++ new)) {kept : Option Traced}
    (hkept : ∀ a, kept = some a → Names (origins ++ new) a) :
    (T.next H kept).Follows (ops ++ [op]) (origins ++ new) where
  calls := by
    rw [List.length_append, ← hT.calls]
    rfl
  distinct := by
    refine List.nodup_append.mpr ⟨hT.distinct, hnew, ?_⟩
    rintro o ho _ ho' rfl
    -- the calls before are numbered below the one now
    obtain ⟨_, hop, _⟩ := hT.made o ho
    have hlt := (List.getElem?_eq_some_iff.mp hop).1
    have hcall := (hmade o ho').1
    have hcalls := hT.calls
    omega
  made := by
    intro o ho
    rcases List.mem_append.mp ho with ho | ho
    · obtain ⟨old, hold, hmakes⟩ := hT.made o ho
      have hlt := (List.getElem?_eq_some_iff.mp hold).1
      exact ⟨old, by rw [List.getElem?_append_left hlt, hold], hmakes⟩
    · obtain ⟨hcall, hmakes⟩ := hmade o ho
      exact ⟨op, by rw [hcall, hT.calls, List.getElem?_concat_length], hmakes⟩
  named := hH
  held := by
    intro a ha
    rcases List.mem_append.mp ha with ha | ha
    · exact (hT.held a ha).append new
    · exact hkept a (Option.mem_toList.mp ha)

/-- A call that makes no container. -/
theorem Follows.stay {T : TracedSession} {ops : List Operation} {origins : List Origin}
    (hT : T.Follows ops origins) (op : Operation) {H : TracedHeap} (hH : H.Named origins)
    {kept : Option Traced} (hkept : ∀ a, kept = some a → Names origins a) :
    ∃ origins', (T.next H kept).Follows (ops ++ [op]) origins' := by
  refine ⟨origins ++ [], hT.next List.nodup_nil (fun _ ho => absurd ho List.not_mem_nil) ?_ ?_⟩
  · rw [List.append_nil]
    exact hH
  · rw [List.append_nil]
    exact hkept

/-- **One call keeps origins and places in step.** -/
theorem Follows.step {T : TracedSession} {ops : List Operation} {origins : List Origin}
    (hT : T.Follows ops origins) (op : Operation) :
    ∃ origins', (T.step op).Follows (ops ++ [op]) origins' := by
  have hregister : ∀ {r : Nat} {a : Traced}, T.registers[r]? = some a → Names origins a :=
    fun ha => hT.held _ (List.mem_of_getElem? ha)
  have hone : ∀ {op : Operation}, op.Makes [] →
      ∀ o ∈ [(⟨T.calls, []⟩ : Origin)], o.call = T.calls ∧ op.Makes o.node := by
    intro op hmakes o ho
    rw [List.mem_singleton.mp ho]
    exact ⟨rfl, hmakes⟩
  have hempty : ∀ a ∈ ([] : List Traced), Names origins a := fun _ ha => absurd ha List.not_mem_nil
  cases op with
  | newArray =>
    refine ⟨_, hT.next (List.pairwise_singleton _ _) (hone .newArray)
      (hT.named.pushCell (c := .array []) hempty _) ?_⟩
    rintro _ ⟨⟩
    exact hT.named.names_array _
  | newObject =>
    refine ⟨_, hT.next (List.pairwise_singleton _ _) (hone .newObject)
      (hT.named.pushCell (c := .object []) hempty _) ?_⟩
    rintro _ ⟨⟩
    exact hT.named.names_object _
  | foreign label =>
    refine hT.stay _ hT.named ?_
    rintro _ ⟨⟩
    rfl
  | copy v =>
    obtain ⟨new, hnew, hnamed, hroot⟩ :=
      TracedHeap.origins_ofJson hT.named T.calls [] v rfl
    refine ⟨_, hT.next hnew.distinct
      (fun o ho => ⟨(hnew.made o ho).1, (hnew.made o ho).2.1⟩) hnamed ?_⟩
    rintro _ ⟨⟩
    exact hroot
  | duplicate r => exact hT.stay _ hT.named fun a ha => hregister ha
  | item r index =>
    refine hT.stay _ hT.named ?_
    intro b hb
    obtain ⟨a, _, hab⟩ := Option.bind_eq_some_iff.mp hb
    exact hT.named.item? hab
  | entry r key =>
    refine hT.stay _ hT.named ?_
    intro b hb
    obtain ⟨a, _, hab⟩ := Option.bind_eq_some_iff.mp hb
    exact hT.named.entry? hab
  | push r v =>
    refine hT.stay _ ?_ (fun _ ha => by cases ha)
    cases T.registers[r]? with
    | none => exact hT.named
    | some a =>
      cases hb : T.registers[v]? with
      | none => exact hT.named
      | some b => exact hT.named.push a (hregister hb)
  | insert r key v =>
    refine hT.stay _ ?_ (fun _ ha => by cases ha)
    cases T.registers[r]? with
    | none => exact hT.named
    | some a =>
      cases hb : T.registers[v]? with
      | none => exact hT.named
      | some b => exact hT.named.insert a key (hregister hb)
  | clear r =>
    refine hT.stay _ ?_ (fun _ ha => by cases ha)
    cases T.registers[r]? with
    | none => exact hT.named
    | some a => exact hT.named.clear a

theorem exists_follows (ops : List Operation) : ∃ origins, (run ops).Follows ops origins := by
  induction ops using List.reverseRecOn with
  | nil =>
    refine ⟨[], rfl, List.nodup_nil, fun _ ho => absurd ho List.not_mem_nil, ⟨rfl, ?_⟩,
      fun _ ha => absurd ha List.not_mem_nil⟩
    intro p c hc
    cases hc
  | append_singleton ops op ih =>
    obtain ⟨origins, hfollows⟩ := ih
    have hrun : run (ops ++ [op]) = (run ops).step op := List.foldl_append
    rw [hrun]
    exact hfollows.step op

theorem Follows.names {T : TracedSession} {ops : List Operation} {origins : List Origin}
    (hT : T.Follows ops origins) {a : Traced} (ha : T.Holds a) : Names origins a := by
  rcases ha with ha | ⟨p, c, hc, ha⟩
  · exact hT.held a ha
  · exact hT.named.stored p c hc a ha

/-- Handles that are held refer to a container of their own sort. -/
theorem Holds.refers {ops : List Operation} {a : Traced} (ha : (run ops).Holds a) :
    (Session.run ops).heap.Refers a.handle := by
  have hsound := Session.sound_run ops
  rw [← erase_run] at hsound ⊢
  rcases ha with ha | ⟨p, c, hc, ha⟩
  · exact hsound.refers _ (List.mem_map_of_mem ha)
  · refine hsound.closed p c.erase ?_ _ ?_
    · show (run ops).heap.erase.cells[p]? = _
      rw [TracedHeap.getElem?_erase, hc]
      rfl
    · rw [TracedCell.handles_erase]
      exact List.mem_map_of_mem ha

end TracedSession

/-- Comparing containers sort by sort is comparing identities, for handles that refer: no place is
    that of an array and of an object. -/
theorem Heap.sameContainer_iff {h : Heap} {a b : Handle} (ha : h.Refers a) (hb : h.Refers b) :
    a.sameContainer b = true ↔ ∃ p, a.place? = some p ∧ b.place? = some p := by
  have hsorts : ∀ {p q : Nat}, h.Refers (.array p) → h.Refers (.object q) → p ≠ q := by
    rintro p q ⟨xs, hxs⟩ ⟨es, hes⟩ rfl
    cases hxs.symm.trans hes
  constructor
  · intro hsame
    cases a with
    | array p =>
      cases b with
      | array q => exact ⟨p, rfl, congrArg some (of_decide_eq_true hsame).symm⟩
      | _ => cases hsame
    | object p =>
      cases b with
      | object q => exact ⟨p, rfl, congrArg some (of_decide_eq_true hsame).symm⟩
      | _ => cases hsame
    | _ => cases hsame
  · rintro ⟨p, hap, hbp⟩
    cases a with
    | array q =>
      cases hap
      cases b with
      | array r =>
        cases hbp
        exact decide_eq_true rfl
      | object r =>
        cases hbp
        exact absurd rfl (hsorts ha hb)
      | _ => cases hbp
    | object q =>
      cases hap
      cases b with
      | array r =>
        cases hbp
        exact absurd rfl (hsorts hb ha)
      | object r =>
        cases hbp
        exact decide_eq_true rfl
      | _ => cases hbp
    | _ => cases hap

/-- **Handles neither dangle nor get confused.**  After every run each handle, held or stored,
    refers to a container of its own sort, and no object sets a key twice.  The origins of handles
    are calls of the run that make containers; and of any two handles, to be the same container, to
    have one identity and to descend from one call and node are the same. -/
theorem descent_run (ops : List Operation) :
    (Session.run ops).Sound ∧ (Session.run ops).heap.WellKeyed ∧
      (TracedSession.run ops).erase = Session.run ops ∧
      (∀ a o, (TracedSession.run ops).Holds a → a.origin = some o →
        ∃ op, ops[o.call]? = some op ∧ op.Makes o.node) ∧
      ∀ a b, (TracedSession.run ops).Holds a → (TracedSession.run ops).Holds b →
        (a.handle.sameContainer b.handle = true ↔
          ∃ p, a.handle.place? = some p ∧ b.handle.place? = some p) ∧
        ((∃ p, a.handle.place? = some p ∧ b.handle.place? = some p) ↔
          ∃ o, a.origin = some o ∧ b.origin = some o) := by
  obtain ⟨origins, hfollows⟩ := TracedSession.exists_follows ops
  refine ⟨Session.sound_run ops, Session.wellKeyed_run ops, TracedSession.erase_run ops, ?_, ?_⟩
  · intro a o ha ho
    have hnames := hfollows.names ha
    unfold Names at hnames
    rw [ho] at hnames
    obtain ⟨p, _, hp⟩ := Option.map_eq_some_iff.mp hnames
    exact hfollows.made o (List.mem_of_getElem? hp)
  · intro a b ha hb
    constructor
    · exact Heap.sameContainer_iff ha.refers hb.refers
    · exact (hfollows.names ha).place_iff_origin hfollows.distinct (hfollows.names hb)

-- two lists in a copied list, one of them taken out by way of an object that holds the copy
example :
    (TracedSession.run [.newObject, .copy (.array [.array [], .array []]), .insert 0 "it" 1,
      .item 1 0, .entry 0 "it", .item 3 0, .item 3 1]).registers.map Traced.origin =
      [some ⟨0, []⟩, some ⟨1, []⟩, some ⟨1, [0]⟩, some ⟨1, []⟩, some ⟨1, [0]⟩, some ⟨1, [1]⟩] := rfl

end SampleSchema
