/-
  Runs over shared containers.

  A client of the heap holds handles and makes calls with them; what a handle reads and what it
  changes depends on all calls before.  `Session` is the state of such a client: the heap and the
  handles it holds, by register.  `Session.step` is one call, `Session.run` any number of them, and
  a statement over every reachable heap is a statement over every list of operations.

  The invariant is `Session.Sound`: every handle, held or stored in a container, refers to an
  existing container of its own sort.  It is carried by one relation between heaps, `Heap.Grows`:
  the later heap is closed under its handles, and whatever a handle referred to is still there.
  Each operation has one lemma that says the heap grows, and growth composes.

  A second invariant concerns the contents alone: no object of a reachable heap sets a key twice
  (`Session.wellKeyed_run`).
-/
import SampleSchema.Proofs.KeyedMap
import SampleSchema.Sample.Heap

namespace SampleSchema

/-! ## Clients and their calls -/

/-- One call of a client.  The handles that it takes are named by their registers; a call that
    yields a handle keeps it in the next register. -/
inductive Operation where
  | newArray
  | newObject
  | foreign (label : String)
  /-- Copy a JSON value, a scalar or a whole tree, into new containers. -/
  | copy (v : Json)
  /-- Copy a handle. -/
  | duplicate (r : Nat)
  | item (r index : Nat)
  | entry (r : Nat) (key : String)
  | push (r v : Nat)
  | insert (r : Nat) (key : String) (v : Nat)
  | clear (r : Nat)

/-- The heap and the handles that a client holds. -/
structure Session where
  heap : Heap := {}
  registers : List Handle := []

namespace Session

/-- Keep a handle in the next register. -/
def keep (S : Session) (r : Handle) : Session := { S with registers := S.registers ++ [r] }

/-- Keep a handle if there is one. -/
def keep? (S : Session) : Option Handle → Session
  | none => S
  | some r => S.keep r

/-- One call.  A call that names a register which does not exist changes nothing. -/
def step (S : Session) : Operation → Session
  | .newArray => ({ S with heap := S.heap.newArray.2 } : Session).keep S.heap.newArray.1
  | .newObject => ({ S with heap := S.heap.newObject.2 } : Session).keep S.heap.newObject.1
  | .foreign label => S.keep (.foreign label)
  | .copy v => ({ S with heap := (S.heap.ofJson v).2 } : Session).keep (S.heap.ofJson v).1
  | .duplicate r => S.keep? S.registers[r]?
  | .item r index => S.keep? (S.registers[r]?.bind fun a => S.heap.item? a index)
  | .entry r key => S.keep? (S.registers[r]?.bind fun a => S.heap.entry? a key)
  | .push r v =>
    match S.registers[r]?, S.registers[v]? with
    | some a, some b => { S with heap := (S.heap.push a b).2 }
    | _, _ => S
  | .insert r key v =>
    match S.registers[r]?, S.registers[v]? with
    | some a, some b => { S with heap := (S.heap.insert a key b).2 }
    | _, _ => S
  | .clear r =>
    match S.registers[r]? with
    | some a => { S with heap := S.heap.clear a }
    | none => S

/-- The calls of a client that begins with nothing. -/
def run (ops : List Operation) : Session := ops.foldl step {}

/-- What holds of nothing and is kept by every call holds after every run. -/
theorem run_induction {motive : Session → Prop} (empty : motive {})
    (step : ∀ S op, motive S → motive (S.step op)) (ops : List Operation) : motive (run ops) := by
  have haux : ∀ (ops : List Operation) (S : Session), motive S →
      motive (ops.foldl Session.step S) := by
    intro ops
    induction ops with
    | nil => intro S hS; exact hS
    | cons op ops ih => intro S hS; exact ih _ (step S op hS)
  exact haux ops {} empty

end Session

/-! ## Handles that refer to something -/

/-- The handles that a container holds. -/
def Cell.handles : Cell → List Handle
  | .array xs => xs
  | .object es => es.map (·.2)

namespace Heap

/-- A container of the handle's own sort stands at its place; a scalar refers to nothing. -/
def Refers (h : Heap) : Handle → Prop
  | .array p => ∃ xs, h.cells[p]? = some (.array xs)
  | .object p => ∃ es, h.cells[p]? = some (.object es)
  | _ => True

/-- Every handle in a container refers. -/
def Closed (h : Heap) : Prop :=
  ∀ (p : Nat) (c : Cell), h.cells[p]? = some c → ∀ r ∈ c.handles, h.Refers r

/-- From `h` to `h'` nothing that a handle refers to gets lost, and `h'` is closed. -/
structure Grows (h h' : Heap) : Prop where
  closed : h'.Closed
  refers : ∀ r, h.Refers r → h'.Refers r

theorem Grows.refl {h : Heap} (hc : h.Closed) : Grows h h := ⟨hc, fun _ hr => hr⟩

theorem Grows.trans {h₁ h₂ h₃ : Heap} (h : Grows h₁ h₂) (h' : Grows h₂ h₃) : Grows h₁ h₃ :=
  ⟨h'.closed, fun r hr => h'.refers r (h.refers r hr)⟩

/-- A place that a handle refers to is a place of the heap. -/
theorem Refers.place_lt {h : Heap} {r : Handle} {p : Nat} (hr : h.Refers r)
    (hp : r.place? = some p) : p < h.cells.size := by
  cases r with
  | array q =>
    cases hp
    obtain ⟨xs, hxs⟩ := hr
    exact (Array.getElem?_eq_some_iff.mp hxs).1
  | object q =>
    cases hp
    obtain ⟨es, hes⟩ := hr
    exact (Array.getElem?_eq_some_iff.mp hes).1
  | _ => cases hp

/-! ## The heap grows with a new container -/

/-- Containers below a new one stand as they stood. -/
theorem getElem?_pushCell {h : Heap} {p : Nat} {c : Cell} (new : Cell)
    (hc : h.cells[p]? = some c) : (h.cells.push new)[p]? = some c := by
  have hlt := (Array.getElem?_eq_some_iff.mp hc).1
  rw [Array.getElem?_push, if_neg (Nat.ne_of_lt hlt)]
  exact hc

theorem refers_pushCell {h : Heap} (c : Cell) {r : Handle} (hr : h.Refers r) :
    Refers ⟨h.cells.push c⟩ r := by
  cases r with
  | array p =>
    obtain ⟨xs, hxs⟩ := hr
    exact ⟨xs, getElem?_pushCell c hxs⟩
  | object p =>
    obtain ⟨es, hes⟩ := hr
    exact ⟨es, getElem?_pushCell c hes⟩
  | _ => trivial

theorem grows_pushCell {h : Heap} (hc : h.Closed) {c : Cell} (hnew : ∀ r ∈ c.handles, h.Refers r) :
    Grows h ⟨h.cells.push c⟩ := by
  refine ⟨?_, fun r hr => refers_pushCell c hr⟩
  intro p d hd r hr
  change (h.cells.push c)[p]? = some d at hd
  rw [Array.getElem?_push] at hd
  split at hd
  · cases hd
    exact refers_pushCell c (hnew r hr)
  · exact refers_pushCell c (hc p d hd r hr)

theorem refers_newArray (h : Heap) (xs : List Handle) :
    Refers ⟨h.cells.push (.array xs)⟩ (.array h.cells.size) :=
  ⟨xs, Array.getElem?_push_size⟩

theorem refers_newObject (h : Heap) (es : Keyed Handle) :
    Refers ⟨h.cells.push (.object es)⟩ (.object h.cells.size) :=
  ⟨es, Array.getElem?_push_size⟩

mutual

/-- Copying a value makes the heap grow, and the copy refers.  Containers come after their contents,
    so the handles in a new container refer before it is there. -/
theorem grows_ofJson {h : Heap} (hc : h.Closed) : ∀ v : Json,
    Grows h (h.ofJson v).2 ∧ (h.ofJson v).2.Refers (h.ofJson v).1
  | .null | .bool _ | .number _ | .string _ => ⟨.refl hc, trivial⟩
  | .array xs => by
    obtain ⟨hgrows, hrefers⟩ := grows_ofItems hc xs
    rw [ofJson]
    exact ⟨hgrows.trans (grows_pushCell hgrows.closed hrefers), refers_newArray _ _⟩
  | .object es => by
    obtain ⟨hgrows, hrefers⟩ := grows_ofJsonEntries hc es
    rw [ofJson]
    refine ⟨hgrows.trans (grows_pushCell hgrows.closed ?_), refers_newObject _ _⟩
    intro r hr
    obtain ⟨e, he, rfl⟩ := List.mem_map.mp hr
    exact hrefers e (Keyed.mem_of_mem_ofEntries he)

theorem grows_ofItems {h : Heap} (hc : h.Closed) : ∀ xs : List Json,
    Grows h (h.ofItems xs).2 ∧ ∀ r ∈ (h.ofItems xs).1, (h.ofItems xs).2.Refers r
  | [] => ⟨.refl hc, fun r hr => absurd hr List.not_mem_nil⟩
  | x :: xs => by
    obtain ⟨hhead, hx⟩ := grows_ofJson hc x
    obtain ⟨htail, hxs⟩ := grows_ofItems hhead.closed xs
    rw [ofItems]
    refine ⟨hhead.trans htail, ?_⟩
    intro r hr
    rcases List.mem_cons.mp hr with rfl | hr
    · exact htail.refers _ hx
    · exact hxs r hr

theorem grows_ofJsonEntries {h : Heap} (hc : h.Closed) : ∀ es : List (String × Json),
    Grows h (h.ofJsonEntries es).2 ∧
      ∀ e ∈ (h.ofJsonEntries es).1, (h.ofJsonEntries es).2.Refers e.2
  | [] => ⟨.refl hc, fun e he => absurd he List.not_mem_nil⟩
  | (key, x) :: es => by
    obtain ⟨hhead, hx⟩ := grows_ofJson hc x
    obtain ⟨htail, hes⟩ := grows_ofJsonEntries hhead.closed es
    rw [ofJsonEntries]
    refine ⟨hhead.trans htail, ?_⟩
    intro e he
    rcases List.mem_cons.mp he with rfl | he
    · exact htail.refers _ hx
    · exact hes e he

end

/-! ## The heap grows when a container changes -/

/-- Both arrays or both objects. -/
def SameSort : Cell → Cell → Prop
  | .array _, .array _ => True
  | .object _, .object _ => True
  | _, _ => False

theorem refers_modify {h : Heap} {p : Nat} {f : Cell → Cell} (hsort : ∀ c, SameSort c (f c))
    {r : Handle} (hr : h.Refers r) : Refers ⟨h.cells.modify p f⟩ r := by
  -- what stands at a place after the change, of the same sort as before
  have hnow : ∀ {q : Nat} {c : Cell}, h.cells[q]? = some c →
      ∃ d, (h.cells.modify p f)[q]? = some d ∧ SameSort c d := by
    intro q c hq
    rw [Array.getElem?_modify, hq]
    split
    · exact ⟨f c, rfl, hsort c⟩
    · refine ⟨c, rfl, ?_⟩
      cases c <;> trivial
  cases r with
  | array q =>
    obtain ⟨xs, hxs⟩ := hr
    obtain ⟨d, hd, hs⟩ := hnow hxs
    cases d with
    | array ys => exact ⟨ys, hd⟩
    | object es => exact hs.elim
  | object q =>
    obtain ⟨es, hes⟩ := hr
    obtain ⟨d, hd, hs⟩ := hnow hes
    cases d with
    | array ys => exact hs.elim
    | object fs => exact ⟨fs, hd⟩
  | _ => trivial

theorem grows_modify {h : Heap} (hc : h.Closed) {p : Nat} {f : Cell → Cell}
    (hsort : ∀ c, SameSort c (f c))
    (hnew : ∀ c, (∀ r ∈ c.handles, h.Refers r) → ∀ r ∈ (f c).handles, h.Refers r) :
    Grows h ⟨h.cells.modify p f⟩ := by
  refine ⟨?_, fun r hr => refers_modify hsort hr⟩
  intro q d hd r hr
  change (h.cells.modify p f)[q]? = some d at hd
  refine refers_modify hsort ?_
  rw [Array.getElem?_modify] at hd
  split at hd
  · obtain ⟨c, hq, rfl⟩ := Option.map_eq_some_iff.mp hd
    exact hnew c (hc q c hq) r hr
  · exact hc q d hd r hr

theorem grows_push {h : Heap} (hc : h.Closed) (a : Handle) {b : Handle} (hb : h.Refers b) :
    Grows h (h.push a b).2 := by
  cases a with
  | array p =>
    refine grows_modify hc ?_ ?_
    · intro c; cases c <;> trivial
    · intro c hold r hr
      cases c with
      | array xs =>
        rcases List.mem_append.mp hr with hr | hr
        · exact hold r hr
        · rw [List.mem_singleton.mp hr]
          exact hb
      | object es => exact hold r hr
  | _ => exact .refl hc

theorem grows_insert {h : Heap} (hc : h.Closed) (a : Handle) (key : String) {b : Handle}
    (hb : h.Refers b) : Grows h (h.insert a key b).2 := by
  cases a with
  | object p =>
    refine grows_modify hc ?_ ?_
    · intro c; cases c <;> trivial
    · intro c hold r hr
      cases c with
      | array xs => exact hold r hr
      | object es =>
        obtain ⟨e, he, rfl⟩ := List.mem_map.mp hr
        rcases Keyed.mem_of_mem_insert he with he | rfl
        · exact hold _ (List.mem_map_of_mem he)
        · exact hb
  | _ => exact .refl hc

theorem grows_clear {h : Heap} (hc : h.Closed) (a : Handle) : Grows h (h.clear a) := by
  unfold clear
  split
  · exact .refl hc
  · refine grows_modify hc ?_ ?_
    · intro c; cases c <;> trivial
    · intro c _ r hr
      cases c <;> exact absurd hr List.not_mem_nil

/-! ## What a container hands out refers -/

theorem refers_of_mem_itemsAt {h : Heap} (hc : h.Closed) {p : Nat} {r : Handle}
    (hr : r ∈ h.itemsAt p) : h.Refers r := by
  unfold itemsAt at hr
  split at hr
  · next xs hp => exact hc p _ hp r hr
  · exact absurd hr List.not_mem_nil

theorem refers_of_mem_entriesAt {h : Heap} (hc : h.Closed) {p : Nat} {e : String × Handle}
    (he : e ∈ h.entriesAt p) : h.Refers e.2 := by
  unfold entriesAt at he
  split at he
  · next es hp => exact hc p _ hp _ (List.mem_map_of_mem he)
  · exact absurd he List.not_mem_nil

theorem refers_of_item? {h : Heap} (hc : h.Closed) {a r : Handle} {index : Nat}
    (hr : h.item? a index = some r) : h.Refers r := by
  cases a with
  | array p => exact refers_of_mem_itemsAt hc (List.mem_of_getElem? hr)
  | _ => cases hr

theorem refers_of_entry? {h : Heap} (hc : h.Closed) {a r : Handle} {key : String}
    (hr : h.entry? a key = some r) : h.Refers r := by
  cases a with
  | object p => exact refers_of_mem_entriesAt hc (Keyed.mem_of_get? hr)
  | _ => cases hr

end Heap

/-! ## Every reachable session is sound -/

/-- Handles refer, those held as well as those stored. -/
structure Session.Sound (S : Session) : Prop where
  closed : S.heap.Closed
  refers : ∀ r ∈ S.registers, S.heap.Refers r

namespace Session

/-- Soundness after the heap has grown. -/
theorem Sound.grow {S : Session} (hS : S.Sound) {h : Heap} (hg : S.heap.Grows h) :
    Sound { S with heap := h } :=
  ⟨hg.closed, fun r hr => hg.refers r (hS.refers r hr)⟩

theorem Sound.keep {S : Session} (hS : S.Sound) {r : Handle} (hr : S.heap.Refers r) :
    (S.keep r).Sound := by
  refine ⟨hS.closed, ?_⟩
  intro q hq
  rcases List.mem_append.mp hq with hq | hq
  · exact hS.refers q hq
  · rw [List.mem_singleton.mp hq]
    exact hr

theorem Sound.keep? {S : Session} (hS : S.Sound) {o : Option Handle}
    (ho : ∀ r, o = some r → S.heap.Refers r) : (S.keep? o).Sound := by
  cases o with
  | none => exact hS
  | some r => exact hS.keep (ho r rfl)

/-- **One call keeps a session sound.** -/
theorem Sound.step {S : Session} (hS : S.Sound) (op : Operation) : (S.step op).Sound := by
  cases op with
  | newArray =>
    have hg := Heap.grows_pushCell hS.closed (c := .array []) fun r hr => absurd hr List.not_mem_nil
    exact (hS.grow hg).keep (Heap.refers_newArray S.heap [])
  | newObject =>
    have hg := Heap.grows_pushCell hS.closed (c := .object [])
      fun r hr => absurd hr List.not_mem_nil
    exact (hS.grow hg).keep (Heap.refers_newObject S.heap [])
  | foreign label => exact hS.keep trivial
  | copy v =>
    obtain ⟨hg, hr⟩ := Heap.grows_ofJson hS.closed v
    exact (hS.grow hg).keep hr
  | duplicate r => exact hS.keep? fun a ha => hS.refers a (List.mem_of_getElem? ha)
  | item r index =>
    refine hS.keep? ?_
    intro b hb
    obtain ⟨a, _, hab⟩ := Option.bind_eq_some_iff.mp hb
    exact Heap.refers_of_item? hS.closed hab
  | entry r key =>
    refine hS.keep? ?_
    intro b hb
    obtain ⟨a, _, hab⟩ := Option.bind_eq_some_iff.mp hb
    exact Heap.refers_of_entry? hS.closed hab
  | push r v =>
    -- only the handle that is put in has to refer; where it goes may be no array at all
    unfold Session.step
    dsimp only
    split
    · next b _ hb =>
      exact hS.grow (Heap.grows_push hS.closed _ (hS.refers _ (List.mem_of_getElem? hb)))
    · exact hS
  | insert r key v =>
    unfold Session.step
    dsimp only
    split
    · next b _ hb =>
      exact hS.grow (Heap.grows_insert hS.closed _ key (hS.refers _ (List.mem_of_getElem? hb)))
    · exact hS
  | clear r =>
    unfold Session.step
    dsimp only
    split
    · exact hS.grow (Heap.grows_clear hS.closed _)
    · exact hS

/-- The session that nothing has happened in. -/
theorem sound_empty : Sound {} := by
  refine ⟨?_, fun r hr => absurd hr List.not_mem_nil⟩
  intro p c hp
  cases hp

/-- **Every run ends sound.** -/
theorem sound_run (ops : List Operation) : (run ops).Sound :=
  run_induction sound_empty (fun _ op hS => hS.step op) ops

end Session

/-! ## Objects keep their keys apart -/

/-- A container does not set a key twice. -/
def Cell.WellKeyed : Cell → Prop
  | .array _ => True
  | .object es => Keyed.Distinct es

namespace Heap

/-- No container sets a key twice. -/
def WellKeyed (h : Heap) : Prop := ∀ (p : Nat) (c : Cell), h.cells[p]? = some c → c.WellKeyed

theorem wellKeyed_pushCell {h : Heap} (hk : h.WellKeyed) {c : Cell} (hc : c.WellKeyed) :
    WellKeyed ⟨h.cells.push c⟩ := by
  intro p d hd
  change (h.cells.push c)[p]? = some d at hd
  rw [Array.getElem?_push] at hd
  split at hd
  · cases hd
    exact hc
  · exact hk p d hd

theorem wellKeyed_modify {h : Heap} (hk : h.WellKeyed) {p : Nat} {f : Cell → Cell}
    (hf : ∀ c : Cell, c.WellKeyed → (f c).WellKeyed) : WellKeyed ⟨h.cells.modify p f⟩ := by
  intro q d hd
  change (h.cells.modify p f)[q]? = some d at hd
  rw [Array.getElem?_modify] at hd
  split at hd
  · obtain ⟨c, hq, rfl⟩ := Option.map_eq_some_iff.mp hd
    exact hf c (hk q c hq)
  · exact hk q d hd

mutual

/-- Copies are built entry by entry. -/
theorem wellKeyed_ofJson {h : Heap} (hk : h.WellKeyed) : ∀ v : Json, (h.ofJson v).2.WellKeyed
  | .null | .bool _ | .number _ | .string _ => hk
  | .array xs => by
    rw [ofJson]
    exact wellKeyed_pushCell (wellKeyed_ofItems hk xs) trivial
  | .object es => by
    rw [ofJson]
    exact wellKeyed_pushCell (wellKeyed_ofJsonEntries hk es) (Keyed.distinct_ofEntries _)

theorem wellKeyed_ofItems {h : Heap} (hk : h.WellKeyed) :
    ∀ xs : List Json, (h.ofItems xs).2.WellKeyed
  | [] => hk
  | x :: xs => by
    rw [ofItems]
    exact wellKeyed_ofItems (wellKeyed_ofJson hk x) xs

theorem wellKeyed_ofJsonEntries {h : Heap} (hk : h.WellKeyed) :
    ∀ es : List (String × Json), (h.ofJsonEntries es).2.WellKeyed
  | [] => hk
  | (_, x) :: es => by
    rw [ofJsonEntries]
    exact wellKeyed_ofJsonEntries (wellKeyed_ofJson hk x) es

end

theorem wellKeyed_push {h : Heap} (hk : h.WellKeyed) (a b : Handle) : (h.push a b).2.WellKeyed := by
  cases a with
  | array p =>
    refine wellKeyed_modify hk ?_
    intro c hc
    cases c with
    | array xs => trivial
    | object es => exact hc
  | _ => exact hk

theorem wellKeyed_insert {h : Heap} (hk : h.WellKeyed) (a : Handle) (key : String) (b : Handle) :
    (h.insert a key b).2.WellKeyed := by
  cases a with
  | object p =>
    refine wellKeyed_modify hk ?_
    intro c hc
    cases c with
    | array xs => trivial
    | object es => exact Keyed.distinct_insert es key b hc
  | _ => exact hk

theorem wellKeyed_clear {h : Heap} (hk : h.WellKeyed) (a : Handle) : (h.clear a).WellKeyed := by
  unfold clear
  split
  · exact hk
  · refine wellKeyed_modify hk ?_
    intro c _
    cases c with
    | array xs => trivial
    | object es => exact List.nodup_nil

/-- The entries that a container hands out have different keys. -/
theorem WellKeyed.distinct_entriesAt {h : Heap} (hk : h.WellKeyed) (p : Nat) :
    Keyed.Distinct (h.entriesAt p) := by
  unfold entriesAt
  split
  · next es hp => exact hk p _ hp
  · exact List.nodup_nil

end Heap

namespace Session

@[simp] theorem heap_keep (S : Session) (r : Handle) : (S.keep r).heap = S.heap := rfl

@[simp] theorem heap_keep? (S : Session) (o : Option Handle) : (S.keep? o).heap = S.heap := by
  cases o <;> rfl

/-- **One call keeps the keys of every object apart.** -/
theorem wellKeyed_step {S : Session} (hS : S.heap.WellKeyed) (op : Operation) :
    (S.step op).heap.WellKeyed := by
  cases op with
  | newArray => exact Heap.wellKeyed_pushCell hS trivial
  | newObject => exact Heap.wellKeyed_pushCell hS List.nodup_nil
  | foreign label => exact hS
  | copy v => exact Heap.wellKeyed_ofJson hS v
  | duplicate r | item r index | entry r key =>
    rw [Session.step, heap_keep?]
    exact hS
  | push r v =>
    unfold Session.step
    dsimp only
    split
    · exact Heap.wellKeyed_push hS _ _
    · exact hS
  | insert r key v =>
    unfold Session.step
    dsimp only
    split
    · exact Heap.wellKeyed_insert hS _ key _
    · exact hS
  | clear r =>
    unfold Session.step
    dsimp only
    split
    · exact Heap.wellKeyed_clear hS _
    · exact hS

theorem wellKeyed_run (ops : List Operation) : (run ops).heap.WellKeyed := by
  refine run_induction (motive := fun S => S.heap.WellKeyed) ?_
    (fun _ op hS => wellKeyed_step hS op) ops
  intro p c hp
  cases hp

end Session
end SampleSchema
