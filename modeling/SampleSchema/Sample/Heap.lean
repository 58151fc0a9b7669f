/-
  Values with shared, changeable containers.

  A heap holds containers; a handle is a scalar or the place of a container.  Copying a handle does
  not copy what it refers to, so one container can stand at several places, inside itself as well.
  Containers are only ever added: a place once given out stays, keeps its sort (array or object),
  and serves as the identity of the container.
-/
import SampleSchema.Sample.Basic
import SampleSchema.Text.Quoted

namespace SampleSchema

/-- A handle: a scalar, or a reference to a container. -/
inductive Handle where
  | null
  | boolean (b : Bool)
  | number (n : Number)
  | string (s : String)
  | array (place : Nat)
  | object (place : Nat)
  /-- A value without JSON form, described by a label. -/
  | foreign (label : String)
  deriving DecidableEq, Repr

/-- What a container holds. -/
inductive Cell where
  | array (items : List Handle)
  | object (entries : Keyed Handle)
  deriving DecidableEq, Repr

/-- The containers, each at its place. -/
structure Heap where
  cells : Array Cell := #[]

namespace Handle

/-- The place of the container, which is its identity. -/
def place? : Handle → Option Nat
  | array p | object p => some p
  | _ => none

/-- Are two handles references to the same container? -/
def sameContainer : Handle → Handle → Bool
  | array p, array q => decide (p = q)
  | object p, object q => decide (p = q)
  | _, _ => false

/-- Are both handles containers of equal identity? -/
def sameIdentity (a b : Handle) : Bool :=
  match a.place?, b.place? with
  | some p, some q => decide (p = q)
  | _, _ => false

end Handle

namespace Heap

/-- The items of the array at a place. -/
def itemsAt (h : Heap) (place : Nat) : List Handle :=
  match h.cells[place]? with
  | some (.array xs) => xs
  | _ => []

/-- The entries of the object at a place. -/
def entriesAt (h : Heap) (place : Nat) : Keyed Handle :=
  match h.cells[place]? with
  | some (.object es) => es
  | _ => []

/-- One layer of the value behind a handle. -/
def look (h : Heap) : Handle → Layer Handle
  | .null => .null
  | .boolean _ => .boolean
  | .number n => .number n
  | .string s => .string s
  | .array p => .array (some p) (h.itemsAt p)
  | .object p => .object (some p) (h.entriesAt p)
  | .foreign _ => .foreign

/-! ## Making and changing containers -/

/-- A new empty array. -/
def newArray (h : Heap) : Handle × Heap := (.array h.cells.size, ⟨h.cells.push (.array [])⟩)

/-- A new empty object. -/
def newObject (h : Heap) : Handle × Heap := (.object h.cells.size, ⟨h.cells.push (.object [])⟩)

/-- Append to an array; `false`, and nothing changes, for anything else. -/
def push (h : Heap) (r v : Handle) : Bool × Heap :=
  match r with
  | .array p => (true, ⟨h.cells.modify p fun
      | .array xs => .array (xs ++ [v])
      | c => c⟩)
  | _ => (false, h)

/-- Set an entry of an object; `false`, and nothing changes, for anything else. -/
def insert (h : Heap) (r : Handle) (key : String) (v : Handle) : Bool × Heap :=
  match r with
  | .object p => (true, ⟨h.cells.modify p fun
      | .object es => .object (es.insert key v)
      | c => c⟩)
  | _ => (false, h)

/-- Empty a container; nothing happens to a scalar. -/
def clear (h : Heap) (r : Handle) : Heap :=
  match r.place? with
  | none => h
  | some p => ⟨h.cells.modify p fun
      | .array _ => .array []
      | .object _ => .object []⟩

mutual

/-- Copy a JSON value into new containers, the contents of a container before the container. -/
def ofJson (h : Heap) : Json → Handle × Heap
  | .null => (.null, h)
  | .bool b => (.boolean b, h)
  | .number n => (.number n, h)
  | .string s => (.string s, h)
  | .array xs =>
    let r := ofItems h xs
    (.array r.2.cells.size, ⟨r.2.cells.push (.array r.1)⟩)
  | .object es =>
    let r := ofJsonEntries h es
    (.object r.2.cells.size, ⟨r.2.cells.push (.object (Keyed.ofEntries r.1))⟩)

/-- Copy items, from left to right. -/
def ofItems (h : Heap) : List Json → List Handle × Heap
  | [] => ([], h)
  | x :: xs =>
    let r := ofJson h x
    let s := ofItems r.2 xs
    (r.1 :: s.1, s.2)

/-- Copy entries, from left to right. -/
def ofJsonEntries (h : Heap) : List (String × Json) → List (String × Handle) × Heap
  | [] => ([], h)
  | (k, x) :: es =>
    let r := ofJson h x
    let s := ofJsonEntries r.2 es
    ((k, r.1) :: s.1, s.2)

end

/-! ## Looking into containers -/

/-- The item of an array at an index. -/
def item? (h : Heap) (r : Handle) (index : Nat) : Option Handle :=
  match r with
  | .array p => (h.itemsAt p)[index]?
  | _ => none

/-- The entry of an object under a key. -/
def entry? (h : Heap) (r : Handle) (key : String) : Option Handle :=
  match r with
  | .object p => (h.entriesAt p).get? key
  | _ => none

/-- A handle in one line.  Containers are summed up and not opened; of one that is being changed
    (`busy`) nothing is said. -/
def summary (h : Heap) (busy : Bool) : Handle → String
  | .null => "Null"
  | .boolean b => "Bool(" ++ (if b then "true" else "false") ++ ")"
  | .number n => "Number(" ++ n.text ++ ")"
  | .string s => "String(" ++ quoted s ++ ")"
  | .array p =>
    if busy then "Array(<borrowed>)" else "Array(len=" ++ toString (h.itemsAt p).length ++ ")"
  | .object p =>
    if busy then "Object(<borrowed>)"
    else "Object(keys=[" ++ ", ".intercalate ((h.entriesAt p).keys.map quoted) ++ "])"
  | .foreign label => "Opaque(" ++ label ++ ")"

end Heap
end SampleSchema
