/-
  What inference looks at.

  A sample is anything that can be looked at one layer at a time: `look` says of a value what it is,
  and for a container also which container it is and what it holds.  Two values with the same
  identity are the same container; a container may also have none, and then it is never recognised.
  A view `σ → Layer σ` need not describe a tree: the values behind it may refer to each other in
  cycles.

  Two views are defined over this.  `Node` is a finite tree whose containers carry identities of the
  caller's choice, repeats included; JSON values become such trees by numbering their containers
  (`Json.numbered`).  Shared containers have a module of their own.
-/
import SampleSchema.Json.Basic

namespace SampleSchema

/-- One layer of a sample: what a value is, with the values that it holds. -/
inductive Layer (σ : Type) where
  | null
  | boolean
  | number (n : Number)
  | string (s : String)
  | array (identity : Option Nat) (items : List σ)
  | object (identity : Option Nat) (entries : List (String × σ))
  /-- A value that has no JSON form. -/
  | foreign

namespace Layer

variable {σ : Type}

/-- Which container this is, if it is one and has an identity. -/
def identity? : Layer σ → Option Nat
  | array i _ | object i _ => i
  | _ => none

/-- The items, for an array. -/
def items : Layer σ → List σ
  | array _ xs => xs
  | _ => []

/-- The entries, for an object. -/
def entries : Layer σ → List (String × σ)
  | object _ es => es
  | _ => []

end Layer

/-- A tree of values whose containers carry chosen identities.  Keys of an object may repeat. -/
inductive Node where
  | null
  | boolean (b : Bool)
  | number (n : Number)
  | string (s : String)
  | array (identity : Option Nat) (items : List Node)
  | object (identity : Option Nat) (entries : List (String × Node))
  | foreign

/-- One layer of a tree. -/
def Node.look : Node → Layer Node
  | null => .null
  | boolean _ => .boolean
  | number n => .number n
  | string s => .string s
  | array i xs => .array i xs
  | object i es => .object i es
  | foreign => .foreign

namespace Json

mutual

/-- Number the containers of a value in the order in which they open, from `n` on; the tree and the
    next unused number. -/
def numberFrom (n : Nat) : Json → Node × Nat
  | null => (.null, n)
  | bool b => (.boolean b, n)
  | number x => (.number x, n)
  | string s => (.string s, n)
  | array xs =>
    let r := numberItems (n + 1) xs
    (.array (some n) r.1, r.2)
  | object es =>
    let r := numberEntries (n + 1) es
    (.object (some n) r.1, r.2)

/-- Number the containers of some items. -/
def numberItems (n : Nat) : List Json → List Node × Nat
  | [] => ([], n)
  | x :: xs =>
    let r := numberFrom n x
    let s := numberItems r.2 xs
    (r.1 :: s.1, s.2)

/-- Number the containers of some entries. -/
def numberEntries (n : Nat) : List (String × Json) → List (String × Node) × Nat
  | [] => ([], n)
  | (k, x) :: es =>
    let r := numberFrom n x
    let s := numberEntries r.2 es
    ((k, r.1) :: s.1, s.2)

end

/-- The value as a tree in which every container has an identity of its own. -/
def numbered (v : Json) : Node := (v.numberFrom 0).1

end Json
end SampleSchema
