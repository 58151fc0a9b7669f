/-
  JSON values as trees.

  Three things that proofs about JSON values share:

  * `Json.induction`, induction with the hypotheses for the parts of a container by membership;
  * `Json.WellKeyed`, no object inside sets a key twice, which every value that was read or built
    entry by entry has and which the type of values does not ask for;
  * `Json.nesting`, how deep containers nest, told by the parts (`nesting_array_le`,
    `nesting_object_le`).
-/
import SampleSchema.Json.Basic
import SampleSchema.Proofs.KeyedMap

namespace SampleSchema
namespace Json

/-- Induction over values, with the hypotheses for the parts of a container by membership. -/
@[elab_as_elim, induction_eliminator]
theorem induction {motive : Json → Prop}
    (null : motive .null) (bool : ∀ b, motive (.bool b)) (number : ∀ n, motive (.number n))
    (string : ∀ s, motive (.string s))
    (array : ∀ items, (∀ v ∈ items, motive v) → motive (.array items))
    (object : ∀ entries, (∀ e ∈ entries, motive e.2) → motive (.object entries)) :
    ∀ v, motive v
  | .null => null
  | .bool b => bool b
  | .number n => number n
  | .string s => string s
  | .array items => array items fun v hv =>
    have := List.sizeOf_lt_of_mem hv
    induction null bool number string array object v
  | .object entries => object entries fun e he =>
    have := List.sizeOf_lt_of_mem he
    have : sizeOf e.2 < sizeOf e := by
      obtain ⟨key, v⟩ := e
      show sizeOf v < 1 + sizeOf key + sizeOf v
      omega
    induction null bool number string array object e.2

/-! ## Different keys -/

/-- No object inside the value sets a key twice. -/
inductive WellKeyed : Json → Prop where
  | null : WellKeyed .null
  | bool (b : Bool) : WellKeyed (.bool b)
  | number (n : Number) : WellKeyed (.number n)
  | string (s : String) : WellKeyed (.string s)
  | array {xs : List Json} (items : ∀ x ∈ xs, WellKeyed x) : WellKeyed (.array xs)
  | object {es : List (String × Json)} (distinct : Keyed.Distinct es)
      (entries : ∀ e ∈ es, WellKeyed e.2) : WellKeyed (.object es)

/-! ## Nesting -/

mutual

/-- How deep containers nest: a scalar counts zero, and a container one more than its parts. -/
def nesting : Json → Nat
  | null | bool _ | number _ | string _ => 0
  | array xs => 1 + itemNesting xs
  | object es => 1 + entryNesting es

/-- The deepest nesting among items. -/
def itemNesting : List Json → Nat
  | [] => 0
  | x :: xs => max (nesting x) (itemNesting xs)

/-- The deepest nesting among entries. -/
def entryNesting : List (String × Json) → Nat
  | [] => 0
  | (_, x) :: es => max (nesting x) (entryNesting es)

end

theorem itemNesting_le {xs : List Json} {n : Nat} :
    itemNesting xs ≤ n ↔ ∀ x ∈ xs, x.nesting ≤ n := by
  induction xs with
  | nil => exact ⟨fun _ x hx => absurd hx List.not_mem_nil, fun _ => Nat.zero_le n⟩
  | cons x xs ih => rw [itemNesting, Nat.max_le, ih, List.forall_mem_cons]

theorem entryNesting_le {es : List (String × Json)} {n : Nat} :
    entryNesting es ≤ n ↔ ∀ e ∈ es, e.2.nesting ≤ n := by
  induction es with
  | nil => exact ⟨fun _ e he => absurd he List.not_mem_nil, fun _ => Nat.zero_le n⟩
  | cons e es ih => rw [entryNesting, Nat.max_le, ih, List.forall_mem_cons]

/-- An array takes one level, and its items fit into those that are left. -/
theorem nesting_array_le {xs : List Json} {n : Nat} :
    (array xs).nesting ≤ n + 1 ↔ ∀ x ∈ xs, x.nesting ≤ n := by
  rw [nesting, ← itemNesting_le]
  omega

/-- An object takes one level, and its entries fit into those that are left. -/
theorem nesting_object_le {es : List (String × Json)} {n : Nat} :
    (object es).nesting ≤ n + 1 ↔ ∀ e ∈ es, e.2.nesting ≤ n := by
  rw [nesting, ← entryNesting_le]
  omega

/-- There is no room for a container without a level. -/
theorem nesting_array_pos (xs : List Json) : 0 < (array xs).nesting := by
  rw [nesting]
  omega

theorem nesting_object_pos (es : List (String × Json)) : 0 < (object es).nesting := by
  rw [nesting]
  omega

end Json
end SampleSchema
