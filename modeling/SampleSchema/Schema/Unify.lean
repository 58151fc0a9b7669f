/-
  Sibling schemas become one.

  `unify` is deliberately coarser than a join of the sets of values that the schemas accept.  Only
  the types of the siblings decide (having no type counts as one more type):

  * no sibling at all gives the schema that accepts everything;
  * one type other than object: the first sibling stands for all;
  * objects only: properties and required keys are pooled (`mergeObjects`), where the last sibling
    that has a property decides its schema and the first one decides its place;
  * more than one type: a choice between all the siblings, repeats included.

  The last case is worth an entry in the log; `Disagreement` says when it arises and with which
  counts.
-/
import SampleSchema.Schema.Basic

namespace SampleSchema
namespace Schema

/-- The different types among the siblings, in order of first appearance. -/
def tags (ss : List Schema) : List (Option Kind) :=
  ss.foldl (fun ts s => if s.kind ∈ ts then ts else ts ++ [s.kind]) []

/-- Pool the parts that are present: `none` when every part is absent. -/
def pooled (parts : List (Option (List β))) : Option (List β) :=
  if parts.all (·.isNone) then none else some (parts.filterMap id).flatten

/-- One object schema for many: pooled properties and pooled required keys, and nothing else of the
    siblings. -/
def mergeObjects (ss : List Schema) : Schema :=
  { kind := some .object
    properties := (pooled (ss.map (·.properties))).map Keyed.ofEntries
    required := (pooled (ss.map (·.required))).map firstSeen }

/-- The schema that stands for all the siblings. -/
def unify (ss : List Schema) : Schema :=
  match tags ss with
  | [] => any
  | [some .object] => mergeObjects ss
  | [_] => ss.headD any
  | _ => choice ss

/-- How many siblings could not agree on how many types. -/
structure Disagreement where
  count : Nat
  distinct : Nat
  deriving DecidableEq, Repr

/-- The disagreement among the siblings, if there is one. -/
def disagreement? (ss : List Schema) : Option Disagreement :=
  if 2 ≤ (tags ss).length then some ⟨ss.length, (tags ss).length⟩ else none

end Schema
end SampleSchema
