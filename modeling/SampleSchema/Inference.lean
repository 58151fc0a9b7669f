/-
  Inference: from one sample to the schema that describes it.

  The walk opens containers and threads two things through them: the identities of the containers
  that are open at the moment, and the log.  A container is not opened when it stands at the depth
  limit, which is checked first, or when its identity is among the open ones, which means that it
  was met inside itself; either way its schema is its bare type.  A container without identity is
  never recognised and so always opened above the limit.

  The walk recurses on the room that is left above the limit.  It ends for every view, also for one
  that goes round in cycles and has no identities to show it.
-/
import SampleSchema.Event
import SampleSchema.Format
import SampleSchema.Sample.Basic

namespace SampleSchema
namespace Inference

/-- What the walk carries along: the open containers, innermost first, and the events so far. -/
structure Progress where
  opened : List Nat
  log : List Event

/-- A step of the walk. -/
abbrev Walk := StateM Progress

/-- Add an event to the log. -/
def report (e : Event) : Walk Unit := modify fun p => { p with log := p.log ++ [e] }

/-- Open a container unless it is open already.  Without identity there is nothing to check. -/
def enter (kind : Kind) (identity : Option Nat) (depth : Nat) : Walk Bool := fun p =>
  match identity with
  | none => (true, p)
  | some i =>
    if i ∈ p.opened then (false, { p with log := p.log ++ [.cyclic kind depth] })
    else (true, { p with opened := i :: p.opened })

/-- Close a container. -/
def leave (identity : Option Nat) : Walk Unit := modify fun p =>
  match identity with
  | none => p
  | some i => { p with opened := p.opened.erase i }

/-- Join the schemas of the items of an array, and report it when their types disagree. -/
def joinItems (parts : List Schema) : Walk Schema := fun p =>
  match Schema.disagreement? parts with
  | none => (Schema.unify parts, p)
  | some d => (Schema.unify parts, { p with log := p.log ++ [.disagreed d] })

variable {σ : Type}

/-- The schema of one value at `depth`, with `room` more levels above the limit. -/
def visit (s : Settings) (look : σ → Layer σ) (room depth : Nat) (x : σ) : Walk Schema :=
  match look x with
  | .null => pure (.ofKind .null)
  | .boolean => pure (.ofKind .boolean)
  | .number n => pure (.ofKind (if n.isWhole then .integer else .number))
  | .string t => pure (.text (Format.detect s.formats t))
  | .foreign => pure (.ofKind .string)
  | .array identity items =>
    match room with
    | 0 => do
      report (.tooDeep .array depth s.maxDepth)
      pure (.ofKind .array)
    | room + 1 => do
      if ← enter .array identity depth then
        let parts ← items.mapM (visit s look room (depth + 1))
        leave identity
        return .arrayOf (← joinItems parts)
      else pure (.ofKind .array)
  | .object identity entries =>
    match room with
    | 0 => do
      report (.tooDeep .object depth s.maxDepth)
      pure (.ofKind .object)
    | room + 1 => do
      if ← enter .object identity depth then
        let parts ← entries.mapM fun e => do
          return (e.1, ← visit s look room (depth + 1) e.2)
        leave identity
        return .objectSeen (Keyed.ofEntries parts)
      else pure (.ofKind .object)

/-- The schema of a value that stands at `depth`. -/
def visitAt (s : Settings) (look : σ → Layer σ) (depth : Nat) (x : σ) : Walk Schema :=
  visit s look (s.maxDepth - depth) depth x

end Inference

/-- A schema and the events that arose on the way to it. -/
structure Inferred where
  schema : Schema
  log : List Event

/-- The schema of a sample. -/
def infer {σ : Type} (s : Settings) (look : σ → Layer σ) (x : σ) : Inferred :=
  let (schema, p) := (Inference.visitAt s look 0 x).run ⟨[], []⟩
  ⟨schema, p.log ++ [.inferred schema.kind schema.anyOf.isSome]⟩

/-- The schema of a JSON value. -/
def inferJson (s : Settings) (v : Json) : Inferred := infer s Node.look v.numbered

end SampleSchema
