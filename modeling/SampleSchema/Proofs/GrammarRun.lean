/-
  The grammar comes to its end.

  The machine that tells the parts of documents is given a number of moves in advance.  It never
  needs them all (`runs_partsOf`), so what it tells is what it would tell if it were not bounded: up
  to the end of what is expected, to the end of the tokens, or to a token that is refused (`Runs`).

  A move either passes a token or not, and moves of the second kind could go on for ever.  They do
  not, since every frame has a weight (`Frame.weight`), and a token is worth six:

  1. **Every move lowers what is left** (`move_lowers`): a frame that is replaced without a token
     being passed weighs more than those that come in its place, and a token outweighs the frames
     that come for it.

  2. The one trouble is the closing bracket.  Before it, the frame of an item is one that takes it,
     before any other token it is one that makes room for an item.  So the frame on top is weighed
     with the next token in view (`Frame.weightBefore`).
-/
import SampleSchema.Proofs.Steps
import SampleSchema.Yaml.Grammar

namespace SampleSchema
namespace Yaml

/-- How many moves a frame can make, and those that come in its place, while no token is passed. -/
@[simp]
def Frame.weight : Frame → Nat
  | .document isFirst => if isFirst then 4 else 1
  | .directives .. | .items _ | .keys _ => 0
  | .content | .documentEnd | .pairValue | .flowValue _ | .flowNoValue _ => 2
  | .node w _ => if w = .entry then 2 else 1
  | .optionalNode w .. => if w = .entry then 3 else 2
  | .looseItems | .value _ | .pairEnd => 1
  | .flowItems _ isFirst => if isFirst then 4 else 1
  | .flowItem _ => 3
  | .pairKey | .flowKey _ => 4
  | .flowKeys _ isFirst => if isFirst then 5 else 1

/-- The same with the next token in view. -/
@[simp]
def Frame.weightBefore (t : TokenKind) : Frame → Nat
  | .flowItem start => if t = .flowSequenceEnd then 0 else (Frame.flowItem start).weight
  | .flowKey start => if t = .flowMappingEnd then 0 else (Frame.flowKey start).weight
  | f => f.weight

theorem Frame.weightBefore_le (t : TokenKind) (f : Frame) : f.weightBefore t ≤ f.weight := by
  unfold weightBefore
  split
  · split
    · exact Nat.zero_le _
    · exact Nat.le_refl _
  · split
    · exact Nat.zero_le _
    · exact Nat.le_refl _
  · exact Nat.le_refl _

namespace Grammar

/-- What the machine tells from this state on if nothing stops it; `fault` comes after the
    tokens. -/
inductive Runs (fault : Option Fault) :
    List (String × String) → List Frame → List Token → Feed Part → Prop
  /-- Nothing more is expected. -/
  | finished {handles : List (String × String)} {tokens : List Token} :
      Runs fault handles [] tokens ⟨[], none⟩
  /-- More is expected, but there are no tokens. -/
  | starved {handles : List (String × String)} {f : Frame} {stack : List Frame} :
      Runs fault handles (f :: stack) [] ⟨[], fault⟩
  | refused {handles : List (String × String)} {f : Frame} {stack : List Frame} {t : Token}
      {tokens : List Token} {e : Fault} (h : move handles f t = .error e) :
      Runs fault handles (f :: stack) (t :: tokens) ⟨[], some e⟩
  | silent {handles : List (String × String)} {f : Frame} {stack : List Frame} {t : Token}
      {tokens : List Token} {m : Move} {feed : Feed Part} (h : move handles f t = .ok m)
      (none : m.part = none)
      (rest : Runs fault (m.handles.getD handles) (m.frames ++ stack)
        (if m.takes then tokens else t :: tokens) feed) :
      Runs fault handles (f :: stack) (t :: tokens) feed
  | told {handles : List (String × String)} {f : Frame} {stack : List Frame} {t : Token}
      {tokens : List Token} {m : Move} {p : Part} {feed : Feed Part}
      (h : move handles f t = .ok m) (part : m.part = some p)
      (rest : Runs fault (m.handles.getD handles) (m.frames ++ stack)
        (if m.takes then tokens else t :: tokens) feed) :
      Runs fault handles (f :: stack) (t :: tokens) (feed.cons p)

/-! ## Weights -/

/-- The weight of a stack. -/
@[simp]
def load : List Frame → Nat
  | [] => 0
  | f :: stack => f.weight + load stack

/-- The weight of a stack with the next token in view. -/
@[simp]
def loadBefore (t : TokenKind) : List Frame → Nat
  | [] => 0
  | f :: stack => f.weightBefore t + load stack

theorem loadBefore_le (t : TokenKind) : ∀ stack, loadBefore t stack ≤ load stack
  | [] => Nat.le_refl 0
  | f :: stack => Nat.add_le_add_right (f.weightBefore_le t) (load stack)

theorem load_append (frames stack : List Frame) :
    load (frames ++ stack) = load frames + load stack := by
  induction frames with
  | nil => exact (Nat.zero_add _).symm
  | cons f frames ih => rw [List.cons_append, load, load, ih, Nat.add_assoc]

theorem loadBefore_append (t : TokenKind) (frames stack : List Frame) :
    loadBefore t (frames ++ stack) ≤ loadBefore t frames + load stack := by
  cases frames with
  | nil =>
    rw [List.nil_append, loadBefore, Nat.zero_add]
    exact loadBefore_le t stack
  | cons f frames =>
    refine Nat.le_of_eq ?_
    rw [List.cons_append, loadBefore, loadBefore, load_append, Nat.add_assoc]

/-- What is left: the weight of the stack, and six for every token. -/
def potential : List Frame → List Token → Nat
  | stack, [] => load stack
  | stack, t :: tokens => loadBefore t.kind stack + 6 * (tokens.length + 1)

/-- What a move leaves of the weight of a frame and of the token before it. -/
@[simp]
def left (m : Move) (t : TokenKind) : Nat :=
  if m.takes then load m.frames else loadBefore t m.frames + 6

/-! ## One move -/

section Moves

variable {handles : List (String × String)} {t : Token} {m : Move}

theorem document_lowers (isFirst : Bool) :
    left (document isFirst t) t.kind < (Frame.document isFirst).weight + 6 := by
  unfold document
  split
  · simp
  · split <;> simp [*]
  · split
    · cases isFirst <;> simp_all
    · cases isFirst <;> simp

theorem directives_lowers {version : Bool} {known : List (String × String)}
    (h : directives version known t = .ok m) : left m t.kind < 6 := by
  unfold directives at h
  split at h
  · split at h
    · cases h
    · split at h
      · cases h; simp
      · cases h
  · split at h
    · cases h
    · cases h; simp
  · cases h; simp
  · cases h

theorem nodeContent_lowers {w : Surroundings} {p : Prelude}
    (h : nodeContent handles w p t = .ok m) : left m t.kind < (Frame.node w p).weight + 6 := by
  have habsent : ∀ props : Properties, ∀ mark : Mark,
      left { frames := [], part := some ⟨.scalar props .plain "", mark⟩ } t.kind <
        (Frame.node w p).weight + 6 := by
    intro props mark
    by_cases hw : w = .entry <;> simp [hw]
  obtain ⟨tag, _, h⟩ := bind_eq_ok_iff.mp h
  dsimp only at h
  split at h
  · cases h; simp
  · cases h; simp
  · cases h; simp
  · split at h
    · split at h
      · cases h; exact habsent _ _
      · cases h
    · cases h; simp
  · split at h
    · split at h
      · cases h; exact habsent _ _
      · cases h
    · cases h; simp
  · split at h
    · next hw => cases h; simp [hw]
    · split at h
      · cases h; exact habsent _ _
      · cases h
  · split at h
    · cases h; exact habsent _ _
    · cases h

theorem node_lowers {w : Surroundings} {p : Prelude} (h : node handles w p t = .ok m) :
    left m t.kind < (Frame.node w p).weight + 6 := by
  unfold node at h
  split at h
  · cases h; simp
  · cases h; simp
  · cases h; simp
  · exact nodeContent_lowers h

theorem items_lowers {start : Mark} (h : items start t = .ok m) : left m t.kind < 6 := by
  unfold items at h
  split at h
  · cases h; simp
  · cases h; simp
  · cases h

theorem keys_lowers {start : Mark} (h : keys start t = .ok m) : left m t.kind < 6 := by
  unfold keys at h
  split at h
  · cases h; simp
  · cases h; simp
  · cases h

theorem flowItems_lowers {start : Mark} {isFirst : Bool} (h : flowItems start isFirst t = .ok m) :
    left m t.kind < (Frame.flowItems start isFirst).weight + 6 := by
  unfold flowItems at h
  split at h
  · next hnext =>
    cases h
    cases isFirst with
    | true => simp; split <;> decide
    | false =>
      have hend : t.kind = .flowSequenceEnd := by simpa using hnext
      simp [hend]
  · split at h
    · cases h; simp
    · cases h

theorem flowKeys_lowers {start : Mark} {isFirst : Bool} (h : flowKeys start isFirst t = .ok m) :
    left m t.kind < (Frame.flowKeys start isFirst).weight + 6 := by
  unfold flowKeys at h
  split at h
  · next hnext =>
    cases h
    cases isFirst with
    | true => simp; split <;> decide
    | false =>
      have hend : t.kind = .flowMappingEnd := by simpa using hnext
      simp [hend]
  · split at h
    · cases h; simp
    · cases h

/-- **A move lowers what is left.** -/
theorem move_lowers {f : Frame} (h : move handles f t = .ok m) :
    left m t.kind < f.weightBefore t.kind + 6 := by
  cases f with
  | document isFirst => cases h; exact document_lowers isFirst
  | directives version known => exact directives_lowers h
  | content => cases h; unfold content; split <;> simp
  | documentEnd =>
    cases h
    unfold documentEnd
    by_cases hend : t.kind = .documentEnd <;> simp [hend]
  | node w p => exact node_lowers h
  | optionalNode w stops place =>
    cases h
    unfold optionalNode
    by_cases hw : w = .entry <;> split <;> simp [hw]
  | items start => exact items_lowers h
  | looseItems => cases h; unfold looseItems; split <;> simp
  | keys start => exact keys_lowers h
  | value start => cases h; unfold value; split <;> simp
  | flowItems start isFirst => exact flowItems_lowers h
  | flowItem start =>
    cases h
    unfold flowItem
    split
    · next hkind => simp [hkind]
    · next hkind => simp [hkind]
    · next hend _ => simp [show ¬ t.kind = _ from hend]
  | pairKey => cases h; unfold pairKey; split <;> simp
  | pairValue => cases h; unfold pairValue; split <;> simp
  | pairEnd => cases h; simp
  | flowKeys start isFirst => exact flowKeys_lowers h
  | flowKey start =>
    cases h
    unfold flowKey
    split
    · next hkind => simp [hkind]
    · next hkind => simp [hkind]
    · next hend _ => simp [show ¬ t.kind = _ from hend]
  | flowValue start => cases h; unfold flowValue; split <;> simp
  | flowNoValue start => cases h; simp

end Moves

/-! ## All moves -/

/-- A move lowers the potential of the whole stack. -/
theorem potential_lt {handles : List (String × String)} {f : Frame} {stack : List Frame}
    {t : Token} {tokens : List Token} {m : Move} (h : move handles f t = .ok m) :
    potential (m.frames ++ stack) (if m.takes then tokens else t :: tokens) <
      potential (f :: stack) (t :: tokens) := by
  have hlower := move_lowers h
  show _ < f.weightBefore t.kind + load stack + 6 * (tokens.length + 1)
  unfold left at hlower
  cases htakes : m.takes with
  | false =>
    rw [htakes, if_neg Bool.false_ne_true] at hlower
    rw [if_neg Bool.false_ne_true]
    show loadBefore t.kind (m.frames ++ stack) + 6 * (tokens.length + 1) < _
    have hbelow := loadBefore_append t.kind m.frames stack
    omega
  | true =>
    rw [htakes, if_pos rfl] at hlower
    rw [if_pos rfl]
    have hsum := load_append m.frames stack
    cases tokens with
    | nil =>
      show load (m.frames ++ stack) < _
      omega
    | cons u tokens =>
      show loadBefore u.kind (m.frames ++ stack) + 6 * (tokens.length + 1) < _
      have hnext := loadBefore_le u.kind (m.frames ++ stack)
      rw [List.length_cons]
      omega

/-- **With as many moves as there are left, the machine comes to its end.** -/
theorem runs_parts (fault : Option Fault) : ∀ (fuel : Nat) (handles : List (String × String))
    (stack : List Frame) (tokens : List Token), potential stack tokens < fuel →
      Runs fault handles stack tokens (parts fault fuel handles stack tokens) := by
  intro fuel
  induction fuel with
  | zero => intro handles stack tokens h; exact absurd h (Nat.not_lt_zero _)
  | succ fuel ih =>
    intro handles stack tokens h
    cases stack with
    | nil => exact .finished
    | cons f stack =>
      cases tokens with
      | nil => exact .starved
      | cons t tokens =>
        rw [parts]
        cases hmove : move handles f t with
        | error e => exact .refused hmove
        | ok m =>
          have hrest := ih (m.handles.getD handles) (m.frames ++ stack)
            (if m.takes then tokens else t :: tokens)
            (Nat.lt_of_lt_of_le (potential_lt hmove) (Nat.le_of_lt_succ h))
          dsimp only
          cases hpart : m.part with
          | none => exact .silent hmove hpart hrest
          | some p => exact .told hmove hpart hrest

/-- There is one way for the machine to run. -/
theorem Runs.unique {fault : Option Fault} {handles : List (String × String)}
    {stack : List Frame} {tokens : List Token} {feed feed' : Feed Part}
    (h : Runs fault handles stack tokens feed) (h' : Runs fault handles stack tokens feed') :
    feed = feed' := by
  induction h generalizing feed' with
  | finished => cases h'; rfl
  | starved => cases h'; rfl
  | refused h =>
    cases h' with
    | refused h' => cases h.symm.trans h'; rfl
    | silent h' => cases h.symm.trans h'
    | told h' => cases h.symm.trans h'
  | silent h hpart _ ih =>
    cases h' with
    | refused h' => cases h.symm.trans h'
    | silent h' _ rest => cases h.symm.trans h'; exact ih rest
    | told h' hpart' => cases h.symm.trans h'; cases hpart.symm.trans hpart'
  | told h hpart _ ih =>
    cases h' with
    | refused h' => cases h.symm.trans h'
    | silent h' hpart' => cases h.symm.trans h'; cases hpart.symm.trans hpart'
    | told h' hpart' rest =>
      cases h.symm.trans h'
      cases hpart.symm.trans hpart'
      exact congrArg (Feed.cons _) (ih rest)

end Grammar

/-- **The parts of all tokens** are told to the end, and they are the only ones that can be told. -/
theorem runs_partsOf (tokens : Feed Token) (feed : Feed Part) :
    Grammar.Runs tokens.fault [] [.document true] tokens.items feed ↔ partsOf tokens = feed := by
  have henough : Grammar.potential [.document true] tokens.items <
      Grammar.moves tokens.items.length := by
    unfold Grammar.moves
    cases tokens.items with
    | nil => decide
    | cons t rest =>
      show 4 + 0 + 6 * (rest.length + 1) < 10 * (rest.length + 1) + 20
      omega
  have hruns := Grammar.runs_parts tokens.fault _ [] _ _ henough
  constructor
  · exact fun h => hruns.unique h
  · rintro rfl
    exact hruns

end Yaml
end SampleSchema
