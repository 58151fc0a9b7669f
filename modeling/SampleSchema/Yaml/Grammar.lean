/-
  From tokens to the parts of documents.

  The grammar is a machine with a stack.  A frame says what is expected next, and the next token
  decides what becomes of the frame on top: which frames replace it, which part is told, and whether
  the token is passed.  A token that no rule admits is a fault.
-/
import SampleSchema.Yaml.Part

namespace SampleSchema
namespace Yaml

/-- Where a node stands. -/
inductive Surroundings where
  /-- In a block. -/
  | block
  /-- At a key or value of a block, where items need no block of their own. -/
  | entry
  /-- Between brackets. -/
  | flow
  deriving DecidableEq, Repr

/-- What has been read of a node before its content. -/
structure Prelude where
  /-- Where the node starts, once something of it has been read. -/
  start : Option Mark := none
  anchor : Option String := none
  tag : Option (TagName × Mark) := none

/-- What is expected next.  A mark is the place where the collection started. -/
inductive Frame where
  /-- A document, which may do without a marker if it is the first one. -/
  | document (isFirst : Bool)
  /-- More directives, or the marker behind them. -/
  | directives (version : Bool) (handles : List (String × String))
  /-- The content of a document behind its marker. -/
  | content
  | documentEnd
  | node (w : Surroundings) (p : Prelude)
  /-- A node, unless one of these tokens comes; then there is none, which is told for this place, or
      for the place of that token. -/
  | optionalNode (w : Surroundings) (stops : List TokenKind) (place : Option Mark)
  /-- Items of a block, and its end. -/
  | items (start : Mark)
  /-- Items without a block of their own. -/
  | looseItems
  /-- Keys of a block, and its end. -/
  | keys (start : Mark)
  | value (start : Mark)
  /-- Items between brackets, and the closing one. -/
  | flowItems (start : Mark) (isFirst : Bool)
  /-- An item, an entry, or the closing bracket. -/
  | flowItem (start : Mark)
  /-- The key of an entry among items. -/
  | pairKey
  | pairValue
  | pairEnd
  /-- Entries between brackets, and the closing one. -/
  | flowKeys (start : Mark) (isFirst : Bool)
  /-- An entry, or the closing bracket. -/
  | flowKey (start : Mark)
  | flowValue (start : Mark)
  /-- No value, the key having stood alone. -/
  | flowNoValue (start : Mark)

/-- What the next token does to the frame on top. -/
structure Move where
  /-- The frames that replace it. -/
  frames : List Frame
  part : Option Part := none
  /-- Is the token passed? -/
  takes : Bool := false
  /-- The handles that are known from now on, if they change. -/
  handles : Option (List (String × String)) := none

namespace Grammar

/-! ## Handles of tags -/

/-- The handles that every document knows. -/
def standardHandles : List (String × String) := [("!", "!"), ("!!", "tag:yaml.org,2002:")]

/-- Add the standard handles that a document does not define itself. -/
def withStandard (handles : List (String × String)) : List (String × String) :=
  handles ++ standardHandles.filter fun h => !handles.any (·.1 == h.1)

/-- What a tag stands for. -/
def resolveTag (handles : List (String × String)) (start : Mark) :
    Option (TagName × Mark) → Except Fault (Option String)
  | none => .ok none
  | some (name, mark) =>
    if name.handle = "" then .ok (some name.text)
    else
      match handles.find? (·.1 == name.handle) with
      | some h => .ok (some (h.2 ++ name.text))
      | none => fail .handleUnknown mark .node start

/-! ## Documents -/

/-- Is it a token that only stands between documents? -/
def isOutside : TokenKind → Bool
  | .version .. | .tagHandle .. | .documentStart | .documentEnd | .streamEnd => true
  | _ => false

/-- A document, or the end of the text. -/
def document (isFirst : Bool) (t : Token) : Move :=
  match t.kind with
  | .streamEnd => { frames := [], part := some ⟨.streamEnd, t.mark⟩, takes := true }
  | .documentEnd =>
    if isFirst then
      { frames := [.node .block {}, .documentEnd], part := some ⟨.documentStart, t.mark⟩
        handles := some (withStandard []) }
    else { frames := [.document false], takes := true }
  | kind =>
    if isFirst && !isOutside kind then
      { frames := [.node .block {}, .documentEnd], part := some ⟨.documentStart, t.mark⟩
        handles := some (withStandard []) }
    else { frames := [.directives false []] }

/-- Directives, and the marker behind them. -/
def directives (version : Bool) (handles : List (String × String)) (t : Token) :
    Except Fault Move :=
  match t.kind with
  | .version major minor =>
    if version then .error ⟨.versionRepeated, t.mark, none⟩
    else if major = 1 ∧ (minor = 1 ∨ minor = 2) then
      .ok { frames := [.directives true handles], takes := true }
    else .error ⟨.versionUnsupported, t.mark, none⟩
  | .tagHandle handle text =>
    if handles.any (·.1 == handle) then .error ⟨.handleRepeated, t.mark, none⟩
    else .ok { frames := [.directives version (handles ++ [(handle, text)])], takes := true }
  | .documentStart =>
    .ok { frames := [.content, .documentEnd], part := some ⟨.documentStart, t.mark⟩, takes := true
          handles := some (withStandard handles) }
  | _ => .error ⟨.documentStartMissing, t.mark, none⟩

/-- The content of a document, which may be missing. -/
def content (t : Token) : Move :=
  if isOutside t.kind then { frames := [], part := some (.absent t.mark) }
  else { frames := [.node .block {}] }

/-- The end of a document, with its marker if there is one. -/
def documentEnd (t : Token) : Move :=
  { frames := [.document false], part := some ⟨.documentEnd, t.mark⟩
    takes := decide (t.kind = .documentEnd), handles := some [] }

/-! ## Nodes -/

/-- The content of a node, its prelude being complete. -/
def nodeContent (handles : List (String × String)) (w : Surroundings) (p : Prelude) (t : Token) :
    Except Fault Move := do
  let start := p.start.getD t.mark
  let tag ← resolveTag handles start p.tag
  let props : Properties := ⟨p.anchor, tag⟩
  let opens (kind : PartKind) (frames : List Frame) : Except Fault Move :=
    .ok { frames := frames, part := some ⟨kind, start⟩, takes := true }
  let absent : Except Fault Move :=
    if p.start.isSome then
      .ok { frames := [], part := some ⟨.scalar props .plain "", start⟩ }
    else fail .nodeMissing t.mark (if w = .flow then .flowNode else .blockNode) start
  match t.kind with
  | .scalar style text =>
    let tag := if tag = some "!" then none else tag
    opens (.scalar { props with tag := tag } style text) []
  | .flowSequenceStart => opens (.sequenceStart props) [.flowItems t.mark true]
  | .flowMappingStart => opens (.mappingStart props) [.flowKeys t.mark true]
  | .blockSequenceStart =>
    if w = .flow then absent else opens (.sequenceStart props) [.items t.mark]
  | .blockMappingStart =>
    if w = .flow then absent else opens (.mappingStart props) [.keys t.mark]
  | .item =>
    if w = .entry then
      .ok { frames := [.looseItems], part := some ⟨.sequenceStart props, start⟩ }
    else absent
  | _ => absent

/-- A node: an alias, or an anchor and a tag in either order, then content. -/
def node (handles : List (String × String)) (w : Surroundings) (p : Prelude) (t : Token) :
    Except Fault Move :=
  match t.kind, p.start, p.anchor, p.tag with
  | .alias name, none, _, _ =>
    .ok { frames := [], part := some ⟨.alias name, t.mark⟩, takes := true }
  | .anchor name, start, none, tag =>
    .ok { frames := [.node w ⟨some (start.getD t.mark), some name, tag⟩], takes := true }
  | .tag name, start, anchor, none =>
    .ok
      { frames := [.node w ⟨some (start.getD t.mark), anchor, some (name, t.mark)⟩], takes := true }
  | _, _, _, _ => nodeContent handles w p t

/-- A node that may be missing. -/
def optionalNode (w : Surroundings) (stops : List TokenKind) (place : Option Mark) (t : Token) :
    Move :=
  if stops.contains t.kind then { frames := [], part := some (.absent (place.getD t.mark)) }
  else { frames := [.node w {}] }

/-! ## Blocks -/

/-- An item of a block, or its end. -/
def items (start : Mark) (t : Token) : Except Fault Move :=
  match t.kind with
  | .item =>
    .ok { frames := [.optionalNode .block [.item, .blockEnd] (some t.mark.right), .items start]
          takes := true }
  | .blockEnd => .ok { frames := [], part := some ⟨.sequenceEnd, t.mark⟩, takes := true }
  | _ => fail .dashMissing t.mark .blockSequence start

/-- An item without a block of its own, or what comes after the last one. -/
def looseItems (t : Token) : Move :=
  match t.kind with
  | .item =>
    { frames := [.optionalNode .block [.item, .key, .value, .blockEnd] (some t.mark.right),
        .looseItems]
      takes := true }
  | _ => { frames := [], part := some ⟨.sequenceEnd, t.mark⟩ }

/-- The tokens before which a key or a value of a block is missing. -/
def entryStops : List TokenKind := [.key, .value, .blockEnd]

/-- A key of a block, or its end. -/
def keys (start : Mark) (t : Token) : Except Fault Move :=
  match t.kind with
  | .key =>
    .ok { frames := [.optionalNode .entry entryStops (some t.mark.right), .value start]
          takes := true }
  | .blockEnd => .ok { frames := [], part := some ⟨.mappingEnd, t.mark⟩, takes := true }
  | _ => fail .keyMissing t.mark .blockMapping start

/-- The value of a key in a block. -/
def value (start : Mark) (t : Token) : Move :=
  match t.kind with
  | .value =>
    { frames := [.optionalNode .entry entryStops (some t.mark.right), .keys start], takes := true }
  | _ => { frames := [.keys start], part := some (.absent t.mark) }

/-! ## Between brackets -/

/-- The comma before an item, or the closing bracket. -/
def flowItems (start : Mark) (isFirst : Bool) (t : Token) : Except Fault Move :=
  if isFirst || t.kind = .flowSequenceEnd then .ok { frames := [.flowItem start] }
  else if t.kind = .comma then .ok { frames := [.flowItem start], takes := true }
  else fail .commaOrBracketMissing t.mark .flowSequence start

/-- An item, an entry, or the closing bracket. -/
def flowItem (start : Mark) (t : Token) : Move :=
  match t.kind with
  | .flowSequenceEnd => { frames := [], part := some ⟨.sequenceEnd, t.mark⟩, takes := true }
  | .key =>
    { frames := [.pairKey, .flowItems start false], part := some ⟨.mappingStart {}, t.mark⟩
      takes := true }
  | _ => { frames := [.node .flow {}, .flowItems start false] }

/-- The key of an entry among items.  The token that stands in place of a key is passed. -/
def pairKey (t : Token) : Move :=
  if [.value, .comma, .flowSequenceEnd].contains t.kind then
    { frames := [.pairValue], part := some (.absent t.mark.right), takes := true }
  else { frames := [.node .flow {}, .pairValue] }

/-- The value of an entry among items. -/
def pairValue (t : Token) : Move :=
  match t.kind with
  | .value =>
    { frames := [.optionalNode .flow [.comma, .flowSequenceEnd] none, .pairEnd], takes := true }
  | _ => { frames := [.pairEnd], part := some (.absent t.mark) }

/-- The comma before an entry, or the closing bracket. -/
def flowKeys (start : Mark) (isFirst : Bool) (t : Token) : Except Fault Move :=
  if isFirst || t.kind = .flowMappingEnd then .ok { frames := [.flowKey start] }
  else if t.kind = .comma then .ok { frames := [.flowKey start], takes := true }
  else fail .commaOrBraceMissing t.mark .flowMapping start

/-- An entry, or the closing bracket. -/
def flowKey (start : Mark) (t : Token) : Move :=
  match t.kind with
  | .flowMappingEnd => { frames := [], part := some ⟨.mappingEnd, t.mark⟩, takes := true }
  | .key =>
    { frames := [.optionalNode .flow [.value, .comma, .flowMappingEnd] none, .flowValue start]
      takes := true }
  | _ => { frames := [.node .flow {}, .flowNoValue start] }

/-- The value of an entry. -/
def flowValue (start : Mark) (t : Token) : Move :=
  match t.kind with
  | .value =>
    { frames := [.optionalNode .flow [.comma, .flowMappingEnd] none, .flowKeys start false]
      takes := true }
  | _ => { frames := [.flowKeys start false], part := some (.absent t.mark) }

/-! ## The machine -/

/-- What a token does to the frame on top. -/
def move (handles : List (String × String)) (f : Frame) (t : Token) : Except Fault Move :=
  match f with
  | .document isFirst => .ok (document isFirst t)
  | .directives version known => directives version known t
  | .content => .ok (content t)
  | .documentEnd => .ok (documentEnd t)
  | .node w p => node handles w p t
  | .optionalNode w stops place => .ok (optionalNode w stops place t)
  | .items start => items start t
  | .looseItems => .ok (looseItems t)
  | .keys start => keys start t
  | .value start => .ok (value start t)
  | .flowItems start isFirst => flowItems start isFirst t
  | .flowItem start => .ok (flowItem start t)
  | .pairKey => .ok (pairKey t)
  | .pairValue => .ok (pairValue t)
  | .pairEnd => .ok { frames := [], part := some ⟨.mappingEnd, t.mark⟩ }
  | .flowKeys start isFirst => flowKeys start isFirst t
  | .flowKey start => .ok (flowKey start t)
  | .flowValue start => .ok (flowValue start t)
  | .flowNoValue start => .ok { frames := [.flowKeys start false], part := some (.absent t.mark) }

/-- Tell the parts from this state on; `fault` comes after the tokens, and `fuel` bounds the number
    of moves. -/
def parts (fault : Option Fault) :
    Nat → List (String × String) → List Frame → List Token → Feed Part
  | 0, _, _, _ => ⟨[], none⟩
  | _ + 1, _, [], _ => ⟨[], none⟩
  | _ + 1, _, _ :: _, [] => ⟨[], fault⟩
  | fuel + 1, handles, f :: stack, t :: tokens =>
    match move handles f t with
    | .error e => ⟨[], some e⟩
    | .ok m =>
      let after := parts fault fuel (m.handles.getD handles) (m.frames ++ stack)
        (if m.takes then tokens else t :: tokens)
      match m.part with
      | none => after
      | some p => after.cons p

/-- More moves than a run over so many tokens takes: a token pays for six of them, and four come
    before the first one. -/
def moves (count : Nat) : Nat := 10 * count + 20

end Grammar

/-- The parts that tokens make up. -/
def partsOf (tokens : Feed Token) : Feed Part :=
  Grammar.parts tokens.fault (Grammar.moves tokens.items.length) [] [.document true] tokens.items

end Yaml
end SampleSchema
