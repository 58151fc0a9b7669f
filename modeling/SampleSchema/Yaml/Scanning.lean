/-
  From a text to its tokens.

  Two things are not visible where they begin.  The start of a block is told by its column alone,
  and its end by a line that stands further left: `indents` are the columns of the blocks that are
  open.  And what looks like a scalar turns out to be a key only when the colon behind it is found:
  per level of brackets one place is remembered at which a key may have begun, and when the colon
  comes, the tokens that should have stood there are put in.  So tokens wait in a queue while the
  place of the first one is remembered.  A key of that kind must end on its line, and within 1024
  characters.
-/
import SampleSchema.Yaml.Block
import SampleSchema.Yaml.Plain
import SampleSchema.Yaml.Property
import SampleSchema.Yaml.Quoted

namespace SampleSchema
namespace Yaml

/-- A place at which a key may have begun. -/
structure KeyStart where
  /-- Is it a fault if no colon follows?  It is where only a key can stand. -/
  isRequired : Bool
  /-- The number of the token there, all tokens of the text being counted. -/
  number : Nat
  mark : Mark
  deriving DecidableEq, Repr

/-- The state of a scan. -/
structure Scan where
  spot : Spot
  /-- The columns of the open blocks, innermost first. -/
  indents : List Nat := []
  /-- Where a key may have begun, on this level of brackets. -/
  key : Option KeyStart := none
  /-- The same for the levels around it, innermost first. -/
  outerKeys : List (Option KeyStart) := []
  /-- May a key begin at the next token? -/
  keyAllowed : Bool := true
  /-- Tokens that wait, in their order. -/
  queue : List Token := []
  /-- How many tokens have left the queue. -/
  handed : Nat := 0

/-- The longest key that is recognised by its colon. -/
def longestKey : Nat := 1024

namespace Scan

variable (s : Scan)

/-- Does the scan stand between brackets? -/
def inFlow : Bool := !s.outerKeys.isEmpty

/-- The first column to the right of the innermost block. -/
def floor : Nat := match s.indents with
  | [] => 0
  | i :: _ => i + 1

/-- The number of the next token. -/
def nextNumber : Nat := s.handed + s.queue.length

/-- Add a token at the end of the queue. -/
def add (kind : TokenKind) (mark : Mark) : Scan := { s with queue := s.queue ++ [⟨kind, mark⟩] }

/-- Put a token before the one with this number. -/
def addAt (number : Nat) (kind : TokenKind) (mark : Mark) : Scan :=
  { s with queue := s.queue.insertIdx (number - s.handed) ⟨kind, mark⟩ }

/-- Add the token of an indicator that is one character long, and pass it. -/
def addIndicator (kind : TokenKind) : Scan := { s.add kind s.spot.mark with spot := s.spot.next }

/-! ## Keys -/

/-- Has the place of a key been left too far behind? -/
def isStale (k : KeyStart) : Bool :=
  decide (k.mark.line < s.spot.mark.line)
  || decide (k.mark.column + longestKey < s.spot.mark.column)

/-- Give up a place: a fault if a key was required there. -/
def giveUp (k : KeyStart) : Except Fault (Option KeyStart) :=
  if k.isRequired then fail .colonMissing s.spot.mark .simpleKey k.mark else .ok none

/-- Give up a place if it is stale. -/
def refreshed : Option KeyStart → Except Fault (Option KeyStart)
  | none => .ok none
  | some k => if s.isStale k then s.giveUp k else .ok (some k)

/-- Give up all places that are stale, the outermost one first. -/
def refresh : Except Fault Scan := do
  let outer ← s.outerKeys.reverse.mapM s.refreshed
  let key ← s.refreshed s.key
  return { s with key := key, outerKeys := outer.reverse }

/-- Give up the place on this level. -/
def dropKey : Except Fault Scan :=
  match s.key with
  | none => .ok s
  | some k => (s.giveUp k).map fun key => { s with key := key }

/-- Remember this place if a key may begin here. -/
def saveKey : Except Fault Scan :=
  if s.keyAllowed then do
    let t ← s.dropKey
    let isRequired := !s.inFlow && decide (s.indents.head? = some s.spot.mark.column)
    return { t with key := some ⟨isRequired, s.nextNumber, s.spot.mark⟩ }
  else .ok s

/-! ## Blocks -/

/-- Close the blocks to the right of a column. -/
def closeBlocks (isRight : Nat → Bool) : Scan :=
  if s.inFlow then s
  else
    let closed := s.indents.takeWhile isRight
    { s with
      indents := s.indents.dropWhile isRight
      queue := s.queue ++ closed.map fun _ => ⟨.blockEnd, s.spot.mark⟩ }

/-- Close the blocks that a token at this column ends. -/
def closeBlocksTo (column : Nat) : Scan := s.closeBlocks fun i => decide (column < i)

/-- Close all blocks. -/
def closeAllBlocks : Scan := s.closeBlocks fun _ => true

/-- Does a token at this column open a block? -/
def opensBlock (column : Nat) : Bool :=
  !s.inFlow && match s.indents with
    | [] => true
    | i :: _ => decide (i < column)

/-- Open a block at this place if that is further right than the innermost one. -/
def openBlock (kind : TokenKind) : Scan :=
  if s.opensBlock s.spot.mark.column then
    { s.add kind s.spot.mark with indents := s.spot.mark.column :: s.indents }
  else s

/-- The same at the place of a key that has been passed. -/
def openBlockAt (k : KeyStart) : Scan :=
  if s.opensBlock k.mark.column then
    { s.addAt k.number .blockMappingStart k.mark with indents := k.mark.column :: s.indents }
  else s

/-! ## The tokens, one by one -/

/-- Pass blanks, comments and line breaks.  Tabs count as blanks where no key may begin.  `fuel` is
    at least the number of characters left. -/
def skipGaps : Nat → Scan → Scan
  | 0, s => s
  | fuel + 1, s =>
    let spot := if s.spot.mark.column = 0 && s.spot.startsWith byteOrderMark then s.spot.next
      else s.spot
    let spot := spot.skip fun c => c = ' ' || ((s.inFlow || !s.keyAllowed) && c = '\t')
    let spot := spot.skipComment
    match spot.rest with
    | [] => { s with spot := spot }
    | c :: _ =>
      if isBreak c then
        skipGaps fuel { s with spot := spot.next, keyAllowed := s.keyAllowed || !s.inFlow }
      else { s with spot := spot }

/-- The end of the text, which counts as the start of a line. -/
def scanEnd : Except Fault Scan := do
  let mark := s.spot.mark
  let s := { s with spot := ⟨if mark.column = 0 then mark else mark.newline, []⟩ }
  let s ← s.closeAllBlocks.dropKey
  return { s with keyAllowed := false }.add .streamEnd s.spot.mark

/-- A directive. -/
def scanDirective : Except Fault Scan := do
  let s ← s.closeAllBlocks.dropKey
  let (kind, after) ← readDirective s.spot
  return { s.add kind s.spot.mark with spot := after, keyAllowed := false }

/-- A marker between documents. -/
def scanBoundary (kind : TokenKind) : Except Fault Scan := do
  let s ← s.closeAllBlocks.dropKey
  return { s.add kind s.spot.mark with spot := s.spot.next.next.next, keyAllowed := false }

/-- An opening bracket. -/
def scanOpening (kind : TokenKind) : Except Fault Scan := do
  let s ← s.saveKey
  return { s.addIndicator kind with
    key := none, outerKeys := s.key :: s.outerKeys, keyAllowed := true }

/-- A closing bracket. -/
def scanClosing (kind : TokenKind) : Except Fault Scan := do
  let s ← s.dropKey
  let t := { s.addIndicator kind with keyAllowed := false }
  match s.outerKeys with
  | [] => return t
  | key :: outer => return { t with key := key, outerKeys := outer }

/-- A comma between brackets. -/
def scanComma : Except Fault Scan := do
  let s ← s.dropKey
  return { s.addIndicator .comma with keyAllowed := true }

/-- The dash of an item.  Between brackets it is left to the grammar to refuse it. -/
def scanItem : Except Fault Scan := do
  if !s.inFlow && !s.keyAllowed then .error ⟨.itemNotAllowed, s.spot.mark, none⟩
  else
    let s ← (s.openBlock .blockSequenceStart).dropKey
    return { s.addIndicator .item with keyAllowed := true }

/-- The question mark of a key. -/
def scanKey : Except Fault Scan := do
  if !s.inFlow && !s.keyAllowed then .error ⟨.keyNotAllowed, s.spot.mark, none⟩
  else
    let s ← (s.openBlock .blockMappingStart).dropKey
    return { s.addIndicator .key with keyAllowed := !s.inFlow }

/-- The colon of a value.  What a key may have begun with is a key now. -/
def scanValue : Except Fault Scan :=
  match s.key with
  | some k =>
    let t := (s.addAt k.number .key k.mark).openBlockAt k
    .ok ({ t with key := none, keyAllowed := false }.addIndicator .value)
  | none =>
    if !s.inFlow && !s.keyAllowed then .error ⟨.valueNotAllowed, s.spot.mark, none⟩
    else
      let t := s.openBlock .blockMappingStart
      .ok ({ t with keyAllowed := !s.inFlow }.addIndicator .value)

/-- An alias or an anchor. -/
def scanName (activity : Activity) (kind : String → TokenKind) : Except Fault Scan := do
  let s ← s.saveKey
  let (name, after) ← readName activity s.spot
  return { s.add (kind name) s.spot.mark with spot := after, keyAllowed := false }

/-- A tag. -/
def scanTag : Except Fault Scan := do
  let s ← s.saveKey
  let (name, after) ← readTag s.inFlow s.spot
  return { s.add (.tag name) s.spot.mark with spot := after, keyAllowed := false }

/-- A block scalar. -/
def scanBlock (isLiteral : Bool) : Except Fault Scan := do
  let s ← s.dropKey
  let r ← readBlock isLiteral s.floor s.spot.mark s.spot.next
  let kind := .scalar (if isLiteral then .literal else .folded) (String.ofList r.text)
  return { s.add kind s.spot.mark with spot := r.after, keyAllowed := true }

/-- A scalar between quotes. -/
def scanQuoted (q : QuoteStyle) : Except Fault Scan := do
  let s ← s.saveKey
  let inside := s.spot.next
  let r ← readQuoted q s.spot.mark (.words .none) inside.mark inside.rest
  return { s.add (.scalar .quoted (String.ofList r.text)) s.spot.mark with
    spot := r.after, keyAllowed := false }

/-- A plain scalar.  When lines were passed behind it, a key may begin there. -/
def scanPlain : Except Fault Scan := do
  let s ← s.saveKey
  let r ← PlainContext.read ⟨s.inFlow, s.floor, s.spot.mark⟩ .none s.spot.mark s.spot.rest
  return { s.add (.scalar .plain (String.ofList r.text)) s.spot.mark with
    spot := r.after, keyAllowed := r.isBroken }

/-- Is this character an indicator, or a sign that no plain scalar starts with? -/
def isIndicator (c : Char) : Bool := "-?:,[]\x7b\x7d#&*!|>'\"%@`".toList.contains c

/-- Can a plain scalar start with `c`, the text going on with `r`? -/
def startsPlain (c : Char) (r : List Char) : Bool :=
  !(isBlank c || isBreak c || isIndicator c) ||
    (c = '-' && !(r.head?.map isBlank).getD false) ||
    (!s.inFlow && (c = '?' || c = ':') && !atGap r)

/-- Scan the token that starts with `c`, the text going on with `r`. -/
def scanToken (c : Char) (r : List Char) : Except Fault Scan :=
  let isFirst := s.spot.mark.column = 0
  if isFirst && c = '%' then s.scanDirective
  else if isFirst && startsMarker '-' (c :: r) then s.scanBoundary .documentStart
  else if isFirst && startsMarker '.' (c :: r) then s.scanBoundary .documentEnd
  else if c = '[' then s.scanOpening .flowSequenceStart
  else if c = '\x7b' then s.scanOpening .flowMappingStart
  else if c = ']' then s.scanClosing .flowSequenceEnd
  else if c = '\x7d' then s.scanClosing .flowMappingEnd
  else if c = ',' then s.scanComma
  else if c = '-' && atGap r then s.scanItem
  else if c = '?' && (s.inFlow || atGap r) then s.scanKey
  else if c = ':' && (s.inFlow || atGap r) then s.scanValue
  else if c = '*' then s.scanName .alias .alias
  else if c = '&' then s.scanName .anchor .anchor
  else if c = '!' then s.scanTag
  else if c = '|' && !s.inFlow then s.scanBlock true
  else if c = '>' && !s.inFlow then s.scanBlock false
  else if c = '\'' then s.scanQuoted .single
  else if c = '"' then s.scanQuoted .double
  else if s.startsPlain c r then s.scanPlain
  else fail .strangeCharacter s.spot.mark .nextToken s.spot.mark

/-- Scan the next token of the text. -/
def scanNext : Except Fault Scan := do
  let s := s.skipGaps (s.spot.rest.length + 1)
  let s ← s.refresh
  let s := s.closeBlocksTo s.spot.mark.column
  match s.spot.rest with
  | [] => s.scanEnd
  | c :: r => s.scanToken c r

/-! ## All tokens -/

/-- Might a key begin at the token that leaves the queue next? -/
def headMayBeKey : Bool :=
  (s.key :: s.outerKeys).any fun k => match k with
    | none => false
    | some k => k.number = s.handed

/-- Hand out the tokens from this state on.  A token leaves the queue once it is certain that
    nothing is to be put before it.  `fuel` bounds the number of steps. -/
def tokens : Nat → Scan → Feed Token
  | 0, _ => ⟨[], none⟩
  | fuel + 1, s =>
    match s.queue with
    | [] =>
      match s.scanNext with
      | .error f => ⟨[], some f⟩
      | .ok s => tokens fuel s
    | _ :: _ =>
      match s.refresh with
      | .error f => ⟨[], some f⟩
      | .ok s =>
        if s.headMayBeKey then
          match s.scanNext with
          | .error f => ⟨[], some f⟩
          | .ok s => tokens fuel s
        else
          match s.queue with
          | [] => ⟨[], none⟩
          | t :: queue =>
            if t.kind = .streamEnd then ⟨[t], none⟩
            else (tokens fuel { s with queue := queue, handed := s.handed + 1 }).cons t

end Scan

/-- More than enough steps for a text: each character adds at most a token with its key, the block
    that it opens and the end of that block. -/
def scanSteps (text : List Char) : Nat := 6 * text.length + 12

/-- The tokens of a text. -/
def tokensOf (text : List Char) : Feed Token :=
  Scan.tokens (scanSteps text) { spot := ⟨.start, text⟩ }

end Yaml
end SampleSchema
