/-
  Scalars between quotes.

  Line breaks between words are folded as in plain scalars.  Between single quotes a quote is
  written twice and nothing else is special.  Between double quotes a backslash starts an escape: of
  one character, of a code with two, four or eight digits, or of a line break, which then vanishes
  with the blanks after it.  A marker between documents may not stand at the start of a line inside.
-/
import SampleSchema.Yaml.Gap

namespace SampleSchema
namespace Yaml

/-- What a character stands for behind a backslash. -/
def escaped? (c : Char) : Option Char :=
  match c with
  | '0' => some '\x00'
  | 'a' => some '\x07'
  | 'b' => some '\x08'
  | 't' | '\t' => some '\t'
  | 'n' => some '\n'
  | 'v' => some '\x0b'
  | 'f' => some '\x0c'
  | 'r' => some '\r'
  | 'e' => some '\x1b'
  | ' ' => some ' '
  | '"' => some '"'
  | '/' => some '/'
  | '\\' => some '\\'
  | 'N' => some '\u0085'
  | '_' => some '\u00a0'
  | 'L' => some '\u2028'
  | 'P' => some '\u2029'
  | _ => none

/-- How many digits the code behind this letter has. -/
def codeLength? (c : Char) : Option Nat :=
  match c with
  | 'x' => some 2
  | 'u' => some 4
  | 'U' => some 8
  | _ => none

/-- The character with this code, if there is one. -/
def charOfCode? (n : Nat) : Option Char :=
  if h : n.isValidChar then some (Char.ofNatAux n h) else none

/-- Which quotes enclose a scalar. -/
inductive QuoteStyle where
  | single | double
  deriving DecidableEq, Repr

/-- The quote of a style. -/
def QuoteStyle.quote : QuoteStyle → Char
  | single => '\''
  | double => '"'

/-- What a scan between quotes is about to read. -/
inductive InQuotes where
  /-- Text, behind a gap. -/
  | words (g : Gap)
  /-- The second one of two quotes. -/
  | twin
  /-- The character behind a backslash, which stands at this place. -/
  | escape (back : Mark)
  /-- That many digits of the code that starts at this place, beside those read already. -/
  | code (since : Mark) (count : Nat) (value : Nat)

/-- The text up to the closing quote, which is passed; `start` is where the scalar starts. -/
def readQuoted (q : QuoteStyle) (start : Mark) (state : InQuotes) (m : Mark) :
    List Char → Except Fault Run
  | [] =>
    match state with
    | .words _ | .twin => fail .endInQuotes m .quotedScalar start
    | .escape back => fail .escapeUnknown back .escape start
    | .code since .. => fail .hexadecimalMissing since .escape start
  | c :: r =>
    match state with
    | .words g =>
      if isBlank c then readQuoted q start (.words (g.blank c)) (m.after c) r
      else if isBreak c then readQuoted q start (.words (g.broken c)) (m.after c) r
      else if m.column = 0 ∧ startsBoundary (c :: r) then
        fail .boundaryInQuotes m .quotedScalar start
      else if c = q.quote then
        if q = .single ∧ r.head? = some q.quote then
          (readQuoted q start .twin (m.after c) r).map (Run.prepend g.text)
        else .ok ⟨g.text, m.after c, r⟩
      else if q = .double ∧ c = '\\' then
        (readQuoted q start (.escape m) (m.after c) r).map (Run.prepend g.text)
      else (readQuoted q start (.words .none) (m.after c) r).map (Run.prepend (g.text ++ [c]))
    | .twin => (readQuoted q start (.words .none) (m.after c) r).map (Run.prepend [c])
    | .escape back =>
      if isBreak c then readQuoted q start (.words (.breaks none [])) (m.after c) r
      else
        match escaped? c, codeLength? c with
        | some d, _ => (readQuoted q start (.words .none) (m.after c) r).map (Run.prepend [d])
        | none, some n => readQuoted q start (.code (m.after c) n 0) (m.after c) r
        | none, none => fail .escapeUnknown back .escape start
    | .code since count value =>
      match hexValue? c with
      | none => fail .hexadecimalMissing since .escape start
      | some d =>
        let value := 16 * value + d
        if count ≤ 1 then
          match charOfCode? value with
          | none => fail .notACharacter since .escape start
          | some d => (readQuoted q start (.words .none) (m.after c) r).map (Run.prepend [d])
        else readQuoted q start (.code since (count - 1) value) (m.after c) r

end Yaml
end SampleSchema
