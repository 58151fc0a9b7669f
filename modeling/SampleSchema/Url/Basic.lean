/-
  Absolute URLs.

  A URL starts with a scheme.  What follows decides only in part whether the text is accepted:
  paths, queries and fragments take any character, so all that can be wrong is the scheme and the
  authority, which is the part between two slashes and the next delimiter.  The well-known schemes
  for the web always have an authority with a host, and they take a backslash for a slash; `file`
  may do without a host; any other scheme has an authority only if it is written.

  Control characters and blanks at both ends, and tabs and line ends anywhere, are dropped first.
-/
import SampleSchema.Url.Address
import SampleSchema.Url.Label

namespace SampleSchema
namespace Url

/-- How a scheme treats what follows it. -/
inductive SchemeKind where
  /-- Files: a host is possible and need not be there. -/
  | file
  /-- The other schemes of the web: a host has to be there. -/
  | web
  /-- Everything else. -/
  | opaqueHost
  deriving DecidableEq

/-- The kind of a scheme, given in lower case. -/
def SchemeKind.of (scheme : List Char) : SchemeKind :=
  if scheme = "file".toList then .file
  else if ["http", "https", "ws", "wss", "ftp"].any (·.toList = scheme) then .web
  else .opaqueHost

/-- Is the scheme one for which a backslash is a slash? -/
def SchemeKind.isSpecial (k : SchemeKind) : Bool := k ≠ .opaqueHost

/-- The text without what is dropped. -/
def cleaned (s : String) : List Char :=
  let outer (c : Char) : Bool := c ≤ ' '
  let cs := ((s.toList.dropWhile outer).reverse.dropWhile outer).reverse
  cs.filter fun c => c ≠ '\t' && c ≠ '\n' && c ≠ '\r'

/-- May the character stand in a scheme after the first one? -/
def isSchemeChar (c : Char) : Bool := c.isAlphanum || c = '+' || c = '-' || c = '.'

/-- The scheme in lower case and the text after its colon. -/
def splitScheme (cs : List Char) : Option (List Char × List Char) :=
  match cs with
  | [] => none
  | c :: _ =>
    if c.isAlpha then
      match cs.dropWhile isSchemeChar with
      | ':' :: rest => some ((cs.takeWhile isSchemeChar).map Char.toLower, rest)
      | _ => none
    else none

/-! ## Hosts -/

/-- Does a text between brackets hold an address?  `none` where there is no bracket in front. -/
def bracketed? (cs : List Char) : Option Bool :=
  match cs with
  | '[' :: rest =>
    some (match rest.reverse with
      | ']' :: inner => Address.isEightGroups inner.reverse
      | _ => false)
  | _ => none

/-- Bytes with their percent escapes resolved. -/
def percentDecoded : List UInt8 → List UInt8
  | 37 :: a :: b :: rest =>
    match hexValue? (Char.ofNat a.toNat), hexValue? (Char.ofNat b.toNat) with
    | some x, some y => UInt8.ofNat (16 * x + y) :: percentDecoded rest
    | _, _ => 37 :: percentDecoded (a :: b :: rest)
  | b :: rest => b :: percentDecoded rest
  | [] => []

/-- Is the text a host of one of the special schemes? -/
def isSpecialHost (cs : List Char) : Bool :=
  match bracketed? cs with
  | some ok => ok
  | none =>
    let bytes := percentDecoded (String.ofList cs).toUTF8.toList
    match String.fromUTF8? ⟨bytes.toArray⟩ with
    | none => false
    | some name =>
      match Name.labels? name.toList with
      | none => false
      | some labels =>
        labels ≠ [[]] && (!Address.endsInNumber labels || Address.isFourBytes labels)

/-- Characters that no host may hold, whatever the scheme. -/
def isHostDelimiter (c : Char) : Bool :=
  c = '\x00' || c = '\t' || c = '\n' || c = '\r' || " #/:<>?@[\\]^|".toList.contains c

/-- Is the text a host of a scheme that is not special?  It may be empty. -/
def isOpaqueHost (cs : List Char) : Bool :=
  match bracketed? cs with
  | some ok => ok
  | none => cs.all (!isHostDelimiter ·)

/-! ## Authorities -/

/-- Does the character end the authority? -/
def endsAuthority (special : Bool) (c : Char) : Bool :=
  c = '/' || c = '?' || c = '#' || (special && c = '\\')

/-- The text of an authority before its last `@`, if it has one, and the text from there on. -/
def splitUser (authority : List Char) : Option (List Char) × List Char :=
  let host := (authority.reverse.takeWhile (· ≠ '@')).reverse
  if host.length = authority.length then (none, authority)
  else (some (authority.take (authority.length - host.length - 1)), host)

/-- The host at the start of an authority and what follows it, which is a port or nothing.  A colon
    inside brackets belongs to the host. -/
def splitHost (inside : Bool) : List Char → List Char × List Char
  | [] => ([], [])
  | c :: cs =>
    if c = ':' && !inside then ([], c :: cs)
    else
      let r := splitHost (c = '[' || (inside && c ≠ ']')) cs
      (c :: r.1, r.2)

/-- Is what follows a host a port, or nothing?  A port may be without digits; for a scheme that is
    not special, a backslash ends it. -/
def isPort (cs : List Char) : Bool :=
  match cs with
  | [] => true
  | _ :: ds =>
    let ds := ds.takeWhile (· ≠ '\\')
    ds.all Char.isDigit && decide (decimalValue ds ≤ 65535)

/-- Does a user part leave anything behind?  A colon alone does not. -/
def namesUser (user : Option (List Char)) : Bool :=
  match user with
  | none => false
  | some cs => cs ≠ [] && cs ≠ [':']

/-- Is the text, from behind the two slashes, an authority with something after it? -/
def isAuthority (special : Bool) (cs : List Char) : Bool :=
  let authority := cs.takeWhile (!endsAuthority special ·)
  let after := cs.dropWhile (!endsAuthority special ·)
  let (user, rest) := splitUser authority
  let (host, port) := splitHost false rest
  if user = some [] && rest.isEmpty && !after.isEmpty then false
  else if host.isEmpty then !special && port.isEmpty && !namesUser user
  else (if special then isSpecialHost host else isOpaqueHost host) && isPort port

/-- Is the text, from behind the scheme, right for files?  Only a host can be wrong, and a drive
    letter in its place is none. -/
def isFileRest (cs : List Char) : Bool :=
  let slash (c : Char) : Bool := c = '/' || c = '\\'
  match cs with
  | a :: b :: rest =>
    if slash a && slash b then
      let host := rest.takeWhile (!endsAuthority true ·)
      let drive := match host with
        | [c, d] => c.isAlpha && (d = ':' || d = '|')
        | _ => false
      drive || host.isEmpty || isSpecialHost host
    else true
  | _ => true

/-- Is the text an absolute URL? -/
def isAbsolute (s : String) : Bool :=
  match splitScheme (cleaned s) with
  | none => false
  | some (scheme, rest) =>
    match SchemeKind.of scheme with
    | .file => isFileRest rest
    | .web => isAuthority true (rest.dropWhile fun c => c = '/' || c = '\\')
    | .opaqueHost =>
      match rest with
      | '/' :: '/' :: rest => isAuthority false rest
      | _ => true

end Url
end SampleSchema
