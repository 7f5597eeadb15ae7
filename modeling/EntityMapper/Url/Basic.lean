import EntityMapper.Url.Address
import EntityMapper.Url.Domain

set_option autoImplicit false

/-! Addresses of resources: a scheme, and behind two slashes an authority whose host and socket can
be wrong. Everything else can be written. -/

namespace EntityMapper.Url

open Text

/-- What the scheme says of the rest: local files, hosts of the network, or anything. -/
inductive Scheme where
  | file
  | network
  | other
deriving DecidableEq, Repr

namespace Scheme

def ofText (scheme : String) : Scheme :=
  if scheme = "file" then .file
  else if ["http", "https", "ws", "wss", "ftp"].contains scheme then .network
  else .other

end Scheme

/-- The text without blanks and controls around it and without tabs and line ends in it. -/
def cleaned (text : List Char) : List Char :=
  let isOuter (c : Char) : Bool := c.toNat ≤ 0x20
  let trimmed := ((text.dropWhile isOuter).reverse.dropWhile isOuter).reverse
  trimmed.filter fun c => c != '\t' && c != '\n' && c != '\r'

def isSchemeCharacter (c : Char) : Bool := c.isAlphanum || c = '+' || c = '-' || c = '.'

/-- The scheme in lower case, and what follows its colon. -/
def takeScheme (text : List Char) : Option (String × List Char) :=
  match text with
  | [] => none
  | c :: _ =>
      if c.isAlpha then
        match text.dropWhile isSchemeCharacter with
        | ':' :: rest =>
            some (String.ofList ((text.takeWhile isSchemeCharacter).map Char.toLower), rest)
        | _ => none
      else none

/-! ### Hosts -/

def hexadecimalPair? (high low : UInt8) : Option UInt8 := do
  let digit (byte : UInt8) : Option Nat := digitIn? 16 (Char.ofNat byte.toNat)
  return UInt8.ofNat (16 * (← digit high) + (← digit low))

/-- Bytes with a percent sign and two hexadecimal digits for those that are written so. -/
def percentDecoded : List UInt8 → List UInt8
  | 37 :: high :: low :: rest =>
      match hexadecimalPair? high low with
      | some byte => byte :: percentDecoded rest
      | none => 37 :: percentDecoded (high :: low :: rest)
  | byte :: rest => byte :: percentDecoded rest
  | [] => []
termination_by bytes => bytes.length

/-- The text between brackets, if the host starts with one. -/
def bracketed? (host : List Char) : Option (Option (List Char)) :=
  match host with
  | '[' :: rest => some (if rest.getLast? = some ']' then some rest.dropLast else none)
  | _ => none

def isBracketAddress (inside : Option (List Char)) : Bool := inside.elim false isAddress128

/-- The text of a host with its percent signs resolved. -/
def decodedHost? (host : List Char) : Option (List Char) :=
  (String.fromUTF8? ⟨(percentDecoded (String.ofList host).toUTF8.toList).toArray⟩).map
    String.toList

/-- Whether a text is a host of the network: an address in brackets, a numeric address, or a
domain name. -/
def isNetworkHost (host : List Char) : Bool :=
  match bracketed? host with
  | some inside => isBracketAddress inside
  | none =>
      match (decodedHost? host).bind domainLabels? with
      | none => false
      | some labels =>
          labels != [[]] && (!endsInNumber labels || isAddress32 labels)

/-- The characters that no host holds, whatever its scheme. -/
def hostDelimiters : List Char :=
  ['\x00', ' ', '#', '/', ':', '<', '>', '?', '@', '[', '\\', ']', '^', '|']

/-- Whether a text is a host that its scheme alone understands. -/
def isOpaqueHost (host : List Char) : Bool :=
  match bracketed? host with
  | some inside => isBracketAddress inside
  | none => host.all fun c => !hostDelimiters.contains c

/-! ### Authorities -/

/-- Whether a character ends the authority. -/
def endsAuthority (scheme : Scheme) (c : Char) : Bool :=
  c = '/' || c = '?' || c = '#' || (c = '\\' && scheme != .other)

/-- The user information before the last at sign, if there is one, and what follows. -/
def splitUser (authority : List Char) : Option (List Char) × List Char :=
  let host := (authority.reverse.takeWhile (· != '@')).reverse
  if host.length = authority.length then (none, authority)
  else (some (authority.take (authority.length - host.length - 1)), host)

/-- The host, up to a colon outside of brackets, and what follows. -/
def splitHost (inBrackets : Bool) : List Char → List Char × List Char
  | [] => ([], [])
  | c :: rest =>
      if c = ':' ∧ !inBrackets then ([], c :: rest)
      else
        let inside := if c = '[' then true else if c = ']' then false else inBrackets
        let (host, after) := splitHost inside rest
        (c :: host, after)

/-- Whether what follows the host is a socket: nothing, or a colon and a number of 16 bits. A
backslash ends it in any scheme. -/
def isSocket (text : List Char) : Bool :=
  match text with
  | ':' :: rest =>
      let digits := rest.takeWhile (· != '\\')
      digits.all isDigit && digitsValue digits ≤ 65535
  | _ => true

/-- Whether user information says anything: only a lone colon does not. -/
def isSaid (user : List Char) : Bool := !user.isEmpty && user != [':']

/-- Whether an authority with text after it is one: a host that may be empty only where the scheme
is free and neither user information nor a socket stands beside it. A lone at sign can only end the
address. -/
def isAuthority (scheme : Scheme) (authority after : List Char) : Bool :=
  let (user, location) := splitUser authority
  let (host, socket) := splitHost false location
  if host.isEmpty then
    scheme = .other && socket.isEmpty &&
      user.elim true fun said => if said.isEmpty then after.isEmpty else !isSaid said
  else (if scheme = .other then isOpaqueHost host else isNetworkHost host) && isSocket socket

/-- Whether a text up to the first mark that ends an authority is one. -/
def startsWithAuthority (scheme : Scheme) (text : List Char) : Bool :=
  isAuthority scheme (text.takeWhile (!endsAuthority scheme ·))
    (text.dropWhile (!endsAuthority scheme ·))

/-- Whether two characters name a drive. -/
def isDrive (host : List Char) : Bool :=
  match host with
  | [letter, mark] => letter.isAlpha && (mark = ':' || mark = '|')
  | _ => false

/-- Whether the host of a local file is one; none and a drive are. -/
def isFileHost (host : List Char) : Bool := host.isEmpty || isDrive host || isNetworkHost host

def isSlash (c : Char) : Bool := c = '/' || c = '\\'

/-- Whether what follows the colon of a scheme can be written. -/
def isRest (scheme : Scheme) (rest : List Char) : Bool :=
  match scheme with
  | .file =>
      match rest with
      | first :: second :: after =>
          if isSlash first && isSlash second then
            isFileHost (after.takeWhile (!endsAuthority .file ·))
          else true
      | _ => true
  | .network => startsWithAuthority .network (rest.dropWhile isSlash)
  | .other =>
      match rest with
      | '/' :: '/' :: after => startsWithAuthority .other after
      | _ => true

/-- Whether a text is an address of a resource with a scheme. -/
def isUrl (text : String) : Bool :=
  match takeScheme (cleaned text.toList) with
  | none => false
  | some (scheme, rest) => isRest (.ofText scheme) rest

end EntityMapper.Url
