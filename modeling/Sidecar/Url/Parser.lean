import Sidecar.Url.Address
import Sidecar.Url.Basic
import Sidecar.Url.Domain

/-!
# Reading URLs of the scheme `http`

Both slashes separate segments of a path, tabs and line breaks are dropped wherever they stand, and
dots are resolved.  A reference is read relative to the URL of the document it stands in.
-/

namespace Sidecar.Url

inductive ParseFault where
  | emptyHost
  | invalidPort
  | invalidIpv4
  | invalidIpv6
  | invalidDomain
deriving DecidableEq, Repr

def ParseFault.text : ParseFault → String
  | .emptyHost => "empty host"
  | .invalidPort => "invalid port number"
  | .invalidIpv4 => "invalid IPv4 address"
  | .invalidIpv6 => "invalid IPv6 address"
  | .invalidDomain => "invalid international domain name"

def isSlash (c : Char) : Bool := c == '/' || c == '\\'

/-- A character that ends the part with host and port. -/
def endsAuthority (c : Char) : Bool := isSlash c || c == '?' || c == '#'

/-! ## User information -/

def splitAtLast (delimiter : Char) (s : List Char) : Option (List Char × List Char) :=
  (Text.cutOnce delimiter s.reverse).map fun (after, before) => (before.reverse, after.reverse)

structure UserInfo where
  username : String := ""
  password : Option String := none

def UserInfo.parse (s : List Char) : UserInfo :=
  let encode (s : List Char) := String.ofList (percentEncode EscapeSet.userInfo s)
  match Text.cutOnce ':' s with
  | none => ⟨encode s, none⟩
  | some (name, []) => ⟨encode name, none⟩
  | some (name, password) => ⟨encode name, some (encode password)⟩

/-- User information ends at the last at sign. -/
def splitUserInfo (authority : List Char) : UserInfo × List Char :=
  match splitAtLast '@' authority with
  | none => ({}, authority)
  | some (info, rest) => (UserInfo.parse info, rest)

/-! ## Host and port -/

/-- The host in its written form. -/
def parseHost (host : List Char) : Except ParseFault String :=
  match host with
  | '[' :: inside =>
    if inside.getLast? = some ']' then
      match Ipv6.parse? inside.dropLast with
      | some pieces => .ok ("[" ++ Ipv6.text pieces ++ "]")
      | none => .error .invalidIpv6
    else .error .invalidIpv6
  | _ =>
    match Domain.toAscii? (percentDecode (Text.Utf8.encode (String.ofList host))) with
    | none => .error .invalidDomain
    | some domain =>
      if domain.isEmpty then .error .emptyHost
      else if Ipv4.endsInNumber domain.toList then
        match Ipv4.parse? domain.toList with
        | some address => .ok (Ipv4.text address)
        | none => .error .invalidIpv4
      else .ok domain

/-- The host ends at a colon outside of brackets. -/
def splitHost : (bracketed : Bool) → List Char → List Char × List Char
  | _, [] => ([], [])
  | bracketed, c :: rest =>
    if c = ':' ∧ !bracketed then ([], c :: rest)
    else
      let bracketed := if c = '[' then true else if c = ']' then false else bracketed
      let (host, rest) := splitHost bracketed rest
      (c :: host, rest)

def greatestPort : Nat := 65535

def defaultPort : Nat := 80

def readPort (port : Nat) : List Char → Except ParseFault Nat
  | [] => .ok port
  | c :: rest =>
    if c.isDigit then
      let port := port * 10 + (c.toNat - 48)
      if greatestPort < port then .error .invalidPort else readPort port rest
    else .error .invalidPort

/-- `none` is the default port. -/
def parsePort : List Char → Except ParseFault (Option Nat)
  | [] | [':'] => .ok none
  | _ :: digits => do
    let port ← readPort 0 digits
    return if port = defaultPort then none else some port

/-! ## Path -/

/-- The segments between slashes; there is one more than there are slashes. -/
def slashPieces : List Char → List (List Char)
  | [] => [[]]
  | c :: rest =>
    if isSlash c then [] :: slashPieces rest
    else match slashPieces rest with
      | [] => [[c]]
      | piece :: more => (c :: piece) :: more

/-- A dot may be escaped. -/
def dots : List Char → Option Nat
  | [] => some 0
  | '.' :: rest => (dots rest).map (· + 1)
  | '%' :: '2' :: 'e' :: rest | '%' :: '2' :: 'E' :: rest => (dots rest).map (· + 1)
  | _ => none

/-- The path behind `front` whose remaining segments are given. -/
def resolve (front : List String) : List (List Char) → List String
  | [] => front
  | segment :: rest =>
    let isLast := rest.isEmpty
    match dots segment with
    | some 1 => if isLast then front ++ [""] else resolve front rest
    | some 2 => if isLast then parent front ++ [""] else resolve (parent front) rest
    | _ => resolve (front ++ [String.ofList (percentEncode EscapeSet.path segment)]) rest

/-! ## The whole -/

def splitFragment (s : List Char) : List Char × Option String :=
  match Text.cutOnce '#' s with
  | none => (s, none)
  | some (s, fragment) => (s, some (String.ofList (percentEncode EscapeSet.fragment fragment)))

def splitQuery (s : List Char) : List Char × Option String :=
  match Text.cutOnce '?' s with
  | none => (s, none)
  | some (s, query) => (s, some (String.ofList (percentEncode EscapeSet.query query)))

/-- What follows host and port, `front` being the path it starts from. -/
def withPath (u : Url) (front : List String) (s : List Char) : Url :=
  let (s, fragment) := splitFragment s
  let (path, query) := splitQuery s
  { u with path := resolve front (slashPieces path), query, fragment }

/-- What follows the scheme and its slashes. -/
def parseAuthority (s : List Char) : Except ParseFault Url := do
  let authority := s.takeWhile (!endsAuthority ·)
  let rest := s.drop authority.length
  let (info, authority) := splitUserInfo authority
  let (host, port) := splitHost false authority
  if host.isEmpty then throw .emptyHost
  let host ← parseHost host
  let port ← parsePort port
  let u : Url := { username := info.username, password := info.password, host, port }
  return withPath u [] (if rest.head?.any isSlash then rest.tail else rest)

def readable (s : List Char) : List Char := s.filter (!isDropped ·)

def scheme : List Char := ['h', 't', 't', 'p', ':']

/-- A text that starts with the scheme. -/
def parse (s : String) : Except ParseFault Url :=
  parseAuthority (((readable s.toList).drop scheme.length).dropWhile isSlash)

/-! ## References -/

def isOuterBlank (c : Char) : Bool := c.toNat ≤ 0x20

def isSchemeChar (c : Char) : Bool := c.isAlphanum || c == '+' || c == '-' || c == '.'

/-- A scheme with its colon, in lowercase, and what follows it. -/
def takeScheme? (s : List Char) : Option (List Char × List Char) :=
  let word := s.takeWhile isSchemeChar
  match word, s.drop word.length with
  | c :: _, ':' :: rest => if c.isAlpha then some (word.map Char.toLower ++ [':'], rest) else none
  | _, _ => none

/-- A reference without a scheme. -/
def joinRelative (base : Url) (s : List Char) : Except ParseFault Url :=
  match s with
  | [] => .ok base.withoutFragment
  | '#' :: _ => .ok { base with fragment := (splitFragment s).2 }
  | '?' :: _ => .ok { withPath base [] s with path := base.path }
  | c :: rest =>
    if isSlash c then
      if rest.head?.any isSlash then parseAuthority (rest.dropWhile isSlash)
      else .ok (withPath base [] rest)
    else .ok (withPath base base.path.dropLast s)

/-- What a reference refers to. -/
inductive Reference where
  | url (url : Url)
  /-- The URL, but of the scheme `https`. -/
  | secure (url : Url)
  /-- Of any other scheme, and as it is written. -/
  | foreign (text : String)
deriving DecidableEq, Repr

def secureScheme : List Char := ['h', 't', 't', 'p', 's', ':']

/-- What a reference in a document refers to; `none` if it cannot be read. -/
def refer? (base : Url) (reference : List Char) : Option Reference :=
  let blank := (reference.dropWhile isOuterBlank).reverse
  let s := readable (blank.dropWhile isOuterBlank).reverse
  match takeScheme? s with
  | none => (joinRelative base s).toOption.map .url
  | some (word, rest) =>
    if word = scheme then
      if (rest.takeWhile isSlash).length < 2 then (joinRelative base rest).toOption.map .url
      else (parseAuthority (rest.dropWhile isSlash)).toOption.map .url
    else if word = secureScheme then
      (parseAuthority (rest.dropWhile isSlash)).toOption.map .secure
    else some (.foreign (String.ofList (word ++ rest)))

end Sidecar.Url
