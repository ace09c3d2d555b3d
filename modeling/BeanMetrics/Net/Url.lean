import BeanMetrics.Net.IpAddress
import BeanMetrics.Text.Percent

/-!
URLs, as far as a client has to know them: the scheme, and for the schemes of the web the host, the
port and the target of a request. Reading follows the living standard without a base URL: blanks and
control characters around the text, and tabs and line ends anywhere in it, do not count; for web
schemes any number of slashes and backslashes introduces the host.
-/

namespace BeanMetrics

structure Url where
  scheme : String
  /-- The path and the query of a request for this URL. -/
  target : String
  deriving DecidableEq, Inhabited, Repr

namespace Url

inductive Fault where
  | relative
  | emptyHost
  | invalidPort
  | invalidIpv4
  | invalidIpv6
  | invalidDomain
  | invalidHostCharacter
  deriving DecidableEq, Repr

def Fault.message : Fault → String
  | .relative => "relative URL without a base"
  | .emptyHost => "empty host"
  | .invalidPort => "invalid port number"
  | .invalidIpv4 => "invalid IPv4 address"
  | .invalidIpv6 => "invalid IPv6 address"
  | .invalidDomain => "invalid international domain name"
  | .invalidHostCharacter => "invalid domain character"

def isControlOrSpace (c : Char) : Bool := c.toNat ≤ 0x20

/-- The characters of a text that count. -/
def significantChars (s : List Char) : List Char :=
  let inner := ((s.dropWhile isControlOrSpace).reverse.dropWhile isControlOrSpace).reverse
  inner.filter fun c => c ≠ '\t' && c ≠ '\n' && c ≠ '\r'

def isSchemeChar (c : Char) : Bool := c.isAlphanum || c = '+' || c = '-' || c = '.'

/-- The scheme, in lower case, and what follows its colon. -/
def scheme? (s : List Char) : Option (List Char × List Char) :=
  match s with
  | [] => none
  | first :: _ =>
    match s.dropWhile isSchemeChar with
    | ':' :: rest =>
      if first.isAlpha then some ((s.takeWhile isSchemeChar).map Char.toLower, rest) else none
    | _ => none

/-- Schemes with a host that cannot be empty. -/
def isWebScheme (scheme : List Char) : Bool :=
  ["http", "https", "ws", "wss", "ftp"].any fun s => s.toList = scheme

/-- Whether a character ends the host, the port and whatever is in front of them. -/
def endsAuthority (web : Bool) (c : Char) : Bool :=
  c = '/' || c = '?' || c = '#' || (web && c = '\\')

/-- The host, which ends at a colon outside brackets, and the rest. -/
def takeHost (web : Bool) : Bool → List Char → List Char × List Char
  | _, [] => ([], [])
  | inBrackets, c :: rest =>
    if endsAuthority web c || (c = ':' && !inBrackets) then ([], c :: rest)
    else
      let inBrackets := if c = '[' then true else if c = ']' then false else inBrackets
      let (host, rest) := takeHost web inBrackets rest
      (c :: host, rest)

def isForbiddenInHost (c : Char) : Bool :=
  c.toNat ≤ 0x20 || c.toNat = 0x7F || "#/:<>?@[\\]^|".toList.contains c

def isForbiddenInDomain (c : Char) : Bool := isForbiddenInHost c || c = '%'

/-- A number of an IPv4 address: decimal, octal behind `0`, hexadecimal behind `0x`. -/
def ipv4Number? (s : List Char) : Option Nat :=
  let (base, digits) : Nat × List Char := match s with
    | '0' :: x :: rest => if x = 'x' ∨ x = 'X' then (16, rest) else (8, x :: rest)
    | _ => (10, s)
  if s = [] then none else if digits = [] then some 0 else Text.number? base digits

/-- The labels of a domain, a final empty one aside. -/
def labels (domain : List Char) : List (List Char) :=
  let parts := Text.splitAll '.' domain
  if 1 < parts.length ∧ parts.getLast? = some [] then parts.dropLast else parts

/-- Whether the last label is a number, so that the domain has to be an IPv4 address. -/
def endsInNumber (domain : List Char) : Bool :=
  match (labels domain).getLast? with
  | some last => last ≠ [] && (last.all Char.isDigit || (ipv4Number? last).isSome)
  | none => false

/-- Whether the labels are the numbers of an IPv4 address, the last one filling what is left. -/
def isIpv4 (domain : List Char) : Bool :=
  match (labels domain).mapM ipv4Number? with
  | none => false
  | some numbers =>
    numbers.length ≤ 4 && numbers.dropLast.all (· ≤ 255) &&
      decide (numbers.getLast?.getD 0 < Nat.pow 256 (5 - numbers.length))

/-- What is wrong with the host of a web URL, if anything is. -/
def webHostFault? (host : List Char) : Option Fault :=
  match host with
  | [] => some .emptyHost
  | '[' :: bracketed =>
    match (Text.dropEnd? [']'] bracketed).bind Ipv6.read? with
    | some (_, []) => none
    | _ => some .invalidIpv6
  | _ =>
    let domain := Text.decodeUtf8 (Text.percentDecode host)
    if domain = [] then some .emptyHost
    else if domain.any isForbiddenInDomain then some .invalidDomain
    else if endsInNumber domain && !isIpv4 domain then some .invalidIpv4
    else none

/-- What is wrong with the host of another URL, if anything is. -/
def otherHostFault? (host : List Char) : Option Fault :=
  match host with
  | '[' :: bracketed =>
    match (Text.dropEnd? [']'] bracketed).bind Ipv6.read? with
    | some (_, []) => none
    | _ => some .invalidIpv6
  | _ => if host.any isForbiddenInHost then some .invalidHostCharacter else none

/-- The rest behind a port, which may be left out behind its colon. -/
def skipPort (web : Bool) : List Char → Except Fault (List Char)
  | ':' :: rest =>
    let digits := rest.takeWhile Char.isDigit
    let rest := rest.dropWhile Char.isDigit
    if Nat.pow 2 16 ≤ Text.digitsValue 10 digits then .error .invalidPort
    else match rest with
      | [] => .ok []
      | c :: _ => if endsAuthority web c then .ok rest else .error .invalidPort
  | rest => .ok rest

/-- The host and the port behind the name of a user, if there is one: what follows them. -/
def skipAuthority (web : Bool) (s : List Char) : Except Fault (List Char) :=
  let authority := s.takeWhile fun c => !endsAuthority web c
  let hostAndPort := match Text.splitLast '@' authority with
    | some (_, after) => after
    | none => authority
  let named := hostAndPort.length < authority.length
  let (host, rest) := takeHost web false (hostAndPort ++ s.drop authority.length)
  let fault := if web then webHostFault? host else otherHostFault? host
  if !web && host = [] && (named || rest.head? = some ':') then .error .emptyHost
  else match fault with
    | some fault => .error fault
    | none => skipPort web rest

/-- The target of a request: a path, at least `/`, and a query, without the fragment. -/
def targetOf (s : List Char) : List Char :=
  let s := s.takeWhile (· ≠ '#')
  match s with
  | '/' :: _ => s
  | _ => '/' :: s

def ofChars (s : List Char) : Except Fault Url :=
  match scheme? (significantChars s) with
  | none => .error .relative
  | some (scheme, rest) =>
    let url (after : List Char) : Url := ⟨String.ofList scheme, String.ofList (targetOf after)⟩
    if isWebScheme scheme then
      (skipAuthority true (rest.dropWhile fun c => c = '/' || c = '\\')).map url
    else if scheme = "file".toList then .ok (url rest)
    else match rest with
      | '/' :: '/' :: rest => (skipAuthority false rest).map url
      | _ => .ok (url rest)

def ofText (text : String) : Except Fault Url := ofChars text.toList

end Url
end BeanMetrics
