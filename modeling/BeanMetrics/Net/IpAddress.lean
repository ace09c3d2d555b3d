import BeanMetrics.Text.Digits
import BeanMetrics.Text.Split

/-!
Internet addresses and their texts. An IPv4 address is four decimal numbers without leading zeros.
An IPv6 address is eight hexadecimal groups, of which one run of zeros may be written `::` and the
last two may be written as an IPv4 address; it is printed with its longest run of at least two zeros
left out, the first one of several.
-/

namespace BeanMetrics

structure Ipv4 where
  a : UInt8
  b : UInt8
  c : UInt8
  d : UInt8
  deriving DecidableEq, Inhabited, Repr

structure Ipv6 where
  groups : List UInt16
  length_groups : groups.length = 8
  deriving DecidableEq, Repr

inductive IpAddress where
  | v4 (address : Ipv4)
  | v6 (address : Ipv6)
  deriving DecidableEq, Repr

structure SocketAddress where
  ip : IpAddress
  port : UInt16
  deriving DecidableEq, Repr

/-- The digits at the head of a text, if there are between one and `max` of them, and the rest. -/
def takeDigits? (base max : Nat) (s : List Char) : Option (List Char × List Char) :=
  let digits := s.takeWhile fun c => (Text.digit? base c).isSome
  if digits = [] ∨ max < digits.length then none else some (digits, s.drop digits.length)

def after? (c : Char) : List Char → Option (List Char)
  | d :: rest => if d = c then some rest else none
  | [] => none

namespace Ipv4

def unspecified : Ipv4 := ⟨0, 0, 0, 0⟩

def localhost : Ipv4 := ⟨127, 0, 0, 1⟩

def octet? (s : List Char) : Option (UInt8 × List Char) := do
  let (digits, rest) ← takeDigits? 10 3 s
  let value := Text.digitsValue 10 digits
  if (digits.head? = some '0' ∧ 1 < digits.length) ∨ 256 ≤ value then none
  else return (UInt8.ofNat value, rest)

/-- An address at the head of a text, and the rest. -/
def read? (s : List Char) : Option (Ipv4 × List Char) := do
  let (a, s) ← octet? s
  let (b, s) ← octet? (← after? '.' s)
  let (c, s) ← octet? (← after? '.' s)
  let (d, s) ← octet? (← after? '.' s)
  return (⟨a, b, c, d⟩, s)

def decimal (n : UInt8) : List Char := Nat.toDigits 10 n.toNat

def chars (x : Ipv4) : List Char :=
  decimal x.a ++ '.' :: (decimal x.b ++ '.' :: (decimal x.c ++ '.' :: decimal x.d))

/-- The two groups that the address takes up in an IPv6 address. -/
def groups (x : Ipv4) : List UInt16 :=
  [UInt16.ofNat (x.a.toNat * 256 + x.b.toNat), UInt16.ofNat (x.c.toNat * 256 + x.d.toNat)]

def ofGroups (high low : UInt16) : Ipv4 :=
  ⟨UInt8.ofNat (high.toNat / 256), UInt8.ofNat (high.toNat % 256),
   UInt8.ofNat (low.toNat / 256), UInt8.ofNat (low.toNat % 256)⟩

end Ipv4

namespace Ipv6

def group? (s : List Char) : Option (UInt16 × List Char) := do
  let (digits, rest) ← takeDigits? 16 4 s
  return (UInt16.ofNat (Text.digitsValue 16 digits), rest)

/-- At most `limit` groups separated by colons, whether they end in an IPv4 address, and the
rest. -/
def readGroups : Nat → Bool → List Char → List UInt16 × Bool × List Char
  | 0, _, s => ([], false, s)
  | limit + 1, first, s =>
    match if first then some s else after? ':' s with
    | none => ([], false, s)
    | some t =>
      match if 1 ≤ limit then Ipv4.read? t else none with
      | some (v4, rest) => (v4.groups, true, rest)
      | none =>
        match group? t with
        | none => ([], false, s)
        | some (group, rest) =>
          let (groups, v4, rest) := readGroups limit false rest
          (group :: groups, v4, rest)

def ofGroups? (groups : List UInt16) : Option Ipv6 :=
  if h : groups.length = 8 then some ⟨groups, h⟩ else none

/-- An address at the head of a text, and the rest. The `::` stands for at least one group. -/
def read? (s : List Char) : Option (Ipv6 × List Char) :=
  let (head, v4, s) := readGroups 8 true s
  if head.length = 8 then (ofGroups? head).map (·, s)
  else if v4 then none
  else match s with
    | ':' :: ':' :: rest =>
      let (tail, _, rest) := readGroups (7 - head.length) true rest
      let zeros := List.replicate (8 - head.length - tail.length) 0
      (ofGroups? (head ++ zeros ++ tail)).map (·, rest)
    | _ => none

def hex (group : UInt16) : List Char := Nat.toDigits 16 group.toNat

def groupChars (groups : List UInt16) : List Char := Text.join [':'] (groups.map hex)

/-- For every place, the length of the run of zeros that begins there. -/
def zeroRuns : List UInt16 → List Nat
  | [] => []
  | g :: gs =>
    let runs := zeroRuns gs
    (if g = 0 then runs.headD 0 + 1 else 0) :: runs

def chars (x : Ipv6) : List Char :=
  match x.groups with
  | [0, 0, 0, 0, 0, 0xffff, high, low] => "::ffff:".toList ++ (Ipv4.ofGroups high low).chars
  | groups =>
    let runs := zeroRuns groups
    let longest := runs.foldl max 0
    let start := runs.findIdx (· = longest)
    if 1 < longest then
      groupChars (groups.take start) ++ ':' :: ':' :: groupChars (groups.drop (start + longest))
    else groupChars groups

end Ipv6

namespace IpAddress

/-- The address that a whole text denotes. -/
def ofChars? (s : List Char) : Option IpAddress :=
  match Ipv4.read? s with
  | some (address, rest) => if rest = [] then some (.v4 address) else none
  | none =>
    match Ipv6.read? s with
    | some (address, rest) => if rest = [] then some (.v6 address) else none
    | none => none

end IpAddress

namespace SocketAddress

def chars (x : SocketAddress) : List Char :=
  let host := match x.ip with
    | .v4 address => address.chars
    | .v6 address => '[' :: (address.chars ++ [']'])
  host ++ ':' :: Nat.toDigits 10 x.port.toNat

/-- The address with its port; an IPv6 address stands in brackets. -/
def text (x : SocketAddress) : String := String.ofList x.chars

end SocketAddress
end BeanMetrics
