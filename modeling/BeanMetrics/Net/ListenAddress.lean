import BeanMetrics.Net.IpAddress

/-!
The address to listen on, written as a port or as `host:port`. A port alone means all interfaces.
The host is `localhost`, an IPv4 address, or an address in brackets; the brackets are a must for
IPv6.
-/

namespace BeanMetrics
namespace ListenAddress

inductive Fault where
  | portNotANumber
  | portZero
  | emptyHost
  | unterminatedBracket
  | bareIpv6
  | notAHost
  deriving DecidableEq, Repr

def Fault.message : Fault → String
  | .portNotANumber => "port is not a number"
  | .portZero => "port must be greater than 0"
  | .emptyHost => "empty host"
  | .unterminatedBracket => "unterminated '['"
  | .bareIpv6 => "IPv6 hosts must be written in brackets"
  | .notAHost => "host is not an IP address or 'localhost'"

/-- A port: decimal digits, behind a plus sign or not, below `2 ^ 16`. -/
def port? (s : List Char) : Option UInt16 :=
  let digits := match s with
    | '+' :: rest => rest
    | _ => s
  ((Text.number? 10 digits).filter (· < Nat.pow 2 16)).map UInt16.ofNat

def host (s : List Char) : Except Fault IpAddress :=
  if s = [] then .error .emptyHost
  else if s = "localhost".toList then .ok (.v4 .localhost)
  else
    let unbracketed : Except Fault (List Char) := match s with
      | '[' :: bracketed =>
        match Text.dropEnd? [']'] bracketed with
        | some inner => .ok inner
        | none => .error .unterminatedBracket
      | _ => if ':' ∈ s then .error .bareIpv6 else .ok s
    match unbracketed with
    | .error fault => .error fault
    | .ok inner =>
      match IpAddress.ofChars? inner with
      | some address => .ok address
      | none => .error .notAHost

/-- Reads a listen address. The port is looked at before the host. -/
def ofChars (s : List Char) : Except Fault SocketAddress :=
  let (hostPart, portPart) : Option (List Char) × List Char :=
    match Text.splitLast ':' s with
    | some (hostPart, portPart) => (some hostPart, portPart)
    | none => (none, s)
  match port? portPart with
  | none => .error .portNotANumber
  | some port =>
    if port = 0 then .error .portZero
    else match hostPart with
      | none => .ok ⟨.v4 .unspecified, port⟩
      | some hostPart => (host hostPart).map (⟨·, port⟩)

def ofText (text : String) : Except Fault SocketAddress := ofChars text.toList

end ListenAddress
end BeanMetrics
