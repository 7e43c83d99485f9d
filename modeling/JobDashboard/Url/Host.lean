import JobDashboard.Net.Ipv6
import JobDashboard.Text.FormUrlencoded
import JobDashboard.Url.Domain

/-!
# Hosts in addresses

The host of a web address is an IPv6 address between brackets, an IPv4 address if its last part is a
number, or the name of a domain. Other schemes take any name that keeps the address readable.
-/

namespace JobDashboard

/-- What is wrong with an address. -/
inductive UrlError where
  | noScheme
  | emptyHost
  | invalidPort
  | invalidIpv4
  | invalidIpv6
  | invalidDomain
  | invalidHostCharacter
  /-- The address names something, but no place where paths could begin. -/
  | rootless (address : String)
deriving DecidableEq, Inhabited

def UrlError.message : UrlError → String
  | noScheme => "relative URL without a base"
  | emptyHost => "empty host"
  | invalidPort => "invalid port number"
  | invalidIpv4 => "invalid IPv4 address"
  | invalidIpv6 => "invalid IPv6 address"
  | invalidDomain => "invalid international domain name"
  | invalidHostCharacter => "invalid domain character"
  | rootless address => s!"{address} cannot be used as a base url"

inductive Host where
  | name (text : String)
  | ipv4 (address : Ipv4)
  | ipv6 (address : Ipv6)
deriving DecidableEq

namespace Host

/-- A number in a host: decimal, octal after a zero, or hexadecimal. -/
def number? (cs : List Char) : Option Nat :=
  let value (base : Nat) (digits : List Char) : Option Nat := do
    let ds ← digits.mapM Text.hexDigit?
    if ds.all (· < base) then some (ds.foldl (fun n d => base * n + d) 0) else none
  match cs with
  | [] => none
  | '0' :: 'x' :: digits | '0' :: 'X' :: digits => value 16 digits
  | ['0'] => some 0
  | '0' :: digits => value 8 digits
  | digits => value 10 digits

/-- The parts of a name, without the empty one after a last point. -/
def parts (cs : List Char) : List (List Char) :=
  let all := cs.splitOn '.'
  if 1 < all.length && all.getLast? = some [] then all.dropLast else all

/-- Whether the last part is a number, so that the whole has to be an IPv4 address. -/
def endsInNumber (cs : List Char) : Bool :=
  match (parts cs).getLast? with
  | some last => !last.isEmpty && (last.all Char.isDigit || (number? last).isSome)
  | none => false

/-- The address that up to four numbers spell; the last one fills the places that are left. -/
def ipv4OfNumbers? (ns : List Nat) : Option Ipv4 :=
  match ns.getLast? with
  | none => none
  | some last =>
    let leading := ns.dropLast
    if leading.length ≤ 3 ∧ leading.all (· < 256) ∧ last < Nat.pow 256 (4 - leading.length) then
      let high := (leading ++ List.replicate (4 - leading.length) 0).foldl (fun n d => 256 * n + d) 0
      some ⟨UInt32.ofNat (high + last)⟩
    else none

def ipv4? (cs : List Char) : Option Ipv4 := ((parts cs).mapM number?).bind ipv4OfNumbers?

def ipv6Host (cs : List Char) : Except UrlError Host :=
  match cs.getLast?, Ipv6.ofChars? cs.dropLast with
  | some ']', some a => .ok (.ipv6 a)
  | _, _ => .error .invalidIpv6

/-- The host of a web address. -/
def ofChars (cs : List Char) : Except UrlError Host :=
  match cs with
  | '[' :: rest => ipv6Host rest
  | cs =>
    let decoded := Utf8.decode? (FormUrlencoded.percentDecode (Utf8.encodeChars cs))
    match decoded.bind fun s => Domain.ofChars? s.toList with
    | none => .error .invalidDomain
    | some [] => .error .emptyHost
    | some domain =>
      if endsInNumber domain then
        match ipv4? domain with
        | some a => .ok (.ipv4 a)
        | none => .error .invalidIpv4
      else .ok (.name (.ofList domain))

/-- The host of an address of another scheme, which may be empty. -/
def ofOtherChars (cs : List Char) : Except UrlError Host :=
  match cs with
  | '[' :: rest => ipv6Host rest
  | cs =>
    if cs.any fun c => "\x00\t\n\r #/:<>?@[\\]^|".toList.contains c then .error .invalidHostCharacter
    else .ok (.name (.ofList cs))

def toString : Host → String
  | name text => text
  | ipv4 address => address.toString
  | ipv6 address => "[" ++ address.toString ++ "]"

end Host

end JobDashboard
