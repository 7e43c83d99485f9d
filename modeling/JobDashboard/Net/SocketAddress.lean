import JobDashboard.Net.Ipv6

/-!
# Socket addresses

Where the server listens: an IPv4 address, or an IPv6 address between brackets and perhaps a scope,
and a port.
-/

namespace JobDashboard

inductive SocketAddress where
  | v4 (address : Ipv4) (port : UInt16)
  | v6 (address : Ipv6) (scope : UInt32) (port : UInt16)
deriving DecidableEq

namespace SocketAddress

/-- A scope after a percent sign. -/
def scope? : List Char → Option UInt32
  | [] => some 0
  | '%' :: digits => ((Text.digits? digits).filter (· < UInt32.size)).map UInt32.ofNat
  | _ => none

/-- The address of a host, which has to be an address, and a port. -/
def ofHost? (host : String) (port : UInt16) : Option SocketAddress :=
  match host.toList with
  | '[' :: rest =>
    match rest.getLast? with
    | some ']' => do
      let inside := rest.dropLast
      let address ← Ipv6.ofChars? (inside.takeWhile (· ≠ '%'))
      let scope ← scope? (inside.dropWhile (· ≠ '%'))
      return .v6 address scope port
    | _ => none
  | cs => (Ipv4.ofChars? cs).map (.v4 · port)

def toString : SocketAddress → String
  | .v4 address port => s!"{address.toString}:{port.toNat}"
  | .v6 address scope port =>
    let suffix := if scope = 0 then "" else "%" ++ Nat.repr scope.toNat
    "[" ++ address.toString ++ suffix ++ "]:" ++ Nat.repr port.toNat

end SocketAddress

end JobDashboard
