import DutFixtures.Console
import DutFixtures.Event
import DutFixtures.Failure
import DutFixtures.Ipv6

namespace DutFixtures

/-- An address of either family. Of an IPv6 address only its text matters here. -/
inductive IpAddress where
  | v4 (address : Ipv4)
  | v6 (text : String)
  deriving DecidableEq, Repr

def IpAddress.v4? : IpAddress → Option Ipv4
  | .v4 address => some address
  | .v6 _ => none

/-- What the host knows about the network: the addresses of a name, and the address
from which it would send to a destination. Both may fail with the system's text. -/
structure Host where
  lookup : String → Except String (List IpAddress)
  sourceTowards : Ipv4 → Except String IpAddress

/-- The text of the system for a name that cannot be passed to it. -/
def nulInName : String := "file name contained an unexpected NUL byte"

/-- The addresses of a destination. Written addresses stand for themselves. -/
def Host.addresses (host : Host) (dest : String) : Except String (List IpAddress) :=
  match Ipv4.parse? dest with
  | some ip => .ok [.v4 ip]
  | none =>
    if isIpv6 dest then .ok [.v6 dest]
    else if dest.toList.contains '\x00' then .error nulInName
    else host.lookup dest

/-- The destination that is probed when none is named. -/
def publicProbeDest : String := "8.8.8.8"

/-- The port of the probe. Nothing is ever sent to it. -/
def probePort : Nat := 80

/-- A result together with the events that were logged on the way. -/
structure Logged (α : Type) where
  log : List Event
  outcome : Except Failure α
  deriving Repr

def probeEvent (ip : Ipv4) : Event :=
  ⟨.debug, .network, "Probing outbound route to " ++ ip.text ++ ":" ++ toString probePort⟩

def hostIpEvent (ip : Ipv4) : Event :=
  ⟨.info, .network, "Using host ip: " ++ ip.text⟩

def dutIpEvent (ip : Ipv4) : Event :=
  ⟨.info, .network, "Got DUT IP=" ++ ip.text⟩

/-- Asks for the route to an address, for a destination of the given name. -/
def Host.probe (host : Host) (dest : String) (ip : Ipv4) : Logged Ipv4 :=
  match host.sourceTowards ip with
  | .error text => ⟨[probeEvent ip], .error (.host text)⟩
  | .ok (.v4 source) => ⟨[probeEvent ip, hostIpEvent source], .ok source⟩
  | .ok (.v6 source) =>
    ⟨[probeEvent ip],
      .error (.noIpv4Address ("route to " ++ dest ++ " uses IPv6 source " ++ source))⟩

/-- The address of the host as it is seen from a destination: the source address of
the route to the first IPv4 address of that destination. -/
def Host.ipTowards (host : Host) (dest : Option String) : Logged Ipv4 :=
  let dest := (dest.filter (· ≠ "")).getD publicProbeDest
  match host.addresses dest with
  | .error text => ⟨[], .error (.host text)⟩
  | .ok addresses =>
    match addresses.findSome? IpAddress.v4? with
    | none => ⟨[], .error (.noIpv4Address (dest ++ " does not resolve to IPv4"))⟩
    | some ip => host.probe dest ip

structure DutLink where
  dutIp : Ipv4
  hostIp : Ipv4
  deriving DecidableEq, Repr

/-- The address that a DUT reports on its console, and that of the host towards it. -/
def Host.linkOnConsole (host : Host) (console : String) : Logged DutLink :=
  match dutAddress console with
  | none => ⟨[], .error .dutIpNotFound⟩
  | some dutIp =>
    let probed := host.ipTowards (some dutIp.text)
    ⟨dutIpEvent dutIp :: probed.log, probed.outcome.map fun hostIp => ⟨dutIp, hostIp⟩⟩

/-- A host without a network: it knows its own name and has no route at all. -/
def Host.offline : Host where
  lookup name :=
    if name = "localhost" then .ok [.v4 ⟨127, 0, 0, 1⟩]
    else .error "failed to lookup address information: Temporary failure in name resolution"
  sourceTowards _ := .error "Network is unreachable (os error 101)"

end DutFixtures
