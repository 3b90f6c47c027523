import AgentIntake.Net.Numeric
import AgentIntake.Text.Blank

/-!
# Hosts of health probes

The configured hosts from which load balancers probe, as addresses.  White space around a host does
not count and blank hosts are left out.  A host that is an address stands for itself; any other is
looked up.  One host that cannot be resolved fails the whole list.  The addresses come in the order
of the hosts, each at its first occurrence.
-/

namespace AgentIntake

namespace Probe

/-- What is wrong with a host: its lookup failed, or it was looked up to no address. -/
inductive Failure where
  | lookup (host : String) (cause : String)
  | empty (host : String)
  deriving DecidableEq, Inhabited

namespace Failure

/-- The wording. -/
def message : Failure → String
  | lookup host cause => s!"failed to resolve probe host '{host}': {cause}"
  | empty host => s!"probe host '{host}' resolved to no addresses"

/-- The texts of what lies behind. -/
def causes : Failure → List String
  | lookup _ cause => [cause]
  | empty _ => []

end Failure

/-- A lookup of names: the addresses of a host, or what went wrong. -/
abbrev Lookup := String → Except String (List IpAddress)

/-- The addresses so far with those of `more` that are new. -/
def addNew (addresses : List IpAddress) : List IpAddress → List IpAddress
  | [] => addresses
  | a :: more => addNew (if a ∈ addresses then addresses else addresses ++ [a]) more

/-- The addresses of one host that is not blank. -/
def resolveHost (lookup : Lookup) (host : String) : Except Failure (List IpAddress) :=
  match IpAddress.ofText? host with
  | some address => .ok [address]
  | none =>
    match lookup host with
    | .error cause => .error (.lookup host cause)
    | .ok [] => .error (.empty host)
    | .ok addresses => .ok addresses

/-- The addresses so far with those of further hosts. -/
def resolveOnto (lookup : Lookup) (addresses : List IpAddress) :
    List String → Except Failure (List IpAddress)
  | [] => .ok addresses
  | host :: hosts =>
    if (Blank.trim host).isEmpty then resolveOnto lookup addresses hosts
    else
      match resolveHost lookup (Blank.trim host) with
      | .error failure => .error failure
      | .ok found => resolveOnto lookup (addNew addresses found) hosts

/-- The addresses of a list of hosts. -/
def resolve (lookup : Lookup) (hosts : List String) : Except Failure (List IpAddress) :=
  resolveOnto lookup [] hosts

/-- A lookup that knows no names: only the numeric forms of addresses. -/
def offline : Lookup := fun host =>
  if host.toList.contains '\x00' then .error "file name contained an unexpected NUL byte"
  else
    match Address.numeric? host with
    | some address => .ok [.v4 address]
    | none => .error "failed to lookup address information: Temporary failure in name resolution"

end Probe

end AgentIntake
