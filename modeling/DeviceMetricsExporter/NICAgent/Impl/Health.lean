import DeviceMetricsExporter.NICAgent.Impl.Inventory

/-!
This module contains the health of the NICs: a LIF is as healthy as its interface is up.
-/

namespace NICAgent

structure NICState where
  device : String
  uuid : String
  health : String
  deriving DecidableEq

/--
What the health check depends on besides the inventory. `showLif` has the admin states of the LIFs of
each NIC of the response.
-/
structure HealthEnv where
  interfaceAdminDownAsUnhealthy : Option Bool
  nicctlActive : Bool
  showLif : String → Except String (List (List String))

/--
`none` is an index out of range.
-/
def HealthEnv.getAdminStatus (env : HealthEnv) (lifUUID : String) : Option (Except String String) :=
  match env.showLif lifUUID with
  | .error err => some (.error err)
  | .ok nics => do
    let nic ← nics.head?
    let adminState ← nic.head?
    return .ok adminState

def healthOf (adminState : String) : String :=
  if adminState = "up" then "healthy"
  else if adminState = "down" then "unhealthy"
  else ""

def NIC.isSkipped (nic : NIC) (lif : Lif) : Bool :=
  lif.pcieAddress = "" || lif.isPF && nic.sriovConfiguredOnHost

namespace HealthEnv

variable (env : HealthEnv)

def lifHealth (nicHealthMap : GoMap String NICState) : List (NIC × Lif)
    → Option (Except String (GoMap String NICState))
  | [] => some (.ok nicHealthMap)
  | (nic, lif) :: lifs =>
    if nic.isSkipped lif then
      lifHealth nicHealthMap lifs
    else
      match env.getAdminStatus lif.uuid with
      | none => none
      | some (.error err) => some (.error err)
      | some (.ok adminState) =>
        let nicState : NICState :=
          { device := lif.pcieAddress
            uuid := lif.uuid
            health := healthOf adminState }
        lifHealth (nicHealthMap.insert lif.pcieAddress nicState) lifs

/--
The health states for one order in which `range` visits the NICs and their LIFs.
-/
def getNICHealthStates (lifs : List (NIC × Lif)) (nics : GoMap String NIC)
    : Option (Except String (GoMap String NICState)) :=
  if env.interfaceAdminDownAsUnhealthy = some false then
    some (.ok ∅)
  else if nics.entries = [] then
    some (.ok ∅)
  else if ¬env.nicctlActive then
    some (.error "nicctl client is not active")
  else
    env.lifHealth ∅ lifs

end HealthEnv

def allLifs (nics : GoMap String NIC) : List (NIC × Lif) :=
  nics.entries.flatMap fun e => e.2.lifs.entries.map fun l => (e.2, l.2)

end NICAgent
