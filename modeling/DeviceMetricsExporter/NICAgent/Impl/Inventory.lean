import DeviceMetricsExporter.Lib.GoStrings
import DeviceMetricsExporter.NICAgent.Impl.Labels

/-!
This module contains the inventory of the NICs with their ports and LIFs, as it is read once from
`nicctl` and `lspci`.
-/

namespace NICAgent

structure CardInfo where
  id : String
  serialNumber : String
  ethBDF : String
  firmwareVersion : String

structure PortInfo where
  id : String
  name : String

structure LifInfo where
  id : String
  name : String

/--
What the commands print, already unmarshalled. `lspci` lists the lines for a pattern.
-/
structure Commands where
  showCard : Except String (List CardInfo)
  showPort : String → Except String (List (String × List PortInfo))
  showLif : String → Except String (List (String × List LifInfo))
  lspci : String → Except String String

namespace Commands

variable (cmds : Commands)

def getPCIeAddress (ethBDF : String) : Except String String :=
  match split ethBDF ':' with
  | _ :: bus :: rest :: _ =>
    let device := (split rest '.').headD ""
    -- combine as "bus.device" for grep
    match cmds.lspci (bus ++ "." ++ device) with
    | .error err => .error err
    | .ok out =>
      match split (trimSpace out) '\n' with
      | _ :: pcieAddr :: _ => .ok ("0000:" ++ pcieAddr)
      | _ => .error "could not find PCIe address for VF"
  | _ => .error ("invalid ethBDF format: " ++ ethBDF)

def newNIC (card : CardInfo) (index : Nat) : NIC where
  index := index.repr
  uuid := card.id
  serialNumber := card.serialNumber
  firmwareVersion := card.firmwareVersion
  lifs := ∅
  ethBDF := card.ethBDF

def newPorts (ports : List PortInfo) : GoMap String Port :=
  GoMap.insertEach ∅ ports.zipIdx (·.1.id) fun p =>
    { index := p.2.repr
      uuid := p.1.id
      name := p.1.name }

/--
A nil pointer if the card of the response is not one of the cards.
-/
def setPorts (nics : GoMap String NIC) (resp : String × List PortInfo) : Option (GoMap String NIC) := do
  let nic ← nics.lookup resp.1
  return nics.insert resp.1 { nic with ports := newPorts resp.2 }

def addCard (nics : GoMap String NIC) (card : CardInfo × Nat) : Option (GoMap String NIC) :=
  let nics := nics.insert card.1.id (newNIC card.1 card.2)
  match cmds.showPort card.1.id with
  | .error _ => some nics
  | .ok resp => resp.foldlM setPorts nics

def addLif (nic : NIC) (lif : LifInfo × Nat) : NIC :=
  let newLif : Lif :=
    { name := lif.1.name
      uuid := lif.1.id }
  if lif.2 = 0 then
    -- assume first LIF is the PF
    let pf := { newLif with
      isPF := true
      pcieAddress := nic.ethBDF }
    { nic with lifs := nic.lifs.insert lif.1.id pf }
  else
    match cmds.getPCIeAddress nic.ethBDF with
    | .error _ => { nic with lifs := nic.lifs.insert lif.1.id newLif }
    | .ok pcieAddr =>
      if pcieAddr = "" then
        { nic with lifs := nic.lifs.insert lif.1.id newLif }
      else
        { nic with
          sriovConfiguredOnHost := true
          lifs := nic.lifs.insert lif.1.id { newLif with pcieAddress := pcieAddr } }

def setLifs (nics : GoMap String NIC) (resp : String × List LifInfo) : Option (GoMap String NIC) := do
  let nic ← nics.lookup resp.1
  return nics.insert resp.1 (resp.2.zipIdx.foldl cmds.addLif { nic with lifs := ∅ })

def addLifs (nics : GoMap String NIC) (card : CardInfo) : Option (GoMap String NIC) :=
  match cmds.showLif card.id with
  | .error _ => some nics
  | .ok resp => resp.foldlM cmds.setLifs nics

/--
The inventory, or the error of the first command. `none` is a nil pointer.
-/
def getNICs : Option (Except String (GoMap String NIC)) :=
  match cmds.showCard with
  | .error err => some (.error err)
  | .ok cards => do
    let nics ← cards.zipIdx.foldlM cmds.addCard ∅
    let nics ← cards.foldlM cmds.addLifs nics
    return .ok nics

end Commands

end NICAgent
