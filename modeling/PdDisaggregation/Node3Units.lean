import PdDisaggregation.NfsSetup
import PdDisaggregation.Node3Teardown

/-! The three units of node3 as systemd starts and stops them, `install-persistence.sh`, and
everything that can happen to node3 while they are in use: runs of their scripts cut
anywhere, power losses, boots. -/

namespace PdDisaggregation

open Script

inductive Node3Unit where
  | tos
  | ram
  | server
  deriving DecidableEq

namespace Node3Unit

def file : Node3Unit → String
  | tos => "dynamo-phase2-rdma-tos.service"
  | ram => "dynamo-phase2-ram-storage.service"
  | server => "dynamo-phase2-nfs-rdma-server.service"

/-- The script of its `ExecStart`. -/
def startScript : Node3Unit → String
  | tos => "rdma-cm-tos106.sh"
  | ram => "start-ram-storage.sh"
  | server => "node3-nfs-rdma-setup.sh"

end Node3Unit

/-- `findmnt` and a look for the marker below the mount point: the mount made last counts. -/
def RamHost.markerAt (s : RamHost) (mountPoint : String) : Bool :=
  match s.mounts.find? (·.target == mountPoint) with
  | some m => s.hasMarker m.source
  | none => false

/-- A server that is enabled is up, with what `/etc` has, before any unit of Phase 2 is
started: none of them comes before it. -/
def NfsHost.reboot (s : NfsHost) (enabled : Bool) : NfsHost :=
  let off := { s with
    nfsServer := if s.nfsServer = .missing then .missing else .inactive
    rpcrdma := false, threads := 0, portlist := [], activeExports := [] }
  if enabled then
    match off.startServer with
    | .ok t => t
    | .error _ => off
  else off

namespace Node3

/-- What `node3-nfs-rdma-setup.sh` and its rollback find. -/
def nfsView (n : Node3) : NfsHost := { n.nfs with ramMarker := n.ram.markerAt exportPath }

/-- What the two RAM scripts find. -/
def ramView (n : Node3) : RamHost := { n.ram with exported := n.exported }

/-- A rule that is written takes the place of the pair's rule before it. -/
def setTosRule (n : Node3) : Node3 :=
  { n with trafficClass := n.trafficClass.map fun lines =>
      lines.filter (!ofTosPair ·) ++ [tosRule] }

def canStart (n : Node3) (u : Node3Unit) : Bool :=
  n.unitFiles.contains u.file && n.scripts.contains u.startScript

/-- Modules, mounts, the RAM disk and all that runs are lost, files stay. The driver starts
with `rules`. -/
def powerLoss (rules : List Text) (n : Node3) : Node3 :=
  { n with
    nfs := n.nfs.reboot n.serverEnabled
    ram := n.ram.reboot
    trafficClass := n.trafficClass.map fun _ => rules
    serverUnit := false, ramUnit := false, tosUnit := false }

end Node3

/-- `rdma-cm-tos106.sh apply` -/
def rdmaCmTos106Apply : Script TosCommand String Node3 Unit := do
  dieUnless (← read (·.trafficClass.isSome)) "RDMA traffic-class control is absent"
  dieUnless (← read (·.nfs.hasServerIp))
    "host is neither the approved node1 nor node3 storage endpoint"
  if !(← read (·.trafficClass.any (·.contains tosRule))) then
    exec .printfRuleFile Node3.setTosRule
  dieUnless (← read (·.trafficClass.any (·.contains tosRule))) "ToS 106 rule read-back failed"

/-- A oneshot unit that is not active runs its `ExecStart`, and is active if that went well. -/
def execStart {κ σ : Type} (active possible : Bool) (start : Script κ String σ Unit) (s : σ) :
    σ × Bool :=
  if active then (s, true)
  else if possible then
    match (start s).result with
    | .ok () => ((start s).state, true)
    | .error _ => ((start s).state, false)
  else (s, false)

def startTosUnit (n : Node3) : Node3 :=
  let r := execStart n.tosUnit (n.canStart .tos) rdmaCmTos106Apply n
  { r.1 with tosUnit := r.2 }

def startRamUnit (n : Node3) : Node3 :=
  let r := execStart n.ramUnit (n.canStart .ram) (startRamStorage {}) n.ramView
  { n with ram := r.1, ramUnit := r.2 }

/-- `Requires=` and `After=` the RAM unit. -/
def startServerUnit (n : Node3) : Node3 :=
  let m := startRamUnit n
  if m.ramUnit then
    let r := execStart m.serverUnit (m.canStart .server) (node3NfsRdmaSetup {}) m.nfsView
    { m with nfs := r.1, serverUnit := r.2 }
  else m

def startUnit (n : Node3) : Node3Unit → Node3
  | .tos => startTosUnit n
  | .ram => startRamUnit n
  | .server => startServerUnit n

/-- A stop of the RAM unit stops the server, which requires it, first. -/
def stopUnit (n : Node3) : Node3Unit → Node3
  | .tos => (stopTosUnit n).node3
  | .ram => (stopRamUnit (stopServerUnit n).node3).node3
  | .server => (stopServerUnit n).node3

def Node3.active (n : Node3) : Node3Unit → Bool
  | .tos => n.tosUnit
  | .ram => n.ramUnit
  | .server => n.serverUnit

/-- The order in which `install-persistence.sh` starts them, which is one a boot can take. -/
def node3Units : List Node3Unit := [.tos, .ram, .server]

/-- A boot starts what is enabled, and goes on whatever fails. -/
def boot (enabled : List Node3Unit) (n : Node3) : Node3 :=
  (node3Units.filter (enabled.contains ·)).foldl startUnit n

/-- The scripts go over those that are there, so do units that differ. -/
def installFiles (n : Node3) : Node3 :=
  { n with
    scripts := n.scripts ∪ ["rdma-cm-tos106.sh", "remove-persistence.sh", "start-ram-storage.sh",
      "stop-ram-storage.sh", "node3-nfs-rdma-setup.sh", "node3-nfs-rdma-rollback.sh"]
    unitFiles := n.unitFiles ∪ node3Units.map Node3Unit.file }

/-- A start that fails ends the script before it asks whether the unit is active. -/
def startUnits (n : Node3) : List Node3Unit → Node3 × Except String Unit
  | [] => (n, .ok ())
  | u :: units =>
    if (startUnit n u).active u then startUnits (startUnit n u) units
    else (startUnit n u, .error ("systemctl start " ++ u.file))

/-- `install-persistence.sh` on node3, which enables all three units. -/
def installPersistence (n : Node3) : Node3 × Except String Unit :=
  if n.nfs.hasServerIp then startUnits (installFiles n) node3Units
  else ({ n with
      scripts := n.scripts ∪ ["rdma-cm-tos106.sh", "remove-persistence.sh"]
      unitFiles := n.unitFiles ∪ [Node3Unit.file .tos] },
    .error "host is neither the approved node1 nor node3 storage endpoint")

/-- What can happen to node3 while its power is on. Every script may stop anywhere, because it
ends or because it is killed, a setup only where `killed`. Who runs the scripts, what systemd
holds of its units and which files of theirs are installed is left open, and so are the
clients, the users of the disk and the memory in use. What a script finds of the disk or of
the exports is looked up before it runs. -/
inductive Node3Change (killed : Prop) : Node3 → Node3 → Prop
  | applyTos {n t : Node3} (done : List TosCommand) (h : Stops rdmaCmTos106Apply n done t) :
      Node3Change killed n t
  | removeTos {n t : Node3} (done : List TosCommand) (h : Stops rdmaCmTos106Remove n done t) :
      Node3Change killed n t
  | startRam {n : Node3} {t : RamHost} (done : List StartCommand)
      (h : Stops (startRamStorage {}) n.ramView done t) : Node3Change killed n { n with ram := t }
  | stopRam {n : Node3} {t : RamHost} (done : List StopCommand)
      (h : Stops (stopRamStorage {}) n.ramView done t) : Node3Change killed n { n with ram := t }
  | setup {n : Node3} {t : NfsHost} (r : Except String Unit)
      (h : Ends (node3NfsRdmaSetup {}) n.nfsView r t) : Node3Change killed n { n with nfs := t }
  | setupKilled {n : Node3} {t : NfsHost} (done : List SetupCommand) (hk : killed)
      (h : Stops (node3NfsRdmaSetup {}) n.nfsView done t) :
      Node3Change killed n { n with nfs := t }
  | rollback {n : Node3} {t : NfsHost} (done : List RollbackCommand)
      (h : Stops (node3NfsRdmaRollback {}) n.nfs done t) : Node3Change killed n { n with nfs := t }
  | units (n : Node3) (server ram tos : Bool) (scripts unitFiles : List String) :
      Node3Change killed n { n with
        serverUnit := server, ramUnit := ram, tosUnit := tos
        scripts := scripts, unitFiles := unitFiles }
  | others (n : Node3) (showmount : Option (List Text)) (openUsers ramMarker exported : Bool)
      (memTotalKib memAvailableKib : Nat) :
      Node3Change killed n { n with
        nfs := { n.nfs with showmount := showmount, ramMarker := ramMarker }
        ram := { n.ram with
          openUsers := openUsers, exported := exported
          memTotalKib := memTotalKib, memAvailableKib := memAvailableKib } }

/-- A loss of power, which may cut a setup off. -/
inductive Node3Outage : Node3 → Node3 → Prop
  | idle (n : Node3) (rules : List Text) (hr : tosRuleAbsent rules = true) :
      Node3Outage n (n.powerLoss rules)
  | setup {n : Node3} {t : NfsHost} (done : List SetupCommand) (rules : List Text)
      (h : Stops (node3NfsRdmaSetup {}) n.nfsView done t) (hr : tosRuleAbsent rules = true) :
      Node3Outage n (Node3.powerLoss rules { n with nfs := t })

inductive Node3Step (killed : Prop) : Node3 → Node3 → Prop
  | change {n t : Node3} (h : Node3Change killed n t) : Node3Step killed n t
  | outage {n t : Node3} (h : Node3Outage n t) : Node3Step killed n t

abbrev Node3Reaches (killed : Prop) := Relation.ReflTransGen (Node3Step killed)

end PdDisaggregation
