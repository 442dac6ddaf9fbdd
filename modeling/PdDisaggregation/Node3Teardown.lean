import PdDisaggregation.NfsRollback
import PdDisaggregation.RamRuns

/-! `rollback-phase2.sh --execute` and what it runs on node3: the `ExecStop`
scripts of the three units, one after the other, then `remove-persistence.sh`. -/

namespace PdDisaggregation

open Script

/-- `trafficClass` holds the lines of `RULE_FILE`, `scripts` the content of
`TARGET_DIR`. `serverEnabled` is whether systemd starts `nfs-server` with every boot. -/
structure Node3 where
  nfs : NfsHost
  ram : RamHost
  trafficClass : Option (List Text)
  serverUnit : Bool
  ramUnit : Bool
  tosUnit : Bool
  scripts : List String
  unitFiles : List String
  serverEnabled : Bool

inductive TosCommand where
  | printfRuleFile
  deriving DecidableEq

/-- Commands of `rollback-phase2.sh` outside node3. What unmounting the client
changes there shows in the state node3 is found in. -/
inductive LocalStep where
  | baselinePresent
  | baselineMaxModelLen
  | baselineKvCacheDtype
  | kubectlApply
  | waitDeployment
  | waitPod (role : String)
  | getPod (role : String)
  | nvidiaSmi (role : String)
  | cudaAvailable (role : String)
  | stopClientUnit
  | stopTosUnit
  | removeNode1Persistence
  | ssh
  | validateGdr
  | validateRoce
  | validateDynamo
  | resetStatistics (parameter : String)

def tosKey : Text := "src_ip=172.31.230.113,dst_ip=172.31.230.111/32".toList

def tosRule : Text := tosKey ++ ",tclass=106".toList

/-- The rule of the pair, whatever its class. -/
def ofTosPair (line : Text) : Bool := (tosKey ++ ",tclass=".toList).isPrefixOf line

def tosRuleAbsent (lines : List Text) : Bool := !lines.any (Text.contains tosKey)

namespace Node3

def exported (n : Node3) : Bool :=
  n.nfs.packageInstalled && n.nfs.activeExports.any (Text.contains exportPath.toList)

/-- Writing `tclass=-1` deletes the rule of the pair. -/
def clearTosRule (n : Node3) : Node3 :=
  { n with trafficClass := n.trafficClass.map (·.filter (!ofTosPair ·)) }

end Node3

def rdmaCmTos106Remove : Script TosCommand String Node3 Unit := do
  dieUnless (← read (·.trafficClass.isSome)) "RDMA traffic-class control is absent"
  dieUnless (← read (·.nfs.hasServerIp))
    "host is neither the approved node1 nor node3 storage endpoint"
  if ← read (·.trafficClass.any (·.contains tosRule)) then
    exec .printfRuleFile Node3.clearTosRule
  dieUnless (← read (·.trafficClass.all tosRuleAbsent)) "ToS rule remains after removal"

def serverStop : String := "node3-nfs-rdma-rollback.sh"

def ramStop : String := "stop-ram-storage.sh"

def tosStop : String := "rdma-cm-tos106.sh"

def removeScript : String := "remove-persistence.sh"

/-- `refused` lists the scripts of `TARGET_DIR` that did not end well. -/
structure Node3Run where
  node3 : Node3
  refused : List String := []
  result : Except String Unit := .ok ()

/-- An active oneshot unit runs its `ExecStop`, and whatever that did stays. -/
def execStop {κ σ : Type} (active : Bool) (installed : List String) (script : String)
    (stop : Script κ String σ Unit) (s : σ) : σ × List String :=
  if active && installed.contains script then
    match (stop s).result with
    | .ok () => ((stop s).state, [])
    | .error _ => ((stop s).state, [script])
  else (s, [])

def stopServerUnit (n : Node3) : Node3Run :=
  let r := execStop n.serverUnit n.scripts serverStop (node3NfsRdmaRollback {}) n.nfs
  { node3 := { n with nfs := r.1, serverUnit := false }, refused := r.2 }

def stopRamUnit (n : Node3) : Node3Run :=
  let r := execStop n.ramUnit n.scripts ramStop (stopRamStorage {})
    { n.ram with exported := n.exported }
  { node3 := { n with ram := r.1, ramUnit := false }, refused := r.2 }

def stopTosUnit (n : Node3) : Node3Run :=
  let r := execStop n.tosUnit n.scripts tosStop rdmaCmTos106Remove n
  { node3 := { r.1 with tosUnit := false }, refused := r.2 }

def removePersistence (n : Node3) : Except String Node3 :=
  if n.scripts.contains removeScript then
    if n.nfs.hasServerIp then
      .ok { n with
        serverUnit := false, ramUnit := false, tosUnit := false
        unitFiles := n.unitFiles.filter fun f =>
          f != "dynamo-phase2-nfs-rdma-server.service" &&
            f != "dynamo-phase2-ram-storage.service" && f != "dynamo-phase2-rdma-tos.service"
        scripts := [] }
    else .error "host is neither the approved node1 nor node3 storage endpoint"
  else .error "remove-persistence.sh: No such file or directory"

/-- The commands are separated by `;`: only the last one's status is seen. -/
def teardown (n : Node3) : Node3Run :=
  let server := stopServerUnit n
  let ram := stopRamUnit server.node3
  let tos := stopTosUnit ram.node3
  let refused := server.refused ++ ram.refused ++ tos.refused
  match removePersistence tos.node3 with
  | .ok t => { node3 := t, refused := refused }
  | .error e => { node3 := tos.node3, refused := refused, result := .error e }

def beforeNode3 : List LocalStep :=
  [.baselinePresent, .baselineMaxModelLen, .baselineKvCacheDtype, .kubectlApply, .waitDeployment,
    .waitPod "prefill", .waitPod "decode",
    .getPod "prefill", .nvidiaSmi "prefill", .cudaAvailable "prefill",
    .getPod "decode", .nvidiaSmi "decode", .cudaAvailable "decode",
    .stopClientUnit, .stopTosUnit, .removeNode1Persistence, .ssh]

def afterNode3 : List LocalStep :=
  [.validateGdr, .validateRoce, .validateDynamo,
    .resetStatistics "rw_stats_enabled", .resetStatistics "peer_stats_enabled"]

/-- `set -e`: the first step that fails ends the script. -/
def runSteps (succeeds : LocalStep → Bool) : List LocalStep → Except String Unit
  | [] => .ok ()
  | step :: steps => if succeeds step then runSteps succeeds steps else .error "step failed"

/-- A run that ends without an error has printed the final `PASS` line. -/
def rollbackPhase2 (succeeds : LocalStep → Bool) (n : Node3) : Node3Run :=
  match runSteps succeeds beforeNode3 with
  | .error e => { node3 := n, result := .error e }
  | .ok () =>
    let r := teardown n
    match r.result with
    | .error _ => r
    | .ok () => { r with result := runSteps succeeds afterNode3 }

section

variable {κ σ : Type} {active : Bool} {installed : List String} {script : String}
  {stop : Script κ String σ Unit} {s : σ}

/-- The `ExecStop` of the unit is run by a stop. -/
def StopRuns (active : Bool) (installed : List String) (script : String) : Prop :=
  active = true ∧ script ∈ installed

theorem execStop_idle (h : ¬ StopRuns active installed script) :
    execStop active installed script stop s = (s, []) := by
  have hh : ¬ (active && installed.contains script) = true := by
    rwa [Bool.and_eq_true, List.contains_iff_mem]
  rw [execStop, if_neg hh]

theorem execStop_runs (h : StopRuns active installed script) :
    execStop active installed script stop s =
      match (stop s).result with
      | .ok () => ((stop s).state, [])
      | .error _ => ((stop s).state, [script]) := by
  have hh : (active && installed.contains script) = true := by
    rwa [Bool.and_eq_true, List.contains_iff_mem]
  rw [execStop, if_pos hh]

theorem execStop_clean (h : StopRuns active installed script) :
    (execStop active installed script stop s).2 = [] ↔
      Ends stop s (.ok ()) (execStop active installed script stop s).1 := by
  rw [execStop_runs h]
  cases hr : (stop s).result with
  | ok a => exact ⟨fun _ => ⟨hr, rfl⟩, fun _ => rfl⟩
  | error e =>
    constructor
    · intro hn
      contradiction
    · rintro ⟨hok, -⟩
      rw [hr] at hok
      contradiction

theorem execStop_refused :
    ∀ name ∈ (execStop active installed script stop s).2, name = script ∧ script ∈ installed := by
  by_cases h : StopRuns active installed script
  · intro name hname
    refine ⟨?_, h.2⟩
    rw [execStop_runs h] at hname
    cases hr : (stop s).result with
    | ok a =>
      rw [hr] at hname
      contradiction
    | error e =>
      rw [hr] at hname
      exact List.mem_singleton.mp hname
  · intro name hname
    rw [execStop_idle h] at hname
    contradiction

end

end PdDisaggregation
