import PdDisaggregation.CollectorRequests
import PdDisaggregation.ScriptTriple

/-! `demo-kv-offload-reload.sh` as the script that starts and stops samplers on two other
nodes, a pair of them for each request. -/

namespace PdDisaggregation.Demo

open Script

/-- `roce-${label}-${node}.csv` -/
structure RoceFile where
  label : String
  node : String
  deriving DecidableEq

structure RoceSampler where
  file : RoceFile
  pid : Nat
  deriving DecidableEq

/-- `unwaited` are the samplers that were started and have not been waited for. One that ended
by itself, its connection lost, is still among them: the script does not look. -/
structure Host where
  unwaited : List RoceSampler
  lastPid : Nat
  roceSamplerPids : List Nat
  roceSamplerFiles : List RoceFile
  deriving DecidableEq

/-- Before the script has started a sampler. -/
def idleHost : Host := ⟨[], 0, [], []⟩

/-- A command that has no part in the samplers and ends the script if it fails. -/
inductive Step where
  | prepare
  | jq (key : String)
  | readyPod (app : String)
  | kubectlCp (file : String)
  | captureSnapshot (label : String)
  | metricValue (file metric : String)
  | liveMetricValue (metric : String) (sample : Nat)
  | kubectlLogs (file : String)
  | catSummary
  | printfStatuses
  | validateGds
  deriving DecidableEq

inductive Command where
  | ssh (file : RoceFile)
  | addPid
  | addFile
  | sleep
  | kill (pid : Nat)
  | wait (pid : Nat)
  | clearPids
  | clearFiles
  | inpodRequest (sample : Nat)
  | catConsole (sample : Nat)
  | waitForCounterDelta (metric : String) (sample : Nat)
  | summarize
  | step (s : Step)
  deriving DecidableEq

inductive Failure where
  | refused (message : String)
  | alreadyRunning
  | notReady
  | collector (death : CollectorDeath)
  | strictGates
  | failed (step : Step)
  deriving DecidableEq

def Failure.message (outputDir : String) : Failure → Option String
  | .refused message => some message
  | .alreadyRunning => some "RoCE samplers are already running"
  | .notReady => some "RoCE counter samplers did not become ready"
  | .collector death => death.message outputDir
  | .strictGates => some "FAIL: near-40K KVBM/GDS reuse test did not satisfy every strict gate"
  | .failed _ => none

/-- What a run meets with: the pid the process of a file gets beside those nobody has waited
for, how many lines a sampler's file has when it is looked at for the nth time, and how everything else
ends. Sample 0 is the cold request. -/
structure Env where
  compare : String
  roceTool : String
  outputDir : String
  compareExecutable : Bool
  roceToolPresent : Bool
  outputDirAbsent : Bool
  jqInstalled : Bool
  pid : RoceFile → List Nat → Nat
  pid_unused : ∀ file pids, pid file pids ∉ pids
  lines : RoceFile → Nat → Nat
  call : Nat → InpodCall
  waited : String → Nat → Except CollectorDeath Unit
  summary : Nat
  succeeds : Step → Bool

abbrev DemoScript := Script Command Failure Host

def demoStep (env : Env) (step : Step) : DemoScript Unit :=
  attempt (.step step) fun s => if env.succeeds step then .ok s else .error (.failed step)

def preconditions (env : Env) : DemoScript Unit := do
  dieUnless env.compareExecutable
    (.refused ("comparison script is not executable: " ++ env.compare))
  dieUnless env.roceToolPresent (.refused ("RoCE measurement tool is absent: " ++ env.roceTool))
  dieUnless env.outputDirAbsent
    (.refused ("refusing non-new output directory: " ++ env.outputDir))
  dieUnless env.jqInstalled (.refused "jq is required")

/-- `wait` returns once the process has ended. -/
def stopRoceSamplers : DemoScript Unit := do
  let pids ← read (·.roceSamplerPids)
  if pids.isEmpty then pure ()
  else
    exec .sleep id
    each pids fun pid => exec (.kill pid) id
    each pids fun pid => exec (.wait pid) fun s =>
      { s with unwaited := s.unwaited.filter (·.pid ≠ pid) }
    exec .clearPids fun s => { s with roceSamplerPids := [] }
    exec .clearFiles fun s => { s with roceSamplerFiles := [] }

/-- `ssh ... &` makes its file and sets `$!`. -/
def startSampler (env : Env) (file : RoceFile) : DemoScript Unit := do
  exec (.ssh file) fun s =>
    let pid := env.pid file (s.unwaited.map (·.pid))
    { s with unwaited := s.unwaited ++ [⟨file, pid⟩], lastPid := pid }
  exec .addPid fun s => { s with roceSamplerPids := s.roceSamplerPids ++ [s.lastPid] }
  exec .addFile fun s => { s with roceSamplerFiles := s.roceSamplerFiles ++ [file] }

/-- Every file has its header and a row. -/
def allReady (env : Env) (files : List RoceFile) (attempt : Nat) : Bool :=
  files.all fun file => 2 ≤ env.lines file attempt

def awaitReady (env : Env) : List Nat → DemoScript Unit
  | [] => die .notReady
  | attempt :: attempts => do
    if allReady env (← read (·.roceSamplerFiles)) attempt then pure ()
    else
      exec .sleep id
      awaitReady env attempts

def roceFiles (label : String) : List RoceFile := [⟨label, "node2"⟩, ⟨label, "node3"⟩]

def startRoceSamplers (env : Env) (label : String) : DemoScript Unit := do
  dieUnless (← read (·.roceSamplerPids)).isEmpty .alreadyRunning
  each (roceFiles label) (startSampler env)
  awaitReady env (List.range' 1 100)

/-- `run_inpod_request` under `set +e`, and what follows a status other than 0. -/
def sendRequest (env : Env) (sample : Nat) : DemoScript Unit := do
  exec (.inpodRequest sample) id
  if runInpodRequest (env.call sample) = 0 then pure ()
  else
    attempt (.catConsole sample) fun s =>
      if (env.call sample).console = 0 then .ok s else .error (.collector .commandFailed)
    die (.collector (.requestFailed sample (runInpodRequest (env.call sample))))

def waitForCounterDelta (env : Env) (metric : String) (sample : Nat) : DemoScript Unit :=
  attempt (.waitForCounterDelta metric sample) fun s =>
    match env.waited metric sample with
    | .ok () => .ok s
    | .error death => .error (.collector death)

def warmLabel (sample : Nat) : String :=
  if 1 < sample then "warm-" ++ toString sample else "warm"

def warmSample (env : Env) (sample : Nat) : DemoScript Unit := do
  startRoceSamplers env (warmLabel sample)
  sendRequest env sample
  waitForCounterDelta env "kvbm_onboard_blocks_d2d" sample
  waitForCounterDelta env "kvbm_matched_tokens" sample
  stopRoceSamplers
  demoStep env (.liveMetricValue "kvbm_onboard_blocks_d2d" sample)
  demoStep env (.liveMetricValue "kvbm_matched_tokens" sample)

def beforeColdSteps : List Step :=
  [.prepare, .jq "expected_kv_blocks", .jq "expected_cached_tokens", .jq "expected_answer",
    .jq "run_id", .readyPod "dynamo-qwen-frontend", .kubectlCp "compare-prefill-vs-gds.py",
    .kubectlCp "inpod-stream-client.py", .kubectlCp "payload.json", .captureSnapshot "before",
    .metricValue "metrics-before.txt" "kvbm_offload_blocks_d2d"]

def afterColdSteps : List Step :=
  [.captureSnapshot "after-cold", .metricValue "metrics-after-cold.txt" "kvbm_onboard_blocks_d2d",
    .metricValue "metrics-after-cold.txt" "kvbm_matched_tokens"]

def afterWarmSteps : List Step :=
  [.captureSnapshot "after-warm", .readyPod "dynamo-qwen-decode", .kubectlLogs "frontend.log",
    .kubectlLogs "prefill.log", .kubectlLogs "decode.log"]

/-- Up to its `EXIT` trap. -/
def demoKvOffloadReload (env : Env) : DemoScript Unit := do
  preconditions env
  each beforeColdSteps (demoStep env)
  startRoceSamplers env "cold"
  sendRequest env 0
  waitForCounterDelta env "kvbm_offload_blocks_d2d" 0
  stopRoceSamplers
  each afterColdSteps (demoStep env)
  each [1, 2, 3] (warmSample env)
  each afterWarmSteps (demoStep env)
  exec .summarize id
  demoStep env .catSummary
  demoStep env .printfStatuses
  dieUnless (env.summary == 0) .strictGates
  demoStep env .validateGds

end PdDisaggregation.Demo
