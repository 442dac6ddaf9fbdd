import Mathlib.Data.List.Perm.Basic
import Mathlib.Logic.Relation
import PdDisaggregation.ScriptTriple

/-! `build-install-mlnx-nfsrdma.sh` and `remove-mlnx-nfsrdma.sh`: the `rpcrdma` module with
the GPUDirect Storage hooks, its source tree and its place in DKMS. -/

namespace PdDisaggregation.Nfsrdma

open Script

/-- Which `rpcrdma.ko`: the kernel's own or the one below `updates/dkms`. -/
inductive ModuleFile where
  | kernel
  | dkms
  deriving DecidableEq

/-- `patched`: `const struct ctl_table *table` occurs in it. -/
structure SourceFile where
  name : String
  patched : Bool
  deriving DecidableEq

abbrev Tree := List SourceFile

def Tree.has (tree : Tree) (name : String) : Bool := tree.any (·.name == name)

def markerFile : SourceFile := ⟨".dynamo-phase2-mlnx-nfsrdma", false⟩

/-- `[[ -f "$MARKER_FILE" ]]` -/
def Tree.marked (tree : Tree) : Bool := Tree.has tree markerFile.name

def Tree.patched (tree : Tree) : Bool := tree.any fun f => f.name == "svc_rdma.c" && f.patched

/-- `found` is what `modules.dep` has for `rpcrdma`, `source` the directory of the tree,
`added` whether DKMS lists it. -/
structure Host where
  kernelModule : Bool
  loaded : Option ModuleFile
  useCount : Nat
  found : Option ModuleFile
  source : Option Tree
  added : Bool
  installed : Bool
  deriving DecidableEq

namespace Host

def depmod (s : Host) : Host :=
  { s with found :=
      if s.installed then some .dkms else if s.kernelModule then some .kernel else none }

/-- The file that `modprobe rpcrdma` loads. -/
def probed (s : Host) : Option ModuleFile :=
  match s.found with
  | some .dkms => if s.installed then some .dkms else none
  | file => file

def modprobe (s : Host) : Option Host :=
  match s.loaded, s.probed with
  | some _, _ => some s
  | none, some file => some { s with loaded := some file, useCount := 0 }
  | none, none => none

def unload (s : Host) : Option Host :=
  if s.useCount = 0 then some { s with loaded := none } else none

def outage (s : Host) : Host := { s with loaded := none, useCount := 0 }

/-- DKMS reads `dkms.conf` in the tree. -/
def configured (s : Host) : Bool :=
  match s.source with
  | some tree => Tree.has tree "dkms.conf"
  | none => false

end Host

/-- What other programs do with the module. -/
inductive Other where
  | load
  | unload
  | users (count : Nat)
  deriving DecidableEq

def Other.apply : Other → Host → Host
  | .load, s => s.modprobe.getD s
  | .unload, s => s.unload.getD s
  | .users count, s => if s.loaded.isSome then { s with useCount := count } else s

def Host.after (s : Host) (others : List Other) : Host := others.foldl (fun s o => o.apply s) s

/-- The commands on the stage directory. -/
inductive StageStep where
  | mktemp
  | cpSource
  | cpMakefile
  | cpSpec
  | patch
  | installMarker
  | makeClean
  | make
  | nm
  deriving DecidableEq

/-- The file of `SOURCE_ROOT` without which the command fails. -/
def StageStep.needs : StageStep → Option String
  | .cpMakefile => some "_makefile_"
  | .cpSpec => some "mlnx-nfsrdma_spec_"
  | .patch => some "svc_rdma.c"
  | _ => none

inductive Report where
  | sha256sum (module : String)
  | modinfo (module : String)
  | dkmsStatus
  | lsmod
  deriving DecidableEq

/-- `mv` between file systems, `rm -rf` and `dkms` are several commands each. -/
inductive Command where
  | stage (step : StageStep)
  | report (r : Report)
  | renameStage
  | mkdirSource
  | copyFile (file : SourceFile)
  | dkmsAdd
  | dkmsBuild
  | dkmsInstall
  | dkmsDepmod
  | depmod
  | modprobe
  | modprobeRemove
  | dkmsUninstall
  | dkmsRemove
  | unlink (file : SourceFile)
  | rmdirSource
  deriving DecidableEq

inductive Failure where
  | refused (message : String)
  | failed (command : Command)
  deriving DecidableEq

inductive Outcome where
  | alreadyLoaded
  | builtOnly
  | installed
  deriving DecidableEq

/-- What a run meets with. `kernelPath` is where `modinfo` finds the kernel's own module,
`order` how a directory is listed, and `meanwhile` what other programs have done when a command
is executed. -/
structure Env where
  ofedVersion : String
  moduleVersion : String
  kernelVersion : String
  kernelPath : String
  sourceRoot : Bool
  symvers : Bool
  kernelConfig : Bool
  gpuDirectStorage : Bool
  patchFile : Bool
  buildOnly : Bool
  upstream : Tree
  produced : String → Bool
  vermagic : String → String
  nvfsHooks : Bool
  sameFileSystem : Bool
  order : Tree → Tree
  order_perm : ∀ tree, (order tree).Perm tree
  builds : Tree → Bool
  succeeds : Command → Bool
  meanwhile : Command → List Other

abbrev ModuleScript := Script Command Failure Host

def command (env : Env) (c : Command) (f : Host → Option Host) : ModuleScript Unit :=
  attempt c fun s =>
    match if env.succeeds c then f (s.after (env.meanwhile c)) else none with
    | some t => .ok t
    | none => .error (.failed c)

def check (test : Bool) (message : String) : ModuleScript Unit := dieUnless test (.refused message)

def report (env : Env) (r : Report) : ModuleScript Unit := command env (.report r) some

def stageStep (env : Env) (step : StageStep) : ModuleScript Unit :=
  command env (.stage step) fun s =>
    match step.needs with
    | some file => if Tree.has env.upstream file then some s else none
    | none => some s

def Env.sourceDir (env : Env) : String := "/usr/src/mlnx-nfsrdma-" ++ env.moduleVersion

def gates (env : Env) : ModuleScript Unit := do
  check (env.kernelVersion == "6.11.0-26-generic")
    "this reviewed patch is limited to kernel 6.11.0-26-generic"
  check (env.ofedVersion == "24.10.OFED.24.10.2.1.8.1") "unexpected MLNX_OFED source version"
  check (env.moduleVersion == "3.4") "unexpected mlnx-nfsrdma version"
  check env.sourceRoot "MLNX_OFED NFS/RDMA source is absent"
  check env.symvers "MLNX_OFED Module.symvers is absent"
  check env.kernelConfig "MLNX_OFED kernel configuration is absent"
  check env.gpuDirectStorage "MLNX_OFED was not built with GPUDirect Storage hooks"
  check env.patchFile "reviewed Linux 6.11 compatibility patch is absent"

def modules : List String := ["rpcrdma.ko", "svcrdma.ko", "xprtrdma.ko"]

/-- `SOURCE_ROOT` with the two files renamed, the patch and the marker. -/
def Env.staged (env : Env) : Tree :=
  let added : Tree := [⟨"makefile", false⟩, ⟨"mlnx-nfsrdma.spec", false⟩, markerFile]
  (env.upstream.filter fun f => !Tree.has added f.name).map
    (fun f => if f.name = "svc_rdma.c" then { f with patched := true } else f) ++ added

def buildStage (env : Env) : ModuleScript Unit := do
  each [.mktemp, .cpSource, .cpMakefile, .cpSpec, .patch, .installMarker, .makeClean, .make]
    (stageStep env)
  each modules fun module => do
    check (env.produced module) ("isolated build did not produce " ++ module)
    check ((env.kernelVersion ++ " ").toList.isPrefixOf (env.vermagic module).toList)
      (module ++ " vermagic does not match " ++ env.kernelVersion)
  stageStep env .nm
  check env.nvfsHooks "rpcrdma lacks GPUDirect Storage hooks"

def copyFile (env : Env) (file : SourceFile) : ModuleScript Unit :=
  command env (.copyFile file) fun s => some { s with source := s.source.map (· ++ [file]) }

/-- `mv` to another file system. -/
def copyStage (env : Env) : ModuleScript Unit := do
  command env .mkdirSource fun s => some { s with source := some [] }
  each (env.order env.staged) (copyFile env)

def moveStage (env : Env) : ModuleScript Unit := do
  stageStep env .makeClean
  if env.sameFileSystem then
    command env .renameStage fun s => some { s with source := some env.staged }
  else copyStage env

def dkmsAdd (env : Env) : ModuleScript Unit := do
  if ← read (·.added) then pure ()
  else
    command env .dkmsAdd fun s => if s.configured then some { s with added := true } else none

def checkPath (env : Env) : ModuleScript Unit := do
  match ← read (·.found) with
  | some .dkms => pure ()
  | some .kernel =>
    die (.refused ("loaded module path is not the Phase 2 DKMS path: " ++ env.kernelPath))
  | none => die (.failed (.report (.modinfo "rpcrdma")))

def installModule (env : Env) : ModuleScript Outcome := do
  dkmsAdd env
  command env .dkmsBuild fun s =>
    if s.configured && (s.source.map env.builds == some true) then some s else none
  command env .dkmsInstall fun s => some { s with installed := true }
  command env .dkmsDepmod fun s => some s.depmod
  command env .depmod fun s => some s.depmod
  command env .modprobe Host.modprobe
  checkPath env
  report env .dkmsStatus
  report env .lsmod
  each ["rpcrdma", "svcrdma", "xprtrdma"] fun module => report env (.modinfo module)
  pure .installed

def checkTree (env : Env) (tree : Tree) : ModuleScript Unit := do
  check (Tree.marked tree) (env.sourceDir ++ " exists without the Phase 2 marker")
  check (Tree.patched tree) "existing DKMS source lacks the reviewed Linux 6.11 patch"

def buildInstallMlnxNfsrdma (env : Env) : ModuleScript Outcome := do
  gates env
  if (← read (·.loaded)).isSome then
    check ((← read (·.found)) == some .dkms) "a non-Phase-2 rpcrdma module is already loaded"
    pure .alreadyLoaded
  else
    match ← read (·.source) with
    | none =>
      buildStage env
      if env.buildOnly then
        each modules fun module => do
          report env (.sha256sum module)
          report env (.modinfo module)
        pure .builtOnly
      else
        moveStage env
        installModule env
    | some tree =>
      checkTree env tree
      installModule env

def unloadModule (env : Env) : ModuleScript Unit := do
  if (← read (·.loaded)).isSome then
    check ((← read (·.useCount)) == 0) "rpcrdma is still in use"
    command env .modprobeRemove Host.unload
  else pure ()

def dkmsRemove (env : Env) : ModuleScript Unit := do
  if ← read (·.added) then
    command env .dkmsUninstall fun s =>
      if s.configured then some { s with installed := false } else none
    command env .dkmsDepmod fun s => some s.depmod
    command env .dkmsRemove fun s => some { s with added := false }
  else pure ()

def unlink (env : Env) (file : SourceFile) : ModuleScript Unit :=
  command env (.unlink file) fun s =>
    some { s with source := s.source.map fun tree => tree.filter (·.name ≠ file.name) }

/-- `rm -rf` -/
def removeTree (env : Env) (tree : Tree) : ModuleScript Unit := do
  each (env.order tree) (unlink env)
  command env .rmdirSource fun s =>
    if s.source = some [] then some { s with source := none } else none

def removeSource (env : Env) : ModuleScript Unit := do
  match ← read (·.source) with
  | none => pure ()
  | some tree =>
    check (Tree.marked tree) (env.sourceDir ++ " lacks the Phase 2 marker")
    removeTree env tree

def removeMlnxNfsrdma (env : Env) : ModuleScript Unit := do
  check (env.moduleVersion == "3.4") "unexpected mlnx-nfsrdma version"
  unloadModule env
  dkmsRemove env
  removeSource env
  command env .depmod fun s => some s.depmod

/-- A run of one of the scripts, cut after the commands `done`; what other programs do between
runs; and a loss of power. -/
inductive ModuleStep (allowed : Env → List Command → Prop) (s t : Host) : Prop where
  | install (env : Env) (done : List Command) (hallowed : allowed env done)
      (h : Stops (buildInstallMlnxNfsrdma env) s done t)
  | remove (env : Env) (done : List Command) (hallowed : allowed env done)
      (h : Stops (removeMlnxNfsrdma env) s done t)
  | other (o : Other) (h : t = o.apply s)
  | outage (h : t = s.outage)

abbrev ModuleReaches (allowed : Env → List Command → Prop) :=
  Relation.ReflTransGen (ModuleStep allowed)

end PdDisaggregation.Nfsrdma
