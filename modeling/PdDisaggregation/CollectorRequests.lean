import PdDisaggregation.Collector

/-! The requests of `demo-kv-offload-reload.sh`, cold and warm, and what a client
that fails does to the run. -/

namespace PdDisaggregation

/-- Sample 0 is the cold request. -/
inductive CollectorDeath where
  | requestFailed (sample code : Nat)
  | timedOut (metric : String) (expectedDelta baseline : Int)
  | commandFailed
  deriving DecidableEq

def CollectorDeath.message (outputDir : String) : CollectorDeath → Option String
  | .requestFailed sample code =>
    some ((if sample = 0 then "cold request" else "Warm sample " ++ toString sample) ++
      " failed with exit code " ++ toString code ++ "; partial evidence retained in " ++ outputDir)
  | .timedOut metric expectedDelta baseline =>
    some ("timed out waiting for " ++ metric ++ " delta >= " ++ toString expectedDelta ++
      " from " ++ toString baseline)
  | .commandFailed => none

inductive CollectorStage where
  | coldRequest
  | waitOffload
  | snapshotAfterCold
  | warm (collector : Collector)
  | died (death : CollectorDeath)
  deriving DecidableEq

structure SentRequest where
  sample : Nat
  client : Nat
  deriving DecidableEq

/-- `calls` are the requests sent, the latest first. -/
structure CollectorRun where
  offload : Int
  coldOffloadBefore : Int
  stage : CollectorStage
  calls : List SentRequest
  deriving DecidableEq

inductive RunEvent where
  | offload (blocks : Int)
  | request (call : InpodCall)
  | poll
  | timeout
  | captureAfterCold (onboard matched : Int)
  | commandFails
  | warm (event : CollectorEvent)

def CollectorRun.die (s : CollectorRun) (death : CollectorDeath) : CollectorRun :=
  { s with stage := .died death }

/-- A failed request prints the console file first, now under `set -e` again. -/
def CollectorRun.called (s : CollectorRun) (sample : Nat) (call : InpodCall)
    (next : CollectorStage) : CollectorRun :=
  let rc := runInpodRequest call
  { s with
    calls := ⟨sample, call.client⟩ :: s.calls
    stage :=
      if rc = 0 then next
      else if call.console = 0 then .died (.requestFailed sample rc)
      else .died .commandFailed }

def warmDeath (cfg : CollectorConfig) (c : Collector) : CollectorEvent → CollectorDeath
  | .timeout =>
    if c.phase = .waitOnboard then
      .timedOut "kvbm_onboard_blocks_d2d" cfg.expectedBlocks c.warmOnboardBefore
    else .timedOut "kvbm_matched_tokens" cfg.expectedCachedTokens c.warmMatchedBefore
  | _ => .commandFailed

def CollectorEvent.isRequest : CollectorEvent → Bool
  | .inpodRequest _ => true
  | _ => false

def runStep (cfg : CollectorConfig) (s : CollectorRun) (e : RunEvent) : Option CollectorRun :=
  match e, s.stage with
  | _, .died _ => none
  | .offload blocks, _ => some { s with offload := s.offload + blocks }
  | .request call, .coldRequest => some (s.called 0 call .waitOffload)
  | .poll, .waitOffload =>
    some (if s.offload - s.coldOffloadBefore ≥ cfg.expectedBlocks then
      { s with stage := .snapshotAfterCold } else s)
  | .timeout, .waitOffload =>
    some (s.die (.timedOut "kvbm_offload_blocks_d2d" cfg.expectedBlocks s.coldOffloadBefore))
  | .captureAfterCold onboard matched, .snapshotAfterCold =>
    some { s with stage := .warm (afterCold onboard matched) }
  | .request call, .warm c =>
    (collectorStep cfg c (.inpodRequest call)).map fun c' =>
      s.called c.sample call (.warm c')
  | .warm event, .warm c =>
    if event.isRequest then none
    else (collectorStep cfg c event).map fun c' =>
      if c'.phase = .died then s.die (warmDeath cfg c event) else { s with stage := .warm c' }
  | .commandFails, .coldRequest | .commandFails, .waitOffload
  | .commandFails, .snapshotAfterCold => some (s.die .commandFailed)
  | _, _ => none

/-- After the before snapshot. -/
def runStart (coldOffloadBefore : Int) : CollectorRun where
  offload := coldOffloadBefore
  coldOffloadBefore := coldOffloadBefore
  stage := .coldRequest
  calls := []

/-- A request whose client failed is the last one, and the script died of it. -/
def StopsAtFailure (s : CollectorRun) : Prop :=
  ∀ later call earlier, s.calls = later ++ call :: earlier → call.client ≠ 0 →
    later = [] ∧ ∃ code, s.stage = .died (.requestFailed call.sample code)

/-- When the client fails, so does `cat` of its output file, and the console file can be
printed. -/
def InpodCall.Reports (call : InpodCall) : Prop :=
  call.client = 0 ∨ call.cat ≠ 0 ∧ call.console = 0

instance (call : InpodCall) : Decidable call.Reports :=
  inferInstanceAs (Decidable (_ ∨ _))

def RunEvent.Reports : RunEvent → Prop
  | .request call => call.Reports
  | _ => True

instance (e : RunEvent) : Decidable e.Reports :=
  match e with
  | .request call => inferInstanceAs (Decidable call.Reports)
  | .offload _ | .poll | .timeout | .captureAfterCold _ _ | .commandFails | .warm _ =>
    inferInstanceAs (Decidable True)

variable {cfg : CollectorConfig} {s t : CollectorRun} {e : RunEvent}

/-- What is tested is the status of `cat`. -/
theorem called_stage (s : CollectorRun) (sample : Nat) (call : InpodCall) (next : CollectorStage) :
    (s.called sample call next).stage = if call.cat = 0 then next
      else if call.console = 0 then .died (.requestFailed sample call.cat)
      else .died .commandFailed := rfl

theorem runStep_not_died (h : runStep cfg s e = some t) (death : CollectorDeath) :
    s.stage ≠ .died death := by
  intro hd
  simp [runStep, hd] at h

theorem runStep_request {call : InpodCall} (h : runStep cfg s (.request call) = some t) :
    ∃ sample next, t = s.called sample call next ∧ ∀ death, next ≠ .died death := by
  cases hs : s.stage with
  | coldRequest =>
    simp only [runStep, hs, Option.some.injEq] at h
    exact ⟨0, _, h.symm, by simp⟩
  | warm c =>
    simp only [runStep, hs, Option.map_eq_some_iff] at h
    obtain ⟨c', -, rfl⟩ := h
    exact ⟨c.sample, _, rfl, by simp⟩
  | waitOffload => simp [runStep, hs] at h
  | snapshotAfterCold => simp [runStep, hs] at h
  | died death => simp [runStep, hs] at h

theorem runStep_calls (he : ∀ call, e ≠ .request call) (h : runStep cfg s e = some t) :
    t.calls = s.calls := by
  unfold runStep at h
  split at h
  · cases h
  · cases h
    rfl
  · exact absurd rfl (he _)
  · cases h
    split <;> rfl
  · cases h
    rfl
  · cases h
    rfl
  · exact absurd rfl (he _)
  · split at h
    · cases h
    · obtain ⟨c', -, rfl⟩ := Option.map_eq_some_iff.mp h
      split <;> rfl
  · cases h
    rfl
  · cases h
    rfl
  · cases h
    rfl
  · cases h

/-- Before a run has died no client has failed. -/
theorem StopsAtFailure.clients (h : StopsAtFailure s) (hs : ∀ death, s.stage ≠ .died death) :
    ∀ call ∈ s.calls, call.client = 0 := by
  intro call hcall
  obtain ⟨later, earlier, hsplit⟩ := List.append_of_mem hcall
  by_contra hne
  obtain ⟨-, code, hcode⟩ := h later call earlier hsplit hne
  exact hs _ hcode

theorem stopsAtFailure_of_clients (h : ∀ call ∈ s.calls, call.client = 0) : StopsAtFailure s := by
  intro later call earlier hsplit hne
  exact absurd (h call (by simp [hsplit])) hne

/-- After a request the promise holds exactly if its failure is reported. -/
theorem stopsAtFailure_called {sample : Nat} {call : InpodCall} {next : CollectorStage}
    (hclients : ∀ call ∈ s.calls, call.client = 0) (hnext : ∀ death, next ≠ .died death) :
    StopsAtFailure (s.called sample call next) ↔ call.Reports := by
  by_cases hc : call.client = 0
  · apply iff_of_true
    · apply stopsAtFailure_of_clients
      intro c hmem
      rcases List.mem_cons.mp hmem with rfl | hmem
      · exact hc
      · exact hclients c hmem
    · exact Or.inl hc
  · constructor
    · intro h
      obtain ⟨-, code, hcode⟩ := h [] ⟨sample, call.client⟩ s.calls rfl hc
      apply Or.inr
      rw [called_stage] at hcode
      by_cases hrc : call.cat = 0
      · rw [if_pos hrc] at hcode
        exact absurd hcode (hnext _)
      · rw [if_neg hrc] at hcode
        by_cases hconsole : call.console = 0
        · exact ⟨hrc, hconsole⟩
        · rw [if_neg hconsole] at hcode
          cases hcode
    · intro h
      obtain ⟨hrc, hconsole⟩ := h.resolve_left hc
      intro later c earlier hsplit hne
      cases later with
      | nil =>
        obtain ⟨rfl, -⟩ := List.cons.inj hsplit
        exact ⟨rfl, call.cat,
          by rw [called_stage, if_neg hrc, if_pos hconsole]⟩
      | cons c' later =>
        obtain ⟨-, hrest⟩ := List.cons.inj hsplit
        exact absurd (hclients c (by simp [hrest])) hne

/-- In a run whose failed calls all report it, a failed client ends the collector at
once, and the next call keeps that promise exactly if it reports its failure too. -/
theorem collector_stops_at_failure (cfg : CollectorConfig) (coldOffloadBefore : Int)
    (s : CollectorRun)
    (h : Machine.Reaches (runStep cfg) (fun _ e => e.Reports) (runStart coldOffloadBefore) s) :
    StopsAtFailure s ∧ ∀ call t, runStep cfg s (.request call) = some t →
      (StopsAtFailure t ↔ call.Reports) := by
  have hs : StopsAtFailure s := by
    refine h.invariant ?_ (stopsAtFailure_of_clients (by simp [runStart]))
    intro s e t hs he ht
    have hclients := hs.clients (runStep_not_died ht)
    cases e with
    | request call =>
      obtain ⟨sample, next, rfl, hnext⟩ := runStep_request ht
      exact (stopsAtFailure_called hclients hnext).mpr he
    | offload blocks => exact stopsAtFailure_of_clients (runStep_calls (by simp) ht ▸ hclients)
    | poll => exact stopsAtFailure_of_clients (runStep_calls (by simp) ht ▸ hclients)
    | timeout => exact stopsAtFailure_of_clients (runStep_calls (by simp) ht ▸ hclients)
    | captureAfterCold onboard matched =>
      exact stopsAtFailure_of_clients (runStep_calls (by simp) ht ▸ hclients)
    | commandFails => exact stopsAtFailure_of_clients (runStep_calls (by simp) ht ▸ hclients)
    | warm event => exact stopsAtFailure_of_clients (runStep_calls (by simp) ht ▸ hclients)
  refine ⟨hs, fun call t ht => ?_⟩
  obtain ⟨sample, next, rfl, hnext⟩ := runStep_request ht
  exact stopsAtFailure_called (hs.clients (runStep_not_died ht)) hnext

def threeSampleConfig : CollectorConfig := ⟨3, 2, 38400, by decide⟩

theorem collector_stops_at_failure_once :
    StopsAtFailure ((runStart 0).called 0 ⟨2, 0, 1, 0⟩ .waitOffload) :=
  (collector_stops_at_failure threeSampleConfig 0 _
    (Machine.reaches_of_exec [.request ⟨2, 0, 1, 0⟩] rfl)).1

/-- The cold client fails; the collector waits for the offload and sends the first
warm request. -/
def unnoticedFailure : List RunEvent :=
  [.request ⟨2, 0, 0, 0⟩, .offload 2, .poll, .captureAfterCold 0 0, .request ⟨0, 0, 0, 0⟩]

theorem failed_request_unnoticed :
    ¬ ∀ cfg coldOffloadBefore s,
      Machine.Reachable (runStep cfg) (runStart coldOffloadBefore) s → StopsAtFailure s := by
  intro h
  obtain ⟨s, hs⟩ : ∃ s, Machine.exec (runStep threeSampleConfig) (runStart 0) unnoticedFailure =
      some s := ⟨_, rfl⟩
  have hcalls : s.calls = [⟨1, 0⟩] ++ ⟨0, 2⟩ :: [] := by
    cases hs
    rfl
  obtain ⟨hnil, -⟩ := h threeSampleConfig 0 s (Machine.reachable_of_exec _ hs) _ _ _ hcalls
    (by decide)
  contradiction

end PdDisaggregation
