import PdDisaggregation.NexusSync

/-! For which files and devices the result of `nexus_apply.py` does not depend
on the chunks in which the device's output arrives. -/

namespace PdDisaggregation

open Expect

structure CleanExchange (x : Exchange) : Prop where
  unmarked : carriesError x.response.text = false
  completes : isCopyCommand x.command = true →
    Text.contains copyComplete x.response.text = true

/-- Each command reported on, and whether with `OK`. -/
def outcomes (verdicts : List (Text × Verdict)) : List (Text × Bool) :=
  verdicts.map fun v => (v.1, v.2.isOk)

def reported (cut : Nat → Bool) (file : Text) (device : Nat → Response) : List (Text × Bool) :=
  if configures file then outcomes (verdicts cut file device) else []

/-- Two ways of cutting the device's output into chunks give the same run, and
a run that exits with 0 has seen no error. -/
structure ChunkingIrrelevant (file : Text) (device : Nat → Response) : Prop where
  sent : ∀ cut cut', (nexusApply cut file device).sent = (nexusApply cut' file device).sent
  reported : ∀ cut cut', reported cut file device = reported cut' file device
  status : ∀ cut cut', (nexusApply cut file device).status = (nexusApply cut' file device).status
  honest : ∀ cut, (nexusApply cut file device).status = 0 →
    ∀ x ∈ exchanges file device, carriesError x.response.text = false

variable {w : Text} {xs : List Exchange} {vs : List Bool} {file : Text} {device : Nat → Response}

/-- Without markers in the responses there are none in what is read, also
where that runs over from one response into the next. -/
theorem clean_answers (hclean : ∀ x ∈ xs, CleanExchange x)
    (hw : ∀ t, carriesError t = false → carriesError (w ++ t) = false) (h : Answers w xs vs) :
    vs = List.replicate xs.length true := by
  have hstream {w : Text} {x : Exchange} (hx : CleanExchange x)
      (hw : ∀ t, carriesError t = false → carriesError (w ++ t) = false) (t : Text)
      (ht : carriesError t = false) : carriesError (w ++ x.response.stream ++ t) = false := by
    have hbefore := hw _ hx.unmarked
    have hbehind : carriesError (List.replicate x.response.pad ' ' ++ t) = false := by
      rwa [carriesError_spaces (allSpaces_replicate _)]
    rw [Response.stream, ← List.append_assoc, List.append_assoc _ _ t, List.cons_append]
    cases hm : carriesError
        (w ++ x.response.text ++ '#' :: (List.replicate x.response.pad ' ' ++ t)) with
    | false => rfl
    | true =>
      rcases carriesError_hash.mp hm with hh | hh
      · rw [hbefore] at hh
        contradiction
      · rw [hbehind] at hh
        contradiction
  induction h with
  | done w => rfl
  | @timeout w x xs hnone =>
    exact absurd hnone (facing_ne_none w (hclean x List.mem_cons_self).completes)
  | @refused w b sp rest x xs hy hsp he =>
    have hread := hstream (hclean x List.mem_cons_self) hw [] rfl
    rw [List.append_nil] at hread
    have hb : carriesError b = false :=
      not_carriesError ((List.prefix_append b _).isInfix.trans (facing_tail hy).isInfix) hread
    rw [he] at hb
    contradiction
  | @ok w b sp rest x xs vs hy hsp he hrest ih =>
    have hrest : ∀ t, carriesError t = false → carriesError (rest ++ t) = false := by
      intro t ht
      obtain ⟨u, hu⟩ := facing_tail hy
      have hread := hstream (hclean x List.mem_cons_self) hw t ht
      rw [← hu] at hread
      refine not_carriesError ⟨u ++ (b ++ '#' :: sp), [], ?_⟩ hread
      simp only [List.append_assoc, List.cons_append, List.append_nil]
    rw [ih (fun x' hx' => hclean x' (List.mem_cons_of_mem _ hx')) hrest]
    rfl

theorem outcomes_eq_zip (cut : Nat → Bool) (child : Child) (xs : List Exchange) :
    outcomes (applyCommands cut child xs) =
      (xs.map Exchange.command).zip (okFlags (applyCommands cut child xs)) := by
  induction xs generalizing child with
  | nil => rfl
  | cons x xs ih =>
    rw [applyCommands]
    have hfirst (v : Verdict) : outcomes [(x.command, v)] =
        ((x :: xs).map Exchange.command).zip (okFlags [(x.command, v)]) := by
      simp [outcomes, okFlags]
    cases expectAnswer cut x.command (child.sends x.response.stream) with
    | none => exact hfirst _
    | some m =>
      cases he : carriesError m.1 with
      | true =>
        simp only [he, if_true]
        exact hfirst _
      | false =>
        simp only [he, Bool.false_eq_true, if_false]
        exact congrArg (List.cons (x.command, true)) (ih m.2)

theorem applyReport_sent (verdicts : List (Text × Verdict)) :
    (applyReport verdicts).sent = (outcomes verdicts).map Prod.fst ++
      (if (okFlags verdicts).any (!·) then ["end".toList] else []) ++ ["exit".toList] := by
  rw [applyReport, outcomes, okFlags, List.map_map, List.any_map]
  rfl

theorem applyReport_status (verdicts : List (Text × Verdict)) :
    (applyReport verdicts).status = if (okFlags verdicts).any (!·) then 1 else 0 := by
  rw [applyReport, okFlags, List.any_map]
  rfl

theorem ChunkingIrrelevant.of_flags (hc : configures file = true) (flags : List Bool)
    (hflags : ∀ cut, okFlags (verdicts cut file device) = flags)
    (hhonest : false ∈ flags ∨
      ∀ x ∈ exchanges file device, carriesError x.response.text = false) :
    ChunkingIrrelevant file device := by
  have houtcomes (cut : Nat → Bool) : outcomes (verdicts cut file device) =
      ((exchanges file device).map Exchange.command).zip flags := by
    rw [← hflags cut]
    exact outcomes_eq_zip cut _ _
  constructor
  · intro cut cut'
    rw [nexusApply, nexusApply, if_pos hc, if_pos hc, applyReport_sent, applyReport_sent,
      houtcomes, houtcomes, hflags, hflags]
  · intro cut cut'
    rw [PdDisaggregation.reported, PdDisaggregation.reported, if_pos hc, if_pos hc, houtcomes,
      houtcomes]
  · intro cut cut'
    rw [nexusApply, nexusApply, if_pos hc, if_pos hc, applyReport_status, applyReport_status,
      hflags, hflags]
  · intro cut hstatus
    rcases hhonest with hfalse | hclean
    · have hany : flags.any (!·) = true := List.any_eq_true.mpr ⟨false, hfalse, rfl⟩
      rw [nexusApply, if_pos hc, applyReport_status, hflags, hany, if_pos rfl] at hstatus
      contradiction
    · exact hclean

theorem ChunkingIrrelevant.of_refused (hc : configures file = false) :
    ChunkingIrrelevant file device := by
  have hrun (cut : Nat → Bool) : nexusApply cut file device =
      ⟨[], ["REFUSING_FILE_WITHOUT_CONFIGURE_TERMINAL".toList], 2⟩ := by
    rw [nexusApply, hc]
    rfl
  constructor
  · intro cut cut'
    rw [hrun, hrun]
  · intro cut cut'
    rw [PdDisaggregation.reported, PdDisaggregation.reported, hc]
    rfl
  · intro cut cut'
    rw [hrun, hrun]
  · intro cut h
    rw [hrun] at h
    contradiction

theorem leftover_nil {v : Text} (h : Leftover [] v) : v = [] := by
  rcases h with rfl | ⟨u, hu⟩
  · rfl
  · exact absurd (congrArg List.length hu) (by simp)

theorem ChunkingIrrelevant.agree (h : ChunkingIrrelevant file device)
    (hc : configures file = true) : Agree [] (exchanges file device) := by
  intro w w' hw hw' vs vs' hvs hvs'
  rw [leftover_nil hw] at hvs
  rw [leftover_nil hw'] at hvs'
  obtain ⟨cut, rfl⟩ := run_of_answers hvs 0
  obtain ⟨cut', rfl⟩ := run_of_answers hvs' 0
  have hsame := congrArg (List.map Prod.snd) (h.reported cut cut')
  have hflags (cut : Nat → Bool) : (PdDisaggregation.reported cut file device).map Prod.snd =
      okFlags (verdicts cut file device) := by
    rw [PdDisaggregation.reported, if_pos hc, outcomes, List.map_map]
    rfl
  rwa [hflags, hflags] at hsame

theorem chunking_irrelevant_iff (file : Text) (device : Nat → Response) :
    ChunkingIrrelevant file device ↔ (configures file = true →
      (∀ x ∈ exchanges file device, CleanExchange x) ∨ CertainStop [] (exchanges file device)) := by
  constructor
  · intro h hc
    have hstart : InStep [] := ⟨[], fun _ hc => absurd hc List.not_mem_nil, Or.inl rfl⟩
    rcases stop_or_pass hstart (h.agree hc) with hstop | hpass
    · exact Or.inr hstop
    · left
      have hflags := allPass_answers hpass (Behind.of_leftover (Or.inl rfl))
        (answers_of_run (fun _ => true) ⟨[], [], 0⟩ _)
      have hstatus : (nexusApply (fun _ => true) file device).status = 0 := by
        rw [nexusApply, if_pos hc, applyReport_status, verdicts, hflags]
        simp
      intro x hx
      exact ⟨h.honest _ hstatus x hx, hpass.completes x hx⟩
  · intro h
    cases hc : configures file with
    | false => exact ChunkingIrrelevant.of_refused hc
    | true =>
      rcases h hc with hclean | hstop
      · refine ChunkingIrrelevant.of_flags hc
          (List.replicate (exchanges file device).length true) (fun cut => ?_)
          (Or.inr fun x hx => (hclean x hx).unmarked)
        have hanswers : Answers [] (exchanges file device) (okFlags (verdicts cut file device)) :=
          answers_of_run cut ⟨[], [], 0⟩ _
        refine clean_answers hclean ?_ hanswers
        exact fun t ht => ht
      · obtain ⟨k, hk⟩ := certainStop_answers hstop
        refine ChunkingIrrelevant.of_flags hc (List.replicate k true ++ [false]) (fun cut => ?_)
          (Or.inl (by simp))
        exact hk [] (Behind.of_leftover (Or.inl rfl)) _ (answers_of_run cut ⟨[], [], 0⟩ _)

/-- Typed by the operator, `#2` comes back in the echo. -/
def portFile : Text := "configure terminal\ndescription port #2 up\n".toList

def portDevice : Nat → Response
  | 0 => ⟨"configure terminal\r\nswitch(config)".toList, 1⟩
  | _ => ⟨"description port #2 up\r\n% Invalid command\r\nswitch(config)".toList, 1⟩

/-- With a chunk that ends in the echo the refused command is reported `OK`. -/
theorem refused_command_passes : ¬ ∀ file device, ChunkingIrrelevant file device := by
  intro h
  have hsame := (h portFile portDevice).status (fun _ => false) (fun n => n == 54)
  have hwhole : (nexusApply (fun _ => false) portFile portDevice).status = 1 := by decide +kernel
  have hecho : (nexusApply (fun n => n == 54) portFile portDevice).status = 0 := by decide +kernel
  rw [hwhole, hecho] at hsame
  contradiction

end PdDisaggregation
