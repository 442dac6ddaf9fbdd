import PdDisaggregation.NfsRollback

/-! What a refused rollback leaves behind. Its checks and its removals
alternate, so only the first check refuses on an untouched host. -/

namespace PdDisaggregation

open Script

variable {s t : NfsHost} {e exportPath path : String} {env : RollbackEnv}

structure Untouched (s t : NfsHost) : Prop where
  nfsConfigFile : t.nfsConfigFile = s.nfsConfigFile
  exportFile : t.exportFile = s.exportFile
  activeExports : t.activeExports = s.activeExports
  nfsServer : t.nfsServer = s.nfsServer
  threads : t.threads = s.threads
  portlist : t.portlist = s.portlist
  stateFile : t.stateFile = s.stateFile
  otherFiles : t.otherFiles = s.otherFiles

def LateRefusal (s : NfsHost) : Prop :=
  s.configUnexpected s.settings.nfsConfigFile = false ∧
    (activeClients s.settings.exportPath s ≠ [] ∨
      (s.removeFile s.settings.nfsConfigFile).exportUnexpected s.settings.exportPath
        s.settings.exportFile = true)

theorem Untouched.refl (s : NfsHost) : Untouched s s := ⟨rfl, rfl, rfl, rfl, rfl, rfl, rfl, rfl⟩

theorem Untouched.removeFile (h : Untouched s (s.removeFile path)) : s.removeFile path = s := by
  have hfiles := removeFile_files s path
  rwa [h.exportFile, h.nfsConfigFile, h.otherFiles, h.stateFile] at hfiles

theorem untouched_removeFile : Untouched s (s.removeFile path) ↔ s.file path = none := by
  rw [← removeFile_eq_iff]
  constructor
  · exact Untouched.removeFile
  · intro h
    rw [h]
    exact .refl s

theorem removeExport_own (h : Ends (removeExport exportPath path) s (.error e) t)
    (ho : OwnRefusal e) : s.exportUnexpected exportPath path = true ∧ t = s := by
  rcases removeExport_error.mp h with ⟨hu, -, ht⟩ | ⟨-, -, hp, -⟩
  · exact ⟨hu, ht⟩
  · by_cases hi : (s.removeFile path).packageInstalled = true
    · simp [NfsHost.withPackage, hi] at hp
    · rw [NfsHost.withPackage, if_neg hi, Except.error.injEq] at hp
      subst hp
      exact absurd (ownRefusal_ends ho) (by decide +kernel)

theorem stopServer_own (h : s.stopServer = .error e) : ¬ OwnRefusal e := by
  intro ho
  cases hs : s.nfsServer with
  | missing =>
    rw [NfsHost.stopServer, hs, Except.error.injEq] at h
    subst h
    exact absurd (ownRefusal_ends ho) (by decide +kernel)
  | inactive => simp [NfsHost.stopServer, hs] at h
  | active => simp [NfsHost.stopServer, hs] at h

theorem unlink_own (h : s.unlink path = .error e) : ¬ OwnRefusal e := by
  obtain ⟨-, rfl⟩ := unlink_error.mp h
  intro ho
  have htext : ("rm: cannot remove '" ++ path ++ "': Is a directory").toList =
      "rm: cannot remove '".toList ++ path.toList ++ "': Is a directory".toList := by
    rw [String.toList_append, String.toList_append]
  have hends := ownRefusal_ends ho
  rw [htext, List.getLast?_append] at hends
  rcases hends with hlast | hhead
  · exact absurd (Option.some.inj hlast) (by decide)
  · exact absurd (Option.some.inj hhead) (by decide)

theorem rollback_own_refusal (h : Ends (node3NfsRdmaRollback env) s (.error e) t)
    (ho : OwnRefusal e) :
    (s.configUnexpected s.settings.nfsConfigFile = true ∧ t = s) ∨
      (env = {} ∧ LateRefusal s ∧ t = s.removeFile s.settings.nfsConfigFile) := by
  rcases rollback_error.mp h with hc | ⟨henv, hfirst | ⟨hconfig, hlate⟩⟩
  · have hn := (rollbackChecks_error hc).2
    exact absurd ho hn
  · obtain ⟨hconfig, -, ht⟩ := hfirst
    exact .inl ⟨hconfig, ht⟩
  · right
    rcases hlate with ⟨hactive, -, ht⟩ | ⟨-, hexport | ⟨v, -, hrest⟩⟩
    · exact ⟨henv, ⟨hconfig, .inl hactive⟩, ht⟩
    · obtain ⟨hu, ht⟩ := removeExport_own hexport ho
      exact ⟨henv, ⟨hconfig, .inr hu⟩, ht⟩
    · split at hrest
      · rcases hrest with ⟨hstop, -⟩ | ⟨-, hunlink⟩
        · exact absurd ho (stopServer_own hstop)
        · exact absurd ho (unlink_own hunlink)
      · exact absurd ho (unlink_own hrest.1)

theorem rollback_late_refusal (h : LateRefusal s) :
    ∃ e, OwnRefusal e ∧ Ends (node3NfsRdmaRollback {}) s (.error e)
      (s.removeFile s.settings.nfsConfigFile) := by
  obtain ⟨hconfig, hh⟩ := h
  by_cases ha : activeClients s.settings.exportPath s = []
  · have hu := hh.resolve_left (absurd ha)
    refine ⟨contentRefusal s.settings.exportFile, ⟨_, .inl rfl⟩, rollback_error.mpr (.inr ⟨rfl, ?_⟩)⟩
    exact .inr ⟨hconfig, .inr ⟨ha, .inl (removeExport_error.mpr (.inl ⟨hu, rfl, rfl⟩))⟩⟩
  · refine ⟨clientsRefusal s.settings.exportPath, ⟨_, .inr rfl⟩, rollback_error.mpr (.inr ⟨rfl, ?_⟩)⟩
    exact .inr ⟨hconfig, .inl ⟨ha, rfl, rfl⟩⟩

/-- A refused rollback leaves the host as it was exactly when it has not
removed the config file first. -/
theorem rollback_refusal_untouched_iff (env : RollbackEnv) (s : NfsHost) :
    (∀ e t, Ends (node3NfsRdmaRollback env) s (.error e) t → OwnRefusal e → Untouched s t) ↔
      ¬ (env = {} ∧ s.file s.settings.nfsConfigFile ≠ none ∧ LateRefusal s) := by
  constructor
  · rintro h ⟨rfl, hc, hl⟩
    obtain ⟨e, ho, he⟩ := rollback_late_refusal hl
    have huntouched := h e _ he ho
    exact hc (untouched_removeFile.mp huntouched)
  · intro h e t he ho
    rcases rollback_own_refusal he ho with ⟨-, rfl⟩ | ⟨henv, hl, rfl⟩
    · exact .refl t
    · refine untouched_removeFile.mpr ?_
      by_contra hc
      exact h ⟨henv, hc, hl⟩

def attachedHost : NfsHost where
  hasServerIp := true
  ramMarker := true
  packageInstalled := true
  nfsServer := .active
  rpcrdma := true
  configuredThreads := 8
  threads := 64
  portlist := [rdmaListener, ⟨"tcp", "2049"⟩]
  exportFile := some (exportLine ++ ['\n'])
  nfsConfigFile := some (nfsConfig ++ ['\n'])
  activeExports := [exportLine]
  showmount := some ["172.31.230.111:/srv/dynamo-g4".toList]
  stateFile := some (writtenState (some "1") (some "0"))

theorem attached_rollback_loses_config :
    Ends (node3NfsRdmaRollback {}) attachedHost (.error "NFS clients still reference /srv/dynamo-g4")
        { attachedHost with nfsConfigFile := none } ∧
      ¬ Untouched attachedHost { attachedHost with nfsConfigFile := none } := by
  refine ⟨⟨by decide +kernel, by decide +kernel⟩, fun h => ?_⟩
  have hconfig := h.nfsConfigFile
  contradiction

end PdDisaggregation
