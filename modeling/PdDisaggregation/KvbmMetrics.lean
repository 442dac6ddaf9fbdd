import PdDisaggregation.Machine

/-! The shutdown of the KVBM metrics server (`runtime-kvbm-metrics.rs`). Every instance of
the metrics that is dropped reads how many handles are left, and the one that reads two
notifies the server. Drops on several threads interleave. -/

namespace PdDisaggregation.Kvbm

/-- An instance: in use, or in its drop at the call that it makes next. -/
inductive Instance where
  | live
  | notifying
  | releasing
  | gone
  deriving DecidableEq

/-- `waiting` is at `notified().await`; `lost` has ended without a notice. -/
inductive Server where
  | starting
  | waiting
  | stopping
  | stopped
  | lost
  deriving DecidableEq

namespace Server

/-- The handles that the server holds. -/
def handles : Server → Nat
  | starting => 1
  | waiting => 1
  | stopping => 1
  | stopped => 0
  | lost => 0

def told : Server → Bool
  | stopping => true
  | stopped => true
  | _ => false

/-- Whether it can still be told to stop. -/
def awaits : Server → Bool
  | starting => true
  | waiting => true
  | _ => false

end Server

structure Metrics where
  server : Server
  instances : List Instance
  deriving DecidableEq

namespace Metrics

/-- With an endpoint. -/
def new : Metrics := ⟨.starting, [.live]⟩

def strongCount (m : Metrics) : Nat := m.instances.countP (· ≠ .gone) + m.server.handles

/-- `notify_waiters` reaches a server that waits, and leaves nothing for one that does later. -/
def notifyWaiters : Server → Server
  | .waiting => .stopping
  | server => server

inductive Event where
  | clone (i : Nat)
  | drop (i : Nat)
  | notify (i : Nat)
  | release (i : Nat)
  | listen
  | lose
  | stop
  deriving DecidableEq

def set (m : Metrics) (i : Nat) (x : Instance) : Metrics :=
  { m with instances := m.instances.set i x }

def step (m : Metrics) : Event → Option Metrics
  | .clone i =>
    if m.instances[i]? = some .live then some { m with instances := m.instances ++ [.live] }
    else none
  | .drop i =>
    if m.instances[i]? = some .live then
      some (m.set i (if m.strongCount = 2 then .notifying else .releasing))
    else none
  | .notify i =>
    if m.instances[i]? = some .notifying then
      some { m.set i .releasing with server := notifyWaiters m.server }
    else none
  | .release i =>
    if m.instances[i]? = some .releasing then some (m.set i .gone) else none
  | .listen => if m.server = .starting then some { m with server := .waiting } else none
  | .lose => if m.server.awaits then some { m with server := .lost } else none
  | .stop => if m.server = .stopping then some { m with server := .stopped } else none

/-- Where a drop finds the instance it is about. -/
theorem instances_split {m : Metrics} {i : Nat} {x : Instance} (h : m.instances[i]? = some x) :
    ∃ pre post, m.instances = pre ++ x :: post ∧ i = pre.length := by
  obtain ⟨hlt, hget⟩ := List.getElem?_eq_some_iff.mp h
  refine ⟨m.instances.take i, m.instances.drop (i + 1), ?_, ?_⟩
  · rw [← hget, ← List.drop_eq_getElem_cons hlt, List.take_append_drop]
  · rw [List.length_take]
    omega

variable {server : Server} {pre post : List Instance} {x y : Instance} {m t : Metrics} {e : Event}

theorem set_split : (Metrics.mk server (pre ++ x :: post)).set pre.length y =
    ⟨server, pre ++ y :: post⟩ := by
  simp [set]

/-- What a step does. -/
inductive Trans : Metrics → Metrics → Prop where
  | clone {m : Metrics} (hlive : .live ∈ m.instances) :
      Trans m { m with instances := m.instances ++ [.live] }
  | drop (server : Server) (pre post : List Instance) :
      Trans ⟨server, pre ++ .live :: post⟩ ⟨server,
        pre ++ (if (Metrics.mk server (pre ++ .live :: post)).strongCount = 2
          then .notifying else .releasing) :: post⟩
  | notify (server : Server) (pre post : List Instance) :
      Trans ⟨server, pre ++ .notifying :: post⟩
        ⟨notifyWaiters server, pre ++ .releasing :: post⟩
  | release (server : Server) (pre post : List Instance) :
      Trans ⟨server, pre ++ .releasing :: post⟩ ⟨server, pre ++ .gone :: post⟩
  | listen (instances : List Instance) : Trans ⟨.starting, instances⟩ ⟨.waiting, instances⟩
  | lose {server : Server} (instances : List Instance) (hawaits : server.awaits = true) :
      Trans ⟨server, instances⟩ ⟨.lost, instances⟩
  | stop (instances : List Instance) : Trans ⟨.stopping, instances⟩ ⟨.stopped, instances⟩

theorem step_trans (h : step m e = some t) : Trans m t := by
  obtain ⟨server, instances⟩ := m
  cases e with
  | clone i =>
    rw [step] at h
    split at h
    next hi =>
      cases h
      exact .clone (List.mem_of_getElem? hi)
    · contradiction
  | drop i =>
    rw [step] at h
    split at h
    next hi =>
      obtain ⟨pre, post, rfl, rfl⟩ := instances_split hi
      rw [set_split] at h
      cases h
      exact .drop server pre post
    · contradiction
  | notify i =>
    rw [step] at h
    split at h
    next hi =>
      obtain ⟨pre, post, rfl, rfl⟩ := instances_split hi
      rw [set_split] at h
      cases h
      exact .notify server pre post
    · contradiction
  | release i =>
    rw [step] at h
    split at h
    next hi =>
      obtain ⟨pre, post, rfl, rfl⟩ := instances_split hi
      rw [set_split] at h
      cases h
      exact .release server pre post
    · contradiction
  | listen =>
    rw [step] at h
    split at h
    next hserver =>
      cases h
      obtain rfl : server = .starting := hserver
      exact .listen instances
    · contradiction
  | lose =>
    rw [step] at h
    split at h
    next hawaits =>
      cases h
      exact .lose instances hawaits
    · contradiction
  | stop =>
    rw [step] at h
    split at h
    next hserver =>
      cases h
      obtain rfl : server = .stopping := hserver
      exact .stop instances
    · contradiction

/-- A server that was told to stop was told by the last drop. -/
structure MetricsHolds (m : Metrics) : Prop where
  notifying : .notifying ∈ m.instances → .live ∈ m.instances → m.server = .lost
  told : m.server.told = true → .live ∉ m.instances

theorem mem_other (h : x ∈ pre ++ y :: post) (hne : x ≠ y) (z : Instance) :
    x ∈ pre ++ z :: post := by
  rcases List.mem_append.mp h with hpre | hpost
  · exact List.mem_append_left _ hpre
  · rcases List.mem_cons.mp hpost with heq | hin
    · exact absurd heq hne
    · exact List.mem_append_right _ (List.mem_cons_of_mem _ hin)

theorem mem_split (x : Instance) : x ∈ pre ++ x :: post := by simp

theorem mem_around (h : x ∈ pre ++ post) (y : Instance) : x ∈ pre ++ y :: post := by
  rcases List.mem_append.mp h with hpre | hpost
  · exact List.mem_append_left _ hpre
  · exact List.mem_append_right _ (List.mem_cons_of_mem _ hpost)

theorem strongCount_live : (Metrics.mk server (pre ++ .live :: post)).strongCount =
    (pre ++ post).countP (· ≠ .gone) + 1 + server.handles := by
  rw [strongCount]
  dsimp only
  rw [List.countP_append, List.countP_append, List.countP_cons_of_pos (by decide)]
  omega

/-- When an instance reads two while another is in use, the server is gone. -/
theorem handles_of_two (hcount : (Metrics.mk server (pre ++ .live :: post)).strongCount = 2)
    (hlive : .live ∈ pre ++ .notifying :: post) : server.handles = 0 := by
  have hother : .live ∈ pre ++ post := by
    rcases List.mem_append.mp hlive with hpre | hpost
    · exact List.mem_append_left _ hpre
    · exact List.mem_append_right _ ((List.mem_cons.mp hpost).resolve_left (by simp))
  have hpos : 0 < (pre ++ post).countP (· ≠ .gone) :=
    List.countP_pos_iff.mpr ⟨.live, hother, by simp⟩
  rw [strongCount_live] at hcount
  omega

theorem MetricsHolds.drop (hm : MetricsHolds ⟨server, pre ++ .live :: post⟩) :
    MetricsHolds ⟨server, pre ++ (if (Metrics.mk server (pre ++ .live :: post)).strongCount = 2
      then .notifying else .releasing) :: post⟩ := by
  have hlive : .live ∈ pre ++ .live :: post := mem_split _
  have htold : ¬ server.told = true := fun ht => hm.told ht hlive
  refine ⟨fun hn hl => ?_, fun ht => absurd ht htold⟩
  split at hn
  next hcount =>
    rw [if_pos hcount] at hl
    have hhandles := handles_of_two hcount hl
    cases server with
    | lost => rfl
    | stopped => exact absurd rfl htold
    | _ => contradiction
  · exact hm.notifying (mem_other hn (by simp) _) hlive

theorem MetricsHolds.notify (hm : MetricsHolds ⟨server, pre ++ .notifying :: post⟩) :
    MetricsHolds ⟨notifyWaiters server, pre ++ .releasing :: post⟩ := by
  have hlost (hl : .live ∈ pre ++ .releasing :: post) : server = .lost :=
    hm.notifying (mem_split _) (mem_other hl (by simp) _)
  refine ⟨fun _ hl => ?_, fun ht hl => ?_⟩
  · rw [hlost hl]
    rfl
  · obtain rfl := hlost hl
    contradiction

theorem MetricsHolds.release (hm : MetricsHolds ⟨server, pre ++ .releasing :: post⟩) :
    MetricsHolds ⟨server, pre ++ .gone :: post⟩ := by
  have hold (x : Instance) (hx : x ≠ .gone) (hin : x ∈ pre ++ .gone :: post) :
      x ∈ pre ++ .releasing :: post :=
    mem_other hin hx _
  exact ⟨fun hn hl => hm.notifying (hold _ (by simp) hn) (hold _ (by simp) hl),
    fun ht hl => hm.told ht (hold _ (by simp) hl)⟩

theorem MetricsHolds.step (hm : MetricsHolds m) (h : m.step e = some t) : MetricsHolds t := by
  cases step_trans h with
  | clone hlive =>
    refine ⟨fun hn _ => hm.notifying ?_ hlive, fun ht => absurd hlive (hm.told ht)⟩
    simpa using hn
  | drop => exact hm.drop
  | notify => exact hm.notify
  | release => exact hm.release
  | listen =>
    refine ⟨fun hn hl => ?_, fun ht => by contradiction⟩
    have hlost := hm.notifying hn hl
    contradiction
  | lose => exact ⟨fun _ _ => rfl, fun ht => by contradiction⟩
  | stop instances =>
    have hnone : .live ∉ instances := hm.told rfl
    exact ⟨fun _ hl => absurd hl hnone, fun _ => hnone⟩

/-- The server is told to stop only when every instance has been dropped. -/
theorem told_means_dropped (h : Machine.Reachable step new m) (htold : m.server.told = true) :
    .live ∉ m.instances := by
  have hholds : MetricsHolds m := by
    refine Machine.Reaches.invariant (fun _ _ _ hm _ hstep => hm.step hstep) h ⟨?_, ?_⟩
    · intro hn
      simp [new] at hn
    · intro ht
      contradiction
  exact hholds.told htold

theorem told_means_dropped_last :
    .live ∉ (Metrics.mk .stopping [.gone, .releasing]).instances :=
  told_means_dropped (Machine.reachable_of_exec
    [.listen, .clone 0, .drop 0, .release 0, .drop 1, .notify 1] (by decide)) rfl

/-- Some steps from here on tell the server to stop. -/
def CanStop (m : Metrics) : Prop := ∃ t, Machine.Reachable step m t ∧ t.server.told = true

/-- An instance that has yet to read the count, or that has read two. -/
def Undecided (m : Metrics) : Prop := .live ∈ m.instances ∨ .notifying ∈ m.instances

def Stoppable (m : Metrics) : Prop :=
  m.server.told = true ∨ m.server.awaits = true ∧ m.Undecided

theorem stoppable_notify (ht : Stoppable ⟨notifyWaiters server, pre ++ .releasing :: post⟩) :
    Stoppable ⟨server, pre ++ .notifying :: post⟩ := by
  have hserver : (notifyWaiters server).told = true ∨ (notifyWaiters server).awaits = true :=
    ht.imp_right And.left
  have hnotifying : Undecided ⟨server, pre ++ .notifying :: post⟩ := Or.inr (mem_split _)
  cases server with
  | lost => simp [notifyWaiters, Server.told, Server.awaits] at hserver
  | starting => exact Or.inr ⟨rfl, hnotifying⟩
  | waiting => exact Or.inr ⟨rfl, hnotifying⟩
  | stopping => exact Or.inl rfl
  | stopped => exact Or.inl rfl

theorem stoppable_back (h : step m e = some t) (ht : t.Stoppable) : m.Stoppable := by
  cases step_trans h with
  | clone hlive => exact ht.imp_right fun hawaits => ⟨hawaits.1, Or.inl hlive⟩
  | drop => exact ht.imp_right fun hawaits => ⟨hawaits.1, Or.inl (mem_split _)⟩
  | notify => exact stoppable_notify ht
  | release =>
    refine ht.imp_right fun hawaits => ⟨hawaits.1, ?_⟩
    exact hawaits.2.imp (fun hl => mem_other hl (by simp) _) (fun hn => mem_other hn (by simp) _)
  | listen =>
    rcases ht with htold | hawaits
    · contradiction
    · exact Or.inr ⟨rfl, hawaits.2⟩
  | lose =>
    rcases ht with htold | hawaits
    · contradiction
    · exact absurd hawaits.1 (by simp [Server.awaits])
  | stop => exact Or.inl rfl

theorem canStop_of_step (h : step m e = some t) (ht : CanStop t) : CanStop m := by
  obtain ⟨u, hu, htold⟩ := ht
  exact ⟨u, Relation.ReflTransGen.head ⟨e, trivial, h⟩ hu, htold⟩

theorem canStop_notifying : CanStop ⟨.waiting, pre ++ .notifying :: post⟩ := by
  have hget : (pre ++ Instance.notifying :: post)[pre.length]? = some .notifying := by simp
  have hstep : step ⟨.waiting, pre ++ .notifying :: post⟩ (.notify pre.length) =
      some ⟨.stopping, pre ++ .releasing :: post⟩ := by
    rw [step, if_pos hget, set_split]
    rfl
  exact canStop_of_step hstep ⟨_, .refl, rfl⟩

/-- Only an instance in use keeps the count of a drop away from two when no other drop is
under way. -/
theorem other_live (hnotifying : .notifying ∉ pre ++ .live :: post)
    (hreleasing : .releasing ∉ pre ++ .live :: post)
    (hcount : ¬ (Metrics.mk .waiting (pre ++ .live :: post)).strongCount = 2) :
    .live ∈ pre ++ post := by
  by_contra hnone
  have hgone : (pre ++ post).countP (· ≠ .gone) = 0 := by
    rw [List.countP_eq_zero]
    intro x hx
    have hin := mem_around hx .live
    cases x with
    | gone => simp
    | live => exact absurd hx hnone
    | notifying => exact absurd hin hnotifying
    | releasing => exact absurd hin hreleasing
  rw [strongCount_live, hgone] at hcount
  exact hcount rfl

/-- The drops finish one after another. -/
theorem canStop_waiting {instances : List Instance} {n : Nat}
    (hn : 2 * instances.count .live + instances.count .releasing ≤ n)
    (hlive : .live ∈ instances) : CanStop ⟨.waiting, instances⟩ := by
  induction n generalizing instances with
  | zero =>
    have hpos := List.count_pos_iff.mpr hlive
    omega
  | succ n ih =>
    by_cases hnotifying : .notifying ∈ instances
    · obtain ⟨pre, post, rfl⟩ := List.append_of_mem hnotifying
      exact canStop_notifying
    by_cases hreleasing : .releasing ∈ instances
    · obtain ⟨pre, post, rfl⟩ := List.append_of_mem hreleasing
      have hstep : step ⟨.waiting, pre ++ .releasing :: post⟩ (.release pre.length) =
          some ⟨.waiting, pre ++ .gone :: post⟩ := by
        rw [step, if_pos (by simp), set_split]
      refine canStop_of_step hstep (ih ?_ (mem_other hlive (by simp) _))
      simp [List.count_append] at hn ⊢
      omega
    obtain ⟨pre, post, rfl⟩ := List.append_of_mem hlive
    have hstep : step ⟨.waiting, pre ++ .live :: post⟩ (.drop pre.length) = some ⟨.waiting,
        pre ++ (if (Metrics.mk .waiting (pre ++ .live :: post)).strongCount = 2
          then .notifying else .releasing) :: post⟩ := by
      rw [step, if_pos (by simp), set_split]
    refine canStop_of_step hstep ?_
    split
    · exact canStop_notifying
    next hcount =>
      have hother := other_live hnotifying hreleasing hcount
      refine ih ?_ (mem_around hother _)
      simp [List.count_append] at hn ⊢
      omega

/-- The server can still be told to stop exactly when it has not ended and some instance has
yet to read the count or has read two: drops that have all read more leave it running. -/
theorem can_stop_iff (m : Metrics) : m.CanStop ↔ m.Stoppable := by
  constructor
  · rintro ⟨t, ht, htold⟩
    have hstoppable : t.Stoppable := Or.inl htold
    clear htold
    induction ht with
    | refl => exact hstoppable
    | tail _ hstep ih =>
      obtain ⟨e, -, he⟩ := hstep
      exact ih (stoppable_back he hstoppable)
  · rintro (htold | ⟨hawaits, hundecided⟩)
    · exact ⟨m, .refl, htold⟩
    have hwaiting : CanStop ⟨.waiting, m.instances⟩ := by
      rcases hundecided with hlive | hnotifying
      · exact canStop_waiting (Nat.le_refl _) hlive
      · obtain ⟨pre, post, hsplit⟩ := List.append_of_mem hnotifying
        rw [hsplit]
        exact canStop_notifying
    obtain ⟨server, instances⟩ := m
    cases server with
    | starting => exact canStop_of_step (e := .listen) rfl hwaiting
    | waiting => exact hwaiting
    | _ => contradiction

/-- Two drops that both read three: the server runs on for good. -/
example : Machine.exec step new [.listen, .clone 0, .drop 0, .drop 1, .release 0, .release 1] =
    some ⟨.waiting, [.gone, .gone]⟩ ∧ ¬ Stoppable ⟨.waiting, [.gone, .gone]⟩ := by
  constructor
  · decide
  · rw [Stoppable, Undecided]
    decide

def notified (m : Metrics) (i : Nat) : Option Metrics :=
  if m.instances[i]? = some .notifying then m.step (.notify i) else some m

/-- A drop that no other one overlaps. -/
def dropWhole (m : Metrics) (i : Nat) : Option Metrics :=
  (m.step (.drop i)).bind fun m => (m.notified i).bind fun m => m.step (.release i)

inductive WholeEvent where
  | clone (i : Nat)
  | drop (i : Nat)

def wholeStep (m : Metrics) : WholeEvent → Option Metrics
  | .clone i => m.step (.clone i)
  | .drop i => m.dropWhole i

theorem dropWhole_live :
    dropWhole ⟨server, pre ++ .live :: post⟩ pre.length =
      some ⟨if (pre ++ post).countP (· ≠ .gone) + 1 + server.handles = 2
        then notifyWaiters server else server, pre ++ .gone :: post⟩ := by
  have hdrop : step ⟨server, pre ++ .live :: post⟩ (.drop pre.length) = some ⟨server,
      pre ++ (if (pre ++ post).countP (· ≠ .gone) + 1 + server.handles = 2
        then .notifying else .releasing) :: post⟩ := by
    rw [step, if_pos (by simp), set_split, strongCount_live]
  have hrelease (server : Server) : step ⟨server, pre ++ .releasing :: post⟩ (.release pre.length) =
      some ⟨server, pre ++ .gone :: post⟩ := by
    rw [step, if_pos (by simp), set_split]
  rw [dropWhole, hdrop, Option.bind_some]
  split
  · have hnotify : step ⟨server, pre ++ .notifying :: post⟩ (.notify pre.length) =
        some ⟨notifyWaiters server, pre ++ .releasing :: post⟩ := by
      rw [step, if_pos (by simp), set_split]
    rw [notified, if_pos (by simp), hnotify, Option.bind_some]
    exact hrelease _
  · rw [notified, if_neg (by simp), Option.bind_some]
    exact hrelease _

/-- Between drops that do not overlap. -/
structure Whole (m : Metrics) : Prop where
  settled : ∀ x ∈ m.instances, x = .live ∨ x = .gone
  server : m.server = if .live ∈ m.instances then .waiting else .stopping

theorem Whole.clone (hm : Whole m) (hlive : .live ∈ m.instances) :
    Whole { m with instances := m.instances ++ [.live] } := by
  have hserver := hm.server
  rw [if_pos hlive] at hserver
  refine ⟨fun x hx => ?_, ?_⟩
  · rcases List.mem_append.mp hx with hold | hnew
    · exact hm.settled x hold
    · exact Or.inl (List.mem_singleton.mp hnew)
  · rw [if_pos (List.mem_append_right _ (List.mem_singleton.mpr rfl))]
    exact hserver

theorem Whole.drop (hm : Whole ⟨server, pre ++ .live :: post⟩) :
    Whole ⟨if (pre ++ post).countP (· ≠ .gone) + 1 + server.handles = 2
      then notifyWaiters server else server, pre ++ .gone :: post⟩ := by
  obtain ⟨hsettled, hserver⟩ := hm
  rw [if_pos (mem_split _)] at hserver
  obtain rfl : server = .waiting := hserver
  have hothers : ∀ x ∈ pre ++ post, x = .live ∨ x = .gone :=
    fun x hx => hsettled x (mem_around hx _)
  have hlive : .live ∈ pre ++ .gone :: post ↔ .live ∈ pre ++ post := by simp
  refine ⟨fun x hx => ?_, ?_⟩
  · rcases List.mem_append.mp hx with hpre | hpost
    · exact hothers x (List.mem_append_left _ hpre)
    · rcases List.mem_cons.mp hpost with heq | hin
      · exact Or.inr heq
      · exact hothers x (List.mem_append_right _ hin)
  · dsimp only
    by_cases hlast : .live ∈ pre ++ post
    · have hpos : 0 < (pre ++ post).countP (· ≠ .gone) :=
        List.countP_pos_iff.mpr ⟨.live, hlast, by decide⟩
      rw [if_pos (hlive.mpr hlast), if_neg]
      rw [Server.handles]
      omega
    · have hgone : (pre ++ post).countP (· ≠ .gone) = 0 := by
        rw [List.countP_eq_zero]
        intro x hx
        rcases hothers x hx with rfl | rfl
        · exact absurd hx hlast
        · simp
      rw [if_neg (mt hlive.mp hlast), hgone]
      rfl

theorem Whole.step {e : WholeEvent} (hm : Whole m) (h : m.wholeStep e = some t) : Whole t := by
  cases e with
  | clone i =>
    rw [wholeStep, Metrics.step] at h
    split at h
    next hi =>
      cases h
      exact hm.clone (List.mem_of_getElem? hi)
    · contradiction
  | drop i =>
    by_cases hi : m.instances[i]? = some .live
    · obtain ⟨pre, post, hsplit, rfl⟩ := instances_split hi
      obtain ⟨server, instances⟩ := m
      subst hsplit
      rw [wholeStep, dropWhole_live] at h
      cases h
      exact hm.drop
    · have hnone : m.dropWhole i = none := by
        rw [dropWhole, Metrics.step, if_neg hi]
        rfl
      rw [wholeStep, hnone] at h
      contradiction

/-- When no two drops overlap and the server has come to wait, it is told to stop by the
last drop and by no other. -/
theorem whole_drops_stop (h : Machine.Reachable wholeStep ⟨.waiting, [.live]⟩ m) :
    m.server.told = true ↔ .live ∉ m.instances := by
  have hwhole : Whole m := by
    refine Machine.Reaches.invariant (fun _ _ _ hm _ hstep => hm.step hstep) h ⟨?_, ?_⟩
    · intro x hx
      exact Or.inl (List.mem_singleton.mp hx)
    · exact (if_pos (List.mem_singleton.mpr rfl)).symm
  rw [hwhole.server]
  split
  next hlive => exact ⟨fun ht => by contradiction, fun hnone => absurd hlive hnone⟩
  next hnone => exact ⟨fun _ => hnone, fun _ => rfl⟩

theorem whole_drops_stop_two :
    (Metrics.mk .stopping [.gone, .gone]).server.told = true ↔
      .live ∉ (Metrics.mk .stopping [.gone, .gone]).instances :=
  whole_drops_stop (Machine.reachable_of_exec [.clone 0, .drop 0, .drop 1] (by decide))

end Metrics

end PdDisaggregation.Kvbm
