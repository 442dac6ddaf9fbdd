import PdDisaggregation.Pacing
import PdDisaggregation.RoceThroughput
import Mathlib.Data.Rat.Floor
import Mathlib.Tactic.Linarith

/-! `sample` of `roce-throughput.py`: the loop that reads the port counters once an
interval. Times are numbers of seconds; `fl` is the rounding of a float operation. -/

namespace PdDisaggregation

/-- The clock does not go back. -/
abbrev Duration (K : Type) [Zero K] [LE K] := { d : K // 0 ≤ d }

/-- What one iteration of the loop meets. `arriving` is the time until the clock is read
for the sample; `pausing` is what a sleep takes beyond its delay, and in a late iteration
the time until the clock is read again. -/
structure Iteration (K : Type) [Zero K] [LE K] where
  stopping : Bool
  arriving : Duration K
  rcvData : Option Int
  xmitData : Option Int
  reading : Duration K
  pipeOpen : Bool
  writing : Duration K
  pausing : Duration K

inductive SamplerError where
  | systemExit (message : String)
  | unreadable (counter : String)
  | brokenPipe
  deriving DecidableEq

/-- `taken` are the times of the samples, `rows` those written. -/
structure Sampler (K : Type) where
  clock : K
  nextSample : K
  taken : List K
  rows : List RoceSample
  deriving DecidableEq

def counterDir : String := "/sys/class/infiniband/mlx5_0/ports/1/counters"

def rxCounter : String := counterDir ++ "/port_rcv_data"

def txCounter : String := counterDir ++ "/port_xmit_data"

def Iteration.counters {K : Type} [Zero K] [LE K] (it : Iteration K) :
    Except SamplerError (Int × Int) := do
  let rcv ← Check.orElse it.rcvData (.unreadable rxCounter)
  let xmit ← Check.orElse it.xmitData (.unreadable txCounter)
  return (rcv, xmit)

section Clock

variable {K : Type} [Field K] [LinearOrder K]

def Sampler.take (s : Sampler K) (arriving : Duration K) : Sampler K :=
  { s with
    clock := s.clock + arriving
    taken := s.taken ++ [s.clock + arriving] }

def Sampler.pass (s : Sampler K) (delay : Duration K) : Sampler K :=
  { s with clock := s.clock + delay }

/-- The end of an iteration: sleeps until the next sample is due, or lets a late one go
and counts from the present. -/
def Sampler.pace (fl : K → K) (interval : K) (s : Sampler K) (pausing : Duration K) :
    Sampler K :=
  let next := fl (s.nextSample + interval)
  let delay := fl (next - fl s.clock)
  if 0 < delay then { s with clock := s.clock + delay + pausing, nextSample := next }
  else { s with clock := s.clock + pausing, nextSample := fl (s.clock + pausing) }

def Rounds (fl : K → K) (ε : K) : Prop := ∀ x, |fl x - x| ≤ ε

variable [IsStrictOrderedRing K] {fl : K → K} {ε interval : K} {s : Sampler K} {d : Duration K}

theorem Rounds.exact : Rounds (K := K) id 0 := by
  intro x
  rw [id, sub_self, abs_zero]

theorem Rounds.le_add (h : Rounds fl ε) (x : K) : fl x ≤ x + ε := by
  have hx := (abs_sub_le_iff.mp (h x)).1
  linarith

theorem Rounds.sub_le (h : Rounds fl ε) (x : K) : x - ε ≤ fl x := by
  have hx := (abs_sub_le_iff.mp (h x)).2
  linarith

theorem Rounds.nonneg (h : Rounds fl ε) : 0 ≤ ε := (abs_nonneg (fl 0 - 0)).trans (h 0)

/-- The delay is the time from the clock to the next sample, but for two roundings. -/
theorem Rounds.delay_le (h : Rounds fl ε) (next clock : K) :
    fl (next - fl clock) ≤ next - clock + 2 * ε := by
  have hdelay := h.le_add (next - fl clock)
  have hclock := h.sub_le clock
  linarith

theorem Rounds.le_delay (h : Rounds fl ε) (next clock : K) :
    next - clock - 2 * ε ≤ fl (next - fl clock) := by
  have hdelay := h.sub_le (next - fl clock)
  have hclock := h.le_add clock
  linarith

omit [IsStrictOrderedRing K] in
@[simp] theorem Sampler.pace_taken : (s.pace fl interval d).taken = s.taken := by
  rw [pace]
  split
  · rfl
  · rfl

theorem Sampler.pace_advances (h : Rounds fl ε) :
    s.nextSample + (interval - 4 * ε) ≤ (s.pace fl interval d).nextSample := by
  have hε := h.nonneg
  have hnext := h.sub_le (s.nextSample + interval)
  rw [pace]
  split_ifs with hdelay
  · show s.nextSample + (interval - 4 * ε) ≤ fl (s.nextSample + interval)
    linarith
  · -- late, so the clock has passed the time that was due
    have hlate := h.le_delay (fl (s.nextSample + interval)) s.clock
    have hclock := h.sub_le (s.clock + d)
    have hd := d.property
    show s.nextSample + (interval - 4 * ε) ≤ fl (s.clock + d)
    linarith

theorem Sampler.pace_due (h : Rounds fl ε) :
    s.clock ≤ (s.pace fl interval d).nextSample + 2 * ε := by
  have hε := h.nonneg
  rw [pace]
  split_ifs with hdelay
  · have hearly := h.delay_le (fl (s.nextSample + interval)) s.clock
    show s.clock ≤ fl (s.nextSample + interval) + 2 * ε
    linarith
  · have hclock := h.sub_le (s.clock + d)
    have hd := d.property
    show s.clock ≤ fl (s.clock + d) + 2 * ε
    linarith

theorem Sampler.pace_arrived (h : Rounds fl ε) :
    (s.pace fl interval d).nextSample ≤ (s.pace fl interval d).clock + 2 * ε := by
  have hε := h.nonneg
  have hd := d.property
  rw [pace]
  split_ifs with hdelay
  · have hslept := h.le_delay (fl (s.nextSample + interval)) s.clock
    show fl (s.nextSample + interval) ≤
      s.clock + fl (fl (s.nextSample + interval) - fl s.clock) + d + 2 * ε
    linarith
  · have hclock := h.le_add (s.clock + d)
    show fl (s.clock + d) ≤ s.clock + d + 2 * ε
    linarith

/-- Between two iterations: the next sample is due when the clock says so, and not before
the intervals of those behind it are over. -/
structure Sampler.OnPace (interval slack : K) (s : Sampler K) : Prop where
  paced : Pacing.Paced interval slack s.taken s.nextSample
  arrived : s.nextSample ≤ s.clock + slack

variable {slack : K} {arriving : Duration K}

theorem Sampler.OnPace.late (h : s.OnPace interval slack) (arriving : Duration K) :
    s.nextSample ≤ s.clock + arriving + slack := by
  have harrived := h.arrived
  have hd := arriving.property
  linarith

theorem Sampler.OnPace.take_spread (h : s.OnPace interval slack) :
    Pacing.Spread interval (slack + slack) (s.take arriving).taken := by
  apply h.paced.spread.append
  intro i j x hx heq
  have hdue := h.paced.due i j x hx heq
  have hlate := h.late arriving
  linarith

/-- One iteration, whatever happens between the sample and the pace. -/
theorem Sampler.OnPace.pace (hr : Rounds fl ε) (h : s.OnPace (interval - 4 * ε) (2 * ε))
    {s' : Sampler K} (htaken : s'.taken = s.taken ++ [s.clock + arriving])
    (hnext : s'.nextSample = s.nextSample) (hclock : s.clock + arriving ≤ s'.clock) :
    (s'.pace fl interval d).OnPace (interval - 4 * ε) (2 * ε) where
  paced := by
    rw [pace_taken, htaken]
    apply h.paced.append (h.late arriving)
    · rw [← hnext]
      exact pace_advances hr
    · exact hclock.trans (pace_due hr)
  arrived := pace_arrived hr

theorem Iteration.clock_le (it : Iteration K) (s : Sampler K) :
    s.clock + it.arriving ≤ (((s.take it.arriving).pass it.reading).pass it.writing).clock := by
  have hreading := it.reading.property
  have hwriting := it.writing.property
  show s.clock + it.arriving ≤ s.clock + it.arriving + it.reading + it.writing
  linarith

end Clock

section Loop

variable {K : Type} [Field K] [LinearOrder K] [FloorRing K]

def Sampler.write (s : Sampler K) (now : K) (counters : Int × Int) : Sampler K :=
  { s with rows := s.rows ++ [⟨⌊now * 1000000000⌋, counters.1, counters.2⟩] }

/-- The loop runs on where it has met all iterations without an end. -/
def Sampler.run (fl : K → K) (interval : K) (s : Sampler K) :
    List (Iteration K) → Sampler K × Option (Except SamplerError Int)
  | [] => (s, none)
  | it :: its =>
    if it.stopping then (s, some (.ok 0))
    else
      let now := s.clock + it.arriving
      let s := s.take it.arriving
      match it.counters with
      | .error e => (s, some (.error e))
      | .ok counters =>
        let s := (s.pass it.reading).pass it.writing
        if it.pipeOpen then
          ((s.write now counters).pace fl interval it.pausing).run fl interval its
        else (s, some (.ok 0))

/-- The header is written before the `try`. -/
def sample (fl : K → K) (isFile : String → Bool) (intervalMs opened : K) (headerOpen : Bool)
    (its : List (Iteration K)) : Sampler K × Option (Except SamplerError Int) :=
  let s : Sampler K := ⟨opened, fl opened, [], []⟩
  let available := Check.each
    (fun counter => Check.require (isFile counter)
      (SamplerError.systemExit ("RoCE counter is unavailable: " ++ counter)))
    [rxCounter, txCounter]
  match available with
  | .error e => (s, some (.error e))
  | .ok () =>
    if headerOpen then s.run fl (fl (intervalMs / 1000)) its
    else (s, some (.error .brokenPipe))

variable [IsStrictOrderedRing K] {fl : K → K} {ε interval : K} {s : Sampler K}

/-- Wherever the loop ends. -/
theorem Sampler.OnPace.run_spread (hr : Rounds fl ε)
    (h : s.OnPace (interval - 4 * ε) (2 * ε)) (its : List (Iteration K)) :
    Pacing.Spread (interval - 4 * ε) (2 * ε + 2 * ε) (s.run fl interval its).1.taken := by
  induction its generalizing s with
  | nil => exact h.paced.spread
  | cons it its ih =>
    rw [run]
    split
    · exact h.paced.spread
    · dsimp only
      split
      · exact h.take_spread
      · split
        · exact ih (h.pace hr rfl rfl (it.clock_le s))
        · exact h.take_spread

theorem sample_spread (hr : Rounds fl ε) (isFile : String → Bool) (intervalMs opened : K)
    (headerOpen : Bool) (its : List (Iteration K)) :
    Pacing.Spread (fl (intervalMs / 1000) - 4 * ε) (2 * ε + 2 * ε)
      (sample fl isFile intervalMs opened headerOpen its).1.taken := by
  have hopened := hr.le_add opened
  have hε := hr.nonneg
  have hstart : (⟨opened, fl opened, [], []⟩ : Sampler K).OnPace
      (fl (intervalMs / 1000) - 4 * ε) (2 * ε) := by
    constructor
    · exact Pacing.Paced.nil
    · show fl opened ≤ opened + 2 * ε
      linarith
  rw [sample]
  split
  · exact hstart.paced.spread
  · split_ifs with hheader
    · exact hstart.run_spread hr its
    · exact hstart.paced.spread

/-- No burst, however late the samples are: `j + 2` samples take the time of `j` intervals,
and a span shorter than one interval has two of them at most. -/
structure NeverBursts (interval : K) (times : List K) : Prop where
  apart : ∀ k (h : k + 2 < times.length), interval ≤ times[k + 2] - times[k]
  noCatchUp : ∀ k j (h : k + j + 1 < times.length), j * interval ≤ times[k + j + 1] - times[k]
  span : ∀ a b, b - a < interval → (times.filter fun t => a ≤ t ∧ t ≤ b).length ≤ 2

omit [FloorRing K] in
theorem NeverBursts.of_spread {times : List K} (h : Pacing.Spread interval 0 times) :
    NeverBursts interval times := by
  have hcatch : ∀ k j (h : k + j + 1 < times.length),
      j * interval ≤ times[k + j + 1] - times[k] := by
    intro k j hlt
    have hkj := h k j _ _ (List.getElem?_eq_getElem (by omega)) (List.getElem?_eq_getElem hlt)
    rw [nsmul_eq_mul] at hkj
    linarith
  constructor
  · intro k hlt
    have hone := hcatch k 1 hlt
    rwa [Nat.cast_one, one_mul] at hone
  · exact hcatch
  · intro a b hspan
    apply h.count_le le_rfl
    rw [one_nsmul]
    linarith

theorem sampler_never_bursts {K : Type} [Field K] [LinearOrder K] [IsStrictOrderedRing K]
    [FloorRing K] (isFile : String → Bool) (intervalMs opened : K) (headerOpen : Bool)
    (its : List (Iteration K)) :
    NeverBursts (intervalMs / 1000)
      (sample id isFile intervalMs opened headerOpen its).1.taken := by
  apply NeverBursts.of_spread
  have hspread := sample_spread Rounds.exact isFile intervalMs opened headerOpen its
  rwa [mul_zero, mul_zero, sub_zero, add_zero] at hspread

end Loop

/-- The first sleep lasts 19 ms for 10, so that the third sample comes 1 ms after the second. -/
def lateIterations : List (Iteration ℚ) :=
  let meets := fun pausing => ⟨false, ⟨0, le_rfl⟩, some 0, some 0, ⟨0, le_rfl⟩, true,
    ⟨0, le_rfl⟩, pausing⟩
  [meets ⟨9 / 1000, by decide +kernel⟩, meets ⟨0, le_rfl⟩, meets ⟨0, le_rfl⟩]

theorem sampler_never_bursts_late :
    (sample id (fun _ => true) 10 0 true lateIterations).1.taken = [0, 19 / 1000, 20 / 1000] ∧
      NeverBursts (10 / 1000 : ℚ)
        (sample id (fun _ => true) 10 0 true lateIterations).1.taken :=
  ⟨by decide +kernel, sampler_never_bursts _ 10 0 true lateIterations⟩

end PdDisaggregation
