import PdDisaggregation.Gates
import PdDisaggregation.PatternScan

/-! `nixl_transfer_times` of `roce-throughput.py` and the requests its times
are paired with, next to the lines of the decode log that the gate pairs with
the same requests. A time keeps the place in the log it was read from. -/

namespace PdDisaggregation

inductive NixlError where
  | notAFloat (text : Text)
  | tooFew (found : Nat) (decodeLog : String) (count : Nat)
  deriving DecidableEq

def NixlError.message : NixlError → String
  | .notAFloat text => "could not convert string to float: '" ++ String.ofList text ++ "'"
  | .tooFew found decodeLog count =>
    "found " ++ toString found ++ " NIXL transfer metrics in " ++ decodeLog ++ ", need " ++
      toString count

structure TransferTime (F : Type) where
  start : Nat
  stop : Nat
  seconds : F
  deriving DecidableEq

deriving instance DecidableEq for Transfer

def metricsMarker : Text := "KV Transfer metrics:".toList

def xferKey : Text := "Avg xfer time (ms)=".toList

def mibKey : Text := "Avg MB per transfer=".toList

/-- `KV Transfer metrics:.*?Avg xfer time \(ms\)=([0-9.]+).*?Avg MB per transfer=([0-9.]+)` -/
def nixlPattern : List Pattern.Piece :=
  .lit metricsMarker :: Pattern.fields isNumeral [xferKey, mibKey]

def lastOf {α : Type} (count : Nat) (l : List α) : List α := l.drop (l.length - count)

section

variable {F : Type} [PyFloat F]

/-- Both numbers have to be floats, the second is not used. -/
def readTime (m : Pattern.Found) : Except NixlError (TransferTime F) :=
  match m.groups with
  | [milliseconds, mib] => do
    let time : F ← Check.orElse (PyFloat.parse milliseconds) (.notAFloat milliseconds)
    let _ : F ← Check.orElse (PyFloat.parse mib) (.notAFloat mib)
    return ⟨m.start, m.stop, time⟩
  | _ => .error (.notAFloat [])

/-- `log` is the text that `read_text` returns for the file. -/
def nixlTransferTimes (decodeLog : String) (log : Text) (count : Nat) :
    Except NixlError (List (TransferTime F)) := do
  let found ← (Pattern.findIter nixlPattern log).mapM readTime
  Check.require (count ≤ found.length) (.tooFew found.length decodeLog count)
  return (lastOf count found).map fun t => { t with seconds := t.seconds / (1000.0 : F) }

end

/-- The requests of a run. The second one overwrites the cache. -/
inductive Request where
  | cold
  | overwrite
  | warm (sample : Nat)
  deriving DecidableEq

def Request.label : Request → String
  | .cold => "cold"
  | .overwrite => "evict"
  | .warm sample => if sample = 1 then "warm" else "warm-" ++ toString sample

variable {F : Type}

/-- `labels` of `summarize` in `roce-throughput.py`. -/
def roceLabels (c : Comparison F) : List String :=
  "cold" :: (List.range c.sampleCount.toNat).map fun i =>
    if i + 1 = 1 then "warm" else "warm-" ++ toString (i + 1)

def warmRequests (c : Comparison F) : List Request :=
  (List.range c.sampleCount.toNat).map fun i => .warm (i + 1)

def roceRequests (c : Comparison F) : List Request := .cold :: warmRequests c

theorem label_roceRequests (c : Comparison F) :
    (roceRequests c).map Request.label = roceLabels c := by
  rw [roceRequests, warmRequests, roceLabels, List.map_cons, List.map_map]
  rfl

variable [PyFloat F]

end PdDisaggregation
