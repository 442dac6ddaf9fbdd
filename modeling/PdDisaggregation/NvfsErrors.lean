import PdDisaggregation.StatsFlags

/-! The I/O errors `validate-gds.sh` can miss: those of a live line that carries `err=0` in
another field or number, and those of the counters it compares with none. -/

namespace PdDisaggregation

variable {F : Type}

inductive GdsError where
  | live (message : String)
  | evidence (error : EvidenceError)
  deriving DecidableEq

/-- `{kind}.*n=[1-9][0-9]*.*err=0` -/
def livePattern (kind : Text) : List Pattern.Piece :=
  [.lit kind, .skip Pattern.notNewline, .lit "n=".toList,
    .run (fun c => c.isDigit && c != '0') 1 false, .run Char.isDigit 0 false,
    .skip Pattern.notNewline, .lit "err=0".toList]

def liveLines (stats : Text) : List Text := Text.lines (Text.captured stats)

def grepLine (kind : String) (line : Text) : Bool :=
  (Pattern.search (livePattern kind.toList) line).isSome

def liveGrep (kind : String) (stats : Text) : Bool := (liveLines stats).any (grepLine kind)

/-- The test of the live statistics without `--preflight`. -/
def liveCheck (stats : Text) : Except GdsError Unit := do
  if anchoredGrep .enabled stats then
    Check.require (liveGrep "Reads" stats) (.live "no error-free direct GDS reads counted")
    Check.require (liveGrep "Writes" stats) (.live "no error-free direct GDS writes counted")

variable [PyFloat F]

/-- `validate-gds.sh` with `RUN_EVIDENCE`, past its other checks of the live system. -/
def validateGds (stats : Text) (dir : EvidenceDir F) : Except GdsError Unit := do
  liveCheck stats
  (validateEvidence dir).mapError .evidence

variable {stats before : Text} {dir : EvidenceDir F} {c : Comparison F} {x : NvfsReadings}

section Live

variable {kind line : Text} {stats : Text}

end Live

omit [PyFloat F]

end PdDisaggregation
