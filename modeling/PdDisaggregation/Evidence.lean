import PdDisaggregation.Check
import PdDisaggregation.Pattern
import PdDisaggregation.PyFloat

/-! An evidence directory: the JSON records and the text snapshots that the
summary and the gates read, and how they read them. -/

namespace PdDisaggregation

inductive EvidenceError where
  | fileNotFound (name : String)
  | metricMissing (name file : String)
  | notANumber (text : Text)
  | noneValue (field : String)
  | keyError (key : String)
  | divisionByZero
  | overflow
  | counterUnparsed (kind label : String)
  | rdmaUnparsed (direction label : String)
  | errorsIncreased
  | incompleteKv (label : String) (ops mib wantedOps wantedMib : Int)
  | storageBytes (label : String) (actualBytes payloadMib : Int)
  | answerGate
  | tooFewTransfers (found needed : Nat)
  | transferSize (label : String)
  deriving DecidableEq

/-- The outer `Option` is the key, the inner one a `null`. -/
structure PromptTokensDetails where
  cachedTokens : Option (Option Int)
  deriving DecidableEq

structure Usage where
  promptTokens : Option Int
  promptTokensDetails : Option PromptTokensDetails
  deriving DecidableEq

structure RequestResult (F : Type) where
  httpStatus : Int
  payloadSha256 : Text
  ttftSeconds : Option F
  answerCorrect : Bool
  usage : Usage
  deriving DecidableEq

structure Metadata where
  payloadSha256 : Text
  predictedInputTokens : Int
  expectedCachedTokens : Int
  expectedKvBlocks : Int
  expectedGdsMib : Int
  expectedGdsOps : Int
  expectedPdMib : Int
  expectedPdDescriptors : Int

/-- `comparison.json`. A performance-only run leaves the fields of the
overwrite request out, an older run those of the warm samples. -/
structure Comparison (F : Type) where
  performanceOnly : Option Bool
  coldAnswerCorrect : Bool
  warmAnswerCorrect : Bool
  evictionAnswerCorrect : Option Bool
  coldTtftSeconds : F
  warmGdsTtftSeconds : F
  warmBestTtftSeconds : Option F
  warmTtftSamplesSeconds : Option (List F)
  warmSampleCount : Option Int
  ttftSpeedup : Option F
  coldCachedTokens : Int
  warmCachedTokens : Int
  coldOffloadBlocksDelta : F
  warmOnboardBlocksDelta : F
  matchedTokensDelta : F
  expectedGdsMib : Int
  expectedGdsOps : Int
  expectedEvictionGdsMib : Option Int
  expectedEvictionGdsOps : Option Int
  expectedPdMib : Int
  expectedPdDescriptors : Int
  expectedEvictionPdMib : Option Int
  expectedEvictionPdDescriptors : Option Int
  deriving DecidableEq

/-- The texts are the decoded files. Where a pattern is searched in one, it is the text that
`read_text` returns, with the line ends translated. -/
structure EvidenceDir (F : Type) where
  metadata : Metadata
  requests : List (String × RequestResult F)
  texts : List (String × Text)
  comparison : Option (Comparison F)

variable {F : Type}

def EvidenceDir.request (dir : EvidenceDir F) (name : String) :
    Except EvidenceError (RequestResult F) :=
  Check.orElse (dir.requests.lookup name) (.fileNotFound name)

def EvidenceDir.readText (dir : EvidenceDir F) (name : String) : Except EvidenceError Text :=
  Check.orElse (dir.texts.lookup name) (.fileNotFound name)

def EvidenceDir.isFile (dir : EvidenceDir F) (name : String) : Bool :=
  (dir.texts.lookup name).isSome

/-- `prometheus_value`: the last field of the first line that starts with the
name and a space. -/
def prometheusValue [PyFloat F] (dir : EvidenceDir F) (file name : String) :
    Except EvidenceError F := do
  let text ← dir.readText file
  let line ← Check.orElse
    ((Text.splitlines text).find? ((name.toList ++ [' ']).isPrefixOf ·)) (.metricMissing name file)
  let field := (line.reverse.takeWhile (· != ' ')).reverse
  Check.orElse (PyFloat.parse field) (.notANumber field)

structure NvfsCounter where
  ops : Int
  err : Int
  mib : Int
  deriving DecidableEq

/-- `^{kind}\s*: n=(\d+) ok=\d+ err=(\d+).*?{kind.lower()[:-1]}MiB=(\d+)` -/
def nvfsPattern (kind : Text) : List Pattern.Piece :=
  [.lit kind, .run Pattern.isSpace 0 false, .lit ": n=".toList, .run Text.isDecimal 1 true,
    .lit " ok=".toList, .run Text.isDecimal 1 false, .lit " err=".toList, .run Text.isDecimal 1 true,
    .skip Pattern.notNewline, .lit ((kind.map Char.toLower).dropLast ++ "MiB=".toList),
    .run Text.isDecimal 1 true]

def parseNvfs (kind : String) (text : Text) : Option NvfsCounter :=
  match Pattern.searchLines (nvfsPattern kind.toList) text with
  | some [ops, err, mib] => some ⟨Text.decimals ops, Text.decimals err, Text.decimals mib⟩
  | _ => none

def nvfsCounter (dir : EvidenceDir F) (label kind : String) : Except EvidenceError NvfsCounter := do
  let text ← dir.readText ("nvidia-fs-" ++ label ++ ".txt")
  Check.orElse (parseNvfs kind text) (.counterUnparsed kind label)

/-- `^\s*{direction}_vport_rdma_unicast_bytes:\s*(\d+)` -/
def rdmaPattern (direction : Text) : List Pattern.Piece :=
  [.run Pattern.isSpace 0 false, .lit (direction ++ "_vport_rdma_unicast_bytes:".toList),
    .run Pattern.isSpace 0 false, .run Text.isDecimal 1 true]

def parseRdmaBytes (direction : String) (text : Text) : Option Int :=
  match Pattern.searchLines (rdmaPattern direction.toList) text with
  | some [bytes] => some (Text.decimals bytes)
  | _ => none

def node3RdmaBytes (dir : EvidenceDir F) (label direction : String) : Except EvidenceError Int := do
  let text ← dir.readText ("node3-" ++ label ++ ".txt")
  Check.orElse (parseRdmaBytes direction text) (.rdmaUnparsed direction label)

/-- `"IO stats: Enabled" in text` -/
def statsEnabled (text : Text) : Bool := Text.contains "IO stats: Enabled".toList text

def isNumeral (c : Char) : Bool := c.isDigit || c == '.'

structure Transfer (F : Type) where
  line : Text
  mib : F
  descriptors : F

/-- Lines that lack one of the two numbers are passed over; a number `float`
cannot read is an error. -/
def parseTransfer [PyFloat F] (line : Text) : Except EvidenceError (Option (Transfer F)) :=
  if Text.contains "KV Transfer metrics:".toList line then
    match Pattern.search [.lit "Avg MB per transfer=".toList, .run isNumeral 1 true] line,
      Pattern.search [.lit "Avg number of descriptors=".toList, .run isNumeral 1 true] line with
    | some [mib], some [descriptors] => do
      let m ← Check.orElse (PyFloat.parse mib) (.notANumber mib)
      let d ← Check.orElse (PyFloat.parse descriptors) (.notANumber descriptors)
      return some ⟨line, m, d⟩
    | _, _ => return none
  else return none

def transfers [PyFloat F] (log : Text) : Except EvidenceError (List (Transfer F)) := do
  let found ← (Text.splitlines log).mapM parseTransfer
  return found.filterMap id

end PdDisaggregation
