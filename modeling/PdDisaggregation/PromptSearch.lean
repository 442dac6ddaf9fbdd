import PdDisaggregation.Bisection
import PdDisaggregation.Summary

/-! The helper that sizes a prompt: the text for a repeat count, the token count
of that text, and the search for the largest count within the target. -/

namespace PdDisaggregation

def maxContext : Nat := 39168
def maxTokens : Nat := 32
def kvBlockSizeTokens : Nat := 256

structure Checkpoints where
  alpha : String
  beta : String
  gamma : String

structure TokenizerConfig where
  unit : String
  runId : String
  checkpoints : Checkpoints
  targetMin : Nat
  targetMax : Nat

/-- `unit * n`. -/
def repeated (unit : String) (n : Nat) : String := String.join (List.replicate n unit)

/-- The prompt with `n` units spread over four stretches, and the answer expected. -/
def build (cfg : TokenizerConfig) (n : Nat) : String × String :=
  let base := n / 4
  let remainder := n % 4
  let length i := base + if i < remainder then 1 else 0
  let cp := cfg.checkpoints
  let opening :=
    "这是一次远端KV缓存一致性验证。下面正文只用于形成长上下文；" ++
    "不要续写、翻译或解释正文。\n" ++
    "RUN_ID=" ++ cfg.runId ++ "\nBEGIN_CONTEXT\n"
  let context :=
    repeated cfg.unit (length 0) ++ "\nCHECKPOINT_ALPHA=" ++ cp.alpha ++ "\n" ++
    repeated cfg.unit (length 1) ++ "\nCHECKPOINT_BETA=" ++ cp.beta ++ "\n" ++
    repeated cfg.unit (length 2) ++ "\nCHECKPOINT_GAMMA=" ++ cp.gamma ++ "\n" ++
    repeated cfg.unit (length 3)
  let suffix :=
    "\nEND_CONTEXT\n" ++
    "RUN_ID=" ++ cfg.runId ++ "\n" ++
    "重复次数=" ++ toString n ++ "\n" ++
    "请找出正文中的 CHECKPOINT_ALPHA、CHECKPOINT_BETA、CHECKPOINT_GAMMA；" ++
    "只输出三个值并用竖线连接，不要输出标签、引号、标点、解释或其他文字。"
  (opening ++ context ++ suffix, cp.alpha ++ "|" ++ cp.beta ++ "|" ++ cp.gamma)

inductive TokenIds where
  | flat (ids : List Nat)
  | batch (rows : List (List Nat))

def TokenIds.length : TokenIds → Nat
  | .flat ids => ids.length
  | .batch [] => 0
  | .batch (row :: _) => row.length

/-- What `apply_chat_template` gives back: ids under `input_ids`, or bare ids. -/
inductive Encoded where
  | keyed (inputIds : TokenIds)
  | bare (ids : TokenIds)

structure Tokenizer where
  applyChatTemplate : String → Encoded
  nameOrPath : String
  commitHash : Option String

def count (tokenizer : Tokenizer) (cfg : TokenizerConfig) (n : Nat) : Nat :=
  match tokenizer.applyChatTemplate (build cfg n).1 with
  | .keyed ids => ids.length
  | .bare ids => ids.length

inductive HelperError where
  | noBracket
  | belowTarget (tokens : Nat)
deriving DecidableEq

def HelperError.message : HelperError → String
  | .noBracket => "could not bracket token target"
  | .belowTarget tokens => "best token count " ++ toString tokens ++ " is below target"

/-- The bracketing loop, from 8192 up to 100000. -/
def bracketTarget (count : Nat → Nat) (targetMax : Nat) : Option Nat :=
  Bisection.bracket (fun high => count high < targetMax) 100000 8192 (by decide)

/-- The repeat count at which the bisection from 1 ends. -/
def bisectTarget (count : Nat → Nat) (targetMax high : Nat) : Nat :=
  Bisection.bisect (fun mid => count mid ≤ targetMax) 1 high (by decide)

/-- The repeat count and its token count, for any way of counting tokens. -/
def searchRepeats (count : Nat → Nat) (targetMin targetMax : Nat) :
    Except HelperError (Nat × Nat) :=
  match bracketTarget count targetMax with
  | none => .error .noBracket
  | some high =>
    let n := bisectTarget count targetMax high
    let tokens := count n
    if tokens < targetMin then .error (.belowTarget tokens) else .ok (n, tokens)

structure PromptPayload where
  repeatCount : Nat
  inputTokens : Nat
  prompt : String
  expectedAnswer : String
  tokenizerNameOrPath : String
  tokenizerRevision : Option String

def tokenizerHelper (tokenizer : Tokenizer) (cfg : TokenizerConfig) :
    Except HelperError PromptPayload := do
  let (n, tokens) ← searchRepeats (count tokenizer cfg) cfg.targetMin cfg.targetMax
  return {
    repeatCount := n
    inputTokens := tokens
    prompt := (build cfg n).1
    expectedAnswer := (build cfg n).2
    tokenizerNameOrPath := tokenizer.nameOrPath
    tokenizerRevision := tokenizer.commitHash }

end PdDisaggregation
