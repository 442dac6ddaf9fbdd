import PdDisaggregation.Pattern

/-! The two clients of a chat completion stream: the one that compares prefill
with the storage path, and the one that measures inside the pod. A line is text
already decoded, times are the index of the line being read. -/

namespace PdDisaggregation

structure Delta where
  content : Option Text := none

structure Choice where
  delta : Option Delta := none
  finishReason : Option Text := none

/-- An event of the stream, `V` being the values of a usage object. A field that
is missing and one that is null read the same. -/
structure Chunk (V : Type) where
  id : Option Text := none
  usage : Option (List (Text × V)) := none
  choices : Option (List Choice) := none

/-- `value or default` where empty is false. -/
def orElse {α : Type} (value default : Option (List α)) : Option (List α) :=
  match value with
  | none | some [] => default
  | some v => some v

/-- `rstrip("\r\n")`. -/
def rstripNewlines (t : Text) : Text := t.rdropWhile fun c => c == '\r' || c == '\n'

def dataField : Text := "data:".toList
def doneMark : Text := "[DONE]".toList

structure StreamState (V : Type) where
  firstEvent : Option Nat := none
  ttft : Option Nat := none
  contentParts : List Text := []
  usage : List (Text × V) := []
  responseId : Option Text := none
  finishReason : Option Text := none

variable {V : Type}

/-- What `request_once` does with an event. -/
def requestEvent (now : Nat) (event : Chunk V) (s : StreamState V) : StreamState V :=
  let s := { s with responseId := orElse event.id s.responseId }
  let s := { s with usage := (orElse event.usage (some s.usage)).getD [] }
  match event.choices.getD [] with
  | [] => s
  | choice :: _ =>
    let delta := choice.delta.getD {}
    let s := match orElse delta.content none with
      | none => s
      | some text =>
        let s := if s.ttft = none then { s with ttft := some now } else s
        { s with contentParts := s.contentParts ++ [text] }
    { s with finishReason := orElse choice.finishReason s.finishReason }

/-- The streaming loop of `request_once`, which also keeps the lines it read.
Nothing is returned where a payload does not parse. -/
def requestLoop (loads : Text → Option (Chunk V)) :
    Nat → List Text → List Text → StreamState V → Option (List Text × StreamState V)
  | _, [], rawLines, s => some (rawLines, s)
  | now, rawLine :: rest, rawLines, s =>
    let line := rstripNewlines rawLine
    let rawLines := rawLines ++ [line]
    if !dataField.isPrefixOf line then requestLoop loads (now + 1) rest rawLines s
    else
      let data := Pattern.strip (line.drop 5)
      if data = doneMark then some (rawLines, s)
      else
        let s := if s.firstEvent = none then { s with firstEvent := some now } else s
        if data = [] then requestLoop loads (now + 1) rest rawLines s
        else
          match loads data with
          | none => none
          | some event => requestLoop loads (now + 1) rest rawLines (requestEvent now event s)

/-- What the client in the pod does with an event. -/
def inpodEvent (now : Nat) (event : Chunk V) (s : StreamState V) : StreamState V :=
  let s := { s with responseId := orElse event.id s.responseId }
  let s := { s with usage := (orElse event.usage (some s.usage)).getD [] }
  match event.choices.getD [] with
  | [] => s
  | choice :: _ =>
    let s := match orElse (choice.delta.getD {}).content none with
      | none => s
      | some text =>
        let s := if s.ttft = none then { s with ttft := some now } else s
        { s with contentParts := s.contentParts ++ [text] }
    { s with finishReason := orElse choice.finishReason s.finishReason }

/-- The loop of the client in the pod, which passes over an empty payload before
it looks at the clock. -/
def inpodLoop (loads : Text → Option (Chunk V)) :
    Nat → List Text → StreamState V → Option (StreamState V)
  | _, [], s => some s
  | now, rawLine :: rest, s =>
    let line := rstripNewlines rawLine
    if !dataField.isPrefixOf line then inpodLoop loads (now + 1) rest s
    else
      let data := Pattern.strip (line.drop 5)
      if data = doneMark then some s
      else if data = [] then inpodLoop loads (now + 1) rest s
      else
        let s := if s.firstEvent = none then { s with firstEvent := some now } else s
        match loads data with
        | none => none
        | some event => inpodLoop loads (now + 1) rest (inpodEvent now event s)

/-- What both clients report of the stream. -/
structure StreamResult (V : Type) where
  firstEvent : Option Nat
  ttft : Option Nat
  answer : Text
  answerCorrect : Bool
  finishReason : Option Text
  usage : List (Text × V)
  responseId : Option Text

def StreamState.result (expectedAnswer : Text) (s : StreamState V) : StreamResult V :=
  let answer := Pattern.strip s.contentParts.flatten
  { firstEvent := s.firstEvent
    ttft := s.ttft
    answer := answer
    answerCorrect := decide (answer = expectedAnswer)
    finishReason := s.finishReason
    usage := s.usage
    responseId := s.responseId }

/-- The report of `request_once`, and the lines it logs. -/
def requestOnce (loads : Text → Option (Chunk V)) (expectedAnswer : Text) (lines : List Text) :
    Option (List Text × StreamResult V) :=
  (requestLoop loads 0 lines [] {}).map fun r => (r.1, r.2.result expectedAnswer)

def inpodStream (loads : Text → Option (Chunk V)) (expectedAnswer : Text) (lines : List Text) :
    Option (StreamResult V) :=
  (inpodLoop loads 0 lines {}).map (·.result expectedAnswer)

end PdDisaggregation
