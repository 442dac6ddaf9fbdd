import PdDisaggregation.Text

/-! Python's `csv.reader` with the default dialect, character by character. -/

namespace Csv

inductive State where
  | startRecord
  | startField
  | inField
  | inQuotedField
  | quoteInQuotedField
  | eatCrnl
  deriving DecidableEq

inductive Error where
  | fieldLimit
  | newlineInField
  deriving DecidableEq

def Error.message : Error → String
  | .fieldLimit => "field larger than field limit (131072)"
  | .newlineInField => "new-line character seen in unquoted field - " ++
      "do you need to open the file with newline=''?"

structure Reader where
  state : State
  field : Text
  fields : List Text

def Reader.start : Reader := ⟨.startRecord, [], []⟩

def Reader.addChar (r : Reader) (c : Char) (state : State) : Except Error Reader :=
  if r.field.length < 131072 then .ok { r with field := r.field ++ [c], state := state }
  else .error .fieldLimit

def Reader.saveField (r : Reader) (state : State) : Reader := ⟨state, [], r.fields ++ [r.field]⟩

def isNewline (c : Char) : Bool := c == '\n' || c == '\r'

def startField (r : Reader) (c : Char) : Except Error Reader :=
  if isNewline c then .ok (r.saveField .eatCrnl)
  else if c = '"' then .ok { r with state := .inQuotedField }
  else if c = ',' then .ok (r.saveField .startField)
  else r.addChar c .inField

def processChar (r : Reader) (c : Char) : Except Error Reader :=
  match r.state with
  | .startRecord => if isNewline c then .ok { r with state := .eatCrnl } else startField r c
  | .startField => startField r c
  | .inField =>
    if isNewline c then .ok (r.saveField .eatCrnl)
    else if c = ',' then .ok (r.saveField .startField)
    else r.addChar c .inField
  | .inQuotedField =>
    if c = '"' then .ok { r with state := .quoteInQuotedField } else r.addChar c .inQuotedField
  | .quoteInQuotedField =>
    if c = '"' then r.addChar c .inQuotedField
    else if c = ',' then .ok (r.saveField .startField)
    else if isNewline c then .ok (r.saveField .eatCrnl)
    else r.addChar c .inField
  | .eatCrnl => if isNewline c then .ok r else .error .newlineInField

/-- After the last character of a line; a quoted field goes on in the next one. -/
def endLine (r : Reader) : Reader :=
  match r.state with
  | .startRecord => r
  | .startField | .inField | .quoteInQuotedField => r.saveField .startRecord
  | .inQuotedField => r
  | .eatCrnl => { r with state := .startRecord }

def readLine (r : Reader) (line : Text) : Except Error Reader :=
  (line.foldlM processChar r).map endLine

/-- The records in order, and the error in front of the next. At the end of the file an
open quoted field is taken as it is. -/
def records (r : Reader) : List Text → List (List Text) × Option Error
  | [] =>
    if r.field.isEmpty && r.state != .inQuotedField then ([], none)
    else ([r.fields ++ [r.field]], none)
  | line :: lines =>
    match readLine r line with
    | .error e => ([], some e)
    | .ok r' =>
      if r'.state = .startRecord then
        (r'.fields :: (records .start lines).1, (records .start lines).2)
      else records r' lines

/-- The lines of a file opened with `newline=""`, with their ends; `line` is the part
of the first one read so far. -/
def fileLines (line : Text) : Text → List Text
  | [] => if line.isEmpty then [] else [line]
  | '\r' :: '\n' :: t => (line ++ ['\r', '\n']) :: fileLines [] t
  | c :: t => if isNewline c then (line ++ [c]) :: fileLines [] t else fileLines (line ++ [c]) t

def read (t : Text) : List (List Text) × Option Error := records .start (fileLines [] t)

end Csv
