import PdDisaggregation.Expect
import PdDisaggregation.Pattern

/-! `nexus_apply.py` from the prompt of the logged-in session on: the commands
of the file, one after the other, and what the device answers to each. -/

namespace PdDisaggregation

open Expect

/-- Echo and response to a command, with the spaces behind the `#` of the
prompt that ends it. -/
structure Response where
  text : Text
  pad : Nat

def Response.stream (r : Response) : Text := r.text ++ '#' :: List.replicate r.pad ' '

structure Exchange where
  command : Text
  response : Response

inductive Verdict where
  | ok
  | promptTimeout
  | refused (output : Text)
  deriving DecidableEq

def Verdict.isOk : Verdict → Bool
  | .ok => true
  | _ => false

def Verdict.line (command : Text) : Verdict → Text
  | .ok => "OK ".toList ++ command
  | .promptTimeout => "FAILED ".toList ++ command ++ ": prompt timeout".toList
  | .refused output => "FAILED ".toList ++ command ++ ":\n".toList ++ output

structure ApplyReport where
  sent : List Text
  printed : List Text
  status : Nat
  deriving DecidableEq

/-- The commands of a file: its lines without blanks at the ends, but for the
empty ones and the comments. -/
def readCommands (file : Text) : List Text :=
  ((Text.splitlines file).filter fun line =>
    !(Pattern.strip line).isEmpty && (line.dropWhile Pattern.isSpace).head? != some '!').map
    Pattern.strip

def isCopyCommand (command : Text) : Bool :=
  command.map Char.toLower == "copy running-config startup-config".toList

def copyComplete : Text := "Copy complete.".toList

def promptAtEnd (text rest : Text) : Option (Text × Text) :=
  let line := text.rdropWhile (· == ' ')
  if line.getLast? = some '#' then some (line.dropLast, rest) else none

/-- `# *$`: the `$` also matches in front of a newline that ends the text. -/
def prompt : Search := fun buffer =>
  if buffer.getLast? = some '\n' then promptAtEnd buffer.dropLast ['\n'] else promptAtEnd buffer []

def carriesError (before : Text) : Bool :=
  let output := Text.delete '\r' before
  Text.contains "% Invalid".toList output || Text.contains "% Incomplete".toList output ||
    Text.contains "ERROR".toList output

/-- `child.before` once the prompt has come. The copy command draws a progress
bar of `#` characters before its final sentence. -/
def expectAnswer (cut : Nat → Bool) (command : Text) (child : Child) : Option (Text × Child) :=
  if isCopyCommand command then
    match expect cut (splitFirst copyComplete) child with
    | some m => expect cut prompt m.2
    | none => none
  else expect cut prompt child

def applyCommands (cut : Nat → Bool) : Child → List Exchange → List (Text × Verdict)
  | _, [] => []
  | child, x :: xs =>
    match expectAnswer cut x.command (child.sends x.response.stream) with
    | none => [(x.command, .promptTimeout)]
    | some m =>
      if carriesError m.1 then [(x.command, .refused (Text.delete '\r' m.1))]
      else (x.command, .ok) :: applyCommands cut m.2 xs

def applyReport (verdicts : List (Text × Verdict)) : ApplyReport :=
  let failed := verdicts.any fun v => !v.2.isOk
  { sent := verdicts.map Prod.fst ++ (if failed then ["end".toList] else []) ++ ["exit".toList]
    printed := verdicts.map fun v => v.2.line v.1
    status := if failed then 1 else 0 }

def exchanges (file : Text) (device : Nat → Response) : List Exchange :=
  (readCommands file).zipIdx.map fun c => ⟨c.1, device c.2⟩

def configures (file : Text) : Bool :=
  (readCommands file).head? == some "configure terminal".toList

def verdicts (cut : Nat → Bool) (file : Text) (device : Nat → Response) : List (Text × Verdict) :=
  applyCommands cut ⟨[], [], 0⟩ (exchanges file device)

def nexusApply (cut : Nat → Bool) (file : Text) (device : Nat → Response) : ApplyReport :=
  if configures file then applyReport (verdicts cut file device)
  else { sent := [], printed := ["REFUSING_FILE_WITHOUT_CONFIGURE_TERMINAL".toList], status := 2 }

def AllSpaces (t : Text) : Prop := ∀ c ∈ t, c = ' '

section Prompt

variable {b a u rest : Text}

theorem promptAtEnd_some (h : promptAtEnd u rest = some (b, a)) :
    ∃ sp, AllSpaces sp ∧ u = b ++ '#' :: sp ∧ a = rest := by
  unfold promptAtEnd at h
  by_cases hlast : (u.rdropWhile (· == ' ')).getLast? = some '#'
  · rw [if_pos hlast, Option.some.injEq, Prod.mk.injEq] at h
    obtain ⟨rfl, rfl⟩ := h
    refine ⟨u.rtakeWhile (· == ' '), fun c hc => ?_, ?_, rfl⟩
    · simpa using List.mem_rtakeWhile_imp hc
    · have hsplit := List.rdropWhile_append_rtakeWhile (p := (· == ' ')) (l := u)
      rw [← List.dropLast_append_getLast? '#' hlast, List.append_assoc] at hsplit
      exact hsplit.symm
  · rw [if_neg hlast] at h
    contradiction

theorem prompt_some (h : prompt u = some (b, a)) :
    ∃ sp, AllSpaces sp ∧ u = b ++ '#' :: (sp ++ a) := by
  unfold prompt at h
  by_cases hn : u.getLast? = some '\n'
  · rw [if_pos hn] at h
    obtain ⟨sp, hsp, hu, rfl⟩ := promptAtEnd_some h
    refine ⟨sp, hsp, ?_⟩
    have hnewline := List.dropLast_append_getLast? '\n' hn
    rw [hu, List.append_assoc] at hnewline
    exact hnewline.symm
  · rw [if_neg hn] at h
    obtain ⟨sp, hsp, hu, rfl⟩ := promptAtEnd_some h
    exact ⟨sp, hsp, by rwa [List.append_nil]⟩

theorem prompt_hash {sp : Text} (h : AllSpaces sp) : prompt (b ++ '#' :: sp) = some (b, []) := by
  have hreplicate : sp = List.replicate sp.length ' ' := List.eq_replicate_of_mem h
  have hsplit : b ++ '#' :: sp = (b ++ ['#']) ++ sp := by simp
  have hbody : ((b ++ ['#']) ++ sp).rdropWhile (· == ' ') = b ++ ['#'] := by
    rw [hreplicate]
    induction sp.length with
    | zero =>
      rw [List.replicate_zero, List.append_nil]
      exact List.rdropWhile_concat_neg _ _ _ (by decide)
    | succ n ih =>
      rw [List.replicate_succ', ← List.append_assoc, List.rdropWhile_concat_pos _ _ _ (by decide)]
      exact ih
  have hlast : ((b ++ ['#']) ++ sp).getLast? ≠ some '\n' := by
    intro hl
    cases hsp : sp.getLast? with
    | none =>
      rw [List.getLast?_append, hsp, List.getLast?_concat] at hl
      contradiction
    | some c =>
      rw [List.getLast?_append, hsp, h c (List.mem_of_getLast? hsp), Option.some_or] at hl
      exact absurd hl (by decide)
  rw [hsplit, prompt, if_neg hlast, promptAtEnd, hbody, if_pos List.getLast?_concat,
    List.dropLast_concat]

theorem prompt_nil : prompt [] = none := rfl

end Prompt

end PdDisaggregation
