import Mathlib.Data.List.Forall2
import PdDisaggregation.NexusMarkers
import PdDisaggregation.NexusReading

/-! `nexus_read.py` from the prompt of the logged-in session on: for each command a section of
the report, made from what had arrived when a prompt was recognised. -/

namespace PdDisaggregation

open Expect

/-- A command and what the device sends while its prompt is waited for. -/
structure Query where
  command : Text
  arrived : Text

inductive ReadSection where
  | output (before : Text)
  | commandFailed (unread : Text)
  deriving DecidableEq

def defaultCommands : List Text :=
  ["terminal length 0", "show hostname", "show version", "show module", "show interface status",
    "show interface brief", "show interface counters errors", "show lldp neighbors detail",
    "show mac address-table", "show vlan brief", "show ip interface brief",
    "show running-config interface", "show running-config | section qos", "show system qos",
    "show policy-map system type network-qos", "show policy-map system type qos",
    "show policy-map system type queuing", "show queuing interface",
    "show hardware qos buffer status"].map String.toList

/-- Pagination is disabled first. -/
def sentCommands (args : List Text) : List Text :=
  let commands := if args.isEmpty then defaultCommands else args
  if commands.head? = some "terminal length 0".toList then commands
  else "terminal length 0".toList :: commands

/-- The output without the echo of the command, its lines joined again. -/
def tidied (command before : Text) : Text :=
  let lines := Text.splitlines (Text.delete '\r' before)
  let lines := if lines.head?.map Pattern.strip = some command then lines.tail else lines
  Pattern.strip (['\n'].intercalate lines)

def heading (command : Text) : Text := "=== ".toList ++ command ++ " ===\n".toList

/-- `[-4000:]` -/
def lastPart (t : Text) : Text := t.drop (t.length - 4000)

def ReadSection.printed (command : Text) : ReadSection → Text
  | .output before => heading command ++ tidied command before ++ "\n".toList
  | .commandFailed unread =>
    heading command ++ "COMMAND_FAILED\n".toList ++ lastPart (Text.delete '\r' unread) ++ "\n".toList

/-- A timeout leaves what was read in the buffer. -/
def readSections (cut : Nat → Bool) : Child → List Query → List ReadSection
  | _, [] => []
  | child, query :: queries =>
    let asked := child.sends query.arrived
    match expect cut prompt asked with
    | some m => .output m.1 :: readSections cut m.2 queries
    | none =>
      .commandFailed asked.unread ::
        readSections cut ⟨asked.unread, [], asked.received + asked.pending.length⟩ queries

/-- What pexpect is left with. -/
def childAfter (cut : Nat → Bool) : Child → List Query → Child
  | child, [] => child
  | child, query :: queries =>
    let asked := child.sends query.arrived
    match expect cut prompt asked with
    | some m => childAfter cut m.2 queries
    | none => childAfter cut ⟨asked.unread, [], asked.received + asked.pending.length⟩ queries

def queries (args : List Text) (device : Nat → Text) : List Query :=
  (sentCommands args).zipIdx.map fun c => ⟨c.1, device c.2⟩

def nexusRead (cut : Nat → Bool) (args : List Text) (device : Nat → Text) : List Text :=
  List.zipWith (fun query => ReadSection.printed query.command) (queries args device)
    (readSections cut ⟨[], [], 0⟩ (queries args device))

/-- The outputs of the sections are this text piece by piece, with a prompt behind each and up
to a rest. A failed one shows the start of what is still ahead, and takes nothing away. -/
inductive Tiles : List ReadSection → Text → Text → Prop
  | done (t : Text) : Tiles [] t t
  | output {before sp t rest : Text} {sections : List ReadSection} (hsp : AllSpaces sp)
      (h : Tiles sections t rest) :
      Tiles (.output before :: sections) (before ++ '#' :: (sp ++ t)) rest
  | failed {unread t rest : Text} {sections : List ReadSection} (hahead : unread <+: t)
      (h : Tiles sections t rest) : Tiles (.commandFailed unread :: sections) t rest

section Sections

variable {cut : Nat → Bool} {child : Child} {sp t command : Text}

/-- Whatever comes when, the outputs are what the device sent, up to what pexpect still has. -/
theorem readSections_tile (cut : Nat → Bool) (child : Child) (qs : List Query) :
    Tiles (readSections cut child qs) (child.unread ++ (qs.map Query.arrived).flatten)
      (childAfter cut child qs).unread := by
  induction qs generalizing child with
  | nil => simpa [readSections, childAfter] using Tiles.done child.unread
  | cons query qs ih =>
    have hsent : child.unread ++ ((query :: qs).map Query.arrived).flatten =
        (child.sends query.arrived).unread ++ (qs.map Query.arrived).flatten := by
      rw [unread_sends]
      simp
    rw [hsent, readSections, childAfter]
    cases hm : expect cut prompt (child.sends query.arrived) with
    | some m =>
      have hfound : expect cut prompt (child.sends query.arrived) = some (m.1, m.2) := hm
      obtain ⟨_, sp, hsp, hunread⟩ := expect_prompt_some hfound
      rw [hunread]
      have hsections := ih m.2
      simpa using @Tiles.output m.1 _ _ _ _ hsp hsections
    | none =>
      refine Tiles.failed (List.prefix_append _ _) ?_
      simpa [Child.unread] using ih ⟨(child.sends query.arrived).unread, [], _⟩

theorem dropWhile_spaces (hsp : AllSpaces sp) :
    (sp ++ t).dropWhile Pattern.isSpace = t.dropWhile Pattern.isSpace := by
  induction sp with
  | nil => rfl
  | cons c sp ih =>
    have hc : c = ' ' := hsp c List.mem_cons_self
    rw [List.cons_append, List.dropWhile_cons_of_pos (by rw [hc]; decide)]
    exact ih fun d hd => hsp d (List.mem_cons_of_mem _ hd)

theorem strip_spaces (hsp : AllSpaces sp) : Pattern.strip (sp ++ t) = Pattern.strip t := by
  rw [Pattern.strip, dropWhile_spaces hsp]
  rfl

theorem splitOnP_spaces (hsp : AllSpaces sp) {piece : Text} {pieces : List Text}
    (h : t.splitOnP Text.isLineBreak = piece :: pieces) :
    (sp ++ t).splitOnP Text.isLineBreak = (sp ++ piece) :: pieces := by
  induction sp with
  | nil => exact h
  | cons c sp ih =>
    have hc : c = ' ' := hsp c List.mem_cons_self
    have hbreak : ¬ Text.isLineBreak c = true := by
      rw [hc]
      decide
    rw [List.cons_append, List.splitOnP_cons_eq_if_modifyHead, if_neg hbreak,
      ih fun d hd => hsp d (List.mem_cons_of_mem _ hd)]
    rfl

/-- Spaces in front lengthen the first line, if there is one. -/
theorem splitlines_spaces (hsp : AllSpaces sp) (t : Text) :
    (∃ line lines, Text.splitlines t = line :: lines ∧
      Text.splitlines (sp ++ t) = (sp ++ line) :: lines) ∨
    Text.splitlines t = [] ∧
      (Text.splitlines (sp ++ t) = [] ∨ Text.splitlines (sp ++ t) = [sp]) := by
  have hlines (u : Text) : Text.splitlines u =
      if (u.splitOnP Text.isLineBreak).getLast? = some [] then (u.splitOnP Text.isLineBreak).dropLast
      else u.splitOnP Text.isLineBreak := rfl
  obtain ⟨piece, pieces, hpieces⟩ :=
    List.exists_cons_of_ne_nil (List.splitOnP_ne_nil Text.isLineBreak t)
  rw [hlines, hlines, splitOnP_spaces hsp hpieces, hpieces]
  cases pieces with
  | nil =>
    by_cases hpiece : piece = []
    · subst hpiece
      refine Or.inr ⟨rfl, ?_⟩
      by_cases hempty : sp = []
      · exact Or.inl (by simp [hempty])
      · exact Or.inr (by simp [hempty])
    · exact Or.inl ⟨piece, [], by simp [hpiece], by simp [hpiece]⟩
  | cons next pieces =>
    left
    by_cases hlast : (next :: pieces).getLast? = some []
    · exact ⟨piece, (next :: pieces).dropLast, by simp [hlast], by simp [hlast]⟩
    · exact ⟨piece, next :: pieces, by simp [hlast], by simp [hlast]⟩

theorem intercalate_spaces (line : Text) (lines : List Text) :
    ['\n'].intercalate ((sp ++ line) :: lines) = sp ++ ['\n'].intercalate (line :: lines) := by
  cases lines with
  | nil => simp [List.intercalate]
  | cons next lines => simp [List.intercalate, List.intersperse]

/-- The spaces behind the previous prompt leave no trace. -/
theorem tidied_spaces (hsp : AllSpaces sp) : tidied command (sp ++ t) = tidied command t := by
  rw [tidied, tidied, delete_append, delete_spaces hsp]
  rcases splitlines_spaces hsp (Text.delete '\r' t) with ⟨line, lines, ht, hst⟩ | ⟨ht, hst⟩
  · rw [ht, hst]
    by_cases he : Pattern.strip line = command
    · simp [he, strip_spaces hsp]
    · have hother : ¬ (((sp ++ line) :: lines).head?.map Pattern.strip = some command) := by
        simpa [strip_spaces hsp] using he
      have hother' : ¬ ((line :: lines).head?.map Pattern.strip = some command) := by simpa using he
      simp only [hother, hother', if_false]
      rw [intercalate_spaces, strip_spaces hsp]
  · have hblank : Pattern.strip sp = [] := by
      have hh := strip_spaces (t := []) hsp
      rwa [List.append_nil] at hh
    rw [ht]
    rcases hst with hst | hst
    · rw [hst]
    · have hjoined : ['\n'].intercalate [sp] = sp := by simp [List.intercalate]
      rw [hst]
      by_cases he : command = []
      · simp [he, hblank]
      · have hother : ¬ ([sp].head?.map Pattern.strip = some command) := by
          simpa [hblank] using Ne.symm he
        simp only [hother, if_false, hjoined, hblank]
        rfl

/-! A response that comes in time and holds no `#` is the section of its command, however it
is cut into chunks. -/

theorem expect_timely (cut : Nat → Bool) {r : Response} (hsp : AllSpaces child.unread)
    (hr : '#' ∉ r.text) :
    ∃ child', expect cut prompt (child.sends r.stream) = some (child.unread ++ r.text, child') ∧
      AllSpaces child'.unread := by
  have hsent : (child.sends r.stream).unread =
      (child.unread ++ r.text) ++ '#' :: List.replicate r.pad ' ' := by
    rw [unread_sends, Response.stream, List.append_assoc]
  cases hm : expect cut prompt (child.sends r.stream) with
  | none =>
    have hnone := expect_none hm
    rw [hsent, prompt_hash (allSpaces_replicate _)] at hnone
    contradiction
  | some m =>
    have hfound : expect cut prompt (child.sends r.stream) = some (m.1, m.2) := hm
    obtain ⟨_, sp, _, hunread⟩ := expect_prompt_some hfound
    have hbefore : '#' ∉ child.unread ++ r.text := by
      rw [List.mem_append, not_or]
      exact ⟨fun hh => absurd (hsp _ hh) (by decide), hr⟩
    have hpad : '#' ∉ List.replicate r.pad ' ' :=
      fun hh => absurd (List.eq_of_mem_replicate hh) (by decide)
    obtain ⟨hb, _, hrest⟩ :=
      (List.append_cons_inj_of_notMem hbefore hpad).mp (hsent.symm.trans hunread)
    refine ⟨m.2, by rw [hb], fun c hc => ?_⟩
    have hmem : c ∈ List.replicate r.pad ' ' := by
      rw [hrest]
      exact List.mem_append_right _ hc
    exact List.eq_of_mem_replicate hmem

def Exchange.query (x : Exchange) : Query := ⟨x.command, x.response.stream⟩

theorem printed_spaces (hsp : AllSpaces sp) :
    ReadSection.printed command (.output (sp ++ t)) = ReadSection.printed command (.output t) := by
  rw [ReadSection.printed, ReadSection.printed, tidied_spaces hsp]

/-- The sections of the responses in time, whatever the commands after them meet with. -/
theorem readSections_timely (cut : Nat → Bool) (hsp : AllSpaces child.unread) (xs : List Exchange)
    (hxs : ∀ x ∈ xs, '#' ∉ x.response.text) (later : List Query) :
    ∃ child' sections, readSections cut child (xs.map Exchange.query ++ later) =
        sections ++ readSections cut child' later ∧
      List.Forall₂ (fun x s => ReadSection.printed x.command s =
        ReadSection.printed x.command (.output x.response.text)) xs sections := by
  induction xs generalizing child with
  | nil => exact ⟨child, [], rfl, List.Forall₂.nil⟩
  | cons x xs ih =>
    obtain ⟨next, hexpect, hnext⟩ :=
      expect_timely cut hsp (hxs x List.mem_cons_self)
    obtain ⟨child', sections, hrest, hprinted⟩ :=
      ih hnext fun x' hx' => hxs x' (List.mem_cons_of_mem _ hx')
    refine ⟨child', .output (child.unread ++ x.response.text) :: sections, ?_, ?_⟩
    · rw [List.map_cons, List.cons_append, readSections]
      simp only [Exchange.query, hexpect]
      rw [List.cons_append, ← hrest]
    · exact List.Forall₂.cons (printed_spaces hsp) hprinted

theorem zipWith_printed {xs : List Exchange} {sections : List ReadSection}
    (h : List.Forall₂ (fun x s => ReadSection.printed x.command s =
      ReadSection.printed x.command (.output x.response.text)) xs sections)
    (more : List ReadSection) :
    List.zipWith (fun query => ReadSection.printed query.command) (xs.map Exchange.query)
        (sections ++ more) =
      xs.map fun x => ReadSection.printed x.command (.output x.response.text) := by
  induction h with
  | nil => rfl
  | cons hx _ ih =>
    rw [List.map_cons, List.cons_append, List.zipWith_cons_cons, ih, List.map_cons]
    exact congrArg (· :: _) hx

theorem nexusRead_timely (cut : Nat → Bool) (args : List Text) (device : Nat → Text)
    (responses : Nat → Response) (n : Nat)
    (h : ∀ i < n, device i = (responses i).stream ∧ '#' ∉ (responses i).text) :
    (nexusRead cut args device).take n = ((sentCommands args).zipIdx.map fun c =>
      ReadSection.printed c.1 (.output (responses c.2).text)).take n := by
  have hindex : ∀ c ∈ (sentCommands args).zipIdx.take n, c.2 < n := by
    intro c hc
    obtain ⟨i, hi, rfl⟩ := List.mem_iff_getElem.mp hc
    rw [List.length_take, List.length_zipIdx] at hi
    rw [List.getElem_take, List.getElem_zipIdx]
    simp only
    omega
  let xs : List Exchange := ((sentCommands args).zipIdx.take n).map fun c => ⟨c.1, responses c.2⟩
  have hxs : ∀ x ∈ xs, '#' ∉ x.response.text := by
    intro x hx
    obtain ⟨c, hc, rfl⟩ := List.mem_map.mp hx
    exact (h c.2 (hindex c hc)).2
  have hfirst : (queries args device).take n = xs.map Exchange.query := by
    rw [queries, ← List.map_take, List.map_map]
    refine List.map_congr_left fun c hc => ?_
    rw [(h c.2 (hindex c hc)).1]
    rfl
  have hspaces : AllSpaces (Child.unread ⟨[], [], 0⟩) := fun _ hc => absurd hc List.not_mem_nil
  obtain ⟨child', sections, hsections, hprinted⟩ :=
    readSections_timely cut hspaces xs hxs ((queries args device).drop n)
  rw [← hfirst, List.take_append_drop] at hsections
  have hlength : sections.length ≤ n := by
    rw [← hprinted.length_eq, List.length_map, List.length_take]
    exact Nat.min_le_left _ _
  rw [nexusRead, hsections, List.take_zipWith, hfirst, List.take_append,
    List.take_of_length_le hlength, zipWith_printed hprinted]
  rw [List.map_map, List.map_take]
  rfl

/-- The outputs that the report is made from are what the device sent, in its order and up to
what pexpect still has. A failed command shows what the next section shows as well. As long as
the responses come in time and hold no `#`, each is printed under its own command. -/
theorem nexusRead_report (cut : Nat → Bool) (args : List Text) (device : Nat → Text) :
    Tiles (readSections cut ⟨[], [], 0⟩ (queries args device))
        ((queries args device).map Query.arrived).flatten
        (childAfter cut ⟨[], [], 0⟩ (queries args device)).unread ∧
    ∀ (responses : Nat → Response) (n : Nat),
      (∀ i < n, device i = (responses i).stream ∧ '#' ∉ (responses i).text) →
        (nexusRead cut args device).take n = ((sentCommands args).zipIdx.map fun c =>
          ReadSection.printed c.1 (.output (responses c.2).text)).take n :=
  ⟨readSections_tile cut ⟨[], [], 0⟩ _, nexusRead_timely cut args device⟩

def clockResponses (i : Nat) : Response :=
  if i = 0 then ⟨"terminal length 0\r\n\r\nleaf1".toList, 1⟩
  else ⟨"show clock\r\n09:50:37 UTC\r\nleaf1".toList, 0⟩

theorem nexusRead_report_clock :
    (nexusRead (fun n => n % 5 == 0) ["show clock".toList] fun i => (clockResponses i).stream).take 2 =
      ["=== terminal length 0 ===\nleaf1\n".toList,
        "=== show clock ===\n09:50:37 UTC\nleaf1\n".toList] := by
  have hclock : ∀ i < 2, (clockResponses i).stream = (clockResponses i).stream ∧
      '#' ∉ (clockResponses i).text := by
    intro i _
    refine ⟨rfl, ?_⟩
    unfold clockResponses
    by_cases hi : i = 0
    · rw [if_pos hi]
      decide
    · rw [if_neg hi]
      decide
  have h := (nexusRead_report (fun n => n % 5 == 0) ["show clock".toList] fun i =>
    (clockResponses i).stream).2 clockResponses 2 hclock
  rw [h]
  decide +kernel

/-- What comes too late is taken for the response to the next command. -/
example : (nexusRead (fun _ => true) ["show clock".toList, "show boot".toList] fun i =>
      if i = 0 then "terminal length 0\r\nleaf1#".toList
      else if i = 1 then "show clock\r\n".toList
      else "09:50:37 UTC\r\nleaf1#show boot\r\nnxos.bin\r\nleaf1#".toList) =
    ["=== terminal length 0 ===\nleaf1\n".toList,
      "=== show clock ===\nCOMMAND_FAILED\nshow clock\n\n".toList,
      "=== show boot ===\nshow clock\n09:50:37 UTC\nleaf1\n".toList] := by
  decide +kernel

end Sections

end PdDisaggregation
