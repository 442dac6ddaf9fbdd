import PdDisaggregation.StreamClients

/-! The two loops do the same with every line but one: a data line with nothing
in it starts the clock of `request_once` only. -/

namespace PdDisaggregation

variable {V : Type} {loads : Text → Option (Chunk V)}

/-- What a line carries, if it is a data line. -/
def payload (rawLine : Text) : Option Text :=
  let line := rstripNewlines rawLine
  if dataField.isPrefixOf line then some (Pattern.strip (line.drop 5)) else none

def seen (now : Nat) (s : StreamState V) : StreamState V :=
  if s.firstEvent = none then { s with firstEvent := some now } else s

section

variable {now : Nat} {rawLine data : Text} {rest rawLines : List Text} {s : StreamState V}

theorem isPrefixOf_of_payload (h : payload rawLine = some data) :
    dataField.isPrefixOf (rstripNewlines rawLine) = true ∧
      Pattern.strip ((rstripNewlines rawLine).drop 5) = data := by
  unfold payload at h
  by_cases hp : dataField.isPrefixOf (rstripNewlines rawLine) = true
  · simp only [hp, if_true] at h
    exact ⟨hp, Option.some.inj h⟩
  · simp only [hp] at h
    contradiction

theorem isPrefixOf_of_payload_none (h : payload rawLine = none) :
    dataField.isPrefixOf (rstripNewlines rawLine) = false := by
  unfold payload at h
  cases hp : dataField.isPrefixOf (rstripNewlines rawLine) with
  | true => simp [hp] at h
  | false => rfl

theorem requestLoop_other (h : payload rawLine = none) :
    requestLoop loads now (rawLine :: rest) rawLines s =
      requestLoop loads (now + 1) rest (rawLines ++ [rstripNewlines rawLine]) s := by
  simp [requestLoop, isPrefixOf_of_payload_none h]

theorem requestLoop_done (h : payload rawLine = some doneMark) :
    requestLoop loads now (rawLine :: rest) rawLines s =
      some (rawLines ++ [rstripNewlines rawLine], s) := by
  obtain ⟨hp, hd⟩ := isPrefixOf_of_payload h
  simp [requestLoop, hp, hd]

theorem requestLoop_empty (h : payload rawLine = some []) :
    requestLoop loads now (rawLine :: rest) rawLines s =
      requestLoop loads (now + 1) rest (rawLines ++ [rstripNewlines rawLine]) (seen now s) := by
  obtain ⟨hp, hd⟩ := isPrefixOf_of_payload h
  have hne : ([] : Text) ≠ doneMark := by decide
  simp [requestLoop, hp, hd, hne, seen]

theorem requestLoop_event (h : payload rawLine = some data) (hne : data ≠ [])
    (hdone : data ≠ doneMark) :
    requestLoop loads now (rawLine :: rest) rawLines s = (loads data).bind fun event =>
      requestLoop loads (now + 1) rest (rawLines ++ [rstripNewlines rawLine])
        (requestEvent now event (seen now s)) := by
  obtain ⟨hp, hd⟩ := isPrefixOf_of_payload h
  cases hl : loads data with
  | none => simp [requestLoop, hp, hd, hne, hdone, hl]
  | some event => simp [requestLoop, hp, hd, hne, hdone, hl, seen]

theorem inpodLoop_other (h : payload rawLine = none) :
    inpodLoop loads now (rawLine :: rest) s = inpodLoop loads (now + 1) rest s := by
  simp [inpodLoop, isPrefixOf_of_payload_none h]

theorem inpodLoop_done (h : payload rawLine = some doneMark) :
    inpodLoop loads now (rawLine :: rest) s = some s := by
  obtain ⟨hp, hd⟩ := isPrefixOf_of_payload h
  simp [inpodLoop, hp, hd]

theorem inpodLoop_empty (h : payload rawLine = some []) :
    inpodLoop loads now (rawLine :: rest) s = inpodLoop loads (now + 1) rest s := by
  obtain ⟨hp, hd⟩ := isPrefixOf_of_payload h
  have hne : ([] : Text) ≠ doneMark := by decide
  simp [inpodLoop, hp, hd, hne]

theorem inpodLoop_event (h : payload rawLine = some data) (hne : data ≠ [])
    (hdone : data ≠ doneMark) :
    inpodLoop loads now (rawLine :: rest) s = (loads data).bind fun event =>
      inpodLoop loads (now + 1) rest (inpodEvent now event (seen now s)) := by
  obtain ⟨hp, hd⟩ := isPrefixOf_of_payload h
  cases hl : loads data with
  | none => simp [inpodLoop, hp, hd, hne, hdone, hl]
  | some event => simp [inpodLoop, hp, hd, hne, hdone, hl, seen]

end

theorem requestEvent_eq_inpodEvent (now : Nat) (event : Chunk V) (s : StreamState V) :
    requestEvent now event s = inpodEvent now event s := rfl

/-- An event touches everything but the first event, and does not look at it. -/
theorem inpodEvent_firstEvent (now : Nat) (event : Chunk V) (s : StreamState V)
    (first : Option Nat) :
    inpodEvent now event { s with firstEvent := first } =
      { inpodEvent now event s with firstEvent := first } := by
  cases hch : event.choices.getD [] with
  | nil => simp [inpodEvent, hch]
  | cons choice _ =>
    cases hc : orElse (choice.delta.getD {}).content none with
    | none => simp [inpodEvent, hch, hc]
    | some text => by_cases ht : s.ttft = none <;> simp [inpodEvent, hch, hc, ht]

theorem inpodEvent_keeps (now : Nat) (event : Chunk V) (s : StreamState V) :
    (inpodEvent now event s).firstEvent = s.firstEvent := by
  have hh : inpodEvent now event s = { inpodEvent now event s with firstEvent := s.firstEvent } :=
    inpodEvent_firstEvent now event s s.firstEvent
  rw [hh]

theorem seen_of_some {now i : Nat} {s : StreamState V} (h : s.firstEvent = some i) :
    seen now s = s := by
  simp [seen, h]

theorem seen_firstEvent (now : Nat) (s : StreamState V) :
    seen now s = { s with firstEvent := s.firstEvent.or (some now) } := by
  cases hs : s.firstEvent with
  | none => simp [seen, hs]
  | some i =>
    rw [seen_of_some hs, Option.some_or, ← hs]

theorem payload_cases (rawLine : Text) :
    payload rawLine = none ∨ payload rawLine = some doneMark ∨ payload rawLine = some [] ∨
      ∃ data, payload rawLine = some data ∧ data ≠ [] ∧ data ≠ doneMark := by
  cases hp : payload rawLine with
  | none => exact Or.inl rfl
  | some data =>
    by_cases hdone : data = doneMark
    · exact Or.inr (Or.inl (by rw [hdone]))
    · by_cases hne : data = []
      · exact Or.inr (Or.inr (Or.inl (by rw [hne])))
      · exact Or.inr (Or.inr (Or.inr ⟨data, rfl, hne, hdone⟩))

/-- The loops differ in the first event at most, wherever they start from. -/
theorem loops_agree_but_firstEvent (loads : Text → Option (Chunk V)) (lines : List Text)
    (now : Nat) (rawLines : List Text) (s : StreamState V) (f g : Option Nat) :
    (requestLoop loads now lines rawLines { s with firstEvent := f }).map
        (fun r => { r.2 with firstEvent := none }) =
      (inpodLoop loads now lines { s with firstEvent := g }).map
        (fun t => { t with firstEvent := none }) := by
  induction lines generalizing now rawLines s f g with
  | nil => rfl
  | cons rawLine rest ih =>
    rcases payload_cases rawLine with hp | hp | hp | ⟨data, hp, hne, hdone⟩
    · rw [requestLoop_other hp, inpodLoop_other hp]
      exact ih (now + 1) _ s f g
    · rw [requestLoop_done hp, inpodLoop_done hp]
      rfl
    · rw [requestLoop_empty hp, inpodLoop_empty hp, seen_firstEvent]
      exact ih (now + 1) _ s _ g
    · rw [requestLoop_event hp hne hdone, inpodLoop_event hp hne hdone]
      cases hl : loads data with
      | none => rfl
      | some event =>
        simp only [Option.bind_some, requestEvent_eq_inpodEvent, seen_firstEvent,
          inpodEvent_firstEvent]
        exact ih (now + 1) _ (inpodEvent now event s) _ _

theorem loops_agree (loads : Text → Option (Chunk V)) (lines : List Text) (now : Nat)
    (rawLines : List Text) (s : StreamState V) (i : Nat) (hs : s.firstEvent = some i) :
    (requestLoop loads now lines rawLines s).map Prod.snd = inpodLoop loads now lines s := by
  induction lines generalizing now rawLines s with
  | nil => rfl
  | cons rawLine rest ih =>
    rcases payload_cases rawLine with hp | hp | hp | ⟨data, hp, hne, hdone⟩
    · rw [requestLoop_other hp, inpodLoop_other hp]
      exact ih (now + 1) _ s hs
    · rw [requestLoop_done hp, inpodLoop_done hp]
      rfl
    · rw [requestLoop_empty hp, inpodLoop_empty hp, seen_of_some hs]
      exact ih (now + 1) _ s hs
    · rw [requestLoop_event hp hne hdone, inpodLoop_event hp hne hdone, seen_of_some hs]
      cases hl : loads data with
      | none => rfl
      | some event =>
        have hs' : (inpodEvent now event s).firstEvent = some i := by
          rw [inpodEvent_keeps, hs]
        exact ih (now + 1) _ (inpodEvent now event s) hs'

theorem inpodLoop_firstEvent {lines : List Text} {now : Nat} {s t : StreamState V}
    (h : inpodLoop loads now lines s = some t) :
    t.firstEvent = s.firstEvent ∨
      s.firstEvent = none ∧ ∃ j, now ≤ j ∧ t.firstEvent = some j := by
  induction lines generalizing now s with
  | nil =>
    cases Option.some.inj h
    exact Or.inl rfl
  | cons rawLine rest ih =>
    rcases payload_cases rawLine with hp | hp | hp | ⟨data, hp, hne, hdone⟩
    · rw [inpodLoop_other hp] at h
      rcases ih h with hh | ⟨hs, j, hj, hh⟩
      · exact Or.inl hh
      · exact Or.inr ⟨hs, j, by omega, hh⟩
    · rw [inpodLoop_done hp] at h
      cases Option.some.inj h
      exact Or.inl rfl
    · rw [inpodLoop_empty hp] at h
      rcases ih h with hh | ⟨hs, j, hj, hh⟩
      · exact Or.inl hh
      · exact Or.inr ⟨hs, j, by omega, hh⟩
    · rw [inpodLoop_event hp hne hdone] at h
      obtain ⟨event, hl, hh⟩ := Option.bind_eq_some_iff.mp h
      have hseen := ih hh
      rw [inpodEvent_keeps, seen_firstEvent] at hseen
      cases hs : s.firstEvent with
      | none =>
        rcases hseen with he | ⟨hn, -⟩
        · exact Or.inr ⟨rfl, now, le_refl _, by simpa [hs] using he⟩
        · simp [hs] at hn
      | some i =>
        rcases hseen with he | ⟨hn, -⟩
        · exact Or.inl (by simpa [hs] using he)
        · simp [hs] at hn

/-- What the clients are promised: a payload that has something in it parses. -/
def Parses (loads : Text → Option (Chunk V)) (lines : List Text) : Prop :=
  ∀ rawLine ∈ lines, ∀ data, payload rawLine = some data → data ≠ [] → data ≠ doneMark →
    (loads data).isSome

theorem inpodLoop_ends {lines : List Text} (hload : Parses loads lines) (now : Nat)
    (s : StreamState V) : ∃ t, inpodLoop loads now lines s = some t := by
  induction lines generalizing now s with
  | nil => exact ⟨s, rfl⟩
  | cons rawLine rest ih =>
    have hrest : Parses loads rest := fun r hr => hload r (List.mem_cons_of_mem _ hr)
    rcases payload_cases rawLine with hp | hp | hp | ⟨data, hp, hne, hdone⟩
    · rw [inpodLoop_other hp]
      exact ih hrest (now + 1) s
    · exact ⟨s, inpodLoop_done hp⟩
    · rw [inpodLoop_empty hp]
      exact ih hrest (now + 1) s
    · obtain ⟨event, hl⟩ :=
        Option.isSome_iff_exists.mp (hload rawLine List.mem_cons_self data hp hne hdone)
      rw [inpodLoop_event hp hne hdone, hl]
      exact ih hrest (now + 1) _

def firstPayload (lines : List Text) : Option Text := (lines.filterMap payload).head?

theorem loops_agree_of_firstPayload (loads : Text → Option (Chunk V)) {lines : List Text}
    (now : Nat) (rawLines : List Text) (s : StreamState V) (hne : firstPayload lines ≠ some []) :
    (requestLoop loads now lines rawLines s).map Prod.snd = inpodLoop loads now lines s := by
  induction lines generalizing now rawLines with
  | nil => rfl
  | cons rawLine rest ih =>
    rcases payload_cases rawLine with hp | hp | hp | ⟨data, hp, hdata, hdone⟩
    · rw [requestLoop_other hp, inpodLoop_other hp]
      exact ih (now + 1) _ (by simpa [firstPayload, hp] using hne)
    · rw [requestLoop_done hp, inpodLoop_done hp]
      rfl
    · simp [firstPayload, hp] at hne
    · rw [requestLoop_event hp hdata hdone, inpodLoop_event hp hdata hdone]
      cases hl : loads data with
      | none => rfl
      | some event =>
        have hfirst : (inpodEvent now event (seen now s)).firstEvent =
            some (s.firstEvent.getD now) := by
          rw [inpodEvent_keeps, seen_firstEvent]
          cases s.firstEvent <;> rfl
        exact loops_agree loads rest (now + 1) _ _ _ hfirst

/-- One client has its first event at the empty line, the other later or never. -/
theorem firstEvents_differ {lines : List Text} (hload : Parses loads lines) (now : Nat)
    (rawLines : List Text) (s : StreamState V) (hs : s.firstEvent = none)
    (hempty : firstPayload lines = some []) :
    (requestLoop loads now lines rawLines s).map (·.2.firstEvent) ≠
      (inpodLoop loads now lines s).map (·.firstEvent) := by
  induction lines generalizing now rawLines with
  | nil => contradiction
  | cons rawLine rest ih =>
    have hrest : Parses loads rest := fun r hr => hload r (List.mem_cons_of_mem _ hr)
    rcases payload_cases rawLine with hp | hp | hp | ⟨data, hp, hdata, hdone⟩
    · rw [requestLoop_other hp, inpodLoop_other hp]
      exact ih hrest (now + 1) _ (by simpa [firstPayload, hp] using hempty)
    · simp [firstPayload, hp, doneMark] at hempty
    · have hfirst : (seen now s).firstEvent = some now := by simp [seen, hs]
      have hagree := loops_agree loads rest (now + 1) (rawLines ++ [rstripNewlines rawLine])
        (seen now s) now hfirst
      obtain ⟨u, hu⟩ := inpodLoop_ends hrest (now + 1) (seen now s)
      obtain ⟨t, ht⟩ := inpodLoop_ends hrest (now + 1) s
      have hearly : u.firstEvent = some now := by
        rcases inpodLoop_firstEvent hu with he | ⟨hn, -⟩
        · rw [he, hfirst]
        · rw [hfirst] at hn
          contradiction
      rw [requestLoop_empty hp, inpodLoop_empty hp, ht]
      rw [hu] at hagree
      obtain ⟨r, hr, hru⟩ := Option.map_eq_some_iff.mp hagree
      rw [hr, Option.map_some, Option.map_some, hru, hearly]
      intro heq
      have hsame : some now = t.firstEvent := Option.some.inj heq
      rcases inpodLoop_firstEvent ht with he | ⟨-, j, hj, he⟩
      · rw [← hsame, hs] at he
        contradiction
      · rw [← hsame] at he
        have hjn := Option.some.inj he
        omega
    · simp [firstPayload, hp, hdata] at hempty

/-- What the two clients report of a stream. -/
def ClientsAgree (loads : Text → Option (Chunk V)) (expectedAnswer : Text)
    (lines : List Text) : Prop :=
  (requestOnce loads expectedAnswer lines).map Prod.snd = inpodStream loads expectedAnswer lines

/-- The first event is all they can differ in. -/
theorem clients_agree_but_firstEvent (loads : Text → Option (Chunk V)) (expectedAnswer : Text)
    (lines : List Text) :
    (requestOnce loads expectedAnswer lines).map (fun r => { r.2 with firstEvent := none }) =
      (inpodStream loads expectedAnswer lines).map
        (fun t => { t with firstEvent := none }) := by
  have hh := loops_agree_but_firstEvent loads lines 0 [] {} none none
  have hres := congrArg (Option.map (StreamState.result expectedAnswer)) hh
  simp only [Option.map_map, Function.comp_def] at hres
  simp only [requestOnce, inpodStream, Option.map_map, Function.comp_def]
  exact hres

/-- The clients agree on a stream exactly if its first data line, when there is
one, has something in it. -/
theorem clientsAgree_iff (expectedAnswer : Text) {lines : List Text}
    (hload : Parses loads lines) :
    ClientsAgree loads expectedAnswer lines ↔ firstPayload lines ≠ some [] := by
  constructor
  · intro hagree hempty
    refine firstEvents_differ hload 0 [] {} rfl hempty ?_
    have hfirst := congrArg (Option.map StreamResult.firstEvent) hagree
    simpa [requestOnce, inpodStream, StreamState.result, Function.comp_def] using hfirst
  · intro hne
    have hloops := loops_agree_of_firstPayload loads 0 [] {} hne
    unfold ClientsAgree requestOnce inpodStream
    rw [← hloops, Option.map_map, Option.map_map]
    rfl

def openedEmpty : List Text :=
  ["data:\n".toList, "data: \x7b\"id\": \"r\"\x7d\n".toList, "data: [DONE]\n".toList]

def loadsId : Text → Option (Chunk Nat) := fun _ => some { id := some "r".toList }

theorem clientsAgree_tail :
    ClientsAgree loadsId [] (openedEmpty.drop 1) :=
  (clientsAgree_iff [] fun _ _ _ _ _ _ => rfl).mpr (by decide)

theorem openedEmpty_disagree :
    Parses loadsId openedEmpty ∧ ¬ ClientsAgree loadsId [] openedEmpty := by
  refine ⟨fun _ _ _ _ _ _ => rfl, fun hagree => ?_⟩
  have hfirst := congrArg (Option.map StreamResult.firstEvent) hagree
  have hne : (requestOnce loadsId [] openedEmpty).map (fun r => r.2.firstEvent) ≠
      (inpodStream loadsId [] openedEmpty).map (·.firstEvent) := by decide
  exact hne (by simpa [Function.comp_def] using hfirst)

end PdDisaggregation
