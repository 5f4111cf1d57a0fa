import EventScript.Proofs.Machine.Sinks
import EventScript.Proofs.Outcome
import EventScript.Repl
import Mathlib.Data.List.DropRight

/-!
# Exchanges of the interactive loop

What the loop prints on each line, beside the events that the line triggered. Only a line that
succeeds shows events: its own, behind those of the lines since the last one that succeeded.
-/

namespace EventScript

/-! ### Events of an input -/

/-- A block runs alike on locals alone, if the sinks answer alike. -/
theorem Engine.run_alike {σ τ : Type} [EventSink σ] [EventSink τ] {related : σ → τ → Prop}
    (answers : EventSink.Answers related) (engine : Engine) (block : Block) {memory : Memory σ}
    {other : Memory τ} (alike : memory.Alike related other) :
    (engine.run block memory).1 = (engine.run block other).1 ∧
      (engine.run block memory).2.Alike related (engine.run block other).2 := by
  obtain @⟨locals, globals, chance, first, second, sinks⟩ := alike
  have hidden : Memory.Alike related ⟨locals, none, first, chance⟩ ⟨locals, none, second, chance⟩ :=
    .of sinks
  obtain ⟨outcomes, left⟩ := block.run_alike answers (engine.context none ∅) hidden
  unfold run Block.runLocally
  dsimp only
  generalize block.run (engine.context none ∅) (⟨locals, none, first, chance⟩ : Memory σ) = ran
    at outcomes left ⊢
  generalize block.run (engine.context none ∅) (⟨locals, none, second, chance⟩ : Memory τ) = ran'
    at outcomes left ⊢
  obtain ⟨result, after⟩ := ran
  obtain ⟨result', after'⟩ := ran'
  obtain ⟨sinks⟩ := left
  exact ⟨outcomes, .of sinks⟩

/-- Events are collected behind others as they are on their own. -/
theorem EventSink.answers_append (before : Array Event) :
    EventSink.Answers fun own all : Array Event => all = before ++ own := by
  rintro event own _ rfl
  exact ⟨rfl, Array.push_append⟩

namespace Session

def waiting (session : Session) : List Event := session.memory.sink.toList

def settled (session : Session) : Session :=
  { session with memory := { session.memory with sink := #[] } }

def triggered (session : Session) (input : String) : List Event :=
  (session.settled.run input).2.waiting

/-- An input runs as if no events waited, and what it triggers waits behind those that do. -/
theorem run_settled (session : Session) (input : String) :
    (session.run input).1 = (session.settled.run input).1 ∧
      (session.run input).2.settled = (session.settled.run input).2.settled ∧
      (session.run input).2.waiting = session.waiting ++ session.triggered input := by
  unfold triggered run
  have same : session.settled.engine.compile input = session.engine.compile input := rfl
  rw [same]
  cases session.engine.compile input with
  | error error => exact ⟨rfl, rfl, (List.append_nil _).symm⟩
  | ok block =>
    have alike : Memory.Alike (fun own all => all = session.memory.sink ++ own)
        session.settled.memory session.memory := .of Array.append_empty.symm
    obtain ⟨outcomes, left⟩ :=
      session.engine.run_alike (EventSink.answers_append session.memory.sink) block alike
    have engine : session.settled.engine = session.engine := rfl
    rw [engine]
    dsimp only
    generalize session.engine.run block session.settled.memory = own at outcomes left ⊢
    generalize session.engine.run block session.memory = all at outcomes left ⊢
    obtain ⟨result, own⟩ := own
    obtain ⟨result', all⟩ := all
    obtain @⟨locals, globals, chance, first, second, collected⟩ := left
    obtain rfl : result = result' := outcomes
    refine ⟨rfl, rfl, ?_⟩
    simp [waiting, collected]

end Session

namespace Repl

/-- One line that the loop reads, and what comes of it. -/
structure Exchange where
  /-- What is printed besides the lines about events. -/
  answer : String
  /-- Whether the line is an input that is run and succeeds. -/
  succeeds : Bool
  /-- The events that the line triggers. -/
  triggered : List Event
  /-- The events that are shown before the next prompt. -/
  shown : List Event

def Exchange.text (exchange : Exchange) : String :=
  exchange.answer ++ String.join (exchange.shown.map eventLine)

def isQuit (line : String) : Bool := String.ofList (Text.trim line.toList) == ":quit"

/-- What comes of a line, and the session after it unless the line ends the loop. -/
def exchange (session : Session) (line : String) : Exchange × Option Session :=
  if isQuit line then (⟨"", false, [], []⟩, none)
  else if String.ofList (Text.trim line.toList) = ":symbols" then
    (⟨session.symbols.display, false, [], []⟩, some session)
  else
    match session.run line with
    | (.error error, after) =>
      (⟨s!"Woops! {error.message}\n", false, session.triggered line, []⟩, some after)
    | (.ok value, after) =>
      let answer := match value with
        | some value => value.display ++ "\n"
        | none => ""
      (⟨answer, true, session.triggered line, after.waiting⟩, some after.settled)

def exchanges (session : Session) : List String → List Exchange
  | [] => []
  | line :: rest =>
    match exchange session line with
    | (exchange, none) => [exchange]
    | (exchange, some session) => exchange :: exchanges session rest

theorem respond_eq (session : Session) (line : String) :
    respond session line = ((exchange session line).1.text, (exchange session line).2) := by
  unfold respond exchange isQuit
  simp only [beq_iff_eq]
  split
  · rfl
  · split
    · simp [Exchange.text]
    · unfold evaluate
      rcases session.run line with ⟨error | value, after⟩
      · simp [Exchange.text]
      · rfl

/-! ### What is shown -/

def Exchange.leaves (waiting : List Event) (exchange : Exchange) : List Event :=
  if exchange.succeeds then [] else waiting ++ exchange.triggered

theorem exchange_shows (session : Session) (line : String) :
    ((exchange session line).1.shown =
      if (exchange session line).1.succeeds then
        session.waiting ++ (exchange session line).1.triggered
      else []) ∧
      ∀ after, (exchange session line).2 = some after →
        after.waiting = (exchange session line).1.leaves session.waiting := by
  unfold exchange
  split
  · exact ⟨rfl, nofun⟩
  · split
    · refine ⟨rfl, ?_⟩
      rintro _ ⟨⟩
      exact (List.append_nil _).symm
    · have waits := (session.run_settled line).2.2
      generalize session.run line = outcome at waits ⊢
      obtain ⟨error | value, later⟩ := outcome
      · refine ⟨rfl, ?_⟩
        rintro _ ⟨⟩
        exact waits
      · refine ⟨waits.trans (if_pos rfl).symm, ?_⟩
        rintro _ ⟨⟩
        rfl

/-- Whether an exchange shows events only if its line succeeds, and then those that waited and its
own, throughout the exchanges. -/
def ShowFrom (waiting : List Event) : List Exchange → Prop
  | [] => True
  | exchange :: rest =>
    (exchange.shown = if exchange.succeeds then waiting ++ exchange.triggered else []) ∧
      ShowFrom (exchange.leaves waiting) rest

theorem exchanges_showFrom (session : Session) (lines : List String) :
    ShowFrom session.waiting (exchanges session lines) := by
  induction lines generalizing session with
  | nil => trivial
  | cons line rest ih =>
    obtain ⟨shown, leaves⟩ := exchange_shows session line
    rw [exchanges]
    rcases found : exchange session line with ⟨here, _ | after⟩
    · rw [found] at shown
      exact ⟨shown, trivial⟩
    · rw [found] at shown leaves
      refine ⟨shown, ?_⟩
      rw [← leaves after rfl]
      exact ih after

theorem ShowFrom.shown_eq {waiting : List Event} {before after : List Exchange}
    {exchange : Exchange} (shows : ShowFrom waiting (before ++ exchange :: after)) :
    exchange.shown =
      if exchange.succeeds then before.foldl Exchange.leaves waiting ++ exchange.triggered
      else [] := by
  induction before generalizing waiting with
  | nil => exact shows.1
  | cons first before ih => exact ih shows.2

theorem ShowFrom.conserves {waiting : List Event} {exchanges : List Exchange}
    (shows : ShowFrom waiting exchanges) :
    exchanges.flatMap Exchange.shown ++ exchanges.foldl Exchange.leaves waiting =
      waiting ++ exchanges.flatMap Exchange.triggered := by
  induction exchanges generalizing waiting with
  | nil => simp
  | cons exchange rest ih =>
    obtain ⟨shown, later⟩ := shows
    rw [List.flatMap_cons, List.flatMap_cons, List.foldl_cons, List.append_assoc, ih later, shown]
    unfold Exchange.leaves
    split <;> simp

/-- The events that the exchanges behind the last one that succeeds have triggered. -/
def unshown (exchanges : List Exchange) : List Event :=
  (exchanges.rtakeWhile fun exchange => !exchange.succeeds).flatMap Exchange.triggered

theorem foldl_leaves (exchanges : List Exchange) :
    exchanges.foldl Exchange.leaves [] = unshown exchanges := by
  induction exchanges using List.reverseRecOn with
  | nil => rfl
  | append_singleton exchanges exchange ih =>
    rw [List.foldl_append, ih, unshown, unshown, List.rtakeWhile_concat]
    cases succeeds : exchange.succeeds <;> simp [Exchange.leaves, succeeds]

theorem unshown_eq_nil {exchanges : List Exchange}
    (quiet : ∀ exchange ∈ exchanges, exchange.succeeds = false → exchange.triggered = []) :
    unshown exchanges = [] := by
  refine List.flatMap_eq_nil_iff.mpr fun exchange member => ?_
  have fails := List.mem_rtakeWhile_imp member
  exact quiet exchange ((List.rtakeWhile_suffix _ _).subset member) (by simpa using fails)

theorem exchange_quit (session : Session) (line : String) :
    (exchange session line).2.isNone = isQuit line := by
  unfold exchange
  split
  · next quits => exact quits.symm
  · next noQuit =>
    rw [Bool.not_eq_true] at noQuit
    rw [noQuit]
    split
    · rfl
    · rcases session.run line with ⟨error | value, after⟩
      · rfl
      · rfl

/-- What the loop prints is a prompt and the text of the exchange for every line, and one more
prompt unless a line ends the loop. -/
theorem transcript_eq (session : Session) (lines : List String) :
    transcript session lines =
      String.join ((exchanges session lines).map fun exchange => prompt ++ exchange.text) ++
        if lines.any isQuit then "" else prompt := by
  induction lines generalizing session with
  | nil => rfl
  | cons line rest ih =>
    rw [transcript, respond_eq, exchanges, List.any_cons]
    rcases found : exchange session line with ⟨here, _ | after⟩
    · have quits := exchange_quit session line
      rw [found] at quits
      rw [← quits]
      simp
    · have goesOn := exchange_quit session line
      rw [found] at goesOn
      rw [← goesOn, Option.isNone_some, Bool.false_or, List.map_cons, String.join_cons,
        String.append_assoc, ← ih after]

/-- The loop shows events only on a line that succeeds: those that the line has triggered, behind
those of the lines since the last one that succeeded. So no event is shown twice or out of order,
but those of the last lines that fail are never shown; and on every line exactly the events of that
line are shown if no line that fails triggers any. -/
theorem events_shown (engine : Engine) (chance : Chance) (lines : List String) :
    let session := Session.start engine chance
    let exchanges := exchanges session lines
    transcript session lines =
        String.join (exchanges.map fun exchange => prompt ++ exchange.text) ++
          (if lines.any isQuit then "" else prompt) ∧
      (∀ before exchange after, exchanges = before ++ exchange :: after →
        exchange.shown =
          if exchange.succeeds then unshown before ++ exchange.triggered else []) ∧
      exchanges.flatMap Exchange.shown ++ unshown exchanges =
        exchanges.flatMap Exchange.triggered ∧
      ((∀ exchange ∈ exchanges, exchange.shown = exchange.triggered) ↔
        ∀ exchange ∈ exchanges, exchange.succeeds = false → exchange.triggered = []) := by
  intro session exchanges
  have shows : ShowFrom [] exchanges := exchanges_showFrom session lines
  have shown : ∀ before exchange after, exchanges = before ++ exchange :: after →
      exchange.shown =
        if exchange.succeeds then unshown before ++ exchange.triggered else [] := by
    intro before exchange after split
    rw [← foldl_leaves]
    exact (split ▸ shows).shown_eq
  refine ⟨transcript_eq session lines, shown, ?_, ?_, ?_⟩
  · rw [← foldl_leaves]
    exact shows.conserves
  · intro own exchange member fails
    obtain ⟨before, after, split⟩ := List.append_of_mem member
    rw [← own exchange member, shown before exchange after split, fails]
    rfl
  · intro quiet exchange member
    obtain ⟨before, after, split⟩ := List.append_of_mem member
    rw [shown before exchange after split]
    cases succeeds : exchange.succeeds with
    | false => exact (quiet exchange member succeeds).symm
    | true =>
      have nothing : unshown before = [] := by
        refine unshown_eq_nil fun other earlier => quiet other ?_
        rw [split]
        exact List.mem_append_left _ earlier
      rw [nothing]
      rfl

/-- The line triggers an event before it fails. The event is not shown, and the input ends. -/
theorem failed_line_shows_nothing :
    let session : Session := .start .standard {}
    let line := "trigger_event(\"boom\"); nope()\n"
    let answer := "Woops! runtime error in statement 1 (line 1): unknown function nope\n"
    exchanges session [line] = [⟨answer, false, [.named "boom"], []⟩] ∧
      transcript session [line] = ">>" ++ answer ++ ">>" ∧
      ¬ ∀ exchange ∈ exchanges session [line], exchange.shown = exchange.triggered := by
  intro session line answer
  have compiled : session.engine.compile line =
      .ok [⟨1, .perform (.evaluate [.push (.text "boom"), .call "trigger_event" 1])⟩,
        ⟨1, .perform (.evaluate [.call "nope" 0])⟩] := eq_ok_of_toOption (by decide +kernel)
  have ran : session.run line = (.error (.fault 1 1 (.unknownFunction "nope")),
      { session with memory := { session.memory with sink := #[.named "boom"] } }) := by
    unfold Session.run
    rw [compiled]
    rfl
  have triggers : session.triggered line = [.named "boom"] := by
    change (session.run line).2.waiting = _
    rw [ran]
    rfl
  have noQuit : isQuit line = false := by decide +kernel
  have noList : String.ofList (Text.trim line.toList) ≠ ":symbols" := by decide +kernel
  have read : exchanges session [line] = [⟨answer, false, [.named "boom"], []⟩] := by
    rw [exchanges, exchange, noQuit, if_neg Bool.false_ne_true, if_neg noList, ran, triggers]
    rfl
  refine ⟨read, ?_, ?_⟩
  · rw [transcript_eq, read, List.any_cons, noQuit]
    decide +kernel
  · rw [read]
    intro own
    cases own _ List.mem_cons_self

end Repl

end EventScript
