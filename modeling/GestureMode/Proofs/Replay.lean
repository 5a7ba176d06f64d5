import GestureMode.Host.Switch
import GestureMode.Node.Sink
import GestureMode.Proofs.Line

/-!
# Stores, lines and sinks along a trace

A trace holds every write to the store, so that the store at each of its moments
comes from replaying the accepted writes before.  A trace is faithful to a store
when each of its lines shows the switches of the gestures as the store reads at
the moment of that line.  A sink receives the lines of a trace when it is handed
them one after the other and answers as the trace says.
-/

set_option autoImplicit false

namespace GestureMode

namespace Event

/-- Whether an event neither hands over a line nor stores a preference. -/
def isQuiet : Event → Bool
  | note _ | read _ _ | write _ _ _ => true
  | line _ _ | store _ _ _ => false

def isDealing : Event → Bool
  | read _ _ | write _ _ _ | store _ _ _ => true
  | note _ | line _ _ => false

def dealings (events : List Event) : List Event :=
  events.filter isDealing

@[simp]
theorem dealings_append (a b : List Event) : dealings (a ++ b) = dealings a ++ dealings b :=
  List.filter_append a b

theorem mem_dealings (events : List Event) (event : Event) (dealing : event.isDealing = true) :
    event ∈ dealings events ↔ event ∈ events := by
  simp [dealings, dealing]

def isCall : Event → Bool
  | read _ _ | write _ _ _ => true
  | note _ | line _ _ | store _ _ _ => false

def calls (events : List Event) : List Event :=
  events.filter isCall

@[simp]
theorem calls_append (a b : List Event) : calls (a ++ b) = calls a ++ calls b :=
  List.filter_append a b

theorem calls_of_dealings (a b : List Event) (same : dealings a = dealings b) :
    calls a = calls b := by
  have kept (events : List Event) : calls (dealings events) = calls events := by
    rw [calls, dealings, List.filter_filter, calls]
    congr 1
    funext event
    cases event <;> rfl
  rw [← kept a, same, kept b]

@[simp]
def store? : Event → Option (String × Bool × Bool)
  | store key value refusal => some (key, value, refusal.isSome)
  | _ => none

def stores (events : List Event) : List (String × Bool × Bool) :=
  events.filterMap store?

@[simp]
theorem stores_append (a b : List Event) : stores (a ++ b) = stores a ++ stores b :=
  List.filterMap_append

theorem stores_of_dealings (a b : List Event) (same : dealings a = dealings b) :
    stores a = stores b := by
  have kept (events : List Event) : stores (dealings events) = stores events := by
    rw [stores, dealings, List.filterMap_filter, stores]
    congr 1
    funext event
    cases event <;> rfl
  rw [← kept a, same, kept b]

def isRefusedStore : Event → Bool
  | store _ _ (some _) => true
  | _ => false

theorem stores_of_quiet (events : List Event) (quiet : ∀ event ∈ events, event.isQuiet = true) :
    stores events = [] := by
  apply List.filterMap_eq_nil_iff.mpr
  intro event member
  have eventQuiet := quiet event member
  cases event with
  | note | read | write | line => rfl
  | store => cases eventQuiet

theorem lines_of_quiet (events : List Event) (quiet : ∀ event ∈ events, event.isQuiet = true) :
    lines events = [] := by
  apply List.filterMap_eq_nil_iff.mpr
  intro event member
  have eventQuiet := quiet event member
  cases event with
  | note | read | write | store => rfl
  | line => cases eventQuiet

end Event

namespace PreferenceStore

variable {P : Type} [PreferenceStore P]

/-- The switches of the gestures as a store reads. -/
def reading (prefs : P) (gesture : Gesture) : Bool :=
  isOn prefs gesture.key

theorem isOn_load (prefs : P) : (Switches.load prefs).isOn = reading prefs :=
  funext (Switches.isOn_load prefs)

theorem reading_congr {Q : Type} [PreferenceStore Q] (a : P) (b : Q)
    (same : ∀ gesture : Gesture, get? a gesture.key = get? b gesture.key) :
    reading a = reading b :=
  funext fun gesture => isOn_congr a b gesture.key (same gesture)

theorem load_eq_iff_reading {Q : Type} [PreferenceStore Q] (a : P) (b : Q) :
    Switches.load a = Switches.load b ↔ reading a = reading b := by
  constructor
  · intro same
    rw [← isOn_load a, ← isOn_load b, same]
  · intro same
    apply Switches.eq_of_isOn
    intro gesture
    rw [isOn_load a, isOn_load b, same]

def advance (prefs : P) : Event → P
  | .store key value none =>
    match put prefs key value with
    | .ok after => after
    | .error _ => prefs
  | _ => prefs

/-- The store after a trace. -/
def replay (prefs : P) (events : List Event) : P :=
  events.foldl advance prefs

@[simp]
theorem replay_nil (prefs : P) : replay prefs [] = prefs := rfl

@[simp]
theorem replay_cons (prefs : P) (event : Event) (events : List Event) :
    replay prefs (event :: events) = replay (advance prefs event) events := rfl

@[simp]
theorem replay_append (prefs : P) (first second : List Event) :
    replay prefs (first ++ second) = replay (replay prefs first) second :=
  List.foldl_append

theorem replay_of_quiet (events : List Event) (prefs : P)
    (quiet : ∀ event ∈ events, event.isQuiet = true) : replay prefs events = prefs := by
  induction events with
  | nil => rfl
  | cons event rest ih =>
    have head : advance prefs event = prefs := by
      have eventQuiet := quiet event List.mem_cons_self
      cases event with
      | note | read | write => rfl
      | line | store => cases eventQuiet
    rw [replay_cons, head]
    apply ih
    intro other member
    exact quiet other (List.mem_cons_of_mem event member)

end PreferenceStore

open PreferenceStore

section Faithful

variable {P : Type} [PreferenceStore P]

/-- Each line shows the switches as the store reads when the line is handed over. -/
def Faithful (prefs : P) (events : List Event) : Prop :=
  ∀ (before after : List Event) (text : String) (refusal : Option Failure),
    events = before ++ .line text refusal :: after →
      Shows text (reading (replay prefs before))

theorem faithful_cons (prefs : P) (event : Event) (events : List Event)
    (head : ∀ (text : String) (refusal : Option Failure),
      event = .line text refusal → Shows text (reading prefs))
    (tail : Faithful (advance prefs event) events) : Faithful prefs (event :: events) := by
  intro before after text refusal split
  cases before with
  | nil =>
    injection split with first
    exact head text refusal first
  | cons first before =>
    injection split with same rest
    subst same
    exact tail before after text refusal rest

theorem faithful_append (prefs : P) (first second : List Event) (left : Faithful prefs first)
    (right : Faithful (replay prefs first) second) : Faithful prefs (first ++ second) := by
  intro before after text refusal split
  rcases List.append_eq_append_iff.mp split with
    ⟨between, beforeEq, secondEq⟩ | ⟨between, firstEq, restEq⟩
  · rw [beforeEq, replay_append]
    exact right between after text refusal secondEq
  · cases between with
    | nil =>
      rw [List.append_nil] at firstEq
      subst firstEq
      exact right [] after text refusal (by simpa using restEq.symm)
    | cons event between =>
      injection restEq with same rest
      subst same
      exact left before between text refusal firstEq

theorem faithful_of_lines_eq_nil (prefs : P) (events : List Event)
    (silent : Event.lines events = []) : Faithful prefs events := by
  intro before after text refusal split
  rw [split] at silent
  simp at silent

end Faithful

namespace LineSink

variable {W : Type} [LineSink W]

/-- The sink after some lines were handed to it, taken or refused. -/
def deliverAll (sink : W) (lines : List String) : W :=
  lines.foldl (fun sink line => (deliver sink line).1) sink

/-- The lines of a trace are handed to a sink, which gives the answers that the trace holds,
and is another one in the end. -/
inductive Receives : W → List Event → W → Prop
  | nil (sink : W) : Receives sink [] sink
  | line {sink after last : W} {text : String} {refusal : Option Failure} {rest : List Event}
      (answer : deliver sink text = (after, refusal)) (later : Receives after rest last) :
      Receives sink (.line text refusal :: rest) last
  | other {sink last : W} {event : Event} {rest : List Event} (silent : event.line? = none)
      (later : Receives sink rest last) : Receives sink (event :: rest) last

theorem Receives.append {sink middle last : W} {first second : List Event}
    (left : Receives sink first middle) (right : Receives middle second last) :
    Receives sink (first ++ second) last := by
  induction left with
  | nil => exact right
  | line answer _ ih => exact .line answer (ih right)
  | other silent _ ih => exact .other silent (ih right)

theorem receives_of_lines_eq_nil (sink : W) (events : List Event)
    (silent : Event.lines events = []) : Receives sink events sink := by
  induction events with
  | nil => exact .nil sink
  | cons event rest ih =>
    rw [Event.lines_cons, List.append_eq_nil_iff, Option.toList_eq_nil_iff] at silent
    exact .other silent.1 (ih silent.2)

theorem Receives.last_eq {sink last : W} {events : List Event}
    (receives : Receives sink events last) : last = deliverAll sink (Event.lines events) := by
  induction receives with
  | nil => rfl
  | line answer _ ih =>
    rw [ih, Event.lines_cons, Event.line?, deliverAll, deliverAll, Option.toList_some,
      List.singleton_append, List.foldl_cons, answer]
  | other silent _ ih => rw [ih, Event.lines_cons, silent, Option.toList_none, List.nil_append]

/-- What a trace says of the answer to a line is what the sink answers that has been handed
the lines before. -/
theorem Receives.refusal_eq {sink last : W} {events : List Event}
    (receives : Receives sink events last) (before later : List Event) (text : String)
    (refusal : Option Failure) (split : events = before ++ .line text refusal :: later) :
    refusal = (deliver (deliverAll sink (Event.lines before)) text).2 := by
  induction receives generalizing before with
  | nil => simp at split
  | line answer _ ih =>
    cases before with
    | nil =>
      injection split with same
      injection same with text refusal
      rw [← text, ← refusal]
      exact (congrArg Prod.snd answer).symm
    | cons event before =>
      injection split with same rest
      subst same
      have tail := ih before rest
      rw [Event.lines_cons, Event.line?, Option.toList_some, List.singleton_append, deliverAll,
        List.foldl_cons, answer]
      exact tail
  | other silent _ ih =>
    cases before with
    | nil =>
      injection split with same
      subst same
      cases silent
    | cons event before =>
      injection split with same rest
      subst same
      rw [Event.lines_cons, silent, Option.toList_none, List.nil_append]
      exact ih before rest

end LineSink

end GestureMode
