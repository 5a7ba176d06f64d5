import GestureMode.Keeper
import GestureMode.Proofs.Freshness
import GestureMode.Proofs.Line
import Mathlib.Data.List.Infix

/-!
# Attempted lines

A keeper is told of changed preferences, with or without a delivery, and asked to deliver,
in any order and while its store changes.  Which lines it attempts follows from these
requests alone: one at the start, and one for each request to deliver and for each change of
a gesture's preference.  Each is the mode of the switches as they were last loaded or
announced.  The sink is handed exactly these lines, and whether it takes one has no influence
on the switches, on any answer or on a later line.
-/

set_option autoImplicit false

namespace GestureMode

open PreferenceStore

/-- Something asked of a keeper, or a change of the store that it reads. -/
inductive KeeperRequest (P : Type) where
  | edit (change : P → P)
  | announce (key : String)
  | change (key : String)
  | deliver

inductive KeeperAnswer where
  | done
  | announced (ofGesture : Bool)
  | changed (mask : Option Mask)
  | delivered (mask : Mask)
  deriving DecidableEq

structure KeeperTurn (P W : Type) where
  editSink : W → W
  request : KeeperRequest P

structure Kept (P W : Type) where
  prefs : P
  keeper : Keeper W

def Gesture.owns (key : String) : Bool :=
  key ∈ all.map Gesture.key

theorem Gesture.owns_iff (key : String) :
    owns key = true ↔ ∃ gesture : Gesture, key = gesture.key := by
  rw [owns, decide_eq_true_eq, List.mem_map]
  constructor
  · rintro ⟨gesture, -, same⟩
    exact ⟨gesture, same.symm⟩
  · rintro ⟨gesture, same⟩
    exact ⟨gesture, gesture.mem_all, same.symm⟩

namespace KeeperRequest

variable {P : Type}

def delivers : KeeperRequest P → Bool
  | edit _ | announce _ => false
  | change key => Gesture.owns key
  | deliver => true

def Rereads (gesture : Gesture) : KeeperRequest P → Prop
  | edit _ | deliver => False
  | announce key | change key => key = gesture.key

/-- What the request means for the switches that are known. -/
def operation? : KeeperRequest P → Option (SwitchOperation P)
  | edit replace => some (.edit replace)
  | announce key | change key => some (.announce key)
  | deliver => none

theorem operation?_of_rereads (gesture : Gesture) (request : KeeperRequest P)
    (rereads : request.Rereads gesture) : request.operation? = some (.announce gesture.key) := by
  cases request with
  | edit | deliver => exact rereads.elim
  | announce key | change key =>
    have same : key = gesture.key := rereads
    rw [same]
    rfl

/-- Whether the last of some requests is one to deliver; the start of a keeper is as well. -/
def endInDelivery (requests : List (KeeperRequest P)) : Bool :=
  requests.getLast?.all delivers

variable [PreferenceStore P]

def after (known : KnownSwitches P) (requests : List (KeeperRequest P)) : KnownSwitches P :=
  known.run (requests.filterMap operation?)

def answer (known : KnownSwitches P) : KeeperRequest P → KeeperAnswer
  | edit _ => .done
  | announce key => .announced (Gesture.owns key)
  | change key => .changed (if Gesture.owns key then some known.switches.encode else none)
  | deliver => .delivered known.switches.encode

def answers (known : KnownSwitches P) : List (KeeperRequest P) → List KeeperAnswer
  | [] => []
  | request :: rest =>
    request.answer (after known [request]) :: answers (after known [request]) rest

theorem after_append (known : KnownSwitches P) (earlier later : List (KeeperRequest P)) :
    after known (earlier ++ later) = after (after known earlier) later := by
  rw [after, List.filterMap_append, KnownSwitches.run_append]
  rfl

theorem after_cons (known : KnownSwitches P) (request : KeeperRequest P)
    (rest : List (KeeperRequest P)) :
    after known (request :: rest) = after (after known [request]) rest :=
  after_append known [request] rest

theorem length_answers (known : KnownSwitches P) (requests : List (KeeperRequest P)) :
    (answers known requests).length = requests.length := by
  induction requests generalizing known with
  | nil => rfl
  | cons request rest ih => rw [answers, List.length_cons, ih, List.length_cons]

theorem getElem?_answers (known : KnownSwitches P) (requests : List (KeeperRequest P)) (n : Nat)
    (request : KeeperRequest P) (asked : requests[n]? = some request) :
    (answers known requests)[n]? = some (request.answer (after known (requests.take (n + 1)))) := by
  induction requests generalizing known n with
  | nil => cases asked
  | cons first rest ih =>
    cases n with
    | zero =>
      injection asked with same
      rw [same]
      rfl
    | succ n =>
      have tail := ih (after known [first]) n asked
      rw [← after_cons] at tail
      exact tail

theorem isOn_after_of_not_rereads (known : KnownSwitches P) (requests : List (KeeperRequest P))
    (gesture : Gesture) (unread : ∀ request ∈ requests, ¬ request.Rereads gesture) :
    (after known requests).switches.isOn gesture = known.switches.isOn gesture := by
  apply known.isOn_run_of_not_concerns
  intro operation member
  obtain ⟨request, asked, means⟩ := List.mem_filterMap.mp member
  have idle := unread request asked
  cases request with
  | edit replace =>
    injection means with same
    rw [← same]
    exact id
  | announce key | change key =>
    injection means with same
    rw [← same]
    exact idle
  | deliver => cases means

theorem isOn_after_of_latest (known : KnownSwitches P) (before later : List (KeeperRequest P))
    (request : KeeperRequest P) (gesture : Gesture) (rereads : request.Rereads gesture)
    (latest : ∀ next ∈ later, ¬ next.Rereads gesture) :
    (after known (before ++ request :: later)).switches.isOn gesture =
      isOn (after known before).prefs gesture.key := by
  have kept := isOn_after_of_not_rereads (after (after known before) [request]) later gesture latest
  rw [List.append_cons, after_append, after_append, kept, after, List.filterMap_cons,
    operation?_of_rereads gesture request rereads]
  exact (after known before).isOn_perform_of_concerns (.announce gesture.key) gesture rfl

end KeeperRequest

namespace Keeper

variable {P W : Type} [PreferenceStore P]

theorem announce_snd (keeper : Keeper W) (prefs : P) (key : String) :
    (keeper.announce prefs key).2 = Gesture.owns key := by
  rw [Bool.eq_iff_iff, Gesture.owns_iff, announce, Switches.announce?]
  cases found : Gesture.ofKey? key with
  | none =>
    constructor
    · intro impossible
      cases impossible
    · rintro ⟨gesture, same⟩
      rw [(Gesture.ofKey?_eq_some_iff key gesture).mpr same] at found
      cases found
  | some gesture =>
    exact ⟨fun _ => ⟨gesture, (Gesture.ofKey?_eq_some_iff key gesture).mp found⟩, fun _ => rfl⟩

theorem switches_announce (keeper : Keeper W) (prefs : P) (key : String) :
    (keeper.announce prefs key).1.switches =
      (keeper.switches.announce? prefs key).getD keeper.switches := by
  rw [announce]
  cases keeper.switches.announce? prefs key <;> rfl

theorem sink_announce (keeper : Keeper W) (prefs : P) (key : String) :
    (keeper.announce prefs key).1.sink = keeper.sink := by
  rw [announce]
  cases keeper.switches.announce? prefs key <;> rfl

variable [LineSink W]

/-- A change of a gesture's preference is an announcement with a delivery after it. -/
theorem change_of_announced (keeper : Keeper W) (prefs : P) (key : String)
    (announced : (keeper.announce prefs key).2 = true) :
    keeper.change prefs key =
      let delivered := (keeper.announce prefs key).1.deliver
      ⟨(delivered.value.1, some delivered.value.2), delivered.events⟩ := by
  rw [change]
  rcases answered : keeper.announce prefs key with ⟨after, _ | _⟩
  · rw [answered] at announced
    cases announced
  · exact congrArg (Traced.mk _) (List.append_nil _)

theorem change_of_not_announced (keeper : Keeper W) (prefs : P) (key : String)
    (unannounced : (keeper.announce prefs key).2 = false) :
    keeper.change prefs key = ⟨((keeper.announce prefs key).1, none), []⟩ := by
  rw [change]
  rcases answered : keeper.announce prefs key with ⟨after, _ | _⟩
  · rfl
  · rw [answered] at unannounced
    cases unannounced

end Keeper

/-! ## A run of requests -/

namespace Kept

variable {P W : Type} [PreferenceStore P] [LineSink W]

def start (prefs : P) (sink : W) : Traced (Kept P W) := do
  let keeper ← Keeper.start prefs sink
  pure ⟨prefs, keeper⟩

def known (kept : Kept P W) : KnownSwitches P :=
  ⟨kept.prefs, kept.keeper.switches⟩

def perform (kept : Kept P W) (turn : KeeperTurn P W) : Traced (Kept P W × KeeperAnswer) :=
  let keeper := { kept.keeper with sink := turn.editSink kept.keeper.sink }
  match turn.request with
  | .edit replace => pure (⟨replace kept.prefs, keeper⟩, .done)
  | .announce key =>
    let (keeper, ofGesture) := keeper.announce kept.prefs key
    pure (⟨kept.prefs, keeper⟩, .announced ofGesture)
  | .change key => do
    let (keeper, mask) ← keeper.change kept.prefs key
    pure (⟨kept.prefs, keeper⟩, .changed mask)
  | .deliver => do
    let (keeper, mask) ← keeper.deliver
    pure (⟨kept.prefs, keeper⟩, .delivered mask)

def run (kept : Kept P W) : List (KeeperTurn P W) → Traced (Kept P W × List KeeperAnswer)
  | [] => pure (kept, [])
  | turn :: rest => do
    let (kept, answer) ← kept.perform turn
    let (kept, answers) ← kept.run rest
    pure (kept, answer :: answers)

/-- A request was carried out as what it amounts to, on this sink and with these switches
known at the end. -/
structure Performed (request : KeeperRequest P) (sink : W) (noticed : KnownSwitches P)
    (outcome : Traced (Kept P W × KeeperAnswer)) : Prop where
  known : outcome.value.1.known = noticed
  answer : outcome.value.2 = request.answer noticed
  lines : Event.lines outcome.events =
    if request.delivers then [noticed.switches.encode.line] else []
  sink : outcome.value.1.keeper.sink =
    if request.delivers then (LineSink.deliver sink noticed.switches.encode.line).1 else sink

theorem performed (kept : Kept P W) (turn : KeeperTurn P W) :
    Performed turn.request (turn.editSink kept.keeper.sink)
      (KeeperRequest.after kept.known [turn.request]) (kept.perform turn) := by
  obtain ⟨editSink, request⟩ := turn
  let keeper : Keeper W := { kept.keeper with sink := editSink kept.keeper.sink }
  cases request with
  | edit replace => exact ⟨rfl, rfl, rfl, rfl⟩
  | announce key =>
    have switches := keeper.switches_announce kept.prefs key
    have ofGesture := keeper.announce_snd kept.prefs key
    exact ⟨congrArg (KnownSwitches.mk kept.prefs) switches,
      congrArg KeeperAnswer.announced ofGesture, rfl, keeper.sink_announce kept.prefs key⟩
  | change key =>
    have switches := keeper.switches_announce kept.prefs key
    have ofGesture := keeper.announce_snd kept.prefs key
    have outcome : kept.perform ⟨editSink, .change key⟩ =
        ⟨(⟨kept.prefs, (keeper.change kept.prefs key).value.1⟩,
            .changed (keeper.change kept.prefs key).value.2),
          (keeper.change kept.prefs key).events⟩ :=
      congrArg (Traced.mk _) (List.append_nil _)
    rw [outcome]
    cases owned : Gesture.owns key with
    | true =>
      rw [keeper.change_of_announced kept.prefs key (ofGesture.trans owned)]
      let announced := (keeper.announce kept.prefs key).1
      refine ⟨?_, ?_, ?_, ?_⟩
      · exact congrArg (KnownSwitches.mk kept.prefs) (announced.switches_deliver.trans switches)
      · have mask := announced.mask_deliver.trans (congrArg Switches.encode switches)
        rw [KeeperRequest.answer, if_pos owned]
        exact congrArg (fun mask => KeeperAnswer.changed (some mask)) mask
      · rw [KeeperRequest.delivers, if_pos owned, announced.lines_deliver, switches]
        rfl
      · rw [KeeperRequest.delivers, if_pos owned]
        dsimp only
        rw [announced.sink_deliver, switches, keeper.sink_announce kept.prefs key]
        rfl
    | false =>
      rw [keeper.change_of_not_announced kept.prefs key (ofGesture.trans owned)]
      refine ⟨congrArg (KnownSwitches.mk kept.prefs) switches, ?_, ?_, ?_⟩
      · rw [KeeperRequest.answer, owned]
        rfl
      · rw [KeeperRequest.delivers, owned]
        rfl
      · rw [KeeperRequest.delivers, owned]
        exact keeper.sink_announce kept.prefs key
  | deliver =>
    have outcome : kept.perform ⟨editSink, .deliver⟩ =
        ⟨(⟨kept.prefs, keeper.deliver.value.1⟩, .delivered keeper.deliver.value.2),
          keeper.deliver.events⟩ :=
      congrArg (Traced.mk _) (List.append_nil _)
    rw [outcome]
    exact ⟨congrArg (KnownSwitches.mk kept.prefs) keeper.switches_deliver,
      congrArg KeeperAnswer.delivered keeper.mask_deliver, keeper.lines_deliver,
      keeper.sink_deliver⟩

theorem run_cons (kept : Kept P W) (turn : KeeperTurn P W) (rest : List (KeeperTurn P W)) :
    kept.run (turn :: rest) =
      let first := kept.perform turn
      let later := first.value.1.run rest
      ⟨(later.value.1, first.value.2 :: later.value.2), first.events ++ later.events⟩ := by
  change (⟨_, (kept.perform turn).events ++ (_ ++ [])⟩ : Traced _) = _
  rw [List.append_nil]
  rfl

theorem events_run_append_singleton (kept : Kept P W) (turns : List (KeeperTurn P W))
    (turn : KeeperTurn P W) :
    (kept.run (turns ++ [turn])).events =
      (kept.run turns).events ++ ((kept.run turns).value.1.perform turn).events := by
  induction turns generalizing kept with
  | nil =>
    rw [List.nil_append, run_cons]
    exact List.append_nil _
  | cons first rest ih =>
    rw [List.cons_append, run_cons, run_cons]
    dsimp only
    rw [ih, List.append_assoc]

/-- Which switches are known, and what is answered, depends on the requests alone. -/
theorem value_run (kept : Kept P W) (turns : List (KeeperTurn P W)) :
    (kept.run turns).value.1.known =
        KeeperRequest.after kept.known (turns.map KeeperTurn.request) ∧
      (kept.run turns).value.2 =
        KeeperRequest.answers kept.known (turns.map KeeperTurn.request) := by
  induction turns generalizing kept with
  | nil => exact ⟨rfl, rfl⟩
  | cons turn rest ih =>
    obtain ⟨known, answer, -, -⟩ := kept.performed turn
    obtain ⟨knownRest, answersRest⟩ := ih (kept.perform turn).value.1
    rw [known] at knownRest answersRest
    constructor
    · rw [List.map_cons, KeeperRequest.after_cons, run_cons]
      exact knownRest
    · rw [List.map_cons, KeeperRequest.answers, ← answer, ← answersRest, run_cons]

/-- One line for each stretch of requests from the start that ends in a delivery. -/
theorem lines_run (kept : Kept P W) (turns : List (KeeperTurn P W)) :
    kept.keeper.switches.encode.line :: Event.lines (kept.run turns).events =
      ((turns.map KeeperTurn.request).inits.filter KeeperRequest.endInDelivery).map fun earlier =>
        (KeeperRequest.after kept.known earlier).switches.encode.line := by
  induction turns using List.reverseRecOn with
  | nil => rfl
  | append_singleton turns turn ih =>
    let requests := turns.map KeeperTurn.request
    obtain ⟨-, -, lines, -⟩ := (kept.run turns).value.1.performed turn
    rw [(kept.value_run turns).1, ← KeeperRequest.after_append] at lines
    have last :
        KeeperRequest.endInDelivery (requests ++ [turn.request]) = turn.request.delivers := by
      rw [KeeperRequest.endInDelivery, List.getLast?_concat]
      rfl
    have prefixes : (requests ++ [turn.request]).inits =
        requests.inits ++ [requests ++ [turn.request]] := List.inits_append requests [turn.request]
    rw [events_run_append_singleton, Event.lines_append, ← List.cons_append, ih, lines,
      List.map_append, List.map_singleton, prefixes, List.filter_append, List.map_append,
      List.filter_singleton, last]
    cases turn.request.delivers <;> rfl

/-- The sink after some turns: edited before each, and handed a line at each request that
delivers. -/
def received (known : KnownSwitches P) (sink : W) : List (KeeperTurn P W) → W
  | [] => sink
  | turn :: rest =>
    let noticed := KeeperRequest.after known [turn.request]
    let edited := turn.editSink sink
    received noticed
      (if turn.request.delivers then (LineSink.deliver edited noticed.switches.encode.line).1
        else edited) rest

theorem sink_run (kept : Kept P W) (turns : List (KeeperTurn P W)) :
    (kept.run turns).value.1.keeper.sink = received kept.known kept.keeper.sink turns := by
  induction turns generalizing kept with
  | nil => rfl
  | cons turn rest ih =>
    obtain ⟨known, -, -, sink⟩ := kept.performed turn
    have later := ih (kept.perform turn).value.1
    rw [known, sink] at later
    rw [run_cons]
    exact later

theorem sink_start (prefs : P) (sink : W) :
    (start prefs sink).value.keeper.sink =
      (LineSink.deliver sink (Switches.load prefs).encode.line).1 :=
  Keeper.sink_deliver ⟨Switches.load prefs, sink⟩

theorem switches_start (prefs : P) (sink : W) :
    (start prefs sink).value.keeper.switches = Switches.load prefs :=
  Keeper.switches_deliver ⟨Switches.load prefs, sink⟩

theorem known_start (prefs : P) (sink : W) :
    (start prefs sink).value.known = KnownSwitches.loaded prefs :=
  congrArg (KnownSwitches.mk prefs) (switches_start prefs sink)

theorem lines_start (prefs : P) (sink : W) :
    Event.lines (start prefs sink).events = [(Switches.load prefs).encode.line] := by
  have attempted := Keeper.lines_deliver (⟨Switches.load prefs, sink⟩ : Keeper W)
  change Event.lines ((Keeper.deliver ⟨Switches.load prefs, sink⟩).events ++ [] ++ []) = _
  rw [List.append_nil, List.append_nil]
  exact attempted

theorem lines_start_run (prefs : P) (sink : W) (turns : List (KeeperTurn P W)) :
    Event.lines ((start prefs sink).events ++ ((start prefs sink).value.run turns).events) =
      ((turns.map KeeperTurn.request).inits.filter KeeperRequest.endInDelivery).map fun earlier =>
        (KeeperRequest.after (.loaded prefs) earlier).switches.encode.line := by
  have attempted := (start prefs sink).value.lines_run turns
  rw [known_start, switches_start] at attempted
  rw [Event.lines_append, lines_start, ← attempted, List.singleton_append]

/-- However a keeper is used after its start, and whatever becomes of its lines: it attempts
one line at first and one for each request that delivers, in that order, and each is the mode
of the switches at that moment.  The sink is handed these lines and no others.  The answers
are the ones that these switches give, and each switch is as it read when it was announced
last, or else when it was loaded.  A change is an announcement and, exactly when that is a
gesture's, a delivery.  Other outcomes of the deliveries change neither switches nor answers
nor lines. -/
theorem attempted_lines_follow_requests (prefs : P) (sink : W) (turns : List (KeeperTurn P W)) :
    let begun := start prefs sink
    let ended := begun.value.run turns
    let requests := turns.map KeeperTurn.request
    let known := KeeperRequest.after (KnownSwitches.loaded prefs)
    Event.lines (begun.events ++ ended.events) =
        ((requests.inits.filter KeeperRequest.endInDelivery).map fun earlier =>
          (known earlier).switches.encode.line) ∧
      ended.value.1.keeper.sink =
        received (.loaded prefs) (LineSink.deliver sink (Switches.load prefs).encode.line).1 turns ∧
      ended.value.1.known = known requests ∧
      ended.value.2.length = requests.length ∧
      (∀ (n : Nat) (request : KeeperRequest P), requests[n]? = some request →
        ended.value.2[n]? = some (request.answer (known (requests.take (n + 1))))) ∧
      (∀ earlier : List (KeeperRequest P),
        (known earlier).switches.encode.StandsFor (known earlier).switches.isOn) ∧
      (∀ (earlier : List (KeeperRequest P)) (gesture : Gesture),
        (∀ (before later : List (KeeperRequest P)) (request : KeeperRequest P),
          earlier = before ++ request :: later → request.Rereads gesture →
            (∀ next ∈ later, ¬ next.Rereads gesture) →
              (known earlier).switches.isOn gesture =
                isOn (known before).prefs gesture.key) ∧
        ((∀ request ∈ earlier, ¬ request.Rereads gesture) →
          (known earlier).switches.isOn gesture = isOn prefs gesture.key)) ∧
      (∀ key : String,
        let keeper := ended.value.1.keeper
        let announced := keeper.announce ended.value.1.prefs key
        let delivered := announced.1.deliver
        (announced.2 = true ↔ ∃ gesture : Gesture, key = gesture.key) ∧
          keeper.change ended.value.1.prefs key =
            if announced.2 then ⟨(delivered.value.1, some delivered.value.2), delivered.events⟩
            else ⟨(announced.1, none), []⟩) ∧
      ∀ (V : Type) [LineSink V] (other : V) (others : List (KeeperTurn P V)),
        others.map KeeperTurn.request = requests →
          let otherBegun : Traced (Kept P V) := start prefs other
          let otherEnded := otherBegun.value.run others
          otherEnded.value.1.known = ended.value.1.known ∧
            otherEnded.value.2 = ended.value.2 ∧
            Event.lines (otherBegun.events ++ otherEnded.events) =
              Event.lines (begun.events ++ ended.events) := by
  intro begun ended requests known
  have begunKnown : begun.value.known = KnownSwitches.loaded prefs := known_start prefs sink
  obtain ⟨endedKnown, answers⟩ := begun.value.value_run turns
  rw [begunKnown] at endedKnown answers
  have handed := begun.value.sink_run turns
  rw [begunKnown, sink_start] at handed
  refine ⟨lines_start_run prefs sink turns, handed, endedKnown, ?_, ?_, ?_, ?_, ?_, ?_⟩
  · exact (congrArg List.length answers).trans (KeeperRequest.length_answers _ requests)
  · intro n request asked
    have answered := KeeperRequest.getElem?_answers (KnownSwitches.loaded prefs) requests n request
      asked
    rw [← answers] at answered
    exact answered
  · intro earlier
    exact (known earlier).switches.standsFor_encode
  · intro earlier gesture
    constructor
    · rintro before later request rfl rereads latest
      exact KeeperRequest.isOn_after_of_latest _ before later request gesture rereads latest
    · intro unread
      exact (KeeperRequest.isOn_after_of_not_rereads _ earlier gesture unread).trans
        (Switches.isOn_load prefs gesture)
  · intro key keeper announced delivered
    have ofGesture : announced.2 = Gesture.owns key := keeper.announce_snd ended.value.1.prefs key
    refine ⟨by rw [ofGesture, Gesture.owns_iff], ?_⟩
    cases noticed : announced.2 with
    | true => exact keeper.change_of_announced ended.value.1.prefs key noticed
    | false => exact keeper.change_of_not_announced ended.value.1.prefs key noticed
  · intro V _ other others same otherBegun otherEnded
    have otherBegunKnown : otherBegun.value.known = KnownSwitches.loaded prefs :=
      known_start prefs other
    obtain ⟨otherKnown, otherAnswers⟩ := otherBegun.value.value_run others
    rw [otherBegunKnown, same] at otherKnown otherAnswers
    refine ⟨otherKnown.trans endedKnown.symm, otherAnswers.trans answers.symm, ?_⟩
    rw [lines_start_run prefs sink turns, lines_start_run prefs other others, same]

/-- Gesture C is switched on, announced and delivered while the sink refuses.  Later gesture V
follows, behind the umbrella switch. -/
def refusedAtFirst : List (KeeperTurn MemoryPreferences Recorder) :=
  [⟨fun recorder => { recorder with refuses := true },
      .edit fun prefs => prefs.insert Gesture.c.key true⟩,
    ⟨id, .announce Gesture.c.key⟩, ⟨id, .deliver⟩,
    ⟨fun recorder => { recorder with refuses := false }, .change Key.control⟩,
    ⟨id, .edit fun prefs => prefs.insert Gesture.v.key true⟩, ⟨id, .change Gesture.v.key⟩]

def neverRefused : List (KeeperTurn MemoryPreferences Recorder) :=
  refusedAtFirst.map fun turn => ⟨id, turn.request⟩

/-- The line of gesture C was attempted once, is missing at the sink, and matters to nothing
else. -/
theorem attempted_lines_follow_requests_refusedAtFirst :
    let begun : Traced (Kept MemoryPreferences Recorder) := start ⟨[]⟩ ⟨false, []⟩
    let ended := begun.value.run refusedAtFirst
    let other := begun.value.run neverRefused
    Event.lines (begun.events ++ ended.events) = ["0000000", "1000100", "1000101"] ∧
      ended.value.1.keeper.sink.lines = ["0000000", "1000101"] ∧
      ended.value.2[3]? = some (.changed none) ∧
      (KeeperRequest.after (.loaded (⟨[]⟩ : MemoryPreferences))
        (refusedAtFirst.map KeeperTurn.request)).switches.isOn .c = true ∧
      other.value.1.known = ended.value.1.known ∧ other.value.2 = ended.value.2 := by
  intro begun ended other
  obtain ⟨lines, handed, -, -, answers, -, readings, -, alike⟩ :=
    attempted_lines_follow_requests (⟨[]⟩ : MemoryPreferences) (⟨false, []⟩ : Recorder)
      refusedAtFirst
  obtain ⟨known, sameAnswers, -⟩ := alike Recorder ⟨false, []⟩ neverRefused rfl
  refine ⟨lines.trans (by decide +kernel),
    (congrArg Recorder.lines handed).trans (by decide +kernel), ?_, ?_, known, sameAnswers⟩
  · exact (answers 3 _ rfl).trans (by decide +kernel)
  · refine ((readings _ .c).1 ((refusedAtFirst.take 1).map KeeperTurn.request)
      ((refusedAtFirst.drop 2).map KeeperTurn.request) (.announce Gesture.c.key) rfl rfl
      ?_).trans (by decide +kernel)
    intro next member
    simp only [refusedAtFirst, List.drop_succ_cons, List.drop_zero, List.map_cons, List.map_nil,
      List.mem_cons, List.not_mem_nil, or_false] at member
    rcases member with rfl | rfl | rfl | rfl
    · exact id
    · exact (by decide : Key.control ≠ Gesture.c.key)
    · exact id
    · exact (by decide : Gesture.v.key ≠ Gesture.c.key)

end Kept

end GestureMode
