import GestureMode.Proofs.Calls

/-!
# What is reported of failures

An operation that fails leaves an entry in the log.  Which operations there are, and what
becomes of them, is determined by what provider, store and sink answer.  While the service
starts, whatever fails to bring the switches in line with the host ends that attempt and is
warned of, and a refused line is an error.  In a tick, the entries at the level of errors are
those of the refused operations, one for each and in their order.  So the log tells every
failure once, whether debug entries are shown or not.
-/

set_option autoImplicit false

namespace GestureMode

open PreferenceStore

namespace Event

/-- The texts that a logger shows at a priority of the device log. -/
def shown (debug : Bool) (level : Level) (events : List Event) : List String :=
  ((records (Threshold.ofDebug debug) events).filter fun record =>
    record.priority == level.priority).map Record.text

def texts (level : Level) (events : List Event) : List String :=
  ((entries events).filter fun entry => decide (entry.level = level)).map Entry.text

@[simp]
theorem texts_append (level : Level) (a b : List Event) :
    texts level (a ++ b) = texts level a ++ texts level b := by
  simp [texts]

/-- Warnings and errors are shown at either setting of the debug switch, and share their
priority with no other level. -/
theorem shown_eq_texts (debug : Bool) (level : Level) (events : List Event)
    (urgent : level = .error ∨ level = .warn)
    (clean : ∀ entry ∈ entries events, Text.hasNul entry.text = false) :
    shown debug level events = texts level events := by
  rw [shown, texts, records]
  generalize entries events = listed at clean
  induction listed with
  | nil => rfl
  | cons entry rest ih =>
    obtain ⟨entryLevel, text⟩ := entry
    obtain ⟨cleanText, cleanRest⟩ := List.forall_mem_cons.mp clean
    have tail := ih cleanRest
    have record : (Entry.mk entryLevel text).record? (Threshold.ofDebug debug) =
        if (Threshold.ofDebug debug).admits entryLevel then
          some ⟨entryLevel.priority, Record.defaultTag, "%s", text⟩ else none := by
      rw [Entry.record?, Record.ofText?, cleanText, if_neg Bool.false_ne_true]
    rw [List.filterMap_cons, record]
    rcases urgent with rfl | rfl <;> cases debug <;> cases entryLevel <;>
      simpa [Threshold.ofDebug, Threshold.admits, Threshold.rank, Level.rank, Level.priority]
        using tail

def Muted (events : List Event) : Prop :=
  ∀ entry ∈ entries events, entry.level = .debug

theorem Muted.append {a b : List Event} (first : Muted a) (second : Muted b) :
    Muted (a ++ b) := by
  intro entry member
  rw [entries_append] at member
  rcases List.mem_append.mp member with left | right
  · exact first entry left
  · exact second entry right

theorem Muted.texts {events : List Event} (muted : Muted events) (level : Level)
    (urgent : level ≠ .debug) : texts level events = [] := by
  rw [Event.texts, List.filter_eq_nil_iff.mpr]
  · rfl
  · intro entry member
    rw [muted entry member]
    simpa using urgent.symm

def isOperation : Event → Bool
  | line _ _ | read _ _ | write _ _ _ | store _ _ _ => true
  | note _ => false

def operations (events : List Event) : List Event :=
  events.filter isOperation

@[simp]
theorem operations_append (a b : List Event) :
    operations (a ++ b) = operations a ++ operations b :=
  List.filter_append a b

def failure? : Event → Option Failure
  | line _ refusal | write _ _ refusal | store _ _ refusal => refusal
  | read _ (.error failure) => some failure
  | read _ (.ok _) | note _ => none

/-- The error that a refused operation is reported with: a setting by what it stands for and
the value it should have had, a preference by its key, and a line by its text. -/
def complaint? : Event → Option String
  | write setting value (some failure) =>
    let on := value != 0
    let reason := failure.message
    if setting = .doze then some s!"[Panel] Could not set doze to {on}: {reason}"
    else some s!"[Panel] Could not set haptic feedback to {on}: {reason}"
  | store key _ (some failure) =>
    let reason := failure.message
    some s!"[Service] Could not restore {key}: {reason}"
  | line text (some failure) =>
    let reason := failure.message
    some s!"[GestureSync] Could not write gesture mode {text}: {reason}"
  | line _ none | write _ _ none | store _ _ none | read _ _ | note _ => none

theorem filterMap_operations (events : List Event) :
    (operations events).filterMap complaint? = events.filterMap complaint? ∧
      (operations events).filterMap failure? = events.filterMap failure? := by
  rw [operations, List.filterMap_filter, List.filterMap_filter]
  constructor
  · congr 1
    funext event
    cases event <;> rfl
  · congr 1
    funext event
    cases event <;> rfl

theorem isSome_complaint? (event : Event)
    (notRead : ∀ (setting : Setting) (result : Except Failure (Option Int32)),
      event ≠ .read setting result) :
    event.complaint?.isSome = event.failure?.isSome := by
  cases event with
  | note entry => rfl
  | read setting result => exact absurd rfl (notRead setting result)
  | line text refusal => cases refusal <;> rfl
  | store key value refusal => cases refusal <;> rfl
  | write setting value refusal =>
    cases refusal with
    | none => rfl
    | some failure =>
      rw [complaint?]
      split <;> rfl

theorem length_filterMap_complaint? (events : List Event)
    (notRead : ∀ (setting : Setting) (result : Except Failure (Option Int32)),
      .read setting result ∉ events) :
    (events.filterMap complaint?).length = (events.filterMap failure?).length := by
  rw [List.length_filterMap_eq_countP, List.length_filterMap_eq_countP]
  apply List.countP_congr
  intro event member
  rw [isSome_complaint? event]
  rintro setting result rfl
  exact notRead setting result member

/-- The refused operations are those reported as errors, and nothing is warned of. -/
structure Reported (events : List Event) : Prop where
  errors : texts .error events = events.filterMap complaint?
  warnings : texts .warn events = []

theorem Reported.append {a b : List Event} (first : Reported a) (second : Reported b) :
    Reported (a ++ b) where
  errors := by rw [texts_append, first.errors, second.errors, List.filterMap_append]
  warnings := by rw [texts_append, first.warnings, second.warnings, List.append_nil]

end Event

namespace PreferenceStore

def refusal? {P : Type} [PreferenceStore P] (prefs : P) (key : String) (value : Bool) :
    Option Failure :=
  match put prefs key value with
  | .ok _ => none
  | .error failure => some failure

theorem replay_operations {P : Type} [PreferenceStore P] (prefs : P) (events : List Event) :
    replay prefs (Event.operations events) = replay prefs events := by
  induction events generalizing prefs with
  | nil => rfl
  | cons event rest ih =>
    cases event with
    | note entry => exact ih prefs
    | line | read | write | store => exact ih _

end PreferenceStore

namespace HostSwitch

section Answers

variable {P S : Type} [PreferenceStore P] [HostSettings S]

/-- What is done about a switch in a tick, with the answers of provider and store: if it
has changed, its reading is put to the provider, and if that refuses, the old one to the
store. -/
def pushed (switch : HostSwitch) (seen found : P) (host : S) : List Event :=
  if switch.reads found = switch.reads seen then []
  else
    let value := Setting.ofBool (switch.reads found)
    match (HostSettings.put host switch.setting value).2 with
    | none => [.write switch.setting value none]
    | some failure =>
      [.write switch.setting value (some failure),
        .store switch.key (switch.reads seen) (refusal? found switch.key (switch.reads seen))]

/-- The ambient switch first: the haptic one finds what provider and store are by then. -/
def pushedBoth (seen found : P) (host : S) : List Event :=
  let first := ambient.pushed seen found host
  first ++ haptic.pushed seen (replay found first)
    (HostSettings.putAll host (ambient.asked seen found)).1

/-- What is done about a switch at the start, with the answers of provider and store: its
setting is read, and the value put to the store. -/
def pulled (switch : HostSwitch) (prefs : P) (host : S) : List Event :=
  let result := (HostSettings.get host switch.setting).result
  .read switch.setting result ::
    match result with
    | .error _ => []
    | .ok value =>
      [.store switch.key (Setting.isOnValue value)
        (refusal? prefs switch.key (Setting.isOnValue value))]

/-- The haptic switch follows unless something failed with the ambient one. -/
def pulledBoth (prefs : P) (host : S) : List Event :=
  let first := ambient.pulled prefs host
  if first.filterMap Event.failure? = [] then
    first ++ haptic.pulled (replay prefs first) (HostSettings.get host .doze).host
  else first

end Answers

end HostSwitch

namespace Service

variable {P W S : Type}

theorem Follows.reported [PreferenceStore P] [HostSettings S] {seen : P} {switch : HostSwitch}
    {service after : Service P W S} {events : List Event}
    (follows : Follows seen switch service after events) :
    Event.Reported events ∧
      Event.operations events = switch.pushed seen service.prefs service.panel.host := by
  have changed (value : Bool) : ¬ value = !value := by simp
  cases follows with
  | unchanged same =>
    refine ⟨⟨rfl, rfl⟩, ?_⟩
    rw [HostSwitch.pushed, if_pos same]
    rfl
  | accepted value found before host taken =>
    refine ⟨⟨rfl, rfl⟩, ?_⟩
    simp only [HostSwitch.pushed, found, before, if_neg (changed value), taken]
    rfl
  | restored value found before host failure refused after stored =>
    refine ⟨⟨?_, rfl⟩, ?_⟩
    · cases switch <;> cases value <;> rfl
    · simp only [HostSwitch.pushed, found, before, if_neg (changed value), refused, refusal?,
        stored]
      rfl
  | stuck value found before host failure refused refusal kept =>
    refine ⟨⟨?_, rfl⟩, ?_⟩
    · cases switch <;> cases value <;> rfl
    · simp only [HostSwitch.pushed, found, before, if_neg (changed value), refused, refusal?,
        kept]
      rfl

theorem FollowsBoth.reported [LawfulPreferenceStore P] [HostSettings S] {seen : P}
    {service after : Service P W S} {events : List Event}
    (follows : FollowsBoth seen service after events) :
    Event.Reported events ∧ Event.operations events =
      HostSwitch.pushedBoth seen service.prefs service.panel.host := by
  obtain ⟨middle, first, second, ambient, haptic, rfl⟩ := follows
  obtain ⟨firstReported, firstPushed⟩ := ambient.reported
  obtain ⟨secondReported, secondPushed⟩ := haptic.reported
  have stored : replay service.prefs (Event.operations first) = middle.prefs := by
    rw [replay_operations]
    exact ambient.aside.stored
  refine ⟨firstReported.append secondReported, ?_⟩
  rw [HostSwitch.pushedBoth, ← firstPushed, stored, ambient.putAll, ← secondPushed,
    Event.operations_append]

end Service

/-! ## The tick -/

theorem Keeper.reported_deliver {W : Type} [LineSink W] (keeper : Keeper W) :
    Event.Reported keeper.deliver.events ∧
      Event.operations keeper.deliver.events =
        [.line keeper.switches.encode.line
          (LineSink.deliver keeper.sink keeper.switches.encode.line).2] := by
  simp only [events_deliver]
  cases (LineSink.deliver keeper.sink keeper.switches.encode.line).2 with
  | none => exact ⟨⟨rfl, rfl⟩, rfl⟩
  | some failure => exact ⟨⟨rfl, rfl⟩, rfl⟩

namespace Service

/-- The operations of a settled update, and what they leave of the sink: one line at most, with
the answer of the sink. -/
def Settles {W : Type} [LineSink W] (sink last : W) (operations : List Event) : Prop :=
  (operations = [] ∧ last = sink) ∨
    ∃ text : String, operations = [.line text (LineSink.deliver sink text).2] ∧
      last = (LineSink.deliver sink text).1

theorem reported_settle {P W S : Type} [LineSink W] (service : Service P W S) (now : Instant) :
    Event.Reported (service.settle now).events ∧
      Settles service.keeper.sink (service.settle now).value.keeper.sink
        (Event.operations (service.settle now).events) := by
  rw [settle_eq]
  cases (service.panel.update.fire now).2 with
  | false => exact ⟨⟨rfl, rfl⟩, .inl ⟨rfl, rfl⟩⟩
  | true =>
    obtain ⟨reported, line⟩ := service.keeper.reported_deliver
    exact ⟨reported, .inr ⟨_, line, service.keeper.sink_deliver⟩⟩

theorem reported_of_changeNotes (events : List Event)
    (notes : ∀ event ∈ events, ∃ (key : String) (value : Bool), event = changeNote key value) :
    Event.Reported events ∧ Event.operations events = [] := by
  induction events with
  | nil => exact ⟨⟨rfl, rfl⟩, rfl⟩
  | cons event rest ih =>
    obtain ⟨note, others⟩ := List.forall_mem_cons.mp notes
    obtain ⟨key, value, rfl⟩ := note
    obtain ⟨reported, idle⟩ := ih others
    exact ⟨Event.Reported.append (a := [changeNote key value]) ⟨rfl, rfl⟩ reported, idle⟩

variable {P W S : Type} [LawfulPreferenceStore P] [LineSink W] [HostSettings S]

def Operates (service last : Service P W S) (seen : P) (operations : List Event) : Prop :=
  ∃ delivered : List Event, Settles service.keeper.sink last.keeper.sink delivered ∧
    operations = HostSwitch.pushedBoth seen service.prefs service.panel.host ++ delivered

theorem reported_tick (service : Service P W S) (seen : P) (now : Instant)
    (agreed : service.snapshot = Snapshot.take Key.watched seen) :
    let answer := service.tick now
    Event.Reported answer.events ∧
      (answer.value.2 = none →
        service.Operates answer.value.1 seen (Event.operations answer.events)) ∧
      (answer.value.2 ≠ none → Event.operations answer.events = [] ∧
        answer.value.1.keeper.sink = service.keeper.sink) := by
  intro answer
  cases requested : service.panel.update.request now
      (decide (GesturesDiffer seen service.prefs)) with
  | ok asked =>
    obtain ⟨after, events, follows, ticked⟩ :=
      service.tick_of_requested seen now agreed asked requested
    obtain ⟨noted, idle⟩ := reported_of_changeNotes (changeNotes seen service.prefs)
      (eq_changeNote_of_mem_changeNotes seen service.prefs)
    obtain ⟨reported, pushed⟩ := follows.reported
    obtain ⟨settleReported, settles⟩ := after.reported_settle now
    have completed : answer = _ := ticked
    rw [sink_of_gestured follows] at settles
    rw [completed]
    refine ⟨(noted.append reported).append settleReported, ?_, ?_⟩
    · intro _
      refine ⟨_, settles, ?_⟩
      rw [Event.operations_append, Event.operations_append, idle, pushed, List.nil_append]
      rfl
    · intro stopped
      exact absurd rfl stopped
  | error fault =>
    obtain ⟨noted, idle⟩ := reported_of_changeNotes answer.events
      (service.changeNotes_of_overflow seen now agreed fault requested)
    have stopped : answer = _ := service.tick_of_overflow seen now agreed fault requested
    refine ⟨noted, ?_, fun _ => ⟨idle, ?_⟩⟩
    · intro completed
      rw [stopped] at completed
      cases completed
    · rw [stopped]
      rfl

end Service

/-! ## The start -/

namespace HostSettings

variable {S : Type} [HostSettings S]

theorem muted_readFlag (host : S) (setting : Setting) :
    Event.Muted (readFlag host setting).events := by
  intro entry member
  obtain ⟨event, listed, same⟩ := List.mem_filterMap.mp member
  rw [events_readFlag] at listed
  rcases List.mem_append.mp listed with remark | read
  · obtain ⟨text, -, rfl⟩ := List.mem_map.mp remark
    cases same
    rfl
  · rw [List.mem_singleton.mp read] at same
    cases same

theorem operations_readFlag (host : S) (setting : Setting) :
    Event.operations (readFlag host setting).events =
      [.read setting (get host setting).result] := by
  have remarked : Event.operations ((get host setting).remarks.map fun text =>
      Event.note ⟨.debug, text⟩) = [] := by
    apply List.filter_eq_nil_iff.mpr
    intro event member
    obtain ⟨text, -, rfl⟩ := List.mem_map.mp member
    exact Bool.false_ne_true
  rw [events_readFlag, Event.operations_append, remarked, List.nil_append]
  rfl

end HostSettings

namespace Panel

variable {P S : Type} [PreferenceStore P] [HostSettings S]

/-- The failure that mirroring ends with is the one failure on the way, and it is not
logged yet. -/
theorem Mirrors.failures {switch : HostSwitch} {panel after : Panel S} {prefs last : P}
    {failure : Option Failure} {events : List Event}
    (mirrors : Mirrors switch panel prefs after last failure events) :
    Event.Muted events ∧ Event.operations events = switch.pulled prefs panel.host ∧
      (switch.pulled prefs panel.host).filterMap Event.failure? = failure.toList := by
  have muted := HostSettings.muted_readFlag panel.host switch.setting
  have read := HostSettings.operations_readFlag panel.host switch.setting
  have stored (value : Bool) (refusal : Option Failure) :
      Event.Muted [.store switch.key value refusal] := by
    intro entry impossible
    cases impossible
  cases mirrors with
  | unread failure failed =>
    rw [HostSwitch.pulled, failed]
    rw [failed] at read
    exact ⟨muted, read, rfl⟩
  | refused value succeeded failure kept =>
    simp only [HostSwitch.pulled, succeeded, refusal?, kept]
    rw [succeeded] at read
    rw [Event.operations_append, read]
    exact ⟨muted.append (stored _ _), rfl, rfl⟩
  | mirrored value succeeded after accepted =>
    simp only [HostSwitch.pulled, succeeded, refusal?, accepted]
    rw [succeeded] at read
    rw [Event.operations_append, read]
    exact ⟨muted.append (stored _ _), rfl, rfl⟩

theorem Resumes.failures {panel after : Panel S} {prefs last : P} {failure : Option Failure}
    {events : List Event} (resumes : Resumes panel prefs after last failure events) :
    Event.Muted events ∧ Event.operations events = HostSwitch.pulledBoth prefs panel.host ∧
      (HostSwitch.pulledBoth prefs panel.host).filterMap Event.failure? = failure.toList := by
  cases resumes with
  | stopped middle stored failure events first =>
    obtain ⟨muted, pulled, failed⟩ := first.failures
    rw [HostSwitch.pulledBoth, if_neg (by rw [failed]; exact List.cons_ne_nil failure [])]
    exact ⟨muted, pulled, failed⟩
  | finished middle after stored last failure events later doze haptic first second =>
    obtain ⟨firstMuted, firstPulled, succeeded⟩ := first.failures
    obtain ⟨secondMuted, secondPulled, failed⟩ := second.failures
    have found : replay prefs (HostSwitch.ambient.pulled prefs panel.host) = stored := by
      rw [← firstPulled, replay_operations]
      exact first.resumed.stored
    have host : middle.host = (HostSettings.get panel.host .doze).host := first.host
    have noted : Event.Muted (if failure.isNone then [resumeNote doze haptic] else []) ∧
        Event.operations (if failure.isNone then [resumeNote doze haptic] else []) = [] := by
      cases failure with
      | none =>
        refine ⟨?_, rfl⟩
        intro entry member
        rw [List.mem_singleton.mp member]
      | some failure =>
        refine ⟨?_, rfl⟩
        intro entry impossible
        cases impossible
    rw [Option.toList_none] at succeeded
    rw [HostSwitch.pulledBoth, if_pos succeeded, found, ← host]
    refine ⟨firstMuted.append (secondMuted.append noted.1), ?_, ?_⟩
    · rw [Event.operations_append, Event.operations_append, firstPulled, secondPulled, noted.2,
        List.append_nil]
    · rw [List.filterMap_append, succeeded, failed]
      rfl

end Panel

namespace Service

variable {P W S : Type} [PreferenceStore P] [LineSink W] [HostSettings S]

/-- The first mode is handed over behind all that brings the switches in line, and only a
failure there is warned of. -/
theorem reported_start (prefs : P) (sink : W) (host : S) (debounce : Span) :
    let answer := start prefs sink host debounce
    let failure := ((Panel.ofHost host debounce).resume prefs).value.2
    (HostSwitch.pulledBoth prefs host).filterMap Event.failure? = failure.toList ∧
      ∃ text : String,
        let line := Event.line text (LineSink.deliver sink text).2
        answer.value.keeper.sink = (LineSink.deliver sink text).1 ∧
          Event.operations answer.events = HostSwitch.pulledBoth prefs host ++ [line] ∧
          Event.texts .warn answer.events = failure.toList.map (fun failure =>
            "[Service] Could not mirror host settings: " ++ failure.message) ∧
          Event.texts .error answer.events = [line].filterMap Event.complaint? := by
  obtain ⟨panel, last, failure, events, answer, resumes⟩ :=
    (Panel.ofHost host debounce).exists_resumes prefs
  obtain ⟨muted, pulled, failed⟩ := resumes.failures
  let keeper : Keeper W := ⟨Switches.load last, sink⟩
  obtain ⟨reported, line⟩ := keeper.reported_deliver
  rw [start_eq prefs last sink host debounce panel failure events answer, answer]
  have quiet : Event.operations (failure.map warning).toList = [] := by
    cases failure <;> rfl
  have warned : Event.texts .warn (failure.map warning).toList =
      failure.toList.map fun failure =>
        "[Service] Could not mirror host settings: " ++ failure.message := by
    cases failure <;> rfl
  have noError : Event.texts .error (failure.map warning).toList = [] := by
    cases failure <;> rfl
  refine ⟨failed, keeper.switches.encode.line, keeper.sink_deliver, ?_, ?_, ?_⟩
  · rw [Event.operations_append, Event.operations_append, quiet, line, pulled, List.nil_append]
    rfl
  · rw [Event.texts_append, Event.texts_append, muted.texts .warn (by decide), warned,
      reported.warnings, List.append_nil, List.nil_append]
  · rw [Event.texts_append, Event.texts_append, muted.texts .error (by decide), noError,
      reported.errors, ← (Event.filterMap_operations keeper.deliver.events).1, line,
      List.nil_append, List.nil_append]

end Service

/-! ## Courses -/

namespace Course

variable {P W S : Type}

theorem mem_trace [PreferenceStore P] [LineSink W] [HostSettings S] (course : Course P W S)
    (m n : Nat) (le : m ≤ n) (event : Event) (member : event ∈ course.events m) :
    event ∈ course.trace n := by
  induction n with
  | zero =>
    rw [Nat.le_zero.mp le] at member
    exact member
  | succ n ih =>
    rw [trace, List.mem_append]
    by_cases last : m = n + 1
    · rw [last] at member
      exact .inr member
    · exact .inl (ih (by omega))

variable [LawfulPreferenceStore P] [LineSink W] [HostSettings S]

theorem reported_tick (course : Course P W S) (n : Nat) :
    Event.Reported (course.events (n + 1)) ∧
      ((course.tick n).value.2 = none →
        (course.opened n).Operates (course.after (n + 1)) (course.after n).prefs
          (Event.operations (course.events (n + 1)))) ∧
      ((course.tick n).value.2 ≠ none → Event.operations (course.events (n + 1)) = [] ∧
        (course.after (n + 1)).keeper.sink = (course.opened n).keeper.sink) :=
  (course.opened n).reported_tick (course.after n).prefs (course.turn n).now
    (course.snapshot_after n)

theorem texts_trace (course : Course P W S) (n : Nat) :
    Event.texts .warn (course.trace n) = Event.texts .warn (course.events 0) ∧
      (Event.texts .warn (course.trace n)).length + (Event.texts .error (course.trace n)).length =
        ((course.trace n).filterMap Event.failure?).length := by
  induction n with
  | zero =>
    refine ⟨rfl, ?_⟩
    obtain ⟨failures, text, -, operations, warnings, errors⟩ :=
      Service.reported_start course.prefs course.sink course.host course.debounce
    have failed : (course.trace 0).filterMap Event.failure? = _ :=
      (Event.filterMap_operations course.start.events).2.symm
    have complaints := Event.length_filterMap_complaint?
      [.line text (LineSink.deliver course.sink text).2] (by simp)
    rw [failed, start, operations, List.filterMap_append, List.length_append, failures, trace,
      events, start, warnings, errors, List.length_map, complaints]
  | succ n ih =>
    obtain ⟨warnings, counted⟩ := ih
    obtain ⟨errors, quiet⟩ := (course.reported_tick n).1
    have complaints := Event.length_filterMap_complaint? (course.events (n + 1))
      (course.not_read_tick n)
    rw [trace, Event.texts_append, Event.texts_append, quiet, List.append_nil, errors,
      List.length_append, List.filterMap_append, List.length_append, ← counted, complaints]
    exact ⟨warnings, by omega⟩

/-- The errors shown of one stretch of a trace without zero bytes. -/
theorem shown_events (course : Course P W S) (m n : Nat) (le : m ≤ n) (debug : Bool)
    (clean : ∀ entry ∈ Event.entries (course.trace n), Text.hasNul entry.text = false) :
    Event.shown debug .error (course.events m) = Event.texts .error (course.events m) := by
  apply Event.shown_eq_texts debug .error _ (.inl rfl)
  intro entry member
  obtain ⟨event, listed, same⟩ := List.mem_filterMap.mp member
  exact clean entry (List.mem_filterMap.mpr ⟨event, course.mem_trace m n le event listed, same⟩)

/-- Whether debug entries are shown or not, there is one warning if the start could not bring
the switches in line with the host, which names the failure, and no other.  The start hands
over a first line behind that, and has one error if the sink refuses it.  A tick that completes
puts the ambient switch and the haptic one to the provider, and hands over a due line, in this
order.  Its errors are those of the operations that provider, store and sink refused: that of a
setting, that of the old value if the store refused it, and that of the line.  A tick that stops
has neither operations nor errors.  Either leaves provider and sink as its operations leave them.
So there are as many warnings and errors as failures. -/
theorem failures_logged_once (course : Course P W S) (n : Nat) (debug : Bool)
    (clean : ∀ entry ∈ Event.entries (course.trace n), Text.hasNul entry.text = false) :
    let pulled := HostSwitch.pulledBoth course.prefs course.host
    let failure := ((Panel.ofHost course.host course.debounce).resume course.prefs).value.2
    let warnings := Event.shown debug .warn (course.trace n)
    let errors (m : Nat) := Event.shown debug .error (course.events m)
    pulled.filterMap Event.failure? = failure.toList ∧
      warnings = failure.toList.map (fun failure =>
        "[Service] Could not mirror host settings: " ++ failure.message) ∧
      (∃ text : String,
        let line := Event.line text (LineSink.deliver course.sink text).2
        (course.after 0).keeper.sink = (LineSink.deliver course.sink text).1 ∧
          Event.operations (course.events 0) = pulled ++ [line] ∧
          errors 0 = [line].filterMap Event.complaint?) ∧
      (∀ m < n,
        let service := course.opened m
        let left := course.after (m + 1)
        let pushed :=
          HostSwitch.pushedBoth (course.after m).prefs service.prefs service.panel.host
        ((course.tick m).value.2 = none →
          left.panel.host = (HostSettings.putAll service.panel.host (course.asked m)).1 ∧
            ∃ delivered : List Event,
              ((delivered = [] ∧ left.keeper.sink = service.keeper.sink) ∨ ∃ text : String,
                delivered = [.line text (LineSink.deliver service.keeper.sink text).2] ∧
                  left.keeper.sink = (LineSink.deliver service.keeper.sink text).1) ∧
              Event.operations (course.events (m + 1)) = pushed ++ delivered ∧
              errors (m + 1) = (pushed ++ delivered).filterMap Event.complaint?) ∧
        ((course.tick m).value.2 ≠ none →
          left.panel.host = service.panel.host ∧ left.keeper.sink = service.keeper.sink ∧
            Event.operations (course.events (m + 1)) = [] ∧ errors (m + 1) = [])) ∧
      warnings.length + (Event.shown debug .error (course.trace n)).length =
        ((course.trace n).filterMap Event.failure?).length := by
  intro pulled failure warnings errors
  have warningTexts : warnings = Event.texts .warn (course.trace n) :=
    Event.shown_eq_texts debug .warn _ (.inr rfl) clean
  have errorOf (m : Nat) (before : m < n) :
      errors (m + 1) = (Event.operations (course.events (m + 1))).filterMap Event.complaint? := by
    change Event.shown debug .error (course.events (m + 1)) = _
    rw [course.shown_events (m + 1) n (by omega) debug clean, (course.reported_tick m).1.errors,
      (Event.filterMap_operations _).1]
  obtain ⟨warned, counted⟩ := course.texts_trace n
  obtain ⟨failed, text, taken, operations, started, startErrors⟩ :=
    Service.reported_start course.prefs course.sink course.host course.debounce
  refine ⟨failed, ?_, ⟨text, taken, operations, ?_⟩, ?_, ?_⟩
  · exact (warningTexts.trans warned).trans started
  · exact (course.shown_events 0 n (Nat.zero_le n) debug clean).trans startErrors
  · intro m before service left pushed
    have put := congrArg Prod.fst (course.putAll_tick m)
    obtain ⟨-, operates, idles⟩ := course.reported_tick m
    constructor
    · intro completed
      obtain ⟨delivered, settles, split⟩ := operates completed
      rw [if_pos completed] at put
      refine ⟨put.symm, delivered, settles, split, ?_⟩
      rw [errorOf m before, split]
    · intro stopped
      obtain ⟨idle, sink⟩ := idles stopped
      rw [if_neg stopped] at put
      exact ⟨put.symm, sink, idle, by rw [errorOf m before, idle, List.filterMap_nil]⟩
  · rw [warningTexts, Event.shown_eq_texts debug .error _ (.inl rfl) clean]
    exact counted

/-- Nothing works: the store keeps the ambient switch as it is, the host refuses every write
and the sink every line.  The ambient switch and gesture C are turned on before the first
tick. -/
def failing : Course PropertyPreferences Recorder SettingsTable where
  prefs := ⟨"", some ⟨[], .these [Key.ambient]⟩⟩
  sink := ⟨true, []⟩
  host := ⟨[], .every, .empty⟩
  debounce := Span.zero
  turn n :=
    { editPrefs := fun _ =>
        ⟨"", some ⟨[(Key.ambient, [0x31]), (Gesture.c.key, [0x31])], .these [Key.ambient]⟩⟩
      editHost := id
      editSink := id
      now := ⟨Span.ofMillis (100 * n)⟩ }

/-- The switch could not be mirrored, and neither the first line, nor the setting, nor the old
value, nor the second line is taken. -/
theorem failures_logged_once_failing :
    (∀ entry ∈ Event.entries (failing.trace 1), Text.hasNul entry.text = false) ∧
      (∃ text : String, Event.operations (failing.events 0) =
        [.read .doze (.ok none), .store Key.ambient true (some (.property Key.ambient)),
          .line text (some (.property "unreachable node"))]) ∧
      Event.shown false .warn (failing.trace 1) =
        ["[Service] Could not mirror host settings: " ++
          "property ambient_display_enable could not be set"] ∧
      (Event.shown false .warn (failing.trace 1)).length +
        (Event.shown false .error (failing.trace 1)).length = 5 := by
  have clean : ∀ entry ∈ Event.entries (failing.trace 1), Text.hasNul entry.text = false := by
    decide +kernel
  obtain ⟨-, warnings, ⟨text, -, operations, -⟩, -, counted⟩ :=
    failures_logged_once failing 1 false clean
  have pulled : HostSwitch.pulledBoth failing.prefs failing.host =
      [.read .doze (.ok none), .store Key.ambient true (some (.property Key.ambient))] := by
    decide +kernel
  refine ⟨clean, ⟨text, ?_⟩, ?_, ?_⟩
  · rw [operations, pulled]
    rfl
  · rw [warnings]
    decide +kernel
  · rw [counted]
    decide +kernel

end Course

end GestureMode
