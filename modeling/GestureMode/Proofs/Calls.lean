import GestureMode.Host.Command
import GestureMode.Proofs.Exchange

/-!
# What the host is asked

The provider is called for two reasons only.  The start reads the doze setting, and then the
haptic one unless the first switch could not be mirrored.  Behind the start nothing is read
any more, and every completed tick puts each changed switch to the host once, the ambient one
first, whatever the host and the store answer.  So there are as many puts as there are
changes.  When the settings are behind a command, each call is one run of it.
-/

set_option autoImplicit false

namespace GestureMode

open PreferenceStore

namespace HostSettings

variable {S : Type} [HostSettings S]

def putAll (host : S) : List (Setting × Int32) → S × List Event
  | [] => (host, [])
  | (setting, value) :: rest =>
    let (after, refusal) := put host setting value
    let (last, events) := putAll after rest
    (last, .write setting value refusal :: events)

theorem putAll_cons (host : S) (setting : Setting) (value : Int32)
    (rest : List (Setting × Int32)) :
    putAll host ((setting, value) :: rest) =
      ((putAll (put host setting value).1 rest).1,
        .write setting value (put host setting value).2 ::
          (putAll (put host setting value).1 rest).2) :=
  rfl

theorem putAll_append (host : S) (first second : List (Setting × Int32)) :
    putAll host (first ++ second) =
      ((putAll (putAll host first).1 second).1,
        (putAll host first).2 ++ (putAll (putAll host first).1 second).2) := by
  induction first generalizing host with
  | nil => rfl
  | cons entry rest ih =>
    obtain ⟨setting, value⟩ := entry
    rw [List.cons_append, putAll_cons, ih, putAll_cons]
    rfl

theorem exists_of_mem_putAll (host : S) (asked : List (Setting × Int32)) (event : Event)
    (member : event ∈ (putAll host asked).2) :
    ∃ (setting : Setting) (value : Int32) (refusal : Option Failure),
      (setting, value) ∈ asked ∧ event = .write setting value refusal := by
  induction asked generalizing host with
  | nil => cases member
  | cons entry rest ih =>
    obtain ⟨setting, value⟩ := entry
    rw [putAll_cons] at member
    rcases List.mem_cons.mp member with same | later
    · exact ⟨setting, value, _, List.mem_cons_self, same⟩
    · obtain ⟨other, new, refusal, listed, same⟩ := ih _ later
      exact ⟨other, new, refusal, List.mem_cons_of_mem _ listed, same⟩

end HostSettings

def Event.isPut (setting : Setting) : Event → Bool
  | write other _ _ => other == setting
  | note _ | line _ _ | read _ _ | store _ _ _ => false

theorem HostSettings.countP_putAll {S : Type} [HostSettings S] (host : S)
    (asked : List (Setting × Int32)) (setting : Setting) :
    (putAll host asked).2.countP (Event.isPut setting) =
      asked.countP fun entry => entry.1 == setting := by
  induction asked generalizing host with
  | nil => rfl
  | cons entry rest ih =>
    obtain ⟨other, value⟩ := entry
    rw [putAll_cons, List.countP_cons, List.countP_cons, ih]
    rfl

namespace HostSwitch

variable {P : Type} [PreferenceStore P]

/-- What the host is asked for a switch: to hold its reading, when that has changed. -/
def asked (switch : HostSwitch) (seen found : P) : List (Setting × Int32) :=
  if switch.reads found = switch.reads seen then []
  else [(switch.setting, Setting.ofBool (switch.reads found))]

theorem countP_asked (switch other : HostSwitch) (seen found : P) :
    (switch.asked seen found).countP (fun entry => entry.1 == other.setting) =
      if switch = other ∧ switch.reads found ≠ switch.reads seen then 1 else 0 := by
  have settings : (switch.setting == other.setting) = decide (switch = other) := by
    cases switch <;> cases other <;> rfl
  by_cases same : switch.reads found = switch.reads seen
  · rw [asked, if_pos same, if_neg fun both => both.2 same]
    rfl
  · rw [asked, if_neg same, List.countP_singleton, settings]
    by_cases equal : switch = other
    · rw [if_pos (decide_eq_true equal), if_pos ⟨equal, same⟩]
    · rw [if_neg (by simpa using equal), if_neg fun both => equal both.1]

end HostSwitch

namespace Service

section Handling

variable {P W S : Type} [PreferenceStore P] [HostSettings S]

theorem Follows.putAll {seen : P} {switch : HostSwitch} {service after : Service P W S}
    {events : List Event} (follows : Follows seen switch service after events) :
    HostSettings.putAll service.panel.host (switch.asked seen service.prefs) =
      (after.panel.host, Event.calls events) := by
  have asked (value : Bool) (found : switch.reads service.prefs = value)
      (before : switch.reads seen = !value) :
      switch.asked seen service.prefs = [(switch.setting, Setting.ofBool value)] := by
    rw [HostSwitch.asked, found, before, if_neg (by simp)]
  cases follows with
  | unchanged same =>
    rw [HostSwitch.asked, if_pos same]
    rfl
  | accepted value found before host taken =>
    rw [asked value found before, HostSettings.putAll_cons, taken, switch.host_adopt]
    rfl
  | restored value found before host failure refused
  | stuck value found before host failure refused =>
    rw [asked value found before, HostSettings.putAll_cons, refused]
    rfl

end Handling

variable {P W S : Type} [LawfulPreferenceStore P] [HostSettings S]

theorem FollowsBoth.putAll {seen : P} {service after : Service P W S} {events : List Event}
    (follows : FollowsBoth seen service after events) :
    HostSettings.putAll service.panel.host
        (HostSwitch.ambient.asked seen service.prefs ++
          HostSwitch.haptic.asked seen service.prefs) =
      (after.panel.host, Event.calls events) := by
  obtain ⟨middle, first, second, ambient, haptic, rfl⟩ := follows
  have untouched : HostSwitch.haptic.asked seen middle.prefs =
      HostSwitch.haptic.asked seen service.prefs := by
    rw [HostSwitch.asked, HostSwitch.asked,
      ambient.reads_of_ne HostSwitch.ambient_ne_haptic.symm]
  rw [HostSettings.putAll_append, ambient.putAll, ← untouched, haptic.putAll, Event.calls_append]

/-- A completed tick puts the changed switches to the host, and one that stops does not. -/
theorem putAll_tick [LineSink W] (service : Service P W S) (seen : P) (now : Instant)
    (agreed : service.snapshot = Snapshot.take Key.watched seen) :
    let answer := service.tick now
    HostSettings.putAll service.panel.host
        (if answer.value.2 = none then
          HostSwitch.ambient.asked seen service.prefs ++
            HostSwitch.haptic.asked seen service.prefs
        else []) =
      (answer.value.1.panel.host, Event.calls answer.events) := by
  intro answer
  cases requested : service.panel.update.request now
      (decide (GesturesDiffer seen service.prefs)) with
  | ok asked =>
    obtain ⟨after, events, follows, ticked⟩ :=
      service.tick_of_requested seen now agreed asked requested
    have completed : answer = _ := ticked
    have calls : Event.calls answer.events = Event.calls events := by
      rw [completed]
      exact Event.calls_of_dealings _ _ (dealings_around seen service.prefs events after now)
    have put : HostSettings.putAll service.panel.host _ = _ := follows.putAll
    rw [calls, completed, if_pos rfl, panel_settle]
    exact put
  | error fault =>
    have stopped : answer = _ := service.tick_of_overflow seen now agreed fault requested
    have silent : Event.calls answer.events = [] := by
      apply List.filter_eq_nil_iff.mpr
      intro event member
      obtain ⟨entry, rfl⟩ := service.notes_of_overflow seen now agreed fault requested event member
      exact Bool.false_ne_true
    rw [silent, stopped]
    rfl

end Service

namespace Panel

variable {P S : Type} [PreferenceStore P] [HostSettings S]

/-- The switch takes the value that its setting is read to have. -/
def CanMirror (switch : HostSwitch) (host : S) (prefs : P) : Prop :=
  ∃ (value : Option Int32) (after : P),
    (HostSettings.get host switch.setting).result = .ok value ∧
      PreferenceStore.put prefs switch.key (Setting.isOnValue value) = .ok after

theorem Mirrors.host {switch : HostSwitch} {panel after : Panel S} {prefs last : P}
    {failure : Option Failure} {events : List Event}
    (mirrors : Mirrors switch panel prefs after last failure events) :
    after.host = (HostSettings.get panel.host switch.setting).host := by
  cases mirrors with
  | unread | refused => rfl
  | mirrored => exact switch.host_adopt _ _ _

theorem Mirrors.calls {switch : HostSwitch} {panel after : Panel S} {prefs last : P}
    {failure : Option Failure} {events : List Event}
    (mirrors : Mirrors switch panel prefs after last failure events) :
    Event.calls events =
      [.read switch.setting (HostSettings.get panel.host switch.setting).result] := by
  have read := HostSettings.calls_readFlag panel.host switch.setting
  cases mirrors with
  | unread => exact read
  | refused | mirrored =>
    rw [Event.calls_append, read]
    rfl

theorem Mirrors.canMirror_iff {switch : HostSwitch} {panel after : Panel S} {prefs last : P}
    {failure : Option Failure} {events : List Event}
    (mirrors : Mirrors switch panel prefs after last failure events) :
    CanMirror switch panel.host prefs ↔ failure = none := by
  cases mirrors with
  | unread failure failed => simp [CanMirror, failed]
  | refused value read failure kept => simp [CanMirror, read, kept]
  | mirrored value read after stored => simp [CanMirror, read, stored]

/-- A panel that resumes reads the second setting when it has mirrored the first. -/
theorem Resumes.calls {panel after : Panel S} {prefs last : P} {failure : Option Failure}
    {events : List Event} (resumes : Resumes panel prefs after last failure events) :
    let doze := HostSettings.get panel.host .doze
    let haptic := HostSettings.get doze.host .haptic
    (CanMirror .ambient panel.host prefs ∧ after.host = haptic.host ∧
        Event.calls events = [.read .doze doze.result, .read .haptic haptic.result]) ∨
      (¬ CanMirror .ambient panel.host prefs ∧ after.host = doze.host ∧
        Event.calls events = [.read .doze doze.result]) := by
  intro doze haptic
  cases resumes with
  | stopped middle stored failure events first =>
    refine .inr ⟨?_, first.host, first.calls⟩
    rw [first.canMirror_iff]
    exact Option.some_ne_none failure
  | finished middle after stored last failure events later dozing on first second =>
    have noted : Event.calls (if failure.isNone then [resumeNote dozing on] else []) = [] :=
      Event.calls_of_dealings _ [] (dealings_resumeNote failure.isNone dozing on)
    have host := second.host
    have calls := second.calls
    rw [first.host] at host calls
    refine .inl ⟨first.canMirror_iff.mpr rfl, host, ?_⟩
    rw [Event.calls_append, Event.calls_append, noted, first.calls, calls]
    rfl

end Panel

/-! ## Runs of the settings command -/

/-- The run of the settings command that a call was, if the command could be started. -/
def Event.commandRun? : Event → Option (List String)
  | read _ (.error (.starting _)) | write _ _ (some (.starting _)) => none
  | read setting _ => some ["get", setting.scope.name, setting.key]
  | write setting value _ =>
    some ["put", setting.scope.name, setting.key, toString value.toInt]
  | note _ | line _ _ | store _ _ _ => none

theorem Event.commandRun?_read (setting : Setting) (result : Except Failure (Option Int32))
    (started : ∀ cause : Cause, result ≠ .error (.starting cause)) :
    (read setting result).commandRun? = some ["get", setting.scope.name, setting.key] := by
  rcases result with failure | value
  · cases failure with
    | starting cause => exact absurd rfl (started cause)
    | opening | writing | property | setting => rfl
  · rfl

theorem Event.commandRun?_write (setting : Setting) (value : Int32) (refusal : Option Failure)
    (started : ∀ cause : Cause, refusal ≠ some (.starting cause)) :
    (write setting value refusal).commandRun? =
      some ["put", setting.scope.name, setting.key, toString value.toInt] := by
  rcases refusal with _ | failure
  · rfl
  · cases failure with
    | starting cause => exact absurd rfl (started cause)
    | opening | writing | property | setting => rfl

namespace SettingsCommand

/-- The command ran and is there still; how the run ended does not matter. -/
def Ran (command : SettingsCommand) (action : String) (args : List String) : Prop :=
  ∃ (script : List CommandRun) (result : Except Failure String),
    command.run action args = (⟨some script, command.runs ++ [action :: args]⟩, result) ∧
      ∀ cause : Cause, result ≠ .error (.starting cause)

theorem ran_of_installed (command : SettingsCommand) (action : String) (args : List String)
    (clean : args.any Text.hasNul = false) (installed : command.script.isSome = true) :
    command.Ran action args := by
  obtain ⟨script, scripted⟩ := Option.isSome_iff_exists.mp installed
  refine ⟨script.tail, (script.headD .exhausted).result action args, ?_, ?_⟩
  · rw [run, clean, if_neg Bool.false_ne_true, scripted]
  · intro cause
    rw [CommandRun.result]
    split <;> simp

theorem run_of_not_ran (command : SettingsCommand) (action : String) (args : List String)
    (unable : ¬ command.Ran action args) :
    ∃ cause : Cause, command.run action args = (command, .error (.starting cause)) := by
  cases clean : args.any Text.hasNul with
  | true => exact ⟨_, by rw [run, if_pos clean]⟩
  | false =>
    cases missing : command.script with
    | none => exact ⟨_, by rw [run, clean, if_neg Bool.false_ne_true, missing]⟩
    | some script =>
      exact absurd (command.ran_of_installed action args clean (by rw [missing]; rfl)) unable

/-- Some calls were made of the command: each was a run, if the command could be started, and
a command that is there can be. -/
structure Called (command after : SettingsCommand) (calls : List Event) : Prop where
  runs : after.runs = command.runs ++ calls.filterMap Event.commandRun?
  installed : command.script.isSome = true →
    after.script.isSome = true ∧ ∀ call ∈ calls, call.commandRun?.isSome = true

theorem Called.refl (command : SettingsCommand) : command.Called command [] where
  runs := (List.append_nil _).symm
  installed there := ⟨there, fun _ impossible => by cases impossible⟩

theorem Called.trans {command middle after : SettingsCommand} {first second : List Event}
    (left : command.Called middle first) (right : middle.Called after second) :
    command.Called after (first ++ second) where
  runs := by rw [right.runs, left.runs, List.filterMap_append, List.append_assoc]
  installed there := by
    obtain ⟨between, ranFirst⟩ := left.installed there
    obtain ⟨last, ranSecond⟩ := right.installed between
    exact ⟨last, List.forall_mem_append.mpr ⟨ranFirst, ranSecond⟩⟩

/-- A call that was made with a run, or with none because there could not be one. -/
theorem called_of_run (action : String) (args : List String) {command after : SettingsCommand}
    {call : Event} (clean : args.any Text.hasNul = false)
    (ran : command.Ran action args → after.script.isSome = true ∧
      after.runs = command.runs ++ [action :: args] ∧ call.commandRun? = some (action :: args))
    (unable : ¬ command.Ran action args → after = command ∧ call.commandRun? = none) :
    command.Called after [call] := by
  by_cases outcome : command.Ran action args
  · obtain ⟨there, runs, arguments⟩ := ran outcome
    refine ⟨?_, fun _ => ⟨there, ?_⟩⟩
    · rw [runs, List.filterMap_cons_some arguments, List.filterMap_nil]
    · intro other member
      rw [List.mem_singleton.mp member, arguments]
      rfl
  · obtain ⟨same, nothing⟩ := unable outcome
    refine ⟨?_, fun there => absurd (command.ran_of_installed action args clean there) outcome⟩
    rw [same, List.filterMap_cons_none nothing, List.filterMap_nil, List.append_nil]

theorem called_get (command : SettingsCommand) (switch : HostSwitch) :
    let reading := HostSettings.get command switch.setting
    command.Called reading.host [.read switch.setting reading.result] := by
  intro reading
  have reads : reading = command.get switch.setting := rfl
  apply called_of_run "get" [switch.setting.scope.name, switch.setting.key]
  · cases switch <;> decide
  · rintro ⟨script, result, ran, started⟩
    rw [reads, get, ran]
    rcases result with failure | text
    · refine ⟨rfl, rfl, Event.commandRun?_read _ _ ?_⟩
      intro cause same
      injection same with same
      exact started cause (by rw [same])
    · exact ⟨rfl, rfl, rfl⟩
  · intro unable
    obtain ⟨cause, blocked⟩ := command.run_of_not_ran _ _ unable
    rw [reads, get, blocked]
    exact ⟨rfl, rfl⟩

theorem called_put (command : SettingsCommand) (switch : HostSwitch) (value : Bool) :
    let answer := HostSettings.put command switch.setting (Setting.ofBool value)
    command.Called answer.1 [.write switch.setting (Setting.ofBool value) answer.2] := by
  intro answer
  have put : answer = command.put switch.setting (Setting.ofBool value) := rfl
  apply called_of_run "put"
    [switch.setting.scope.name, switch.setting.key, toString (Setting.ofBool value).toInt]
  · cases switch <;> cases value <;> decide +kernel
  · rintro ⟨script, result, ran, started⟩
    rw [put, SettingsCommand.put, ran]
    rcases result with failure | text
    · refine ⟨rfl, rfl, Event.commandRun?_write _ _ _ ?_⟩
      intro cause same
      injection same with same
      exact started cause (by rw [same])
    · exact ⟨rfl, rfl, rfl⟩
  · intro unable
    obtain ⟨cause, blocked⟩ := command.run_of_not_ran _ _ unable
    rw [put, SettingsCommand.put, blocked]
    exact ⟨rfl, rfl⟩

theorem called_asked {P : Type} [PreferenceStore P] (command : SettingsCommand)
    (switch : HostSwitch) (seen found : P) :
    let answer := HostSettings.putAll command (switch.asked seen found)
    command.Called answer.1 answer.2 := by
  rw [HostSwitch.asked]
  split
  · exact .refl command
  · exact command.called_put switch (switch.reads found)

end SettingsCommand

/-! ## Courses -/

namespace Course

section Calls

variable {P W S : Type} [LawfulPreferenceStore P] [LineSink W] [HostSettings S]

theorem calls_start (course : Course P W S) :
    let doze := HostSettings.get course.host .doze
    let haptic := HostSettings.get doze.host .haptic
    (Panel.CanMirror .ambient course.host course.prefs ∧
        (course.after 0).panel.host = haptic.host ∧
        Event.calls (course.events 0) =
          [.read .doze doze.result, .read .haptic haptic.result]) ∨
      (¬ Panel.CanMirror .ambient course.host course.prefs ∧
        (course.after 0).panel.host = doze.host ∧
        Event.calls (course.events 0) = [.read .doze doze.result]) := by
  intro doze haptic
  obtain ⟨panel, last, failure, events, answer, resumes⟩ :=
    (Panel.ofHost course.host course.debounce).exists_resumes course.prefs
  have calls : Event.calls (course.events 0) = Event.calls events :=
    Event.calls_of_dealings _ _ (Service.dealings_start course.prefs last course.sink course.host
      course.debounce panel failure events answer)
  have host : (course.after 0).panel.host = panel.host := by
    rw [after, start, Service.start_eq _ _ _ _ _ _ _ _ answer]
  rw [calls, host]
  exact resumes.calls

/-- What the host is asked before a tick that completes. -/
def asked (course : Course P W S) (n : Nat) : List (Setting × Int32) :=
  HostSwitch.ambient.asked (course.after n).prefs (course.opened n).prefs ++
    HostSwitch.haptic.asked (course.after n).prefs (course.opened n).prefs

theorem putAll_tick (course : Course P W S) (n : Nat) :
    HostSettings.putAll (course.opened n).panel.host
        (if (course.tick n).value.2 = none then course.asked n else []) =
      ((course.after (n + 1)).panel.host, Event.calls (course.events (n + 1))) :=
  (course.opened n).putAll_tick (course.after n).prefs (course.turn n).now (course.snapshot_after n)

theorem not_read_tick (course : Course P W S) (n : Nat) (setting : Setting)
    (result : Except Failure (Option Int32)) : .read setting result ∉ course.events (n + 1) := by
  intro member
  have call : .read setting result ∈ Event.calls (course.events (n + 1)) :=
    List.mem_filter.mpr ⟨member, rfl⟩
  have put : _ = Event.calls (course.events (n + 1)) := congrArg Prod.snd (course.putAll_tick n)
  rw [← put] at call
  obtain ⟨other, value, refusal, -, same⟩ := HostSettings.exists_of_mem_putAll _ _ _ call
  cases same

theorem countP_asked (course : Course P W S) (n : Nat) (switch : HostSwitch) :
    (course.asked n).countP (fun entry => entry.1 == switch.setting) =
      if switch.reads (course.opened n).prefs ≠ switch.reads (course.after n).prefs then 1
      else 0 := by
  rw [asked, List.countP_append, HostSwitch.countP_asked, HostSwitch.countP_asked]
  cases switch <;> simp

/-- A tick that changes a switch: it completes, and the switch reads differently than after
the tick before. -/
def Changes (course : Course P W S) (switch : HostSwitch) (n : Nat) : Prop :=
  (course.tick n).value.2 = none ∧
    switch.reads (course.opened n).prefs ≠ switch.reads (course.after n).prefs

instance (course : Course P W S) (switch : HostSwitch) (n : Nat) :
    Decidable (course.Changes switch n) :=
  inferInstanceAs (Decidable (_ ∧ _))

theorem countP_events (course : Course P W S) (switch : HostSwitch) (n : Nat) :
    (Event.calls (course.events (n + 1))).countP (Event.isPut switch.setting) =
      if course.Changes switch n then 1 else 0 := by
  have put : _ = Event.calls (course.events (n + 1)) := congrArg Prod.snd (course.putAll_tick n)
  rw [← put, HostSettings.countP_putAll]
  by_cases completed : (course.tick n).value.2 = none
  · rw [if_pos completed, course.countP_asked n switch]
    simp only [Changes, completed, true_and]
  · rw [if_neg completed, if_neg fun changes => completed changes.1]
    rfl

/-- Every change is put to the host once, and nothing else is. -/
theorem countP_trace (course : Course P W S) (switch : HostSwitch) (n : Nat) :
    (Event.calls (course.trace n)).countP (Event.isPut switch.setting) =
      (List.range n).countP fun m => decide (course.Changes switch m) := by
  induction n with
  | zero =>
    rw [trace]
    rcases course.calls_start with ⟨-, -, calls⟩ | ⟨-, -, calls⟩ <;> rw [calls] <;> rfl
  | succ n ih =>
    rw [trace, Event.calls_append, List.countP_append, ih, course.countP_events switch n,
      List.range_succ, List.countP_append, List.countP_singleton]
    simp only [decide_eq_true_eq]

end Calls

section Commands

variable {P W : Type} [LawfulPreferenceStore P] [LineSink W]

theorem called_start (course : Course P W SettingsCommand) :
    course.host.Called (course.after 0).panel.host (Event.calls (course.trace 0)) := by
  have first := course.host.called_get .ambient
  rw [trace]
  rcases course.calls_start with ⟨-, host, calls⟩ | ⟨-, host, calls⟩
  · rw [host, calls]
    exact first.trans (SettingsCommand.called_get _ .haptic)
  · rw [host, calls]
    exact first

theorem called_tick (course : Course P W SettingsCommand) (n : Nat) :
    (course.opened n).panel.host.Called (course.after (n + 1)).panel.host
      (Event.calls (course.events (n + 1))) := by
  have put := course.putAll_tick n
  have host := congrArg Prod.fst put
  have calls := congrArg Prod.snd put
  rw [← show _ = (course.after (n + 1)).panel.host from host,
    ← show _ = Event.calls (course.events (n + 1)) from calls]
  split
  · rw [asked, HostSettings.putAll_append]
    exact (SettingsCommand.called_asked _ .ambient _ _).trans
      (SettingsCommand.called_asked _ .haptic _ _)
  · exact .refl _

theorem runs_after (course : Course P W SettingsCommand)
    (kept : ∀ (n : Nat) (command : SettingsCommand),
      ((course.turn n).editHost command).runs = command.runs) (n : Nat) :
    (course.after n).panel.host.runs =
      course.host.runs ++ (Event.calls (course.trace n)).filterMap Event.commandRun? := by
  induction n with
  | zero => exact course.called_start.runs
  | succ n ih =>
    have opened : (course.opened n).panel.host.runs = (course.after n).panel.host.runs := kept n _
    rw [(course.called_tick n).runs, opened, ih, trace, Event.calls_append, List.filterMap_append,
      List.append_assoc]

theorem ran_of_installed (course : Course P W SettingsCommand)
    (installed : course.host.script.isSome = true)
    (kept : ∀ (n : Nat) (command : SettingsCommand), command.script.isSome = true →
      ((course.turn n).editHost command).script.isSome = true) (n : Nat) :
    (course.after n).panel.host.script.isSome = true ∧
      ∀ call ∈ Event.calls (course.trace n), call.commandRun?.isSome = true := by
  induction n with
  | zero => exact course.called_start.installed installed
  | succ n ih =>
    obtain ⟨there, ran⟩ := ih
    obtain ⟨last, ranLast⟩ := (course.called_tick n).installed (kept n _ there)
    rw [trace, Event.calls_append]
    exact ⟨last, List.forall_mem_append.mpr ⟨ran, ranLast⟩⟩

end Commands

/-- The start reads the doze setting, and then the haptic one exactly when the first read
and the write of the ambient switch have succeeded.  No tick reads a setting.  A tick that
completes puts to the host the switches that read differently than after the tick before,
each once and with its new reading, the ambient one first; a tick that stops puts none.  So
whatever is accepted or refused, a switch is put as often as it was found changed.  Behind a
settings command that nobody else runs, the calls are the runs of the command, one for each
call that could start it, and a command that is there can be started. -/
theorem asked_once_per_change {P W S : Type} [LawfulPreferenceStore P] [LineSink W]
    [HostSettings S] (course : Course P W S) (n : Nat) :
    let doze := HostSettings.get course.host ⟨.secure, "doze_enabled"⟩
    let haptic := HostSettings.get doze.host ⟨.system, "touchscreen_gesture_haptic_feedback"⟩
    let mirrored := ∃ (value : Option Int32) (stored : P), doze.result = .ok value ∧
      PreferenceStore.put course.prefs Key.ambient (Setting.isOnValue value) = .ok stored
    let seen := (course.after n).prefs
    let found := (course.opened n).prefs
    let asked : List (Setting × Int32) :=
      (if isOn found Key.ambient = isOn seen Key.ambient then []
        else [(⟨.secure, "doze_enabled"⟩, if isOn found Key.ambient then 1 else 0)]) ++
      if isOn found Key.haptic = isOn seen Key.haptic then []
      else [(⟨.system, "touchscreen_gesture_haptic_feedback"⟩,
        if isOn found Key.haptic then 1 else 0)]
    (mirrored → Event.calls (course.events 0) =
        [.read .doze doze.result, .read .haptic haptic.result]) ∧
      (¬ mirrored → Event.calls (course.events 0) = [.read .doze doze.result]) ∧
      (∀ (setting : Setting) (result : Except Failure (Option Int32)),
        .read setting result ∉ course.events (n + 1)) ∧
      ((course.tick n).value.2 = none →
        HostSettings.putAll (course.opened n).panel.host asked =
          ((course.after (n + 1)).panel.host, Event.calls (course.events (n + 1)))) ∧
      ((course.tick n).value.2 ≠ none → Event.calls (course.events (n + 1)) = []) ∧
      (∀ switch : HostSwitch,
        (Event.calls (course.trace n)).countP (Event.isPut switch.setting) =
          (List.range n).countP fun m => decide ((course.tick m).value.2 = none ∧
            switch.reads (course.opened m).prefs ≠ switch.reads (course.after m).prefs)) ∧
      ∀ commanded : Course P W SettingsCommand,
        ((∀ (m : Nat) (command : SettingsCommand),
            ((commanded.turn m).editHost command).runs = command.runs) →
          (commanded.after n).panel.host.runs = commanded.host.runs ++
            (Event.calls (commanded.trace n)).filterMap Event.commandRun?) ∧
        (commanded.host.script.isSome = true →
          (∀ (m : Nat) (command : SettingsCommand), command.script.isSome = true →
            ((commanded.turn m).editHost command).script.isSome = true) →
          ∀ call ∈ Event.calls (commanded.trace n), call.commandRun?.isSome = true) := by
  intro doze haptic mirrored seen found asked
  have put := course.putAll_tick n
  refine ⟨?_, ?_, course.not_read_tick n, ?_, ?_, ?_, ?_⟩
  · intro succeeded
    rcases course.calls_start with ⟨-, -, calls⟩ | ⟨unable, -, -⟩
    · exact calls
    · exact absurd succeeded unable
  · intro failed
    rcases course.calls_start with ⟨able, -, -⟩ | ⟨-, -, calls⟩
    · exact absurd able failed
    · exact calls
  · intro completed
    rw [if_pos completed] at put
    exact put
  · intro stopped
    rw [if_neg stopped] at put
    exact (congrArg Prod.snd put).symm
  · exact fun switch => course.countP_trace switch n
  · intro commanded
    refine ⟨fun kept => commanded.runs_after kept n, ?_⟩
    intro installed kept
    exact (commanded.ran_of_installed installed kept n).2

/-- A settings command that answers two reads and then fails.  The ambient switch is turned
off before the first tick and the haptic switch before the second one. -/
def commanding : Course MemoryPreferences Recorder SettingsCommand where
  prefs := ⟨[]⟩
  sink := ⟨false, []⟩
  host := ⟨some [⟨[0x31, 0x0A], [], true⟩, ⟨Text.Utf8.encode "null", [], true⟩], []⟩
  debounce := Span.ofMillis 500
  turn n :=
    { editPrefs := fun prefs =>
        if n = 0 then prefs.insert Key.ambient false
        else if n = 1 then prefs.insert Key.haptic false
        else prefs
      editHost := id
      editSink := id
      now := ⟨Span.ofMillis (100 * n)⟩ }

/-- Both puts are refused, and neither is made again. -/
theorem asked_once_per_change_commanding :
    Event.calls (commanding.events 0) =
        [.read .doze (.ok (some 1)), .read .haptic (.ok none)] ∧
      (commanding.tick 0).value.2 = none ∧
      (commanding.after 1).panel.host.runs.length = 3 ∧
      (Event.calls (commanding.trace 4)).countP (Event.isPut Setting.haptic) = 1 ∧
      (commanding.after 4).panel.host.runs =
        [["get", "secure", "doze_enabled"],
          ["get", "system", "touchscreen_gesture_haptic_feedback"],
          ["put", "secure", "doze_enabled", "0"],
          ["put", "system", "touchscreen_gesture_haptic_feedback", "0"]] := by
  obtain ⟨reads, -, -, puts, -⟩ := asked_once_per_change commanding 0
  obtain ⟨-, -, -, -, -, counted, run⟩ := asked_once_per_change commanding 4
  have completed : (commanding.tick 0).value.2 = none := by decide +kernel
  refine ⟨?_, completed, ?_, ?_, ?_⟩
  · exact reads ⟨some 1, ⟨[(Key.ambient, true)]⟩, by decide +kernel⟩
  · have host : _ = (commanding.after 1).panel.host := congrArg Prod.fst (puts completed)
    rw [← host]
    decide +kernel
  · exact (counted .haptic).trans (by decide +kernel)
  · rw [(run commanding).1 fun _ _ => rfl]
    decide +kernel

end Course

end GestureMode
