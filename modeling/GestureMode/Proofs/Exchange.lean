import GestureMode.Proofs.Delivery
import GestureMode.Proofs.Veto

/-!
# The exchange with the host

What the host is asked, and what comes of it, does not depend on the gestures.  The
settings side of a service holds the host and whether the gestures that depend on dozing
apply; a changed switch is one exchange with it, and so is a switch that takes the value of
its setting.  An exchange is determined by what the settings side holds, by how the switch
reads and by what the store refuses, so two services that agree in these go on agreeing,
whatever their gestures, deadlines and sinks do.
-/

set_option autoImplicit false

namespace GestureMode

open PreferenceStore

namespace HostSwitch

section Storing

variable {P : Type} [PreferenceStore P]

def stored (prefs : P) (switch : HostSwitch) (value : Bool) : P :=
  (PreferenceStore.store prefs switch.key value).value.1

def refused (prefs : P) (switch : HostSwitch) (value : Bool) : Bool :=
  (PreferenceStore.store prefs switch.key value).value.2.isSome

theorem stored_of_ok (prefs after : P) (switch : HostSwitch) (value : Bool)
    (accepted : PreferenceStore.put prefs switch.key value = .ok after) :
    stored prefs switch value = after ∧ refused prefs switch value = false := by
  rw [stored, refused, store_of_ok prefs after switch.key value accepted]
  exact ⟨rfl, rfl⟩

theorem stored_of_error (prefs : P) (failure : Failure) (switch : HostSwitch) (value : Bool)
    (denied : PreferenceStore.put prefs switch.key value = .error failure) :
    stored prefs switch value = prefs ∧ refused prefs switch value = true := by
  rw [stored, refused, store_of_error prefs failure switch.key value denied]
  exact ⟨rfl, rfl⟩

def storedAll (prefs : P) (attempts : List (HostSwitch × Bool)) : P :=
  attempts.foldl (fun prefs attempt => stored prefs attempt.1 attempt.2) prefs

end Storing

/-- Whatever is put to two stores for the switches, the switches read alike in them, and
the stores refuse alike. -/
def Alike {P Q : Type} [PreferenceStore P] [PreferenceStore Q] (a : P) (b : Q) : Prop :=
  ∀ (attempts : List (HostSwitch × Bool)) (switch : HostSwitch),
    switch.reads (storedAll a attempts) = switch.reads (storedAll b attempts) ∧
      ∀ value : Bool,
        refused (storedAll a attempts) switch value = refused (storedAll b attempts) switch value

section Alike

variable {P Q : Type} [PreferenceStore P] [PreferenceStore Q] {a : P} {b : Q}

theorem Alike.reads (alike : Alike a b) (switch : HostSwitch) : switch.reads a = switch.reads b :=
  (alike [] switch).1

theorem Alike.refused (alike : Alike a b) (switch : HostSwitch) (value : Bool) :
    HostSwitch.refused a switch value = HostSwitch.refused b switch value :=
  (alike [] switch).2 value

theorem Alike.stored (alike : Alike a b) (switch : HostSwitch) (value : Bool) :
    Alike (HostSwitch.stored a switch value) (HostSwitch.stored b switch value) :=
  fun attempts => alike ((switch, value) :: attempts)

end Alike

section Steady

variable {P Q : Type} [SteadyPreferenceStore P] [SteadyPreferenceStore Q]

theorem refused_eq (prefs : P) (switch : HostSwitch) (value : Bool) :
    refused prefs switch value = !(PreferenceStore.put prefs switch.key value).isOk := by
  cases written : PreferenceStore.put prefs switch.key value with
  | ok after => rw [(stored_of_ok prefs after switch value written).2]; rfl
  | error failure => rw [(stored_of_error prefs failure switch value written).2]; rfl

theorem refused_stored (prefs : P) (switch other : HostSwitch) (value new : Bool) :
    refused (stored prefs switch value) other new = refused prefs other new := by
  cases written : PreferenceStore.put prefs switch.key value with
  | ok after =>
    rw [(stored_of_ok prefs after switch value written).1, refused_eq, refused_eq,
      SteadyPreferenceStore.isOk_put prefs after switch.key other.key value new written]
  | error failure => rw [(stored_of_error prefs failure switch value written).1]

theorem reads_stored (prefs : P) (switch other : HostSwitch) (value : Bool) :
    other.reads (stored prefs switch value) =
      if other = switch ∧ refused prefs switch value = false then value else other.reads prefs := by
  cases written : PreferenceStore.put prefs switch.key value with
  | ok after =>
    obtain ⟨same, accepted⟩ := stored_of_ok prefs after switch value written
    rw [same, accepted]
    by_cases equal : other = switch
    · subst equal
      rw [if_pos ⟨rfl, rfl⟩]
      exact isOn_put_self prefs after other.key value written
    · rw [if_neg fun both => equal both.1]
      exact isOn_put_of_ne prefs after switch.key other.key value written
        (mt (key_injective other switch) equal)
  | error failure =>
    obtain ⟨same, denied⟩ := stored_of_error prefs failure switch value written
    rw [same, denied, if_neg (by simp)]

/-- Steady stores need to be compared once only: they are alike when the switches read
alike in them and they refuse alike. -/
theorem alike_iff (a : P) (b : Q) :
    Alike a b ↔ (∀ switch : HostSwitch, switch.reads a = switch.reads b) ∧
      ∀ (switch : HostSwitch) (value : Bool),
        refused a switch value = refused b switch value := by
  constructor
  · intro alike
    exact ⟨alike.reads, alike.refused⟩
  · rintro ⟨reads, refusals⟩ attempts
    induction attempts generalizing a b with
    | nil => exact fun switch => ⟨reads switch, refusals switch⟩
    | cons attempt rest ih =>
      obtain ⟨switch, value⟩ := attempt
      apply ih (stored a switch value) (stored b switch value)
      · intro other
        rw [reads_stored, reads_stored, refusals, reads]
      · intro other new
        rw [refused_stored, refused_stored, refusals]

end Steady

end HostSwitch

structure Holdings (S : Type) where
  host : S
  dependentsEnabled : Bool

def Panel.holdings {S : Type} (panel : Panel S) : Holdings S :=
  ⟨panel.host, panel.dependentsEnabled⟩

/-- What the settings side holds after an exchange, what was asked and answered, and the
value that was then put to the store, if any was. -/
structure Exchange (S : Type) where
  after : Holdings S
  calls : List Event
  attempt : Option Bool

namespace HostSwitch

def adopted {S : Type} (switch : HostSwitch) (holdings : Holdings S) (host : S) (value : Bool) :
    Holdings S :=
  match switch with
  | ambient => ⟨host, value⟩
  | haptic => { holdings with host }

theorem holdings_adopt {S : Type} (switch : HostSwitch) (panel : Panel S) (host : S)
    (value : Bool) : (switch.adopt panel host value).holdings =
      switch.adopted panel.holdings host value := by
  cases switch <;> rfl

section Exchanging

variable {S : Type} [HostSettings S]

def follow (switch : HostSwitch) (holdings : Holdings S) (seen found : Bool) : Exchange S :=
  if found = seen then ⟨holdings, [], none⟩
  else
    let value := Setting.ofBool found
    match HostSettings.put holdings.host switch.setting value with
    | (host, none) =>
      ⟨switch.adopted holdings host found, [.write switch.setting value none], none⟩
    | (host, some failure) =>
      ⟨{ holdings with host }, [.write switch.setting value (some failure)], some (!found)⟩

def mirror (switch : HostSwitch) (holdings : Holdings S) (refused : Bool → Bool) : Exchange S :=
  let reading := HostSettings.get holdings.host switch.setting
  let calls := [Event.read switch.setting reading.result]
  match reading.result with
  | .error _ => ⟨{ holdings with host := reading.host }, calls, none⟩
  | .ok value =>
    let on := Setting.isOnValue value
    ⟨if refused on then { holdings with host := reading.host }
      else switch.adopted holdings reading.host on, calls, some on⟩

end Exchanging

section Playing

variable {P S : Type} [PreferenceStore P]

structure Plays (switch : HostSwitch) (exchange : Exchange S) (prefs : P) (after : Panel S)
    (last : P) (events : List Event) : Prop where
  holdings : after.holdings = exchange.after
  calls : Event.calls events = exchange.calls
  last : last = exchange.attempt.elim prefs (stored prefs switch)
  stores : Event.stores events =
    exchange.attempt.toList.map fun value => (switch.key, value, refused prefs switch value)

end Playing

end HostSwitch

/-! ## Two exchanges side by side -/

section Parallel

variable {P Q S : Type} [PreferenceStore P] [PreferenceStore Q]

/-- Two pairs of a panel and a store that hold the same and treat the switches alike. -/
structure Agreeing (panel : Panel S) (prefs : P) (other : Panel S) (otherPrefs : Q) : Prop where
  holdings : panel.holdings = other.holdings
  alike : HostSwitch.Alike prefs otherPrefs

/-- They have come to agree by asking the host the same and by putting the same to their
stores. -/
structure Parallel (after : Panel S) (last : P) (events : List Event) (later : Panel S)
    (otherLast : Q) (others : List Event) : Prop where
  agreeing : Agreeing after last later otherLast
  calls : Event.calls events = Event.calls others
  stores : Event.stores events = Event.stores others

variable {after middle later between : Panel S} {last stored : P} {otherLast otherStored : Q}
  {events more others otherMore : List Event}

theorem Parallel.append (first : Parallel middle stored events between otherStored others)
    (second : Parallel after last more later otherLast otherMore) :
    Parallel after last (events ++ more) later otherLast (others ++ otherMore) where
  agreeing := second.agreeing
  calls := by rw [Event.calls_append, Event.calls_append, first.calls, second.calls]
  stores := by rw [Event.stores_append, Event.stores_append, first.stores, second.stores]

theorem Parallel.of_dealings (parallel : Parallel after last events later otherLast others)
    (dealt : Event.dealings more = Event.dealings events)
    (otherDealt : Event.dealings otherMore = Event.dealings others) :
    Parallel after last more later otherLast otherMore where
  agreeing := parallel.agreeing
  calls := by
    rw [Event.calls_of_dealings more events dealt, parallel.calls,
      Event.calls_of_dealings otherMore others otherDealt]
  stores := by
    rw [Event.stores_of_dealings more events dealt, parallel.stores,
      Event.stores_of_dealings otherMore others otherDealt]

theorem HostSwitch.Plays.parallel {switch : HostSwitch} {exchange : Exchange S} {prefs : P}
    {otherPrefs : Q} (plays : switch.Plays exchange prefs after last events)
    (otherPlays : switch.Plays exchange otherPrefs later otherLast others)
    (alike : HostSwitch.Alike prefs otherPrefs) :
    Parallel after last events later otherLast others := by
  refine ⟨⟨?_, ?_⟩, ?_, ?_⟩
  · rw [plays.holdings, otherPlays.holdings]
  · rw [plays.last, otherPlays.last]
    cases exchange.attempt with
    | none => exact alike
    | some value => exact alike.stored switch value
  · rw [plays.calls, otherPlays.calls]
  · rw [plays.stores, otherPlays.stores]
    cases exchange.attempt with
    | none => rfl
    | some value => simp [alike.refused switch value]

end Parallel

theorem HostSettings.calls_readFlag {S : Type} [HostSettings S] (host : S) (setting : Setting) :
    Event.calls (readFlag host setting).events = [.read setting (get host setting).result] := by
  have remarked : Event.calls ((get host setting).remarks.map fun text =>
      Event.note ⟨.debug, text⟩) = [] := by
    apply List.filter_eq_nil_iff.mpr
    intro event member
    obtain ⟨text, -, rfl⟩ := List.mem_map.mp member
    exact Bool.false_ne_true
  rw [events_readFlag, Event.calls_append, remarked]
  rfl

open HostSwitch

namespace Service

section Playing

variable {P W S : Type} [PreferenceStore P] [HostSettings S]

/-- Handling a switch is one exchange. -/
theorem Follows.plays {seen : P} {switch : HostSwitch} {service after : Service P W S}
    {events : List Event} (follows : Follows seen switch service after events) :
    switch.Plays
      (switch.follow service.panel.holdings (switch.reads seen) (switch.reads service.prefs))
      service.prefs after.panel after.prefs events := by
  have different (value : Bool) (found : switch.reads service.prefs = value)
      (before : switch.reads seen = !value) :
      switch.reads service.prefs ≠ switch.reads seen := by
    rw [found, before]
    simp
  cases follows with
  | unchanged same =>
    rw [follow, if_pos same]
    exact ⟨rfl, rfl, rfl, rfl⟩
  | accepted value found before host taken =>
    rw [follow, if_neg (different value found before), found]
    simp only [Panel.holdings, taken]
    exact ⟨switch.holdings_adopt service.panel host value, rfl, rfl, rfl⟩
  | restored value found before host failure refused after stored =>
    rw [follow, if_neg (different value found before), found]
    simp only [Panel.holdings, refused]
    obtain ⟨last, accepted⟩ := stored_of_ok service.prefs after switch (!value) stored
    refine ⟨rfl, rfl, last.symm, ?_⟩
    rw [Option.toList_some, List.map_singleton, accepted]
    rfl
  | stuck value found before host failure refused refusal kept =>
    rw [follow, if_neg (different value found before), found]
    simp only [Panel.holdings, refused]
    obtain ⟨last, denied⟩ := stored_of_error service.prefs refusal switch (!value) kept
    refine ⟨rfl, rfl, last.symm, ?_⟩
    rw [Option.toList_some, List.map_singleton, denied]
    rfl

end Playing

end Service

namespace Panel

variable {P S : Type} [PreferenceStore P] [HostSettings S]

theorem Mirrors.plays {switch : HostSwitch} {panel after : Panel S} {prefs last : P}
    {failure : Option Failure} {events : List Event}
    (mirrors : Mirrors switch panel prefs after last failure events) :
    switch.Plays (switch.mirror panel.holdings (HostSwitch.refused prefs switch)) prefs after last
        events ∧
      failure.isNone = (Event.stores events).any fun attempt => !attempt.2.2 := by
  have calls := HostSettings.calls_readFlag panel.host switch.setting
  have silent := Event.stores_of_quiet _ (HostSettings.quiet_readFlag panel.host switch.setting)
  cases mirrors with
  | unread failure failed =>
    rw [mirror, silent]
    simp only [Panel.holdings, failed] at calls ⊢
    exact ⟨⟨rfl, calls, rfl, silent⟩, rfl⟩
  | refused value read failure kept =>
    obtain ⟨stored, denied⟩ := stored_of_error prefs failure switch _ kept
    rw [mirror, Event.stores_append, silent]
    simp only [Panel.holdings, read] at calls ⊢
    refine ⟨⟨?_, ?_, stored.symm, ?_⟩, rfl⟩
    · rw [denied, if_pos rfl]
      rfl
    · rw [Event.calls_append, calls]
      rfl
    · rw [Event.stores_append, silent, Option.toList_some, List.map_singleton, denied]
      rfl
  | mirrored value read last stored =>
    obtain ⟨same, accepted⟩ := stored_of_ok prefs last switch _ stored
    rw [mirror, Event.stores_append, silent]
    simp only [Panel.holdings, read] at calls ⊢
    refine ⟨⟨?_, ?_, same.symm, ?_⟩, rfl⟩
    · rw [accepted, if_neg Bool.false_ne_true]
      exact switch.holdings_adopt panel _ _
    · rw [Event.calls_append, calls]
      rfl
    · rw [Event.stores_append, silent, Option.toList_some, List.map_singleton, accepted]
      rfl

end Panel

/-! ## Two services side by side -/

section Pairs

variable {P Q V W S : Type} [HostSettings S]

theorem Service.Follows.parallel [PreferenceStore P] [PreferenceStore Q] {seen : P}
    {otherSeen : Q} {switch : HostSwitch} {one after : Service P W S}
    {other later : Service Q V S} {events others : List Event}
    (follows : Service.Follows seen switch one after events)
    (otherFollows : Service.Follows otherSeen switch other later others)
    (agreeing : Agreeing one.panel one.prefs other.panel other.prefs)
    (same : switch.reads seen = switch.reads otherSeen) :
    Parallel after.panel after.prefs events later.panel later.prefs others := by
  have plays := follows.plays
  rw [agreeing.holdings, same, agreeing.alike.reads switch] at plays
  exact plays.parallel otherFollows.plays agreeing.alike

theorem Service.FollowsBoth.parallel [LawfulPreferenceStore P] [LawfulPreferenceStore Q]
    {seen : P} {otherSeen : Q} {one after : Service P W S} {other later : Service Q V S}
    {events others : List Event} (follows : Service.FollowsBoth seen one after events)
    (otherFollows : Service.FollowsBoth otherSeen other later others)
    (agreeing : Agreeing one.panel one.prefs other.panel other.prefs)
    (same : ∀ switch : HostSwitch, switch.reads seen = switch.reads otherSeen) :
    Parallel after.panel after.prefs events later.panel later.prefs others := by
  obtain ⟨middle, first, second, ambient, haptic, rfl⟩ := follows
  obtain ⟨between, otherFirst, otherSecond, otherAmbient, otherHaptic, rfl⟩ := otherFollows
  have middles := ambient.parallel otherAmbient agreeing (same .ambient)
  exact middles.append (haptic.parallel otherHaptic middles.agreeing (same .haptic))

variable [PreferenceStore P] [PreferenceStore Q]

theorem Panel.Mirrors.parallel {switch : HostSwitch} {one after other later : Panel S}
    {prefs last : P} {otherPrefs otherLast : Q} {failure otherFailure : Option Failure}
    {events others : List Event}
    (mirrors : Panel.Mirrors switch one prefs after last failure events)
    (otherMirrors : Panel.Mirrors switch other otherPrefs later otherLast otherFailure others)
    (agreeing : Agreeing one prefs other otherPrefs) :
    Parallel after last events later otherLast others ∧
      failure.isNone = otherFailure.isNone := by
  obtain ⟨plays, finished⟩ := mirrors.plays
  obtain ⟨otherPlays, otherFinished⟩ := otherMirrors.plays
  have refusals : HostSwitch.refused prefs switch = HostSwitch.refused otherPrefs switch :=
    funext (agreeing.alike.refused switch)
  rw [agreeing.holdings, refusals] at plays
  have parallel := plays.parallel otherPlays agreeing.alike
  refine ⟨parallel, ?_⟩
  rw [finished, otherFinished, parallel.stores]

theorem Panel.Resumes.parallel {one after other later : Panel S} {prefs last : P}
    {otherPrefs otherLast : Q} {failure otherFailure : Option Failure} {events others : List Event}
    (resumes : Panel.Resumes one prefs after last failure events)
    (otherResumes : Panel.Resumes other otherPrefs later otherLast otherFailure others)
    (agreeing : Agreeing one prefs other otherPrefs) :
    Parallel after last events later otherLast others := by
  cases resumes with
  | stopped middle stored failure events first =>
    cases otherResumes with
    | stopped between otherStored reason others otherFirst =>
      exact (first.parallel otherFirst agreeing).1
    | finished between later otherStored otherLast reason others more doze haptic otherFirst =>
      cases (first.parallel otherFirst agreeing).2
  | finished middle after stored last failure events more doze haptic first second =>
    cases otherResumes with
    | stopped between otherStored reason others otherFirst =>
      cases (first.parallel otherFirst agreeing).2
    | finished between later otherStored otherLast otherFailure others otherMore otherDoze otherOn
        otherFirst otherSecond =>
      have middles := (first.parallel otherFirst agreeing).1
      have ends := (second.parallel otherSecond middles.agreeing).1
      refine middles.append (ends.of_dealings ?_ ?_)
      · rw [Event.dealings_append, Panel.dealings_resumeNote, List.append_nil]
      · rw [Event.dealings_append, Panel.dealings_resumeNote, List.append_nil]

end Pairs

namespace Service

variable {P Q V W S : Type} [LawfulPreferenceStore P] [LawfulPreferenceStore Q] [LineSink W]
  [LineSink V] [HostSettings S]

theorem parallel_tick (one : Service P W S) (other : Service Q V S) (seen : P) (otherSeen : Q)
    (now otherNow : Instant) (agreed : one.snapshot = Snapshot.take Key.watched seen)
    (otherAgreed : other.snapshot = Snapshot.take Key.watched otherSeen)
    (completed : (one.tick now).value.2 = none)
    (otherCompleted : (other.tick otherNow).value.2 = none)
    (agreeing : Agreeing one.panel one.prefs other.panel other.prefs)
    (same : ∀ switch : HostSwitch, switch.reads seen = switch.reads otherSeen) :
    let answer := one.tick now
    let otherAnswer := other.tick otherNow
    Parallel answer.value.1.panel answer.value.1.prefs answer.events
      otherAnswer.value.1.panel otherAnswer.value.1.prefs otherAnswer.events := by
  obtain ⟨asked, requested⟩ := one.requested_of_completed seen now agreed completed
  obtain ⟨otherAsked, otherRequested⟩ :=
    other.requested_of_completed otherSeen otherNow otherAgreed otherCompleted
  obtain ⟨after, events, follows, ticked⟩ := one.tick_of_requested seen now agreed asked requested
  obtain ⟨later, others, otherFollows, otherTicked⟩ :=
    other.tick_of_requested otherSeen otherNow otherAgreed otherAsked otherRequested
  have gestured : Agreeing (one.gestured seen asked).panel one.prefs
      (other.gestured otherSeen otherAsked).panel other.prefs := ⟨agreeing.holdings, agreeing.alike⟩
  have handled := follows.parallel otherFollows gestured same
  have tick := handled.of_dealings (dealings_around seen one.prefs events after now)
    (dealings_around otherSeen other.prefs others later otherNow)
  rw [ticked, otherTicked]
  -- settling changes neither the store nor what the settings side holds
  refine ⟨⟨?_, ?_⟩, tick.calls, tick.stores⟩
  · rw [panel_settle, panel_settle]
    exact tick.agreeing.holdings
  · rw [prefs_settle, prefs_settle]
    exact tick.agreeing.alike

end Service

/-! ## Two courses -/

namespace Course

section Agreeing

variable {P Q V W S : Type} [LawfulPreferenceStore P] [LawfulPreferenceStore Q] [LineSink W]
  [LineSink V] [HostSettings S]

/-- Two courses with the same host, whose stores the ambient and the haptic switch cannot
tell apart at first; what changes outside before a tick leaves both so.  Nothing is said
of the other switches, of the sinks, of the times and of the debounce interval. -/
structure SameSettings (one : Course P W S) (other : Course Q V S) : Prop where
  host : one.host = other.host
  hostEdits : ∀ (n : Nat) (host : S), (one.turn n).editHost host = (other.turn n).editHost host
  initial : Alike one.prefs other.prefs
  edits : ∀ n : Nat, Alike (one.after n).prefs (other.after n).prefs →
    Alike (one.opened n).prefs (other.opened n).prefs

theorem SameSettings.parallel_start {one : Course P W S} {other : Course Q V S}
    (same : one.SameSettings other) :
    Parallel (one.after 0).panel (one.after 0).prefs (one.events 0)
      (other.after 0).panel (other.after 0).prefs (other.events 0) := by
  obtain ⟨panel, last, failure, events, answer, resumes⟩ :=
    (Panel.ofHost one.host one.debounce).exists_resumes one.prefs
  obtain ⟨otherPanel, otherLast, otherFailure, others, otherAnswer, otherResumes⟩ :=
    (Panel.ofHost other.host other.debounce).exists_resumes other.prefs
  have begun : Agreeing (Panel.ofHost one.host one.debounce) one.prefs
      (Panel.ofHost other.host other.debounce) other.prefs :=
    ⟨congrArg (fun host => (⟨host, true⟩ : Holdings S)) same.host, same.initial⟩
  have parallel := (resumes.parallel otherResumes begun).of_dealings
    (Service.dealings_start one.prefs last one.sink one.host one.debounce panel failure events
      answer)
    (Service.dealings_start other.prefs otherLast other.sink other.host other.debounce otherPanel
      otherFailure others otherAnswer)
  refine ⟨?_, parallel.calls, parallel.stores⟩
  rw [after, after, start, start, Service.start_eq _ _ _ _ _ _ _ _ answer,
    Service.start_eq _ _ _ _ _ _ _ _ otherAnswer]
  exact parallel.agreeing

theorem SameSettings.agreeing_opened {one : Course P W S} {other : Course Q V S}
    (same : one.SameSettings other) (n : Nat)
    (agreeing : Agreeing (one.after n).panel (one.after n).prefs (other.after n).panel
      (other.after n).prefs) :
    Agreeing (one.opened n).panel (one.opened n).prefs (other.opened n).panel
      (other.opened n).prefs := by
  refine ⟨?_, same.edits n agreeing.alike⟩
  have host : (one.after n).panel.host = (other.after n).panel.host :=
    congrArg Holdings.host agreeing.holdings
  have dependents : (one.after n).panel.dependentsEnabled =
      (other.after n).panel.dependentsEnabled :=
    congrArg Holdings.dependentsEnabled agreeing.holdings
  change (⟨(one.turn n).editHost (one.after n).panel.host, (one.after n).panel.dependentsEnabled⟩ :
    Holdings S) = ⟨(other.turn n).editHost (other.after n).panel.host,
      (other.after n).panel.dependentsEnabled⟩
  rw [same.hostEdits n, host, dependents]

theorem SameSettings.parallel {one : Course P W S} {other : Course Q V S}
    (same : one.SameSettings other) (n : Nat) (reached : one.Reaches n)
    (otherReached : other.Reaches n) :
    Parallel (one.after n).panel (one.after n).prefs (one.events n)
      (other.after n).panel (other.after n).prefs (other.events n) := by
  induction n with
  | zero => exact same.parallel_start
  | succ n ih =>
    have before := (ih (reached.of_succ one n) (otherReached.of_succ other n)).agreeing
    have completed : (one.tick n).value.2 = none := reached n (by omega)
    have otherCompleted : (other.tick n).value.2 = none := otherReached n (by omega)
    exact (one.opened n).parallel_tick (other.opened n) (one.after n).prefs (other.after n).prefs
      (one.turn n).now (other.turn n).now (one.snapshot_after n) (other.snapshot_after n) completed
      otherCompleted (same.agreeing_opened n before) before.alike.reads

theorem SameSettings.calls_trace {one : Course P W S} {other : Course Q V S}
    (same : one.SameSettings other) (n : Nat) (reached : one.Reaches n)
    (otherReached : other.Reaches n) :
    Event.calls (one.trace n) = Event.calls (other.trace n) := by
  have calls := (same.parallel n reached otherReached).calls
  induction n with
  | zero => exact calls
  | succ n ih =>
    have earlier := reached.of_succ one n
    have otherEarlier := otherReached.of_succ other n
    rw [trace, trace, Event.calls_append, Event.calls_append, calls,
      ih earlier otherEarlier (same.parallel n earlier otherEarlier).calls]

/-- What is asked of the host and what it answers, the host itself, whether the gestures
that depend on dozing apply, which changes are vetoed and taken back, and how the ambient
and the haptic switch read and were last seen, all this is the same in two courses that
differ in everything but the settings, as long as their ticks complete. -/
theorem settings_independent_of_gestures (one : Course P W S) (other : Course Q V S)
    (same : one.SameSettings other) (n : Nat) (reached : one.Reaches n)
    (otherReached : other.Reaches n) :
    Event.calls (one.trace n) = Event.calls (other.trace n) ∧
      (one.after n).panel.host = (other.after n).panel.host ∧
      (one.after n).panel.dependentsEnabled = (other.after n).panel.dependentsEnabled ∧
      Event.stores (one.events n) = Event.stores (other.events n) ∧
      ∀ switch : HostSwitch,
        (switch.Vetoed (one.events n) ↔ switch.Vetoed (other.events n)) ∧
          switch.reads (one.after n).prefs = switch.reads (other.after n).prefs ∧
          Entries.get? (one.after n).snapshot switch.key =
            Entries.get? (other.after n).snapshot switch.key := by
  obtain ⟨agreeing, calls, stores⟩ := same.parallel n reached otherReached
  refine ⟨same.calls_trace n reached otherReached, congrArg Holdings.host agreeing.holdings,
    congrArg Holdings.dependentsEnabled agreeing.holdings, stores, ?_⟩
  intro switch
  have reads := agreeing.alike.reads switch
  refine ⟨?_, reads, ?_⟩
  · rw [← switch.vetoed_calls, calls, switch.vetoed_calls]
  · rw [one.snapshot_after n, other.snapshot_after n,
      Snapshot.get?_take _ _ _ switch.key_mem_watched,
      Snapshot.get?_take _ _ _ switch.key_mem_watched]
    exact congrArg some reads

end Agreeing

/-! Two courses in which the ambient switch is turned off before every tick, against the
host's will, and the haptic switch blinks.  In one of them gesture C blinks as well. -/

def tapping : Course MemoryPreferences Recorder SettingsTable where
  prefs := ⟨[(Gesture.c.key, true)]⟩
  sink := ⟨true, []⟩
  host := ⟨[], .these [Setting.doze.key], .empty⟩
  debounce := Span.ofMillis 500
  turn n :=
    { editPrefs := fun _ => ⟨[(Gesture.c.key, n == 1), (Key.haptic, n == 1)]⟩
      editHost := id
      editSink := id
      now := ⟨Span.ofMillis 700⟩ }

def still : Course PropertyPreferences DeviceNode SettingsTable where
  prefs := ⟨"", some ⟨[], .empty⟩⟩
  sink := ⟨"", ⟨[], [], none⟩⟩
  host := ⟨[], .these [Setting.doze.key], .empty⟩
  debounce := Span.zero
  turn n :=
    { editPrefs := fun _ =>
        ⟨"", some ⟨[(Key.haptic, if n == 1 then [0x31] else [0x30])], .empty⟩⟩
      editHost := id
      editSink := id
      now := .start }

theorem sameSettings_tapping : tapping.SameSettings still where
  host := rfl
  hostEdits _ _ := rfl
  initial := by
    refine (alike_iff _ _).mpr ⟨?_, ?_⟩
    · intro switch
      cases switch <;> decide +kernel
    · intro switch value
      cases switch <;> cases value <;> decide +kernel
  edits n _ := by
    change Alike (⟨[(Gesture.c.key, n == 1), (Key.haptic, n == 1)]⟩ : MemoryPreferences)
      (⟨"", some ⟨[(Key.haptic, if n == 1 then [0x31] else [0x30])], .empty⟩⟩ :
        PropertyPreferences)
    refine (alike_iff _ _).mpr ⟨?_, ?_⟩
    · intro switch
      cases n == 1 <;> cases switch <;> decide +kernel
    · intro switch value
      cases n == 1 <;> cases switch <;> cases value <;> decide +kernel

theorem reaches_tapping (n : Nat) : tapping.Reaches n := by
  have shown := (Instant.exists_plus?_iff ⟨Span.ofMillis 700⟩ (Span.ofMillis 500)).mpr (by decide)
  exact tapping.reaches_of_plus? n fun _ _ => shown

theorem reaches_still (n : Nat) : still.Reaches n := by
  have shown := (Instant.exists_plus?_iff .start Span.zero).mpr (by decide)
  exact still.reaches_of_plus? n fun _ _ => shown

theorem settings_independent_of_gestures_tapping :
    tapping.SameSettings still ∧ tapping.Reaches 3 ∧ still.Reaches 3 ∧
      HostSwitch.ambient.Vetoed (tapping.events 1) ∧
      HostSwitch.ambient.Vetoed (still.events 1) ∧
      Event.calls (tapping.trace 3) = Event.calls (still.trace 3) := by
  have vetoed : HostSwitch.ambient.Vetoed (tapping.events 1) :=
    ⟨0, .setting "put" "doze_enabled" "denied", by decide +kernel⟩
  have first := settings_independent_of_gestures tapping still sameSettings_tapping 1
    (reaches_tapping 1) (reaches_still 1)
  have third := settings_independent_of_gestures tapping still sameSettings_tapping 3
    (reaches_tapping 3) (reaches_still 3)
  exact ⟨sameSettings_tapping, reaches_tapping 3, reaches_still 3, vetoed,
    (first.2.2.2.2 .ambient).1.mp vetoed, third.1⟩

end Course

end GestureMode
