import GestureMode.Gesture.Switches
import GestureMode.Preference.Key
import GestureMode.Proofs.Latest

/-!
# Fresh switches

Switches that were loaded from a store can be kept up to date without another load: it is
enough to announce the preferences that changed.  A history mixes changes of the store with
loads, announcements and switches that are set by hand.  Every switch has the value that the
latest of these operations gave it, and when every change of a gesture's switch is announced
at some time after it, the switches are the ones that a load would give.
-/

set_option autoImplicit false

namespace GestureMode

open PreferenceStore

/-- Something that happens to a store, or to the switches that are known of it. -/
inductive SwitchOperation (P : Type) where
  | edit (change : P → P)
  | load
  | announce (key : String)
  | set (gesture : Gesture) (on : Bool)

structure KnownSwitches (P : Type) where
  prefs : P
  switches : Switches

namespace SwitchOperation

variable {P : Type}

/-- Whether the operation gives the gesture's switch a value. -/
def Concerns (gesture : Gesture) : SwitchOperation P → Prop
  | edit _ => False
  | load => True
  | announce key => key = gesture.key
  | set other _ => other = gesture

/-- The value that an operation gives to the switches it concerns: the one that was set by
hand, or else what the store reads at that moment. -/
def value [PreferenceStore P] (prefs : P) (gesture : Gesture) : SwitchOperation P → Bool
  | set _ on => on
  | edit _ | load | announce _ => isOn prefs gesture.key

end SwitchOperation

namespace KnownSwitches

variable {P : Type} [PreferenceStore P]

def loaded (prefs : P) : KnownSwitches P :=
  ⟨prefs, Switches.load prefs⟩

def perform (known : KnownSwitches P) : SwitchOperation P → KnownSwitches P
  | .edit change => { known with prefs := change known.prefs }
  | .load => { known with switches := Switches.load known.prefs }
  | .announce key =>
    { known with switches := (known.switches.announce? known.prefs key).getD known.switches }
  | .set gesture on => { known with switches := known.switches.set gesture on }

def run (known : KnownSwitches P) (history : List (SwitchOperation P)) : KnownSwitches P :=
  history.foldl perform known

theorem run_append (known : KnownSwitches P) (earlier later : List (SwitchOperation P)) :
    known.run (earlier ++ later) = (known.run earlier).run later :=
  List.foldl_append

theorem announce?_key (known : KnownSwitches P) (gesture : Gesture) :
    known.switches.announce? known.prefs gesture.key =
      some (known.switches.refresh known.prefs gesture) := by
  rw [Switches.announce?, Gesture.ofKey?_key, Option.map_some]

theorem announce?_of_ne (known : KnownSwitches P) (key : String)
    (other : ∀ gesture : Gesture, key ≠ gesture.key) :
    known.switches.announce? known.prefs key = none := by
  rw [Switches.announce?, Option.map_eq_none_iff, Option.eq_none_iff_forall_ne_some]
  intro gesture found
  exact other gesture ((Gesture.ofKey?_eq_some_iff key gesture).mp found)

theorem perform_announce_of_ne (known : KnownSwitches P) (key : String)
    (other : ∀ gesture : Gesture, key ≠ gesture.key) : known.perform (.announce key) = known := by
  rw [perform, known.announce?_of_ne key other]
  rfl

theorem isOn_announce (known : KnownSwitches P) (key : String) (gesture : Gesture) :
    (known.perform (.announce key)).switches.isOn gesture =
      if key = gesture.key then isOn known.prefs gesture.key
      else known.switches.isOn gesture := by
  by_cases found : ∃ other : Gesture, key = other.key
  · obtain ⟨other, rfl⟩ := found
    have same : gesture = other ↔ other.key = gesture.key :=
      ⟨fun equal => congrArg Gesture.key equal.symm,
        fun equal => (Gesture.key_injective other gesture equal).symm⟩
    rw [perform, known.announce?_key other, Option.getD_some, Switches.refresh,
      Switches.isOn_set]
    by_cases equal : gesture = other
    · rw [if_pos equal, if_pos (same.mp equal), equal]
    · rw [if_neg equal, if_neg (mt same.mpr equal)]
  · have other : ∀ other : Gesture, key ≠ other.key := fun other equal => found ⟨other, equal⟩
    rw [known.perform_announce_of_ne key other, if_neg (other gesture)]

theorem isOn_perform_of_concerns (known : KnownSwitches P) (operation : SwitchOperation P)
    (gesture : Gesture) (concerns : operation.Concerns gesture) :
    (known.perform operation).switches.isOn gesture = operation.value known.prefs gesture := by
  cases operation with
  | edit change => exact concerns.elim
  | load => exact Switches.isOn_load known.prefs gesture
  | announce key =>
    have same : key = gesture.key := concerns
    rw [isOn_announce, if_pos same]
    rfl
  | set other on =>
    have same : other = gesture := concerns
    rw [perform, Switches.isOn_set, if_pos same.symm]
    rfl

theorem isOn_perform_of_not_concerns (known : KnownSwitches P) (operation : SwitchOperation P)
    (gesture : Gesture) (unconcerned : ¬ operation.Concerns gesture) :
    (known.perform operation).switches.isOn gesture = known.switches.isOn gesture := by
  cases operation with
  | edit change => rfl
  | load => exact absurd trivial unconcerned
  | announce key =>
    have different : key ≠ gesture.key := unconcerned
    rw [isOn_announce, if_neg different]
  | set other on =>
    have different : gesture ≠ other := fun same => unconcerned same.symm
    rw [perform, Switches.isOn_set, if_neg different]

theorem decides_switch (gesture : Gesture) :
    Decides (perform (P := P)) (fun known => known.switches.isOn gesture)
      (fun _ operation => operation.Concerns gesture)
      (fun known operation => operation.value known.prefs gesture) where
  decided known operation := known.isOn_perform_of_concerns operation gesture
  kept known operation := known.isOn_perform_of_not_concerns operation gesture

theorem isOn_run_of_not_concerns (known : KnownSwitches P) (history : List (SwitchOperation P))
    (gesture : Gesture) (unconcerned : ∀ operation ∈ history, ¬ operation.Concerns gesture) :
    (known.run history).switches.isOn gesture = known.switches.isOn gesture :=
  (decides_switch gesture).view_of_undecided known history
    (.of_forall known history fun operation member _ => unconcerned operation member)

theorem isOn_run_of_latest (known : KnownSwitches P) (before after : List (SwitchOperation P))
    (operation : SwitchOperation P) (gesture : Gesture) (concerns : operation.Concerns gesture)
    (latest : ∀ later ∈ after, ¬ later.Concerns gesture) :
    (known.run (before ++ operation :: after)).switches.isOn gesture =
      operation.value (known.run before).prefs gesture :=
  (decides_switch gesture).view_of_latest known before after operation concerns
    (.of_forall _ after fun later member _ => latest later member)

/-! ## Announcing every change -/

def Fresh (known : KnownSwitches P) (gesture : Gesture) : Prop :=
  known.switches.isOn gesture = isOn known.prefs gesture.key

/-- Every change of the gesture's switch in the store is announced at some time after it. -/
def Announced (known : KnownSwitches P) (gesture : Gesture)
    (history : List (SwitchOperation P)) : Prop :=
  ∀ (before after : List (SwitchOperation P)) (change : P → P),
    history = before ++ .edit change :: after →
      isOn (change (known.run before).prefs) gesture.key ≠
          isOn (known.run before).prefs gesture.key →
        .announce gesture.key ∈ after

theorem announced_cons_iff (known : KnownSwitches P) (gesture : Gesture)
    (operation : SwitchOperation P) (rest : List (SwitchOperation P)) :
    known.Announced gesture (operation :: rest) ↔
      (∀ change : P → P, operation = .edit change →
        isOn (change known.prefs) gesture.key ≠ isOn known.prefs gesture.key →
          .announce gesture.key ∈ rest) ∧
      (known.perform operation).Announced gesture rest := by
  constructor
  · intro announced
    constructor
    · rintro change rfl
      exact announced [] rest change rfl
    · intro before after change split
      exact announced (operation :: before) after change (by rw [split]; rfl)
  · rintro ⟨head, tail⟩ before after change split
    cases before with
    | nil =>
      injection split with same rest
      subst rest
      exact head change same
    | cons first before =>
      injection split with same rest
      subst same
      exact tail before after change rest

theorem eq_load_of_fresh (known : KnownSwitches P)
    (fresh : ∀ gesture : Gesture, known.Fresh gesture) :
    known.switches = Switches.load known.prefs := by
  apply Switches.eq_of_isOn
  intro gesture
  rw [fresh gesture, Switches.isOn_load]

/-- A switch stays fresh, or its announcement is still to come. -/
theorem Fresh.perform {known : KnownSwitches P} {gesture : Gesture} {operation : SwitchOperation P}
    {rest : List (SwitchOperation P)} (announced : known.Announced gesture (operation :: rest))
    (unset : ∀ on : Bool, operation ≠ .set gesture on)
    (fresh : known.Fresh gesture ∨ .announce gesture.key ∈ operation :: rest) :
    (known.perform operation).Fresh gesture ∨ .announce gesture.key ∈ rest := by
  by_cases concerns : operation.Concerns gesture
  · have read := known.isOn_perform_of_concerns operation gesture concerns
    cases operation with
    | edit change => exact concerns.elim
    | load | announce key => exact .inl read
    | set other on =>
      have same : other = gesture := concerns
      exact absurd (by rw [same]) (unset on)
  · have kept := known.isOn_perform_of_not_concerns operation gesture concerns
    have later : .announce gesture.key ∈ operation :: rest → .announce gesture.key ∈ rest := by
      intro member
      rcases List.mem_cons.mp member with same | inRest
      · rw [← same] at concerns
        exact absurd rfl concerns
      · exact inRest
    cases operation with
    | edit change =>
      by_cases changed : isOn (change known.prefs) gesture.key = isOn known.prefs gesture.key
      · refine fresh.imp (fun held => ?_) later
        exact (kept.trans held).trans changed.symm
      · exact .inr (((known.announced_cons_iff gesture _ rest).mp announced).1 change rfl changed)
    | load | announce key | set other on =>
      exact fresh.imp kept.trans later

theorem fresh_run (known : KnownSwitches P) (history : List (SwitchOperation P)) (gesture : Gesture)
    (announced : known.Announced gesture history)
    (unset : ∀ on : Bool, .set gesture on ∉ history)
    (fresh : known.Fresh gesture ∨ .announce gesture.key ∈ history) :
    (known.run history).Fresh gesture := by
  induction history generalizing known with
  | nil => exact fresh.resolve_right List.not_mem_nil
  | cons operation rest ih =>
    apply ih (known.perform operation)
      ((known.announced_cons_iff gesture operation rest).mp announced).2
    · intro on member
      exact unset on (List.mem_cons_of_mem operation member)
    · apply Fresh.perform announced _ fresh
      rintro on rfl
      exact unset on List.mem_cons_self

/-- Loaded switches that have every change announced are those of another load. -/
theorem run_eq_load (known : KnownSwitches P) (history : List (SwitchOperation P))
    (fresh : known.switches = Switches.load known.prefs)
    (announced : ∀ gesture : Gesture, known.Announced gesture history)
    (unset : ∀ (gesture : Gesture) (on : Bool), .set gesture on ∉ history) :
    (known.run history).switches = Switches.load (known.run history).prefs := by
  apply eq_load_of_fresh
  intro gesture
  have begun : known.Fresh gesture := by rw [Fresh, fresh, Switches.isOn_load]
  exact known.fresh_run history gesture (announced gesture) (unset gesture) (.inl begun)

/-- However a history goes on from loaded switches, each switch has the value of the latest
operation that concerns it, or else the loaded one.  If nothing was set by hand since the
latest load and every change of a gesture's switch since then was announced after it, the
switches are those of a load.  An announcement answers all switches when the preference is
that of a gesture, and does nothing otherwise. -/
theorem latest_operation_decides (prefs : P) (history : List (SwitchOperation P)) :
    let begun := loaded prefs
    let known := begun.run history
    (∀ (gesture : Gesture) (before after : List (SwitchOperation P))
        (operation : SwitchOperation P),
      history = before ++ operation :: after → operation.Concerns gesture →
        (∀ later ∈ after, ¬ later.Concerns gesture) →
          known.switches.isOn gesture = operation.value (begun.run before).prefs gesture) ∧
      (∀ gesture : Gesture, (∀ operation ∈ history, ¬ operation.Concerns gesture) →
        known.switches.isOn gesture = isOn prefs gesture.key) ∧
      (∀ earlier since : List (SwitchOperation P), history = earlier ++ since →
        (earlier = [] ∨ ∃ before : List (SwitchOperation P), earlier = before ++ [.load]) →
          (∀ gesture : Gesture, (begun.run earlier).Announced gesture since) →
          (∀ (gesture : Gesture) (on : Bool), .set gesture on ∉ since) →
            known.switches = Switches.load known.prefs) ∧
      ∀ key : String,
        (∀ gesture : Gesture, key = gesture.key → ∃ answer : Switches,
          known.switches.announce? known.prefs key = some answer ∧
            (known.perform (.announce key)).switches = answer ∧
            ∀ other : Gesture, answer.isOn other =
              if key = other.key then isOn known.prefs other.key
              else known.switches.isOn other) ∧
        ((∀ gesture : Gesture, key ≠ gesture.key) →
          known.switches.announce? known.prefs key = none ∧
            known.perform (.announce key) = known) := by
  intro begun known
  refine ⟨?_, ?_, ?_, ?_⟩
  · intro gesture before after operation split concerns latest
    have decided := begun.isOn_run_of_latest before after operation gesture concerns latest
    rw [← split] at decided
    exact decided
  · intro gesture unconcerned
    have kept := begun.isOn_run_of_not_concerns history gesture unconcerned
    exact kept.trans (Switches.isOn_load prefs gesture)
  · intro earlier since split last announced unset
    have fresh : (begun.run earlier).switches = Switches.load (begun.run earlier).prefs := by
      rcases last with rfl | ⟨before, rfl⟩
      · rfl
      · rw [run_append]
        rfl
    have ended := (begun.run earlier).run_eq_load since fresh announced unset
    rw [← run_append, ← split] at ended
    exact ended
  · intro key
    constructor
    · rintro gesture rfl
      have answered := known.announce?_key gesture
      have performed : (known.perform (.announce gesture.key)).switches =
          known.switches.refresh known.prefs gesture := by
        rw [perform, answered]
        rfl
      refine ⟨_, answered, performed, ?_⟩
      intro other
      rw [← performed, known.isOn_announce]
    · intro other
      exact ⟨known.announce?_of_ne key other, known.perform_announce_of_ne key other⟩

/-! Gesture E is set by hand and forgotten by a load.  Then gesture C is switched on in the
store, and announced behind the umbrella switch. -/

def setByHand : List (SwitchOperation MemoryPreferences) :=
  [.set .e true, .load]

def switchedOn : List (SwitchOperation MemoryPreferences) :=
  [.edit fun prefs => prefs.insert Gesture.c.key true, .announce Key.control,
    .announce Gesture.c.key]

theorem announced_switchedOn (gesture : Gesture) :
    ((loaded ⟨[]⟩).run setByHand).Announced gesture switchedOn := by
  refine (announced_cons_iff _ gesture _ _).mpr ⟨?_, ?_⟩
  · intro change same changed
    injection same with same
    subst same
    by_cases named : gesture = .c
    · rw [named]
      exact List.mem_cons_of_mem _ List.mem_cons_self
    · have different : gesture.key ≠ Gesture.c.key := mt (Gesture.key_injective gesture .c) named
      exact absurd (isOn_congr _ _ _ (Entries.get?_put_of_ne [] _ _ true different)) changed
  · intro before after change split
    have member :
        SwitchOperation.edit change ∈ [.announce Key.control, .announce Gesture.c.key] := by
      rw [split]
      simp
    simp at member

theorem latest_operation_decides_switchedOn :
    let known := (loaded (⟨[]⟩ : MemoryPreferences)).run (setByHand ++ switchedOn)
    known.switches.isOn .e = false ∧ known.switches.isOn .c = true ∧
      known.switches = Switches.load known.prefs ∧
      known.switches.announce? known.prefs Key.haptic = none := by
  intro known
  obtain ⟨latest, -, fresh, answers⟩ :=
    latest_operation_decides (⟨[]⟩ : MemoryPreferences) (setByHand ++ switchedOn)
  refine ⟨?_, ?_, ?_, ?_⟩
  · refine (latest .e [.set .e true] switchedOn .load rfl trivial ?_).trans (by decide)
    intro later member
    simp only [switchedOn, List.mem_cons, List.not_mem_nil, or_false] at member
    rcases member with rfl | rfl | rfl
    · exact id
    · exact (by decide : Key.control ≠ Gesture.e.key)
    · exact (by decide : Gesture.c.key ≠ Gesture.e.key)
  · refine (latest .c (setByHand ++ switchedOn.take 2) [] (.announce Gesture.c.key) rfl rfl
      ?_).trans (by decide +kernel)
    intro later member
    cases member
  · refine fresh setByHand switchedOn rfl (.inr ⟨[.set .e true], rfl⟩) announced_switchedOn ?_
    intro gesture on member
    simp [switchedOn] at member
  · refine ((answers Key.haptic).2 ?_).1
    intro gesture
    cases gesture <;> decide

end KnownSwitches

end GestureMode
