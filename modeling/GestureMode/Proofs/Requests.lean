import GestureMode.Time.Debounce

/-!
# Rounds of requests

A debouncer is used in rounds: each round may ask for a firing, and then fires
when the deadline has come.  The debouncer remembers one deadline only; the main
statement says what this amounts to over all rounds.  A round fires exactly when
some earlier round, or this one, asked last, nothing has fired since, and the delay
has passed.  When rounds follow each other at a fixed interval, that is a fixed
number of rounds after the request.
-/

set_option autoImplicit false

namespace GestureMode

theorem Instant.total_of_plus? (t later : Instant) (d : Span) (shown : t.plus? d = some later) :
    later.total = t.total + d.total := by
  simp only [plus?] at shown
  split at shown
  · injection shown with same
    subst same
    exact SignedSpan.total_add t.sinceStart d
  · cases shown

theorem Instant.exists_plus?_iff (t : Instant) (d : Span) :
    (∃ later : Instant, t.plus? d = some later) ↔
      t.total + d.total < (lastSecond + 1) * 1000000000 := by
  have small : t.total + d.total < (lastSecond + 1) * 1000000000 ↔
      (t.sinceStart.add d).seconds ≤ lastSecond := by
    rw [SignedSpan.seconds_le_iff_total, SignedSpan.total_add]
    rfl
  rw [small, plus?]
  constructor
  · rintro ⟨later, shown⟩
    apply Classical.byContradiction
    intro large
    rw [if_neg large] at shown
    cases shown
  · intro shown
    exact ⟨_, if_pos shown⟩

theorem Instant.total_advance (t : Instant) (d : Span) :
    (t.advance d).total = t.total + d.total :=
  SignedSpan.total_add t.sinceStart d

namespace Debounce

def request (d : Debounce) (now : Instant) (wanted : Bool) : Except Fault Debounce :=
  if wanted then d.schedule now else .ok d

theorem schedule_eq_ok (d asked : Debounce) (now : Instant)
    (scheduled : d.schedule now = .ok asked) :
    ∃ deadline : Instant, now.plus? d.delay = some deadline ∧
      asked = { d with deadline := some deadline } := by
  rw [schedule] at scheduled
  cases later : now.plus? d.delay with
  | none =>
    rw [later] at scheduled
    cases scheduled
  | some deadline =>
    rw [later] at scheduled
    injection scheduled with same
    exact ⟨deadline, rfl, same.symm⟩

theorem schedule_eq_error_iff (d : Debounce) (now : Instant) (fault : Fault) :
    d.schedule now = .error fault ↔ now.plus? d.delay = none := by
  cases fault
  rw [schedule]
  cases now.plus? d.delay <;> simp

theorem request_of_schedule (d asked : Debounce) (now : Instant) (wanted : Bool)
    (scheduled : d.schedule now = .ok asked) : asked.request now wanted = .ok asked := by
  cases wanted with
  | false => rfl
  | true =>
    obtain ⟨deadline, later, rfl⟩ := schedule_eq_ok d asked now scheduled
    change schedule { d with deadline := some deadline } now = _
    rw [schedule, later]

theorem request_of_plus? (d : Debounce) (now deadline : Instant) (wanted : Bool)
    (shown : now.plus? d.delay = some deadline) :
    ∃ asked : Debounce, d.request now wanted = .ok asked := by
  cases wanted with
  | false => exact ⟨d, rfl⟩
  | true =>
    refine ⟨{ d with deadline := some deadline }, ?_⟩
    rw [request, if_pos rfl, schedule, shown]

theorem delay_of_request (d asked : Debounce) (now : Instant) (wanted : Bool)
    (requested : d.request now wanted = .ok asked) : asked.delay = d.delay := by
  cases wanted with
  | false =>
    injection requested with same
    rw [same]
  | true => exact delay_of_schedule d asked now requested

theorem delay_fire (d : Debounce) (now : Instant) : (d.fire now).1.delay = d.delay := by
  cases due : d.isDue now with
  | true => rw [fire_of_isDue d now due, cancel]
  | false => rw [fire_of_not_isDue d now due]

end Debounce

/-- What is observed of a debouncer in successive rounds: its state before each, the
time of each, whether it asked and whether it fired. -/
structure Rounds where
  debounce : Nat → Debounce
  time : Nat → Instant
  wanted : Nat → Bool
  fired : Nat → Bool

namespace Rounds

/-- The rounds up to `n` are those of a debouncer that was idle at first. -/
structure Played (rounds : Rounds) (delay : Span) (n : Nat) : Prop where
  idle : rounds.debounce 0 = Debounce.idle delay
  round : ∀ m, m ≤ n → ∃ asked : Debounce,
    (rounds.debounce m).request (rounds.time m) (rounds.wanted m) = .ok asked ∧
      asked.fire (rounds.time m) = (rounds.debounce (m + 1), rounds.fired m)

/-- Round `j` is the last up to round `n` that asked, and nothing fired in between. -/
structure Outstanding (rounds : Rounds) (n j : Nat) : Prop where
  le : j ≤ n
  wanted : rounds.wanted j = true
  latest : ∀ m, j < m → m ≤ n → rounds.wanted m = false
  unfired : ∀ m, j ≤ m → m < n → rounds.fired m = false

theorem Played.mono (rounds : Rounds) (delay : Span) (m n : Nat) (le : m ≤ n)
    (played : rounds.Played delay n) : rounds.Played delay m :=
  ⟨played.idle, fun k bound => played.round k (Nat.le_trans bound le)⟩

theorem Played.delay_debounce (rounds : Rounds) (delay : Span) (n : Nat)
    (played : rounds.Played delay n) : (rounds.debounce n).delay = delay := by
  induction n with
  | zero =>
    rw [played.idle]
    rfl
  | succ n ih =>
    obtain ⟨asked, requested, answer⟩ := played.round n (Nat.le_succ n)
    have after : rounds.debounce (n + 1) = (asked.fire (rounds.time n)).1 := by rw [answer]
    rw [after, Debounce.delay_fire,
      Debounce.delay_of_request _ asked _ _ requested,
      ih (played.mono rounds delay n (n + 1) (Nat.le_succ n))]

theorem outstanding_of_wanted (rounds : Rounds) (n j : Nat) (wanted : rounds.wanted n = true) :
    rounds.Outstanding n j ↔ j = n := by
  constructor
  · intro outstanding
    apply Classical.byContradiction
    intro different
    have le := outstanding.le
    have unwanted := outstanding.latest n (by omega) (Nat.le_refl n)
    rw [wanted] at unwanted
    cases unwanted
  · rintro rfl
    exact ⟨Nat.le_refl j, wanted, fun m after upto => by omega, fun m upto before => by omega⟩

theorem Played.deadline_of_wanted (rounds : Rounds) (delay : Span) (n : Nat)
    (played : rounds.Played delay n) (wanted : rounds.wanted n = true) (asked : Debounce)
    (requested : (rounds.debounce n).request (rounds.time n) (rounds.wanted n) = .ok asked)
    (deadline : Instant) :
    asked.deadline = some deadline ↔
      ∃ j, rounds.Outstanding n j ∧ (rounds.time j).plus? delay = some deadline := by
  rw [wanted] at requested
  obtain ⟨later, shown, rfl⟩ := Debounce.schedule_eq_ok _ asked _ requested
  rw [played.delay_debounce rounds delay n] at shown
  constructor
  · intro same
    refine ⟨n, (outstanding_of_wanted rounds n n wanted).mpr rfl, ?_⟩
    rw [shown]
    exact same
  · rintro ⟨j, outstanding, reached⟩
    rw [(outstanding_of_wanted rounds n j wanted).mp outstanding, shown] at reached
    exact reached

theorem outstanding_succ_of_not_wanted (rounds : Rounds) (n j : Nat)
    (unwanted : rounds.wanted (n + 1) = false) :
    rounds.Outstanding (n + 1) j ↔ rounds.Outstanding n j ∧ rounds.fired n = false := by
  constructor
  · rintro ⟨le, wanted, latest, unfired⟩
    have different : j ≠ n + 1 := by
      rintro rfl
      rw [unwanted] at wanted
      cases wanted
    refine ⟨⟨by omega, wanted, ?_, ?_⟩, unfired n (by omega) (by omega)⟩
    · intro m after upto
      exact latest m after (by omega)
    · intro m after upto
      exact unfired m after (by omega)
  · rintro ⟨⟨le, wanted, latest, unfired⟩, quiet⟩
    refine ⟨by omega, wanted, ?_, ?_⟩
    · intro m after upto
      by_cases last : m = n + 1
      · rw [last, unwanted]
      · exact latest m after (by omega)
    · intro m after upto
      by_cases last : m = n
      · rw [last, quiet]
      · exact unfired m after (by omega)

theorem Played.fire (rounds : Rounds) (delay : Span) (n : Nat) (played : rounds.Played delay n)
    (asked : Debounce)
    (requested : (rounds.debounce n).request (rounds.time n) (rounds.wanted n) = .ok asked) :
    asked.fire (rounds.time n) = (rounds.debounce (n + 1), rounds.fired n) := by
  obtain ⟨other, otherRequested, answer⟩ := played.round n (Nat.le_refl n)
  rw [requested] at otherRequested
  injection otherRequested with same
  rw [same, answer]

theorem Played.fired_eq (rounds : Rounds) (delay : Span) (n : Nat)
    (played : rounds.Played delay n) (asked : Debounce)
    (requested : (rounds.debounce n).request (rounds.time n) (rounds.wanted n) = .ok asked) :
    rounds.fired n = asked.isDue (rounds.time n) := by
  have answer := played.fire rounds delay n asked requested
  cases due : asked.isDue (rounds.time n) with
  | true =>
    rw [Debounce.fire_of_isDue asked _ due] at answer
    exact (congrArg Prod.snd answer).symm
  | false =>
    rw [Debounce.fire_of_not_isDue asked _ due] at answer
    exact (congrArg Prod.snd answer).symm

/-- After a round has asked or not, the deadline is that of the outstanding request. -/
theorem Played.deadline_eq_some_iff (rounds : Rounds) (delay : Span) (n : Nat)
    (played : rounds.Played delay n) (asked : Debounce)
    (requested : (rounds.debounce n).request (rounds.time n) (rounds.wanted n) = .ok asked)
    (deadline : Instant) :
    asked.deadline = some deadline ↔
      ∃ j, rounds.Outstanding n j ∧ (rounds.time j).plus? delay = some deadline := by
  induction n generalizing asked with
  | zero =>
    cases wanted : rounds.wanted 0 with
    | true => exact played.deadline_of_wanted rounds delay 0 wanted asked requested deadline
    | false =>
      rw [wanted, played.idle] at requested
      injection requested with same
      subst same
      constructor
      · intro impossible
        cases impossible
      · rintro ⟨j, outstanding, -⟩
        have first : j = 0 := Nat.le_zero.mp outstanding.le
        have asks := outstanding.wanted
        rw [first, wanted] at asks
        cases asks
  | succ n ih =>
    cases wanted : rounds.wanted (n + 1) with
    | true =>
      exact played.deadline_of_wanted rounds delay (n + 1) wanted asked requested deadline
    | false =>
      rw [wanted] at requested
      injection requested with same
      subst same
      have earlier := played.mono rounds delay n (n + 1) (Nat.le_succ n)
      obtain ⟨before, beforeRequested, answer⟩ := earlier.round n (Nat.le_refl n)
      have fired := earlier.fired_eq rounds delay n before beforeRequested
      cases due : before.isDue (rounds.time n) with
      | true =>
        rw [Debounce.fire_of_isDue before _ due] at answer
        have cleared : (rounds.debounce (n + 1)).deadline = none := by
          have kept : before.cancel = rounds.debounce (n + 1) := congrArg Prod.fst answer
          rw [← kept, Debounce.deadline_cancel]
        rw [cleared]
        constructor
        · intro impossible
          cases impossible
        · rintro ⟨j, outstanding, -⟩
          have quiet := ((outstanding_succ_of_not_wanted rounds n j wanted).mp outstanding).2
          rw [fired, due] at quiet
          cases quiet
      | false =>
        rw [Debounce.fire_of_not_isDue before _ due] at answer
        have kept : rounds.debounce (n + 1) = before := (congrArg Prod.fst answer).symm
        rw [kept, ih earlier before beforeRequested]
        constructor
        · rintro ⟨j, outstanding, shown⟩
          exact ⟨j, (outstanding_succ_of_not_wanted rounds n j wanted).mpr
            ⟨outstanding, by rw [fired, due]⟩, shown⟩
        · rintro ⟨j, outstanding, shown⟩
          exact ⟨j, ((outstanding_succ_of_not_wanted rounds n j wanted).mp outstanding).1, shown⟩

theorem Played.shown_of_wanted (rounds : Rounds) (delay : Span) (n j : Nat)
    (played : rounds.Played delay n) (le : j ≤ n) (wanted : rounds.wanted j = true) :
    ∃ deadline : Instant, (rounds.time j).plus? delay = some deadline := by
  have earlier := played.mono rounds delay j n le
  obtain ⟨asked, requested, -⟩ := played.round j le
  rw [wanted] at requested
  obtain ⟨deadline, shown, -⟩ := Debounce.schedule_eq_ok _ asked _ requested
  rw [earlier.delay_debounce rounds delay j] at shown
  exact ⟨deadline, shown⟩

/-- A round fires exactly when a request is outstanding whose delay has passed. -/
theorem Played.fired_iff (rounds : Rounds) (delay : Span) (n : Nat)
    (played : rounds.Played delay n) :
    rounds.fired n = true ↔
      ∃ j, rounds.Outstanding n j ∧
        (rounds.time j).total + delay.total ≤ (rounds.time n).total := by
  obtain ⟨asked, requested, -⟩ := played.round n (Nat.le_refl n)
  have deadlines := played.deadline_eq_some_iff rounds delay n asked requested
  rw [played.fired_eq rounds delay n asked requested, Debounce.isDue_iff]
  constructor
  · rintro ⟨deadline, pending, reached⟩
    obtain ⟨j, outstanding, shown⟩ := (deadlines deadline).mp pending
    refine ⟨j, outstanding, ?_⟩
    rw [← Instant.total_of_plus? _ deadline delay shown]
    exact reached
  · rintro ⟨j, outstanding, passed⟩
    obtain ⟨deadline, shown⟩ :=
      played.shown_of_wanted rounds delay n j outstanding.le outstanding.wanted
    refine ⟨deadline, (deadlines deadline).mpr ⟨j, outstanding, shown⟩, ?_⟩
    rw [Instant.total_of_plus? _ deadline delay shown]
    exact passed

theorem le_mul_iff_ceil_le (delay interval n : Nat) (positive : 0 < interval) :
    delay ≤ n * interval ↔ (delay + interval - 1) / interval ≤ n := by
  rw [← Nat.lt_succ_iff (m := (delay + interval - 1) / interval), Nat.div_lt_iff_lt_mul positive,
    Nat.succ_mul]
  omega

/-- At a fixed interval a round fires exactly when the last request was made `lag`
rounds ago, the least number of intervals that covers the delay. -/
theorem Played.fired_iff_of_interval (rounds : Rounds) (delay : Span) (start : Int)
    (interval lag n : Nat) (covers : ∀ m, delay.total ≤ m * interval ↔ lag ≤ m)
    (regular : ∀ m, (rounds.time m).total = start + (m * interval : Nat))
    (played : rounds.Played delay n) :
    rounds.fired n = true ↔
      lag ≤ n ∧ rounds.wanted (n - lag) = true ∧
        ∀ m, n - lag < m → m ≤ n → rounds.wanted m = false := by
  -- the delay since round `j` has passed at round `m` when `lag` rounds lie between
  have passed_iff : ∀ j m, j ≤ m →
      ((rounds.time j).total + delay.total ≤ (rounds.time m).total ↔ j + lag ≤ m) := by
    intro j m le
    rw [regular j, regular m, Int.add_assoc, Int.add_le_add_iff_left, ← Int.natCast_add,
      Int.ofNat_le]
    have split : m * interval = j * interval + (m - j) * interval := by
      rw [← Nat.add_mul]
      congr 1
      omega
    rw [split, Nat.add_le_add_iff_left, covers (m - j)]
    omega
  rw [played.fired_iff rounds delay n]
  constructor
  · rintro ⟨j, outstanding, passed⟩
    have late : j + lag ≤ n := (passed_iff j n outstanding.le).mp passed
    -- were it later, the request would have fired at round `j + lag` already
    have exact : j + lag = n := by
      apply Classical.byContradiction
      intro different
      have early := played.mono rounds delay (j + lag) n late
      have fires : rounds.fired (j + lag) = true := by
        apply (early.fired_iff rounds delay (j + lag)).mpr
        refine ⟨j, ⟨by omega, outstanding.wanted, ?_, ?_⟩,
          (passed_iff j (j + lag) (by omega)).mpr (Nat.le_refl _)⟩
        · intro m after upto
          exact outstanding.latest m after (by omega)
        · intro m after before
          exact outstanding.unfired m after (by omega)
      have silent := outstanding.unfired (j + lag) (by omega) (by omega)
      rw [fires] at silent
      cases silent
    have back : n - lag = j := by omega
    rw [back]
    exact ⟨by omega, outstanding.wanted, outstanding.latest⟩
  · rintro ⟨late, wanted, latest⟩
    refine ⟨n - lag, ⟨by omega, wanted, latest, ?_⟩,
      (passed_iff (n - lag) n (by omega)).mpr (by omega)⟩
    intro m after before
    cases fires : rounds.fired m with
    | false => rfl
    | true =>
      have early := played.mono rounds delay m n (by omega)
      obtain ⟨j, outstanding, passed⟩ := (early.fired_iff rounds delay m).mp fires
      have passedAt := (passed_iff j m outstanding.le).mp passed
      have asks := outstanding.latest (n - lag) (by omega) after
      rw [wanted] at asks
      cases asks

end Rounds

end GestureMode
