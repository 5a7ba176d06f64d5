import GestureMode.Proofs.Latest
import GestureMode.Proofs.Snapshot

/-!
# Watched keys over a history

A snapshot is polled and written to in any order while its store changes.  For each of its
places it holds one value, which a poll and a recorded value replace; a key that is watched
more than once has several places, and only the first of them is recorded.  A poll reports
the places that read differently, so what was reported and recorded so far is enough to tell
how the store read at the last poll.
-/

set_option autoImplicit false

namespace GestureMode

open PreferenceStore

namespace Snapshot

def last? (snapshot : Snapshot) (place : Nat) : Option Bool :=
  (snapshot.map Prod.snd)[place]?

theorem map_fst_record (snapshot : Snapshot) (key : String) (value : Bool) :
    (snapshot.record key value).map Prod.fst = snapshot.map Prod.fst := by
  induction snapshot with
  | nil => rfl
  | cons entry rest ih =>
    obtain ⟨k, last⟩ := entry
    by_cases same : k = key
    · rw [record, if_pos same]
      rfl
    · rw [record, if_neg same, List.map_cons, ih]
      rfl

theorem map_snd_record (snapshot : Snapshot) (key : String) (value : Bool) :
    (snapshot.record key value).map Prod.snd =
      (snapshot.map Prod.snd).set ((snapshot.map Prod.fst).idxOf key) value := by
  induction snapshot with
  | nil => rfl
  | cons entry rest ih =>
    obtain ⟨k, last⟩ := entry
    by_cases same : k = key
    · simp [record, same]
    · have later : (k :: rest.map Prod.fst).idxOf key = (rest.map Prod.fst).idxOf key + 1 := by
        rw [List.idxOf_cons, beq_false_of_ne same, cond_false]
      simp only [record, if_neg same, List.map_cons, ih, later, List.set_cons_succ]

variable {P : Type} [PreferenceStore P]

theorem map_fst_refresh (snapshot : Snapshot) (prefs : P) :
    (snapshot.refresh prefs).map Prod.fst = snapshot.map Prod.fst :=
  map_fst_take _ prefs

theorem map_snd_take (keys : List String) (prefs : P) :
    (take keys prefs).map Prod.snd = keys.map (isOn prefs) := by
  simp [take, Function.comp_def]

/-- The places that read differently than the snapshot holds them, with their keys. -/
def differing (snapshot : Snapshot) (prefs : P) : List (String × Nat) :=
  (snapshot.map Prod.fst).zipIdx.filter fun entry =>
    snapshot.last? entry.2 != some (isOn prefs entry.1)

theorem changed_eq_differing (snapshot : Snapshot) (prefs : P) :
    snapshot.changed prefs = (snapshot.differing prefs).map Prod.fst := by
  have same : ∀ entry ∈ snapshot.zipIdx,
      (isOn prefs entry.1.1 != entry.1.2) =
        (snapshot.last? entry.2 != some (isOn prefs entry.1.1)) := by
    intro entry member
    have held : snapshot.last? entry.2 = some entry.1.2 := by
      rw [last?, List.getElem?_map, List.mem_zipIdx_iff_getElem?.mp member, Option.map_some]
    rw [held]
    cases isOn prefs entry.1.1 <;> cases entry.1.2 <;> rfl
  calc snapshot.changed prefs
      = ((snapshot.zipIdx.map Prod.fst).filter fun entry =>
          isOn prefs entry.1 != entry.2).map Prod.fst := by
        rw [List.zipIdx_map_fst, changed]
    _ = ((snapshot.zipIdx.filter fun entry =>
          isOn prefs entry.1.1 != entry.1.2).map Prod.fst).map Prod.fst := by
        rw [List.filter_map]
        rfl
    _ = ((snapshot.zipIdx.filter fun entry =>
          snapshot.last? entry.2 != some (isOn prefs entry.1.1)).map Prod.fst).map Prod.fst := by
        rw [List.filter_congr same]
    _ = (snapshot.differing prefs).map Prod.fst := by
        rw [differing, List.zipIdx_map, List.filter_map, List.map_map, List.map_map]
        rfl

theorem mem_differing_iff (snapshot : Snapshot) (prefs : P) (key : String) (place : Nat) :
    (key, place) ∈ snapshot.differing prefs ↔
      (snapshot.map Prod.fst)[place]? = some key ∧
        snapshot.last? place ≠ some (isOn prefs key) := by
  rw [differing, List.mem_filter, List.mk_mem_zipIdx_iff_getElem?, bne_iff_ne]

theorem nodup_differing (snapshot : Snapshot) (prefs : P) :
    ((snapshot.differing prefs).map Prod.snd).Nodup := by
  have places : ((snapshot.map Prod.fst).zipIdx.map Prod.snd).Nodup := by
    rw [List.zipIdx_map_snd]
    exact List.nodup_range'
  exact places.sublist (List.filter_sublist.map Prod.snd)

def flip (values : List Bool) (place : Nat) : List Bool :=
  values.modify place not

theorem getElem?_foldl_flip (places : List Nat) (nodup : places.Nodup) (values : List Bool)
    (place : Nat) :
    (places.foldl flip values)[place]? =
      values[place]?.map fun value => if place ∈ places then !value else value := by
  induction places generalizing values with
  | nil => simp
  | cons head rest ih =>
    obtain ⟨absent, restNodup⟩ := List.nodup_cons.mp nodup
    rw [List.foldl_cons, ih restNodup, flip, List.getElem?_modify]
    by_cases same : head = place
    · subst same
      simp [absent, Function.comp_def]
    · simp [same, Ne.symm same]

/-- The differing places, turned over, read as the store does. -/
theorem foldl_flip_differing (snapshot : Snapshot) (prefs : P) :
    ((snapshot.differing prefs).map Prod.snd).foldl flip (snapshot.map Prod.snd) =
      (snapshot.refresh prefs).map Prod.snd := by
  rw [refresh, map_snd_take]
  apply List.ext_getElem?
  intro place
  rw [getElem?_foldl_flip _ (snapshot.nodup_differing prefs), List.getElem?_map,
    List.getElem?_map, List.getElem?_map]
  cases held : snapshot[place]? with
  | none => rfl
  | some entry =>
    obtain ⟨key, value⟩ := entry
    have differs : place ∈ (snapshot.differing prefs).map Prod.snd ↔ value ≠ isOn prefs key := by
      have keyAt : (snapshot.map Prod.fst)[place]? = some key := by
        rw [List.getElem?_map, held, Option.map_some]
      have lastAt : snapshot.last? place = some value := by
        rw [last?, List.getElem?_map, held, Option.map_some]
      constructor
      · intro member
        obtain ⟨⟨other, _⟩, found, rfl⟩ := List.mem_map.mp member
        obtain ⟨otherAt, different⟩ := (snapshot.mem_differing_iff prefs other _).mp found
        rw [keyAt] at otherAt
        injection otherAt with same
        rw [lastAt, ← same] at different
        exact fun equal => different (congrArg some equal)
      · intro different
        refine List.mem_map.mpr ⟨(key, place), ?_, rfl⟩
        refine (snapshot.mem_differing_iff prefs key place).mpr ⟨keyAt, ?_⟩
        rw [lastAt]
        exact fun equal => different (Option.some.inj equal)
    simp only [Option.map_some, differs]
    cases value <;> cases isOn prefs key <;> rfl

end Snapshot

/-! ## Histories -/

/-- Something that happens to a watched store, or to the snapshot that is held of it. -/
inductive WatchOperation (P : Type) where
  | edit (change : P → P)
  | poll
  | record (key : String) (value : Bool)

structure Watch (P : Type) where
  prefs : P
  snapshot : Snapshot

namespace WatchOperation

variable {P : Type}

/-- Whether the operation gives a place of the watched keys a value.  What is recorded goes
to the first place of its key. -/
def Concerns (keys : List String) (place : Nat) : WatchOperation P → Prop
  | edit _ => False
  | poll => True
  | record key _ => keys.idxOf key = place

def value [PreferenceStore P] (prefs : P) (key : String) : WatchOperation P → Bool
  | record _ value => value
  | edit _ | poll => isOn prefs key

end WatchOperation

/-- What the one who polls and records knows of it afterwards. -/
inductive WatchRecord where
  | reported (places : List Nat)
  | recorded (key : String) (value : Bool)

/-- Turns over the values that were reported, and sets the one that was recorded. -/
def WatchRecord.replay (keys : List String) (values : List Bool) : WatchRecord → List Bool
  | reported places => places.foldl Snapshot.flip values
  | recorded key value => values.set (keys.idxOf key) value

namespace Watch

variable {P : Type} [PreferenceStore P]

def taken (keys : List String) (prefs : P) : Watch P :=
  ⟨prefs, Snapshot.take keys prefs⟩

def keys (watch : Watch P) : List String :=
  watch.snapshot.map Prod.fst

def perform (watch : Watch P) : WatchOperation P → Watch P
  | .edit change => { watch with prefs := change watch.prefs }
  | .poll => { watch with snapshot := (watch.snapshot.poll watch.prefs).1 }
  | .record key value => { watch with snapshot := watch.snapshot.record key value }

def run (watch : Watch P) (history : List (WatchOperation P)) : Watch P :=
  history.foldl perform watch

def report (watch : Watch P) : List String :=
  (watch.snapshot.poll watch.prefs).2

def records (watch : Watch P) : WatchOperation P → List WatchRecord
  | .edit _ => []
  | .poll => [.reported ((watch.snapshot.differing watch.prefs).map Prod.snd)]
  | .record key value => [.recorded key value]

def log (watch : Watch P) : List (WatchOperation P) → List WatchRecord
  | [] => []
  | operation :: rest => watch.records operation ++ (watch.perform operation).log rest

theorem run_append (watch : Watch P) (earlier later : List (WatchOperation P)) :
    watch.run (earlier ++ later) = (watch.run earlier).run later :=
  List.foldl_append

theorem keys_perform (watch : Watch P) (operation : WatchOperation P) :
    (watch.perform operation).keys = watch.keys := by
  cases operation with
  | edit change => rfl
  | poll => exact watch.snapshot.map_fst_refresh watch.prefs
  | record key value => exact watch.snapshot.map_fst_record key value

theorem keys_run (watch : Watch P) (history : List (WatchOperation P)) :
    (watch.run history).keys = watch.keys := by
  induction history generalizing watch with
  | nil => rfl
  | cons operation rest ih =>
    exact (ih (watch.perform operation)).trans (watch.keys_perform operation)

theorem keys_taken (keys : List String) (prefs : P) : (taken keys prefs).keys = keys :=
  Snapshot.map_fst_take keys prefs

theorem decides_last (place : Nat) :
    Decides (perform (P := P)) (fun watch => watch.snapshot.last? place)
      (fun watch operation => operation.Concerns watch.keys place)
      (fun watch operation => watch.keys[place]?.map (operation.value watch.prefs ·)) where
  decided := by
    intro watch operation concerns
    cases operation with
    | edit change => exact concerns.elim
    | poll =>
      change ((watch.snapshot.refresh watch.prefs).map Prod.snd)[place]? = _
      rw [Snapshot.refresh, Snapshot.map_snd_take, List.getElem?_map]
      rfl
    | record key value =>
      have first : (watch.snapshot.map Prod.fst).idxOf key = place := concerns
      change ((watch.snapshot.record key value).map Prod.snd)[place]? = _
      rw [Snapshot.map_snd_record, List.getElem?_set, first, if_pos rfl, List.length_map, keys,
        List.getElem?_map]
      rcases Nat.lt_or_ge place watch.snapshot.length with inside | outside
      · rw [if_pos inside, List.getElem?_eq_getElem inside]
        rfl
      · rw [if_neg (Nat.not_lt.mpr outside), List.getElem?_eq_none outside]
        rfl
  kept := by
    intro watch operation idles
    cases operation with
    | edit change => rfl
    | poll => exact absurd trivial idles
    | record key value =>
      have elsewhere : (watch.snapshot.map Prod.fst).idxOf key ≠ place := idles
      change ((watch.snapshot.record key value).map Prod.snd)[place]? = _
      rw [Snapshot.map_snd_record, List.getElem?_set_ne elsewhere]
      rfl

theorem undecided_of_forall (watch : Watch P) (history : List (WatchOperation P)) (place : Nat)
    (unconcerned : ∀ operation ∈ history, ¬ operation.Concerns watch.keys place) :
    Undecided perform (fun watch operation => operation.Concerns watch.keys place) watch
      history := by
  intro before after operation split
  have member : operation ∈ history := by
    rw [split]
    exact List.mem_append_right before List.mem_cons_self
  have kept := unconcerned operation member
  rw [← watch.keys_run before] at kept
  exact kept

/-! ## Replaying what is known -/

theorem foldl_replay_records (watch : Watch P) (operation : WatchOperation P) :
    (watch.records operation).foldl (WatchRecord.replay watch.keys) (watch.snapshot.map Prod.snd) =
      (watch.perform operation).snapshot.map Prod.snd := by
  cases operation with
  | edit change => rfl
  | poll => exact watch.snapshot.foldl_flip_differing watch.prefs
  | record key value => exact (watch.snapshot.map_snd_record key value).symm

theorem foldl_replay_log (watch : Watch P) (history : List (WatchOperation P)) :
    (watch.log history).foldl (WatchRecord.replay watch.keys) (watch.snapshot.map Prod.snd) =
      (watch.run history).snapshot.map Prod.snd := by
  induction history generalizing watch with
  | nil => rfl
  | cons operation rest ih =>
    have tail := ih (watch.perform operation)
    rw [watch.keys_perform operation, ← watch.foldl_replay_records operation] at tail
    rw [log, List.foldl_append]
    exact tail

/-- A poll brings the snapshot in line with the store. -/
theorem snapshot_run_poll (watch : Watch P) (history : List (WatchOperation P)) :
    (watch.run (history ++ [.poll])).snapshot =
      Snapshot.take watch.keys (watch.run history).prefs := by
  rw [run_append, ← watch.keys_run history]
  rfl

/-- However a store changes while it is watched, a poll reports the places, in watch order
and each one once, that read differently than the latest value they were given: by a poll, by
recording a value for the first place of a key, or else at first.  So the values at first, with
the reported ones turned over and the recorded ones set, are the readings of the store at the
last poll; and another poll reports nothing. -/
theorem reports_differences (keys : List String) (prefs : P) (history : List (WatchOperation P)) :
    let begun := taken keys prefs
    let watch := begun.run history
    watch.report = (watch.snapshot.differing watch.prefs).map Prod.fst ∧
      (watch.snapshot.differing watch.prefs = keys.zipIdx.filter fun entry =>
        watch.snapshot.last? entry.2 != some (isOn watch.prefs entry.1)) ∧
      (∀ (place : Nat) (key : String), keys[place]? = some key →
        (∀ (before after : List (WatchOperation P)) (operation : WatchOperation P),
          history = before ++ operation :: after → operation.Concerns keys place →
            (∀ later ∈ after, ¬ later.Concerns keys place) →
              watch.snapshot.last? place = some (operation.value (begun.run before).prefs key)) ∧
        ((∀ operation ∈ history, ¬ operation.Concerns keys place) →
          watch.snapshot.last? place = some (isOn prefs key))) ∧
      (begun.log (history ++ [.poll])).foldl (WatchRecord.replay keys) (keys.map (isOn prefs)) =
        keys.map (isOn watch.prefs) ∧
      (begun.run (history ++ [.poll])).report = [] := by
  intro begun watch
  have begunKeys : begun.keys = keys := keys_taken keys prefs
  have kept (before : List (WatchOperation P)) : (begun.run before).keys = keys :=
    (begun.keys_run before).trans begunKeys
  refine ⟨watch.snapshot.changed_eq_differing watch.prefs, ?_, ?_, ?_, ?_⟩
  · have watchKeys : watch.snapshot.map Prod.fst = keys := kept history
    rw [Snapshot.differing, watchKeys]
  · intro place key keyAt
    constructor
    · intro before after operation split concerns latest
      have concernsThere : operation.Concerns (begun.run before).keys place := by
        rw [kept before]
        exact concerns
      have undecided := undecided_of_forall ((begun.run before).perform operation) after place
        (by rwa [keys_perform, kept before])
      have decided := (decides_last place).view_of_latest begun before after operation
        concernsThere undecided
      rw [← split] at decided
      refine decided.trans ?_
      change (begun.run before).keys[place]?.map _ = _
      rw [kept before, keyAt]
      rfl
    · intro unconcerned
      have undecided := begun.undecided_of_forall history place (by rwa [begunKeys])
      refine ((decides_last place).view_of_undecided begun history undecided).trans ?_
      change ((Snapshot.take keys prefs).map Prod.snd)[place]? = _
      rw [Snapshot.map_snd_take, List.getElem?_map, keyAt, Option.map_some]
  · have replayed := begun.foldl_replay_log (history ++ [.poll])
    rw [begun.snapshot_run_poll, begunKeys, Snapshot.map_snd_take] at replayed
    rw [← replayed]
    change _ = List.foldl _ ((Snapshot.take keys prefs).map Prod.snd) _
    rw [Snapshot.map_snd_take]
  · rw [report, run_append]
    exact Snapshot.changed_refresh watch.snapshot watch.prefs

/-! One key is watched in two places.  It is switched on in the store, and the first of the
places is told so; a key that is not watched is recorded as well. -/

def twice : List String := ["a", "b", "a"]

def switchedOn : List (WatchOperation MemoryPreferences) :=
  [.edit fun prefs => prefs.insert "a" true, .record "a" true, .record "c" true]

theorem reports_differences_switchedOn :
    let begun := taken twice (⟨[]⟩ : MemoryPreferences)
    let watch := begun.run switchedOn
    twice[0]? = some "a" ∧ watch.snapshot.last? 0 = some true ∧
      twice[2]? = some "a" ∧ watch.snapshot.last? 2 = some false ∧ watch.report = ["a"] ∧
      (begun.log (switchedOn ++ [.poll])).foldl (WatchRecord.replay twice) [false, false, false] =
        [true, false, true] := by
  intro begun watch
  obtain ⟨reported, differing, latest, replayed, -⟩ :=
    reports_differences twice (⟨[]⟩ : MemoryPreferences) switchedOn
  have first : watch.snapshot.last? 0 = some true := by
    refine (latest 0 "a" rfl).1 (switchedOn.take 1) (switchedOn.drop 2) (.record "a" true) rfl
      (by decide : twice.idxOf "a" = 0) ?_
    intro later member
    rw [List.mem_singleton.mp member]
    exact (by decide : twice.idxOf "c" ≠ 0)
  have third : watch.snapshot.last? 2 = some false := by
    refine ((latest 2 "a" rfl).2 ?_).trans rfl
    intro operation member
    simp only [switchedOn, List.mem_cons, List.not_mem_nil, or_false] at member
    rcases member with rfl | rfl | rfl
    · exact id
    · exact (by decide : twice.idxOf "a" ≠ 2)
    · exact (by decide : twice.idxOf "c" ≠ 2)
  refine ⟨rfl, first, rfl, third, ?_, replayed.trans (by decide)⟩
  rw [reported, differing]
  decide

end Watch

end GestureMode
