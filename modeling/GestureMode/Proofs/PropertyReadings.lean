import GestureMode.Proofs.Configuration
import GestureMode.Proofs.HostSwitch
import GestureMode.Proofs.Latest
import GestureMode.Proofs.PropertyEntries

/-!
# What preferences kept as properties read

While a store of properties is asked for new values, some of which it refuses, anybody else may
change the properties as well.  A preference reads what the latest operation that had an effect
on its own property made of it: the value that was stored or, after a change from outside, the
truth value that the bytes spell as far as they are delivered, and the default where they spell
none.  A refused value changes nothing, and a stored one only the property it is stored in.
-/

set_option autoImplicit false

namespace GestureMode

open PreferenceStore Text

def spellings : Bool → List String
  | true => ["true", "1"]
  | false => ["false", "0"]

theorem parseBool?_eq_some_iff (raw : String) (on : Bool) :
    parseBool? raw = some on ↔ ∃ text : String, Strips raw text ∧ text ∈ spellings on := by
  have trimmed : parseBool? raw = some on ↔ trim raw ∈ spellings on := by
    rw [parseBool?]
    by_cases yes : trim raw = "true" ∨ trim raw = "1"
    · rcases yes with same | same <;> cases on <;> simp [same, spellings]
    · by_cases no : trim raw = "false" ∨ trim raw = "0"
      · rcases no with same | same <;> cases on <;> simp [same, spellings]
      · cases on <;> simp [yes, no, spellings]
  rw [trimmed]
  constructor
  · intro spelled
    exact ⟨trim raw, strips_trim raw, spelled⟩
  · rintro ⟨text, strips, spelled⟩
    rw [(trim_eq_iff raw text).mpr strips]
    exact spelled

namespace PropertyTable

/-- The bytes of a value that a read delivers. -/
def delivered (value : List UInt8) : List UInt8 :=
  (value.take valueLimit).takeWhile (· != 0)

theorem delivered_of_notMem (value : List UInt8) (clean : 0 ∉ value) :
    delivered value = value.take valueLimit := by
  rw [delivered, List.takeWhile_eq_self_iff]
  intro byte member
  have nonzero : byte ≠ 0 := fun zero => clean (zero ▸ List.mem_of_mem_take member)
  exact bne_iff_ne.mpr nonzero

/-- What is delivered is, between blank characters, a text that stands for the truth value. -/
def Spells (value : List UInt8) (on : Bool) : Prop :=
  ∃ text : String, Strips (Utf8.decode (delivered value)) text ∧ text ∈ spellings on

/-- An empty value reads as absent, and the empty text would spell nothing either. -/
theorem bind_textOf?_parseBool? (value : List UInt8) :
    (textOf? value).bind parseBool? = parseBool? (Utf8.decode (delivered value)) := by
  rw [textOf?, delivered]
  cases value.take valueLimit with
  | nil => decide
  | cons byte rest => simp only [Option.bind_some]

theorem bind_textOf?_eq_some_iff (value : List UInt8) (on : Bool) :
    (textOf? value).bind parseBool? = some on ↔ Spells value on := by
  rw [bind_textOf?_parseBool?, parseBool?_eq_some_iff, Spells]

/-- The truth value that an entry spells, if there is one and it does, or else the default. -/
def Answers (entry : Option (List UInt8)) (default answer : Bool) : Prop :=
  Config.Overrides (fun on => ∃ value : List UInt8, entry = some value ∧ Spells value on)
    default answer

theorem getD_eq_iff_answers (entry : Option (List UInt8)) (default answer : Bool) :
    (entry.bind fun value => (textOf? value).bind parseBool?).getD default = answer ↔
      Answers entry default answer := by
  apply Config.getD_eq_iff_overrides
  intro on
  rw [Option.bind_eq_some_iff]
  exact exists_congr fun value => and_congr_right fun _ => bind_textOf?_eq_some_iff value on

theorem answers_boolText_iff (value default answer : Bool) :
    Answers (some (Utf8.encode (boolText value))) default answer ↔ answer = value := by
  rw [← getD_eq_iff_answers, Option.bind_some, parseBool?_textOf?_boolText, Option.getD_some]
  exact eq_comm

/-- The text of a truth value has no NUL and is short enough, so that it depends on the name
alone whether it is refused. -/
theorem refuses_boolText (table : PropertyTable) (name : String) (value : Bool) :
    table.refuses name (boolText value) = (hasNul name || table.readOnly.covers name) := by
  have clean : hasNul (boolText value) = false := by cases value <;> decide
  have short : ¬ valueLimit < (Utf8.encode (boolText value)).length := by cases value <;> decide
  rw [refuses, clean, decide_eq_false short, Bool.or_false, Bool.or_false]

end PropertyTable

/-! ## Operations -/

/-- Something that happens to the properties in which preferences are kept.  What they hold may
change from outside, and so may the names that are read-only: a value that is refused at one
time may be taken at another. -/
inductive PropertyOperation where
  | put (key : String) (value : Bool)
  | outside (change : PropertyEdit)

def PropertyOperation.Gives (default answer : Bool) : PropertyOperation → Prop
  | put _ value => answer = value
  | outside (.entry _ value) => PropertyTable.Answers value default answer
  | outside (.restrict _) => False

namespace PropertyPreferences

def perform (prefs : PropertyPreferences) : PropertyOperation → PropertyPreferences
  | .put key value => (store prefs key value).value.1
  | .outside change => { prefs with properties := change.apply prefs.properties }

def run (prefs : PropertyPreferences) (history : List PropertyOperation) : PropertyPreferences :=
  history.foldl perform prefs

/-- Whether an operation has an effect on the property of a name: a value is stored in it, or
it is changed from outside. -/
def Affects (prefs : PropertyPreferences) (name : String) : PropertyOperation → Prop
  | .put key value => prefs.propertyName key = name ∧
      ∃ after : PropertyPreferences, prefs.put key value = .ok after
  | .outside (.entry other _) => other = name
  | .outside (.restrict _) => False

def Untouched (prefs : PropertyPreferences) (name : String) (history : List PropertyOperation) :
    Prop :=
  Undecided perform (fun met operation => met.Affects name operation) prefs history

/-- The operation comes after those before it, and is the latest to have an effect on the
property of a name. -/
def Latest (prefs : PropertyPreferences) (name : String) (history before : List PropertyOperation)
    (operation : PropertyOperation) : Prop :=
  ∃ after : List PropertyOperation, history = before ++ operation :: after ∧
    (prefs.run before).Affects name operation ∧
      ((prefs.run before).perform operation).Untouched name after

theorem getD_of_hasNul (prefs : PropertyPreferences) (key : String)
    (unfit : hasNul (prefs.propertyName key) = true) (default : Bool) :
    getD prefs key default = default := by
  have absent : PreferenceStore.get? prefs key = none := by
    change (prefs.properties.get? _).bind parseBool? = none
    rw [Properties.get?_eq_textOf?, if_pos unfit]
    rfl
  rw [getD, absent, Option.getD_none]

theorem getD_eq_iff_answers (prefs : PropertyPreferences) (key : String)
    (clean : hasNul (prefs.propertyName key) = false) (default answer : Bool) :
    getD prefs key default = answer ↔
      PropertyTable.Answers (prefs.properties.entry? (prefs.propertyName key)) default answer := by
  rw [← PropertyTable.getD_eq_iff_answers, ← Option.bind_assoc]
  change ((prefs.properties.get? _).bind parseBool?).getD default = answer ↔ _
  rw [Properties.get?_eq_textOf?, clean, if_neg Bool.false_ne_true]

section Storing

variable (prefs after : PropertyPreferences) (key : String) (value : Bool)

theorem perform_put_of_ok (stored : prefs.put key value = .ok after) :
    prefs.perform (.put key value) = after := by
  rw [perform, store_of_ok prefs after key value stored]

theorem perform_put_of_error (failure : Failure) (refused : prefs.put key value = .error failure) :
    prefs.perform (.put key value) = prefs := by
  rw [perform, store_of_error prefs failure key value refused]

theorem entry?_of_put_self (stored : prefs.put key value = .ok after) :
    after.properties.entry? (prefs.propertyName key) = some (Utf8.encode (boolText value)) := by
  obtain ⟨properties, accepted, rfl⟩ := (prefs.put_eq_ok_iff after key value).mp stored
  exact Properties.entry?_put_self _ _ _ _ accepted

theorem entry?_of_put_of_ne (stored : prefs.put key value = .ok after) (name : String)
    (different : name ≠ prefs.propertyName key) :
    after.properties.entry? name = prefs.properties.entry? name := by
  obtain ⟨properties, accepted, rfl⟩ := (prefs.put_eq_ok_iff after key value).mp stored
  exact Properties.entry?_put_of_ne _ _ _ _ _ accepted different

end Storing

def entryAfter (prefs : PropertyPreferences) : PropertyOperation → Option (List UInt8)
  | .put _ value => some (Utf8.encode (boolText value))
  | .outside (.entry _ value) => prefs.properties.bind fun _ => value
  | .outside (.restrict _) => none

theorem decides_entry (name : String) :
    Decides perform (fun prefs => prefs.properties.entry? name)
      (fun prefs operation => prefs.Affects name operation) entryAfter where
  decided := by
    intro prefs operation affects
    cases operation with
    | put key value =>
      obtain ⟨rfl, after, stored⟩ := affects
      rw [prefs.perform_put_of_ok after key value stored]
      exact prefs.entry?_of_put_self after key value stored
    | outside change =>
      cases change with
      | entry other value =>
        have same : other = name := affects
        rw [← same]
        exact (Properties.entry?_edit prefs.properties other other value).trans (if_pos rfl)
      | restrict readOnly => exact affects.elim
  kept := by
    intro prefs operation idle
    cases operation with
    | put key value =>
      -- A value has no effect when it is refused, and none when it goes to another property.
      cases written : prefs.put key value with
      | ok after =>
        have different : name ≠ prefs.propertyName key :=
          fun same => idle ⟨same.symm, after, written⟩
        rw [prefs.perform_put_of_ok after key value written]
        exact prefs.entry?_of_put_of_ne after key value written name different
      | error failure => rw [prefs.perform_put_of_error key value failure written]
    | outside change =>
      cases change with
      | entry other value =>
        have different : name ≠ other := fun same => idle same.symm
        exact (Properties.entry?_edit prefs.properties other name value).trans (if_neg different)
      | restrict readOnly => exact Properties.entry?_restrict prefs.properties readOnly name

theorem untouched_or_exists_latest (prefs : PropertyPreferences) (name : String)
    (history : List PropertyOperation) :
    prefs.Untouched name history ∨
      ∃ (before : List PropertyOperation) (operation : PropertyOperation),
        prefs.Latest name history before operation := by
  rcases Undecided.or_exists_latest perform (fun met operation => met.Affects name operation)
    prefs history with untouched | ⟨before, after, operation, split, affects, latest⟩
  · exact .inl untouched
  · exact .inr ⟨before, operation, after, split, affects, latest⟩

section Tables

variable (stem : String) (table : PropertyTable)

theorem exists_table_perform (operation : PropertyOperation) :
    ∃ later : PropertyTable, perform ⟨stem, some table⟩ operation = ⟨stem, some later⟩ := by
  cases operation with
  | put key value =>
    cases written : put ⟨stem, some table⟩ key value with
    | ok after =>
      obtain ⟨properties, accepted, rfl⟩ := (put_eq_ok_iff _ after key value).mp written
      obtain ⟨-, later, -, -, rfl⟩ := (Properties.put_eq_ok_iff _ properties _ _).mp accepted
      exact ⟨later, perform_put_of_ok _ _ key value written⟩
    | error failure => exact ⟨table, perform_put_of_error _ key value failure written⟩
  | outside change => cases change <;> exact ⟨_, rfl⟩

theorem exists_table_run (history : List PropertyOperation) :
    ∃ later : PropertyTable, run ⟨stem, some table⟩ history = ⟨stem, some later⟩ := by
  induction history generalizing table with
  | nil => exact ⟨table, rfl⟩
  | cons operation rest ih =>
    obtain ⟨next, performed⟩ := exists_table_perform stem table operation
    rw [run, List.foldl_cons, performed]
    exact ih next

/-- What is read after an operation is what the operation gives. -/
theorem answers_entryAfter_iff (name : String) (operation : PropertyOperation)
    (affects : Affects ⟨stem, some table⟩ name operation) (default answer : Bool) :
    PropertyTable.Answers (entryAfter ⟨stem, some table⟩ operation) default answer ↔
      operation.Gives default answer := by
  cases operation with
  | put key value => exact PropertyTable.answers_boolText_iff value default answer
  | outside change =>
    cases change with
    | entry other value => exact Iff.rfl
    | restrict readOnly => exact affects.elim

/-! ## What is refused and what is stored -/

variable (key : String) (value : Bool)

theorem put_of_closed (closed : hasNul (stem ++ key) = true ∨
    table.readOnly.covers (stem ++ key) = true) :
    put ⟨stem, some table⟩ key value = .error (.property (stem ++ key)) := by
  have refused : table.refuses (stem ++ key) (boolText value) = true := by
    rw [table.refuses_boolText, Bool.or_eq_true]
    exact closed
  rw [put, propertyName, Properties.put_of_refuses table _ _ refused]
  rfl

theorem exists_put_of_open (opened : hasNul (stem ++ key) = false ∧
    table.readOnly.covers (stem ++ key) = false) :
    ∃ after : PropertyPreferences, put ⟨stem, some table⟩ key value = .ok after := by
  have allowed : table.refuses (stem ++ key) (boolText value) = false := by
    rw [table.refuses_boolText, Bool.or_eq_false_iff]
    exact opened
  rw [put, propertyName, Properties.put_of_not_refuses table _ _ allowed]
  exact ⟨_, rfl⟩

end Tables

/-- A value is stored in the property of its own preference, and nothing else has changed. -/
structure Stored (before : PropertyPreferences) (key : String) (value : Bool)
    (after : PropertyPreferences) : Prop where
  stem : after.stem = before.stem
  readOnly : after.properties.readOnly? = before.properties.readOnly?
  entry : after.properties.entry? (before.propertyName key) =
    some (Utf8.encode (boolText value))
  entry_of_ne : ∀ name : String, name ≠ before.propertyName key →
    after.properties.entry? name = before.properties.entry? name
  reads : ∀ default : Bool, getD after key default = value
  reads_of_ne : ∀ other : String, other ≠ key →
    ∀ default : Bool, getD after other default = getD before other default

theorem stored_of_put (before after : PropertyPreferences) (key : String) (value : Bool)
    (stored : before.put key value = .ok after) : before.Stored key value after where
  stem := by
    obtain ⟨properties, -, rfl⟩ := (before.put_eq_ok_iff after key value).mp stored
    rfl
  readOnly := by
    obtain ⟨properties, accepted, rfl⟩ := (before.put_eq_ok_iff after key value).mp stored
    exact Properties.readOnly?_put _ _ _ _ accepted
  entry := before.entry?_of_put_self after key value stored
  entry_of_ne := before.entry?_of_put_of_ne after key value stored
  reads default := by
    rw [getD, LawfulPreferenceStore.get?_put_self before after key value stored]
    rfl
  reads_of_ne other different default := by
    rw [getD, getD, LawfulPreferenceStore.get?_put_of_ne before after key other value stored
      different]

/-! ## Whole histories -/

section Histories

variable (stem : String) (table : PropertyTable) (history : List PropertyOperation) (key : String)
  (clean : hasNul (stem ++ key) = false) (default answer : Bool)

include clean

theorem getD_run_eq_iff (entry : Option (List UInt8))
    (found : (run ⟨stem, some table⟩ history).properties.entry? (stem ++ key) = entry) :
    getD (run ⟨stem, some table⟩ history) key default = answer ↔
      PropertyTable.Answers entry default answer := by
  obtain ⟨later, ended⟩ := exists_table_run stem table history
  rw [ended] at found ⊢
  rw [← found]
  exact getD_eq_iff_answers ⟨stem, some later⟩ key clean default answer

theorem getD_run_of_untouched (untouched : Untouched ⟨stem, some table⟩ (stem ++ key) history) :
    getD (run ⟨stem, some table⟩ history) key default = answer ↔
      PropertyTable.Answers (table.entries.get? (stem ++ key)) default answer := by
  have kept := (decides_entry (stem ++ key)).view_of_undecided _ history untouched
  exact getD_run_eq_iff stem table history key clean default answer _ kept

theorem getD_run_of_latest (before : List PropertyOperation) (operation : PropertyOperation)
    (latest : Latest ⟨stem, some table⟩ (stem ++ key) history before operation) :
    getD (run ⟨stem, some table⟩ history) key default = answer ↔
      operation.Gives default answer := by
  obtain ⟨after, split, affects, untouched⟩ := latest
  have decided := (decides_entry (stem ++ key)).view_of_latest _ before after operation affects
    untouched
  rw [← split] at decided
  obtain ⟨met, reached⟩ := exists_table_run stem table before
  rw [reached] at affects
  rw [getD_run_eq_iff stem table history key clean default answer _ decided, ← run, reached]
  exact answers_entryAfter_iff stem met (stem ++ key) operation affects default answer

end Histories

/-- Whatever the table holds and whoever changes it: a preference reads what the latest
operation gives that had an effect on its property, and when there was none, what the table
held in the beginning.  A stored value is read back.  Bytes from outside give the truth value
that the first 91 of them spell, decoded and trimmed.  Where nothing is spelled, an entry is
absent or the name has a NUL, the default is read.  At any time, a value is refused when its
full name has a NUL or is read-only, with a failure that tells this name, and nothing changes;
otherwise it is stored, and nothing changes but the property of this one preference, which is
that of no other. -/
theorem reads_latest_effective (stem : String) (table : PropertyTable)
    (history : List PropertyOperation) :
    let begun : PropertyPreferences := ⟨stem, some table⟩
    let prefs := begun.run history
    (∀ key : String, begun.Untouched (stem ++ key) history ∨
        ∃ (before : List PropertyOperation) (operation : PropertyOperation),
          begun.Latest (stem ++ key) history before operation) ∧
      (∀ key : String, hasNul (stem ++ key) = false → ∀ default answer : Bool,
        (begun.Untouched (stem ++ key) history →
          (getD prefs key default = answer ↔
            PropertyTable.Answers (table.entries.get? (stem ++ key)) default answer)) ∧
        ∀ (before : List PropertyOperation) (operation : PropertyOperation),
          begun.Latest (stem ++ key) history before operation →
            (getD prefs key default = answer ↔ operation.Gives default answer)) ∧
      (∀ key : String, hasNul (stem ++ key) = true →
        ∀ default : Bool, getD prefs key default = default) ∧
      (∀ value : List UInt8, 0 ∉ value → PropertyTable.delivered value = value.take 91) ∧
      (∃ later : PropertyTable, prefs = ⟨stem, some later⟩ ∧ ∀ (key : String) (value : Bool),
        (hasNul (stem ++ key) = true ∨ later.readOnly.covers (stem ++ key) = true →
          prefs.put key value = .error (.property (stem ++ key)) ∧
            prefs.perform (.put key value) = prefs) ∧
        (hasNul (stem ++ key) = false ∧ later.readOnly.covers (stem ++ key) = false →
          ∃ after : PropertyPreferences, prefs.put key value = .ok after ∧
            prefs.perform (.put key value) = after ∧ prefs.Stored key value after)) ∧
      ∀ key other : String, other ≠ key → stem ++ other ≠ stem ++ key := by
  intro begun prefs
  refine ⟨fun key => begun.untouched_or_exists_latest (stem ++ key) history, ?_, ?_,
    PropertyTable.delivered_of_notMem, ?_, ?_⟩
  · intro key clean default answer
    exact ⟨getD_run_of_untouched stem table history key clean default answer,
      getD_run_of_latest stem table history key clean default answer⟩
  · intro key unfit default
    obtain ⟨later, ended⟩ := exists_table_run stem table history
    change getD (run ⟨stem, some table⟩ history) key default = default
    rw [ended]
    exact getD_of_hasNul ⟨stem, some later⟩ key unfit default
  · obtain ⟨later, ended⟩ := exists_table_run stem table history
    refine ⟨later, ended, ?_⟩
    intro key value
    change (_ → put (run ⟨stem, some table⟩ history) key value = _ ∧ _) ∧ _
    constructor
    · intro closed
      have refused := put_of_closed stem later key value closed
      rw [← ended] at refused
      exact ⟨refused, perform_put_of_error _ key value _ refused⟩
    · intro opened
      obtain ⟨after, stored⟩ := exists_put_of_open stem later key value opened
      rw [← ended] at stored
      exact ⟨after, stored, perform_put_of_ok _ after key value stored,
        stored_of_put _ after key value stored⟩
  · intro key other different same
    exact different (begun.propertyName_injective other key same)

/-! One property is read-only for the store, and somebody else has put a text there that reads
`1` as far as it is delivered.  Another property is stored, and a third one has a text of which
the last character is delivered in part. -/

def spaces : List UInt8 :=
  (List.replicate 30 [0xE3, 0x80, 0x80]).flatten

/-- The last space ends with the last byte that is delivered. -/
def cutBehind : List UInt8 :=
  0x31 :: spaces ++ [0x78]

def cutWithin : List UInt8 :=
  0x20 :: 0x31 :: spaces

def contestedTable : PropertyTable :=
  ⟨[("p.e", [0x30])], .empty⟩

def contested : List PropertyOperation :=
  [.outside (.restrict (.these ["p.c"])), .outside (.entry "p.c" (some cutBehind)),
    .put "c" false, .put "d" true, .outside (.entry "p.f" (some cutWithin))]

theorem untouched_contested : Untouched ⟨"p.", some contestedTable⟩ "p.e" contested := by
  refine (Undecided.cons_iff _ _ _).mpr ⟨id, (Undecided.cons_iff _ _ _).mpr ⟨?_,
    (Undecided.cons_iff _ _ _).mpr ⟨?_, (Undecided.cons_iff _ _ _).mpr ⟨?_,
      (Undecided.cons_iff _ _ _).mpr ⟨?_, .nil _⟩⟩⟩⟩⟩
  · exact (by decide : "p.c" ≠ "p.e")
  · rintro ⟨same, -⟩
    exact absurd same (by decide +kernel)
  · rintro ⟨same, -⟩
    exact absurd same (by decide +kernel)
  · exact (by decide : "p.f" ≠ "p.e")

theorem latest_contested_refused :
    Latest ⟨"p.", some contestedTable⟩ "p.c" contested (contested.take 1)
      (.outside (.entry "p.c" (some cutBehind))) := by
  refine ⟨contested.drop 2, rfl, rfl, (Undecided.cons_iff _ _ _).mpr ⟨?_,
    (Undecided.cons_iff _ _ _).mpr ⟨?_, (Undecided.cons_iff _ _ _).mpr ⟨?_, .nil _⟩⟩⟩⟩
  · rintro ⟨-, after, stored⟩
    have accepted : _ = true := congrArg Except.isOk stored
    exact absurd accepted (by decide +kernel)
  · rintro ⟨same, -⟩
    exact absurd same (by decide +kernel)
  · exact (by decide : "p.f" ≠ "p.c")

theorem latest_contested_stored :
    Latest ⟨"p.", some contestedTable⟩ "p.d" contested (contested.take 3) (.put "d" true) := by
  refine ⟨contested.drop 4, rfl, ⟨by decide +kernel, ?_⟩,
    (Undecided.cons_iff _ _ _).mpr ⟨(by decide : "p.f" ≠ "p.d"), .nil _⟩⟩
  have accepted : ((run ⟨"p.", some contestedTable⟩ (contested.take 3)).put "d" true).isOk =
      true := by decide +kernel
  cases stored : (run ⟨"p.", some contestedTable⟩ (contested.take 3)).put "d" true with
  | ok after => exact ⟨after, rfl⟩
  | error failure =>
    rw [stored] at accepted
    cases accepted

/-- The refused value has no effect, the stored one is read back, a third preference reads what
was there from the beginning, and the text that is cut within a character spells nothing. -/
theorem reads_latest_effective_contested :
    let prefs := run ⟨"p.", some contestedTable⟩ contested
    getD prefs "c" false = true ∧ getD prefs "d" false = true ∧ getD prefs "e" true = false ∧
      getD prefs "f" true = true ∧ getD prefs "f" false = false ∧
      getD prefs "\x00" true = true ∧
      PropertyTable.delivered cutWithin = cutWithin.take 91 ∧
      prefs.put "c" false = .error (.property "p.c") := by
  intro prefs
  obtain ⟨-, reads, nul, delivered, ⟨later, ended, writes⟩, -⟩ :=
    reads_latest_effective "p." contestedTable contested
  have latest : Latest ⟨"p.", some contestedTable⟩ "p.f" contested (contested.take 4)
      (.outside (.entry "p.f" (some cutWithin))) := ⟨[], rfl, rfl, .nil _⟩
  have gives (value : List UInt8) (default answer : Bool) :=
    (PropertyTable.getD_eq_iff_answers (some value) default answer).mp
  refine ⟨?_, ?_, ?_, ?_, ?_, nul _ (by decide) true, delivered _ (by decide +kernel), ?_⟩
  · exact ((reads "c" (by decide) _ _).2 _ _ latest_contested_refused).mpr
      (gives cutBehind false true (by decide +kernel))
  · exact ((reads "d" (by decide) _ _).2 _ _ latest_contested_stored).mpr rfl
  · exact ((reads "e" (by decide) _ _).1 untouched_contested).mpr
      (gives [0x30] true false (by decide +kernel))
  · exact ((reads "f" (by decide) _ _).2 _ _ latest).mpr
      (gives cutWithin true true (by decide +kernel))
  · exact ((reads "f" (by decide) _ _).2 _ _ latest).mpr
      (gives cutWithin false false (by decide +kernel))
  · have names : (run ⟨"p.", some contestedTable⟩ contested).properties.readOnly? =
        some (.these ["p.c"]) := by decide +kernel
    rw [ended] at names
    have closed : later.readOnly.covers "p.c" = true := by
      rw [show later.readOnly = .these ["p.c"] from Option.some.inj names]
      decide
    exact ((writes "c" false).1 (.inr closed)).1

end PropertyPreferences

end GestureMode
