import GestureMode.Host.Command
import GestureMode.Proofs.Encoded
import GestureMode.Proofs.Numerals

/-!
# Values behind a command

A value is handed to the settings command as a decimal numeral, and read from what the
command prints: the output, decoded and trimmed, is a value exactly when it is an integer of
32 bits.  Every other output means that there is no value.  A command that could not be
started, or that failed, is an error and never the absence of a value.
-/

set_option autoImplicit false

namespace GestureMode

open Text Text.Numeral

/-- The empty text and `null` are no numerals in any case. -/
theorem Setting.parse?_eq_int32? (raw : String) :
    parse? raw = Text.Numeral.int32? (Text.trim raw) := by
  unfold parse?
  by_cases absent : Text.trim raw = "" ∨ Text.trim raw = "null"
  · rw [if_pos absent]
    rcases absent with same | same <;> rw [same] <;> rfl
  · rw [if_neg absent]

theorem Scope.hasNul_name (scope : Scope) : hasNul scope.name = false := by
  cases scope <;> decide

namespace CommandRun

theorem result_of_succeeded (run : CommandRun) (action : String) (args : List String)
    (succeeded : run.succeeded = true) :
    run.result action args = .ok (trim (Utf8.decode run.out)) := by
  rw [result, if_pos succeeded]

theorem result_of_failed (run : CommandRun) (action : String) (args : List String)
    (failed : run.succeeded = false) :
    run.result action args =
      .error (.setting action (" ".intercalate args) (trim (Utf8.decode run.err))) := by
  rw [result, failed, if_neg Bool.false_ne_true]

/-- The integer that a run has printed between blank characters. -/
def Prints (run : CommandRun) (n : Int) : Prop :=
  ∃ text : String, Strips (Utf8.decode run.out) text ∧ Integer text.toList n

theorem prints_iff (run : CommandRun) (n : Int) :
    run.Prints n ↔ Integer (trim (Utf8.decode run.out)).toList n := by
  constructor
  · rintro ⟨text, strips, spelled⟩
    rw [(trim_eq_iff _ text).mpr strips]
    exact spelled
  · intro spelled
    exact ⟨_, strips_trim _, spelled⟩

theorem prints_of_out (run : CommandRun) (left text right : String) (n : Int)
    (blankLeft : AllBlank left) (blankRight : AllBlank right) (spelled : Integer text.toList n)
    (out : run.out = Utf8.encode (left ++ text ++ right)) : run.Prints n := by
  refine ⟨text, ⟨spelled.trimmed, left, right, blankLeft, blankRight, ?_⟩, spelled⟩
  rw [out, Utf8.decode_encode]

end CommandRun

namespace SettingsCommand

/-! ## Runs -/

/-- The run that an attempt starts: none when the command is not installed or an argument
cannot be passed, and a failing one after the end of the script. -/
def started? (command : SettingsCommand) (args : List String) : Option CommandRun :=
  if args.any hasNul then none else command.script.map fun script => script.headD .exhausted

theorem run_of_started (command : SettingsCommand) (action : String) (args : List String)
    (started : CommandRun) (runs : command.started? args = some started) :
    command.run action args =
      (⟨command.script.map List.tail, command.runs ++ [action :: args]⟩,
        started.result action args) := by
  obtain ⟨clean, next⟩ := Option.ite_none_left_eq_some.mp runs
  obtain ⟨script, installed, rfl⟩ := Option.map_eq_some_iff.mp next
  rw [run, if_neg clean, installed]
  rfl

theorem run_of_not_started (command : SettingsCommand) (action : String) (args : List String)
    (idle : command.started? args = none) :
    ∃ cause : Cause, command.run action args = (command, .error (.starting cause)) := by
  by_cases unfit : args.any hasNul = true
  · exact ⟨_, by rw [run, if_pos unfit]⟩
  · rw [started?, if_neg unfit, Option.map_eq_none_iff] at idle
    exact ⟨_, by rw [run, if_neg unfit, idle]⟩

theorem started?_of_script (command : SettingsCommand) (args : List String) (next : CommandRun)
    (rest : List CommandRun) (clean : args.any hasNul = false)
    (script : command.script = some (next :: rest)) : command.started? args = some next := by
  rw [started?, clean, if_neg Bool.false_ne_true, script]
  rfl

theorem result_get (command : SettingsCommand) (setting : Setting) :
    (command.get setting).result =
      (command.run "get" [setting.scope.name, setting.key]).2.map
        fun text => int32? (trim text) := by
  rw [get]
  rcases command.run "get" [setting.scope.name, setting.key] with ⟨rest, failure | text⟩
  · rfl
  · exact congrArg Except.ok (Setting.parse?_eq_int32? text)

theorem result_get_of_ran (command : SettingsCommand) (setting : Setting)
    (text : String)
    (ran : (command.run "get" [setting.scope.name, setting.key]).2 = .ok text) :
    (HostSettings.get command setting).result =
      .ok (Text.Numeral.int32? (Text.trim text)) := by
  change (command.get setting).result = _
  rw [result_get, ran]
  rfl

theorem result_get_of_failure (command : SettingsCommand) (setting : Setting) (failure : Failure)
    (failed : (command.run "get" [setting.scope.name, setting.key]).2 = .error failure) :
    (command.get setting).result = .error failure := by
  rw [result_get, failed]
  rfl

section Read

variable (command : SettingsCommand) (setting : Setting)

theorem result_get_of_succeeded (started : CommandRun)
    (runs : command.started? [setting.scope.name, setting.key] = some started)
    (succeeded : started.succeeded = true) :
    (command.get setting).result = .ok (int32? (trim (Utf8.decode started.out))) := by
  have ran : (command.run "get" [setting.scope.name, setting.key]).2 =
      .ok (trim (Utf8.decode started.out)) := by
    rw [command.run_of_started "get" _ started runs]
    exact started.result_of_succeeded _ _ succeeded
  rw [← trim_trim]
  exact command.result_get_of_ran setting _ ran

theorem result_get_eq_some_iff (started : CommandRun) (value : Int32)
    (runs : command.started? [setting.scope.name, setting.key] = some started)
    (succeeded : started.succeeded = true) :
    (command.get setting).result = .ok (some value) ↔ started.Prints value.toInt := by
  rw [command.result_get_of_succeeded setting started runs succeeded, Except.ok.injEq,
    int32?_eq_some_iff, started.prints_iff]

theorem result_get_eq_none_iff (started : CommandRun)
    (runs : command.started? [setting.scope.name, setting.key] = some started)
    (succeeded : started.succeeded = true) :
    (command.get setting).result = .ok none ↔ ∀ n : Int, started.Prints n → ¬ FitsInt32 n := by
  rw [command.result_get_of_succeeded setting started runs succeeded, Except.ok.injEq,
    int32?_eq_none_iff]
  exact forall_congr' fun n => by rw [started.prints_iff]

theorem result_get_eq_error_iff :
    (∃ failure : Failure, (command.get setting).result = .error failure) ↔
      command.started? [setting.scope.name, setting.key] = none ∨
        ∃ started : CommandRun,
          command.started? [setting.scope.name, setting.key] = some started ∧
            started.succeeded = false := by
  cases runs : command.started? [setting.scope.name, setting.key] with
  | none =>
    obtain ⟨cause, refused⟩ := command.run_of_not_started "get" _ runs
    have failed := command.result_get_of_failure setting (.starting cause) (by rw [refused])
    exact iff_of_true ⟨_, failed⟩ (.inl rfl)
  | some started =>
    cases succeeded : started.succeeded with
    | true =>
      have read := command.result_get_of_succeeded setting started runs succeeded
      refine iff_of_false ?_ ?_
      · rintro ⟨failure, failed⟩
        rw [read] at failed
        cases failed
      · rintro (idle | ⟨other, same, failed⟩)
        · cases idle
        · injection same with same
          rw [← same, succeeded] at failed
          cases failed
    | false =>
      have failed := command.result_get_of_failure setting _ (by
        rw [command.run_of_started "get" _ started runs]
        exact started.result_of_failed _ _ succeeded)
      exact iff_of_true ⟨_, failed⟩ (.inr ⟨started, rfl, succeeded⟩)

end Read

theorem put_of_succeeded (command : SettingsCommand) (setting : Setting) (value : Int32)
    (started : CommandRun)
    (runs : command.started? [setting.scope.name, setting.key, toString value.toInt] =
      some started)
    (succeeded : started.succeeded = true) :
    command.put setting value =
      (⟨command.script.map List.tail, command.runs ++
          [["put", setting.scope.name, setting.key, toString value.toInt]]⟩, none) := by
  rw [put, command.run_of_started "put" _ started runs, started.result_of_succeeded _ _ succeeded]

/-- What is handed to the command for a value can be passed, and what comes back between
blank characters is that value. -/
theorem result_get_of_printed (later : SettingsCommand) (setting : Setting) (value : Int32)
    (printed : CommandRun) (left right : String)
    (runs : later.started? [setting.scope.name, setting.key] = some printed)
    (succeeded : printed.succeeded = true) (blankLeft : AllBlank left) (blankRight : AllBlank right)
    (out : printed.out = Utf8.encode (left ++ toString value.toInt ++ right)) :
    (later.get setting).result = .ok (some value) := by
  have prints : printed.Prints value.toInt :=
    printed.prints_of_out left _ right value.toInt blankLeft blankRight
      (integer_toString value.toInt) out
  exact (later.result_get_eq_some_iff setting printed value runs succeeded).mpr prints

theorem clean_arguments (setting : Setting) (value : Int32) (clean : hasNul setting.key = false) :
    [setting.scope.name, setting.key].any hasNul = false ∧
      [setting.scope.name, setting.key, toString value.toInt].any hasNul = false := by
  have numeral : hasNul (toString value.toInt) = false :=
    (integer_toString value.toInt).hasNul_eq_false
  simp only [List.any_cons, List.any_nil, setting.scope.hasNul_name, clean, numeral, Bool.or_false,
    and_self]

/-- A write that succeeds hands over the value as a decimal numeral, and a later read whose
run prints this text between blank characters answers the value.  Whatever a run prints that
succeeds: the answer is a value exactly when it is an integer of 32 bits between blank
characters, and none otherwise, as for the empty text and for `null`.  The answer is an error
exactly when nothing could be started or the run failed. -/
theorem values_survive_round_trip (setting : Setting) :
    (hasNul setting.key = false →
      ∀ (command : SettingsCommand) (value : Int32) (written : CommandRun)
        (script : List CommandRun),
        command.script = some (written :: script) → written.succeeded = true →
          command.put setting value =
              (⟨some script, command.runs ++
                [["put", setting.scope.name, setting.key, toString value.toInt]]⟩, none) ∧
            ∀ (later : SettingsCommand) (printed : CommandRun) (rest : List CommandRun)
              (left right : String),
              later.script = some (printed :: rest) → printed.succeeded = true →
                AllBlank left → AllBlank right →
                  printed.out = Utf8.encode (left ++ toString value.toInt ++ right) →
                    (later.get setting).result = .ok (some value)) ∧
      (∀ (command : SettingsCommand) (started : CommandRun),
        command.started? [setting.scope.name, setting.key] = some started →
          started.succeeded = true →
            (∀ value : Int32,
              (command.get setting).result = .ok (some value) ↔ started.Prints value.toInt) ∧
            ((command.get setting).result = .ok none ↔
              ∀ n : Int, started.Prints n → ¬ FitsInt32 n) ∧
            (Strips (Utf8.decode started.out) "" ∨ Strips (Utf8.decode started.out) "null" →
              (command.get setting).result = .ok none)) ∧
      ∀ command : SettingsCommand,
        (∃ failure : Failure, (command.get setting).result = .error failure) ↔
          command.started? [setting.scope.name, setting.key] = none ∨
            ∃ started : CommandRun,
              command.started? [setting.scope.name, setting.key] = some started ∧
                started.succeeded = false := by
  refine ⟨?_, ?_, fun command => command.result_get_eq_error_iff setting⟩
  · intro clean command value written script scripted succeeded
    obtain ⟨cleanRead, cleanWrite⟩ := clean_arguments setting value clean
    constructor
    · have runs := command.started?_of_script _ written script cleanWrite scripted
      rw [command.put_of_succeeded setting value written runs succeeded, scripted]
      rfl
    · intro later printed rest left right printing printedWell blankLeft blankRight out
      have runs := later.started?_of_script _ printed rest cleanRead printing
      exact later.result_get_of_printed setting value printed left right runs printedWell
        blankLeft blankRight out
  · intro command started runs succeeded
    refine ⟨fun value => command.result_get_eq_some_iff setting started value runs succeeded,
      command.result_get_eq_none_iff setting started runs succeeded, ?_⟩
    rintro (empty | null)
    · rw [command.result_get_of_succeeded setting started runs succeeded,
        (trim_eq_iff _ _).mpr empty]
      rfl
    · rw [command.result_get_of_succeeded setting started runs succeeded,
        (trim_eq_iff _ _).mpr null]
      rfl

def fourRuns : SettingsCommand :=
  ⟨some [⟨[], [], true⟩, ⟨Utf8.encode "\u3000-2147483648\u2028\n", [], true⟩,
    ⟨Utf8.encode "+02147483648", [], true⟩, ⟨Utf8.encode "0", [], false⟩], []⟩

theorem values_survive_round_trip_fourRuns :
    let stored := (fourRuns.put .doze (-2147483648)).1
    let second := (stored.get .doze).host
    let third := (second.get .doze).host
    stored.runs = [["put", "secure", "doze_enabled", "-2147483648"]] ∧
      (stored.get .doze).result = .ok (some (-2147483648)) ∧
      (second.get .doze).result = .ok none ∧
      ∃ failure : Failure, (third.get .doze).result = .error failure := by
  intro stored second third
  obtain ⟨trips, reads, fails⟩ := values_survive_round_trip .doze
  obtain ⟨put, get⟩ := trips (by decide) fourRuns (-2147483648) _ _ rfl rfl
  refine ⟨?_, ?_, ?_, ?_⟩
  · change (fourRuns.put .doze (-2147483648)).1.runs = _
    rw [put]
    decide
  · refine get stored _ _ "\u3000" "\u2028\n" rfl rfl ?_ ?_ rfl
    · rw [allBlank_iff]
      decide
    · rw [allBlank_iff]
      decide
  · refine ((reads second _ rfl rfl).2.1).mpr ?_
    intro n printed
    rw [CommandRun.prints_iff] at printed
    exact (int32?_eq_none_iff _).mp (by decide) n printed
  · exact (fails third).mpr (.inr ⟨_, rfl, rfl⟩)

end SettingsCommand

end GestureMode
