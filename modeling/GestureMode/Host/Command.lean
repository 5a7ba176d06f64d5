import GestureMode.Host.Setting
import GestureMode.Text.ZeroByte
import GestureMode.Text.Utf8

/-!
# Settings behind a command

A provider that runs the command `settings` for every read and write.  What the
command does is given as a script of its next runs, after which it always fails;
without a script the command is not installed.  The runs that took place are
kept with their arguments.
-/

set_option autoImplicit false

namespace GestureMode

structure CommandRun where
  out : List UInt8
  err : List UInt8
  succeeded : Bool
  deriving DecidableEq, Repr

namespace CommandRun

/-- The run of a command whose script has come to its end. -/
def exhausted : CommandRun :=
  ⟨[], Text.Utf8.encode "exhausted", false⟩

/-- The trimmed output of a run that succeeded, or the failure with what it complained of. -/
def result (run : CommandRun) (action : String) (args : List String) : Except Failure String :=
  if run.succeeded then .ok (Text.trim (Text.Utf8.decode run.out))
  else .error (.setting action (" ".intercalate args) (Text.trim (Text.Utf8.decode run.err)))

end CommandRun

structure SettingsCommand where
  script : Option (List CommandRun)
  runs : List (List String)
  deriving DecidableEq, Repr

namespace SettingsCommand

/-- Runs the command.  An argument with a NUL cannot be passed, and nothing runs then. -/
def run (command : SettingsCommand) (action : String) (args : List String) :
    SettingsCommand × Except Failure String :=
  if args.any Text.hasNul then (command, .error (.starting .nulInArgument))
  else
    match command.script with
    | none => (command, .error (.starting .notFound))
    | some script =>
      let next := script.headD .exhausted
      (⟨some script.tail, command.runs ++ [action :: args]⟩, next.result action args)

def get (command : SettingsCommand) (setting : Setting) : Reading SettingsCommand :=
  match command.run "get" [setting.scope.name, setting.key] with
  | (command, .error failure) => ⟨command, .error failure, []⟩
  | (command, .ok text) =>
    let scope := setting.scope.name
    let key := setting.key
    ⟨command, .ok (Setting.parse? text), [s!"[Settings] {scope} {key} result: '{text}'"]⟩

def put (command : SettingsCommand) (setting : Setting) (value : Int32) :
    SettingsCommand × Option Failure :=
  match command.run "put" [setting.scope.name, setting.key, toString value.toInt] with
  | (command, .error failure) => (command, some failure)
  | (command, .ok _) => (command, none)

instance : HostSettings SettingsCommand where
  get := get
  put := put

end SettingsCommand

end GestureMode
