import GestureMode.Daemon

/-!
# The daemon on a host

Runs the daemon where there is neither a property service nor a settings command.
The node is observed before each tick, the tick is computed, and what it did is
carried out: entries go to the standard error output and accepted lines to the
node.
-/

set_option autoImplicit false

namespace GestureMode.OnHost

def causeOf : IO.Error → Cause
  | .noFileOrDirectory _ code _ | .permissionDenied _ code _ | .inappropriateType _ code _
  | .invalidArgument _ code _ | .resourceExhausted _ code _ => .code code.toNat
  | error => .described (toString error)

/-- The tree of the node alone, as far as it can be opened for writing. -/
def observe (path : String) : IO FileTree := do
  let file ←
    try
      let _ ← IO.FS.Handle.mk path .readWrite
      pure (File.regular [])
    catch error => pure (File.sealed (causeOf error))
  return FileTree.ofFiles [] [(path, file)] none

def overwrite (path line : String) : IO Unit := do
  let handle ← IO.FS.Handle.mk path .readWrite
  handle.truncate
  handle.putStrLn line
  handle.flush

def perform (threshold : Threshold) (path : String) : Event → IO Unit
  | .note entry =>
    match entry.record? threshold with
    | some record => IO.eprintln record.text
    | none => pure ()
  | .line text none => try overwrite path text catch _ => pure ()
  | _ => pure ()

def performAll (threshold : Threshold) (path : String) (events : List Event) : IO Unit :=
  events.forM (perform threshold path)

def now : IO Instant := do
  return ⟨Span.ofNanos (← IO.monoNanosNow)⟩

/-- Sleeps for whole milliseconds, in steps that a sleep can take. -/
def rest (d : Span) : IO Unit := do
  let millis := (d.total + 999999) / 1000000
  let longest := 1000000000
  for _ in [0:millis / longest] do
    IO.sleep (UInt32.ofNat longest)
  IO.sleep (UInt32.ofNat (millis % longest))

/-- Ticks and sleeps until a fault, and answers the exit code. -/
partial def loop (threshold : Threshold) (daemon : Daemon) : IO UInt32 := do
  let path := daemon.service.keeper.sink.path
  let tree ← observe path
  let clock ← now
  let observed : Daemon :=
    { daemon with service := daemon.service.withSink fun node => { node with tree }, clock }
  let ticked := observed.tick
  performAll threshold path ticked.events
  match ticked.value with
  | (_, some fault) =>
    IO.eprintln fault.message
    return 101
  | (daemon, none) =>
    rest daemon.poll
    loop threshold daemon

def start : IO UInt32 := do
  let config := Config.ofProperties none
  let tree ← observe config.node
  let (threshold, launched) := programAt (← now) ⟨none, tree, ⟨none, []⟩⟩
  performAll threshold config.node launched.events
  loop threshold launched.value

end GestureMode.OnHost

def main : IO UInt32 :=
  GestureMode.OnHost.start
