import GestureMode.Preference.Store
import GestureMode.Trace

/-!
# Settings and preferences with a trace

The reads and writes through which the service reaches its provider and its
store.  Each leaves its event in the trace.
-/

set_option autoImplicit false

namespace GestureMode

namespace HostSettings

variable {S : Type} [HostSettings S]

def read (host : S) (setting : Setting) : Traced (S × Except Failure (Option Int32)) :=
  let reading := get host setting
  ⟨(reading.host, reading.result),
    reading.remarks.map (fun text => .note ⟨.debug, text⟩) ++ [.read setting reading.result]⟩

def write (host : S) (setting : Setting) (value : Int32) : Traced (S × Option Failure) :=
  let (host, refusal) := put host setting value
  ⟨(host, refusal), [.write setting value refusal]⟩

def readFlag (host : S) (setting : Setting) : Traced (S × Except Failure Bool) := do
  let (host, result) ← read host setting
  pure (host, result.map Setting.isOnValue)

def writeFlag (host : S) (setting : Setting) (value : Bool) : Traced (S × Option Failure) :=
  write host setting (Setting.ofBool value)

end HostSettings

namespace PreferenceStore

variable {P : Type} [PreferenceStore P]

/-- Writes a preference; the store stays as it is when it refuses. -/
def store (prefs : P) (key : String) (value : Bool) : Traced (P × Option Failure) :=
  match put prefs key value with
  | .ok after => ⟨(after, none), [.store key value none]⟩
  | .error failure => ⟨(prefs, some failure), [.store key value (some failure)]⟩

end PreferenceStore

end GestureMode
