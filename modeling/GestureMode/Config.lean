import GestureMode.Log
import GestureMode.Node.Path
import GestureMode.Property.Table
import GestureMode.Text.Numeral
import GestureMode.Time.Debounce

/-!
# Configuration

Four properties override the defaults of the daemon.  A text that does not fit
its property leaves that default in place, and no property has a say in the field
of another.
-/

set_option autoImplicit false

namespace GestureMode

structure Config where
  node : String
  /-- What the names of all preference properties start with. -/
  stem : String
  debounce : Span
  poll : Span
  debug : Bool
  deriving DecidableEq, Repr

namespace Config

def defaultNode : String := "/sys/bus/i2c/devices/i2c-5/5-0038/gesture_mode"

def defaultStem : String := "persist.sys.cmactions."

def defaultPoll : Span := Span.ofMillis 100

def defaults : Config :=
  ⟨defaultNode, defaultStem, Debounce.defaultDelay, defaultPoll, false⟩

instance : Inhabited Config := ⟨defaults⟩

def nodeProperty : String := "persist.sys.cmactions.node"

def debounceProperty : String := "persist.sys.cmactions.debounce_ms"

def pollProperty : String := "persist.sys.cmactions.poll_ms"

def debugProperty : String := "persist.sys.cmactions.debug"

def millis? (raw : String) : Option Nat :=
  Text.Numeral.below? 18446744073709551616 (Text.trim raw)

def node? (raw : String) : Option String :=
  let text := Text.trim raw
  if text = "" then none else some text

/-- The configuration of a lookup from property names to texts.  A poll interval of
zero would never sleep and does not count; the debug text has to be exact. -/
def ofLookup (lookup : String → Option String) : Config where
  node := ((lookup nodeProperty).bind node?).getD defaultNode
  stem := defaultStem
  debounce := (((lookup debounceProperty).bind millis?).map Span.ofMillis).getD
    Debounce.defaultDelay
  poll := ((((lookup pollProperty).bind millis?).filter (0 < ·)).map Span.ofMillis).getD
    defaultPoll
  debug := lookup debugProperty = some "true"

def ofProperties (properties : Properties) : Config :=
  ofLookup properties.get?

def same (a b : Config) : Bool :=
  Path.same a.node b.node && a.stem == b.stem && a.debounce == b.debounce && a.poll == b.poll &&
    a.debug == b.debug

def threshold (config : Config) : Threshold :=
  Threshold.ofDebug config.debug

end Config

end GestureMode
