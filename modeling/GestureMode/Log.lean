import GestureMode.Text.ZeroByte

/-!
# The device log

An entry has a level and a text.  A logger shows an entry when its level is at
or above the threshold; it never shows a text with a NUL, which the log cannot
hold.  What a logger shows has no influence on anything else.
-/

set_option autoImplicit false

namespace GestureMode

inductive Level where
  | error
  | warn
  | info
  | debug
  | trace
  deriving DecidableEq, Repr

namespace Level

def rank : Level → Nat
  | error => 1
  | warn => 2
  | info => 3
  | debug => 4
  | trace => 5

/-- The priority that the device log gives a level; it has none below debug. -/
def priority : Level → Int
  | error => 6
  | warn => 5
  | info => 4
  | debug | trace => 3

end Level

structure Entry where
  level : Level
  text : String
  deriving DecidableEq, Repr

/-- The least urgent level that is shown. -/
inductive Threshold where
  | off
  | upTo (level : Level)
  deriving DecidableEq, Repr

namespace Threshold

def rank : Threshold → Nat
  | off => 0
  | upTo level => level.rank

def admits (threshold : Threshold) (level : Level) : Bool :=
  level.rank ≤ threshold.rank

def ofDebug (debug : Bool) : Threshold :=
  upTo (if debug then .debug else .info)

end Threshold

structure Record where
  priority : Int
  tag : String
  format : String
  text : String
  deriving DecidableEq, Repr

namespace Record

def defaultTag : String := "CMActions"

/-- The record of a text; a text with a NUL has none. -/
def ofText? (priority : Int) (text : String) : Option Record :=
  if Text.hasNul text then none else some ⟨priority, defaultTag, "%s", text⟩

end Record

def Entry.record? (threshold : Threshold) (entry : Entry) : Option Record :=
  if threshold.admits entry.level then Record.ofText? entry.level.priority entry.text else none

end GestureMode
