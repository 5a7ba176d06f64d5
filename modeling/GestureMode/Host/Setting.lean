import GestureMode.Failure
import GestureMode.Text.Blank
import GestureMode.Text.Numeral

/-!
# Host settings

The host keeps integers in two scopes.  Two of them follow switches of the
panel: whether the device dozes with an ambient display, and whether touches are
answered by the vibrator.  A provider reads and writes settings; both can fail,
and a read may come with remarks for the debug log.
-/

set_option autoImplicit false

namespace GestureMode

inductive Scope where
  | secure
  | system
  deriving DecidableEq, Repr

def Scope.name : Scope → String
  | .secure => "secure"
  | .system => "system"

structure Setting where
  scope : Scope
  key : String
  deriving DecidableEq, Repr

namespace Setting

def doze : Setting := ⟨.secure, "doze_enabled"⟩

def haptic : Setting := ⟨.system, "touchscreen_gesture_haptic_feedback"⟩

def absentValue : Int32 := 1

/-- The integer that the host printed; an empty text and `null` stand for none. -/
def parse? (raw : String) : Option Int32 :=
  let text := Text.trim raw
  if text = "" ∨ text = "null" then none else Text.Numeral.int32? text

def isOnValue (value : Option Int32) : Bool :=
  value.getD absentValue != 0

def ofBool (value : Bool) : Int32 :=
  if value then 1 else 0

end Setting

structure Reading (S : Type) where
  host : S
  result : Except Failure (Option Int32)
  remarks : List String

class HostSettings (S : Type) where
  get : S → Setting → Reading S
  put : S → Setting → Int32 → S × Option Failure

/-- A provider is lawful when it holds a table of settings: a read that succeeds tells
what is held, an accepted write is held and touches no other setting, and a refused one
leaves the provider as it was. -/
class LawfulHostSettings (S : Type) extends HostSettings S where
  value? : S → Setting → Option Int32
  result_get : ∀ (host : S) (setting : Setting) (value : Option Int32),
    (get host setting).result = .ok value → value? host setting = value
  value?_get : ∀ (host : S) (setting : Setting), value? (get host setting).host = value? host
  value?_put_self : ∀ (host after : S) (setting : Setting) (value : Int32),
    put host setting value = (after, none) → value? after setting = some value
  value?_put_of_ne : ∀ (host after : S) (setting other : Setting) (value : Int32),
    put host setting value = (after, none) → other ≠ setting →
      value? after other = value? host other
  put_refused : ∀ (host after : S) (setting : Setting) (value : Int32) (failure : Failure),
    put host setting value = (after, some failure) → after = host

end GestureMode
