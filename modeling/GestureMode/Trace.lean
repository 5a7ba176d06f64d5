import GestureMode.Host.Setting
import GestureMode.Log

/-!
# Traces

What the service does besides changing its own state is a trace of events: the
entries it logs, the lines it hands to its sink, the settings it reads and
writes, and the preferences it writes.  A traced value is a value with the events
of its computation, in order.
-/

set_option autoImplicit false

namespace GestureMode

instance decidableEqExcept {ε α : Type} [DecidableEq ε] [DecidableEq α] :
    DecidableEq (Except ε α)
  | .ok a, .ok b => decidable_of_iff (a = b) (by simp)
  | .error a, .error b => decidable_of_iff (a = b) (by simp)
  | .ok _, .error _ => isFalse (by simp)
  | .error _, .ok _ => isFalse (by simp)

/-- Something done; the last argument of an attempt says why it was refused, if it was. -/
inductive Event where
  | note (entry : Entry)
  | line (text : String) (refusal : Option Failure)
  | read (setting : Setting) (result : Except Failure (Option Int32))
  | write (setting : Setting) (value : Int32) (refusal : Option Failure)
  | store (key : String) (value : Bool) (refusal : Option Failure)
  deriving DecidableEq

namespace Event

@[simp]
def line? : Event → Option String
  | line text _ => some text
  | _ => none

@[simp]
def entry? : Event → Option Entry
  | note entry => some entry
  | _ => none

def lines (events : List Event) : List String :=
  events.filterMap line?

def entries (events : List Event) : List Entry :=
  events.filterMap entry?

def records (threshold : Threshold) (events : List Event) : List Record :=
  (entries events).filterMap (·.record? threshold)

@[simp]
theorem lines_nil : lines [] = [] := rfl

@[simp]
theorem lines_cons (event : Event) (events : List Event) :
    lines (event :: events) = event.line?.toList ++ lines events := by
  cases event <;> rfl

@[simp]
theorem lines_append (a b : List Event) : lines (a ++ b) = lines a ++ lines b := by
  simp [lines]

@[simp]
theorem entries_nil : entries [] = [] := rfl

@[simp]
theorem entries_cons (event : Event) (events : List Event) :
    entries (event :: events) = event.entry?.toList ++ entries events := by
  cases event <;> rfl

@[simp]
theorem entries_append (a b : List Event) : entries (a ++ b) = entries a ++ entries b := by
  simp [entries]

@[simp]
theorem records_append (threshold : Threshold) (a b : List Event) :
    records threshold (a ++ b) = records threshold a ++ records threshold b := by
  simp [records]

end Event

structure Traced (α : Type) where
  value : α
  events : List Event

namespace Traced

instance : Monad Traced where
  pure value := ⟨value, []⟩
  bind x f := ⟨(f x.value).value, x.events ++ (f x.value).events⟩

def emit (events : List Event) : Traced Unit :=
  ⟨(), events⟩

def note (level : Level) (text : String) : Traced Unit :=
  emit [.note ⟨level, text⟩]

variable {α β : Type}

@[simp]
theorem value_pure (a : α) : (pure a : Traced α).value = a := rfl

@[simp]
theorem events_pure (a : α) : (pure a : Traced α).events = [] := rfl

@[simp]
theorem value_bind (x : Traced α) (f : α → Traced β) : (x >>= f).value = (f x.value).value := rfl

@[simp]
theorem events_bind (x : Traced α) (f : α → Traced β) :
    (x >>= f).events = x.events ++ (f x.value).events := rfl

@[simp]
theorem events_emit (events : List Event) : (emit events).events = events := rfl

@[simp]
theorem events_note (level : Level) (text : String) :
    (note level text).events = [.note ⟨level, text⟩] := rfl

end Traced

end GestureMode
