import GestureMode.Gesture.Switches
import GestureMode.Node.Sink
import GestureMode.Trace

/-!
# Keeping the mode

The keeper holds the switches that it knows of and delivers their mode to a
sink.  A refused line is logged and otherwise changes nothing.
-/

set_option autoImplicit false

namespace GestureMode

/-- Hands a line to the sink; the attempt is left in the trace. -/
def LineSink.hand {W : Type} [LineSink W] (sink : W) (line : String) :
    Traced (W × Option Failure) :=
  let (sink, refusal) := deliver sink line
  ⟨(sink, refusal), [.line line refusal]⟩

structure Keeper (W : Type) where
  switches : Switches
  sink : W

namespace Keeper

variable {P W : Type} [PreferenceStore P]

/-- Takes note of a changed preference without delivering; answers whether it is a
gesture's. -/
def announce (keeper : Keeper W) (prefs : P) (key : String) : Keeper W × Bool :=
  match keeper.switches.announce? prefs key with
  | some switches => ({ keeper with switches }, true)
  | none => (keeper, false)

variable [LineSink W]

def deliver (keeper : Keeper W) : Traced (Keeper W × Mask) := do
  let mask := keeper.switches.encode
  let bits := mask.bits.toNat
  Traced.note .debug s!"[GestureSync] finished gesture mode: {bits}"
  let line := mask.line
  let (sink, refusal) ← LineSink.hand keeper.sink line
  match refusal with
  | none => pure ({ keeper with sink }, mask)
  | some failure =>
    let reason := failure.message
    Traced.note .error s!"[GestureSync] Could not write gesture mode {line}: {reason}"
    pure ({ keeper with sink }, mask)

/-- The sink takes the line or refuses it; the rest stays as it is. -/
theorem value_deliver (keeper : Keeper W) :
    keeper.deliver.value =
      ({ keeper with sink := (LineSink.deliver keeper.sink keeper.switches.encode.line).1 },
        keeper.switches.encode) := by
  rcases taken : LineSink.deliver keeper.sink keeper.switches.encode.line with ⟨sink, _ | failure⟩
  · simp only [deliver, LineSink.hand, taken]
    rfl
  · simp only [deliver, LineSink.hand, taken]
    rfl

@[simp]
theorem switches_deliver (keeper : Keeper W) :
    keeper.deliver.value.1.switches = keeper.switches := by
  rw [value_deliver]

@[simp]
theorem mask_deliver (keeper : Keeper W) : keeper.deliver.value.2 = keeper.switches.encode := by
  rw [value_deliver]

theorem sink_deliver (keeper : Keeper W) :
    keeper.deliver.value.1.sink =
      (LineSink.deliver keeper.sink keeper.switches.encode.line).1 := by
  rw [value_deliver]

/-- A delivery attempts one line, whatever the sink makes of it. -/
theorem lines_deliver (keeper : Keeper W) :
    Event.lines keeper.deliver.events = [keeper.switches.encode.line] := by
  unfold deliver LineSink.hand
  rcases h : LineSink.deliver keeper.sink keeper.switches.encode.line with ⟨sink, _ | failure⟩ <;>
    simp [h]

def start (prefs : P) (sink : W) : Traced (Keeper W) := do
  let (keeper, _) ← deliver ⟨Switches.load prefs, sink⟩
  pure keeper

def change (keeper : Keeper W) (prefs : P) (key : String) : Traced (Keeper W × Option Mask) :=
  match keeper.announce prefs key with
  | (keeper, true) => do
    let (keeper, mask) ← keeper.deliver
    pure (keeper, some mask)
  | (keeper, false) => pure (keeper, none)

end Keeper

end GestureMode
