/-!
# Sets of keys

The keys that a store or a provider refuses: every key, or those of a list.
-/

set_option autoImplicit false

namespace GestureMode

inductive KeySet where
  | every
  | these (keys : List String)
  deriving DecidableEq, Repr

namespace KeySet

def empty : KeySet := these []

instance : Inhabited KeySet := ⟨empty⟩

def covers : KeySet → String → Bool
  | every, _ => true
  | these keys, key => keys.contains key

@[simp]
theorem covers_empty (key : String) : empty.covers key = false := rfl

end KeySet

end GestureMode
