/-!
# Texts with a NUL

A NUL ends a text for the system: a name, an argument or a log line that holds
one cannot be passed on.
-/

set_option autoImplicit false

namespace GestureMode.Text

def hasNul (s : String) : Bool :=
  s.toList.contains '\x00'

@[simp]
theorem hasNul_append (a b : String) : hasNul (a ++ b) = (hasNul a || hasNul b) := by
  simp [hasNul]

end GestureMode.Text
