/-!
# Paths

A path is cut at its slashes.  Two paths are the same when they start alike, at
the root or not, and go through the same components; empty pieces and single
dots are no components, but for a dot that opens a relative path.
-/

set_option autoImplicit false

namespace GestureMode.Path

/-- The pieces between the slashes; one more than there are slashes. -/
def pieces : List Char → List (List Char)
  | [] => [[]]
  | c :: cs =>
    match pieces cs with
    | [] => [[c]]
    | piece :: rest => if c = '/' then [] :: piece :: rest else (c :: piece) :: rest

def isRooted : List Char → Bool
  | '/' :: _ => true
  | _ => false

def isComponent (piece : List Char) : Bool :=
  piece != [] && piece != ['.']

def components (path : String) : Bool × List (List Char) :=
  let cs := path.toList
  let parts := pieces cs
  let opening := if parts.head? = some ['.'] then [['.']] else []
  (isRooted cs, opening ++ parts.filter isComponent)

def same (a b : String) : Bool :=
  components a == components b

end GestureMode.Path
