import GestureMode.Gesture.Basic

/-!
# The mode mask

Eight bits, of which the touch controller knows seven: one for each gesture and,
above them, the control bit.  A mask is written with the most significant bit
first and at least seven characters, which is the line that the node takes.
-/

set_option autoImplicit false

namespace GestureMode

@[ext]
structure Mask where
  bits : BitVec 8
  deriving DecidableEq, Repr

namespace Mask

/-- The characters of a line of known bits; the bit at this place is unknown. -/
def width : Nat := 7

def empty : Mask := ⟨0#8⟩

def control : Mask := ⟨0x40#8⟩

def known : Mask := ⟨0x7f#8⟩

def ofGesture (gesture : Gesture) : Mask :=
  ⟨1#8 <<< gesture.place⟩

def union (a b : Mask) : Mask := ⟨a.bits ||| b.bits⟩

def inter (a b : Mask) : Mask := ⟨a.bits &&& b.bits⟩

def toggle (a b : Mask) : Mask := ⟨a.bits ^^^ b.bits⟩

def without (a b : Mask) : Mask := ⟨a.bits &&& ~~~ b.bits⟩

def truncate (a : Mask) : Mask := a.inter known

def complement (a : Mask) : Mask := truncate ⟨~~~ a.bits⟩

def isEmpty (a : Mask) : Bool := a == empty

def intersects (a b : Mask) : Bool := !(a.inter b).isEmpty

def contains (a b : Mask) : Bool := a.inter b == b

def isFull (a : Mask) : Bool := a.contains known

def known? (a : Mask) : Option Mask :=
  if (a.without known).isEmpty then some a else none

def bitNames : List (String × Mask) :=
  ([.v, .z, .c, .e, .s, .w].map fun gesture : Gesture => (gesture.letter, ofGesture gesture)) ++
    [("CONTROL", control)]

def names (a : Mask) : List String :=
  (bitNames.filter fun entry => a.contains entry.2).map Prod.fst

def digit (a : Mask) (place : Nat) : Char :=
  if a.bits.getLsbD place then '1' else '0'

/-- The characters of the line: seven, or eight when the top bit is set. -/
def lineChars (a : Mask) : List Char :=
  (if a.bits.getLsbD width then ['1'] else []) ++ (List.range width).reverse.map a.digit

def line (a : Mask) : String :=
  String.ofList a.lineChars

end Mask

end GestureMode
