import GestureMode.Node.FileTree

/-!
# Sinks for lines

Where the mode of the gestures goes: one line at a time, which a sink takes or
refuses.  A recorder keeps the lines that it takes; a device node overwrites a
file that has to exist, with one write of the line and its end.
-/

set_option autoImplicit false

namespace GestureMode

class LineSink (W : Type) where
  deliver : W → String → W × Option Failure

structure Recorder where
  refuses : Bool
  lines : List String
  deriving DecidableEq, Repr

namespace Recorder

def deliver (recorder : Recorder) (line : String) : Recorder × Option Failure :=
  if recorder.refuses then (recorder, some (.property "unreachable node"))
  else ({ recorder with lines := recorder.lines ++ [line] }, none)

instance : LineSink Recorder where
  deliver := deliver

end Recorder

structure DeviceNode where
  path : String
  tree : FileTree
  deriving DecidableEq, Repr

namespace DeviceNode

def lineBytes (line : String) : List UInt8 :=
  Text.Utf8.encode line ++ [0x0A]

def deliver (node : DeviceNode) (line : String) : DeviceNode × Option Failure :=
  let bytes := lineBytes line
  let delivery := node.tree.delivery node.path bytes.length
  ({ node with tree := node.tree.settle node.path bytes delivery },
    delivery.failure? node.path bytes.length)

instance : LineSink DeviceNode where
  deliver := deliver

end DeviceNode

end GestureMode
