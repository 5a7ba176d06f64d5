import GestureMode.ErrorNumber

/-!
# Failures

What an operation on a property, a setting or the node can fail with, and the
text that reports it.  A system cause carries the number that the system gave or
a text of its own.
-/

set_option autoImplicit false

namespace GestureMode

inductive Cause where
  | code (number : Int)
  | described (text : String)
  deriving DecidableEq, Repr

namespace Cause

def notFound : Cause := .code 2
def notDirectory : Cause := .code 20
def isDirectory : Cause := .code 21
def tooLarge : Cause := .code 27
def noSpace : Cause := .code 28
def nameTooLong : Cause := .code 36
def nulInPath : Cause := .described "file name contained an unexpected NUL byte"
def nulInArgument : Cause := .described "nul byte found in provided data"
def shortWrite : Cause := .described "short write"

def message : Cause → String
  | .code number => ErrorNumber.describe number ++ s!" (os error {number})"
  | .described text => text

end Cause

inductive Failure where
  /-- The node could not be opened for writing. -/
  | opening (path : String) (cause : Cause)
  /-- The node was open and did not take the whole line. -/
  | writing (path : String) (cause : Cause)
  | property (key : String)
  | setting (action key reason : String)
  /-- The settings command could not be started. -/
  | starting (cause : Cause)
  deriving DecidableEq, Repr

def Failure.message : Failure → String
  | .opening path cause => s!"failed to open {path}: " ++ cause.message
  | .writing path cause => s!"failed to write {path}: " ++ cause.message
  | .property key => s!"property {key} could not be set"
  | .setting action key reason => s!"settings {action} {key} failed: {reason}"
  | .starting cause => "failed to execute 'settings' command: " ++ cause.message

end GestureMode
