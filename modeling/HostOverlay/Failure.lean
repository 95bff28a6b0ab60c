import HostOverlay.Misfit

/-!
# Failures

A failure comes from outside the agent: from the source of the cluster's metadata, from the
operating system, or from a value that was put where it does not fit. It is passed on as it came,
so all that matters is its kind and its message.
-/

namespace HostOverlay

/-- What a numbered failure of the operating system means. -/
inductive SystemFault where
  /-- The operation is not permitted. -/
  | notPermitted
  /-- A file or an interface does not exist. -/
  | notFound
  /-- A process does not exist. -/
  | noProcess
  /-- A call was interrupted. -/
  | interrupted
  /-- There is no child process. -/
  | noChild
  /-- The operation would have to wait. -/
  | wouldBlock
  /-- A file exists already. -/
  | alreadyExists
  /-- Something is no directory. -/
  | notDirectory
  /-- Something is a directory. -/
  | isDirectory
  /-- The reader of a pipe is gone. -/
  | brokenPipe
  /-- A connection was aborted. -/
  | connectionAborted
  /-- A connection was reset. -/
  | connectionReset
  /-- An operation took too long. -/
  | timedOut
  /-- A connection was refused. -/
  | connectionRefused
  /-- Any other fault. -/
  | other
deriving DecidableEq, Repr

/-- The meaning of an error number. -/
def SystemFault.ofNumber (number : Int) : SystemFault :=
  if number ∈ [1, 13] then notPermitted
  else if number = 2 then notFound
  else if number = 3 then noProcess
  else if number = 4 then interrupted
  else if number = 10 then noChild
  else if number ∈ [11, 114, 115] then wouldBlock
  else if number = 17 then alreadyExists
  else if number = 20 then notDirectory
  else if number = 21 then isDirectory
  else if number ∈ [32, 108] then brokenPipe
  else if number = 103 then connectionAborted
  else if number = 104 then connectionReset
  else if number = 110 then timedOut
  else if number = 111 then connectionRefused
  else other

/-- A failure outside the agent. -/
inductive Failure where
  /-- The source of the metadata failed. -/
  | metadata (text : String)
  /-- Something took too long; that is a failure of the operating system without a number. -/
  | timeout (text : String)
  /-- A value was not acceptable. -/
  | value (text : String)
  /-- Something else went wrong while running. -/
  | runtime (text : String)
  /-- The operating system failed, maybe with an error number. -/
  | system (number : Option Int) (text : String)
  /-- A value did not fit what was asked of it. -/
  | misfit (cause : Misfit)
deriving DecidableEq, Repr

namespace Failure

/-- Whether the operating system failed. -/
def isSystem : Failure → Bool
  | timeout _ | system .. => true
  | metadata _ | value _ | runtime _ | misfit _ => false

/-- The misfit from which a failure follows, if it is not the first. -/
def cause? : Failure → Option Misfit
  | misfit cause => cause.cause?
  | metadata _ | timeout _ | value _ | runtime _ | system .. => none

/-- The message of a failure. -/
def message : Failure → String
  | metadata text | timeout text | value text | runtime text => text
  | system none text => text
  | system (some number) text => "[Errno " ++ toString number ++ "] " ++ text
  | misfit cause => cause.message

end Failure

end HostOverlay
