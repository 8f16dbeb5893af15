/-!
# Faults of streams

The ways in which reading from a source or writing to a sink ends in failure.
-/

namespace Bytecode

/-- Why a stream operation fails. -/
inductive IoFault where
  | seekEnd
  | seekStart
  | read
  | isDirectory
  | endOfSource
  | write
  | noProgress
  | flush
  /-- Any other failure, told by its message. -/
  | other (message : String)
deriving DecidableEq, Repr

def IoFault.message : IoFault → String
  | seekEnd => "seek end fault"
  | seekStart => "seek start fault"
  | read => "read fault"
  | isDirectory => "Is a directory (os error 21)"
  | endOfSource => "failed to fill whole buffer"
  | write => "write fault"
  | noProgress => "failed to write whole buffer"
  | flush => "flush fault"
  | other message => message

end Bytecode
