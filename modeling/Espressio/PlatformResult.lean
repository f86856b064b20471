/-!
# Results of the platform

What the modules share of the native layers and of the core: the driver's
errors, and the statuses they become.  `EspErr` names the errors that some
module tells apart; any other one is `other`.
-/

namespace PlatformResults

/-- `esp_err_t`. -/
inductive EspErr
  | ok
  | fail
  | noMem
  | invalidArg
  | invalidState
  | notFound
  | notSupported
  | timeout
  | httpdAllocMem
  | httpdHandlersFull
  | httpdInvalidReq
  | httpdRespSend
  | httpdRespHdr
  | httpdResultTrunc
  | other (code : Int)
  deriving DecidableEq, Repr

inductive PlatformStatus
  | success
  | invalidArgument
  | busy
  | timeout
  | outOfMemory
  | unsupported
  | conflict
  | unavailable
  | hardwareFailure
  deriving DecidableEq, Repr

/-- A failure carries the driver's error, if it was the driver's. -/
inductive PlatformResult
  | succeeded
  | failed (status : PlatformStatus) (native : Option EspErr)
  deriving DecidableEq, Repr

def PlatformResult.ok : PlatformResult → Bool
  | .succeeded => true
  | .failed _ _ => false

def platformResultFromEspError (error : EspErr) : PlatformResult :=
  match error with
  | .ok => .succeeded
  | .invalidArg => .failed .invalidArgument (some error)
  | .noMem => .failed .outOfMemory (some error)
  | .notSupported => .failed .unsupported (some error)
  | .invalidState => .failed .conflict (some error)
  | .timeout => .failed .timeout (some error)
  | _ => .failed .hardwareFailure (some error)

end PlatformResults
