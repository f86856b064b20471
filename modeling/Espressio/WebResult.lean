import Espressio.PlatformResult

/-!
# Results of platform operations

The platform reports every operation as a `WebResult`: success, or a portable
error with the native code it came from.
-/

namespace Web

open PlatformResults (EspErr)

inductive WebError
  | invalidConfiguration
  | resourceExhausted
  | invalidState
  | notFound
  | closed
  | connectionFailure
  | protocolError
  | platformFailure
  | unsupported
  | alreadyRunning
  deriving DecidableEq, Repr

/-- The native diagnostic a failure carries: none, an `esp_err_t`, or the
plain number a native call returned. -/
inductive NativeCode
  | none
  | esp (error : EspErr)
  | number (value : Int)
  deriving DecidableEq, Repr

inductive WebResult
  | success
  | failure (error : WebError) (native : NativeCode)
  deriving DecidableEq, Repr

end Web
