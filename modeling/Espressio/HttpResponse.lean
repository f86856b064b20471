import Espressio.HttpServer

/-!
# The response of an HTTP exchange

`ESP32HttpResponsePlatform`.  A response with a known length is framed here:
the platform writes the header block and the body itself through `httpd_send`,
which may take fewer bytes than it is given.  `sendRaw` is the loop around it.
A response of unknown length is handed to the native chunked encoder.

Every operation takes the answers of the native calls it may make, in order,
and returns the calls it made.  A script of answers that has run out goes on
failing.
-/

namespace HttpResponse

open NetworkBytes Web
open PlatformResults (EspErr)

/-- The codes `ESP32HttpStatusText` tells apart; any other is `other`. -/
inductive HttpStatus
  | «continue» | switchingProtocols | ok | created | accepted | noContent
  | movedPermanently | found | notModified
  | badRequest | unauthorized | forbidden | notFound | methodNotAllowed | requestTimeout
  | conflict | lengthRequired | payloadTooLarge | unsupportedMediaType | tooManyRequests
  | internalServerError | notImplemented | badGateway | serviceUnavailable | gatewayTimeout
  | other (code : UInt16)
  deriving DecidableEq, Repr

/-- `Detail::ESP32HttpStatusText`. -/
def httpStatusText : HttpStatus → String
  | .continue => "100 Continue"
  | .switchingProtocols => "101 Switching Protocols"
  | .ok => "200 OK"
  | .created => "201 Created"
  | .accepted => "202 Accepted"
  | .noContent => "204 No Content"
  | .movedPermanently => "301 Moved Permanently"
  | .found => "302 Found"
  | .notModified => "304 Not Modified"
  | .badRequest => "400 Bad Request"
  | .unauthorized => "401 Unauthorized"
  | .forbidden => "403 Forbidden"
  | .notFound => "404 Not Found"
  | .methodNotAllowed => "405 Method Not Allowed"
  | .requestTimeout => "408 Request Timeout"
  | .conflict => "409 Conflict"
  | .lengthRequired => "411 Length Required"
  | .payloadTooLarge => "413 Payload Too Large"
  | .unsupportedMediaType => "415 Unsupported Media Type"
  | .tooManyRequests => "429 Too Many Requests"
  | .internalServerError => "500 Internal Server Error"
  | .notImplemented => "501 Not Implemented"
  | .badGateway => "502 Bad Gateway"
  | .serviceUnavailable => "503 Service Unavailable"
  | .gatewayTimeout => "504 Gateway Timeout"
  | .other _ => "500 Internal Server Error"

/-- `std::tolower` on a byte, in the C locale. -/
def toLower (c : UInt8) : UInt8 := if 65 ≤ c ∧ c ≤ 90 then c + 32 else c

/-- `Detail::HeaderNameEquals`. -/
def headerNameEquals (left right : Bytes) : Bool :=
  if left.length ≠ right.length then false
  else (left.zip right).all fun (a, b) => toLower a = toLower b

/-- `Detail::IsFramingHeader`. -/
def isFramingHeader (name : Bytes) : Bool :=
  headerNameEquals name (ascii "Content-Length") ||
    headerNameEquals name (ascii "Transfer-Encoding") ||
    headerNameEquals name (ascii "Connection")

/-- Caller memory handed to `Write`.  Its size fits the 32-bit `size_t`. -/
structure Buffer where
  bytes : Bytes
  fits : bytes.length < 4294967296

def Buffer.size (b : Buffer) : UInt32 := UInt32.ofNatLT b.bytes.length b.fits

@[simp] theorem Buffer.size_toNat (b : Buffer) : b.size.toNat = b.bytes.length := by
  simp [Buffer.size]

theorem Buffer.size_eq_zero (b : Buffer) : b.size = 0 ↔ b.bytes = [] := by
  rw [← UInt32.toNat_inj]
  simp

structure Header where
  name : Bytes
  value : Bytes
  deriving DecidableEq, Repr

/-- The members of a response.  `isHead` is the request's method being HEAD. -/
structure Response where
  isHead : Bool
  keepAlive : Bool
  begun : Bool
  completed : Bool
  knownLengthFraming : Bool
  status : HttpStatus
  expectedLength : Option UInt32
  bytesWritten : UInt32
  contentType : Bytes
  headers : List Header
  deriving DecidableEq, Repr

/-- A response as it is constructed. -/
def Response.fresh (isHead keepAlive : Bool) : Response :=
  ⟨isHead, keepAlive, false, false, false, .ok, none, 0, [], []⟩

/-- The native calls, each with what it was given.  `send` also records the
number `httpd_send` returned. -/
inductive NativeCall
  | send (data : Bytes) (sent : Int)
  | setStatus (text : Bytes)
  | setType (value : Bytes)
  | setHeader (name value : Bytes)
  | sendChunk (data : Bytes)
  deriving DecidableEq, Repr

/-- What `httpd_send` put on the wire: the first `sent` bytes. -/
def NativeCall.onWire : NativeCall → Bytes
  | .send data sent => data.take sent.toNat
  | _ => []

/-- Answers to successive calls of `httpd_send` and of the calls that return
an `esp_err_t`.  `httpd_send` never reports more than it was given; a larger
number in the script stands for all of it. -/
structure Natives where
  sends : List Int
  results : List EspErr

/-- `SetStatus`. -/
def setStatus (r : Response) (status : HttpStatus) : Response × WebResult :=
  if r.begun then (r, .failure .invalidState .none)
  else ({ r with status := status }, .success)

/-- The search of `SetHeader` through the stored headers. -/
def assignHeader (name value : Bytes) : List Header → List Header
  | [] => [⟨name, value⟩]
  | h :: rest =>
      if headerNameEquals h.name name then { h with value := value } :: rest
      else h :: assignHeader name value rest

/-- `SetHeader`. -/
def setHeader (r : Response) (name value : Bytes) : Response × WebResult :=
  if r.begun ∨ name = [] then (r, .failure .invalidState .none)
  else if isFramingHeader name then (r, .failure .invalidConfiguration .none)
  else if headerNameEquals name (ascii "Content-Type") then
    ({ r with contentType := value }, .success)
  else ({ r with headers := assignHeader name value r.headers }, .success)

/-- `SendRaw`.  Its callers never pass a null pointer. -/
def sendRaw (data : Bytes) (sends : List Int) : WebResult × List NativeCall :=
  if data = [] then (.success, [])
  else
    match sends with
    | [] => (.failure .connectionFailure (.number 0), [.send data 0])
    | sent :: rest =>
        if sent ≤ 0 then (.failure .connectionFailure (.number sent), [.send data sent])
        else
          let (result, calls) := sendRaw (data.drop sent.toNat) rest
          (result, .send data sent :: calls)

/-- What `snprintf` makes of the length. -/
def lengthText (contentLength : UInt32) : Bytes := ascii contentLength.toNat.repr

/-- The text `SendKnownLengthHeaders` builds. -/
def headerBlock (r : Response) (contentLength : UInt32) : Bytes :=
  ascii "HTTP/1.1 " ++ ascii (httpStatusText r.status) ++
    ascii "\r\nContent-Length: " ++ lengthText contentLength ++ ascii "\r\n" ++
    (if r.contentType = [] then []
      else ascii "Content-Type: " ++ r.contentType ++ ascii "\r\n") ++
    (r.headers.flatMap fun h => h.name ++ ascii ": " ++ h.value ++ ascii "\r\n") ++
    (if r.keepAlive then [] else ascii "Connection: close\r\n") ++
    ascii "\r\n"

/-- `SendKnownLengthHeaders`. -/
def sendKnownLengthHeaders (r : Response) (contentLength : UInt32) (n : Natives) :
    WebResult × List NativeCall :=
  if (lengthText contentLength).length = 0 ∨ 32 ≤ (lengthText contentLength).length then
    (.failure .platformFailure .none, [])
  else sendRaw (headerBlock r contentLength) n.sends

/-- Native calls made one after the other until one of them fails. -/
def issue : List NativeCall → List EspErr → EspErr × List NativeCall
  | [], _ => (.ok, [])
  | call :: rest, results =>
      let answer := results.headD .fail
      if answer ≠ .ok then (answer, [call])
      else
        let (last, calls) := issue rest results.tail
        (last, call :: calls)

/-- The calls that hand the header fields to the chunked encoder. -/
def chunkedHeaderCalls (r : Response) : List NativeCall :=
  .setStatus (ascii (httpStatusText r.status)) ::
    (if r.contentType = [] then [] else [.setType (cString r.contentType)]) ++
    (r.headers.map fun h =>
      .setHeader (cString h.name) (cString h.value)) ++
    (if r.keepAlive then [] else [.setHeader (ascii "Connection") (ascii "close")])

/-- `Begin`. -/
def begin (r : Response) (contentLength : Option UInt32) (n : Natives) :
    Response × WebResult × List NativeCall :=
  if r.begun then (r, .failure .invalidState .none, [])
  else
    -- The framing stays as set here when the headers fail to go out.
    let r := { r with
      expectedLength := contentLength
      knownLengthFraming := contentLength.isSome }
    let (result, calls) :=
      match contentLength with
      | some length => sendKnownLengthHeaders r length n
      | none =>
          let (answer, calls) := issue (chunkedHeaderCalls r) n.results
          (HttpServer.httpResult answer, calls)
    if result = .success then ({ r with begun := true }, .success, calls)
    else (r, result, calls)

/-- The bytes of the expected length, if there is one, leave no room for
`size` more.  The sum wraps as `size_t` does. -/
def exceedsLength (r : Response) (size : UInt32) : Bool :=
  r.expectedLength.any fun length => length < r.bytesWritten + size

/-- `Write`.  `none` is a null pointer. -/
def write (r : Response) (data : Option Buffer) (n : Natives) :
    Response × WebResult × List NativeCall :=
  match data with
  | none => (r, .failure .invalidState .none, [])
  | some data =>
      if r.begun = false ∨ r.completed ∨ data.size = 0 then
        (r, .failure .invalidState .none, [])
      else if exceedsLength r data.size then (r, .failure .protocolError .none, [])
      else if r.isHead then
        ({ r with bytesWritten := r.bytesWritten + data.size }, .success, [])
      else
        let (result, calls) :=
          if r.knownLengthFraming then sendRaw data.bytes n.sends
          else
            let (answer, calls) := issue [.sendChunk data.bytes] n.results
            (HttpServer.httpResult answer, calls)
        if result = .success then
          ({ r with bytesWritten := r.bytesWritten + data.size }, .success, calls)
        else (r, result, calls)

/-- `Complete`. -/
def complete (r : Response) (n : Natives) : Response × WebResult × List NativeCall :=
  if r.completed then (r, .success, [])
  else if r.begun = false then (r, .failure .invalidState .none, [])
  else if r.expectedLength.any (· ≠ r.bytesWritten) then (r, .failure .protocolError .none, [])
  else
    let (answer, calls) :=
      if r.knownLengthFraming then (EspErr.ok, []) else issue [.sendChunk []] n.results
    if answer = .ok then ({ r with completed := true }, .success, calls)
    else (r, HttpServer.httpResult answer, calls)

/-- `Abort`. -/
def abort (r : Response) : Response := { r with completed := true }

/-- The operations of `IHttpResponsePlatform`, with their native answers. -/
inductive Call
  | setStatus (status : HttpStatus)
  | setHeader (name value : Bytes)
  | begin (contentLength : Option UInt32) (natives : Natives)
  | write (data : Option Buffer) (natives : Natives)
  | complete (natives : Natives)
  | abort

def step (r : Response) : Call → Response × WebResult × List NativeCall
  | .setStatus status => ((setStatus r status).1, (setStatus r status).2, [])
  | .setHeader name value => ((setHeader r name value).1, (setHeader r name value).2, [])
  | .begin contentLength natives => begin r contentLength natives
  | .write data natives => write r data natives
  | .complete natives => complete r natives
  | .abort => (abort r, .success, [])

end HttpResponse
