import Espressio.DnsName
import Espressio.WebResult

/-!
# The DNS server platform

`receivePacket` is `ESP32DnsServerPlatform::ReceivePacket` on one datagram,
`Response` with its operations is `ESP32DnsResponsePlatform`.  Reads of the
datagram are checked: `receivePacket` is `none` if one of them falls outside
it, or if the decoder does not end.

lwIP appears as the list of calls that are made of it, and as the answers it
gives.  The numbers of record types, classes and response codes are fixed by
the interface and not by this platform; they are given by `Codes`.
-/

namespace Dns

open NetworkBytes CompressedNames Web

/-- The numbers of the interface's enumerations that the platform uses. -/
structure Codes where
  a : UInt16
  aaaa : UInt16
  internet : UInt16
  formatError : UInt8
  deriving DecidableEq, Repr

/-- `err_t`. -/
inductive LwipErr
  | ok
  | mem
  | other (code : Int)
  deriving DecidableEq, Repr

def LwipErr.native : LwipErr → NativeCode
  | .ok => .number 0
  | .mem => .number (-1)
  | .other code => .number code

/-- `Detail::DnsLwipError`. -/
def dnsLwipError : LwipErr → WebError
  | .mem => .resourceExhausted
  | _ => .connectionFailure

structure Remote where
  address : Nat
  port : UInt16
  deriving DecidableEq, Repr

/-- The packet buffers in play: the one lwIP handed over, and the one a reply
is sent from. -/
inductive Pbuf
  | received
  | reply
  deriving DecidableEq, Repr

/-- What is asked of lwIP. -/
inductive Call
  | allocate
  | free (buffer : Pbuf)
  | sendTo (remote : Remote) (payload : Bytes) (result : LwipErr)
  deriving DecidableEq, Repr

/-- lwIP's answers while a reply is sent. -/
structure SendNatives where
  allocated : Bool
  taken : LwipErr
  sent : LwipErr
  deriving DecidableEq, Repr

def maximumPacketBytes : Nat := 512

inductive Family
  | ipv4
  | ipv6
  deriving DecidableEq, Repr

/-- `DnsAddress`: room for the longest address, whatever the family. -/
structure Address where
  family : Family
  bytes : Bytes
  room : bytes.length = 16

structure Response where
  remote : Remote
  buffer : Bytes
  answerCount : UInt16
  valid : Bool
  completed : Bool
  deriving DecidableEq, Repr

/-- The flags of a response: QR and AA are set, opcode and RD are kept. -/
def responseFlags (queryFlags : UInt16) : UInt16 := 0x8000 ||| 0x0400 ||| (queryFlags &&& 0x7900)

/-- The header rewritten by the constructor of `ESP32DnsResponsePlatform`. -/
def rewriteHeader (buffer : Bytes) (queryFlags : UInt16) : Bytes :=
  let flagged := write16 buffer 2 (responseFlags queryFlags)
  write16 (write16 (write16 (write16 flagged 4 1) 6 0) 8 0) 10 0

/-- The constructor of `ESP32DnsResponsePlatform`; `allocated` tells whether
its buffer could be. -/
def Response.create (pcb : Bool) (remote : Remote) (request : Bytes) (questionEnd : Nat)
    (allocated : Bool) : Option Response :=
  if pcb = false ∨ request.length < 12 ∨ request.length < questionEnd ∨
      maximumPacketBytes < questionEnd ∨ allocated = false then
    some ⟨remote, [], 0, false, false⟩
  else do
    let buffer ← slice request 0 questionEnd
    let queryFlags ← read16 request 2
    some ⟨remote, rewriteHeader buffer queryFlags, 0, true, false⟩

/-- `SetResponseCode`, with the number of the code. -/
def Response.setResponseCode (r : Response) (code : UInt8) : Response × WebResult :=
  if r.valid = false ∨ r.completed then (r, .failure .invalidState .none)
  else
    let flags := (read16 r.buffer 2).getD 0
    let coded := (flags &&& 0xfff0) ||| (code.toUInt16 &&& 0x0f)
    ({ r with buffer := write16 r.buffer 2 coded }, .success)

def Address.length (address : Address) : Nat :=
  match address.family with
  | .ipv4 => 4
  | .ipv6 => 16

def Address.type (codes : Codes) (address : Address) : UInt16 :=
  match address.family with
  | .ipv4 => codes.a
  | .ipv6 => codes.aaaa

/-- One answer record.  Its owner name is a pointer to the question. -/
def answerRecord (codes : Codes) (address : Address) (ttlSeconds : UInt32) : Bytes :=
  [0xc0, 0x0c] ++ bytes16 (address.type codes) ++ bytes16 codes.internet ++
    bytes32 ttlSeconds ++ bytes16 (UInt16.ofNat address.length) ++
    address.bytes.take address.length

theorem length_answerRecord (codes : Codes) (address : Address) (ttl : UInt32) :
    (answerRecord codes address ttl).length = 12 + address.length := by
  have hroom := address.room
  cases hfamily : address.family <;>
    simp [answerRecord, Address.length, hfamily, bytes16, bytes32, hroom]

def Response.addAddressAnswer (codes : Codes) (r : Response) (address : Address)
    (ttlSeconds : UInt32) (allocated : Bool) : Response × WebResult :=
  if r.valid = false ∨ r.completed then (r, .failure .invalidState .none)
  else if maximumPacketBytes < r.buffer.length + (12 + address.length) then
    (r, .failure .resourceExhausted .none)
  else if allocated = false then (r, .failure .resourceExhausted .none)
  else
    let answerCount := r.answerCount + 1
    ({ r with
        buffer := write16 (r.buffer ++ answerRecord codes address ttlSeconds) 6 answerCount
        answerCount := answerCount },
      .success)

def Response.complete (r : Response) (n : SendNatives) : Response × WebResult × List Call :=
  if r.valid = false ∨ r.completed then
    (r, if r.completed then .success else .failure .invalidState .none, [])
  else if n.allocated = false then (r, .failure .resourceExhausted .none, [.allocate])
  else if n.taken ≠ .ok then
    (r, .failure (dnsLwipError n.taken) n.taken.native, [.allocate, .free .reply])
  else
    let calls : List Call := [.allocate, .sendTo r.remote r.buffer n.sent, .free .reply]
    if n.sent ≠ .ok then (r, .failure (dnsLwipError n.sent) n.sent.native, calls)
    else ({ r with completed := true }, .success, calls)

def Response.abort (r : Response) : Response := { r with completed := true }

/-- What a dispatcher does to its response before it completes it. -/
inductive ResponseOp
  | setResponseCode (code : UInt8)
  | addAddressAnswer (address : Address) (ttlSeconds : UInt32) (allocated : Bool)

def Response.apply (codes : Codes) (r : Response) : ResponseOp → Response × WebResult
  | .setResponseCode code => r.setResponseCode code
  | .addAddressAnswer address ttl allocated => r.addAddressAnswer codes address ttl allocated

/-- The reply of `SendFormatError`: a header with the request's ID. -/
def formatErrorReply (codes : Codes) (id₀ id₁ : UInt8) : Bytes :=
  write16 [id₀, id₁, 0, 0, 0, 0, 0, 0, 0, 0, 0, 0] 2
    (0x8000 ||| 0x0400 ||| codes.formatError.toUInt16)

def sendFormatError (codes : Codes) (pcb : Bool) (remote : Remote) (request : Bytes)
    (n : SendNatives) : Option (List Call) :=
  if pcb = false ∨ request.length < 2 then some []
  else do
    let id₀ ← request[0]?
    let id₁ ← request[1]?
    if n.allocated = false then some [.allocate]
    else if n.taken ≠ .ok then some [.allocate, .free .reply]
    else
      some [.allocate, .sendTo remote (formatErrorReply codes id₀ id₁) n.sent, .free .reply]

/-- `ESP32DnsRequestPlatform`. -/
structure Request where
  name : Bytes
  type : UInt16
  recordClass : UInt16
  deriving DecidableEq, Repr

/-- The members of the server platform that a datagram meets. -/
structure Server where
  listening : Bool
  dispatcher : Option Nat
  deriving DecidableEq, Repr

/-- The answers to the calls `ReceivePacket` makes: the allocation of its copy
of the datagram, the number of bytes copied, the allocation of the response's
buffer, and the calls for a format error. -/
structure ReceiveNatives where
  copyAllocated : Bool
  copied : Nat
  responseAllocated : Bool
  reply : SendNatives
  deriving DecidableEq, Repr

/-- What comes of a datagram: the calls of lwIP, and what a dispatcher is
handed. -/
structure Received where
  calls : List Call
  dispatched : Option (Nat × Request × Response)
  deriving DecidableEq, Repr

/-- `ReceivePacket` once the datagram is copied and lwIP's buffer freed. -/
def handleQuery (codes : Codes) (dispatcher : Nat) (remote : Remote) (bytes : Bytes)
    (n : ReceiveNatives) : Option Received := do
  let flags ← read16 bytes 2
  let questionCount ← read16 bytes 4
  if flags &&& 0x8000 ≠ 0 ∨ questionCount ≠ 1 then
    let calls ← sendFormatError codes true remote bytes n.reply
    some ⟨calls, none⟩
  else
    match decodeDnsName bytes 12 with
    | .outOfBounds | .unfinished => none
    | .malformed =>
        let calls ← sendFormatError codes true remote bytes n.reply
        some ⟨calls, none⟩
    | .name text encodedEnd =>
        if bytes.length < encodedEnd + 4 then
          let calls ← sendFormatError codes true remote bytes n.reply
          some ⟨calls, none⟩
        else
          let type ← read16 bytes encodedEnd
          let recordClass ← read16 bytes (encodedEnd + 2)
          let response ← Response.create true remote bytes (encodedEnd + 4) n.responseAllocated
          if response.valid = false then some ⟨[], none⟩
          else some ⟨[], some (dispatcher, ⟨text, type, recordClass⟩, response)⟩

/-- `ReceivePacket`.  `none` for the owner, the packet or the remote address
is a null pointer. -/
def receivePacket (codes : Codes) (owner : Option Server) (pcb : Bool) (packet : Option Bytes)
    (remote : Option Remote) (n : ReceiveNatives) : Option Received :=
  match packet with
  | none => some ⟨[], none⟩
  | some bytes =>
      let released : Received := ⟨[.free .received], none⟩
      match owner, remote with
      | some server, some remote =>
          match server.dispatcher with
          | none => some released
          | some dispatcher =>
              if pcb = false ∨ server.listening = false then some released
              else if bytes.length < 12 ∨ maximumPacketBytes < bytes.length then some released
              else if n.copyAllocated = false then some released
              else if n.copied ≠ bytes.length then some released
              else
                (handleQuery codes dispatcher remote bytes n).map fun received =>
                  { received with calls := .free .received :: received.calls }
      | _, _ => some released

/-- The codes of RFC 1035 and RFC 3596. -/
def standardCodes : Codes := ⟨1, 28, 1, 1⟩

/-- All calls of a receive and of a send succeed. -/
def ReceiveNatives.allOk (size : Nat) : ReceiveNatives := ⟨true, size, true, ⟨true, .ok, .ok⟩⟩

end Dns
