import Espressio.Runs

/-!
# Message fragmentation and its reference reassembler

A message travels as one final data frame, or as a data frame that is not
final followed by continuation frames up to the first final one.  Control
frames may stand between any two frames and belong to no message.  This is
the fragmentation scheme of RFC 6455, over an arbitrary type `τ` of message
types and an arbitrary type `α` of payload elements.

Two descriptions are given.

* `messageFrom` reads the message a data frame opens off the frames that
  follow it.
* `reassemble` is the reference reassembler: it keeps the message that is
  open, if any, and answers each frame with a `Verdict`.
-/

namespace Fragments

variable {τ α : Type*}

/-- The two message types of RFC 6455. -/
inductive MessageType
  | text
  | binary
  deriving DecidableEq, Repr

/-- What a frame is for. -/
inductive Kind (τ : Type*)
  | data (type : τ)
  | continuation
  | control
  | unknown
  deriving DecidableEq, Repr

/-- A frame with its FIN bit and payload. -/
structure Frame (τ α : Type*) where
  kind : Kind τ
  fin : Bool
  payload : List α
  deriving DecidableEq, Repr

/-- The rest of an open message: every continuation payload up to the first
final one.  `none` if the frames end, or another message starts, before it. -/
def restOfMessage : List (Frame τ α) → Option (List α)
  | [] => none
  | f :: rest =>
      match f.kind with
      | .control => restOfMessage rest
      | .continuation =>
          if f.fin then some f.payload
          else (restOfMessage rest).map (f.payload ++ ·)
      | .data _ => none
      | .unknown => none

/-- The whole message opened by the first of these frames, if it is a data
frame and the message is complete among them. -/
def messageFrom : List (Frame τ α) → Option (τ × List α)
  | [] => none
  | f :: rest =>
      match f.kind with
      | .data t =>
          if f.fin then some (t, f.payload)
          else (restOfMessage rest).map fun tail => (t, f.payload ++ tail)
      | _ => none

/-- Why the reference reassembler refuses a frame. -/
inductive Rejection
  | noOpenMessage
  | messageOpen
  | unknownOpcode
  | tooLong
  deriving DecidableEq, Repr

/-- The answer to one frame. -/
inductive Verdict (τ α : Type*)
  | pending
  | delivered (type : τ) (payload : List α)
  | rejected (why : Rejection)
  deriving DecidableEq, Repr

/-- One frame of the reference reassembler for messages of at most `limit`
elements.  The state is the open message: its type and what has arrived. -/
def reassemble (limit : Nat) (state : Option (τ × List α)) (f : Frame τ α) :
    Option (τ × List α) × Verdict τ α :=
  match f.kind, state with
  | .control, s => (s, .pending)
  | .unknown, s => (s, .rejected .unknownOpcode)
  | .data _, some s => (some s, .rejected .messageOpen)
  | .data t, none =>
      if limit < f.payload.length then (none, .rejected .tooLong)
      else if f.fin then (none, .delivered t f.payload)
      else (some (t, f.payload), .pending)
  | .continuation, none => (none, .rejected .noOpenMessage)
  | .continuation, some (t, received) =>
      if limit < received.length + f.payload.length then (none, .rejected .tooLong)
      else if f.fin then (none, .delivered t (received ++ f.payload))
      else (some (t, received ++ f.payload), .pending)

end Fragments
