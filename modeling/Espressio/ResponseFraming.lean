import Espressio.Runs
import Espressio.HttpResponse

/-!
# What a completed response put on the wire

Responses of known length, to requests other than HEAD.  The bytes of a
response are accounted for call by call: what reached the wire (`wire`), the
data of the Writes that succeeded (`payload`), and what calls that failed had
already put on the wire (`lost`).

As long as nothing is lost, the wire holds the header block and the payload.
But a Begin or a Write whose `sendRaw` fails half way leaves no trace in the
response: `_begun` and `_bytesWritten` are as before, so the caller may try
again and complete.  `delivered_iff` says exactly which completed responses
are still intact.
-/

namespace HttpResponse

open NetworkBytes Web

/-- A call, its result and the native calls it made. -/
structure Exchange where
  call : Call
  result : WebResult
  natives : List NativeCall

def respond (r : Response) (call : Call) : Response × List Exchange :=
  ((step r call).1, [⟨call, (step r call).2.1, (step r call).2.2⟩])

/-- The calls on a fresh response to a request other than HEAD. -/
def run (keepAlive : Bool) (calls : List Call) : Response × List Exchange :=
  Runs.feed respond (Response.fresh false keepAlive) calls

def Exchange.wire (e : Exchange) : Bytes := e.natives.flatMap NativeCall.onWire

/-- The data of a Write that succeeded. -/
def Exchange.payload (e : Exchange) : Bytes :=
  match e.call, e.result with
  | .write (some data) _, .success => data.bytes
  | _, _ => []

/-- What a call that failed left on the wire. -/
def Exchange.lost (e : Exchange) : Bytes := if e.result = .success then [] else e.wire

def wire (es : List Exchange) : Bytes := es.flatMap Exchange.wire
def payload (es : List Exchange) : Bytes := es.flatMap Exchange.payload
def lost (es : List Exchange) : Bytes := es.flatMap Exchange.lost

@[simp] theorem wire_append (es fs : List Exchange) : wire (es ++ fs) = wire es ++ wire fs := by
  simp [wire]

@[simp] theorem payload_append (es fs : List Exchange) :
    payload (es ++ fs) = payload es ++ payload fs := by
  simp [payload]

@[simp] theorem lost_append (es fs : List Exchange) : lost (es ++ fs) = lost es ++ lost fs := by
  simp [lost]

@[simp] theorem wire_singleton (e : Exchange) : wire [e] = e.wire := by simp [wire]

@[simp] theorem payload_singleton (e : Exchange) : payload [e] = e.payload := by simp [payload]

@[simp] theorem lost_singleton (e : Exchange) : lost [e] = e.lost := by simp [lost]

/-- A Complete that returned Success. -/
def Exchange.Completes (e : Exchange) : Prop :=
  e.result = .success ∧ ∃ natives, e.call = .complete natives

/-! ## One transmission -/

/-- The answers let all of `size` bytes through. -/
def reaches (size : Nat) : List Int → Bool
  | [] => size = 0
  | sent :: rest => size = 0 ∨ (0 < sent ∧ reaches (size - sent.toNat) rest)

/-- The first answer lets nothing through. -/
def refused : List Int → Bool
  | [] => true
  | sent :: _ => sent ≤ 0

/-- `sendRaw` succeeds when the answers let everything through, and then all
of the data is on the wire. -/
theorem sendRaw_reaches {data : Bytes} {sends : List Int} (h : reaches data.length sends) :
    (sendRaw data sends).1 = .success ∧
      (sendRaw data sends).2.flatMap NativeCall.onWire = data := by
  induction sends generalizing data with
  | nil =>
      have hnil : data = [] := by simpa [reaches] using h
      subst hnil
      simp [sendRaw]
  | cons sent rest ih =>
      by_cases hnil : data = []
      · subst hnil
        simp [sendRaw]
      · have hrest : 0 < sent ∧ reaches (data.length - sent.toNat) rest := by
          simpa [reaches, hnil] using h
        obtain ⟨hpos, hreach⟩ := hrest
        have hdrop := @ih (data.drop sent.toNat) (by simpa using hreach)
        rw [sendRaw, if_neg hnil]
        simp [show ¬ sent ≤ 0 by omega, hdrop, NativeCall.onWire]

/-- Otherwise it fails, and has put nothing on the wire only if the first
answer already was a refusal. -/
theorem sendRaw_not_reaches {data : Bytes} {sends : List Int}
    (h : reaches data.length sends = false) :
    (sendRaw data sends).1 ≠ .success ∧
      ((sendRaw data sends).2.flatMap NativeCall.onWire = [] ↔ refused sends) := by
  have hdata : data ≠ [] := by
    rintro rfl
    cases sends <;> simp [reaches] at h
  induction sends generalizing data with
  | nil => simp [sendRaw, hdata, NativeCall.onWire, refused]
  | cons sent rest ih =>
      rw [sendRaw, if_neg hdata]
      by_cases hpos : sent ≤ 0
      · simp [hpos, NativeCall.onWire, refused, Int.toNat_of_nonpos hpos]
      · have hrest : reaches (data.drop sent.toNat).length rest = false := by
          simpa [reaches, hdata, show 0 < sent by omega] using h
        have hdrop : data.drop sent.toNat ≠ [] := by
          intro hnil
          rw [hnil] at hrest
          cases rest <;> simp [reaches] at hrest
        have hsent : sent.toNat ≠ 0 := by omega
        simp [hpos, ih hrest hdrop, NativeCall.onWire, refused, hdata, hsent]

/-! ## One call -/

theorem length_lengthText (n : UInt32) :
    0 < (lengthText n).length ∧ (lengthText n).length < 32 := by
  have hlen : (lengthText n).length = n.toNat.repr.length := by
    rw [lengthText, ascii, List.length_map, String.length_toList]
  have hlt := n.toNat_lt
  have hten : n.toNat.repr.length ≤ 10 := (Nat.length_repr_le_iff (by omega)).mpr (by omega)
  have hpos := Nat.length_repr_pos (n := n.toNat)
  omega

/-- The length always fits the buffer it is printed into. -/
theorem sendKnownLengthHeaders_eq (r : Response) (length : UInt32) (n : Natives) :
    sendKnownLengthHeaders r length n = sendRaw (headerBlock r length) n.sends := by
  have := length_lengthText length
  rw [sendKnownLengthHeaders, if_neg (by omega)]

theorem begin_refused {r : Response} (h : r.begun = true) (length : Option UInt32)
    (n : Natives) : begin r length n = (r, .failure .invalidState .none, []) := by
  simp [begin, h]

/-- `Begin` with a length, on a response that has not begun. -/
theorem begin_fresh {r : Response} (h : r.begun = false) (length : UInt32) (n : Natives) :
    begin r (some length) n =
      ({ r with
          expectedLength := some length
          knownLengthFraming := true
          begun := reaches (headerBlock r length).length n.sends },
        sendRaw (headerBlock r length) n.sends) := by
  have hsend : sendKnownLengthHeaders
      { r with expectedLength := some length, knownLengthFraming := true } length n =
        sendRaw (headerBlock r length) n.sends := sendKnownLengthHeaders_eq _ length n
  rw [begin, if_neg (by simp [h])]
  simp only [Option.isSome_some, hsend]
  cases hsends : reaches (headerBlock r length).length n.sends with
  | true => rw [if_pos (sendRaw_reaches hsends).1, ← (sendRaw_reaches hsends).1]
  | false => rw [if_neg (sendRaw_not_reaches hsends).1, ← h]

/-- The state and the data let a Write go to `sendRaw`. -/
def Accepts (r : Response) (data : Buffer) : Prop :=
  r.begun = true ∧ r.completed = false ∧ data.bytes ≠ [] ∧ exceedsLength r data.size = false

theorem write_refused {r : Response} {data : Buffer} (h : ¬ Accepts r data) (n : Natives) :
    ∃ error, write r (some data) n = (r, .failure error .none, []) := by
  simp only [write, Buffer.size_eq_zero]
  split
  · exact ⟨_, rfl⟩
  · rename_i hopen
    split
    · exact ⟨_, rfl⟩
    · rename_i hroom
      refine absurd ⟨?_, ?_, ?_, ?_⟩ h <;> simp_all

theorem write_accepted {r : Response} {data : Buffer} (h : Accepts r data)
    (hhead : r.isHead = false) (hknown : r.knownLengthFraming = true) (n : Natives) :
    write r (some data) n =
      (if reaches data.bytes.length n.sends then
          { r with bytesWritten := r.bytesWritten + data.size }
        else r,
        sendRaw data.bytes n.sends) := by
  obtain ⟨hbegun, hcompleted, hdata, hroom⟩ := h
  rw [write, if_neg (by simp [hbegun, hcompleted, hdata, Buffer.size_eq_zero]),
    if_neg (by simp [hroom]), if_neg (by simp [hhead]), if_pos hknown]
  cases hsends : reaches data.bytes.length n.sends with
  | true =>
      have hsuccess := (sendRaw_reaches hsends).1
      simp only [hsuccess, if_true]
      rw [← hsuccess]
  | false => simp [(sendRaw_not_reaches hsends).1]

/-- The calls of a response whose length is given and that is not aborted. -/
def Call.FixedLength : Call → Prop
  | .begin none _ => False
  | .abort => False
  | _ => True

/-! ## The account of a run -/

/-- What the response knows of the calls made so far.  Before it has begun, it
has only lost bytes.  Afterwards the wire is framed, up to what was lost. -/
structure Account (r : Response) (es : List Exchange) : Prop where
  notHead : r.isHead = false
  fresh : r.begun = false →
    r.completed = false ∧ payload es = [] ∧ wire es = lost es
  framed : r.begun = true → r.knownLengthFraming = true ∧
    ∃ length, r.expectedLength = some length ∧
      (∃ e ∈ es, e.result = .success ∧ ∃ natives, e.call = .begin (some length) natives) ∧
      (lost es = [] → wire es = headerBlock r length ++ payload es)
  completed : r.completed = true → r.expectedLength = some r.bytesWritten
  completes : (∃ e ∈ es, e.Completes) → r.completed = true

theorem account_fresh (keepAlive : Bool) : Account (Response.fresh false keepAlive) [] where
  notHead := rfl
  fresh _ := ⟨rfl, rfl, rfl⟩
  framed h := by simp [Response.fresh] at h
  completed h := by simp [Response.fresh] at h
  completes h := by simp at h

/-- A call that leaves the response alone and puts nothing on the wire. -/
theorem Account.idle {r : Response} {es : List Exchange} (h : Account r es) {e : Exchange}
    (hnatives : e.natives = []) (hfail : e.result = .success → e.payload = [])
    (hcomplete : e.Completes → r.completed = true) : Account r (es ++ [e]) := by
  have hwire : e.wire = [] := by simp [Exchange.wire, hnatives]
  have hlost : e.lost = [] := by simp [Exchange.lost, hwire]
  have hpayload : e.payload = [] := by
    by_cases hsuccess : e.result = .success
    · exact hfail hsuccess
    · unfold Exchange.payload
      split
      · contradiction
      · rfl
  refine ⟨h.notHead, ?_, ?_, h.completed, ?_⟩
  · intro hbegun
    simpa [hwire, hlost, hpayload] using h.fresh hbegun
  · intro hbegun
    obtain ⟨hknown, length, hexpected, ⟨b, hb, hbegin⟩, hframed⟩ := h.framed hbegun
    refine ⟨hknown, length, hexpected, ⟨b, List.mem_append_left _ hb, hbegin⟩, ?_⟩
    simpa [hwire, hlost, hpayload] using hframed
  · intro hparts
    obtain ⟨b, hb, hbcomplete⟩ := hparts
    rcases List.mem_append.mp hb with hb | hb
    · exact h.completes ⟨b, hb, hbcomplete⟩
    · rw [List.mem_singleton.mp hb] at hbcomplete
      exact hcomplete hbcomplete

/-- `Begin` puts the header block on the wire, or loses what it sent of it. -/
theorem Account.begin {r : Response} {es : List Exchange} (h : Account r es)
    (length : UInt32) (n : Natives) :
    Account (respond r (.begin (some length) n)).1
      (es ++ (respond r (.begin (some length) n)).2) := by
  simp only [respond, step]
  cases hbegun : r.begun with
  | true =>
      rw [begin_refused hbegun]
      exact h.idle rfl (by simp) (by simp [Exchange.Completes])
  | false =>
      obtain ⟨hopen, hpayload, hwire⟩ := h.fresh hbegun
      rw [begin_fresh hbegun]
      cases hsends : reaches (headerBlock r length).length n.sends with
      | true =>
          obtain ⟨hsuccess, hsent⟩ := sendRaw_reaches hsends
          refine ⟨h.notHead, by simp, ?_, by simp [hopen], ?_⟩
          · refine fun _ => ⟨rfl, length, rfl,
              ⟨_, List.mem_append_right es (List.mem_singleton_self _), hsuccess, n, rfl⟩, ?_⟩
            intro hlost
            have hearlier : lost es = [] := (by simpa using hlost : _ ∧ _).1
            simp only [wire_append, payload_append, hwire, hearlier, hpayload, wire_singleton,
              payload_singleton, Exchange.wire, Exchange.payload, hsent]
            simp [headerBlock]
          · simpa [Exchange.Completes, or_and_right, exists_or] using h.completes
      | false =>
          have hfail := (sendRaw_not_reaches hsends).1
          refine ⟨h.notHead, ?_, by simp, by simp [hopen], ?_⟩
          · simp [hopen, hpayload, hwire, Exchange.payload, Exchange.lost, hfail]
          · simpa [Exchange.Completes, or_and_right, exists_or] using h.completes

/-- `Write` puts its data on the wire, or loses what it sent of it. -/
theorem Account.write {r : Response} {es : List Exchange} (h : Account r es)
    (data : Option Buffer) (n : Natives) :
    Account (respond r (.write data n)).1 (es ++ (respond r (.write data n)).2) := by
  simp only [respond, step]
  cases data with
  | none => exact h.idle rfl (by simp [HttpResponse.write]) (by simp [Exchange.Completes])
  | some data =>
      by_cases haccepts : Accepts r data
      · obtain ⟨hknown, length, hexpected, ⟨b, hb, hbegin⟩, hframed⟩ := h.framed haccepts.1
        have hbegun := haccepts.1
        have hopen := haccepts.2.1
        rw [write_accepted haccepts h.notHead hknown]
        cases hsends : reaches data.bytes.length n.sends with
        | true =>
            obtain ⟨hsuccess, hsent⟩ := sendRaw_reaches hsends
            refine ⟨h.notHead, by simp [hbegun], ?_, by simp [hopen], ?_⟩
            · refine fun _ =>
                ⟨hknown, length, hexpected, ⟨b, List.mem_append_left _ hb, hbegin⟩, ?_⟩
              intro hlost
              have hearlier : lost es = [] := (by simpa using hlost : _ ∧ _).1
              have hblock : headerBlock { r with bytesWritten := r.bytesWritten + data.size }
                length = headerBlock r length := rfl
              simp [hframed hearlier, Exchange.wire, Exchange.payload, hsuccess, hsent, hblock]
            · simpa [Exchange.Completes, or_and_right, exists_or] using h.completes
        | false =>
            have hfail := (sendRaw_not_reaches hsends).1
            refine ⟨h.notHead, by simp [hbegun], ?_, by simp [hopen], ?_⟩
            · refine fun _ =>
                ⟨hknown, length, hexpected, ⟨b, List.mem_append_left _ hb, hbegin⟩, ?_⟩
              intro hlost
              have hboth : lost es = [] ∧ (sendRaw data.bytes n.sends).2.flatMap
                  NativeCall.onWire = [] := by
                simpa [Exchange.lost, Exchange.wire, hfail] using hlost
              simp [hframed hboth.1, Exchange.wire, Exchange.payload, hfail, hboth.2]
            · simpa [Exchange.Completes, or_and_right, exists_or] using h.completes
      · obtain ⟨error, hrefused⟩ := write_refused haccepts n
        rw [hrefused]
        exact h.idle rfl (by simp) (by simp [Exchange.Completes])

/-- `Complete` sends nothing, and succeeds on a full payload only. -/
theorem Account.complete {r : Response} {es : List Exchange} (h : Account r es) (n : Natives) :
    Account (respond r (.complete n)).1 (es ++ (respond r (.complete n)).2) := by
  simp only [respond, step, HttpResponse.complete]
  by_cases hcompleted : r.completed = true
  · rw [if_pos hcompleted]
    exact h.idle rfl (by simp [Exchange.payload]) (fun _ => hcompleted)
  · rw [if_neg hcompleted]
    by_cases hbegun : r.begun = true
    · obtain ⟨hknown, length, hexpected, hbegin, hframed⟩ := h.framed hbegun
      rw [if_neg (by simp [hbegun])]
      by_cases hlength : length = r.bytesWritten
      · rw [if_neg (by simp [hexpected, hlength])]
        have hdone : Account { r with completed := true } es :=
          ⟨h.notHead, by simp [hbegun], fun _ => ⟨hknown, length, hexpected, hbegin, hframed⟩,
            fun _ => by rw [hexpected, hlength], fun _ => rfl⟩
        rw [if_pos hknown]
        exact hdone.idle (e := ⟨.complete n, .success, []⟩) rfl (fun _ => rfl) (fun _ => rfl)
      · rw [if_pos (by simp [hexpected, hlength])]
        exact h.idle rfl (by simp) (by simp [Exchange.Completes])
    · rw [if_pos (by simpa using hbegun)]
      exact h.idle rfl (by simp) (by simp [Exchange.Completes])

/-- `SetStatus` and `SetHeader` change what a later header block says, and
nothing once it is out. -/
theorem Account.configure {r t : Response} {es : List Exchange} (h : Account r es)
    {e : Exchange} (hnatives : e.natives = []) (hpayload : e.payload = [])
    (hcomplete : ¬ e.Completes)
    (ht : t = r ∨ r.begun = false ∧ t.isHead = false ∧ t.begun = false ∧ t.completed = false) :
    Account t (es ++ [e]) := by
  rcases ht with rfl | ⟨hbegun, hhead, htbegun, htopen⟩
  · exact h.idle hnatives (fun _ => hpayload) (fun hdone => (hcomplete hdone).elim)
  · obtain ⟨hopen, hes, hwire⟩ := h.fresh hbegun
    have hidle : Account t es :=
      ⟨hhead, fun _ => ⟨htopen, hes, hwire⟩, by simp [htbegun], by simp [htopen],
        fun hdone => by simp [h.completes hdone] at hopen⟩
    exact hidle.idle hnatives (fun _ => hpayload) (fun hdone => (hcomplete hdone).elim)

/-- Every call keeps the account. -/
theorem Account.respond {r : Response} {es : List Exchange} (h : Account r es) (call : Call)
    (hcall : call.FixedLength) :
    Account (respond r call).1 (es ++ (respond r call).2) := by
  have hopen := fun hbegun => (h.fresh hbegun).1
  cases call with
  | setStatus status =>
      apply h.configure rfl rfl (by simp [Exchange.Completes])
      cases hbegun : r.begun <;>
        simp [HttpResponse.respond, step, setStatus, hbegun, h.notHead, hopen]
  | setHeader name value =>
      apply h.configure rfl rfl (by simp [Exchange.Completes])
      cases hbegun : r.begun with
      | true => exact Or.inl (by simp [HttpResponse.respond, step, setHeader, hbegun])
      | false =>
          simp only [HttpResponse.respond, step, setHeader, hbegun]
          split
          · exact Or.inl rfl
          · split
            · exact Or.inl rfl
            · split <;> exact Or.inr ⟨trivial, h.notHead, rfl, hopen hbegun⟩
  | begin length natives =>
      cases length with
      | none => exact hcall.elim
      | some length => exact h.begin length natives
  | write data natives => exact h.write data natives
  | complete natives => exact h.complete natives
  | abort => exact hcall.elim

theorem run_account (keepAlive : Bool) (calls : List Call)
    (hcalls : ∀ call ∈ calls, call.FixedLength) :
    Account (run keepAlive calls).1 (run keepAlive calls).2 := by
  have hstep : ∀ r es call, Call.FixedLength call → Account r es →
      Account (respond r call).1 (es ++ (respond r call).2) :=
    fun _ _ call hcall h => h.respond call hcall
  simpa [run] using Runs.feed_invariant hstep (account_fresh keepAlive) calls hcalls

/-! ## The calls that lose nothing -/

/-- A Begin or a Write that sends puts everything on the wire or nothing, and
a Write that succeeds does not make the 32-bit count of the bytes written
wrap. -/
def Clean (r : Response) : Call → Prop
  | .begin (some length) n =>
      r.begun = false → reaches (headerBlock r length).length n.sends ∨ refused n.sends
  | .write (some data) n =>
      Accepts r data →
        (reaches data.bytes.length n.sends ∧
          r.bytesWritten.toNat + data.bytes.length < 4294967296) ∨
        (reaches data.bytes.length n.sends = false ∧ refused n.sends)
  | _ => True

/-- The count of bytes written stays in step with the payload. -/
def Counted (r : Response) (call : Call) : Prop :=
  (respond r call).1.bytesWritten.toNat =
    r.bytesWritten.toNat + (payload (respond r call).2).length

/-- What `Clean` says of one call: nothing is lost and the count is right. -/
def Accounted (r : Response) (call : Call) : Prop :=
  lost (respond r call).2 = [] ∧
    r.bytesWritten.toNat + (payload (respond r call).2).length < 4294967296

theorem accounted_idle {r t : Response} (call : Call) {result : WebResult}
    (h : step r call = (t, result, [])) (hpayload : Exchange.payload ⟨call, result, []⟩ = [])
    (hbytes : t.bytesWritten = r.bytesWritten) :
    Accounted r call ∧ Counted r call := by
  have hlt := r.bytesWritten.toNat_lt
  have hr : respond r call = (t, [⟨call, result, []⟩]) := by rw [respond, h]
  refine ⟨⟨?_, ?_⟩, ?_⟩
  · simp [hr, Exchange.lost, Exchange.wire]
  · simpa [hr, hpayload] using hlt
  · simp [Counted, hr, hpayload, hbytes]

/-- A `Begin` is clean exactly when it loses nothing. -/
theorem clean_begin (r : Response) (length : UInt32) (n : Natives) :
    (Clean r (.begin (some length) n) ↔ Accounted r (.begin (some length) n)) ∧
      Counted r (.begin (some length) n) := by
  cases hbegun : r.begun with
  | true =>
      have h := accounted_idle (.begin (some length) n)
        (begin_refused hbegun (some length) n) rfl rfl
      exact ⟨⟨fun _ => h.1, fun _ hfresh => by simp [hbegun] at hfresh⟩, h.2⟩
  | false =>
      have hlt := r.bytesWritten.toNat_lt
      have hr : respond r (.begin (some length) n) = _ :=
        congrArg (fun x : Response × WebResult × List NativeCall =>
          (x.1, [Exchange.mk (.begin (some length) n) x.2.1 x.2.2])) (begin_fresh hbegun length n)
      refine ⟨?_, by simp [Counted, hr, Exchange.payload]⟩
      simp only [Clean, Accounted, hr, hbegun, lost_singleton, payload_singleton,
        Exchange.payload, List.length_nil, Nat.add_zero, hlt, and_true, forall_const]
      cases hsends : reaches (headerBlock r length).length n.sends with
      | true => simp [Exchange.lost, (sendRaw_reaches hsends).1]
      | false =>
          obtain ⟨hfail, hnothing⟩ := sendRaw_not_reaches hsends
          simp [Exchange.lost, Exchange.wire, hfail, hnothing]

/-- A `Write` is clean exactly when it loses nothing and is counted. -/
theorem clean_write {r : Response} (hhead : r.isHead = false)
    (hknown : r.begun = true → r.knownLengthFraming = true) (data : Option Buffer)
    (n : Natives) :
    (Clean r (.write data n) ↔ Accounted r (.write data n)) ∧
      (Accounted r (.write data n) → Counted r (.write data n)) := by
  cases data with
  | none =>
      have h := @accounted_idle r r (.write none n) _ rfl rfl rfl
      exact ⟨⟨fun _ => h.1, fun _ => trivial⟩, fun _ => h.2⟩
  | some data =>
      by_cases haccepts : Accepts r data
      · have hlt := r.bytesWritten.toNat_lt
        have hr : respond r (.write (some data) n) = _ :=
          congrArg (fun x : Response × WebResult × List NativeCall =>
            (x.1, [Exchange.mk (.write (some data) n) x.2.1 x.2.2]))
            (write_accepted haccepts hhead (hknown haccepts.1) n)
        simp only [Clean, Accounted, Counted, hr, haccepts, lost_singleton, payload_singleton,
          forall_const]
        cases hsends : reaches data.bytes.length n.sends with
        | true =>
            have hsuccess := (sendRaw_reaches hsends).1
            refine ⟨by simp [Exchange.lost, Exchange.payload, hsuccess], ?_⟩
            intro hparts
            obtain ⟨-, hsum⟩ := hparts
            have hfits : r.bytesWritten.toNat + data.bytes.length < 4294967296 := by
              simpa [Exchange.payload, hsuccess] using hsum
            have hcount : (r.bytesWritten + data.size).toNat =
                r.bytesWritten.toNat + data.bytes.length := by
              rw [UInt32.toNat_add, Buffer.size_toNat, Nat.mod_eq_of_lt hfits]
            simp only [Exchange.payload, hsuccess, if_true]
            exact hcount
        | false =>
            obtain ⟨hfail, hnothing⟩ := sendRaw_not_reaches hsends
            simp [Exchange.lost, Exchange.payload, Exchange.wire, hfail, hnothing, hlt]
      · obtain ⟨error, hrefused⟩ := write_refused haccepts n
        have h := accounted_idle (.write (some data) n) hrefused rfl rfl
        exact ⟨⟨fun _ => h.1, fun _ hok => (haccepts hok).elim⟩, fun _ => h.2⟩

/-- A call is clean exactly when it loses nothing and is counted. -/
theorem clean_iff {r : Response} {es : List Exchange} (h : Account r es) {call : Call}
    (hcall : call.FixedLength) :
    (Clean r call ↔ Accounted r call) ∧ (Accounted r call → Counted r call) := by
  have hquiet : Accounted r call ∧ Counted r call → Clean r call →
      (Clean r call ↔ Accounted r call) ∧ (Accounted r call → Counted r call) :=
    fun hacc hclean => ⟨⟨fun _ => hacc.1, fun _ => hclean⟩, fun _ => hacc.2⟩
  cases call with
  | setStatus status =>
      refine hquiet (accounted_idle _ rfl rfl ?_) trivial
      cases hbegun : r.begun <;> simp [setStatus, hbegun]
  | setHeader name value =>
      refine hquiet (accounted_idle _ rfl rfl ?_) trivial
      unfold setHeader
      repeat' split
      all_goals rfl
  | begin length natives =>
      cases length with
      | none => exact hcall.elim
      | some length =>
          obtain ⟨hiff, hcounted⟩ := clean_begin r length natives
          exact ⟨hiff, fun _ => hcounted⟩
  | write data natives =>
      exact clean_write h.notHead (fun hbegun => (h.framed hbegun).1) data natives
  | complete natives =>
      have hstep : ∃ t result, complete r natives = (t, result, []) ∧
          t.bytesWritten = r.bytesWritten := by
        unfold complete
        split
        · exact ⟨_, _, rfl, rfl⟩
        · split
          · exact ⟨_, _, rfl, rfl⟩
          · rename_i hbegun
            split
            · exact ⟨_, _, rfl, rfl⟩
            · have hknown := (h.framed (by simpa using hbegun)).1
              exact ⟨{ r with completed := true }, .success, by rw [if_pos hknown]; rfl, rfl⟩
      obtain ⟨t, result, hr, hbytes⟩ := hstep
      exact hquiet (accounted_idle _ hr rfl hbytes) trivial
  | abort => exact hcall.elim

/-- The calls of a run are all clean exactly when the run loses nothing and
its payload can be counted; and then it is. -/
theorem along_clean {r : Response} {es : List Exchange} (h : Account r es) {calls : List Call}
    (hcalls : ∀ call ∈ calls, call.FixedLength) :
    let out := Runs.feed respond r calls
    (Runs.Along respond Clean r calls ↔
      lost out.2 = [] ∧ r.bytesWritten.toNat + (payload out.2).length < 4294967296) ∧
    (Runs.Along respond Clean r calls →
      out.1.bytesWritten.toNat = r.bytesWritten.toNat + (payload out.2).length) := by
  induction calls generalizing r es with
  | nil => simp [Runs.Along, lost, payload, r.bytesWritten.toNat_lt]
  | cons call rest ih =>
      obtain ⟨hcall, hrest⟩ := List.forall_mem_cons.mp hcalls
      obtain ⟨hiff, hcount⟩ := clean_iff h hcall
      obtain ⟨hiffs, hcounts⟩ := ih (h.respond call hcall) hrest
      simp only [Runs.Along, Runs.feed_cons, lost_append, payload_append, List.length_append,
        List.append_eq_nil_iff]
      constructor
      · constructor
        · intro hparts
          obtain ⟨hclean, hrun⟩ := hparts
          have hacc := hiff.mp hclean
          obtain ⟨hlost, hsum⟩ := hiffs.mp hrun
          have hcounted : _ = _ := hcount hacc
          exact ⟨⟨hacc.1, hlost⟩, by omega⟩
        · intro hparts
          obtain ⟨⟨hlost, hlosts⟩, hsum⟩ := hparts
          have hacc : Accounted r call := ⟨hlost, by omega⟩
          have hcounted : _ = _ := hcount hacc
          exact ⟨hiff.mpr hacc, hiffs.mpr ⟨hlosts, by omega⟩⟩
      · intro hparts
        obtain ⟨hclean, hrun⟩ := hparts
        have hcounted : _ = _ := hcount (hiff.mp hclean)
        have hrest := hcounts hrun
        omega

/-- A completed response is intact: its wire holds one header block with the
length some Begin was given, and that many bytes, the payload; and no call
that failed had put a byte on the wire. -/
def Intact (r : Response) (es : List Exchange) : Prop :=
  (∃ length, (∃ e ∈ es, e.result = .success ∧ ∃ natives, e.call = .begin (some length) natives) ∧
    wire es = headerBlock r length ++ payload es ∧
    (payload es).length = length.toNat) ∧
  ∀ e ∈ es, e.result ≠ .success → e.wire = []

theorem lost_eq_nil_iff (es : List Exchange) :
    lost es = [] ↔ ∀ e ∈ es, e.result ≠ .success → e.wire = [] := by
  simp only [lost, List.flatMap_eq_nil_iff, Exchange.lost, ite_eq_left_iff, ne_eq]

/-- **Intact responses.**  A response of known length that was completed is
intact if and only if no Begin or Write failed half way through its bytes, and
the count of the bytes written never wrapped. -/
theorem intact_iff (keepAlive : Bool) (calls : List Call)
    (hcalls : ∀ call ∈ calls, call.FixedLength)
    (hdone : ∃ e ∈ (run keepAlive calls).2, e.Completes) :
    Intact (run keepAlive calls).1 (run keepAlive calls).2 ↔
      Runs.Along respond Clean (Response.fresh false keepAlive) calls := by
  have h := run_account keepAlive calls hcalls
  obtain ⟨hclean, hcount⟩ := along_clean (account_fresh keepAlive) hcalls
  have hcompleted := h.completes hdone
  have hbegun : (run keepAlive calls).1.begun = true := by
    by_contra hnot
    have := (h.fresh (by simpa using hnot)).1
    simp [hcompleted] at this
  obtain ⟨-, length, hexpected, hbegin, hframed⟩ := h.framed hbegun
  constructor
  · intro hparts
    obtain ⟨⟨n, -, -, hlength⟩, hlost⟩ := hparts
    refine hclean.mpr ⟨(lost_eq_nil_iff _).mpr hlost, ?_⟩
    have hlt := n.toNat_lt
    have hzero : (Response.fresh false keepAlive).bytesWritten.toNat = 0 := rfl
    have hpayload : (payload (Runs.feed respond (Response.fresh false keepAlive) calls).2).length =
      n.toNat := hlength
    omega
  · intro hrun
    have hlost := (hclean.mp hrun).1
    have hbytes := hcount hrun
    have hfull := h.completed hcompleted
    rw [hexpected] at hfull
    cases hfull
    refine ⟨⟨_, hbegin, hframed hlost, ?_⟩, (lost_eq_nil_iff _).mp hlost⟩
    have hzero : (Response.fresh false keepAlive).bytesWritten.toNat = 0 := rfl
    rw [hzero, Nat.zero_add] at hbytes
    exact hbytes.symm

def ab : Buffer := ⟨ascii "ab", by decide⟩

/-- A response with the body "ab", its header block sent in two pieces. -/
def wholeCalls : List Call :=
  [.setStatus .created, .begin (some 2) ⟨[10, 1000], []⟩, .write (some ab) ⟨[1, 1], []⟩,
    .complete ⟨[], []⟩]

theorem whole_response_intact :
    Intact (run true wholeCalls).1 (run true wholeCalls).2 :=
  (intact_iff true wholeCalls (by simp [wholeCalls, Call.FixedLength])
    ⟨_, List.mem_of_getElem? (i := 3) rfl, by decide +kernel, _, rfl⟩).mpr
    ⟨trivial, fun _ => Or.inl (by decide +kernel), fun _ => Or.inl (by decide +kernel),
      trivial, trivial⟩

/-- The Write puts "a" on the wire and fails; the caller writes "ab" again. -/
def retriedCalls : List Call :=
  [.begin (some 2) ⟨[1000], []⟩, .write (some ab) ⟨[1, 0], []⟩, .write (some ab) ⟨[2], []⟩,
    .complete ⟨[], []⟩]

/-- The response is completed with the body "aab" under a length of two. -/
theorem retried_write_duplicates : ¬ ∀ (keepAlive : Bool) (calls : List Call),
    (∀ call ∈ calls, call.FixedLength) → (∃ e ∈ (run keepAlive calls).2, e.Completes) →
      Intact (run keepAlive calls).1 (run keepAlive calls).2 := by
  intro h
  obtain ⟨⟨length, -, hwire, hlength⟩, -⟩ := h true retriedCalls
    (by simp [retriedCalls, Call.FixedLength])
    ⟨_, List.mem_of_getElem? (i := 3) rfl, by decide +kernel, _, rfl⟩
  have hpayload : payload (run true retriedCalls).2 = ascii "ab" := by decide +kernel
  have htwo : length = 2 := by
    rw [hpayload] at hlength
    exact UInt32.toNat_inj.mp hlength.symm
  subst htwo
  revert hwire
  decide +kernel

end HttpResponse
