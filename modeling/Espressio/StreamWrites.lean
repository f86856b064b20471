import Mathlib.Data.List.Infix
import Espressio.ConnectionPackets
import Espressio.FramedStreams

/-!
# What the transports write

A write that stops short leaves a part of a frame on the connection.  Anything
written to it afterwards would be read as the rest of that frame.  The
transports stop the client at once, and a client object that stands for a
connection again stands for a new one.  So what is written to one connection is
whole frames, and after them at most one that is not (`Intact`).

The invariant is `WriteInv`: everything written to a connection that is still
open went out whole.  The server writes one packet to several connections;
`sendAll_clients` and its companions say of each slot what comes of it.
-/

namespace Sockets

open NetworkBytes LockTraces Runs FramedStreams

variable {κ δ : Type*} {es fs : List StreamEvent} {connections later : Nat}
  {isOpen stillOpen : Nat → Prop}

/-- The frames written to a connection, each with whether it went out whole. -/
def writesTo (c : Nat) (es : List StreamEvent) : List (Bytes × Bool) :=
  es.filterMap fun
    | .write connection frame whole => if connection = c then some (frame, whole) else none
    | _ => none

@[simp] theorem writesTo_nil (c : Nat) : writesTo c [] = [] := rfl

@[simp] theorem writesTo_append (c : Nat) (es fs : List StreamEvent) :
    writesTo c (es ++ fs) = writesTo c es ++ writesTo c fs := by
  simp [writesTo]

/-- Nothing is written. -/
def Unwriting (es : List StreamEvent) : Prop :=
  ∀ c frame whole, StreamEvent.write c frame whole ∉ es

theorem Unwriting.writesTo (h : Unwriting es) (c : Nat) : writesTo c es = [] := by
  rw [Sockets.writesTo, List.filterMap_eq_nil_iff]
  intro e he
  cases e with
  | write other frame whole => exact absurd he (h other frame whole)
  | _ => rfl

theorem unwriting_nil : Unwriting [] := fun _ _ _ h => absurd h List.not_mem_nil

theorem Unwriting.append (h : Unwriting es) (hf : Unwriting fs) : Unwriting (es ++ fs) := by
  intro c frame whole hmem
  rcases List.mem_append.mp hmem with hfirst | hrest
  · exact h c frame whole hfirst
  · exact hf c frame whole hrest

theorem readLoop_unwriting (d : FrameDecoder δ) (c : Nat) (decoder : δ) (chunks : List Chunk) :
    Unwriting (readLoop d c decoder chunks).events := by
  intro other frame whole hmem
  rcases readLoop_events decoder chunks hmem with ⟨chunk, hread⟩ | hstop
  · cases hread
  · cases hstop

/-- Everything written to an open connection went out whole, and to any other
at most the last frame did not. -/
structure WriteInv (connections : Nat) (isOpen : Nat → Prop) (es : List StreamEvent) : Prop where
  made : ∀ c, isOpen c → c < connections
  unwritten : ∀ c, connections ≤ c → writesTo c es = []
  whole : ∀ c, isOpen c → ∀ w ∈ writesTo c es, w.2 = true
  intact : ∀ c, Intact (writesTo c es)

/-- Connections may be closed and made where nothing is written. -/
theorem WriteInv.unwriting (h : WriteInv connections isOpen es) (hfs : Unwriting fs)
    (hlater : connections ≤ later)
    (hopen : ∀ c, stillOpen c → isOpen c ∨ (connections ≤ c ∧ c < later)) :
    WriteInv later stillOpen (es ++ fs) := by
  have hsame : ∀ c, writesTo c (es ++ fs) = writesTo c es := by
    intro c
    rw [writesTo_append, hfs.writesTo, List.append_nil]
  refine ⟨?_, ?_, ?_, ?_⟩
  · intro c hc
    rcases hopen c hc with hold | ⟨-, hnew⟩
    · exact (h.made c hold).trans_le hlater
    · exact hnew
  · intro c hc
    rw [hsame, h.unwritten c (hlater.trans hc)]
  · intro c hc w hw
    rw [hsame] at hw
    rcases hopen c hc with hold | ⟨hnew, -⟩
    · exact h.whole c hold w hw
    · rw [h.unwritten c hnew] at hw
      cases hw
  · intro c
    rw [hsame]
    exact h.intact c

/-- **Writing.**  One frame may be written to each open connection, and the
connection stays open only if the frame went out whole. -/
theorem WriteInv.write (h : WriteInv connections isOpen es)
    (hfs : ∀ c, writesTo c fs = [] ∨
      (isOpen c ∧ ∃ w, writesTo c fs = [w] ∧ (stillOpen c → w.2 = true)))
    (hopen : ∀ c, stillOpen c → isOpen c) : WriteInv connections stillOpen (es ++ fs) := by
  refine ⟨fun c hc => h.made c (hopen c hc), ?_, ?_, ?_⟩
  · intro c hc
    rw [writesTo_append, h.unwritten c hc]
    rcases hfs c with hnone | ⟨hold, -⟩
    · exact hnone
    · exact absurd (h.made c hold) (Nat.not_lt.mpr hc)
  · intro c hc w hw
    rw [writesTo_append] at hw
    rcases List.mem_append.mp hw with hold | hnew
    · exact h.whole c (hopen c hc) w hold
    · rcases hfs c with hnone | ⟨-, w', hone, hwhole⟩
      · rw [hnone] at hnew
        cases hnew
      · rw [hone, List.mem_singleton] at hnew
        rw [hnew]
        exact hwhole hc
  · intro c
    rw [writesTo_append]
    rcases hfs c with hnone | ⟨hold, w, hone, -⟩
    · rw [hnone, List.append_nil]
      exact h.intact c
    · rw [hone]
      exact intact_concat (h.whole c hold) w

/-! ### The transports with one client -/

section Client

variable {configureSecurity : κ → List SecurityCall} {lib : Library δ} {s : StreamClient κ δ}

def ClientWrites (s : StreamClient κ δ) (es : List StreamEvent) : Prop :=
  WriteInv s.connections (fun c => s.connection = some c) es

theorem unwriting_ensureConnectedLocked (configureSecurity : κ → List SecurityCall)
    (lib : Library δ) (s : StreamClient κ δ) (n : ConnectNatives) :
    Unwriting (s.ensureConnectedLocked configureSecurity lib n).2.2 := by
  unfold StreamClient.ensureConnectedLocked
  split_ifs <;> simp [Unwriting]

theorem ClientWrites.ensureConnected (h : ClientWrites s es)
    (configureSecurity : κ → List SecurityCall) (lib : Library δ) (n : ConnectNatives) :
    ClientWrites (s.ensureConnectedLocked configureSecurity lib n).1
      (es ++ (s.ensureConnectedLocked configureSecurity lib n).2.2) := by
  have hunwriting := unwriting_ensureConnectedLocked configureSecurity lib s n
  obtain ⟨after, connected, fs, heq, -, -, hkind⟩ :=
    ensureConnectedLocked_cases configureSecurity lib s n
  rw [heq] at hunwriting ⊢
  rcases hkind with rfl | ⟨hnone, hsame⟩ | ⟨hsome, hmore, -⟩
  · exact h.unwriting hunwriting le_rfl fun c hc => Or.inl hc
  · refine h.unwriting hunwriting hsame.ge fun c hc => ?_
    rw [hnone] at hc
    cases hc
  · refine h.unwriting hunwriting (hmore ▸ Nat.le_succ _) fun c hc => ?_
    rw [hsome] at hc
    cases hc
    exact Or.inr ⟨le_rfl, hmore ▸ Nat.lt_succ_self _⟩

theorem ClientWrites.iterate (h : ClientWrites s es) (n : ConnectNatives) (reads : List Chunk) :
    ClientWrites (s.iterate configureSecurity lib n reads).1
      (es ++ events (s.iterate configureSecurity lib n reads).2) := by
  unfold StreamClient.iterate
  split_ifs
  · simpa using h
  · rw [events_underClient, StreamClient.readClientLocked]
    have hconnected := h.ensureConnected configureSecurity lib n
    generalize s.ensureConnectedLocked configureSecurity lib n = outcome at hconnected
    obtain ⟨t, connected, fs⟩ := outcome
    dsimp only at hconnected ⊢
    split
    · rename_i c hc
      rw [← List.append_assoc]
      refine hconnected.unwriting (readLoop_unwriting _ _ _ _) le_rfl fun c' hc' => Or.inl ?_
      dsimp only at hc'
      split_ifs at hc'
      exact hc.trans hc'
    · exact hconnected

theorem ClientWrites.send (h : ClientWrites s es) (packet : Option Bytes) (n : ConnectNatives)
    (whole : Bool) :
    ClientWrites (s.send configureSecurity lib packet n whole).1
      (es ++ events (s.send configureSecurity lib packet n whole).2.2) := by
  unfold StreamClient.send
  split
  · dsimp only
    split
    · simpa using h
    · rename_i data _ _ _
      have hconnected := h.ensureConnected configureSecurity lib n
      generalize s.ensureConnectedLocked configureSecurity lib n = outcome at hconnected
      obtain ⟨t, connected, fs⟩ := outcome
      dsimp only at hconnected ⊢
      split
      · rename_i c hc
        split
        · rw [events_underClient, ← List.append_assoc]
          refine WriteInv.write hconnected (fun c' => ?_) fun _ hc' => hc'
          by_cases hsame : c = c'
          · exact Or.inr
              ⟨hsame ▸ hc, (lib.buildFrame data, true), by simp [writesTo, hsame], by simp⟩
          · exact Or.inl (by simp [writesTo, hsame])
        · rw [events_underClient, ← List.append_assoc]
          refine WriteInv.write hconnected (fun c' => ?_) fun _ hc' => absurd hc' (by simp)
          by_cases hsame : c = c'
          · exact Or.inr
              ⟨hsame ▸ hc, (lib.buildFrame data, false), by simp [writesTo, hsame], by simp⟩
          · exact Or.inl (by simp [writesTo, hsame])
      · rw [events_underClient]
        exact hconnected
  · simpa using h

/-- **One operation** keeps open connections whole. -/
theorem ClientWrites.step (h : ClientWrites s es) (op : StreamClient.Op κ) :
    ClientWrites (StreamClient.step configureSecurity lib s op).1
      (es ++ events (StreamClient.step configureSecurity lib s op).2) := by
  cases op with
  | initializeTransport config started =>
      simp only [StreamClient.step, events_nil, List.append_nil, StreamClient.initializeTransport]
      split_ifs <;> exact h
  | shutdown =>
      simp only [StreamClient.step, StreamClient.shutdown]
      split_ifs
      · simpa using h
      · rw [events_append, events_underClient, events_guarded, events_nil, List.append_nil]
        exact h.unwriting (by simp [Unwriting]) le_rfl fun c hc => by cases hc
  | iterate natives reads => exact h.iterate natives reads
  | dispatch =>
      simp only [StreamClient.step, StreamClient.dispatch]
      split
      · simpa using h
      · rw [events_dispatchPacket]
        exact h.unwriting (by simp [Unwriting]) le_rfl fun c hc => Or.inl hc
  | send packet natives whole => exact h.send packet natives whole
  | setReceiver receiver =>
      simp only [StreamClient.step, StreamClient.setReceiver, events_guarded, events_nil,
        List.append_nil]
      exact h
  | getIsConnected alive => simpa [StreamClient.step, StreamClient.getIsConnected] using h

end Client

/-! ### The transport that serves clients -/

section Server

variable {lib : Library δ} {s : StreamServer δ} {slots : List (ClientState δ)}

/-- A slot `Send` writes to. -/
def ClientState.reached (a : ClientState δ) (alive : Bool) : Bool := a.active && a.connected alive

/-- A slot after `Send`. -/
def ClientState.afterSend (a : ClientState δ) (alive whole : Bool) : ClientState δ :=
  if a.reached alive && !whole then { a with connection := none, active := false } else a

/-- The slots after a broadcast. -/
theorem sendAll_clients (frame : Bytes) (alive whole : Nat → Bool) (index : Nat)
    (slots : List (ClientState δ)) :
    (StreamServer.sendAll frame alive whole index slots).1 =
      (slots.zipIdx index).map fun x => x.1.afterSend (alive x.2) (whole x.2) := by
  induction slots generalizing index with
  | nil => rfl
  | cons a slots ih =>
      rw [List.zipIdx_cons, List.map_cons, ← ih (index + 1)]
      simp only [StreamServer.sendAll]
      cases hactive : a.active <;> cases halive : alive index <;>
        cases hconnection : a.connection <;> cases hwhole : whole index <;>
        simp [ClientState.afterSend, ClientState.reached, ClientState.connected, hactive,
          hconnection]

/-- The writes of a broadcast to one connection. -/
theorem sendAll_writes (frame : Bytes) (alive whole : Nat → Bool) (index : Nat)
    (slots : List (ClientState δ)) (c : Nat) :
    writesTo c (StreamServer.sendAll frame alive whole index slots).2.1 =
      (slots.zipIdx index).filterMap fun x =>
        if x.1.reached (alive x.2) ∧ x.1.connection = some c then some (frame, whole x.2)
        else none := by
  induction slots generalizing index with
  | nil => rfl
  | cons a slots ih =>
      rw [List.zipIdx_cons, List.filterMap_cons, ← ih (index + 1)]
      simp only [StreamServer.sendAll]
      cases hactive : a.active <;> cases halive : alive index <;>
        cases hconnection : a.connection <;> cases hwhole : whole index <;>
        simp only [ClientState.reached, ClientState.connected, hactive, hconnection] <;>
        grind [writesTo]

/-- The answer of a broadcast. -/
theorem sendAll_answer (frame : Bytes) (alive whole : Nat → Bool) (index : Nat)
    (slots : List (ClientState δ)) :
    let out := StreamServer.sendAll frame alive whole index slots
    (out.2.2.1 = true ↔ ∃ x ∈ slots.zipIdx index, x.1.reached (alive x.2) = true) ∧
      (out.2.2.2 = true ↔
        ∀ x ∈ slots.zipIdx index, x.1.reached (alive x.2) = true → whole x.2 = true) := by
  induction slots generalizing index with
  | nil => simp [StreamServer.sendAll]
  | cons a slots ih =>
      obtain ⟨hhad, hall⟩ := ih (index + 1)
      simp only [List.zipIdx_cons, List.mem_cons, forall_eq_or_imp, exists_eq_or_imp, ← hhad,
        ← hall]
      simp only [StreamServer.sendAll]
      cases hactive : a.active <;> cases halive : alive index <;>
        cases hconnection : a.connection <;> cases hwhole : whole index <;>
        simp [ClientState.reached, ClientState.connected, hactive, hconnection]

/-- No two slots stand for one connection. -/
theorem apart_index (hapart : slots.Pairwise Apart) {i j c : Nat} {a b : ClientState δ}
    (hi : slots[i]? = some a) (hj : slots[j]? = some b) (ha : a.connection = some c)
    (hb : b.connection = some c) : i = j := by
  obtain ⟨hilt, rfl⟩ := List.getElem?_eq_some_iff.mp hi
  obtain ⟨hjlt, rfl⟩ := List.getElem?_eq_some_iff.mp hj
  have hpair := List.pairwise_iff_getElem.mp hapart
  rcases Nat.lt_trichotomy i j with hlt | heq | hgt
  · exact absurd hb (hpair i j hilt hjlt hlt c ha)
  · exact heq
  · exact absurd ha (hpair j i hjlt hilt hgt c hb)

theorem afterSend_connection {a : ClientState δ} {alive whole : Bool} {c : Nat}
    (h : (a.afterSend alive whole).connection = some c) :
    a.connection = some c ∧ (a.reached alive = true → whole = true) := by
  cases hreached : a.reached alive <;> cases whole <;>
    simp_all [ClientState.afterSend]

/-- What a broadcast writes to the connection of a slot. -/
theorem sendAll_writes_slot (frame : Bytes) (alive whole : Nat → Bool) (index : Nat)
    (hapart : slots.Pairwise Apart) {i c : Nat} {a : ClientState δ} (hi : slots[i]? = some a)
    (hc : a.connection = some c) :
    writesTo c (StreamServer.sendAll frame alive whole index slots).2.1 =
      if a.reached (alive (index + i)) then [(frame, whole (index + i))] else [] := by
  rw [sendAll_writes]
  induction slots generalizing i index with
  | nil => cases hi
  | cons first slots ih =>
      obtain ⟨hfirst, hrest⟩ := List.pairwise_cons.mp hapart
      rw [List.zipIdx_cons, List.filterMap_cons]
      cases i with
      | zero =>
          cases hi
          have hnone : (slots.zipIdx (index + 1)).filterMap (fun x =>
              if x.1.reached (alive x.2) ∧ x.1.connection = some c then some (frame, whole x.2)
              else none) = [] := by
            rw [List.filterMap_eq_nil_iff]
            intro x hx
            have hne := hfirst x.1 (List.fst_mem_of_mem_zipIdx hx) c hc
            simp [hne]
          rw [hnone]
          cases hreached : a.reached (alive index) <;> simp [hc]
      | succ i =>
          have hmem : a ∈ slots := List.mem_of_getElem? hi
          have hne : first.connection ≠ some c := fun hsame => hfirst a hmem c hsame hc
          rw [if_neg fun h => hne h.2, ih (index + 1) hrest hi]
          rw [show index + 1 + i = index + (i + 1) by omega]

/-- A broadcast writes to the connections of its slots only. -/
theorem sendAll_writes_none (frame : Bytes) (alive whole : Nat → Bool) (index : Nat) {c : Nat}
    (h : ∀ a ∈ slots, a.connection ≠ some c) :
    writesTo c (StreamServer.sendAll frame alive whole index slots).2.1 = [] := by
  rw [sendAll_writes, List.filterMap_eq_nil_iff]
  intro x hx
  simp [h x.1 (List.fst_mem_of_mem_zipIdx hx)]

def ServerWrites (s : StreamServer δ) (es : List StreamEvent) : Prop :=
  WriteInv s.connections (fun c => ∃ a ∈ s.clients, a.connection = some c) es

theorem place_unwriting (occupied : Nat → Bool) (limit connection index : Nat)
    (slots : List (ClientState δ)) :
    Unwriting (StreamServer.place lib occupied limit connection index slots).2 := by
  induction slots generalizing index with
  | nil => simp [StreamServer.place, Unwriting]
  | cons a slots ih =>
      simp only [StreamServer.place]
      split_ifs
      · simp [Unwriting]
      · simp [Unwriting]
      · exact ih _

theorem serveClients_unwriting (n : ServerNatives) (limit index : Nat)
    (slots : List (ClientState δ)) :
    Unwriting (StreamServer.serveClients lib n limit index slots).events := by
  induction slots generalizing index with
  | nil => exact unwriting_nil
  | cons a slots ih =>
      unfold StreamServer.serveClients
      split
      · exact unwriting_nil
      · refine Unwriting.append ?_ (ih _)
        unfold StreamServer.serveClient
        split
        · exact unwriting_nil
        · split
          · exact readLoop_unwriting _ _ _ _
          · simp [Unwriting]

theorem ServerWrites.accept (h : ServerWrites s es) (n : ServerNatives) :
    ServerWrites (s.acceptClientsLocked lib n).1 (es ++ (s.acceptClientsLocked lib n).2) := by
  unfold StreamServer.acceptClientsLocked
  split_ifs
  · simpa using h
  · have haccept : Unwriting [StreamEvent.accept s.connections] := by simp [Unwriting]
    refine h.unwriting (haccept.append (place_unwriting _ _ _ _ _)) (Nat.le_succ _) ?_
    rintro c ⟨b, hb, hc⟩
    rcases mem_place hb with hold | ⟨hnew, -⟩
    · exact Or.inl ⟨b, hold, hc⟩
    · rw [hnew] at hc
      cases hc
      exact Or.inr ⟨le_rfl, Nat.lt_succ_self _⟩

theorem ServerWrites.iterate (h : ServerWrites s es) (hinv : ServerInv lib.decoder s es)
    (n : ServerNatives) :
    ServerWrites (s.iterate lib n).1 (es ++ events (s.iterate lib n).2) := by
  unfold StreamServer.iterate
  split_ifs
  · simpa using h
  · have haccepted := hinv.accept n
    have hserves := serves_serveClients n (s.acceptClientsLocked lib n).1.limit 0 haccepted.fed
      haccepted.apart
    rw [events_underClient, ← List.append_assoc]
    refine WriteInv.unwriting (h.accept n) (serveClients_unwriting n _ 0 _) le_rfl ?_
    rintro c ⟨b, hb, hc⟩
    obtain ⟨a, ha, hab⟩ := exists_of_forall₂ hserves.narrows hb
    exact Or.inl ⟨a, ha, hab.connection hc⟩

theorem ServerWrites.sendAll (h : ServerWrites s es) (hapart : s.clients.Pairwise Apart)
    (frame : Bytes) (alive whole : Nat → Bool) :
    ServerWrites { s with clients := (StreamServer.sendAll frame alive whole 0 s.clients).1 }
      (es ++ (StreamServer.sendAll frame alive whole 0 s.clients).2.1) := by
  have hafter : ∀ c, (∃ b ∈ (StreamServer.sendAll frame alive whole 0 s.clients).1,
      b.connection = some c) → ∃ (i : Nat) (a : ClientState δ), s.clients[i]? = some a ∧
        a.connection = some c ∧ (a.reached (alive i) = true → whole i = true) := by
    rintro c ⟨b, hb, hc⟩
    rw [sendAll_clients] at hb
    obtain ⟨⟨a, i⟩, hx, rfl⟩ := List.mem_map.mp hb
    obtain ⟨hbefore, hwhole⟩ := afterSend_connection hc
    exact ⟨i, a, List.mem_zipIdx_iff_getElem?.mp hx, hbefore, hwhole⟩
  apply WriteInv.write h
  · intro c
    by_cases hslot : ∃ a ∈ s.clients, a.connection = some c
    · obtain ⟨a, ha, hc⟩ := hslot
      obtain ⟨i, hi⟩ := List.mem_iff_getElem?.mp ha
      rw [sendAll_writes_slot frame alive whole 0 hapart hi hc, Nat.zero_add]
      cases hreached : a.reached (alive i) with
      | false => exact Or.inl rfl
      | true =>
          refine Or.inr ⟨⟨a, ha, hc⟩, (frame, whole i), rfl, fun hopen => ?_⟩
          obtain ⟨j, b, hj, hb, hwhole⟩ := hafter c hopen
          cases apart_index hapart hi hj hc hb
          rw [hi] at hj
          cases hj
          exact hwhole hreached
    · refine Or.inl (sendAll_writes_none frame alive whole 0 ?_)
      exact fun a ha hc => hslot ⟨a, ha, hc⟩
  · intro c hopen
    obtain ⟨i, a, hi, hc, -⟩ := hafter c hopen
    exact ⟨a, List.mem_of_getElem? hi, hc⟩

/-- **One operation** keeps open connections whole. -/
theorem ServerWrites.step (h : ServerWrites s es) (hinv : ServerInv lib.decoder s es)
    (op : StreamServer.Op) :
    ServerWrites (StreamServer.step lib s op).1
      (es ++ events (StreamServer.step lib s op).2) := by
  cases op with
  | initializeTransport config started =>
      simp only [StreamServer.step, events_nil, List.append_nil, StreamServer.initializeTransport]
      split_ifs <;> exact h
  | shutdown =>
      simp only [StreamServer.step, StreamServer.shutdown]
      split_ifs
      · simpa using h
      · rw [events_append, events_underClient, events_guarded, events_nil, List.append_nil]
        refine h.unwriting (by simp [Unwriting]) le_rfl ?_
        rintro c ⟨b, hb, hc⟩
        obtain ⟨a, -, rfl⟩ := List.mem_map.mp hb
        cases hc
  | iterate natives => exact h.iterate hinv natives
  | dispatch =>
      simp only [StreamServer.step, StreamServer.dispatch]
      split
      · simpa using h
      · rw [events_dispatchPacket]
        exact h.unwriting (by simp [Unwriting]) le_rfl fun c hc => Or.inl hc
  | send packet alive whole =>
      simp only [StreamServer.step, StreamServer.send]
      split
      · split
        · simpa using h
        · rw [events_underClient]
          exact h.sendAll hinv.apart _ alive whole
      · simpa using h
  | setReceiver receiver =>
      simp only [StreamServer.step, StreamServer.setReceiver, events_guarded, events_nil,
        List.append_nil]
      exact h
  | getConnectedClientCount alive =>
      simpa [StreamServer.step, StreamServer.getConnectedClientCount] using h

end Server

end Sockets
