import Mathlib.Data.List.Forall2
import Espressio.StreamClients
import Espressio.StreamServer

/-!
# Packets and the connections they came from

A decoder outlives the connections it reads: it is reset before a connect, when
a connection is accepted into its slot, when a client is found gone and at
shutdown, but not when a client is stopped after a failed write or a decoding
error.  None of that matters to a connection made later.

The invariant: a client object that stands for a connection goes with a decoder
that has been fed exactly what was read from that connection (`Fed`).  From it
every packet completed, and so every packet dispatched, is one a fresh decoder
hands out when it is fed the bytes of one connection.
-/

namespace Sockets

open NetworkBytes LockTraces Runs

variable {κ δ : Type*} {d : FrameDecoder δ} {connections : Nat}
  {completed : List (Nat × Bytes)} {es fs : List StreamEvent}

/-- The events are neither reads nor deliveries. -/
def Quiet (es : List StreamEvent) : Prop :=
  ∀ e ∈ es, (∀ c chunk, e ≠ .read c chunk) ∧ ∀ r c p, e ≠ .deliver r c p

theorem Quiet.chunksOf (h : Quiet fs) (c : Nat) : chunksOf c fs = [] :=
  chunksOf_eq_nil fun e he chunk => (h e he).1 c chunk

theorem quiet_nil : Quiet [] := fun _ he => absurd he List.not_mem_nil

theorem Quiet.cons {e : StreamEvent} (hread : ∀ c chunk, e ≠ .read c chunk)
    (hdeliver : ∀ r c p, e ≠ .deliver r c p) (h : Quiet es) : Quiet (e :: es) :=
  List.forall_mem_cons.mpr ⟨⟨hread, hdeliver⟩, h⟩

theorem Quiet.undelivered (h : Quiet fs) : Undelivered fs :=
  fun r c p hmem => (h _ hmem).2 r c p rfl

/-- What is unread leaves a fresh decoder as it is. -/
theorem decoded_append_of_unread {c : Nat} (h : chunksOf c fs = []) :
    decoded d c (es ++ fs) = decoded d c es := by
  simp [decoded, h]

/-- The packets completed and dispatched are packets of their connections, and
nothing was read from a connection not made yet. -/
structure PacketInv (d : FrameDecoder δ) (connections : Nat) (completed : List (Nat × Bytes))
    (es : List StreamEvent) : Prop where
  unread : ∀ c, connections ≤ c → chunksOf c es = []
  completed : ∀ x ∈ completed, x.2 ∈ (decoded d x.1 es).2
  delivered : ∀ r c p, StreamEvent.deliver r c p ∈ es → p ∈ (decoded d c es).2

theorem packetInv_nil (d : FrameDecoder δ) : PacketInv d 0 [] [] where
  unread _ _ := rfl
  completed _ h := by cases h
  delivered _ _ _ h := by cases h

/-- What is done without a dispatch, and may complete `more` packets. -/
theorem PacketInv.append (h : PacketInv d connections completed es) {later : Nat}
    (hlater : connections ≤ later) (more : List (Nat × Bytes))
    (hunread : ∀ c, later ≤ c → chunksOf c fs = [])
    (hmore : ∀ x ∈ more, x.2 ∈ (decoded d x.1 (es ++ fs)).2) (hundelivered : Undelivered fs) :
    PacketInv d later (completed ++ more) (es ++ fs) where
  unread c hc := by
    rw [chunksOf_append, h.unread c (by omega), hunread c hc, List.append_nil]
  completed x hx := by
    rcases List.mem_append.mp hx with hold | hnew
    · exact decoded_packets_mono (h.completed x hold)
    · exact hmore x hnew
  delivered r c p hmem := by
    rcases List.mem_append.mp hmem with hold | hnew
    · exact decoded_packets_mono (h.delivered r c p hold)
    · exact absurd hnew (hundelivered r c p)

theorem PacketInv.quiet (h : PacketInv d connections completed es) (hquiet : Quiet fs)
    {later : Nat} (hlater : connections ≤ later) : PacketInv d later completed (es ++ fs) := by
  have hsame := h.append hlater [] (fun c _ => hquiet.chunksOf c)
    (fun x hx => absurd hx List.not_mem_nil) hquiet.undelivered
  rwa [List.append_nil] at hsame

/-- What a read loop adds. -/
theorem PacketInv.read {c : Nat} {decoder : δ} (h : PacketInv d connections completed es)
    (hc : c < connections) (hdecoder : decoder = (decoded d c es).1) (chunks : List Chunk) :
    PacketInv d connections
      (completed ++ (readLoop d c decoder chunks).completed.map fun packet => (c, packet))
      (es ++ (readLoop d c decoder chunks).events) := by
  apply h.append le_rfl
  · intro other hother
    exact chunksOf_readLoop_other (by omega) decoder chunks
  · intro x hx
    obtain ⟨p, hp, rfl⟩ := List.mem_map.mp hx
    exact (readLoop_decoded hdecoder chunks).2 p hp
  · exact readLoop_undelivered c decoder chunks

theorem chunksOf_dispatch (other : Nat) (receiver : Option Nat) (connection : Nat)
    (packet : Bytes) :
    chunksOf other (receiver.toList.map fun r => StreamEvent.deliver r connection packet) = [] := by
  apply chunksOf_eq_nil
  rintro e he chunk rfl
  obtain ⟨r, -, hr⟩ := List.mem_map.mp he
  cases hr

theorem events_dispatchPacket (receiver : Option Nat) (connection : Nat) (packet : Bytes) :
    events (dispatchPacket receiver connection packet) =
      receiver.toList.map fun r => StreamEvent.deliver r connection packet := by
  rw [dispatchPacket, events_append, events_guarded, events_map_event]
  rfl

/-- What a dispatch adds. -/
theorem PacketInv.dispatch {c : Nat} {p : Bytes}
    (h : PacketInv d connections ((c, p) :: completed) es) (receiver : Option Nat) :
    PacketInv d connections completed
      (es ++ events (dispatchPacket receiver c p)) := by
  obtain ⟨hpacket, hrest⟩ := List.forall_mem_cons.mp h.completed
  rw [events_dispatchPacket]
  refine ⟨?_, fun x hx => decoded_packets_mono (hrest x hx), ?_⟩
  · intro other hother
    rw [chunksOf_append, h.unread other hother, chunksOf_dispatch, List.append_nil]
  · intro r other q hmem
    rcases List.mem_append.mp hmem with hold | hnew
    · exact decoded_packets_mono (h.delivered r other q hold)
    · obtain ⟨r', -, hr⟩ := List.mem_map.mp hnew
      cases hr
      exact decoded_packets_mono hpacket

@[simp] theorem events_underClient (es : List StreamEvent) : events (underClient es) = es := by
  simp [underClient]

/-! ### The transports with one client -/

section Client

variable {configureSecurity : κ → List SecurityCall} {lib : Library δ} {s : StreamClient κ δ}

/-- The decoder has been fed what was read from the connection, if there is
one. -/
structure ClientInv (d : FrameDecoder δ) (s : StreamClient κ δ) (es : List StreamEvent) :
    Prop where
  packets : PacketInv d s.connections s.completed es
  fed : ∀ c, s.connection = some c → c < s.connections ∧ s.decoder = (decoded d c es).1

/-- What `EnsureConnectedLocked` does: nothing, or the client is stopped and the
decoder reset, and there may be a new connection. -/
theorem ensureConnectedLocked_cases (configureSecurity : κ → List SecurityCall)
    (lib : Library δ) (s : StreamClient κ δ) (n : ConnectNatives) :
    ∃ after connected es, s.ensureConnectedLocked configureSecurity lib n = (after, connected, es) ∧
      Quiet es ∧ after.completed = s.completed ∧
      ((after = s) ∨ (after.connection = none ∧ after.connections = s.connections) ∨
        (after.connection = some s.connections ∧ after.connections = s.connections + 1 ∧
          after.decoder = lib.decoder.initial)) := by
  have hprepared : ∀ last, (last = some s.connections ∨ last = none) → Quiet
      ((.stop s.connection :: (configureSecurity s.config.security).map StreamEvent.configure) ++
        [.connect s.config.host s.config.port last]) := by
    intro last _ e he
    simp only [List.cons_append, List.mem_cons, List.mem_append, List.mem_map,
      List.not_mem_nil, or_false] at he
    rcases he with rfl | ⟨call, -, rfl⟩ | rfl <;> exact ⟨fun _ _ => by simp, fun _ _ _ => by simp⟩
  unfold StreamClient.ensureConnectedLocked
  split_ifs
  · exact ⟨s, true, [], rfl, quiet_nil, rfl, Or.inl rfl⟩
  · exact ⟨s, false, [], rfl, quiet_nil, rfl, Or.inl rfl⟩
  · exact ⟨_, _, _, rfl, hprepared _ (Or.inl rfl), rfl, Or.inr (Or.inr ⟨rfl, rfl, rfl⟩)⟩
  · exact ⟨_, _, _, rfl, hprepared _ (Or.inr rfl), rfl, Or.inr (Or.inl ⟨rfl, rfl⟩)⟩

theorem ClientInv.ensureConnected (configureSecurity : κ → List SecurityCall)
    (h : ClientInv lib.decoder s es) (n : ConnectNatives) :
    Quiet (s.ensureConnectedLocked configureSecurity lib n).2.2 ∧
      ClientInv lib.decoder (s.ensureConnectedLocked configureSecurity lib n).1
        (es ++ (s.ensureConnectedLocked configureSecurity lib n).2.2) := by
  obtain ⟨after, connected, fs, heq, hquiet, hcompleted, hkind⟩ :=
    ensureConnectedLocked_cases configureSecurity lib s n
  rw [heq]
  refine ⟨hquiet, ?_⟩
  rcases hkind with rfl | ⟨hnone, hsame⟩ | ⟨hsome, hmore, hreset⟩
  · refine ⟨h.packets.quiet hquiet le_rfl, ?_⟩
    intro c hc
    rw [decoded_append_of_unread (hquiet.chunksOf c)]
    exact h.fed c hc
  · refine ⟨?_, ?_⟩
    · rw [hcompleted, hsame]
      exact h.packets.quiet hquiet le_rfl
    · intro c hc
      rw [hnone] at hc
      cases hc
  · refine ⟨?_, ?_⟩
    · rw [hcompleted, hmore]
      exact h.packets.quiet hquiet (Nat.le_succ _)
    · intro c hc
      rw [hsome] at hc
      cases hc
      rw [decoded_append_of_unread (hquiet.chunksOf _), decoded, h.packets.unread _ le_rfl]
      exact ⟨hmore ▸ Nat.lt_succ_self _, hreset⟩

theorem ClientInv.quiet (h : ClientInv lib.decoder s es) (hquiet : Quiet fs) :
    ClientInv lib.decoder s (es ++ fs) where
  packets := h.packets.quiet hquiet le_rfl
  fed c hc := by
    rw [decoded_append_of_unread (hquiet.chunksOf c)]
    exact h.fed c hc

/-- Stopping a client only forgets the connection. -/
theorem ClientInv.stopped (h : ClientInv lib.decoder s es) :
    ClientInv lib.decoder { s with connection := none } es where
  packets := h.packets
  fed c hc := by cases hc

theorem ClientInv.iterate (h : ClientInv lib.decoder s es) (n : ConnectNatives)
    (reads : List Chunk) :
    ClientInv lib.decoder (s.iterate configureSecurity lib n reads).1
      (es ++ events (s.iterate configureSecurity lib n reads).2) := by
  unfold StreamClient.iterate
  split_ifs
  · simpa using h
  · rw [events_underClient, StreamClient.readClientLocked]
    obtain ⟨hquiet, hinv⟩ := h.ensureConnected configureSecurity n
    generalize s.ensureConnectedLocked configureSecurity lib n = outcome at hquiet hinv
    obtain ⟨t, connected, fs⟩ := outcome
    cases hconnected : connected with
    | false => exact hinv
    | true =>
        cases hconnection : t.connection with
        | none => simpa [hconnection] using hinv
        | some c =>
            obtain ⟨hc, hdecoder⟩ := hinv.fed c hconnection
            simp only [hconnection]
            rw [← List.append_assoc]
            refine ⟨hinv.packets.read hc hdecoder reads, ?_⟩
            intro c' hc'
            dsimp only at hc'
            split_ifs at hc' with hstopped
            cases hc'
            exact ⟨hc, (readLoop_decoded hdecoder reads).1⟩

theorem ClientInv.send (h : ClientInv lib.decoder s es) (packet : Option Bytes)
    (n : ConnectNatives) (whole : Bool) :
    ClientInv lib.decoder (s.send configureSecurity lib packet n whole).1
      (es ++ events (s.send configureSecurity lib packet n whole).2.2) := by
  unfold StreamClient.send
  split
  · dsimp only
    split
    · simpa using h
    · obtain ⟨hquiet, hinv⟩ := h.ensureConnected configureSecurity n
      generalize s.ensureConnectedLocked configureSecurity lib n = outcome at hquiet hinv
      obtain ⟨t, connected, fs⟩ := outcome
      dsimp only
      split
      · split
        · rw [events_underClient, ← List.append_assoc]
          exact hinv.quiet (by simp [Quiet])
        · rw [events_underClient, ← List.append_assoc]
          exact (hinv.quiet (by simp [Quiet])).stopped
      · rw [events_underClient]
        exact hinv
  · simpa using h

/-- **One operation** keeps decoders and connections together. -/
theorem ClientInv.step (h : ClientInv lib.decoder s es) (op : StreamClient.Op κ) :
    ClientInv lib.decoder (StreamClient.step configureSecurity lib s op).1
      (es ++ events (StreamClient.step configureSecurity lib s op).2) := by
  cases op with
  | initializeTransport config started =>
      simp only [StreamClient.step, events_nil, List.append_nil, StreamClient.initializeTransport]
      split_ifs <;> exact ⟨h.packets, h.fed⟩
  | shutdown =>
      simp only [StreamClient.step, StreamClient.shutdown]
      split_ifs
      · simpa using h
      · refine ⟨?_, fun c hc => by cases hc⟩
        rw [events_append, events_underClient, events_guarded]
        exact h.packets.quiet (by simp [Quiet]) le_rfl
  | iterate natives reads => exact h.iterate natives reads
  | dispatch =>
      simp only [StreamClient.step, StreamClient.dispatch]
      cases hcompleted : s.completed with
      | nil => simpa using h
      | cons first rest =>
          have hpackets := h.packets
          rw [hcompleted] at hpackets
          refine ⟨hpackets.dispatch s.receiver, ?_⟩
          intro c hc
          rw [decoded_append_of_unread]
          · exact h.fed c hc
          · rw [events_dispatchPacket]
            exact chunksOf_dispatch c s.receiver first.1 first.2
  | send packet natives whole => exact h.send packet natives whole
  | setReceiver receiver =>
      simp only [StreamClient.step, StreamClient.setReceiver, events_guarded, events_nil,
        List.append_nil]
      exact ⟨h.packets, h.fed⟩
  | getIsConnected alive =>
      simpa [StreamClient.step, StreamClient.getIsConnected] using h

end Client

/-! ### The transport that serves clients -/

section Server

variable {lib : Library δ} {s : StreamServer δ} {a b : ClientState δ}
  {slots later : List (ClientState δ)}

/-- The decoder of a slot has been fed what was read from its connection. -/
def Fed (d : FrameDecoder δ) (es : List StreamEvent) (a : ClientState δ) : Prop :=
  ∀ c, a.connection = some c → a.decoder = (decoded d c es).1

theorem Fed.append (h : Fed d es a) (hunread : ∀ c, a.connection = some c → chunksOf c fs = []) :
    Fed d (es ++ fs) a := by
  intro c hc
  rw [decoded_append_of_unread (hunread c hc)]
  exact h c hc

/-- Two slots do not stand for one connection. -/
def Apart (a b : ClientState δ) : Prop := ∀ c, a.connection = some c → b.connection ≠ some c

/-- A slot that keeps its connection or has none. -/
def Narrows (a b : ClientState δ) : Prop := b.connection = none ∨ b.connection = a.connection

theorem Narrows.connection {c : Nat} (h : Narrows a b) (hb : b.connection = some c) :
    a.connection = some c := by
  rcases h with hnone | hsame
  · rw [hnone] at hb
    cases hb
  · rw [← hsame]
    exact hb

theorem exists_of_forall₂ {R : ClientState δ → ClientState δ → Prop}
    (h : List.Forall₂ R slots later) (hb : b ∈ later) : ∃ a ∈ slots, R a b := by
  induction h with
  | nil => cases hb
  | cons hfirst _ ih =>
      rcases List.mem_cons.mp hb with rfl | hrest
      · exact ⟨_, List.mem_cons_self, hfirst⟩
      · obtain ⟨a, ha, hab⟩ := ih hrest
        exact ⟨a, List.mem_cons_of_mem _ ha, hab⟩

/-- Slots that only lose connections stay apart. -/
theorem apart_of_narrows (h : List.Forall₂ Narrows slots later) (hapart : slots.Pairwise Apart) :
    later.Pairwise Apart := by
  induction h with
  | nil => exact List.Pairwise.nil
  | cons hnarrows hrest ih =>
      obtain ⟨hfirst, hothers⟩ := List.pairwise_cons.mp hapart
      refine List.pairwise_cons.mpr ⟨?_, ih hothers⟩
      intro b hb c hc hbc
      obtain ⟨a, ha, hab⟩ := exists_of_forall₂ hrest hb
      exact hfirst a ha c (hnarrows.connection hc) (hab.connection hbc)

/-- Serving slots reads nothing but their connections, and feeds each decoder
what is read from its own. -/
structure Serves (d : FrameDecoder δ) (es : List StreamEvent) (slots : List (ClientState δ))
    (out : StreamServer.Served δ) : Prop where
  narrows : List.Forall₂ Narrows slots out.clients
  fed : ∀ b ∈ out.clients, Fed d (es ++ out.events) b
  completed : ∀ x ∈ out.completed, x.2 ∈ (decoded d x.1 (es ++ out.events)).2
  unread : ∀ c, (∀ a ∈ slots, a.connection ≠ some c) → chunksOf c out.events = []

theorem serves_unchanged (hfed : ∀ a ∈ slots, Fed d es a) :
    Serves d es slots ⟨slots, [], []⟩ where
  narrows := List.forall₂_same.mpr fun _ _ => Or.inr rfl
  fed b hb := by simpa using hfed b hb
  completed x hx := by cases hx
  unread c _ := rfl

theorem serves_stopped (a : ClientState δ) :
    Serves d es [a] ⟨[⟨none, d.initial, false⟩], [.stop a.connection], []⟩ where
  narrows := List.Forall₂.cons (Or.inl rfl) List.Forall₂.nil
  fed b hb := by
    rw [List.mem_singleton.mp hb]
    intro c hc
    cases hc
  completed x hx := by cases hx
  unread c _ := rfl

/-- One slot. -/
theorem serves_serveClient (h : Fed lib.decoder es a) (alive : Bool) (reads : List Chunk) :
    Serves lib.decoder es [a] (StreamServer.serveClient lib a alive reads) := by
  unfold StreamServer.serveClient
  split
  · exact serves_unchanged (by simpa using h)
  · split
    · rename_i c hc
      obtain ⟨hdecoder, hpackets⟩ := readLoop_decoded (h c hc) reads
      refine ⟨?_, ?_, ?_, ?_⟩
      · refine List.Forall₂.cons ?_ List.Forall₂.nil
        cases hstopped : (readLoop lib.decoder c a.decoder reads).stopped with
        | true => exact Or.inl rfl
        | false => exact Or.inr hc.symm
      · intro b hb
        rw [List.mem_singleton.mp hb]
        intro c' hc'
        dsimp only at hc'
        split_ifs at hc'
        cases hc'
        exact hdecoder
      · intro x hx
        obtain ⟨p, hp, rfl⟩ := List.mem_map.mp hx
        exact hpackets p hp
      · intro other hother
        apply chunksOf_readLoop_other
        rintro rfl
        exact hother a List.mem_cons_self hc
    · exact serves_stopped a

/-- One slot and the slots after it. -/
theorem Serves.cons {one others : StreamServer.Served δ} (hone : Serves d es [a] one)
    (hothers : Serves d (es ++ one.events) slots others)
    (hapart : ∀ b ∈ slots, Apart a b) :
    Serves d es (a :: slots) ⟨one.clients ++ others.clients, one.events ++ others.events,
      one.completed ++ others.completed⟩ where
  narrows := List.rel_append hone.narrows hothers.narrows
  fed b hb := by
    rw [← List.append_assoc]
    rcases List.mem_append.mp hb with hfirst | hrest
    · obtain ⟨a', ha', hnarrows⟩ := exists_of_forall₂ hone.narrows hfirst
      cases List.mem_singleton.mp ha'
      apply (hone.fed b hfirst).append
      intro c hc
      exact hothers.unread c fun b' hb' => hapart b' hb' c (hnarrows.connection hc)
    · exact hothers.fed b hrest
  completed x hx := by
    rw [← List.append_assoc]
    rcases List.mem_append.mp hx with hfirst | hrest
    · exact decoded_packets_mono (hone.completed x hfirst)
    · exact hothers.completed x hrest
  unread c hc := by
    obtain ⟨hfirst, hrest⟩ := List.forall_mem_cons.mp hc
    rw [chunksOf_append, hone.unread c (by simpa using hfirst), hothers.unread c hrest]
    rfl

/-- All slots. -/
theorem serves_serveClients (n : ServerNatives) (limit index : Nat)
    (hfed : ∀ a ∈ slots, Fed lib.decoder es a) (hapart : slots.Pairwise Apart) :
    Serves lib.decoder es slots (StreamServer.serveClients lib n limit index slots) := by
  induction slots generalizing es index with
  | nil => exact serves_unchanged hfed
  | cons a slots ih =>
      obtain ⟨hfirst, hrest⟩ := List.forall_mem_cons.mp hfed
      obtain ⟨hapartFirst, hapartRest⟩ := List.pairwise_cons.mp hapart
      unfold StreamServer.serveClients
      split
      · exact serves_unchanged hfed
      · have hone := serves_serveClient hfirst (n.alive index) (n.reads index)
        refine hone.cons (ih (index + 1) ?_ hapartRest) hapartFirst
        intro b hb
        apply (hrest b hb).append
        intro c hc
        apply hone.unread c
        simpa using fun ha => hapartFirst b hb c ha hc

/-- Serving slots dispatches nothing. -/
theorem serveClients_undelivered (n : ServerNatives) (limit index : Nat)
    (slots : List (ClientState δ)) :
    Undelivered (StreamServer.serveClients lib n limit index slots).events := by
  induction slots generalizing index with
  | nil =>
      intro r c p h
      cases h
  | cons a slots ih =>
      unfold StreamServer.serveClients
      split
      · intro r c p h
        cases h
      · refine Undelivered.append ?_ (ih _)
        unfold StreamServer.serveClient
        split
        · intro r c p h
          cases h
        · split
          · exact readLoop_undelivered _ _ _
          · intro r c p h
            simp at h

/-- A place for the incoming client: slots as they were, and perhaps one that
stands for the new connection with a decoder just reset. -/
theorem mem_place {occupied : Nat → Bool} {limit connection index : Nat}
    (hb : b ∈ (StreamServer.place lib occupied limit connection index slots).1) :
    b ∈ slots ∨ (b.connection = some connection ∧ b.decoder = lib.decoder.initial) := by
  induction slots generalizing index with
  | nil => cases hb
  | cons a slots ih =>
      simp only [StreamServer.place] at hb
      split_ifs at hb
      · exact Or.inl hb
      · rcases List.mem_cons.mp hb with rfl | hrest
        · exact Or.inr ⟨rfl, rfl⟩
        · exact Or.inl (List.mem_cons_of_mem _ hrest)
      · rcases List.mem_cons.mp hb with rfl | hrest
        · exact Or.inl List.mem_cons_self
        · rcases ih hrest with hold | hnew
          · exact Or.inl (List.mem_cons_of_mem _ hold)
          · exact Or.inr hnew

theorem apart_place {occupied : Nat → Bool} {limit connection index : Nat}
    (hapart : slots.Pairwise Apart) (hnew : ∀ a ∈ slots, a.connection ≠ some connection) :
    (StreamServer.place lib occupied limit connection index slots).1.Pairwise Apart := by
  induction slots generalizing index with
  | nil => exact List.Pairwise.nil
  | cons a slots ih =>
      obtain ⟨hfirst, hrest⟩ := List.pairwise_cons.mp hapart
      obtain ⟨hnewFirst, hnewRest⟩ := List.forall_mem_cons.mp hnew
      simp only [StreamServer.place]
      split_ifs
      · exact hapart
      · refine List.pairwise_cons.mpr ⟨?_, hrest⟩
        intro b hb c hc
        cases hc
        exact hnewRest b hb
      · refine List.pairwise_cons.mpr ⟨?_, ih hrest hnewRest⟩
        intro b hb c hc hbc
        rcases mem_place hb with hold | ⟨hconnection, -⟩
        · exact hfirst b hold c hc hbc
        · rw [hconnection] at hbc
          cases hbc
          exact hnewFirst hc

theorem quiet_place (occupied : Nat → Bool) (limit connection index : Nat)
    (slots : List (ClientState δ)) :
    Quiet (StreamServer.place lib occupied limit connection index slots).2 := by
  induction slots generalizing index with
  | nil => simp [StreamServer.place, Quiet]
  | cons a slots ih =>
      simp only [StreamServer.place]
      split_ifs
      · simp [Quiet]
      · simp [Quiet]
      · exact ih _

/-- Sending drops connections and reads nothing. -/
theorem sendAll_spec (frame : Bytes) (alive whole : Nat → Bool) (index : Nat)
    (slots : List (ClientState δ)) :
    List.Forall₂ (fun a b : ClientState δ => b.connection = none ∨ b = a) slots
        (StreamServer.sendAll frame alive whole index slots).1 ∧
      Quiet (StreamServer.sendAll frame alive whole index slots).2.1 := by
  induction slots generalizing index with
  | nil => exact ⟨List.Forall₂.nil, quiet_nil⟩
  | cons a slots ih =>
      obtain ⟨hslots, hquiet⟩ := ih (index + 1)
      simp only [StreamServer.sendAll]
      split
      · split_ifs
        · refine ⟨List.Forall₂.cons (Or.inr rfl) hslots, ?_⟩
          exact Quiet.cons (fun _ _ => by simp) (fun _ _ _ => by simp) hquiet
        · refine ⟨List.Forall₂.cons (Or.inl rfl) hslots, ?_⟩
          exact Quiet.cons (fun _ _ => by simp) (fun _ _ _ => by simp)
            (Quiet.cons (fun _ _ => by simp) (fun _ _ _ => by simp) hquiet)
      · exact ⟨List.Forall₂.cons (Or.inr rfl) hslots, hquiet⟩

/-- Every slot's decoder goes with its connection, and no connection has two
slots. -/
structure ServerInv (d : FrameDecoder δ) (s : StreamServer δ) (es : List StreamEvent) :
    Prop where
  packets : PacketInv d s.connections s.completed es
  made : ∀ a ∈ s.clients, ∀ c, a.connection = some c → c < s.connections
  fed : ∀ a ∈ s.clients, Fed d es a
  apart : s.clients.Pairwise Apart

/-- Clients without a connection have nothing to keep together. -/
theorem serverInv_of_unconnected {d : FrameDecoder δ}
    (hpackets : PacketInv d s.connections s.completed es)
    (hnone : ∀ a ∈ s.clients, a.connection = none) : ServerInv d s es := by
  refine ⟨hpackets, ?_, ?_, ?_⟩
  · intro a ha c hc
    rw [hnone a ha] at hc
    cases hc
  · intro a ha c hc
    rw [hnone a ha] at hc
    cases hc
  · apply List.pairwise_of_forall_mem_list
    intro a ha b hb c hc
    rw [hnone a ha] at hc
    cases hc

theorem ServerInv.accept (h : ServerInv lib.decoder s es) (n : ServerNatives) :
    ServerInv lib.decoder (s.acceptClientsLocked lib n).1
      (es ++ (s.acceptClientsLocked lib n).2) := by
  unfold StreamServer.acceptClientsLocked
  split_ifs
  · simpa using h
  · have hquiet : Quiet (.accept s.connections ::
        (StreamServer.place lib n.occupied s.limit s.connections 0 s.clients).2) :=
      Quiet.cons (fun _ _ => by simp) (fun _ _ _ => by simp) (quiet_place _ _ _ _ _)
    have hnew : ∀ a ∈ s.clients, a.connection ≠ some s.connections :=
      fun a ha hc => absurd (h.made a ha _ hc) (lt_irrefl _)
    refine ⟨h.packets.quiet hquiet (Nat.le_succ _), ?_, ?_, apart_place h.apart hnew⟩
    · intro b hb c hc
      rcases mem_place hb with hold | ⟨hconnection, -⟩
      · exact Nat.lt_succ_of_lt (h.made b hold c hc)
      · rw [hconnection] at hc
        cases hc
        exact Nat.lt_succ_self _
    · intro b hb c hc
      rw [decoded_append_of_unread (hquiet.chunksOf c)]
      rcases mem_place hb with hold | ⟨hconnection, hdecoder⟩
      · exact h.fed b hold c hc
      · rw [hconnection] at hc
        cases hc
        rw [hdecoder, decoded, h.packets.unread _ le_rfl]
        rfl

theorem ServerInv.serve (h : ServerInv lib.decoder s es) {out : StreamServer.Served δ}
    (hserves : Serves lib.decoder es s.clients out) (hundelivered : Undelivered out.events) :
    ServerInv lib.decoder
      { s with clients := out.clients, completed := s.completed ++ out.completed }
      (es ++ out.events) where
  packets := by
    apply h.packets.append le_rfl
    · intro c hc
      apply hserves.unread c
      intro a ha hac
      exact absurd (h.made a ha c hac) (not_lt_of_ge hc)
    · exact hserves.completed
    · exact hundelivered
  made b hb c hc := by
    obtain ⟨a, ha, hab⟩ := exists_of_forall₂ hserves.narrows hb
    exact h.made a ha c (hab.connection hc)
  fed := hserves.fed
  apart := apart_of_narrows hserves.narrows h.apart

theorem ServerInv.iterate (h : ServerInv lib.decoder s es) (n : ServerNatives) :
    ServerInv lib.decoder (s.iterate lib n).1 (es ++ events (s.iterate lib n).2) := by
  unfold StreamServer.iterate
  split_ifs
  · simpa using h
  · have haccepted := h.accept n
    rw [events_underClient, ← List.append_assoc]
    exact haccepted.serve (serves_serveClients n _ 0 haccepted.fed haccepted.apart)
      (serveClients_undelivered n _ 0 _)

theorem ServerInv.send (h : ServerInv lib.decoder s es) (packet : Option Bytes)
    (alive whole : Nat → Bool) :
    ServerInv lib.decoder (s.send lib packet alive whole).1
      (es ++ events (s.send lib packet alive whole).2.2) := by
  unfold StreamServer.send
  split
  · dsimp only
    split
    · simpa using h
    · rename_i data _ _ _
      obtain ⟨hslots, hquiet⟩ := sendAll_spec (lib.buildFrame data) alive whole 0 s.clients
      rw [events_underClient]
      have hnarrows : List.Forall₂ Narrows s.clients _ := hslots.imp fun a b hab =>
        hab.elim Or.inl fun hsame => Or.inr (congrArg ClientState.connection hsame)
      refine ⟨h.packets.quiet hquiet le_rfl, ?_, ?_, apart_of_narrows hnarrows h.apart⟩
      · intro b hb c hc
        obtain ⟨a, ha, hab⟩ := exists_of_forall₂ hnarrows hb
        exact h.made a ha c (hab.connection hc)
      · intro b hb c hc
        obtain ⟨a, ha, hnone | rfl⟩ := exists_of_forall₂ hslots hb
        · rw [hnone] at hc
          cases hc
        · rw [decoded_append_of_unread (hquiet.chunksOf c)]
          exact h.fed _ ha c hc
  · simpa using h

/-- **One operation** keeps decoders and connections together. -/
theorem ServerInv.step (h : ServerInv lib.decoder s es) (op : StreamServer.Op) :
    ServerInv lib.decoder (StreamServer.step lib s op).1
      (es ++ events (StreamServer.step lib s op).2) := by
  cases op with
  | initializeTransport config started =>
      simp only [StreamServer.step, events_nil, List.append_nil, StreamServer.initializeTransport]
      split_ifs <;> exact ⟨h.packets, h.made, h.fed, h.apart⟩
  | shutdown =>
      simp only [StreamServer.step, StreamServer.shutdown]
      split_ifs
      · simpa using h
      · rw [events_append, events_underClient, events_guarded, events_nil, List.append_nil]
        have hquiet : Quiet (s.clients.map fun c => StreamEvent.stop c.connection) := by
          intro e he
          obtain ⟨c, -, rfl⟩ := List.mem_map.mp he
          exact ⟨fun _ _ => by simp, fun _ _ _ => by simp⟩
        have hnone : ∀ a ∈ s.clients.map fun _ : ClientState δ =>
            (⟨none, lib.decoder.initial, false⟩ : ClientState δ), a.connection = none := by
          intro a ha
          obtain ⟨c, -, rfl⟩ := List.mem_map.mp ha
          rfl
        exact serverInv_of_unconnected (h.packets.quiet hquiet le_rfl) hnone
  | iterate natives => exact h.iterate natives
  | dispatch =>
      simp only [StreamServer.step, StreamServer.dispatch]
      cases hcompleted : s.completed with
      | nil => simpa using h
      | cons first rest =>
          have hpackets := h.packets
          rw [hcompleted] at hpackets
          refine ⟨hpackets.dispatch s.receiver, h.made, ?_, h.apart⟩
          intro a ha
          apply (h.fed a ha).append
          intro c _
          rw [events_dispatchPacket]
          exact chunksOf_dispatch c s.receiver first.1 first.2
  | send packet alive whole => exact h.send packet alive whole
  | setReceiver receiver =>
      simp only [StreamServer.step, StreamServer.setReceiver, events_guarded, events_nil,
        List.append_nil]
      exact ⟨h.packets, h.made, h.fed, h.apart⟩
  | getConnectedClientCount alive =>
      simpa [StreamServer.step, StreamServer.getConnectedClientCount] using h

end Server

/-! ### Every run -/

/-- Every packet dispatched is one a fresh decoder hands out when it is fed, in
order, the chunks read from one connection. -/
def OfOneConnection (d : FrameDecoder δ) (es : List StreamEvent) : Prop :=
  ∀ receiver connection packet, StreamEvent.deliver receiver connection packet ∈ es →
    packet ∈ (decoded d connection es).2

theorem client_ofOneConnection (configureSecurity : κ → List SecurityCall) (lib : Library δ)
    (config : ClientConfig κ) (ops : List (StreamClient.Op κ)) :
    OfOneConnection lib.decoder (events
      (feed (StreamClient.step configureSecurity lib) (StreamClient.fresh lib config) ops).2) := by
  have hfresh : ClientInv lib.decoder (StreamClient.fresh lib config)
      (events ([] : List StreamAction)) :=
    ⟨packetInv_nil lib.decoder, fun c hc => by cases hc⟩
  have hstep : ∀ (s : StreamClient κ δ) (out : List StreamAction) (op : StreamClient.Op κ),
      True → ClientInv lib.decoder s (events out) →
        ClientInv lib.decoder (StreamClient.step configureSecurity lib s op).1
          (events (out ++ (StreamClient.step configureSecurity lib s op).2)) := by
    intro s out op _ h
    rw [events_append]
    exact h.step op
  exact (feed_invariant hstep hfresh ops fun _ _ => trivial).packets.delivered

theorem server_ofOneConnection (lib : Library δ) (slots : Nat) (config : ServerConfig)
    (ops : List StreamServer.Op) :
    OfOneConnection lib.decoder (events
      (feed (StreamServer.step lib) (StreamServer.fresh lib slots config) ops).2) := by
  have hnone : ∀ a ∈ (StreamServer.fresh lib slots config).clients, a.connection = none := by
    intro a ha
    rw [List.eq_of_mem_replicate ha]
  have hfresh : ServerInv lib.decoder (StreamServer.fresh lib slots config)
      (events ([] : List StreamAction)) :=
    serverInv_of_unconnected (packetInv_nil lib.decoder) hnone
  have hstep : ∀ (s : StreamServer δ) (out : List StreamAction) (op : StreamServer.Op),
      True → ServerInv lib.decoder s (events out) →
        ServerInv lib.decoder (StreamServer.step lib s op).1
          (events (out ++ (StreamServer.step lib s op).2)) := by
    intro s out op _ h
    rw [events_append]
    exact h.step op
  exact (feed_invariant hstep hfresh ops fun _ _ => trivial).packets.delivered

/-- **Packets of one connection.**  In every run of each of the three
transports. -/
theorem packets_ofOneConnection (lib : Library δ) :
    (∀ config ops, OfOneConnection lib.decoder
        (events (feed (tcpClientStep lib) (StreamClient.fresh lib config) ops).2)) ∧
      (∀ config ops, OfOneConnection lib.decoder
        (events (feed (tlsStep lib) (StreamClient.fresh lib config) ops).2)) ∧
      ∀ slots config ops, OfOneConnection lib.decoder
        (events (feed (StreamServer.step lib) (StreamServer.fresh lib slots config) ops).2) :=
  ⟨fun config ops => client_ofOneConnection _ lib config ops,
    fun config ops => client_ofOneConnection _ lib config ops,
    fun slots config ops => server_ofOneConnection lib slots config ops⟩

end Sockets
