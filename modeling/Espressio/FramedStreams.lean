import Mathlib.Data.List.Infix
import Espressio.Runs

/-!
# Packets framed into a stream

A writer puts frames on a stream one after the other.  A write may stop short,
and what it leaves of its frame is a part from the frame's start.  A reader is
fed the stream in chunks that need not end where frames do, and may have been
fed only the beginning.

`OnWire` is what writes leave on a stream.  As long as only the last of them
stopped short it is a beginning of the frames (`OnWire.isPrefix`), and then a
decoder that decodes whole streams decodes what has arrived to a beginning of
the packets (`Decodes.of_wire`).

`Decodes` speaks of packets that are `good`, as a format need not have frames
for all others.  A decoder that looks at its input element by element decodes a
stream if it decodes each frame (`decodes_of_elementwise`).
-/

namespace FramedStreams

open Runs

variable {π β δ : Type*} {frame : π → List β} {good : π → Prop} {initial : δ}

/-- What writes leave on a stream.  The second component of a write is whether
its whole frame went out. -/
inductive OnWire (frame : π → List β) : List (π × Bool) → List β → Prop
  | nil : OnWire frame [] []
  | whole {p : π} {ws : List (π × Bool)} {bytes : List β} (rest : OnWire frame ws bytes) :
      OnWire frame ((p, true) :: ws) (frame p ++ bytes)
  | torn {p : π} {part : List β} {ws : List (π × Bool)} {bytes : List β}
      (start : part <+: frame p) (rest : OnWire frame ws bytes) :
      OnWire frame ((p, false) :: ws) (part ++ bytes)

/-- Every write that another one follows was whole. -/
def Intact (ws : List (π × Bool)) : Prop := ws.Pairwise fun w _ => w.2 = true

theorem intact_of_whole {ws : List (π × Bool)} (h : ∀ w ∈ ws, w.2 = true) : Intact ws :=
  List.pairwise_iff_forall_sublist.mpr fun hab =>
    h _ (hab.subset List.mem_cons_self)

/-- After whole writes there may be one that is not. -/
theorem intact_concat {ws : List (π × Bool)} (h : ∀ w ∈ ws, w.2 = true) (w : π × Bool) :
    Intact (ws ++ [w]) := by
  refine List.pairwise_append.mpr ⟨intact_of_whole h, List.pairwise_singleton _ _, ?_⟩
  exact fun a ha _ _ => h a ha

/-- What whole writes leave is their frames. -/
theorem OnWire.eq_of_whole {ws : List (π × Bool)} {bytes : List β} (h : OnWire frame ws bytes)
    (hwhole : ∀ w ∈ ws, w.2 = true) : bytes = (ws.map Prod.fst).flatMap frame := by
  induction h with
  | nil => rfl
  | whole rest ih =>
      rw [ih (List.forall_mem_cons.mp hwhole).2, List.map_cons, List.flatMap_cons]
  | torn start rest ih => exact absurd (hwhole _ List.mem_cons_self) Bool.false_ne_true

/-- **An intact stream** is a beginning of the frames written to it. -/
theorem OnWire.isPrefix {ws : List (π × Bool)} {bytes : List β} (h : OnWire frame ws bytes)
    (hintact : Intact ws) : bytes <+: (ws.map Prod.fst).flatMap frame := by
  induction h with
  | nil => exact List.prefix_rfl
  | whole rest ih =>
      rw [List.map_cons, List.flatMap_cons]
      exact (List.prefix_append_right_inj _).mpr (ih (List.pairwise_cons.mp hintact).2)
  | @torn p part ws bytes start rest ih =>
      cases ws with
      | nil =>
          cases rest
          simpa using start
      | cons w ws =>
          have hlast := (List.pairwise_cons.mp hintact).1 w List.mem_cons_self
          exact absurd hlast Bool.false_ne_true

/-- Fed the frames of good packets in whatever chunks, the decoder hands out
the packets in their order. -/
def Decodes (frame : π → List β) (good : π → Prop) (push : δ → List β → δ × List π)
    (initial : δ) : Prop :=
  ∀ (packets : List π) (chunks : List (List β)), (∀ p ∈ packets, good p) →
    chunks.flatten = packets.flatMap frame → (feed push initial chunks).2 = packets

section Push

variable {push : δ → List β → δ × List π} {chunks : List (List β)}

/-- What has arrived decodes to the first packets. -/
theorem Decodes.isPrefix (h : Decodes frame good push initial) {packets : List π}
    (hgood : ∀ p ∈ packets, good p) (harrived : chunks.flatten <+: packets.flatMap frame) :
    (feed push initial chunks).2 <+: packets := by
  obtain ⟨rest, hrest⟩ := harrived
  have hall : (feed push initial (chunks ++ [rest])).2 = packets :=
    h packets _ hgood (by simpa using hrest)
  rw [feed_append] at hall
  exact ⟨_, hall⟩

/-- **Reading an intact stream.** -/
theorem Decodes.of_wire (h : Decodes frame good push initial) {ws : List (π × Bool)}
    (hgood : ∀ w ∈ ws, good w.1) (hintact : Intact ws) {bytes : List β}
    (hwire : OnWire frame ws bytes) (harrived : chunks.flatten <+: bytes) :
    (feed push initial chunks).2 <+: ws.map Prod.fst := by
  apply h.isPrefix ?_ (harrived.trans (hwire.isPrefix hintact))
  rintro p hp
  obtain ⟨w, hw, rfl⟩ := List.mem_map.mp hp
  exact hgood w hw

/-- Reading all of a stream to which only whole frames were written. -/
theorem Decodes.of_whole_wire (h : Decodes frame good push initial) {ws : List (π × Bool)}
    (hgood : ∀ w ∈ ws, good w.1) (hwhole : ∀ w ∈ ws, w.2 = true) {bytes : List β}
    (hwire : OnWire frame ws bytes) (harrived : chunks.flatten = bytes) :
    (feed push initial chunks).2 = ws.map Prod.fst := by
  apply h _ _ ?_ (harrived.trans (hwire.eq_of_whole hwhole))
  rintro p hp
  obtain ⟨w, hw, rfl⟩ := List.mem_map.mp hp
  exact hgood w hw

end Push

/-! ### Decoders that look at one element at a time -/

section Elementwise

variable {next : δ → β → δ × List π}

/-- Such a decoder does not notice where its chunks end. -/
theorem feed_chunks (next : δ → β → δ × List π) (s : δ) (chunks : List (List β)) :
    feed (feed next) s chunks = feed next s chunks.flatten := by
  induction chunks generalizing s with
  | nil => rfl
  | cons chunk chunks ih => rw [feed_cons, List.flatten_cons, feed_append, ih]

/-- It decodes streams if it decodes each frame and is then as it was. -/
theorem decodes_of_elementwise
    (hframe : ∀ p, good p → feed next initial (frame p) = (initial, [p])) :
    Decodes frame good (feed next) initial := by
  intro packets chunks hgood hchunks
  have hframes : feed next initial (packets.flatMap frame) = (initial, packets) := by
    clear hchunks
    induction packets with
    | nil => rfl
    | cons p packets ih =>
        obtain ⟨hp, hpackets⟩ := List.forall_mem_cons.mp hgood
        rw [List.flatMap_cons, feed_append, hframe p hp, ih hpackets]
        rfl
  rw [feed_chunks, hchunks, hframes]

end Elementwise

end FramedStreams
