import Espressio.Runs

/-!
# Concurrent calls made of atomic actions

A call is a `Program`: a result, or an atomic action and how to go on by what
the action replied.  Calls begin at any time and their actions interleave in
any order on one shared state.  Every call keeps a log of its actions, each
with the reply and the shared state it found.

This file holds what is true of all such systems, whatever the actions are.

* `Reaches` relates a program to what it may have become along a log; of a
  finished call it is the list of the paths through its program.
* `Sound` says that each call has got where it is along its own log, that every
  entry of it happened, and that the entries are in the order of time.
* `counts_run`: what an action adds to a count is found there in the end, for
  all actions of all calls together.
-/

namespace AtomicCalls

open Runs

variable {κ σ ι ρ : Type} {answer : κ → Type}

inductive Program (answer : κ → Type) (ρ : Type)
  | ret (result : ρ)
  | act (action : κ) (next : answer action → Program answer ρ)

/-- An action of a call, its reply, and the shared state before it. -/
structure Entry (answer : κ → Type) (σ : Type) where
  action : κ
  reply : answer action
  before : σ

structure Call (answer : κ → Type) (ρ σ ι : Type) where
  request : ι
  log : List (Entry answer σ)
  now : Program answer ρ

structure System (answer : κ → Type) (ρ σ ι : Type) where
  shared : σ
  calls : List (Call answer ρ σ ι)

/-- A call begins, or the next action of one is done. -/
inductive Step (code : ι → Program answer ρ) (exec : σ → (a : κ) → answer a → σ → Prop) :
    System answer ρ σ ι → Option ι → System answer ρ σ ι → Prop
  | begins (s : System answer ρ σ ι) (request : ι) :
      Step code exec s (some request) ⟨s.shared, s.calls ++ [⟨request, [], code request⟩]⟩
  | acts (earlier later : List (Call answer ρ σ ι)) (request : ι) (log : List (Entry answer σ))
      {a : κ} (next : answer a → Program answer ρ) (reply : answer a) {before after : σ}
      (done : exec before a reply after) :
      Step code exec ⟨before, earlier ++ ⟨request, log, .act a next⟩ :: later⟩ none
        ⟨after, earlier ++ ⟨request, log ++ [⟨a, reply, before⟩], next reply⟩ :: later⟩

/-- No call is under way. -/
def System.Quiescent (s : System answer ρ σ ι) : Prop := ∀ c ∈ s.calls, ∃ r, c.now = .ret r

/-! ## What a program becomes -/

/-- Along a log of its actions a program becomes another. -/
inductive Reaches : Program answer ρ → List (Entry answer σ) → Program answer ρ → Prop
  | nil (p : Program answer ρ) : Reaches p [] p
  | cons {a : κ} {next : answer a → Program answer ρ} {reply : answer a} {before : σ}
      {log : List (Entry answer σ)} {q : Program answer ρ} (tail : Reaches (next reply) log q) :
      Reaches (.act a next) (⟨a, reply, before⟩ :: log) q

theorem Reaches.snoc {p : Program answer ρ} {log : List (Entry answer σ)} {a : κ}
    {next : answer a → Program answer ρ} (h : Reaches p log (.act a next)) (reply : answer a)
    (before : σ) : Reaches p (log ++ [⟨a, reply, before⟩]) (next reply) := by
  generalize hq : Program.act a next = q at h
  induction h with
  | nil p =>
      subst hq
      exact .cons (.nil _)
  | cons tail ih => exact .cons (ih hq)

/-- A finished program has done nothing more. -/
theorem Reaches.of_ret {result result' : ρ} {log : List (Entry answer σ)}
    (h : Reaches (.ret result) log (.ret result')) : log = [] ∧ result' = result := by
  cases h with
  | nil => exact ⟨rfl, rfl⟩

/-- A finished call has made its next action and gone on by the reply. -/
theorem Reaches.of_act {a : κ} {next : answer a → Program answer ρ} {result : ρ}
    {log : List (Entry answer σ)} (h : Reaches (.act a next) log (.ret result)) :
    ∃ reply before rest, log = ⟨a, reply, before⟩ :: rest ∧
      Reaches (next reply) rest (.ret result) := by
  cases h with
  | cons tail => exact ⟨_, _, _, rfl, tail⟩

/-! ## Invariants -/

variable {code : ι → Program answer ρ} {exec : σ → (a : κ) → answer a → σ → Prop}
  {later : σ → σ → Prop}

/-- Each call is where its log has led, and the log is of what happened, in the
order in which it did. -/
structure SoundCall (code : ι → Program answer ρ) (exec : σ → (a : κ) → answer a → σ → Prop)
    (later : σ → σ → Prop) (shared : σ) (c : Call answer ρ σ ι) : Prop where
  reaches : Reaches (code c.request) c.log c.now
  happened : ∀ e ∈ c.log, ∃ after, exec e.before e.action e.reply after
  inOrder : c.log.Pairwise fun e f => later e.before f.before
  past : ∀ e ∈ c.log, later e.before shared

/-- What each action keeps of the shared state, from then on. -/
structure Keeps (exec : σ → (a : κ) → answer a → σ → Prop) (later : σ → σ → Prop) : Prop where
  trans : ∀ r s t, later r s → later s t → later r t
  step : ∀ s a reply t, exec s a reply t → later s t

theorem SoundCall.mono (hkeeps : Keeps exec later) {s t : σ} (hlater : later s t)
    {c : Call answer ρ σ ι} (h : SoundCall code exec later s c) :
    SoundCall code exec later t c :=
  ⟨h.reaches, h.happened, h.inOrder, fun e he => hkeeps.trans _ _ _ (h.past e he) hlater⟩

/-- An action done. -/
theorem SoundCall.act (hkeeps : Keeps exec later) {request : ι} {log : List (Entry answer σ)}
    {a : κ} {next : answer a → Program answer ρ} {reply : answer a} {before after : σ}
    (done : exec before a reply after)
    (h : SoundCall code exec later before ⟨request, log, .act a next⟩) :
    SoundCall code exec later after
      ⟨request, log ++ [⟨a, reply, before⟩], next reply⟩ := by
  obtain ⟨hreaches, hhappened, hinOrder, hpast⟩ := h
  have hstep := hkeeps.step _ _ _ _ done
  refine ⟨hreaches.snoc reply before, ?_, ?_, ?_⟩
  · intro e he
    rcases List.mem_append.mp he with hold | hnew
    · exact hhappened e hold
    · obtain rfl := List.mem_singleton.mp hnew
      exact ⟨after, done⟩
  · refine List.pairwise_append.mpr ⟨hinOrder, List.pairwise_singleton _ _, ?_⟩
    intro e he f hf
    obtain rfl := List.mem_singleton.mp hf
    exact hpast e he
  · intro e he
    rcases List.mem_append.mp he with hold | hnew
    · exact hkeeps.trans _ _ _ (hpast e hold) hstep
    · obtain rfl := List.mem_singleton.mp hnew
      exact hstep

/-- All calls of a system are sound. -/
def Sound (code : ι → Program answer ρ) (exec : σ → (a : κ) → answer a → σ → Prop)
    (later : σ → σ → Prop) (s : System answer ρ σ ι) : Prop :=
  ∀ c ∈ s.calls, SoundCall code exec later s.shared c

theorem Sound.step (hkeeps : Keeps exec later) (s : System answer ρ σ ι) (move : Option ι)
    (t : System answer ρ σ ι) (h : Sound code exec later s) (hstep : Step code exec s move t) :
    Sound code exec later t := by
  cases hstep with
  | begins request =>
      intro c hc
      rcases List.mem_append.mp hc with hold | hnew
      · exact h c hold
      · obtain rfl := List.mem_singleton.mp hnew
        exact ⟨.nil _, by simp, List.Pairwise.nil, by simp⟩
  | acts earlier later request log next reply done =>
      intro c hc
      have hmono := hkeeps.step _ _ _ _ done
      rcases List.mem_append.mp hc with hearlier | hrest
      · exact (h c (List.mem_append_left _ hearlier)).mono hkeeps hmono
      · rcases List.mem_cons.mp hrest with rfl | hlater
        · exact (h _ (List.mem_append_right _ List.mem_cons_self)).act hkeeps done
        · exact (h c (List.mem_append_right _ (List.mem_cons_of_mem _ hlater))).mono hkeeps hmono

/-- **Soundness.**  From a system without calls every run leads to a sound one. -/
theorem Sound.run (hkeeps : Keeps exec later) {shared : σ} {moves : List (Option ι)}
    {s : System answer ρ σ ι} (h : Run (Step code exec) ⟨shared, []⟩ moves s) :
    Sound code exec later s :=
  h.invariant (Sound.step hkeeps) fun _ hc => absurd hc List.not_mem_nil

/-! ## Counts -/

/-- The sum of a quantity over a list. -/
def sumOf {α : Type} (f : α → Nat) : List α → Nat
  | [] => 0
  | x :: rest => f x + sumOf f rest

theorem sumOf_append {α : Type} (f : α → Nat) (xs ys : List α) :
    sumOf f (xs ++ ys) = sumOf f xs + sumOf f ys := by
  induction xs with
  | nil => simp [sumOf]
  | cons x rest ih => simp [sumOf, ih, Nat.add_assoc]

theorem sumOf_congr {α : Type} {f g : α → Nat} {xs : List α} (h : ∀ x ∈ xs, f x = g x) :
    sumOf f xs = sumOf g xs := by
  induction xs with
  | nil => rfl
  | cons x rest ih =>
      obtain ⟨hx, hrest⟩ := List.forall_mem_cons.mp h
      rw [sumOf, sumOf, hx, ih hrest]

theorem sumOf_add {α : Type} (f g : α → Nat) (xs : List α) :
    sumOf (fun x => f x + g x) xs = sumOf f xs + sumOf g xs := by
  induction xs with
  | nil => rfl
  | cons x rest ih =>
      rw [sumOf, sumOf, sumOf, ih]
      omega

theorem sumOf_filter {α : Type} (p : α → Bool) (f : α → Nat) (xs : List α) :
    sumOf (fun x => if p x then f x else 0) xs = sumOf f (xs.filter p) := by
  induction xs with
  | nil => rfl
  | cons x rest ih =>
      by_cases hp : p x = true
      · rw [sumOf, ih, if_pos hp, List.filter_cons_of_pos hp, sumOf]
      · rw [sumOf, ih, if_neg hp, List.filter_cons_of_neg hp, Nat.zero_add]

theorem sumOf_one {α : Type} (xs : List α) : sumOf (fun _ => 1) xs = xs.length := by
  induction xs with
  | nil => rfl
  | cons x rest ih => rw [sumOf, ih, List.length_cons, Nat.add_comm]

/-- What the actions of all calls weigh. -/
def weighed (weight : Entry answer σ → Nat) (calls : List (Call answer ρ σ ι)) : Nat :=
  sumOf (fun c => sumOf weight c.log) calls

/-- **Counts.**  If each action moves the count the shared state keeps by what it
weighs, the state keeps the sum over all actions of all calls, however they
were interleaved. -/
theorem counts_run (counts : σ → Nat → Prop) (weight : Entry answer σ → Nat)
    (hweighs : ∀ before a reply after n, counts before n → exec before a reply after →
      counts after (n + weight ⟨a, reply, before⟩))
    {shared : σ} (hstart : counts shared 0) {moves : List (Option ι)} {s : System answer ρ σ ι}
    (h : Run (Step code exec) ⟨shared, []⟩ moves s) :
    counts s.shared (weighed weight s.calls) := by
  have hstep : ∀ (s : System answer ρ σ ι) move t, counts s.shared (weighed weight s.calls) →
      Step code exec s move t → counts t.shared (weighed weight t.calls) := by
    intro s move t hcounts hstep
    cases hstep with
    | begins request => simpa [weighed, sumOf_append, sumOf] using hcounts
    | acts earlier later request log next reply done =>
        have hmoved := hweighs _ _ _ _ _ hcounts done
        simp only [weighed, sumOf_append, sumOf, Nat.add_zero] at hmoved ⊢
        rw [show ∀ x y z w : Nat, x + (y + z + w) = x + (y + w) + z by omega]
        exact hmoved
  exact h.invariant hstep hstart

end AtomicCalls
