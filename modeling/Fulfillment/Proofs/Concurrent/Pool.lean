import Fulfillment.Proofs.Concurrent.Program

/-!
# Pools of programs and their interleavings

A pool is a shared state with the programs still running on it. A `Pool.Step` lets one program
take its next atomic step, or lets the environment `E` (the clock, a cancellation) change the
state; a run of the pool is any sequence of such steps, so it covers every interleaving.

Thread `i` of a pool relies on the environment and on the guarantees `G j` of the other threads
(`Pool.Rely`). `Safe` says every thread satisfies its rely-guarantee judgment from the current
state. It is kept by every step (`Safe.step`), hence along every run (`Safe.reach`), and then:

* a fact that every guarantee and the environment keep holds in every reachable state
  (`Safe.invariant`), and along every run from there (`Safe.stable`);
* a finished thread's value satisfies its postcondition (`Safe.finished`).

A pool that runs a list of calls is safe from the start when each call satisfies its judgment
(`safe_calls`). A schedule, the list of threads that step in turn, picks one run
(`reach_schedule`), so a run can be computed.
-/

namespace Fulfillment

namespace Pool

variable {σ α : Type}

/-- One step of a pool: a running program takes its next atomic step, or the environment
changes the state. -/
inductive Step (E : σ → σ → Prop) : σ × List (Prog σ α) → σ × List (Prog σ α) → Prop
  | run {s : σ} {ts : List (Prog σ α)} {i : Nat} {act : σ → σ} {next : σ → Prog σ α} :
      ts[i]? = some (.step act next) → Step E (s, ts) (act s, ts.set i (next s))
  | env {s s' : σ} {ts : List (Prog σ α)} : E s s' → Step E (s, ts) (s', ts)

/-- What thread `i` puts up with: the environment and the guarantee of every other thread. -/
def Rely (E : σ → σ → Prop) (G : Nat → σ → σ → Prop) (i : Nat) (s s' : σ) : Prop :=
  E s s' ∨ ∃ j, j ≠ i ∧ G j s s'

/-- Every thread of the pool satisfies its judgment from the current state. -/
def Safe (E : σ → σ → Prop) (G : Nat → σ → σ → Prop) (Q : Nat → α → σ → Prop)
    (c : σ × List (Prog σ α)) : Prop :=
  ∀ i t, c.2[i]? = some t → ∃ P : σ → Prop, P c.1 ∧ Prog.Sat (Rely E G i) (G i) P t (Q i)

variable {E : σ → σ → Prop} {G : Nat → σ → σ → Prop} {Q : Nat → α → σ → Prop}
  {c c' : σ × List (Prog σ α)}

/-- A step keeps the pool safe, and it is an environment step or a step some thread
guarantees. -/
theorem Safe.step (h : Safe E G Q c) (hs : Step E c c') :
    Safe E G Q c' ∧ (E c.1 c'.1 ∨ ∃ i, G i c.1 c'.1) := by
  cases hs with
  | @run s ts i act next hi =>
    obtain ⟨P, hp, hsat⟩ := h i _ hi
    cases hsat with
    | step M _ _ hstep hnext =>
      obtain ⟨hg, hm⟩ := hstep s hp
      refine ⟨fun j t hj => ?_, .inr ⟨i, hg⟩⟩
      by_cases hji : j = i
      · subst hji
        have hlt : j < ts.length := (List.getElem?_eq_some_iff.mp hi).1
        rw [List.getElem?_set_self hlt] at hj
        cases hj
        exact ⟨M s, hm, hnext s hp⟩
      · rw [List.getElem?_set_ne (Ne.symm hji)] at hj
        obtain ⟨P', hp', hsat'⟩ := h j t hj
        exact ⟨P', hsat'.stable (.inr ⟨i, Ne.symm hji, hg⟩) hp', hsat'⟩
  | @env s s' ts he =>
    refine ⟨fun j t hj => ?_, .inl he⟩
    obtain ⟨P, hp, hsat⟩ := h j t hj
    exact ⟨P, hsat.stable (.inl he) hp, hsat⟩

/-- A step keeps the number of threads. -/
theorem Step.length (hs : Step E c c') : c'.2.length = c.2.length := by
  cases hs with
  | run _ => exact List.length_set ..
  | env _ => rfl

/-- A run keeps the number of threads. -/
theorem length_of_reach (hr : Relation.ReflTransGen (Step E) c c') : c'.2.length = c.2.length := by
  induction hr with
  | refl => rfl
  | tail _ hs ih => exact hs.length.trans ih

/-- Safety holds along every run. -/
theorem Safe.reach (h : Safe E G Q c) (hr : Relation.ReflTransGen (Step E) c c') :
    Safe E G Q c' := by
  induction hr with
  | refl => exact h
  | tail _ hs ih => exact (ih.step hs).1

/-- A fact kept by every guarantee and by the environment holds along every run. -/
theorem Safe.stable {I : σ → Prop} (hI : ∀ i, Prog.Stable (G i) I) (hE : Prog.Stable E I)
    (h : Safe E G Q c) (hr : Relation.ReflTransGen (Step E) c c') (hc : I c.1) : I c'.1 := by
  induction hr with
  | refl => exact hc
  | tail hr' hs ih =>
    rcases ((h.reach hr').step hs).2 with he | ⟨i, hg⟩
    · exact hE he ih
    · exact hI i hg ih

/-- An invariant of the guarantees and the environment holds in every reachable state. -/
theorem Safe.invariant {I : σ → Prop} (hI : ∀ i, Prog.Stable (G i) I) (hE : Prog.Stable E I)
    (h : Safe E G Q c) (hc : I c.1) (hr : Relation.ReflTransGen (Step E) c c') : I c'.1 :=
  h.stable hI hE hr hc

/-- A thread that has finished leaves its postcondition in the current state. -/
theorem Safe.finished (h : Safe E G Q c) {i : Nat} {a : α} (hi : c.2[i]? = some (.ret a)) :
    Q i a c.1 := by
  obtain ⟨P, hp, hsat⟩ := h i _ hi
  cases hsat with
  | ret _ hq => exact hq _ hp

/-- A pool whose threads each satisfy their judgment from a start state is safe there. -/
theorem safe_start {s : σ} {ts : List (Prog σ α)} (P : Nat → σ → Prop)
    (hp : ∀ i, i < ts.length → P i s)
    (h : ∀ i t, ts[i]? = some t → Prog.Sat (Rely E G i) (G i) (P i) t (Q i)) :
    Safe E G Q (s, ts) :=
  fun i t hi => ⟨P i, hp i (List.getElem?_eq_some_iff.mp hi).1, h i t hi⟩

/-- A pool that runs a list of calls, thread `i` running the `i`-th, is safe at a state every
call may start from, when each call satisfies its judgment from its start; a thread that
finishes answers as its call promises. -/
theorem safe_calls {C : Type} {calls : List C} {run : Nat → C → Prog σ α}
    {Start : Nat → C → σ → Prop} {Ans : Nat → C → α → σ → Prop} {s : σ}
    (hs : ∀ i c, calls[i]? = some c → Start i c s)
    (h : ∀ i c, calls[i]? = some c → Prog.Sat (Rely E G i) (G i) (Start i c) (run i c) (Ans i c)) :
    Safe E G (fun i a s => ∀ c, calls[i]? = some c → Ans i c a s) (s, calls.mapIdx run) := by
  refine safe_start (fun i s => ∀ c, calls[i]? = some c → Start i c s)
    (fun i _ c hc => hs i c hc) fun i t ht => ?_
  simp only [List.getElem?_mapIdx, Option.map_eq_some_iff] at ht
  obtain ⟨c, hc, rfl⟩ := ht
  -- thread `i` runs one call, so what is said of every call it might run is said of that one
  have hpre : Prog.Stable (Rely E G i) fun s => ∀ c', calls[i]? = some c' → Start i c' s :=
    fun s s' hr hp c' hc' => by
      obtain rfl := Option.some.inj (hc.symm.trans hc')
      exact (h i c hc).stable hr (hp c hc)
  refine ((h i c hc).pre hpre fun s hp => hp c hc).post fun a s hq c' hc' => ?_
  obtain rfl := Option.some.inj (hc.symm.trans hc')
  exact hq

/-! ## Runs by a schedule -/

/-- Thread `i` takes its next step, if it has one left. -/
def advance (i : Nat) (c : σ × List (Prog σ α)) : σ × List (Prog σ α) :=
  match c.2[i]? with
  | some (.step act next) => (act c.1, c.2.set i (next c.1))
  | _ => c

/-- The run in which the threads a schedule names take their steps in that order. -/
def schedule (c : σ × List (Prog σ α)) : List Nat → σ × List (Prog σ α)
  | [] => c
  | i :: is => schedule (advance i c) is

theorem reach_advance (i : Nat) (c : σ × List (Prog σ α)) :
    Relation.ReflTransGen (Step E) c (advance i c) := by
  obtain ⟨s, ts⟩ := c
  unfold advance
  split
  · rename_i act next h
    exact .single (.run h)
  · exact .refl

/-- Every schedule is a run of the pool. -/
theorem reach_schedule (c : σ × List (Prog σ α)) (is : List Nat) :
    Relation.ReflTransGen (Step E) c (schedule c is) := by
  induction is generalizing c with
  | nil => exact .refl
  | cons i is ih => exact (reach_advance i c).trans (ih _)

/-- The values of a pool whose threads have all finished. -/
def values : List (Prog σ α) → Option (List α)
  | [] => some []
  | .ret a :: ts => (values ts).map (a :: ·)
  | .step .. :: _ => none

theorem eq_map_ret_of_values {ts : List (Prog σ α)} {rs : List α} (h : values ts = some rs) :
    ts = rs.map Prog.ret := by
  induction ts generalizing rs with
  | nil =>
    cases h
    rfl
  | cons t ts ih =>
    cases t with
    | ret a =>
      obtain ⟨rs', hrs', rfl⟩ := Option.map_eq_some_iff.mp h
      rw [List.map_cons, ih hrs']
    | step act next => cases h

end Pool

end Fulfillment
