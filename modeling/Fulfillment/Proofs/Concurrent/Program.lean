import Mathlib.Logic.Relation

/-!
# Programs of atomic steps and rely-guarantee reasoning

The services are written over any monad. Run in `Prog σ`, each call a service makes to a store
is one atomic step on a state `σ` shared with other programs, so that running several services
side by side is interleaving their steps (`Pool`, in the next module).

`Sat R G P c Q` is a rely-guarantee judgment: started in a state satisfying `P`, with any number
of steps of other programs (`R`) between its own, every step `c` takes is a `G` step, and when it
finishes with `a` the state satisfies `Q a`. Every assertion on the way is `Stable` under `R`, so
nothing another program does can falsify what `c` knows. The rules below (`ret`, `atomic`, `bind`,
consequence, `frame`) are what every later proof about a service is assembled from.
-/

namespace Fulfillment

/-- A program on a shared state `σ`: finished with a value, or about to take the atomic step
`act` and go on as `next` of the state that step saw. -/
inductive Prog (σ α : Type) where
  | ret (a : α)
  | step (act : σ → σ) (next : σ → Prog σ α)

namespace Prog

variable {σ α β γ : Type}

/-- Runs `c`, then `k` of its value. -/
def bind : Prog σ α → (α → Prog σ β) → Prog σ β
  | ret a, k => k a
  | step act next, k => step act fun s => (next s).bind k

instance : Monad (Prog σ) where
  pure := ret
  bind := bind

/-- One atomic step that reads the state, changes it and gives a value. -/
def atomic (f : σ → α × σ) : Prog σ α := step (fun s => (f s).2) fun s => ret (f s).1

@[simp] theorem pure_eq (a : α) : (pure a : Prog σ α) = ret a := rfl

theorem bind_eq (c : Prog σ α) (k : α → Prog σ β) : c >>= k = c.bind k := rfl

@[simp] theorem ret_bind (a : α) (k : α → Prog σ β) : (ret a).bind k = k a := rfl

theorem bind_assoc (c : Prog σ α) (k : α → Prog σ β) (l : β → Prog σ γ) :
    (c.bind k).bind l = c.bind fun a => (k a).bind l := by
  induction c with
  | ret a => rfl
  | step act next ih => simp only [bind, ih]

/-! ## Rely and guarantee -/

/-- `P` survives every `R` step. -/
def Stable (R : σ → σ → Prop) (P : σ → Prop) : Prop := ∀ ⦃s s'⦄, R s s' → P s → P s'

theorem Stable.and {R : σ → σ → Prop} {P P' : σ → Prop} (h : Stable R P) (h' : Stable R P') :
    Stable R fun s => P s ∧ P' s :=
  fun _ _ hr hp => ⟨h hr hp.1, h' hr hp.2⟩

theorem Stable.mono {R R' : σ → σ → Prop} {P : σ → Prop} (h : Stable R P)
    (hr : ∀ s s', R' s s' → R s s') : Stable R' P :=
  fun _ _ hr' => h (hr _ _ hr')

theorem stable_const {R : σ → σ → Prop} (p : Prop) : Stable R fun _ => p := fun _ _ _ h => h

/-- Rely-guarantee correctness: from a state satisfying `P`, with `R` steps of others in
between, `c` takes only `G` steps and finishes with `a` in a state satisfying `Q a`. A step is
justified by an intermediate assertion `M s` about the state after it, for the state `s` it saw. -/
inductive Sat (R G : σ → σ → Prop) : (σ → Prop) → Prog σ α → (α → σ → Prop) → Prop
  | ret {P : σ → Prop} {Q : α → σ → Prop} {a : α} :
      Stable R P → (∀ s, P s → Q a s) → Sat R G P (ret a) Q
  | step {P : σ → Prop} {Q : α → σ → Prop} {act : σ → σ} {next : σ → Prog σ α}
      (M : σ → σ → Prop) : Stable R P → (∀ s, Stable R (M s)) →
      (∀ s, P s → G s (act s) ∧ M s (act s)) → (∀ s, P s → Sat R G (M s) (next s) Q) →
      Sat R G P (step act next) Q

variable {R G R' G' : σ → σ → Prop} {P P' F : σ → Prop} {Q Q' : α → σ → Prop}

theorem Sat.stable {c : Prog σ α} (h : Sat R G P c Q) : Stable R P := by
  cases h with
  | ret hs _ => exact hs
  | step _ hs _ _ _ => exact hs

/-- Consequence on the precondition. -/
theorem Sat.pre {c : Prog σ α} (h : Sat R G P' c Q) (hs : Stable R P) (hp : ∀ s, P s → P' s) :
    Sat R G P c Q := by
  cases h with
  | ret _ hq => exact .ret hs fun s h => hq s (hp s h)
  | step M _ hm hstep hnext =>
    exact .step M hs hm (fun s h => hstep s (hp s h)) fun s h => hnext s (hp s h)

/-- A fact that holds of no particular state can be assumed when proving a judgment. -/
theorem Sat.of_pure {p : Prop} {c : Prog σ α} (h : p → Sat R G P c Q) (hs : Stable R P) :
    Sat R G (fun s => P s ∧ p) c Q := by
  by_cases hp : p
  · exact (h hp).pre (hs.and (stable_const p)) fun s h => h.1
  · cases c with
    | ret a => exact .ret (hs.and (stable_const p)) fun s h => absurd h.2 hp
    | step act next =>
      exact .step (fun _ _ => False) (hs.and (stable_const p)) (fun _ _ _ _ h => h)
        (fun s h => absurd h.2 hp) fun s h => absurd h.2 hp

/-- A program started from no state at all satisfies any judgment. -/
theorem Sat.of_false {c : Prog σ α} (h : ∀ s, ¬ P s) : Sat R G P c Q :=
  (Sat.of_pure (p := False) (fun hf => hf.elim) (stable_const True)).pre
    (fun s _ _ hp => (h s hp).elim) fun s hp => (h s hp).elim

/-- Consequence on the postcondition. -/
theorem Sat.post {c : Prog σ α} (h : Sat R G P c Q) (hq : ∀ a s, Q a s → Q' a s) :
    Sat R G P c Q' := by
  induction h with
  | ret hs hq' => exact .ret hs fun s h => hq _ s (hq' s h)
  | step M hs hm hstep _ ih => exact .step M hs hm hstep fun s h => ih s h hq

/-- A program keeps its judgment under less interference and a weaker guarantee. -/
theorem Sat.mono {c : Prog σ α} (h : Sat R G P c Q) (hr : ∀ s s', R' s s' → R s s')
    (hg : ∀ s s', G s s' → G' s s') : Sat R' G' P c Q := by
  induction h with
  | ret hs hq => exact .ret (hs.mono hr) hq
  | step M hs hm hstep _ ih =>
    exact .step M (hs.mono hr) (fun s => (hm s).mono hr)
      (fun s h => ⟨hg _ _ (hstep s h).1, (hstep s h).2⟩) ih

theorem Sat.ret' {a : α} (hs : Stable R P) (hq : ∀ s, P s → Q a s) :
    Sat R G P (pure a : Prog σ α) Q :=
  .ret hs hq

/-- The rule for one atomic step: its change must be a `G` step, and it must establish a
stable postcondition. -/
theorem Sat.atomic {f : σ → α × σ} (hs : Stable R P) (hq : ∀ a, Stable R (Q a))
    (h : ∀ s, P s → G s (f s).2 ∧ Q (f s).1 (f s).2) : Sat R G P (Prog.atomic f) Q :=
  .step (fun s => Q (f s).1) hs (fun _ => hq _) h fun _ _ => .ret (hq _) fun _ h => h

/-- Sequencing: what the first program establishes is what the rest starts from. -/
theorem Sat.bind {c : Prog σ α} {k : α → Prog σ β} {S : β → σ → Prop} (h : Sat R G P c Q)
    (hk : ∀ a, Sat R G (Q a) (k a) S) : Sat R G P (c >>= k) S := by
  induction h with
  | ret hs hq => exact (hk _).pre hs hq
  | step M hs hm hstep _ ih => exact .step M hs hm hstep fun s h => ih s h hk

/-- A `pure` step takes no step at all. -/
theorem Sat.pure_bind {a : α} {k : α → Prog σ β} {S : β → σ → Prop} (h : Sat R G P (k a) S) :
    Sat R G P (pure a >>= k) S :=
  h

theorem Sat.ite {c : Prop} [Decidable c] {a b : Prog σ α} (ha : Sat R G P a Q)
    (hb : Sat R G P b Q) : Sat R G P (if c then a else b) Q := by
  split
  · exact ha
  · exact hb

/-- Framing: a fact that neither the program nor its environment can break holds throughout,
in particular before every step the program takes. -/
theorem Sat.frame {c : Prog σ α} (h : Sat R G P c Q) (hr : Stable R F) (hg : Stable G F) :
    Sat R (fun s s' => G s s' ∧ F s) (fun s => P s ∧ F s) c fun a s => Q a s ∧ F s := by
  induction h with
  | ret hs hq => exact .ret (hs.and hr) fun s h => ⟨hq s h.1, h.2⟩
  | step M hs hm hstep _ ih =>
    refine .step (fun s s' => M s s' ∧ F s') (hs.and hr) (fun s => (hm s).and hr)
      (fun s h => ?_) fun s h => ih s h.1
    have hs' := hstep s h.1
    exact ⟨⟨hs'.1, h.2⟩, hs'.2, hg hs'.1 h.2⟩

/-- A fact that neither the program nor its environment can break is kept to the end. -/
theorem Sat.keep {c : Prog σ α} (h : Sat R G P c Q) (hr : Stable R F) (hg : Stable G F) :
    Sat R G (fun s => P s ∧ F s) c fun a s => Q a s ∧ F s :=
  (h.frame hr hg).mono (fun _ _ h => h) fun _ _ h => h.1

/-- Two judgments of one program hold together: its steps are steps of both guarantees, and it
keeps both sets of assertions. -/
theorem Sat.and {G₁ G₂ : σ → σ → Prop} {P₁ P₂ : σ → Prop} {Q₁ Q₂ : α → σ → Prop} {c : Prog σ α}
    (h₁ : Sat R G₁ P₁ c Q₁) (h₂ : Sat R G₂ P₂ c Q₂) :
    Sat R (fun s s' => G₁ s s' ∧ G₂ s s') (fun s => P₁ s ∧ P₂ s) c
      fun a s => Q₁ a s ∧ Q₂ a s := by
  induction h₁ generalizing P₂ with
  | ret hs hq =>
    cases h₂ with
    | ret hs₂ hq₂ => exact .ret (hs.and hs₂) fun s h => ⟨hq s h.1, hq₂ s h.2⟩
  | step M hs hm hstep _ ih =>
    cases h₂ with
    | step M₂ hs₂ hm₂ hstep₂ hnext₂ =>
      -- each step is justified by both assertions at once
      refine .step (fun s s' => M s s' ∧ M₂ s s') (hs.and hs₂) (fun s => (hm s).and (hm₂ s))
        (fun s h => ?_) fun s h => ih s h.1 (hnext₂ s h.2)
      exact ⟨⟨(hstep s h.1).1, (hstep₂ s h.2).1⟩, (hstep s h.1).2, (hstep₂ s h.2).2⟩

/-- An auxiliary variable of a judgment can be hidden: if `c` satisfies the judgment for every
value `k`, it satisfies it for "some `k`" on both sides. -/
theorem Sat.exists {ι : Type} {c : Prog σ α} {P : ι → σ → Prop} {Q : ι → α → σ → Prop}
    (h : ∀ k, Sat R G (P k) c (Q k)) :
    Sat R G (fun s => ∃ k, P k s) c fun a s => ∃ k, Q k a s := by
  induction c generalizing ι with
  | ret a =>
    refine .ret (fun s s' hr ⟨k, hk⟩ => ⟨k, (h k).stable hr hk⟩) fun s ⟨k, hk⟩ => ?_
    cases h k with
    | ret _ hq => exact ⟨k, hq s hk⟩
  | step act next ih =>
    -- each `k` justifies the step by its own assertion; keep them all, as data
    let J := {p : ι × (σ → σ → Prop) // (∀ s, Stable R (p.2 s)) ∧
      (∀ s, P p.1 s → G s (act s) ∧ p.2 s (act s)) ∧
      ∀ s, P p.1 s → Sat R G (p.2 s) (next s) (Q p.1)}
    have hJ : ∀ k s, P k s → ∃ j : J, j.1.1 = k := fun k s hk => by
      cases h k with
      | step M _ hm hstep hnext => exact ⟨⟨(k, M), hm, hstep, hnext⟩, rfl⟩
    refine .step (fun s s' => ∃ j : {j : J // P j.1.1 s}, j.1.1.2 s s')
      (fun s s' hr ⟨k, hk⟩ => ⟨k, (h k).stable hr hk⟩)
      (fun s s' s'' hr ⟨j, hj⟩ => ⟨j, j.1.2.1 s hr hj⟩) (fun s ⟨k, hk⟩ => ?_) fun s _ => ?_
    · obtain ⟨j, rfl⟩ := hJ k s hk
      exact ⟨(j.2.2.1 s hk).1, ⟨j, hk⟩, (j.2.2.1 s hk).2⟩
    · exact (ih s fun j : {j : J // P j.1.1 s} => j.1.2.2.2 s j.2).post
        fun a s ⟨j, hq⟩ => ⟨j.1.1.1, hq⟩

end Prog

end Fulfillment
