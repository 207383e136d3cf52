/-
PetParadise.Store.Audit — what the history of a pool shows.

The history of a pool is its audit log: every statement that was executed,
by which thread and in which store. `Audited K Q c` says that each event of
the log satisfies `Q` given the events before it, because each thread's
program satisfies `K` given the log so far and the store. `audited_run` is
the rule: it is enough that executing one statement shows `Q` of it and
keeps `K`, of its own thread and of the others.

`run_rel` is the rule for what needs no log: a relation that every
statement keeps holds between the first and the last store. `run_log` is
the same for a relation that may refer to what was executed in between.
-/
import Mathlib.Data.List.Induction
import PetParadise.Store.Pool

namespace PetParadise.Store.Pool

variable {σ ω ε α : Type} {exec : ω → σ → Except ε σ}

/-- Where an element of a list with one more at its end stands. -/
theorem split_concat {β : Type} {l pre post : List β} {a b : β}
    (h : l ++ [a] = pre ++ b :: post) : (pre = l ∧ b = a) ∨ ∃ post', l = pre ++ b :: post' := by
  rcases List.eq_nil_or_concat post with rfl | ⟨post', c, rfl⟩
  · obtain ⟨hl, hab⟩ := List.append_inj' h rfl
    exact .inl ⟨hl.symm, (List.singleton_inj.mp hab).symm⟩
  · rw [List.concat_eq_append, ← List.cons_append, ← List.append_assoc] at h
    exact .inr ⟨post', (List.append_inj' h rfl).1⟩

/-- Every thread is as `K` says, and every event as `Q` says. -/
structure Audited (K : Nat → List (Event σ ω) → σ → Prog σ ω ε α → Prop)
    (Q : List (Event σ ω) → Event σ ω → Prop) (c : Pool σ ω ε α) : Prop where
  threads : ∀ i p, c.threads[i]? = some p → K i c.history c.store p
  events : ∀ pre e post, c.history = pre ++ e :: post → Q pre e

section Audited

variable {K : Nat → List (Event σ ω) → σ → Prog σ ω ε α → Prop}
  {Q : List (Event σ ω) → Event σ ω → Prop}

/-- Other threads' events do not matter to a thread, a refused statement
ends it, and a statement is what it promised. -/
structure Audits (exec : ω → σ → Except ε σ)
    (K : Nat → List (Event σ ω) → σ → Prog σ ω ε α → Prop)
    (Q : List (Event σ ω) → Event σ ω → Prop) : Prop where
  later : ∀ i h e s' p, e.thread ≠ i → exec e.stmt e.before = .ok s' → K i h e.before p →
    K i (h ++ [e]) s' p
  refused : ∀ i h w k s e, K i h s (.stmt w k) → exec w s = .error e → K i h s (.raise e)
  executed : ∀ i h w k s s', K i h s (.stmt w k) → exec w s = .ok s' →
    Q h ⟨i, s, w⟩ ∧ K i (h ++ [⟨i, s, w⟩]) s' (k s)

theorem audited_step (hK : Audits exec K Q) {c : Pool σ ω ε α} (h : c.Audited K Q) (i : Nat) :
    (step exec c i).Audited K Q := by
  rcases step_cases exec c i with ⟨w, k, s', hi, hw, hs⟩ | ⟨w, k, e, hi, hw, hs⟩ | hs
  · obtain ⟨hQ, hnext⟩ := hK.executed i c.history w k c.store s' (h.threads i _ hi) hw
    rw [hs]
    constructor
    · intro j p hj
      by_cases hji : i = j
      · subst hji
        rw [List.getElem?_set_self', hi] at hj
        cases hj
        exact hnext
      · rw [List.getElem?_set_ne hji] at hj
        exact hK.later j _ _ s' p hji hw (h.threads j p hj)
    · intro pre e post hsplit
      rcases split_concat hsplit with ⟨rfl, rfl⟩ | ⟨post', hold⟩
      · exact hQ
      · exact h.events pre e post' hold
  · rw [hs]
    refine ⟨fun j p hj => ?_, h.events⟩
    by_cases hji : i = j
    · subst hji
      rw [List.getElem?_set_self', hi] at hj
      cases hj
      exact hK.refused i _ w k _ e (h.threads i _ hi) hw
    · rw [List.getElem?_set_ne hji] at hj
      exact h.threads j p hj
  · rw [hs]
    exact h

theorem audited_run (hK : Audits exec K Q) {c : Pool σ ω ε α} (h : c.Audited K Q)
    (schedule : List Nat) : (run exec c schedule).Audited K Q := by
  induction schedule generalizing c with
  | nil => exact h
  | cons i schedule ih => exact ih (audited_step hK h i)

end Audited

/-- A relation between two stores and what led from the first to the
second, kept by one more event. -/
theorem run_log {R : List (Event σ ω) → σ → σ → Prop} (hrefl : ∀ s, R [] s s)
    (hexec : ∀ log s e s', R log s e.before → exec e.stmt e.before = .ok s' →
      R (log ++ [e]) s s') (c : Pool σ ω ε α) (schedule : List Nat) :
    ∃ log, (run exec c schedule).history = c.history ++ log ∧
      R log c.store (run exec c schedule).store := by
  -- the schedule is followed from its end, since a relation grows by its last event
  induction schedule using List.reverseRecOn with
  | nil => exact ⟨[], (List.append_nil _).symm, hrefl _⟩
  | append_singleton schedule i ih =>
    obtain ⟨log, hlog, hR⟩ := ih
    rw [run, List.foldl_append, List.foldl_cons, List.foldl_nil]
    rcases step_cases exec (run exec c schedule) i with
      ⟨w, k, s', -, hw, hs⟩ | ⟨w, k, e, -, -, hs⟩ | hs
    · refine ⟨log ++ [⟨i, (run exec c schedule).store, w⟩], ?_, ?_⟩
      · rw [← run, hs, hlog, List.append_assoc]
      · rw [← run, hs]
        exact hexec log _ ⟨i, _, w⟩ s' hR hw
    · rw [← run, hs]
      exact ⟨log, hlog, hR⟩
    · rw [← run, hs]
      exact ⟨log, hlog, hR⟩

/-- A relation that every statement keeps. -/
theorem run_rel {R : σ → σ → Prop} (hrefl : ∀ s, R s s) (htrans : ∀ s t u, R s t → R t u → R s u)
    (hexec : ∀ w s s', exec w s = .ok s' → R s s') (c : Pool σ ω ε α) (schedule : List Nat) :
    R c.store (run exec c schedule).store := by
  obtain ⟨_, -, hR⟩ := run_log (R := fun _ => R) hrefl
    (fun _ s e s' h he => htrans s e.before s' h (hexec e.stmt e.before s' he)) c schedule
  exact hR

end PetParadise.Store.Pool
