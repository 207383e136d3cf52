/-
PetParadise.Store.Simulation — an implementation and the machine it is
meant to be.

A `Machine` is the specification: its states, the events that can happen
to it, what each event does, and which events an actor may cause in which
state. A `Simulation` reads the states of a transition function as states
of the machine (`view`) and shows that every step, seen that way, is one
event its actor may cause. `Simulation.history` lifts this to runs: what a
whole run of the implementation did is a history of the machine, by the
same actors in the same order.
-/
import PetParadise.Store.Runs

namespace PetParadise.Store

/-- A specification: who may cause what, and what happens then. -/
structure Machine (τ ε α : Type) where
  may : α → τ → ε → Prop
  apply : τ → ε → τ

namespace Machine

variable {τ ε α : Type} (M : Machine τ ε α)

/-- The state after some events. -/
def after (t : τ) (es : List (α × ε)) : τ := es.foldl (fun t e => M.apply t e.2) t

/-- Every event is one its actor may cause in the state it meets. -/
def History (t : τ) (es : List (α × ε)) : Prop :=
  Along (fun t (e : α × ε) => M.apply t e.2) (fun t e => M.may e.1 t e.2) t es

end Machine

variable {σ ρ τ ε α : Type}

/-- Who acts in each step of a run. -/
def actors (step : σ → ρ → σ) (actor : σ → ρ → α) : σ → List ρ → List α
  | _, [] => []
  | s, r :: rs => actor s r :: actors step actor (step s r) rs

/-- Each step of the implementation is one event of the machine. -/
structure Simulation (step : σ → ρ → σ) (M : Machine τ ε α) where
  inv : σ → Prop
  view : σ → τ
  actor : σ → ρ → α
  keeps : ∀ s r, inv s → inv (step s r)
  matched : ∀ s r, inv s →
    ∃ e, M.may (actor s r) (view s) e ∧ view (step s r) = M.apply (view s) e

/-- A run of the implementation is a history of the machine. -/
theorem Simulation.history {step : σ → ρ → σ} {M : Machine τ ε α} (S : Simulation step M) {s : σ}
    (hs : S.inv s) (rs : List ρ) :
    ∃ es, es.map Prod.fst = actors step S.actor s rs ∧ M.History (S.view s) es ∧
      S.view (rs.foldl step s) = M.after (S.view s) es := by
  induction rs generalizing s with
  | nil => exact ⟨[], rfl, trivial, rfl⟩
  | cons r rs ih =>
    obtain ⟨e, hmay, happly⟩ := S.matched s r hs
    obtain ⟨es, hactors, hhistory, hafter⟩ := ih (S.keeps s r hs)
    rw [happly] at hhistory hafter
    refine ⟨(S.actor s r, e) :: es, ?_, ⟨hmay, hhistory⟩, hafter⟩
    rw [List.map_cons, hactors, actors]

end PetParadise.Store
