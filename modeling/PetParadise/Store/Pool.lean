/-
PetParadise.Store.Pool — programs interleaved at one store.

A pool holds the store, one program per thread and the history of the
statements executed so far, each with the store it met. A schedule is a
list of thread numbers: `step` lets the named thread execute exactly one
statement. Any arrival order is covered, since a thread that is not
scheduled has not begun. A thread whose statement is refused ends with
that error; a thread that has returned or raised ignores the scheduler.

A `Discipline` is what a thread promises. What it has executed so far puts
it in a stage; the discipline says which statements the stage allows and
in which stages the thread may end. `Prog.Follows` says that a program
keeps the promise as long as the store it meets can be relied on, whatever
the other threads do in between, and `Prog.Succeeds` that it also ends
without an error. `each_step` is the rule: one step of the pool keeps every
thread's promise if the scheduled thread can rely on the store now.
-/
import PetParadise.Store.Runs

namespace PetParadise.Store

/-- A statement that was executed: by which thread, in which store. -/
structure Event (σ ω : Type) where
  thread : Nat
  before : σ
  stmt : ω

/-- Programs at work on one store. -/
structure Pool (σ ω ε α : Type) where
  store : σ
  threads : List (Prog σ ω ε α)
  history : List (Event σ ω)

namespace Pool

variable {σ ω ε α : Type}

/-- A store and programs that have not started. -/
def start (s : σ) (ps : List (Prog σ ω ε α)) : Pool σ ω ε α := ⟨s, ps, []⟩

/-- The statement thread `i` is about to issue, if it has not ended. -/
def next (c : Pool σ ω ε α) (i : Nat) : Option ω :=
  match c.threads[i]? with
  | some (.stmt w _) => some w
  | _ => none

/-- The error thread `i` has ended with, if it has. -/
def failure (c : Pool σ ω ε α) (i : Nat) : Option ε :=
  match c.threads[i]? with
  | some (.raise e) => some e
  | _ => none

/-- What thread `i` has ended with, if it has. -/
def answer (c : Pool σ ω ε α) (i : Nat) : Option (Except ε α) :=
  match c.threads[i]? with
  | some (.ret a) => some (.ok a)
  | some (.raise e) => some (.error e)
  | _ => none

theorem next_of_stmt {c : Pool σ ω ε α} {i : Nat} {w : ω} {k : σ → Prog σ ω ε α}
    (h : c.threads[i]? = some (.stmt w k)) : c.next i = some w := by
  rw [next, h]

theorem lt_length_of_next {c : Pool σ ω ε α} {i : Nat} (h : (c.next i).isSome = true) :
    i < c.threads.length := by
  by_contra hge
  rw [next, List.getElem?_eq_none (Nat.le_of_not_lt hge)] at h
  cases h

/-- Threads other than the one that moves are about to issue what they
were about to issue. -/
theorem next_set_ne (c : Pool σ ω ε α) {i j : Nat} (h : j ≠ i) (s : σ) (p : Prog σ ω ε α)
    (history : List (Event σ ω)) :
    (⟨s, c.threads.set i p, history⟩ : Pool σ ω ε α).next j = c.next j := by
  rw [next, next, List.getElem?_set_ne (Ne.symm h)]

/-- A thread that was refused issues nothing any more. -/
theorem next_set_raise (c : Pool σ ω ε α) (i : Nat) (e : ε) :
    (⟨c.store, c.threads.set i (.raise e), c.history⟩ : Pool σ ω ε α).next i = none := by
  rw [next, List.getElem?_set_self']
  cases c.threads[i]? <;> rfl

section Step

variable (exec : ω → σ → Except ε σ)

/-- Thread `i` executes one statement. -/
def step (c : Pool σ ω ε α) (i : Nat) : Pool σ ω ε α :=
  match c.threads[i]? with
  | some (.stmt w k) =>
      match exec w c.store with
      | .ok s' => ⟨s', c.threads.set i (k c.store), c.history ++ [⟨i, c.store, w⟩]⟩
      | .error e => ⟨c.store, c.threads.set i (.raise e), c.history⟩
  | _ => c

/-- The pool after a schedule. -/
def run (c : Pool σ ω ε α) (schedule : List Nat) : Pool σ ω ε α :=
  schedule.foldl (step exec) c

variable {exec}

theorem step_ok {c : Pool σ ω ε α} {i : Nat} {w : ω} {k : σ → Prog σ ω ε α} {s' : σ}
    (hi : c.threads[i]? = some (.stmt w k)) (hw : exec w c.store = .ok s') :
    step exec c i =
      ⟨s', c.threads.set i (k c.store), c.history ++ [⟨i, c.store, w⟩]⟩ := by
  unfold step
  rw [hi]
  simp only [hw]

theorem step_error {c : Pool σ ω ε α} {i : Nat} {w : ω} {k : σ → Prog σ ω ε α} {e : ε}
    (hi : c.threads[i]? = some (.stmt w k)) (hw : exec w c.store = .error e) :
    step exec c i = ⟨c.store, c.threads.set i (.raise e), c.history⟩ := by
  unfold step
  rw [hi]
  simp only [hw]

theorem step_idle {c : Pool σ ω ε α} {i : Nat}
    (hi : ∀ w k, c.threads[i]? ≠ some (.stmt w k)) : step exec c i = c := by
  unfold step
  split
  · next w k h => exact absurd h (hi w k)
  · rfl

/-- What one step of the pool can be: one statement executed, one
statement refused, or nothing. -/
theorem step_cases (exec : ω → σ → Except ε σ) (c : Pool σ ω ε α) (i : Nat) :
    (∃ w k s', c.threads[i]? = some (.stmt w k) ∧ exec w c.store = .ok s' ∧
      step exec c i = ⟨s', c.threads.set i (k c.store), c.history ++ [⟨i, c.store, w⟩]⟩) ∨
    (∃ w k e, c.threads[i]? = some (.stmt w k) ∧ exec w c.store = .error e ∧
      step exec c i = ⟨c.store, c.threads.set i (.raise e), c.history⟩) ∨
    step exec c i = c := by
  by_cases h : ∃ w k, c.threads[i]? = some (.stmt w k)
  · obtain ⟨w, k, hi⟩ := h
    cases hw : exec w c.store with
    | ok s' => exact .inl ⟨w, k, s', hi, hw, step_ok hi hw⟩
    | error e => exact .inr (.inl ⟨w, k, e, hi, hw, step_error hi hw⟩)
  · exact .inr (.inr (step_idle (fun w k hi => h ⟨w, k, hi⟩)))

/-- A thread after a step: as it was, or the scheduled one gone on. -/
theorem thread_step {c : Pool σ ω ε α} {i j : Nat} {p : Prog σ ω ε α}
    (h : (step exec c i).threads[j]? = some p) :
    c.threads[j]? = some p ∨ j = i ∧ ∃ w f, c.threads[i]? = some (.stmt w f) ∧
      (p = f c.store ∨ ∃ e, p = .raise e) := by
  by_cases hij : i = j
  · subst hij
    rcases step_cases exec c i with ⟨w, f, s', hc, -, hs⟩ | ⟨w, f, e, hc, -, hs⟩ | hs
    · rw [hs, List.getElem?_set_self', hc] at h
      exact .inr ⟨rfl, w, f, hc, .inl (Option.some.inj h).symm⟩
    · rw [hs, List.getElem?_set_self', hc] at h
      exact .inr ⟨rfl, w, f, hc, .inr ⟨e, (Option.some.inj h).symm⟩⟩
    · rw [hs] at h
      exact .inl h
  · left
    rcases step_cases exec c i with ⟨_, _, _, -, -, hs⟩ | ⟨_, _, _, -, -, hs⟩ | hs
    · rw [hs, List.getElem?_set_ne hij] at h
      exact h
    · rw [hs, List.getElem?_set_ne hij] at h
      exact h
    · rw [hs] at h
      exact h

/-- There are as many threads as before. -/
theorem length_step (exec : ω → σ → Except ε σ) (c : Pool σ ω ε α) (i : Nat) :
    (step exec c i).threads.length = c.threads.length := by
  rcases step_cases exec c i with ⟨_, _, _, -, -, hs⟩ | ⟨_, _, _, -, -, hs⟩ | hs
  · rw [hs, List.length_set]
  · rw [hs, List.length_set]
  · rw [hs]

theorem length_run (exec : ω → σ → Except ε σ) (c : Pool σ ω ε α) (schedule : List Nat) :
    (run exec c schedule).threads.length = c.threads.length := by
  induction schedule generalizing c with
  | nil => rfl
  | cons i schedule ih => exact (ih (step exec c i)).trans (length_step exec c i)

/-- If every statement any thread can issue satisfies `P`, this stays so. -/
theorem only_step (exec : ω → σ → Except ε σ) {P : ω → Prop} {c : Pool σ ω ε α}
    (h : ∀ p ∈ c.threads, p.Only P) (i : Nat) : ∀ p ∈ (step exec c i).threads, p.Only P := by
  intro p hp
  rcases step_cases exec c i with ⟨w, k, s', hi, -, hs⟩ | ⟨w, k, e, -, -, hs⟩ | hs
  · rw [hs] at hp
    rcases List.mem_or_eq_of_mem_set hp with hp | rfl
    · exact h p hp
    · exact (h _ (List.mem_of_getElem? hi)).2 c.store
  · rw [hs] at hp
    rcases List.mem_or_eq_of_mem_set hp with hp | rfl
    · exact h p hp
    · trivial
  · rw [hs] at hp; exact h p hp

end Step

end Pool

/-! ## Disciplines -/

/-- Stages a thread goes through: how a statement moves it on, which
statements a stage allows in which stores, and where it may end. -/
structure Discipline (σ ω γ : Type) where
  init : γ
  advance : γ → σ → ω → γ
  allows : γ → σ → ω → Prop
  ends : γ → Prop

variable {σ ω ε α γ : Type}

/-- From this stage on, in stores that meet `rely`, the program issues only
what is allowed and ends only where it may, a refused statement being an
end as well. -/
def Prog.Follows (d : Discipline σ ω γ) (rely : γ → σ → ω → Prop)
    (exec : ω → σ → Except ε σ) : γ → Prog σ ω ε α → Prop
  | g, .ret _ => d.ends g
  | g, .raise _ => d.ends g
  | g, .stmt w k => ∀ s, rely g s w → d.allows g s w ∧
      match exec w s with
      | .ok _ => (k s).Follows d rely exec (d.advance g s w)
      | .error _ => d.ends g

/-- The same for a program that is not to fail: it raises nothing, and no
statement of it is refused. -/
def Prog.Succeeds (d : Discipline σ ω γ) (rely : γ → σ → ω → Prop)
    (exec : ω → σ → Except ε σ) : γ → Prog σ ω ε α → Prop
  | g, .ret _ => d.ends g
  | _, .raise _ => False
  | g, .stmt w k => ∀ s, rely g s w → d.allows g s w ∧
      ∃ s', exec w s = .ok s' ∧ (k s).Succeeds d rely exec (d.advance g s w)

namespace Prog

variable {d : Discipline σ ω γ} {rely : γ → σ → ω → Prop} {exec : ω → σ → Except ε σ} {g : γ}

/-- A statement that cannot be refused. -/
theorem follows_stmt {w : ω} {k : σ → Prog σ ω ε α}
    (hallows : ∀ s, rely g s w → d.allows g s w)
    (hexec : ∀ s, rely g s w → ∃ s', exec w s = .ok s')
    (hk : ∀ s, rely g s w → (k s).Follows d rely exec (d.advance g s w)) :
    (.stmt w k : Prog σ ω ε α).Follows d rely exec g := by
  intro s hs
  obtain ⟨s', hs'⟩ := hexec s hs
  refine ⟨hallows s hs, ?_⟩
  rw [hs']
  exact hk s hs

/-- A program all of whose statements leave the stage as it is. -/
theorem follows_of_only (hends : d.ends g) {p : Prog σ ω ε α}
    (hp : p.Only (fun w => ∀ s, d.allows g s w ∧ d.advance g s w = g)) :
    p.Follows d rely exec g := by
  induction p with
  | ret a => exact hends
  | raise e => exact hends
  | stmt w k ih =>
    intro s _
    obtain ⟨hallows, hstay⟩ := hp.1 s
    refine ⟨hallows, ?_⟩
    split
    · rw [hstay]
      exact ih s (hp.2 s)
    · exact hends

end Prog

namespace Pool

variable (d : Discipline σ ω γ) (rely : γ → σ → ω → Prop) (exec : ω → σ → Except ε σ)

/-- The stage thread `i` is in, by what it has executed. -/
def stage (c : Pool σ ω ε α) (i : Nat) : γ :=
  (c.history.filter (·.thread == i)).foldl (fun g e => d.advance g e.before e.stmt) d.init

/-- Executing a statement moves its own thread. -/
theorem stage_executed (c : Pool σ ω ε α) (s s' : σ) (ps : List (Prog σ ω ε α)) (i j : Nat)
    (w : ω) :
    (⟨s', ps, c.history ++ [⟨i, s, w⟩]⟩ : Pool σ ω ε α).stage d j =
      if j = i then d.advance (c.stage d i) s w else c.stage d j := by
  unfold stage
  by_cases hij : j = i
  · subst hij
    simp
  · have hne : (i == j) = false := beq_eq_false_iff_ne.mpr (Ne.symm hij)
    simp [hne, hij]

variable {exec} in
/-- What each thread's program satisfies in the stage it is in stays so with
one step of the pool, if executing a statement that can be relied on keeps
it. -/
theorem each_step (d : Nat → Discipline σ ω γ) (rely : Nat → γ → σ → ω → Prop)
    (K : Nat → γ → Prog σ ω ε α → Prop)
    (hK : ∀ i g w k s, K i g (.stmt w k) → rely i g s w →
      match exec w s with
      | .ok _ => K i ((d i).advance g s w) (k s)
      | .error e => K i g (.raise e))
    {c : Pool σ ω ε α} {i : Nat}
    (h : ∀ (j : Nat) (p : Prog σ ω ε α), c.threads[j]? = some p → K j (c.stage (d j) j) p)
    (hrely : ∀ w, c.next i = some w → rely i (c.stage (d i) i) c.store w) :
    ∀ (j : Nat) (p : Prog σ ω ε α), (step exec c i).threads[j]? = some p →
      K j ((step exec c i).stage (d j) j) p := by
  rcases step_cases exec c i with ⟨w, k, s', hi, hw, hs⟩ | ⟨w, k, e, hi, hw, hs⟩ | hs
  · have hthread := hK i _ w k c.store (h i _ hi) (hrely w (next_of_stmt hi))
    rw [hw] at hthread
    rw [hs]
    intro j p hj
    rw [stage_executed]
    by_cases hji : j = i
    · subst hji
      rw [if_pos rfl]
      rw [List.getElem?_set_self', hi] at hj
      cases hj
      exact hthread
    · rw [if_neg hji]
      rw [List.getElem?_set_ne (Ne.symm hji)] at hj
      exact h j p hj
  · have hthread := hK i _ w k c.store (h i _ hi) (hrely w (next_of_stmt hi))
    rw [hw] at hthread
    rw [hs]
    intro j p hj
    by_cases hji : j = i
    · subst hji
      rw [List.getElem?_set_self', hi] at hj
      cases hj
      exact hthread
    · rw [List.getElem?_set_ne (Ne.symm hji)] at hj
      exact h j p hj
  · rw [hs]
    exact h

/-- Every thread keeps its promise from the stage it is in. -/
def Disciplined (c : Pool σ ω ε α) : Prop :=
  ∀ (i : Nat) (p : Prog σ ω ε α), c.threads[i]? = some p → p.Follows d rely exec (c.stage d i)

variable {d rely exec}

/-- What the scheduled thread is about to issue is allowed. -/
theorem Disciplined.allows {c : Pool σ ω ε α} (h : c.Disciplined d rely exec) {i : Nat} {w : ω}
    {k : σ → Prog σ ω ε α} (hi : c.threads[i]? = some (.stmt w k))
    (hrely : rely (c.stage d i) c.store w) : d.allows (c.stage d i) c.store w :=
  (h i _ hi c.store hrely).1

/-- A thread that has ended is in a stage where it may end. -/
theorem Disciplined.ends {c : Pool σ ω ε α} (h : c.Disciplined d rely exec) {i : Nat}
    {p : Prog σ ω ε α} (hi : c.threads[i]? = some p) (hnext : c.next i = none) :
    d.ends (c.stage d i) := by
  have hp := h i p hi
  cases p with
  | ret a => exact hp
  | raise e => exact hp
  | stmt w k =>
    rw [next_of_stmt hi] at hnext
    cases hnext

/-- One step keeps every promise if the scheduled thread can rely on the
store. -/
theorem disciplined_step {c : Pool σ ω ε α} {i : Nat} (h : c.Disciplined d rely exec)
    (hrely : ∀ w, c.next i = some w → rely (c.stage d i) c.store w) :
    (step exec c i).Disciplined d rely exec := by
  refine each_step (fun _ => d) (fun _ => rely) (fun _ g p => p.Follows d rely exec g)
    (fun i g w k s hp hs => ?_) h hrely
  have hnext := (hp s hs).2
  cases hw : exec w s with
  | ok s' => rw [hw] at hnext; exact hnext
  | error e => rw [hw] at hnext; exact hnext

/-- Every thread succeeds from the stage it is in, each by its own
discipline. -/
def Succeeding (d : Nat → Discipline σ ω γ) (rely : Nat → γ → σ → ω → Prop)
    (exec : ω → σ → Except ε σ) (c : Pool σ ω ε α) : Prop :=
  ∀ (i : Nat) (p : Prog σ ω ε α), c.threads[i]? = some p →
    p.Succeeds (d i) (rely i) exec (c.stage (d i) i)

section Succeeding

variable {d : Nat → Discipline σ ω γ} {rely : Nat → γ → σ → ω → Prop} {c : Pool σ ω ε α} {i : Nat}

/-- No thread has raised an error. -/
theorem Succeeding.failure (h : c.Succeeding d rely exec) (i : Nat) : c.failure i = none := by
  unfold Pool.failure
  split
  · next e hi => exact (h i _ hi).elim
  · rfl

/-- A thread that has ended is in a stage where it may end. -/
theorem Succeeding.ends (h : c.Succeeding d rely exec) (hi : i < c.threads.length)
    (hnext : c.next i = none) : (d i).ends (c.stage (d i) i) := by
  have hthread := List.getElem?_eq_getElem hi
  have hp := h i _ hthread
  rw [next, hthread] at hnext
  cases hprog : c.threads[i] with
  | ret a => rw [hprog] at hp; exact hp
  | raise e => rw [hprog] at hp; exact hp.elim
  | stmt w k => rw [hprog] at hnext; cases hnext

/-- A step executes a statement that is allowed, or does nothing. -/
theorem Succeeding.step_cases (h : c.Succeeding d rely exec)
    (hrely : ∀ w, c.next i = some w → rely i (c.stage (d i) i) c.store w) :
    (∃ w k s', c.threads[i]? = some (.stmt w k) ∧ exec w c.store = .ok s' ∧
      (d i).allows (c.stage (d i) i) c.store w ∧
      step exec c i = ⟨s', c.threads.set i (k c.store), c.history ++ [⟨i, c.store, w⟩]⟩) ∨
    step exec c i = c := by
  rcases Pool.step_cases exec c i with ⟨w, k, s', hi, hw, hs⟩ | ⟨w, k, e, hi, hw, -⟩ | hs
  · exact .inl ⟨w, k, s', hi, hw, (h i _ hi c.store (hrely w (next_of_stmt hi))).1, hs⟩
  · obtain ⟨-, s', hok, -⟩ := h i _ hi c.store (hrely w (next_of_stmt hi))
    rw [hok] at hw
    cases hw
  · exact .inr hs

theorem succeeding_step (h : c.Succeeding d rely exec)
    (hrely : ∀ w, c.next i = some w → rely i (c.stage (d i) i) c.store w) :
    (step exec c i).Succeeding d rely exec := by
  refine each_step d rely (fun i g p => p.Succeeds (d i) (rely i) exec g)
    (fun i g w k s hp hs => ?_) h hrely
  obtain ⟨-, s', hw, hnext⟩ := hp s hs
  rw [hw]
  exact hnext

end Succeeding

end Pool

end PetParadise.Store
