/-
PetParadise.Store.Serial — schedules in which threads do not overlap.

`Prog.run` is a program alone at the store; a pool is programs interleaved.
The two meet where the schedule lets one thread after the other run to its
end: such a schedule runs the programs one after the other, and each ends
with what it gives when it is run at that point.
-/
import PetParadise.Store.Pool

namespace PetParadise.Store.Pool

variable {σ ω ε α : Type} {exec : ω → σ → Except ε σ}

theorem run_append (c : Pool σ ω ε α) (l m : List Nat) :
    run exec c (l ++ m) = run exec (run exec c l) m :=
  List.foldl_append

/-- A thread that is not scheduled stays where it is. -/
theorem thread_run_of_not_mem {schedule : List Nat} {j : Nat} (hj : j ∉ schedule)
    (c : Pool σ ω ε α) : (run exec c schedule).threads[j]? = c.threads[j]? := by
  induction schedule generalizing c with
  | nil => rfl
  | cons i schedule ih =>
    rw [List.mem_cons, not_or] at hj
    have hstep : (step exec c i).threads[j]? = c.threads[j]? := by
      rcases step_cases exec c i with ⟨_, _, _, -, -, hs⟩ | ⟨_, _, _, -, -, hs⟩ | hs
      · rw [hs, List.getElem?_set_ne (Ne.symm hj.1)]
      · rw [hs, List.getElem?_set_ne (Ne.symm hj.1)]
      · rw [hs]
    exact (ih hj.2 (step exec c i)).trans hstep

/-- A thread that is let run until it has ended does what its program does
alone. -/
theorem run_block {c : Pool σ ω ε α} {i n : Nat} {p : Prog σ ω ε α} {x : Except ε α}
    (hp : c.threads[i]? = some p)
    (hx : (run exec c (List.replicate n i)).answer i = some x) :
    p.run exec c.store = (x, (run exec c (List.replicate n i)).store) := by
  induction n generalizing c p with
  | zero =>
    have hx : c.answer i = some x := hx
    rw [answer, hp] at hx
    cases p with
    | ret a =>
      cases hx
      rfl
    | raise e =>
      cases hx
      rfl
    | stmt w k => cases hx
  | succ n ih =>
    have hi : i < c.threads.length := (List.getElem?_eq_some_iff.mp hp).1
    show p.run exec c.store = (x, (run exec (step exec c i) (List.replicate n i)).store)
    have hx : (run exec (step exec c i) (List.replicate n i)).answer i = some x := hx
    cases p with
    | ret a =>
      rw [step_idle (by simp [hp])] at hx ⊢
      exact ih hp hx
    | raise e =>
      rw [step_idle (by simp [hp])] at hx ⊢
      exact ih hp hx
    | stmt w k =>
      cases hw : exec w c.store with
      | ok s' =>
        rw [step_ok hp hw] at hx ⊢
        rw [Prog.run_stmt_ok exec hw]
        exact ih (List.getElem?_set_self hi) hx
      | error e =>
        rw [step_error hp hw] at hx ⊢
        rw [Prog.run_stmt_error exec hw]
        exact ih (List.getElem?_set_self hi) hx

/-- **Threads that do not overlap.** The store they leave is that of the
programs run one after the other, and each has ended with what its program
gives after those before it. -/
theorem run_serial {is : List Nat} (hnodup : is.Nodup) (n : Nat → Nat) {p : Nat → Prog σ ω ε α}
    {c : Pool σ ω ε α} (hp : ∀ i ∈ is, c.threads[i]? = some (p i))
    (hended : ∀ i ∈ is,
      ((run exec c (is.flatMap fun i => List.replicate (n i) i)).answer i).isSome = true) :
    (run exec c (is.flatMap fun i => List.replicate (n i) i)).store =
        is.foldl (fun s i => ((p i).run exec s).2) c.store ∧
      ∀ before i after, is = before ++ i :: after →
        (run exec c (is.flatMap fun i => List.replicate (n i) i)).answer i =
          some ((p i).run exec (before.foldl (fun s i => ((p i).run exec s).2) c.store)).1 := by
  induction is generalizing c with
  | nil =>
    refine ⟨rfl, fun before i after h => ?_⟩
    cases before <;> cases h
  | cons i is ih =>
    obtain ⟨hi, hnodup⟩ := List.nodup_cons.mp hnodup
    rw [List.flatMap_cons, run_append] at hended ⊢
    -- thread `i` is not scheduled again
    have hrest : i ∉ is.flatMap fun j => List.replicate (n j) j := by
      intro hmem
      obtain ⟨j, hj, hij⟩ := List.mem_flatMap.mp hmem
      rw [(List.mem_replicate.mp hij).2] at hi
      exact hi hj
    have hanswer : (run exec (run exec c (List.replicate (n i) i))
        (is.flatMap fun i => List.replicate (n i) i)).answer i =
        (run exec c (List.replicate (n i) i)).answer i := by
      rw [answer, answer, thread_run_of_not_mem hrest]
    obtain ⟨x, hx⟩ := Option.isSome_iff_exists.mp (hanswer ▸ hended i List.mem_cons_self)
    have hrun := run_block (hp i List.mem_cons_self) hx
    have hthreads : ∀ j ∈ is,
        (run exec c (List.replicate (n i) i)).threads[j]? = some (p j) := by
      intro j hj
      rw [thread_run_of_not_mem]
      · exact hp j (List.mem_cons_of_mem _ hj)
      · intro hmem
        rw [(List.mem_replicate.mp hmem).2] at hj
        exact hi hj
    obtain ⟨hstore, hanswers⟩ :=
      ih hnodup hthreads (fun j hj => hended j (List.mem_cons_of_mem _ hj))
    have hfirst : ((p i).run exec c.store).2 = (run exec c (List.replicate (n i) i)).store := by
      rw [hrun]
    refine ⟨?_, fun before j after h => ?_⟩
    · rw [hstore, List.foldl_cons, hfirst]
    · cases before with
      | nil =>
        cases h
        rw [hanswer, hx, List.foldl_nil, hrun]
      | cons b before =>
        cases h
        rw [List.foldl_cons, hfirst]
        exact hanswers before j after rfl

end PetParadise.Store.Pool
