/-
PetParadise.Store.Locality — threads that look at one part of the store.

`R s t` says that two stores agree on some part. A program SEES only that
part when it goes on in the same way in stores that agree on it. A
statement is LOCAL to the part when it does the same to it, or fails in the
same way, in stores that agree on it, and SPARES it when it leaves it as it
is.

If the threads of a group see only the part and issue only local
statements, and all other threads spare it, then the others make no
difference to the group (`projected_run`): striking their steps out of the
schedule leaves every thread of the group exactly where it was, and the
part of the store as it was.
-/
import PetParadise.Store.Pool

namespace PetParadise.Store

variable {σ ω ε α β : Type}

/-- Two outcomes of a statement that agree: both stores do, or it is the
same error. -/
def AlikeOutcome (R : σ → σ → Prop) : Except ε σ → Except ε σ → Prop
  | .ok s, .ok t => R s t
  | .error e, .error e' => e = e'
  | _, _ => False

section Statements

variable (R : σ → σ → Prop) (exec : ω → σ → Except ε σ)

def LocalTo (w : ω) : Prop := ∀ s t, R s t → AlikeOutcome R (exec w s) (exec w t)

def Spares (w : ω) : Prop := ∀ s s', exec w s = .ok s' → R s' s

end Statements

namespace Prog

/-- The program goes on in the same way in stores that agree. -/
def Sees (R : σ → σ → Prop) : Prog σ ω ε α → Prop
  | .ret _ => True
  | .raise _ => True
  | .stmt _ k => (∀ s t, R s t → k s = k t) ∧ ∀ s, (k s).Sees R

variable {R : σ → σ → Prop}

@[simp] theorem sees_ret (a : α) : (.ret a : Prog σ ω ε α).Sees R := trivial

@[simp] theorem sees_raise (e : ε) : (.raise e : Prog σ ω ε α).Sees R := trivial

@[simp] theorem sees_perform (w : ω) : (perform w : Prog σ ω ε Unit).Sees R :=
  ⟨fun _ _ _ => rfl, fun _ => trivial⟩

@[simp] theorem sees_orRaise (o : Option α) (e : ε) : (orRaise o e : Prog σ ω ε α).Sees R := by
  cases o <;> trivial

@[simp] theorem sees_ofExcept (x : Except ε α) : (ofExcept x : Prog σ ω ε α).Sees R := by
  cases x <;> trivial

theorem sees_bind {p : Prog σ ω ε α} {f : α → Prog σ ω ε β} (hp : p.Sees R)
    (hf : ∀ a, (f a).Sees R) : (p >>= f).Sees R := by
  induction p with
  | ret a => exact hf a
  | raise e => trivial
  | stmt w k ih =>
    refine ⟨fun s t hst => ?_, fun s => ih s (hp.2 s)⟩
    show (k s >>= f) = (k t >>= f)
    rw [hp.1 s t hst]

theorem sees_each {f : β → Prog σ ω ε Unit} (hf : ∀ b, (f b).Sees R) :
    ∀ bs : List β, (each bs f).Sees R
  | [] => trivial
  | b :: bs => sees_bind (hf b) (fun _ => sees_each hf bs)

theorem sees_times {p : Prog σ ω ε Unit} (hp : p.Sees R) : ∀ n, (times n p).Sees R
  | 0 => trivial
  | n + 1 => sees_bind hp (fun _ => sees_times hp n)

end Prog

namespace Pool

variable (R : σ → σ → Prop) (exec : ω → σ → Except ε σ) (inside : Nat → Bool)

/-- What a thread of the group, or one outside of it, may do. -/
structure Confined (i : Nat) (p : Prog σ ω ε α) : Prop where
  sees : inside i = true → p.Sees R
  stays : inside i = true → p.Only (LocalTo R exec)
  spares : inside i = false → p.Only (Spares R exec)

/-- Two pools that agree on the part and on the threads of the group. -/
structure Projected (c d : Pool σ ω ε α) : Prop where
  store : R c.store d.store
  threads : ∀ i, inside i = true → c.threads[i]? = d.threads[i]?

variable {R exec inside}

theorem Confined.next {i : Nat} {w : ω} {k : σ → Prog σ ω ε α}
    (h : Confined R exec inside i (.stmt w k)) (s : σ) : Confined R exec inside i (k s) :=
  ⟨fun hi => (h.sees hi).2 s, fun hi => (h.stays hi).2 s, fun hi => (h.spares hi).2 s⟩

theorem Confined.raise (i : Nat) (e : ε) :
    Confined R exec inside i (.raise e : Prog σ ω ε α) :=
  ⟨fun _ => trivial, fun _ => trivial, fun _ => trivial⟩

theorem confined_step {c : Pool σ ω ε α}
    (h : ∀ i p, c.threads[i]? = some p → Confined R exec inside i p) (i : Nat) :
    ∀ j p, (step exec c i).threads[j]? = some p → Confined R exec inside j p := by
  intro j p hj
  rcases thread_step hj with hj | ⟨rfl, w, f, hstmt, rfl | ⟨e, rfl⟩⟩
  · exact h j p hj
  · exact (h j _ hstmt).next c.store
  · exact .raise j e

/-- A step of the group, taken on both sides. -/
theorem Projected.inside_step {c d : Pool σ ω ε α} (h : Projected R inside c d) {i : Nat}
    (hi : inside i = true)
    (hconfined : ∀ p, c.threads[i]? = some p → Confined R exec inside i p) :
    Projected R inside (step exec c i) (step exec d i) := by
  have hset : ∀ p j, inside j = true → (c.threads.set i p)[j]? = (d.threads.set i p)[j]? := by
    intro p j hj
    rw [List.getElem?_set', List.getElem?_set', h.threads j hj]
  by_cases hstmt : ∃ w k, c.threads[i]? = some (.stmt w k)
  · obtain ⟨w, k, hc⟩ := hstmt
    have hd : d.threads[i]? = some (.stmt w k) := by rw [← h.threads i hi, hc]
    have hp := hconfined _ hc
    have hk : k c.store = k d.store := (hp.sees hi).1 _ _ h.store
    have hw : AlikeOutcome R (exec w c.store) (exec w d.store) := (hp.stays hi).1 _ _ h.store
    cases hcs : exec w c.store with
    | ok s' =>
      cases hds : exec w d.store with
      | ok t' =>
        rw [hcs, hds] at hw
        rw [step_ok hc hcs, step_ok hd hds, hk]
        exact ⟨hw, hset _⟩
      | error e' => rw [hcs, hds] at hw; exact hw.elim
    | error e =>
      cases hds : exec w d.store with
      | ok t' => rw [hcs, hds] at hw; exact hw.elim
      | error e' =>
        rw [hcs, hds] at hw
        have he : e = e' := hw
        rw [step_error hc hcs, step_error hd hds, he]
        exact ⟨h.store, hset _⟩
  · have hc : ∀ w k, c.threads[i]? ≠ some (.stmt w k) := fun w k hwk => hstmt ⟨w, k, hwk⟩
    have hd : ∀ w k, d.threads[i]? ≠ some (.stmt w k) := by
      intro w k
      rw [← h.threads i hi]
      exact hc w k
    rw [step_idle hc, step_idle hd]
    exact h

/-- A step outside of the group. -/
theorem Projected.outside_step (htrans : ∀ s t u, R s t → R t u → R s u) {c d : Pool σ ω ε α}
    (h : Projected R inside c d) {i : Nat} (hi : inside i = false)
    (hconfined : ∀ p, c.threads[i]? = some p → Confined R exec inside i p) :
    Projected R inside (step exec c i) d := by
  have hset : ∀ p j, inside j = true → (c.threads.set i p)[j]? = d.threads[j]? := by
    intro p j hj
    have hij : i ≠ j := by
      rintro rfl
      rw [hi] at hj
      cases hj
    rw [List.getElem?_set_ne hij]
    exact h.threads j hj
  rcases step_cases exec c i with ⟨w, k, s', hc, hw, hs⟩ | ⟨w, k, e, -, -, hs⟩ | hs
  · rw [hs]
    exact ⟨htrans _ _ _ (((hconfined _ hc).spares hi).1 _ _ hw) h.store, hset _⟩
  · rw [hs]
    exact ⟨h.store, hset _⟩
  · rw [hs]
    exact h

theorem projected_foldl (htrans : ∀ s t u, R s t → R t u → R s u) {c d : Pool σ ω ε α}
    (h : Projected R inside c d)
    (hconfined : ∀ i p, c.threads[i]? = some p → Confined R exec inside i p)
    (schedule : List Nat) :
    Projected R inside (run exec c schedule) (run exec d (schedule.filter inside)) := by
  induction schedule generalizing c d with
  | nil => exact h
  | cons i schedule ih =>
    cases hi : inside i with
    | true =>
      rw [List.filter_cons_of_pos hi]
      exact ih (h.inside_step hi (hconfined i)) (confined_step hconfined i)
    | false =>
      rw [List.filter_cons_of_neg (by rw [hi]; exact Bool.false_ne_true)]
      exact ih (h.outside_step htrans hi (hconfined i)) (confined_step hconfined i)

/-- The group is where it would be without the others. -/
theorem projected_run (hrefl : ∀ s, R s s) (htrans : ∀ s t u, R s t → R t u → R s u)
    {c : Pool σ ω ε α} (hconfined : ∀ i p, c.threads[i]? = some p → Confined R exec inside i p)
    (schedule : List Nat) :
    Projected R inside (run exec c schedule) (run exec c (schedule.filter inside)) :=
  projected_foldl htrans ⟨hrefl _, fun _ _ => rfl⟩ hconfined schedule

theorem Projected.answer_eq {c d : Pool σ ω ε α} (h : Projected R inside c d) {i : Nat}
    (hi : inside i = true) : c.answer i = d.answer i := by
  unfold answer
  rw [h.threads i hi]

end Pool

end PetParadise.Store
