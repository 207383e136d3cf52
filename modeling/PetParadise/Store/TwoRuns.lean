/-
PetParadise.Store.TwoRuns — running two programs side by side.

`Alike R V p q` compares a run of `p` with a run of `q` from related stores:
both return, with values related by `V`, or both raise the same error, and
either way the stores they leave are related again. There is one rule per
way of building a program, so that two runs are compared by walking through
the program once; `R` is the relation the walk keeps, and the statements
that keep it are the only thing an application has to supply.
-/
import PetParadise.Store.Prog

namespace PetParadise.Store

/-! ## Outcomes -/

/-- Related values, or the same error. -/
inductive Outcome {ε α β : Type} (V : α → β → Prop) : Except ε α → Except ε β → Prop where
  | ok {a : α} {b : β} (h : V a b) : Outcome V (.ok a) (.ok b)
  | error (e : ε) : Outcome V (.error e) (.error e)

namespace Prog

variable {σ ω ε α β γ δ : Type} {exec : ω → σ → Except ε σ} {R : σ → σ → Prop}

/-- Two statements that keep the relation. -/
def Respects (exec : ω → σ → Except ε σ) (R : σ → σ → Prop) (w v : ω) : Prop :=
  ∀ s t, R s t → Outcome R (exec w s) (exec v t)

def Alike (exec : ω → σ → Except ε σ) (R : σ → σ → Prop) (V : α → β → Prop)
    (p : Prog σ ω ε α) (q : Prog σ ω ε β) : Prop :=
  ∀ s t, R s t →
    Outcome V (p.run exec s).1 (q.run exec t).1 ∧ R (p.run exec s).2 (q.run exec t).2

/-! ## Rules -/

theorem alike_ret {V : α → β → Prop} {a : α} {b : β} (h : V a b) :
    Alike exec R V (.ret a) (.ret b) :=
  fun _ _ hR => ⟨.ok h, hR⟩

theorem alike_raise {V : α → β → Prop} (e : ε) : Alike exec R V (.raise e) (.raise e) :=
  fun _ _ hR => ⟨.error e, hR⟩

theorem alike_bind {V : α → β → Prop} {W : γ → δ → Prop} {p : Prog σ ω ε α} {q : Prog σ ω ε β}
    {f : α → Prog σ ω ε γ} {g : β → Prog σ ω ε δ} (hp : Alike exec R V p q)
    (hf : ∀ a b, V a b → Alike exec R W (f a) (g b)) : Alike exec R W (p >>= f) (q >>= g) := by
  intro s t hR
  obtain ⟨hout, hR'⟩ := hp s t hR
  rw [run_bind, run_bind]
  cases hps : p.run exec s with
  | mk x s' =>
    cases hqt : q.run exec t with
    | mk y t' =>
      rw [hps, hqt] at hout hR'
      cases hout with
      | ok h => exact hf _ _ h s' t' hR'
      | error e => exact ⟨.error e, hR'⟩

/-- Two runs that go on with one value. -/
theorem alike_bind_eq {W : γ → δ → Prop} {p q : Prog σ ω ε α} {f : α → Prog σ ω ε γ}
    {g : α → Prog σ ω ε δ} (hp : Alike exec R Eq p q) (hf : ∀ a, Alike exec R W (f a) (g a)) :
    Alike exec R W (p >>= f) (q >>= g) := by
  apply alike_bind hp
  intro a b hab
  subst hab
  exact hf a

/-- Two runs whose first part returns nothing. -/
theorem alike_then {W : γ → δ → Prop} {p q : Prog σ ω ε Unit} {f : Unit → Prog σ ω ε γ}
    {g : Unit → Prog σ ω ε δ} (hp : Alike exec R (fun _ _ => True) p q)
    (hf : Alike exec R W (f ()) (g ())) : Alike exec R W (p >>= f) (q >>= g) :=
  alike_bind hp (fun _ _ _ => hf)

theorem alike_stmt {V : α → β → Prop} {w v : ω} {k : σ → Prog σ ω ε α} {l : σ → Prog σ ω ε β}
    (hw : Respects exec R w v) (hk : ∀ s t, R s t → Alike exec R V (k s) (l t)) :
    Alike exec R V (.stmt w k) (.stmt v l) := by
  intro s t hR
  have hexec := hw s t hR
  rw [run_stmt, run_stmt]
  cases hs : exec w s with
  | ok s' =>
    cases ht : exec v t with
    | ok t' =>
      rw [hs, ht] at hexec
      cases hexec with
      | ok hR' => exact hk s t hR s' t' hR'
    | error e =>
      rw [hs, ht] at hexec
      cases hexec
  | error e =>
    cases ht : exec v t with
    | ok t' =>
      rw [hs, ht] at hexec
      cases hexec
    | error e' =>
      rw [hs, ht] at hexec
      cases hexec
      exact ⟨.error e, hR⟩

theorem alike_perform {w v : ω} (hw : Respects exec R w v) :
    Alike exec R (fun _ _ => True) (perform w) (perform v) :=
  alike_stmt hw (fun _ _ _ => alike_ret trivial)

theorem alike_query {V : α → β → Prop} {w v : ω} {f : σ → α} {g : σ → β}
    (hw : Respects exec R w v) (hf : ∀ s t, R s t → V (f s) (g t)) :
    Alike exec R V (query w f) (query v g) :=
  alike_stmt hw (fun s t hR => alike_ret (hf s t hR))

theorem alike_orRaise {V : α → β → Prop} {o : Option α} {o' : Option β} (h : Option.Rel V o o')
    (e : ε) : Alike exec R V (orRaise o e) (orRaise o' e) := by
  cases h with
  | none => exact alike_raise e
  | some h => exact alike_ret h

theorem alike_orRaise_self (o : Option α) (e : ε) :
    Alike exec R Eq (orRaise o e) (orRaise o e) := by
  cases o with
  | none => exact alike_raise e
  | some a => exact alike_ret rfl

theorem alike_ofExcept (x : Except ε α) : Alike exec R Eq (ofExcept x) (ofExcept x) := by
  cases x with
  | ok a => exact alike_ret rfl
  | error e => exact alike_raise e

theorem alike_each {f g : β → Prog σ ω ε Unit} {bs : List β}
    (hf : ∀ b ∈ bs, Alike exec R (fun _ _ => True) (f b) (g b)) :
    Alike exec R (fun _ _ => True) (each bs f) (each bs g) := by
  induction bs with
  | nil => exact alike_ret trivial
  | cons b bs ih =>
    apply alike_then (hf b List.mem_cons_self)
    exact ih (fun b' hb' => hf b' (List.mem_cons_of_mem _ hb'))

theorem alike_times {p q : Prog σ ω ε Unit} (hp : Alike exec R (fun _ _ => True) p q) (n : Nat) :
    Alike exec R (fun _ _ => True) (times n p) (times n q) := by
  induction n with
  | zero => exact alike_ret trivial
  | succ n ih => exact alike_then hp ih

theorem alike_ite {V : α → β → Prop} {c : Prop} [Decidable c] {p p' : Prog σ ω ε α}
    {q q' : Prog σ ω ε β} (hp : c → Alike exec R V p q) (hp' : ¬ c → Alike exec R V p' q') :
    Alike exec R V (if c then p else p') (if c then q else q') := by
  by_cases hc : c
  · simpa [hc] using hp hc
  · simpa [hc] using hp' hc

end Prog

end PetParadise.Store
