/-
PetParadise.Store.Purge — an interleaving seen by one owner.

Every thread of a pool belongs to an owner or to nobody. Take a schedule,
and strike out all steps but those of one owner: the PURGED schedule. This
module is about when the owner cannot tell the difference.

A `Separation` is what the argument needs. `alike u k s t` relates the
store `s` of the whole pool to the store `t` of the purged one, as far as
owner `u` is concerned; the index `k` is what has been agreed on so far and
only grows. `minds v s w` says that statement `w` is `v`'s own business in
`s`, `spares w` that it is no owner's: neither disturbs another owner.

`Prog.Tracks` compares the program of a thread in the whole pool with that
in the purged one, statement by statement: from alike stores both do the
same, leave alike stores and go on alike, and the statement is the owner's
own business. Since the stores may have been changed in between, nothing is
said about two consecutive statements meeting the same store. `tracked_run`
is the purge theorem.
-/
import PetParadise.Store.Pool
import PetParadise.Store.TwoRuns
import Mathlib.Order.Defs.PartialOrder

namespace PetParadise.Store

/-- Owners who keep out of each other's way. -/
structure Separation (σ ω ε ι κ : Type) [Preorder κ] where
  exec : ω → σ → Except ε σ
  alike : ι → κ → σ → σ → Prop
  minds : ι → σ → ω → Prop
  spares : ω → Prop
  minds_keeps : ∀ {u v : ι} {k : κ} {s t s' : σ} {w : ω}, u ≠ v → alike u k s t → minds v s w →
    exec w s = .ok s' → alike u k s' t
  spares_keeps : ∀ {u : ι} {k : κ} {s t s' : σ} {w : ω}, alike u k s t → spares w →
    exec w s = .ok s' → alike u k s' t

variable {σ ω ε α β γ δ ι κ : Type} [Preorder κ]

theorem Outcome.imp {V W : α → β → Prop} {x : Except ε α} {y : Except ε β} (h : Outcome V x y)
    (hVW : ∀ a b, V a b → W a b) : Outcome W x y := by
  cases h with
  | ok h => exact .ok (hVW _ _ h)
  | error e => exact .error e

namespace Prog

/-- From what has been agreed on, whatever more will be, the two programs
go on alike and mind their own business. -/
def Tracks (I : Separation σ ω ε ι κ) (u : ι) (V : κ → α → β → Prop) :
    κ → Prog σ ω ε α → Prog σ ω ε β → Prop
  | k, .ret a, .ret b => V k a b
  | _, .raise e, .raise e' => e = e'
  | k, .stmt w f, .stmt v g => ∀ k', k ≤ k' → ∀ s t, I.alike u k' s t → I.minds u s w ∧
      Outcome (fun s' t' => ∃ k'', k' ≤ k'' ∧ I.alike u k'' s' t' ∧ (f s).Tracks I u V k'' (g t))
        (I.exec w s) (I.exec v t)
  | _, _, _ => False

variable {I : Separation σ ω ε ι κ} {u : ι} {k : κ}

/-- Programs that track each other have the same shape so far. -/
theorem tracks_cases {V : κ → α → β → Prop} {p : Prog σ ω ε α} {q : Prog σ ω ε β}
    (h : p.Tracks I u V k q) :
    (∃ a b, p = .ret a ∧ q = .ret b ∧ V k a b) ∨ (∃ e, p = .raise e ∧ q = .raise e) ∨
    (∃ w f v g, p = .stmt w f ∧ q = .stmt v g ∧
      ∀ k', k ≤ k' → ∀ s t, I.alike u k' s t → I.minds u s w ∧
        Outcome (fun s' t' => ∃ k'', k' ≤ k'' ∧ I.alike u k'' s' t' ∧
          (f s).Tracks I u V k'' (g t)) (I.exec w s) (I.exec v t)) := by
  cases p with
  | ret a =>
    cases q with
    | ret b => exact .inl ⟨a, b, rfl, rfl, h⟩
    | raise e => exact h.elim
    | stmt v g => exact h.elim
  | raise e =>
    cases q with
    | ret b => exact h.elim
    | raise e' =>
      have hee : e = e' := h
      exact .inr (.inl ⟨e, rfl, by rw [hee]⟩)
    | stmt v g => exact h.elim
  | stmt w f =>
    cases q with
    | ret b => exact h.elim
    | raise e => exact h.elim
    | stmt v g => exact .inr (.inr ⟨w, f, v, g, rfl, rfl, h⟩)

/-- Agreeing on more does no harm. -/
theorem tracks_mono {p q : Prog σ ω ε α} (h : p.Tracks I u (fun _ => Eq) k q) {k' : κ}
    (hk : k ≤ k') : p.Tracks I u (fun _ => Eq) k' q := by
  rcases tracks_cases h with ⟨a, b, rfl, rfl, hab⟩ | ⟨e, rfl, rfl⟩ | ⟨w, f, v, g, rfl, rfl, hgo⟩
  · exact hab
  · rfl
  · exact fun k'' hk'' => hgo k'' (le_trans hk hk'')

/-! ## Rules -/

theorem tracks_bind {V : κ → α → β → Prop} {W : κ → γ → δ → Prop} {p : Prog σ ω ε α}
    {q : Prog σ ω ε β} {f : α → Prog σ ω ε γ} {g : β → Prog σ ω ε δ} (hp : p.Tracks I u V k q)
    (hf : ∀ k', k ≤ k' → ∀ a b, V k' a b → (f a).Tracks I u W k' (g b)) :
    (p >>= f).Tracks I u W k (q >>= g) := by
  induction p generalizing q k with
  | ret a =>
    obtain ⟨_, b, heq, rfl, hab⟩ | ⟨_, heq, -⟩ | ⟨_, _, _, _, heq, -⟩ := tracks_cases hp
    · cases heq
      exact hf k le_rfl a b hab
    · cases heq
    · cases heq
  | raise e =>
    obtain ⟨_, _, heq, -⟩ | ⟨_, heq, rfl⟩ | ⟨_, _, _, _, heq, -⟩ := tracks_cases hp
    · cases heq
    · cases heq
      rfl
    · cases heq
  | stmt w m ih =>
    obtain ⟨_, _, heq, -⟩ | ⟨_, heq, -⟩ | ⟨_, _, v, l, heq, rfl, hgo⟩ := tracks_cases hp
    · cases heq
    · cases heq
    · cases heq
      intro k' hk s t hst
      obtain ⟨hminds, hout⟩ := hgo k' hk s t hst
      refine ⟨hminds, hout.imp fun s' t' h => ?_⟩
      obtain ⟨k'', hk', hst', hnext⟩ := h
      refine ⟨k'', hk', hst', ih s hnext fun k₃ hk₃ => ?_⟩
      exact hf k₃ (le_trans hk (le_trans hk' hk₃))

/-- Two programs that go on with one value. -/
theorem tracks_bind_eq {W : κ → γ → δ → Prop} {p q : Prog σ ω ε α} {f : α → Prog σ ω ε γ}
    {g : α → Prog σ ω ε δ} (hp : p.Tracks I u (fun _ => Eq) k q)
    (hf : ∀ k', k ≤ k' → ∀ a, (f a).Tracks I u W k' (g a)) :
    (p >>= f).Tracks I u W k (q >>= g) := by
  apply tracks_bind hp
  intro k' hk a b hab
  subst hab
  exact hf k' hk a

/-- Two programs whose first part returns nothing. -/
theorem tracks_then {W : κ → γ → δ → Prop} {p q : Prog σ ω ε Unit} {f : Unit → Prog σ ω ε γ}
    {g : Unit → Prog σ ω ε δ} (hp : p.Tracks I u (fun _ _ _ => True) k q)
    (hf : ∀ k', k ≤ k' → (f ()).Tracks I u W k' (g ())) :
    (p >>= f).Tracks I u W k (q >>= g) :=
  tracks_bind hp (fun k' hk _ _ _ => hf k' hk)

theorem tracks_perform {w v : ω}
    (h : ∀ k', k ≤ k' → ∀ s t, I.alike u k' s t → I.minds u s w ∧
      Outcome (fun s' t' => ∃ k'', k' ≤ k'' ∧ I.alike u k'' s' t') (I.exec w s) (I.exec v t)) :
    (perform w).Tracks I u (fun _ _ _ => True) k (perform v) := by
  intro k' hk s t hst
  obtain ⟨hminds, hout⟩ := h k' hk s t hst
  refine ⟨hminds, hout.imp fun s' t' h => ?_⟩
  obtain ⟨k'', hk', hst'⟩ := h
  exact ⟨k'', hk', hst', trivial⟩

theorem tracks_orRaise {V : κ → α → β → Prop} {o : Option α} {o' : Option β}
    (h : Option.Rel (V k) o o') (e : ε) : (orRaise o e).Tracks I u V k (orRaise o' e) := by
  cases h with
  | none => rfl
  | some h => exact h

theorem tracks_orRaise_self (o : Option α) (e : ε) :
    (orRaise o e).Tracks I u (fun _ => Eq) k (orRaise o e) := by
  cases o <;> rfl

theorem tracks_ofExcept (x : Except ε α) :
    (ofExcept x).Tracks I u (fun _ => Eq) k (ofExcept x) := by
  cases x <;> rfl

theorem tracks_each {f g : β → Prog σ ω ε Unit} {bs : List β}
    (hf : ∀ k', k ≤ k' → ∀ b, (f b).Tracks I u (fun _ _ _ => True) k' (g b)) :
    (each bs f).Tracks I u (fun _ _ _ => True) k (each bs g) := by
  induction bs generalizing k with
  | nil => trivial
  | cons b bs ih =>
    apply tracks_then (hf k le_rfl b)
    intro k' hk
    exact ih (fun k'' hk' => hf k'' (le_trans hk hk'))

theorem tracks_times {p q : Prog σ ω ε Unit}
    (hp : ∀ k', k ≤ k' → p.Tracks I u (fun _ _ _ => True) k' q) (n : Nat) :
    (times n p).Tracks I u (fun _ _ _ => True) k (times n q) := by
  induction n generalizing k with
  | zero => trivial
  | succ n ih =>
    apply tracks_then (hp k le_rfl)
    intro k' hk
    exact ih (fun k'' hk' => hp k'' (le_trans hk hk'))

theorem tracks_ite {V : κ → α → β → Prop} {c : Prop} [Decidable c] {p p' : Prog σ ω ε α}
    {q q' : Prog σ ω ε β} (hp : c → p.Tracks I u V k q) (hp' : ¬ c → p'.Tracks I u V k q') :
    (if c then p else p').Tracks I u V k (if c then q else q') := by
  by_cases hc : c
  · simpa [hc] using hp hc
  · simpa [hc] using hp' hc

end Prog

/-! ## Pools -/

namespace Pool

/-- The whole pool and the purged one, as owner `u` sees them. -/
structure Tracked (I : Separation σ ω ε ι κ) (owner : Nat → Option ι) (u : ι) (k : κ)
    (c d : Pool σ ω ε α) : Prop where
  store : I.alike u k c.store d.store
  threads : ∀ i, owner i = some u →
    Option.Rel (fun p q => p.Tracks I u (fun _ => Eq) k q) c.threads[i]? d.threads[i]?

variable {I : Separation σ ω ε ι κ} {owner : Nat → Option ι} {c d : Pool σ ω ε α} {u : ι} {k : κ}

theorem Tracked.thread (h : Tracked I owner u k c d) {i : Nat} (hi : owner i = some u) :
    (c.threads[i]? = none ∧ d.threads[i]? = none) ∨
      ∃ p q, c.threads[i]? = some p ∧ d.threads[i]? = some q ∧
        p.Tracks I u (fun _ => Eq) k q := by
  have hrel := h.threads i hi
  revert hrel
  generalize c.threads[i]? = o
  generalize d.threads[i]? = o'
  intro hrel
  cases hrel with
  | none => exact .inl ⟨rfl, rfl⟩
  | some hpq => exact .inr ⟨_, _, rfl, rfl, hpq⟩

/-- A thread of the owner is about to mind its own business. -/
theorem Tracked.minds (h : Tracked I owner u k c d) {i : Nat} (hi : owner i = some u) {w : ω}
    {f : σ → Prog σ ω ε α} (hp : c.threads[i]? = some (.stmt w f)) : I.minds u c.store w := by
  rcases h.thread hi with ⟨hnone, -⟩ | ⟨p, q, hc, -, hpq⟩
  · rw [hp] at hnone
    cases hnone
  · rw [hp] at hc
    cases hc
    obtain ⟨_, _, heq, -⟩ | ⟨_, heq, -⟩ | ⟨_, _, v, g, heq, -, hgo⟩ := Prog.tracks_cases hpq
    · cases heq
    · cases heq
    · cases heq
      exact (hgo k le_rfl c.store d.store h.store).1

/-- One thread of each pool moves on; the others stay where they are. -/
theorem Tracked.set (h : Tracked I owner u k c d) {k' : κ} (hk : k ≤ k') {s t : σ}
    (hst : I.alike u k' s t) (i : Nat) {p q : Prog σ ω ε α}
    (hpq : p.Tracks I u (fun _ => Eq) k' q) (l m : List (Event σ ω)) :
    Tracked I owner u k' ⟨s, c.threads.set i p, l⟩ ⟨t, d.threads.set i q, m⟩ where
  store := hst
  threads := by
    intro j hj
    by_cases hij : i = j
    · subst hij
      simp only [List.getElem?_set_self']
      rcases h.thread hj with ⟨hc, hd⟩ | ⟨_, _, hc, hd, -⟩
      · rw [hc, hd]
        exact .none
      · rw [hc, hd]
        exact .some hpq
    · simp only [List.getElem?_set_ne hij]
      rcases h.thread hj with ⟨hc, hd⟩ | ⟨_, _, hc, hd, hrest⟩
      · rw [hc, hd]
        exact .none
      · rw [hc, hd]
        exact .some (Prog.tracks_mono hrest hk)

/-- The owner's own step is made in both pools. -/
theorem Tracked.step_own (h : Tracked I owner u k c d) {i : Nat} (hi : owner i = some u) :
    ∃ k', Tracked I owner u k' (step I.exec c i) (step I.exec d i) := by
  rcases h.thread hi with ⟨hc, hd⟩ | ⟨p, q, hc, hd, hpq⟩
  · rw [step_idle (by simp [hc]), step_idle (by simp [hd])]
    exact ⟨k, h⟩
  · rcases Prog.tracks_cases hpq with
      ⟨a, b, rfl, rfl, -⟩ | ⟨e, rfl, rfl⟩ | ⟨w, f, v, g, rfl, rfl, hgo⟩
    · rw [step_idle (by simp [hc]), step_idle (by simp [hd])]
      exact ⟨k, h⟩
    · rw [step_idle (by simp [hc]), step_idle (by simp [hd])]
      exact ⟨k, h⟩
    · obtain ⟨-, hout⟩ := hgo k le_rfl c.store d.store h.store
      cases hw : I.exec w c.store with
      | ok s' =>
        cases hv : I.exec v d.store with
        | ok t' =>
          rw [hw, hv] at hout
          cases hout with
          | ok hnext =>
            obtain ⟨k', hk, hst, hnext⟩ := hnext
            rw [step_ok hc hw, step_ok hd hv]
            exact ⟨k', h.set hk hst i hnext _ _⟩
        | error e =>
          rw [hw, hv] at hout
          cases hout
      | error e =>
        cases hv : I.exec v d.store with
        | ok t' =>
          rw [hw, hv] at hout
          cases hout
        | error e' =>
          rw [hw, hv] at hout
          cases hout
          have hraise : (.raise e : Prog σ ω ε α).Tracks I u (fun _ => Eq) k (.raise e) := rfl
          rw [step_error hc hw, step_error hd hv]
          exact ⟨k, h.set le_rfl h.store i hraise _ _⟩

/-- Threads that track each other end alike. -/
theorem Tracked.answer_eq (h : Tracked I owner u k c d) {i : Nat} (hi : owner i = some u) :
    c.answer i = d.answer i := by
  unfold answer
  rcases h.thread hi with ⟨hc, hd⟩ | ⟨p, q, hc, hd, hpq⟩
  · rw [hc, hd]
  · rw [hc, hd]
    rcases Prog.tracks_cases hpq with ⟨a, b, rfl, rfl, hab⟩ | ⟨e, rfl, rfl⟩ |
      ⟨w, f, v, g, rfl, rfl, -⟩
    · rw [hab]
    · rfl
    · rfl

/-- A step of somebody else is made in the whole pool only. -/
theorem Tracked.step_other (h : Tracked I owner u k c d) {i : Nat} (hi : owner i ≠ some u)
    (hkeeps : ∀ w f s', c.threads[i]? = some (.stmt w f) → I.exec w c.store = .ok s' →
      I.alike u k s' d.store) : Tracked I owner u k (step I.exec c i) d := by
  have hrest : ∀ j, owner j = some u → ∀ p : Prog σ ω ε α,
      (c.threads.set i p)[j]? = c.threads[j]? := by
    intro j hj p
    apply List.getElem?_set_ne
    rintro rfl
    exact hi hj
  rcases step_cases I.exec c i with ⟨w, f, s', hc, hw, hs⟩ | ⟨w, f, e, hc, hw, hs⟩ | hs
  · rw [hs]
    refine ⟨hkeeps w f s' hc hw, fun j hj => ?_⟩
    rw [hrest j hj]
    exact h.threads j hj
  · rw [hs]
    refine ⟨h.store, fun j hj => ?_⟩
    rw [hrest j hj]
    exact h.threads j hj
  · rw [hs]
    exact h

variable [DecidableEq ι]

/-- A pool, and for each owner the pool purged of all other steps. Threads
of nobody disturb no owner. -/
structure Purged (I : Separation σ ω ε ι κ) (owner : Nat → Option ι)
    (c : Pool σ ω ε α) (d : ι → Pool σ ω ε α) : Prop where
  tracked : ∀ u, ∃ k, Tracked I owner u k c (d u)
  nobody : ∀ i, owner i = none → ∀ p, c.threads[i]? = some p → p.Only I.spares

theorem Purged.step {d : ι → Pool σ ω ε α} (h : Purged I owner c d) (i : Nat) :
    Purged I owner (step I.exec c i)
      (fun u => if owner i = some u then Pool.step I.exec (d u) i else d u) where
  tracked := by
    intro u
    obtain ⟨k, htracked⟩ := h.tracked u
    by_cases hi : owner i = some u
    · simp only [if_pos hi]
      exact htracked.step_own hi
    · simp only [if_neg hi]
      refine ⟨k, htracked.step_other hi fun w f s' hc hw => ?_⟩
      cases hv : owner i with
      | none =>
        have honly := h.nobody i hv _ hc
        exact I.spares_keeps htracked.store honly.1 hw
      | some v =>
        obtain ⟨k', hother⟩ := h.tracked v
        have hne : u ≠ v := by
          rintro rfl
          exact hi hv
        exact I.minds_keeps hne htracked.store (hother.minds hv hc) hw
  nobody := by
    intro j hj p hp
    rcases thread_step hp with hold | ⟨rfl, w, f, hc, hnext⟩
    · exact h.nobody j hj p hold
    · have honly := h.nobody j hj _ hc
      rcases hnext with rfl | ⟨e, rfl⟩
      · exact honly.2 c.store
      · trivial

theorem Purged.run {d : ι → Pool σ ω ε α} (h : Purged I owner c d) (schedule : List Nat) :
    Purged I owner (run I.exec c schedule)
      (fun u => Pool.run I.exec (d u) (schedule.filter (fun i => owner i = some u))) := by
  induction schedule generalizing c d with
  | nil => exact h
  | cons i schedule ih =>
    have hrest := ih (h.step i)
    have hfilter : (fun u => Pool.run I.exec (d u)
        ((i :: schedule).filter (fun i => owner i = some u))) =
        fun u => Pool.run I.exec (if owner i = some u then Pool.step I.exec (d u) i else d u)
          (schedule.filter (fun i => owner i = some u)) := by
      funext u
      by_cases hi : owner i = some u
      · simp [Pool.run, hi]
      · simp [Pool.run, hi]
    rw [hfilter]
    exact hrest

/-- **Purge.** In every interleaving each owner's threads end as they do
when the other steps are struck out of the schedule, and the two stores are
alike for that owner. -/
theorem tracked_run (I : Separation σ ω ε ι κ) (owner : Nat → Option ι) (s : σ)
    (ps : List (Prog σ ω ε α)) (hs : ∀ u, ∃ k, I.alike u k s s)
    (howned : ∀ i u p, owner i = some u → ps[i]? = some p → ∀ k, p.Tracks I u (fun _ => Eq) k p)
    (hnobody : ∀ i p, owner i = none → ps[i]? = some p → p.Only I.spares) (schedule : List Nat)
    (u : ι) :
    ∃ k, Tracked I owner u k (run I.exec (start s ps) schedule)
      (run I.exec (start s ps) (schedule.filter (fun i => owner i = some u))) := by
  have hstart : Purged I owner (start s ps) (fun _ => start s ps) := by
    refine ⟨fun u => ?_, fun i hi p hp => hnobody i p hi hp⟩
    obtain ⟨k, hk⟩ := hs u
    refine ⟨k, hk, fun i hi => ?_⟩
    show Option.Rel _ ps[i]? ps[i]?
    cases hp : ps[i]? with
    | none => exact .none
    | some p => exact .some (howned i u p hi hp k)
  exact (hstart.run schedule).tracked u

end Pool

end PetParadise.Store
