/-
PetParadise.Store.AllOrNothing — programs that know where they fail.

There are no transactions: what a program has written stays when it raises
later. A program is ALL OR NOTHING, up to some `late` errors, when a write
and an error do not meet otherwise: before its first write it raises no
late error, and from its first write on it is SETTLED, that is, no
statement it may still issue is ever refused and a path that raises raises
a late error. Both are properties of the program tree, whatever the store
answers, so they hold under any interleaving: `wrote_iff_late` says that a
thread that has ended with an error has written exactly if the error is a
late one. With no late errors it has written nothing.
-/
import PetParadise.Store.Audit

namespace PetParadise.Store

variable {σ ω ε α β : Type}

namespace Prog

section Settled

variable (exec : ω → σ → Except ε σ) (late : ε → Prop)

/-- The program returns or raises a late error, whatever happens around
it. -/
def Settled : Prog σ ω ε α → Prop
  | .ret _ => True
  | .raise e => late e
  | .stmt w k => ∀ s, (∃ s', exec w s = .ok s') ∧ (k s).Settled

/-- From its first write on the program is settled, and before it there is
no late error. -/
def AllOrNothing (writes : ω → Bool) : Prog σ ω ε α → Prop
  | .ret _ => True
  | .raise e => ¬ late e
  | .stmt w k => ∀ s, (∀ e, exec w s = .error e → ¬ late e) ∧
      if writes w then (k s).Settled exec late else (k s).AllOrNothing writes

end Settled

variable {exec : ω → σ → Except ε σ} {late : ε → Prop} {writes : ω → Bool}

@[simp] theorem settled_ret (a : α) : (.ret a : Prog σ ω ε α).Settled exec late := trivial

@[simp] theorem settled_raise (e : ε) :
    (.raise e : Prog σ ω ε α).Settled exec late ↔ late e := Iff.rfl

@[simp] theorem allOrNothing_ret (a : α) :
    (.ret a : Prog σ ω ε α).AllOrNothing exec late writes := trivial

@[simp] theorem allOrNothing_raise (e : ε) :
    (.raise e : Prog σ ω ε α).AllOrNothing exec late writes ↔ ¬ late e := Iff.rfl

/-- What only reads may come first. -/
theorem allOrNothing_bind {p : Prog σ ω ε α} {f : α → Prog σ ω ε β}
    (hp : p.AllOrNothing exec late writes) (hreads : p.Only (fun w => writes w = false))
    (hf : ∀ a, (f a).AllOrNothing exec late writes) :
    (p >>= f).AllOrNothing exec late writes := by
  induction p with
  | ret a => exact hf a
  | raise e => exact hp
  | stmt w k ih =>
    intro s
    obtain ⟨hrefused, hk⟩ := hp s
    rw [hreads.1, if_neg Bool.false_ne_true] at hk ⊢
    exact ⟨hrefused, ih s hk (hreads.2 s)⟩

/-- Reads with no late errors at all. -/
theorem allOrNothing_of_reads {p : Prog σ ω ε α} (hp : p.Only (fun w => writes w = false)) :
    p.AllOrNothing exec (fun _ => False) writes := by
  induction p with
  | ret a => trivial
  | raise e => exact not_false
  | stmt w k ih =>
    intro s
    rw [hp.1, if_neg Bool.false_ne_true]
    exact ⟨fun _ _ => not_false, ih s (hp.2 s)⟩

end Prog

namespace Pool

section Audit

variable (exec : ω → σ → Except ε σ) (late : ε → Prop) (writes : ω → Bool)

/-- By `log`, thread `i` has written nothing and is all or nothing, or it
has written and is settled. -/
def Whole (i : Nat) (log : List (Event σ ω)) (p : Prog σ ω ε α) : Prop :=
  (p.AllOrNothing exec late writes ∧ ∀ e ∈ log, e.thread = i → writes e.stmt = false) ∨
    (p.Settled exec late ∧ ∃ e ∈ log, e.thread = i ∧ writes e.stmt = true)

theorem audits_whole (i : Nat) :
    Audits exec (fun j log _ (p : Prog σ ω ε α) => j = i → Whole exec late writes j log p)
      (fun _ _ => True) := by
  constructor
  · intro j log e _ p hne _ hp hj
    rcases hp hj with ⟨hwhole, hnone⟩ | ⟨hsettled, e', he', hwrote⟩
    · refine .inl ⟨hwhole, fun e' he' hthread => ?_⟩
      rcases List.mem_append.mp he' with he' | he'
      · exact hnone e' he' hthread
      · rw [List.mem_singleton.mp he'] at hthread
        exact absurd hthread hne
    · exact .inr ⟨hsettled, e', List.mem_append_left _ he', hwrote⟩
  · intro j log w k s e hp hw hj
    rcases hp hj with ⟨hwhole, hnone⟩ | ⟨hsettled, -⟩
    · exact .inl ⟨(hwhole s).1 e hw, hnone⟩
    · obtain ⟨s', hok⟩ := (hsettled s).1
      rw [hok] at hw
      cases hw
  · intro j log w k s s' hp _
    refine ⟨trivial, fun hj => ?_⟩
    rcases hp hj with ⟨hwhole, hnone⟩ | ⟨hsettled, e', he', hwrote⟩
    · have hnext := (hwhole s).2
      cases hw : writes w with
      | true =>
        rw [hw, if_pos rfl] at hnext
        exact .inr ⟨hnext, _, List.mem_append_right _ List.mem_cons_self, rfl, hw⟩
      | false =>
        rw [hw, if_neg Bool.false_ne_true] at hnext
        refine .inl ⟨hnext, fun e he hthread => ?_⟩
        rcases List.mem_append.mp he with he | he
        · exact hnone e he hthread
        · rw [List.mem_singleton.mp he]
          exact hw
    · exact .inr ⟨(hsettled s).2, e', List.mem_append_left _ he', hwrote⟩

end Audit

variable {exec : ω → σ → Except ε σ} {late : ε → Prop} {writes : ω → Bool}

/-- A thread that was all or nothing and has ended with an error has
written exactly if the error is a late one. -/
theorem wrote_iff_late {s : σ} {ps : List (Prog σ ω ε α)} {i : Nat} {p : Prog σ ω ε α}
    (hp : ps[i]? = some p) (hwhole : p.AllOrNothing exec late writes) {schedule : List Nat} {e : ε}
    (hfail : ((start s ps).run exec schedule).answer i = some (.error e)) :
    (∃ ev ∈ ((start s ps).run exec schedule).history, ev.thread = i ∧ writes ev.stmt = true) ↔
      late e := by
  have hstart : (start s ps).Audited (fun j log _ (p : Prog σ ω ε α) => j = i →
      Whole exec late writes j log p) (fun _ _ => True) := by
    refine ⟨fun j q hj hji => .inl ⟨?_, fun _ hnone => by cases hnone⟩, fun _ _ _ _ => trivial⟩
    have hq : ps[j]? = some q := hj
    rw [hji, hp] at hq
    cases hq
    exact hwhole
  have hend := audited_run (audits_whole exec late writes i) hstart schedule
  unfold answer at hfail
  split at hfail
  · cases hfail
  · next e' hi =>
    cases hfail
    rcases hend.threads i _ hi rfl with ⟨hearly, hnone⟩ | ⟨hlate, hwrote⟩
    · refine iff_of_false ?_ hearly
      rintro ⟨ev, hev, hthread, hwrote⟩
      rw [hnone ev hev hthread] at hwrote
      cases hwrote
    · exact iff_of_true hwrote hlate
  · cases hfail

end Pool

end PetParadise.Store
