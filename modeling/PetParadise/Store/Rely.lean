/-
PetParadise.Store.Rely — what a program guarantees while others are at work.

A program that is interleaved with others knows little of the store: what
it has read may be out of date when it writes. `Relies exec R` says that
every statement moves the store along `R`, so `R` leads from a store the
program has seen to any store it meets later. `Prog.Guarantees` is the
judgement of rely and guarantee for one program: started when the store is
`s`, it issues a statement `w` in a store `t` only if `G t w`, as long as
the stores it meets lie ahead of those it has seen; and a value it returns
satisfies `Q` in the store it leaves.

  §1 The judgement — it holds of later stores, too.
  §2 Rules         — one for each way of writing a program.
-/
import PetParadise.Store.Prog

namespace PetParadise.Store

variable {σ ω ε α β : Type}

/-! ## §1 The judgement -/

/-- A relation that every statement keeps, from one store to a later one. -/
structure Relies (exec : ω → σ → Except ε σ) (R : σ → σ → Prop) : Prop where
  refl : ∀ s, R s s
  trans : ∀ {s t u}, R s t → R t u → R s u
  executed : ∀ {w s s'}, exec w s = .ok s' → R s s'

namespace Prog

/-- A refused statement ends the program, so nothing is asked of it. -/
def Guarantees (exec : ω → σ → Except ε σ) (R : σ → σ → Prop) (G : σ → ω → Prop)
    (Q : σ → α → Prop) : σ → Prog σ ω ε α → Prop
  | s, .ret a => Q s a
  | _, .raise _ => True
  | s, .stmt w k => ∀ t, R s t → G t w ∧
      ∀ t', exec w t = .ok t' → (k t).Guarantees exec R G Q t'

variable {exec : ω → σ → Except ε σ} {R : σ → σ → Prop} {G G' : σ → ω → Prop}
  {Q : σ → α → Prop} {Q' : σ → β → Prop} {s : σ}

@[simp] theorem guarantees_raise (e : ε) :
    (.raise e : Prog σ ω ε α).Guarantees exec R G Q s := trivial

theorem Guarantees.later (hR : Relies exec R) (hQ : ∀ {s t a}, R s t → Q s a → Q t a)
    {p : Prog σ ω ε α} (h : p.Guarantees exec R G Q s) {t : σ} (hst : R s t) :
    p.Guarantees exec R G Q t := by
  cases p with
  | ret a => exact hQ hst h
  | raise e => trivial
  | stmt w k => exact fun u htu => h u (hR.trans hst htu)

/-- What the program issues at all, and what it guarantees of it. -/
theorem Guarantees.and_only {P : ω → Prop} {p : Prog σ ω ε α} (h : p.Guarantees exec R G Q s)
    (hp : p.Only P) (hG : ∀ t w, P w → G t w → G' t w) : p.Guarantees exec R G' Q s := by
  induction p generalizing s with
  | ret a => exact h
  | raise e => trivial
  | stmt w k ih =>
    intro t hst
    obtain ⟨hw, hk⟩ := h t hst
    exact ⟨hG t w hp.1 hw, fun t' ht' => ih t (hk t' ht') (hp.2 t)⟩

/-! ## §2 Rules -/

theorem guarantees_of_only {P : ω → Prop} {p : Prog σ ω ε α} (hp : p.Only P)
    (hG : ∀ t w, P w → G t w) : p.Guarantees exec R G (fun _ _ => True) s := by
  induction p generalizing s with
  | ret a => trivial
  | raise e => trivial
  | stmt w k ih => exact fun t _ => ⟨hG t w hp.1, fun t' _ => ih t (hp.2 t)⟩

theorem guarantees_bind (hR : Relies exec R) {p : Prog σ ω ε α} {f : α → Prog σ ω ε β}
    (hp : p.Guarantees exec R G Q s)
    (hf : ∀ a t, R s t → Q t a → (f a).Guarantees exec R G Q' t) :
    (p >>= f).Guarantees exec R G Q' s := by
  induction p generalizing s with
  | ret a => exact hf a s (hR.refl s) hp
  | raise e => trivial
  | stmt w k ih =>
    intro t hst
    obtain ⟨hw, hk⟩ := hp t hst
    refine ⟨hw, fun t' ht' => ih t (hk t' ht') fun a u htu => hf a u ?_⟩
    exact hR.trans hst (hR.trans (hR.executed ht') htu)

/-- A first part that guarantees nothing of what it returns. -/
theorem guarantees_then (hR : Relies exec R) {p : Prog σ ω ε α} {f : α → Prog σ ω ε β}
    (hp : p.Guarantees exec R G (fun _ _ => True) s)
    (hf : ∀ a t, R s t → (f a).Guarantees exec R G Q' t) :
    (p >>= f).Guarantees exec R G Q' s :=
  guarantees_bind hR hp fun a t hst _ => hf a t hst

theorem guarantees_perform {w : ω} (hw : ∀ t, R s t → G t w) :
    (perform w : Prog σ ω ε Unit).Guarantees exec R G (fun _ _ => True) s :=
  fun t hst => ⟨hw t hst, fun _ _ => trivial⟩

theorem guarantees_query {w : ω} {f : σ → α} (hw : ∀ t, R s t → G t w)
    (hf : ∀ t t', R s t → exec w t = .ok t' → Q t' (f t)) :
    (query w f : Prog σ ω ε α).Guarantees exec R G Q s :=
  fun t hst => ⟨hw t hst, fun t' ht' => hf t t' hst ht'⟩

theorem guarantees_orRaise {o : Option α} (h : ∀ a ∈ o, Q s a) (e : ε) :
    (orRaise o e : Prog σ ω ε α).Guarantees exec R G Q s := by
  cases o with
  | none => trivial
  | some a => exact h a rfl

/-- A loop whose body needs no more than what stays true. -/
theorem guarantees_each (hR : Relies exec R) {I : σ → Prop} (hI : ∀ {s t}, R s t → I s → I t)
    {f : β → Prog σ ω ε Unit}
    (hf : ∀ b t, I t → (f b).Guarantees exec R G (fun _ _ => True) t) (bs : List β) (hs : I s) :
    (each bs f).Guarantees exec R G (fun _ _ => True) s := by
  induction bs generalizing s with
  | nil => trivial
  | cons b bs ih => exact guarantees_then hR (hf b s hs) fun _ t hst => ih (hI hst hs)

end Prog

end PetParadise.Store
