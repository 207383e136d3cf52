/-
PetParadise.Store.Runs — runs of a transition function.

A run is a list of inputs folded over a state. `Along step P s rs` says
that every input of the run meets `P` in the state it is consumed in, so
a condition on steps that depends on the state is a condition on runs.
`Along.foldl_inv` is the one induction the safety results share: an
invariant kept by every step that meets `P` holds after the run.
-/
import PetParadise.Store.Prog

namespace PetParadise.Store

variable {σ ρ : Type}

/-- Every input of the run meets `P` in the state it finds. -/
def Along (step : σ → ρ → σ) (P : σ → ρ → Prop) : σ → List ρ → Prop
  | _, [] => True
  | s, r :: rs => P s r ∧ Along step P (step s r) rs

namespace Along

variable {step : σ → ρ → σ} {P Q : σ → ρ → Prop}

instance decidable [∀ s r, Decidable (P s r)] :
    ∀ (s : σ) (rs : List ρ), Decidable (Along step P s rs)
  | _, [] => .isTrue trivial
  | s, r :: rs =>
      have : Decidable (Along step P (step s r) rs) := decidable (step s r) rs
      inferInstanceAs (Decidable (P s r ∧ Along step P (step s r) rs))

@[simp] theorem along_nil (s : σ) : Along step P s [] := trivial

@[simp] theorem along_cons (s : σ) (r : ρ) (rs : List ρ) :
    Along step P s (r :: rs) ↔ P s r ∧ Along step P (step s r) rs := Iff.rfl

theorem mono (hPQ : ∀ s r, P s r → Q s r) :
    ∀ {s : σ} {rs : List ρ}, Along step P s rs → Along step Q s rs
  | _, [], _ => trivial
  | s, r :: _, h => ⟨hPQ s r h.1, mono hPQ h.2⟩

theorem along_append {s : σ} {pre post : List ρ} :
    Along step P s (pre ++ post) ↔
      Along step P s pre ∧ Along step P (pre.foldl step s) post := by
  induction pre generalizing s with
  | nil => simp
  | cons r pre ih => simp [ih, and_assoc]

theorem congr (h : ∀ s r, P s r ↔ Q s r) {s : σ} {rs : List ρ} :
    Along step P s rs ↔ Along step Q s rs :=
  ⟨mono fun s r => (h s r).mp, mono fun s r => (h s r).mpr⟩

/-- Two conditions that agree in every state of every run. -/
theorem congr_inv {W : σ → Prop} (hW : ∀ s r, W s → W (step s r))
    (h : ∀ s r, W s → (P s r ↔ Q s r)) {s : σ} {rs : List ρ} (hs : W s) :
    Along step P s rs ↔ Along step Q s rs := by
  induction rs generalizing s with
  | nil => exact Iff.rfl
  | cons r rs ih => rw [along_cons, along_cons, h s r hs, ih (hW s r hs)]

/-- An invariant kept by every step that meets the condition holds after
every run along which the condition is met. -/
theorem foldl_inv (I : σ → Prop) (hstep : ∀ s r, I s → P s r → I (step s r))
    {s : σ} {rs : List ρ} (hs : I s) (h : Along step P s rs) : I (rs.foldl step s) := by
  induction rs generalizing s with
  | nil => exact hs
  | cons r rs ih => exact ih (hstep s r hs h.1) h.2

/-- When the condition says exactly which steps keep an invariant, it says
exactly along which runs the invariant holds in every state. `W` is what
holds in every state of every run. -/
theorem forall_prefix_iff {W I : σ → Prop} (hW : ∀ s r, W s → W (step s r))
    (hstep : ∀ s r, W s → I s → (I (step s r) ↔ P s r)) {s : σ} {rs : List ρ} (hs : W s)
    (hI : I s) : (∀ pre, pre <+: rs → I (pre.foldl step s)) ↔ Along step P s rs := by
  induction rs generalizing s with
  | nil =>
    refine iff_of_true (fun pre hpre => ?_) trivial
    rw [List.prefix_nil.mp hpre]
    exact hI
  | cons r rs ih =>
    rw [along_cons, ← hstep s r hs hI]
    constructor
    · intro h
      have hfirst : I (step s r) := h [r] ⟨rs, rfl⟩
      refine ⟨hfirst, (ih (hW s r hs) hfirst).mp fun pre hpre => ?_⟩
      exact h (r :: pre) (List.cons_prefix_cons.mpr ⟨rfl, hpre⟩)
    · rintro ⟨hfirst, hrest⟩ pre hpre
      cases pre with
      | nil => exact hI
      | cons r' pre =>
        obtain ⟨rfl, htail⟩ := List.cons_prefix_cons.mp hpre
        exact (ih (hW s r' hs) hfirst).mpr hrest pre htail

end Along

end PetParadise.Store
