/-
PetParadise.Store.Prog — programs that talk to a store one statement at a
time.

A `Prog` is the tree of everything a piece of code may do: return, raise,
or issue one statement and go on with a continuation that is given the
store as the statement met it. The tree fixes no schedule. The same
program is read in three ways:

  * `run`    — alone, from start to end. A raised error keeps whatever the
               earlier statements wrote: there is no transaction here.
  * `Pool`   — interleaved with other programs (`PetParadise.Store.Pool`).
  * a FAULTY executor — any executor that may refuse a statement the real
               one accepts (`Faulty`), for reasoning about failing writes.

`exec` is a parameter: what a statement does to the store belongs to the
application, not to this module. Statements that read leave the store
alone under `exec`; their result is computed by the continuation.

`Only P` says that every statement a program can ever issue satisfies
`P`, whatever the store answers. It is the frame rule of this library:
`run_inv` carries an invariant over a run from a fact about single
statements.
-/
import PetParadise.Store.Table

namespace PetParadise.Store

/-- A program over stores `σ`, statements `ω` and errors `ε`. -/
inductive Prog (σ ω ε α : Type) where
  | ret (a : α)
  | raise (e : ε)
  | stmt (w : ω) (k : σ → Prog σ ω ε α)

namespace Prog

variable {σ ω ε α β γ : Type}

/-! ## Sequencing -/

def bind : Prog σ ω ε α → (α → Prog σ ω ε β) → Prog σ ω ε β
  | .ret a, f => f a
  | .raise e, _ => .raise e
  | .stmt w k, f => .stmt w (fun s => (k s).bind f)

instance : Monad (Prog σ ω ε) where
  pure := .ret
  bind := Prog.bind

@[simp] theorem pure_eq (a : α) : (pure a : Prog σ ω ε α) = .ret a := rfl

@[simp] theorem ret_bind (a : α) (f : α → Prog σ ω ε β) : (.ret a >>= f) = f a := rfl

@[simp] theorem raise_bind (e : ε) (f : α → Prog σ ω ε β) :
    ((.raise e : Prog σ ω ε α) >>= f) = .raise e := rfl

@[simp] theorem stmt_bind (w : ω) (k : σ → Prog σ ω ε α) (f : α → Prog σ ω ε β) :
    (.stmt w k >>= f) = .stmt w (fun s => k s >>= f) := rfl

theorem bind_ret (p : Prog σ ω ε α) : (p >>= .ret) = p := by
  induction p with
  | ret a => rfl
  | raise e => rfl
  | stmt w k ih => rw [stmt_bind]; congr 1; funext s; exact ih s

theorem bind_assoc' (p : Prog σ ω ε α) (f : α → Prog σ ω ε β) (g : β → Prog σ ω ε γ) :
    (p >>= f >>= g) = (p >>= fun a => f a >>= g) := by
  induction p with
  | ret a => rfl
  | raise e => rfl
  | stmt w k ih => simp only [stmt_bind]; congr 1; funext s; exact ih s

instance : LawfulMonad (Prog σ ω ε) :=
  LawfulMonad.mk' _ (fun p => bind_ret p) (fun _ _ => rfl) bind_assoc'

/-! ## Building blocks -/

/-- Issue a statement for its effect. -/
def perform (w : ω) : Prog σ ω ε Unit := .stmt w (fun _ => .ret ())

/-- Issue a statement and keep what `f` reads off the store it met. -/
def query (w : ω) (f : σ → α) : Prog σ ω ε α := .stmt w (fun s => .ret (f s))

/-- The value, or the error its absence causes. -/
def orRaise (o : Option α) (e : ε) : Prog σ ω ε α :=
  match o with
  | some a => .ret a
  | none => .raise e

/-- A computation that needs no statement. -/
def ofExcept : Except ε α → Prog σ ω ε α
  | .ok a => .ret a
  | .error e => .raise e

/-- Run the body for each element, in order. -/
def each : List β → (β → Prog σ ω ε Unit) → Prog σ ω ε Unit
  | [], _ => .ret ()
  | b :: bs, f => f b >>= fun _ => each bs f

/-- Run the body `n` times. -/
def times : Nat → Prog σ ω ε Unit → Prog σ ω ε Unit
  | 0, _ => .ret ()
  | n + 1, p => p >>= fun _ => times n p

@[simp] theorem perform_bind (w : ω) (f : Unit → Prog σ ω ε β) :
    (perform w >>= f) = .stmt w (fun _ => f ()) := rfl

@[simp] theorem query_bind (w : ω) (g : σ → α) (f : α → Prog σ ω ε β) :
    (query w g >>= f) = .stmt w (fun s => f (g s)) := rfl

@[simp] theorem orRaise_some (a : α) (e : ε) :
    (orRaise (some a) e : Prog σ ω ε α) = .ret a := rfl

@[simp] theorem orRaise_none (e : ε) :
    (orRaise none e : Prog σ ω ε α) = .raise e := rfl

@[simp] theorem ofExcept_ok (a : α) :
    (ofExcept (.ok a) : Prog σ ω ε α) = .ret a := rfl

@[simp] theorem ofExcept_error (e : ε) :
    (ofExcept (.error e) : Prog σ ω ε α) = .raise e := rfl

theorem ofExcept_bind (x : Except ε α) (f : α → Except ε β) :
    (ofExcept (x >>= f) : Prog σ ω ε β) = (ofExcept x >>= fun a => ofExcept (f a)) := by
  cases x <;> rfl

@[simp] theorem each_nil (f : β → Prog σ ω ε Unit) : each [] f = .ret () := rfl

@[simp] theorem each_cons (b : β) (bs : List β) (f : β → Prog σ ω ε Unit) :
    each (b :: bs) f = (f b >>= fun _ => each bs f) := rfl

theorem each_map (f : β → Prog σ ω ε Unit) (g : γ → β) (cs : List γ) :
    each (cs.map g) f = each cs (fun c => f (g c)) := by
  induction cs with
  | nil => rfl
  | cons c cs ih => rw [List.map_cons, each_cons, each_cons, ih]

/-! ## Running alone -/

section Run

variable (exec : ω → σ → Except ε σ)

/-- Run a program with nobody else at the store: its outcome and the
store it leaves. -/
def run : Prog σ ω ε α → σ → Except ε α × σ
  | .ret a, s => (.ok a, s)
  | .raise e, s => (.error e, s)
  | .stmt w k, s =>
      match exec w s with
      | .ok s' => (k s).run s'
      | .error e => (.error e, s)

/-- The statements such a run executes, in order. -/
def log : Prog σ ω ε α → σ → List ω
  | .ret _, _ => []
  | .raise _, _ => []
  | .stmt w k, s =>
      match exec w s with
      | .ok s' => w :: (k s).log s'
      | .error _ => []

@[simp] theorem run_ret (a : α) (s : σ) :
    (.ret a : Prog σ ω ε α).run exec s = (.ok a, s) := rfl

@[simp] theorem run_raise (e : ε) (s : σ) :
    (.raise e : Prog σ ω ε α).run exec s = (.error e, s) := rfl

theorem run_stmt (w : ω) (k : σ → Prog σ ω ε α) (s : σ) :
    (.stmt w k : Prog σ ω ε α).run exec s =
      match exec w s with
      | .ok s' => (k s).run exec s'
      | .error e => (.error e, s) := rfl

theorem run_stmt_ok {w : ω} {s s' : σ} (h : exec w s = .ok s') (k : σ → Prog σ ω ε α) :
    (.stmt w k : Prog σ ω ε α).run exec s = (k s).run exec s' := by
  rw [run_stmt, h]

theorem run_stmt_error {w : ω} {s : σ} {e : ε} (h : exec w s = .error e)
    (k : σ → Prog σ ω ε α) :
    (.stmt w k : Prog σ ω ε α).run exec s = (.error e, s) := by
  rw [run_stmt, h]

@[simp] theorem log_ret (a : α) (s : σ) : (.ret a : Prog σ ω ε α).log exec s = [] := rfl

@[simp] theorem log_raise (e : ε) (s : σ) : (.raise e : Prog σ ω ε α).log exec s = [] := rfl

theorem log_stmt_ok {w : ω} {s s' : σ} (h : exec w s = .ok s') (k : σ → Prog σ ω ε α) :
    (.stmt w k : Prog σ ω ε α).log exec s = w :: (k s).log exec s' := by
  rw [log, h]

theorem log_stmt_error {w : ω} {s : σ} {e : ε} (h : exec w s = .error e)
    (k : σ → Prog σ ω ε α) :
    (.stmt w k : Prog σ ω ε α).log exec s = [] := by
  rw [log, h]

/-- A run of `p >>= f` is a run of `p`, then of `f` if `p` returned. -/
theorem run_bind (p : Prog σ ω ε α) (f : α → Prog σ ω ε β) (s : σ) :
    (p >>= f).run exec s =
      match p.run exec s with
      | (.ok a, s') => (f a).run exec s'
      | (.error e, s') => (.error e, s') := by
  induction p generalizing s with
  | ret a => rfl
  | raise e => rfl
  | stmt w k ih =>
    rw [stmt_bind, run_stmt, run_stmt]
    cases exec w s with
    | ok s' => exact ih s s'
    | error e => rfl

theorem run_bind_ok {p : Prog σ ω ε α} {s s' : σ} {a : α}
    (h : p.run exec s = (.ok a, s')) (f : α → Prog σ ω ε β) :
    (p >>= f).run exec s = (f a).run exec s' := by
  rw [run_bind, h]

theorem run_bind_error {p : Prog σ ω ε α} {s s' : σ} {e : ε}
    (h : p.run exec s = (.error e, s')) (f : α → Prog σ ω ε β) :
    (p >>= f).run exec s = (.error e, s') := by
  rw [run_bind, h]

/-- A run of `p >>= f` that returns went through a return of `p`. -/
theorem run_bind_inv {p : Prog σ ω ε α} {f : α → Prog σ ω ε β} {s s'' : σ} {b : β}
    (h : (p >>= f).run exec s = (.ok b, s'')) :
    ∃ a s', p.run exec s = (.ok a, s') ∧ (f a).run exec s' = (.ok b, s'') := by
  rw [run_bind] at h
  split at h
  · next a s' hp => exact ⟨a, s', hp, h⟩
  · next e s' hp => cases h

/-- A loop whose body always returns is a fold over what the body does. -/
theorem run_each {f : β → Prog σ ω ε Unit} {g : σ → β → σ} {bs : List β}
    (hf : ∀ b ∈ bs, ∀ s, (f b).run exec s = (.ok (), g s b)) (s : σ) :
    (each bs f).run exec s = (.ok (), bs.foldl g s) := by
  induction bs generalizing s with
  | nil => rfl
  | cons b bs ih =>
    rw [each_cons, run_bind_ok exec (hf b List.mem_cons_self s)]
    exact ih (fun b' hb' => hf b' (List.mem_cons_of_mem _ hb')) (g s b)

/-- What the body keeps the loop keeps, also where it fails. -/
theorem run_each_inv {I : σ → Prop} {f : β → Prog σ ω ε Unit} {bs : List β}
    (hf : ∀ b ∈ bs, ∀ s, I s → I ((f b).run exec s).2) {s : σ} (hs : I s) :
    I ((each bs f).run exec s).2 := by
  induction bs generalizing s with
  | nil => exact hs
  | cons b bs ih =>
    have hb := hf b List.mem_cons_self s hs
    have hrest : ∀ {s}, I s → I ((each bs f).run exec s).2 :=
      ih fun b' hb' => hf b' (List.mem_cons_of_mem _ hb')
    rw [each_cons, run_bind]
    split
    · next hrun => rw [hrun] at hb; exact hrest hb
    · next hrun => rw [hrun] at hb; exact hb

/-- A loop that fails went through the elements before one at which its
body fails. -/
theorem run_each_error {f : β → Prog σ ω ε Unit} {bs : List β} {s s' : σ} {e : ε}
    (h : (each bs f).run exec s = (.error e, s')) :
    ∃ before b after s₁, bs = before ++ b :: after ∧
      (each before f).run exec s = (.ok (), s₁) ∧ (f b).run exec s₁ = (.error e, s') := by
  induction bs generalizing s with
  | nil => cases h
  | cons b bs ih =>
    rw [each_cons, run_bind] at h
    split at h
    · next s₁ hb =>
      obtain ⟨before, c, after, s₂, rfl, hbefore, hc⟩ := ih h
      refine ⟨b :: before, c, after, s₂, rfl, ?_, hc⟩
      rw [each_cons, run_bind_ok exec hb, hbefore]
    · next hb =>
      cases h
      exact ⟨[], b, bs, s, rfl, rfl, hb⟩

end Run

/-! ## Which statements a program can issue -/

/-- Every statement the program can issue satisfies `P`, whatever the
store answers on the way. -/
def Only (P : ω → Prop) : Prog σ ω ε α → Prop
  | .ret _ => True
  | .raise _ => True
  | .stmt w k => P w ∧ ∀ s, (k s).Only P

variable {P Q : ω → Prop}

@[simp] theorem only_ret (a : α) : (.ret a : Prog σ ω ε α).Only P := trivial

@[simp] theorem only_raise (e : ε) : (.raise e : Prog σ ω ε α).Only P := trivial

@[simp] theorem only_stmt (w : ω) (k : σ → Prog σ ω ε α) :
    (.stmt w k : Prog σ ω ε α).Only P ↔ P w ∧ ∀ s, (k s).Only P := Iff.rfl

@[simp] theorem only_perform (w : ω) : (perform w : Prog σ ω ε Unit).Only P ↔ P w := by
  simp [perform]

@[simp] theorem only_query (w : ω) (f : σ → α) :
    (query w f : Prog σ ω ε α).Only P ↔ P w := by
  simp only [query, only_stmt, only_ret, and_iff_left_iff_imp]
  exact fun _ _ => trivial

@[simp] theorem only_orRaise (o : Option α) (e : ε) :
    (orRaise o e : Prog σ ω ε α).Only P := by
  cases o <;> trivial

@[simp] theorem only_ofExcept (x : Except ε α) :
    (ofExcept x : Prog σ ω ε α).Only P := by
  cases x <;> trivial

theorem only_bind {p : Prog σ ω ε α} {f : α → Prog σ ω ε β}
    (hp : p.Only P) (hf : ∀ a, (f a).Only P) : (p >>= f).Only P := by
  induction p with
  | ret a => exact hf a
  | raise e => trivial
  | stmt w k ih => exact ⟨hp.1, fun s => ih s (hp.2 s)⟩

theorem only_each {f : β → Prog σ ω ε Unit} (hf : ∀ b, (f b).Only P) :
    ∀ bs : List β, (each bs f).Only P
  | [] => trivial
  | b :: bs => only_bind (hf b) (fun _ => only_each hf bs)

theorem only_times {p : Prog σ ω ε Unit} (hp : p.Only P) :
    ∀ n, (times n p).Only P
  | 0 => trivial
  | n + 1 => only_bind hp (fun _ => only_times hp n)

theorem Only.mono {p : Prog σ ω ε α} (h : p.Only P) (hPQ : ∀ w, P w → Q w) : p.Only Q := by
  induction p with
  | ret a => trivial
  | raise e => trivial
  | stmt w k ih => exact ⟨hPQ w h.1, fun s => ih s (h.2 s)⟩

/-- An invariant that every admitted statement keeps is kept by a whole
run, whether it returns or raises. -/
theorem run_inv {exec : ω → σ → Except ε σ} (I : σ → Prop)
    (hstep : ∀ w s s', P w → exec w s = .ok s' → I s → I s')
    {p : Prog σ ω ε α} (hp : p.Only P) {s : σ} (hs : I s) : I (p.run exec s).2 := by
  induction p generalizing s with
  | ret a => exact hs
  | raise e => exact hs
  | stmt w k ih =>
    cases hw : exec w s with
    | ok s' => rw [run_stmt_ok exec hw]; exact ih s (hp.2 s) (hstep w s s' hp.1 hw hs)
    | error e => rw [run_stmt_error exec hw]; exact hs

/-- Nothing else is ever executed. -/
theorem mem_log_of_only {exec : ω → σ → Except ε σ} {p : Prog σ ω ε α} (hp : p.Only P) {s : σ}
    {w : ω} (hw : w ∈ p.log exec s) : P w := by
  induction p generalizing s with
  | ret a => cases hw
  | raise e => cases hw
  | stmt w' k ih =>
    cases hexec : exec w' s with
    | error e => rw [log_stmt_error exec hexec] at hw; cases hw
    | ok s' =>
      rw [log_stmt_ok exec hexec] at hw
      rcases List.mem_cons.mp hw with rfl | hw
      · exact hp.1
      · exact ih s (hp.2 s) hw

/-! ## Failing statements -/

/-- `exec'` does what `exec` does, except that it may also fail, at any
statement and in any store. -/
def Faulty (exec exec' : ω → σ → Except ε σ) : Prop :=
  ∀ w s, exec' w s = exec w s ∨ ∃ e, exec' w s = .error e

theorem Faulty.exec_of_ok {exec exec' : ω → σ → Except ε σ} (h : Faulty exec exec')
    {w : ω} {s s' : σ} (hok : exec' w s = .ok s') : exec w s = .ok s' := by
  rcases h w s with heq | ⟨e, he⟩
  · rw [← heq, hok]
  · rw [he] at hok; cases hok

/-- Whatever error ends the program, `O` holds of the statements executed
before it and of the store they left. -/
def FailsWith (exec' : ω → σ → Except ε σ) (O : List ω → σ → Prop) (p : Prog σ ω ε α) (s : σ) :
    Prop :=
  ∀ e s', p.run exec' s = (.error e, s') → O (p.log exec' s) s'

namespace FailsWith

variable {exec exec' : ω → σ → Except ε σ} {O O' : List ω → σ → Prop} {p : Prog σ ω ε α} {s : σ}

theorem mono (h : FailsWith exec' O p s) (hO : ∀ l s', O l s' → O' l s') :
    FailsWith exec' O' p s := fun e s' hrun => hO _ _ (h e s' hrun)

/-- A program that returns does not fail. -/
theorem ret (a : α) : FailsWith exec' O (.ret a : Prog σ ω ε α) s := by
  intro e s' hrun
  cases hrun

/-- One statement under a faulty executor: it fails and the program ends
there, or it does what it should and the program goes on. -/
theorem stmt (hf : Faulty exec exec') {w : ω} {k : σ → Prog σ ω ε α} (hfail : O [] s)
    (hok : ∀ s', exec w s = .ok s' → FailsWith exec' (fun l => O (w :: l)) (k s) s') :
    FailsWith exec' O (.stmt w k) s := by
  intro e s' hrun
  cases hw : exec' w s with
  | error e' =>
    rw [run_stmt_error exec' hw] at hrun
    cases hrun
    rw [log_stmt_error exec' hw]
    exact hfail
  | ok s₁ =>
    rw [run_stmt_ok exec' hw] at hrun
    rw [log_stmt_ok exec' hw]
    exact hok s₁ (hf.exec_of_ok hw) e s' hrun

end FailsWith

end Prog

end PetParadise.Store
