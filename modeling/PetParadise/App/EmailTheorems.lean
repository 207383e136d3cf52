/-
PetParadise.App.EmailTheorems — one account for each email.

Three pages add accounts: the sign-up form, the administrator's list of
emails and the sheet import. A fourth gives an account another email, the
link that confirms it. What keeps the emails apart in the end is the unique
index of `users.email`, which compares by the collation and refuses a
second one. The sign-up form and the link run into it: Devise validates an
email byte for byte, so a spelling that differs only to the bytes passes
the validation. The list and the sheet do not: both look an email up by
the collation and skip what is known (`create_not_recordNotUnique`,
`import_not_recordNotUnique`).

  §1 One statement — `exec_emailsDistinct`.
  §2 The lists     — they never meet the index.
  §3 Runs          — `emails_stay_distinct`, one request at a time and
                     under every schedule.
-/
import PetParadise.App.BulkAccountTheorems
import PetParadise.App.RequestPool

namespace PetParadise

open Store PetParadise.Action

section Accounts

variable [Env]

/-! ## §1 One statement -/

/-- No two accounts have one email, to the database. -/
def Db.EmailsDistinct (db : Db) : Prop :=
  ∀ u ∈ db.users.rows, ∀ v ∈ db.users.rows, sqlEq u.email v.email = true → u.id = v.id

instance (db : Db) : Decidable db.EmailsDistinct := by
  unfold Db.EmailsDistinct
  infer_instance

theorem Db.emailTaken_eq_false {db : Db} {i : Id} {email : String}
    (h : db.emailTaken i email = false) {u : User} (hu : u ∈ db.users.rows)
    (heq : sqlEq u.email email = true) : u.id = i := by
  by_contra hne
  have htaken : db.emailTaken i email = true :=
    List.any_eq_true.mpr ⟨u, hu, by simp [hne, heq]⟩
  rw [h] at htaken
  cases htaken

namespace Db.EmailsDistinct

variable {db db' : Db}

/-- A new account that the index lets through. -/
theorem insert (h : db.EmailsDistinct) {email password : String}
    (hfree : db.emailTaken db.users.next email = false)
    (hdb' : db'.users = db.users.insert { email := email, password := password }) :
    db'.EmailsDistinct := by
  have hnew : ∀ u ∈ db.users.rows, sqlEq u.email email = true → False := by
    intro u hu heq
    exact Nat.ne_of_lt (db.users.fresh u hu) (Db.emailTaken_eq_false hfree hu heq)
  intro u hu v hv heq
  rw [hdb', Table.rows_insert, List.mem_append, List.mem_singleton] at hu hv
  rcases hu with hu | rfl <;> rcases hv with hv | rfl
  · exact h u hu v hv heq
  · exact (hnew u hu heq).elim
  · rw [sqlEq_comm] at heq
    exact (hnew v hv heq).elim
  · rfl

/-- An account that takes an email the index lets through. -/
theorem withEmail (h : db.EmailsDistinct) {i : Id} {email : String}
    (hfree : db.emailTaken i email = false)
    (hdb' : db'.users = db.users.modify (·.id == i) (·.withEmail email) (·.withEmail_id email)) :
    db'.EmailsDistinct := by
  intro u' hu' v' hv' heq
  rw [hdb', Table.rows_modify, List.mem_map] at hu' hv'
  obtain ⟨u, hu, rfl⟩ := hu'
  obtain ⟨v, hv, rfl⟩ := hv'
  cases hui : u.id == i <;> cases hvi : v.id == i <;>
    simp only [hui, hvi, if_true, Bool.false_eq_true, if_false, User.withEmail] at heq ⊢
  · exact h u hu v hv heq
  · rw [Db.emailTaken_eq_false hfree hu heq] at hui
    simp at hui
  · rw [sqlEq_comm] at heq
    rw [Db.emailTaken_eq_false hfree hv heq] at hvi
    simp at hvi
  · rw [beq_iff_eq] at hui hvi
    rw [hui, hvi]

/-- Rewriting accounts without touching their emails. -/
theorem modify (h : db.EmailsDistinct) {p : User → Bool} {f : User → User}
    {hid : ∀ u, Row.id (f u) = Row.id u} (hdb' : db'.users = db.users.modify p f hid)
    (hemail : ∀ u, (f u).email = u.email) : db'.EmailsDistinct := by
  have hone : ∀ u, (if p u = true then f u else u).email = u.email ∧
      (if p u = true then f u else u).id = u.id := by
    intro u
    split
    · exact ⟨hemail u, hid u⟩
    · exact ⟨rfl, rfl⟩
  intro u' hu' v' hv' heq
  rw [hdb', Table.rows_modify, List.mem_map] at hu' hv'
  obtain ⟨u, hu, rfl⟩ := hu'
  obtain ⟨v, hv, rfl⟩ := hv'
  rw [(hone u).1, (hone v).1] at heq
  rw [(hone u).2, (hone v).2]
  exact h u hu v hv heq

end Db.EmailsDistinct

/-- Whatever a statement does to the accounts, the index has let it
through. -/
theorem exec_emailsDistinct {w : Stmt} {db db' : Db} (hexec : exec w db = .ok db')
    (h : db.EmailsDistinct) : db'.EmailsDistinct := by
  rcases exec_users hexec with hu | ⟨email, password, rfl, hu⟩ | ⟨i, p, rfl, hu⟩ |
    ⟨i, password, rfl, hu⟩ | ⟨i, email, rfl, hu⟩ | ⟨i, role, rfl, hu⟩ | ⟨i, rfl, hu⟩
  · rw [Db.EmailsDistinct, hu]
    exact h
  · exact h.insert (exec_insertUser_ok hexec).2.1 hu
  · refine h.modify hu fun u => ?_
    rw [User.assign]
    split <;> rfl
  · exact h.modify hu fun _ => rfl
  · exact h.withEmail (exec_updateEmail_ok hexec).2.1 hu
  · refine h.modify hu fun u => ?_
    rw [User.addRole]
    split <;> rfl
  · intro u hmem v hmem'
    rw [hu, Table.rows_delete] at hmem hmem'
    exact h u (List.mem_of_mem_filter hmem) v (List.mem_of_mem_filter hmem')

/-! ## §2 The lists -/

/-- A page that runs a loop fails as one pass of the loop does. -/
theorem each_not_error {β : Type} {f : β → Action Unit} {e : Failure}
    (hf : ∀ b db, ((f b).eval db).1 ≠ .error e) (bs : List β) (response : Response) (db : Db) :
    (Action.eval (Prog.each bs f >>= fun _ => pure response) db).1 ≠ .error e := by
  cases hrun : Action.eval (Prog.each bs f) db with
  | mk outcome db' =>
    cases outcome with
    | ok a =>
      rw [eval_bind_ok hrun]
      nofun
    | error e' =>
      rw [eval_bind_error hrun]
      rintro ⟨⟩
      obtain ⟨_, b, _, db₁, _, _, hb⟩ := Prog.run_each_error exec hrun
      exact hf b db₁ (congrArg Prod.fst hb)

namespace UsersController

theorem createOne_not_recordNotUnique (role : Option String) (password : String)
    (email : Option String) (db : Db) :
    ((createOne role password email).eval db).1 ≠ .error .recordNotUnique := by
  cases email with
  | none =>
    rw [createOne_eval_none]
    nofun
  | some email =>
    rw [createOne_eval]
    split
    · split <;> nofun
    · split <;> nofun

theorem importRow_not_recordNotUnique (password : String) (row : List Cell) (db : Db) :
    ((importRow password row).eval db).1 ≠ .error .recordNotUnique := by
  have hrole : ∀ cell e, importRole cell = .error e → e = .noMethodError := by
    intro cell e h
    cases cell <;> cases h <;> rfl
  rw [importRow_eval]
  split
  · nofun
  · split
    · split
      · next e he =>
        rw [hrole _ e he]
        nofun
      · nofun
    · split <;> nofun

/-- The administrator's list skips what is known and never meets the
index. -/
theorem create_not_recordNotUnique (u : User) (emails : Option (List (Option String)))
    (role : Option String) (password : String) (db : Db) :
    ((UsersController.create u emails role password).eval db).1 ≠ .error .recordNotUnique := by
  unfold UsersController.create authorize
  split
  · cases emails with
    | none => nofun
    | some emails => exact each_not_error (createOne_not_recordNotUnique role password) emails _ db
  · nofun

/-- So does the sheet. -/
theorem import_not_recordNotUnique (u : User) (sheet : Option (List (List Cell)))
    (password : String) (db : Db) :
    ((UsersController.import u sheet password).eval db).1 ≠ .error .recordNotUnique := by
  unfold UsersController.import authorize
  split
  · cases sheet with
    | none => nofun
    | some rows =>
      exact each_not_error (importRow_not_recordNotUnique password) (rows.drop 1) _ db
  · nofun

end UsersController

/-! ## §3 Runs -/

/-- **No two accounts share an email.** Accounts with different emails stay
so, whatever is signed up, listed, imported, confirmed, renamed or removed:
along every run of requests, one at a time, and under every schedule of
requests at work at the same time. The administrator's lists and sheets
never need the index for it: they skip every email that is known. -/
theorem emails_stay_distinct (db : Db) (rs : List Request) (schedule : List Nat)
    (h : db.EmailsDistinct) :
    (runFrom db rs).EmailsDistinct ∧
    ((requestPool db rs).run exec schedule).store.EmailsDistinct ∧
    ∀ u password,
      (∀ emails role, ((UsersController.create u emails role password).eval (runFrom db rs)).1 ≠
        .error .recordNotUnique) ∧
      ∀ sheet, ((UsersController.import u sheet password).eval (runFrom db rs)).1 ≠
        .error .recordNotUnique := by
  refine ⟨?_, ?_, fun u password => ⟨fun emails role => ?_, fun sheet => ?_⟩⟩
  · exact List.foldlRecOn rs step h fun _ hx _ _ =>
      step_inv Db.EmailsDistinct (fun _ _ _ _ => exec_emailsDistinct) hx
  · exact Pool.run_rel (R := fun x y => x.EmailsDistinct → y.EmailsDistinct) (fun _ hx => hx)
      (fun _ _ _ hxy hyz hx => hyz (hxy hx)) (fun _ _ _ => exec_emailsDistinct)
      (requestPool db rs) schedule h
  · exact UsersController.create_not_recordNotUnique u emails role password _
  · exact UsersController.import_not_recordNotUnique u sheet password _

end Accounts

/-- The administrator's list and a sheet with the same email in other
spellings, a sign-up with it, a link that confirms another, and a link that
asks for the administrator's. -/
def spellings : List Request :=
  [.user (some 1) (.users (.create (some [some "Ann@Pet.vn", some "bob@pet.vn"]) (some "user")
      "secret1")),
    .user (some 1) (.users (.import
      (some [[], [.text " ANN@pet.vn", .text "user"], [.text "cat@pet.vn", .num 1]]) "secret2")),
    .open (.signUp "ann@PET.vn" "secret3" none),
    .open (.confirm 3 "Dan@pet.vn"),
    .open (.confirm 3 "Admin@pet.vn")]

section Example

attribute [local instance] Env.caseInsensitive

theorem emails_stay_distinct_spellings :
    firstAdmin.EmailsDistinct ∧
    (runFrom firstAdmin spellings).users.rows.map User.email =
      ["admin@pet.vn", "ann@pet.vn", "dan@pet.vn", "cat@pet.vn"] ∧
    (runFrom firstAdmin spellings).EmailsDistinct := by
  have hdistinct : firstAdmin.EmailsDistinct := by decide +kernel
  exact ⟨hdistinct, by decide +kernel,
    (emails_stay_distinct firstAdmin spellings [] hdistinct).1⟩

end Example

end PetParadise
