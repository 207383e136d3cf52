/-
PetParadise.App.BulkAccountTheorems — a list of emails as a set.

`UsersController#create` looks every email up before it saves it, so a list
with repetitions in any spelling adds each account once. Which spellings
are one email is not decided by the controller alone: blanks and letter
case are normalised away, and what is left is compared by the database,
under the collation of the schema. Two emails that the collation identifies
are one account, and the spelling that is stored is the first of the list.
An email or a role that does not fit its column raises in the middle of the
loop; the results are about lists without one (`UsersController.Fits`).

  §1 One list  — `BulkAdded`, built up email by email (`bulkAdded_foldl`).
  §2 Any order — `registered_foldl`: who is registered afterwards depends on
                 the emails of the list only.
  §3 Requests  — `create_is_set_semantics`, with a list of seven spellings;
                 two emails whose order matters, and one that is too long.
-/
import PetParadise.App.AccountTheorems

namespace PetParadise

open Store PetParadise.Action UsersController

section Bulk

variable [Env]

/-! ## §1 One list -/

/-- An account has this email, to the database. -/
def Db.Registered (db : Db) (email : String) : Prop :=
  ∃ u ∈ db.users.rows, sqlEq u.email email = true

theorem Db.accepts_iff {db : Db} {email : String} :
    db.accepts email = true ↔
      emailRegexp (normalizeEmail email) = true ∧ ¬ db.Registered (normalizeEmail email) := by
  simp only [Db.accepts, Db.findForAuthentication, Bool.and_eq_true, Option.isNone_iff_eq_none,
    List.find?_eq_none, Db.Registered, not_exists, not_and]
  exact and_comm

theorem Db.adds_iff {db : Db} {email : String} :
    db.adds email = true ↔
      (emailRegexp (normalizeEmail email) = true ∧ ¬ db.Registered (normalizeEmail email)) ∧
        fitsString (some (normalizeEmail email)) = true := by
  rw [Db.adds, Bool.and_eq_true, Db.accepts_iff]

/-- The role and every well-formed email of a list fit their columns. -/
structure UsersController.Fits (emails : List (Option String)) (role : Option String) : Prop where
  role : fitsString (some (roleName role)) = true
  email : ∀ e, some e ∈ emails → emailRegexp (normalizeEmail e) = true →
    fitsString (some (normalizeEmail e)) = true

omit [Env] in
theorem UsersController.Fits.tail {email : Option String} {emails : List (Option String)}
    {role : Option String} (h : Fits (email :: emails) role) : Fits emails role :=
  ⟨h.role, fun e he => h.email e (List.mem_cons_of_mem _ he)⟩

theorem Db.registered_created {db : Db} {user : User} {chat : Bool} {text : String} :
    (db.created user chat).Registered text ↔
      db.Registered text ∨ sqlEq user.email text = true := by
  simp only [Db.Registered, Db.created, Table.rows_insert, List.mem_append, List.mem_singleton,
    or_and_right, exists_or, exists_eq_left]
  rfl

/-- The account that an email of the list gets. -/
def UsersController.newAccount (role : Option String) (password email : String) : User where
  email := normalizeEmail email
  password := password
  roles := [roleName role]

/-- What one email of such a list does. -/
def UsersController.addEmail (role : Option String) (password : String) (db : Db) :
    Option String → Db
  | none => db
  | some email =>
      if db.adds email then db.created (newAccount role password email) (roleHasChat role) else db

/-- A list that fits goes through. -/
theorem UsersController.Fits.eval_each {emails : List (Option String)} {role : Option String}
    (h : Fits emails role) (password : String) (db : Db) :
    Action.eval (Prog.each emails (createOne role password)) db =
      (.ok (), emails.foldl (addEmail role password) db) := by
  refine Action.eval_each (fun email hemail db => ?_) db
  cases email with
  | none => exact createOne_eval_none db role password
  | some e =>
    rw [createOne_eval, if_pos h.role, addEmail]
    cases hadds : db.adds e with
    | true => rfl
    | false =>
      -- what is new and well formed fits
      have haccepts : db.accepts e = false := by
        rw [Bool.eq_false_iff]
        intro haccepts
        have hfits := h.email e hemail (Db.accepts_iff.mp haccepts).1
        rw [Db.adds, haccepts, hfits] at hadds
        cases hadds
      rw [haccepts]
      rfl

/-- `new` is what a list of emails adds to a database. -/
structure BulkAdded (db : Db) (emails : List (Option String)) (role : Option String)
    (password : String) (new : List User) (db' : Db) : Prop where
  /-- The accounts from before are kept, as they are. -/
  users : db'.users.rows = db.users.rows ++ new
  /-- So are the chats, and only new accounts get one. -/
  chats : ∃ chats, db'.chats.rows = db.chats.rows ++ chats ∧
    chats.map (·.senderId) = if roleHasChat role then new.map (fun v => some v.id) else []
  frame : db' = { db with users := db'.users, chats := db'.chats }
  /-- A new account has the role that was asked for, and an email of the
  list that is well formed and was not registered. -/
  account : ∀ v ∈ new, ∃ e, some e ∈ emails ∧ emailRegexp (normalizeEmail e) = true ∧
    ¬ db.Registered (normalizeEmail e) ∧ v = { newAccount role password e with id := v.id }
  /-- No two of them have the same email. -/
  distinct : new.Pairwise (fun v w => sqlEq v.email w.email = false)
  /-- Every such email of the list has its account. -/
  complete : ∀ e, some e ∈ emails → emailRegexp (normalizeEmail e) = true →
    ¬ db.Registered (normalizeEmail e) → ∃ v ∈ new, sqlEq v.email (normalizeEmail e) = true

section BulkAdded

variable {db db' : Db} {emails : List (Option String)} {role : Option String} {password : String}
  {new : List User}

theorem BulkAdded.nil (db : Db) (role : Option String) (password : String) :
    BulkAdded db [] role password [] db where
  users := by simp
  chats := ⟨[], by simp, by simp⟩
  frame := rfl
  account := by simp
  distinct := .nil
  complete := by simp

/-- An email that adds nothing: it is not one, it is malformed or it is
registered. -/
theorem BulkAdded.skip (h : BulkAdded db emails role password new db')
    {email : Option String} (hemail : ∀ e, email = some e → db.accepts e = false) :
    BulkAdded db (email :: emails) role password new db' where
  users := h.users
  chats := h.chats
  frame := h.frame
  account v hv := by
    obtain ⟨e, he, hrest⟩ := h.account v hv
    exact ⟨e, List.mem_cons_of_mem _ he, hrest⟩
  distinct := h.distinct
  complete e he hform hnew := by
    rcases List.mem_cons.mp he with he | he
    · have haccepts : db.accepts e = true := Db.accepts_iff.mpr ⟨hform, hnew⟩
      rw [hemail e he.symm] at haccepts
      cases haccepts
    · exact h.complete e he hform hnew

theorem BulkAdded.email_eq (h : BulkAdded db emails role password new db') {v : User}
    (hv : v ∈ new) :
    ∃ e, some e ∈ emails ∧ emailRegexp (normalizeEmail e) = true ∧
      ¬ db.Registered v.email ∧ v.email = normalizeEmail e := by
  obtain ⟨e, he, hform, hnew, heq⟩ := h.account v hv
  have hemail : v.email = normalizeEmail e := by rw [heq]; rfl
  exact ⟨e, he, hform, hemail ▸ hnew, hemail⟩

/-- An email that adds an account, and then the rest of the list. -/
theorem BulkAdded.cons {e : String} (hadds : db.adds e = true)
    (h : BulkAdded (db.created (newAccount role password e) (roleHasChat role)) emails role
      password new db') :
    BulkAdded db (some e :: emails) role password
      ({ newAccount role password e with id := db.users.next } :: new) db' := by
  obtain ⟨⟨hform, hnew⟩, -⟩ := Db.adds_iff.mp hadds
  have hothers : ∀ v ∈ new, ¬ db.Registered v.email ∧ sqlEq (normalizeEmail e) v.email = false := by
    intro v hv
    obtain ⟨-, -, -, hnot, -⟩ := h.email_eq hv
    rw [Db.registered_created, not_or, Bool.not_eq_true] at hnot
    exact hnot
  constructor
  case users =>
    rw [h.users]
    simp [Db.created, Row.withId]
  case chats =>
    obtain ⟨chats, hrows, hsenders⟩ := h.chats
    cases hchat : roleHasChat role with
    | false => exact ⟨chats, by simpa [Db.created, hchat] using hrows, by simp [hsenders, hchat]⟩
    | true =>
      refine ⟨{ id := db.chats.next, senderId := some db.users.next } :: chats, ?_, ?_⟩
      · simpa [Db.created, hchat, Row.withId] using hrows
      · simp [hsenders, hchat]
  case frame =>
    rw [h.frame]
    rfl
  case account =>
    intro v hv
    rcases List.mem_cons.mp hv with rfl | hv
    · exact ⟨e, List.mem_cons_self, hform, hnew, rfl⟩
    · obtain ⟨e', he', hform', -, heq⟩ := h.account v hv
      have hemail : v.email = normalizeEmail e' := by rw [heq]; rfl
      exact ⟨e', List.mem_cons_of_mem _ he', hform', hemail ▸ (hothers v hv).1, heq⟩
  case distinct => exact List.pairwise_cons.mpr ⟨fun v hv => (hothers v hv).2, h.distinct⟩
  case complete =>
    intro e' he' hform' hnew'
    by_cases hfirst : sqlEq (normalizeEmail e) (normalizeEmail e') = true
    · exact ⟨_, List.mem_cons_self, hfirst⟩
    · rcases List.mem_cons.mp he' with he' | he'
      · cases he'
        exact absurd (sqlEq_rfl _) hfirst
      · have hstill : ¬ (db.created (newAccount role password e) (roleHasChat role)).Registered
            (normalizeEmail e') := by
          rw [Db.registered_created, not_or]
          exact ⟨hnew', hfirst⟩
        obtain ⟨v, hv, hsame⟩ := h.complete e' he' hform' hstill
        exact ⟨v, List.mem_cons_of_mem _ hv, hsame⟩

theorem bulkAdded_foldl (db : Db) {emails : List (Option String)} {role : Option String}
    (hfits : Fits emails role) (password : String) :
    ∃ new, BulkAdded db emails role password new (emails.foldl (addEmail role password) db) := by
  induction emails generalizing db with
  | nil => exact ⟨[], .nil db role password⟩
  | cons email emails ih =>
    rw [List.foldl_cons]
    cases email with
    | none =>
      obtain ⟨new, h⟩ := ih db hfits.tail
      exact ⟨new, h.skip (by simp)⟩
    | some e =>
      cases haccepts : db.accepts e with
      | false =>
        have hone : addEmail role password db (some e) = db := by
          simp [addEmail, Db.adds, haccepts]
        rw [hone]
        obtain ⟨new, h⟩ := ih db hfits.tail
        exact ⟨new, h.skip (by rintro _ ⟨⟩; exact haccepts)⟩
      | true =>
        have hadds : db.adds e = true :=
          Db.adds_iff.mpr ⟨Db.accepts_iff.mp haccepts,
            hfits.email e List.mem_cons_self (Db.accepts_iff.mp haccepts).1⟩
        have hone : addEmail role password db (some e) =
            db.created (newAccount role password e) (roleHasChat role) := by
          simp [addEmail, hadds]
        rw [hone]
        obtain ⟨new, h⟩ := ih _ hfits.tail
        exact ⟨_, h.cons hadds⟩

/-! ## §2 Any order -/

/-- Who is registered after a list: who was before, and every well-formed
email of the list. -/
theorem BulkAdded.registered_iff (h : BulkAdded db emails role password new db')
    (text : String) :
    db'.Registered text ↔ db.Registered text ∨
      ∃ e, some e ∈ emails ∧ emailRegexp (normalizeEmail e) = true ∧
        sqlEq (normalizeEmail e) text = true := by
  have hsplit : db'.Registered text ↔
      db.Registered text ∨ ∃ v ∈ new, sqlEq v.email text = true := by
    simp only [Db.Registered, h.users, List.mem_append, or_and_right, exists_or]
  rw [hsplit]
  constructor
  · rintro (hold | ⟨v, hv, hsame⟩)
    · exact .inl hold
    · obtain ⟨e, he, hform, -, hemail⟩ := h.email_eq hv
      exact .inr ⟨e, he, hform, hemail ▸ hsame⟩
  · rintro (hold | ⟨e, he, hform, hsame⟩)
    · exact .inl hold
    · by_cases hknown : db.Registered (normalizeEmail e)
      · obtain ⟨u, hu, hsame'⟩ := hknown
        exact .inl ⟨u, hu, sqlEq_trans hsame' hsame⟩
      · obtain ⟨v, hv, hsame'⟩ := h.complete e he hform hknown
        exact .inr ⟨v, hv, sqlEq_trans hsame' hsame⟩

/-- After a list, none of its emails adds anything. -/
theorem BulkAdded.adds_eq_false (h : BulkAdded db emails role password new db') {e : String}
    (he : some e ∈ emails) : db'.adds e = false := by
  rw [Bool.eq_false_iff, ne_eq, Db.adds_iff]
  rintro ⟨⟨hform, hnew⟩, -⟩
  exact hnew ((h.registered_iff _).mpr (.inr ⟨e, he, hform, sqlEq_rfl _⟩))

end BulkAdded

theorem foldl_addEmail_none {db : Db} {emails : List (Option String)} (role : Option String)
    (password : String) (h : ∀ e, some e ∈ emails → db.adds e = false) :
    emails.foldl (addEmail role password) db = db := by
  induction emails with
  | nil => rfl
  | cons email emails ih =>
    have hone : addEmail role password db email = db := by
      cases email with
      | none => rfl
      | some e => simp [addEmail, h e List.mem_cons_self]
    rw [List.foldl_cons, hone]
    exact ih (fun e he => h e (List.mem_cons_of_mem _ he))

/-! ## §3 Requests -/

theorem step_create {db : Db} {u : User} (hu : db.users.find? u.id = some u)
    (hadmin : u.isAdmin = true) {emails : List (Option String)} {role : Option String}
    (hfits : Fits emails role) (password : String) :
    step db (.user (some u.id) (.users (.create (some emails) role password))) =
      emails.foldl (addEmail role password) db := by
  have hstep : step db (.user (some u.id) (.users (.create (some emails) role password))) =
      ((UsersController.create u (some emails) role password).eval db).2 := step_user hu _
  rw [hstep, UsersController.eval_create, hadmin, if_pos rfl, Option.getD_some,
    hfits.eval_each password db]

/-- An email at which the loop raises ends the request: the emails after it
are not looked at. -/
theorem create_stops {db db' : Db} {i : Id} {u : User} (hu : db.users.find? i = some u)
    (hadmin : u.isAdmin = true) {e : Option String} {role : Option String} {password : String}
    {x : Failure} (hone : (createOne role password e).eval db = (.error x, db'))
    (emails : List (Option String)) :
    step db (.user (some i) (.users (.create (some (e :: emails)) role password))) = db' := by
  have hstep : step db (.user (some i) (.users (.create (some (e :: emails)) role password))) =
      ((UsersController.create u (some (e :: emails)) role password).eval db).2 :=
    step_user hu _
  rw [hstep, UsersController.eval_create, hadmin, if_pos rfl, Option.getD_some, Prog.each_cons,
    eval_bind_error hone]

/-- A list submitted by an administrator, whose role and well-formed emails
fit their columns, acts as a set of emails, where two are one if the
database finds them equal once they are normalised. The accounts from before
are kept, every well-formed email that was not registered gets one account,
another order of the list registers the same emails, and the same list again
changes nothing. -/
theorem create_is_set_semantics (db : Db) (u : User) (hu : db.users.find? u.id = some u)
    (hadmin : u.isAdmin = true) (emails : List (Option String)) (role : Option String)
    (hfits : Fits emails role) (password : String) :
    (∃ new, BulkAdded db emails role password new
      (step db (.user (some u.id) (.users (.create (some emails) role password))))) ∧
    (∀ emails' password', (∀ e, e ∈ emails' ↔ e ∈ emails) → ∀ text,
      (step db (.user (some u.id) (.users (.create (some emails') role password')))).Registered
          text ↔
        (step db (.user (some u.id) (.users (.create (some emails) role password)))).Registered
          text) ∧
    ∀ password', step
        (step db (.user (some u.id) (.users (.create (some emails) role password))))
        (.user (some u.id) (.users (.create (some emails) role password'))) =
      step db (.user (some u.id) (.users (.create (some emails) role password))) := by
  rw [step_create hu hadmin hfits]
  obtain ⟨new, h⟩ := bulkAdded_foldl db hfits password
  refine ⟨⟨new, h⟩, ?_, ?_⟩
  · intro emails' password' hsame text
    have hfits' : Fits emails' role := ⟨hfits.role, fun e he => hfits.email e ((hsame _).mp he)⟩
    rw [step_create hu hadmin hfits']
    obtain ⟨new', h'⟩ := bulkAdded_foldl db hfits' password'
    rw [h.registered_iff, h'.registered_iff]
    simp only [hsame]
  · intro password'
    have hu' : (emails.foldl (addEmail role password) db).users.find? u.id = some u := by
      rw [Table.find?, h.users, List.find?_append]
      exact Option.or_eq_some_iff.mpr (.inl hu)
    rw [step_create hu' hadmin hfits]
    exact foldl_addEmail_none role password' (fun e he => h.adds_eq_false he)

end Bulk

/-- Seven entries: one email in three spellings, a blank, a malformed one,
one that is registered, and one without an email field. -/
def manySpellings : List (Option String) :=
  [some "Ève@Pet.vn", some " ève@pet.vn ", some "", some "ann", some "ADMIN@pet.vn",
    some "ÈVE@PET.VN", none]

theorem manySpellings_fits : UsersController.Fits manySpellings (some "user") := by
  refine ⟨by decide, fun e he _ => ?_⟩
  have hall : ∀ e ∈ manySpellings.filterMap id, fitsString (some (normalizeEmail e)) = true := by
    decide +kernel
  exact hall e (List.mem_filterMap.mpr ⟨some e, he, rfl⟩)

/-- They add one account, and only once. -/
theorem create_is_set_semantics_manySpellings :
    (@step .caseInsensitive firstAdmin (.user (some 1) (.users
        (.create (some manySpellings) (some "user") "secret1")))).users.rows.map
          (fun u => (u.email, u.roles)) =
      [("admin@pet.vn", ["admin"]), ("ève@pet.vn", ["user"])] ∧
    @step .caseInsensitive
        (@step .caseInsensitive firstAdmin (.user (some 1) (.users
          (.create (some manySpellings) (some "user") "secret1"))))
        (.user (some 1) (.users (.create (some manySpellings) (some "user") "secret2"))) =
      @step .caseInsensitive firstAdmin (.user (some 1) (.users
        (.create (some manySpellings) (some "user") "secret1"))) :=
  ⟨by decide +kernel, (@create_is_set_semantics .caseInsensitive firstAdmin
    { id := 1, email := "admin@pet.vn", roles := ["admin"] } (by decide) (by decide)
    manySpellings (some "user") manySpellings_fits "secret1").2.2 "secret2"⟩

/-- A collation that leaves out accents as well, as the one of the schema
does; the one accent is enough here. -/
@[reducible] def Env.accentInsensitive : Env :=
  { Env.caseInsensitive with
    weightString := fun s =>
      String.ofList ((s.toList.flatMap downcaseChar).map fun c => if c == 'é' then 'e' else c) }

def longChars : List Char := List.replicate 250 'b' ++ ['@', 'p', 'e', 't', '.', 'v', 'n']

/-- Well formed, and two characters longer than its column. -/
def longEmail : String := String.ofList longChars

theorem normalizeEmail_longEmail : normalizeEmail longEmail = longEmail := by
  have hchars : ((longChars.flatMap downcaseChar).dropWhile isStripChar).reverse.dropWhile
      isStripChar = longChars.reverse := by decide +kernel
  simp only [normalizeEmail, strip, downcase, longEmail, String.toList_ofList, hchars,
    List.reverse_reverse]

theorem emailRegexp_longEmail : emailRegexp longEmail = true := by
  simp only [emailRegexp, longEmail, String.toList_ofList]
  decide +kernel

theorem fitsString_longEmail : fitsString (some longEmail) = false := by
  simp only [fitsString, longEmail, String.length_ofList]
  decide +kernel

theorem accepts_longEmail : @Db.accepts .accentInsensitive firstAdmin longEmail = true := by
  rw [@Db.accepts_iff .accentInsensitive, normalizeEmail_longEmail]
  refine ⟨emailRegexp_longEmail, ?_⟩
  rintro ⟨u, hu, hsame⟩
  have hall : ∀ u ∈ firstAdmin.users.rows, u.email = "admin@pet.vn" := by decide
  rw [hall u hu] at hsame
  have hweights : ("admin@pet.vn".toList.flatMap downcaseChar).map
        (fun c => if c == 'é' then 'e' else c) =
      (longChars.flatMap downcaseChar).map (fun c => if c == 'é' then 'e' else c) := by
    rw [← String.toList_ofList (l := longChars)]
    exact String.ofList_injective (beq_iff_eq.mp hsame)
  -- they differ in their first letter
  have hfirst := congrArg List.head? hweights
  revert hfirst
  decide +kernel

def longRoleChars : List Char := List.replicate 256 'r'

/-- One character more than `roles.name` takes. -/
def longRole : String := String.ofList longRoleChars

theorem fitsString_longRole :
    fitsString (some (UsersController.roleName (some longRole))) = false := by
  simp only [fitsString, UsersController.roleName, Option.map_some, Option.getD_some, downcase,
    longRole, String.toList_ofList, String.length_ofList]
  decide +kernel

section Example

attribute [local instance] Env.accentInsensitive

/-- Two well-formed emails that differ in an accent: only the first of the
list gets an account, so the emails stored depend on the order. A
well-formed email that is too long ends the request, whatever comes after
it, and so does the first new email of a list with a role that is too long,
which gets an account without a role. -/
theorem create_drops_emails :
    ((normalizeEmail "jose@pet.vn" ≠ normalizeEmail "josé@pet.vn" ∧
      emailRegexp (normalizeEmail "jose@pet.vn") = true ∧
      emailRegexp (normalizeEmail "josé@pet.vn") = true) ∧
    (step firstAdmin (.user (some 1) (.users
        (.create (some [some "jose@pet.vn", some "josé@pet.vn"]) (some "user")
          "secret")))).users.rows.map (·.email) = ["admin@pet.vn", "jose@pet.vn"] ∧
    (step firstAdmin (.user (some 1) (.users
        (.create (some [some "josé@pet.vn", some "jose@pet.vn"]) (some "user")
          "secret")))).users.rows.map (·.email) = ["admin@pet.vn", "josé@pet.vn"]) ∧
    (emailRegexp (normalizeEmail longEmail) = true ∧
    step firstAdmin (.user (some 1) (.users
        (.create (some [some longEmail, some "bob@pet.vn"]) (some "user") "secret"))) =
      firstAdmin) ∧
    (step firstAdmin (.user (some 1) (.users
        (.create (some [some "bob@pet.vn", some "eve@pet.vn"]) (some longRole)
          "secret")))).users.rows.map (fun u => (u.email, u.roles)) =
      [("admin@pet.vn", ["admin"]), ("bob@pet.vn", [])] := by
  have hfits : fitsString (some (normalizeEmail longEmail)) = false := by
    rw [normalizeEmail_longEmail]
    exact fitsString_longEmail
  have hemail : (createOne (some "user") "secret" (some longEmail)).eval firstAdmin =
      (.error .valueTooLong, firstAdmin) := by
    rw [createOne_eval, Db.adds, accepts_longEmail, hfits]
    rfl
  have hadds : firstAdmin.adds "bob@pet.vn" = true := by decide +kernel
  have hrole : (createOne (some longRole) "secret" (some "bob@pet.vn")).eval firstAdmin =
      (.error .valueTooLong, firstAdmin.created
        { email := normalizeEmail "bob@pet.vn", password := "secret" } false) := by
    rw [createOne_eval, hadds, fitsString_longRole]
    rfl
  have hadmin : firstAdmin.users.find? 1 =
      some { id := 1, email := "admin@pet.vn", roles := ["admin"] } := by decide
  refine ⟨by decide +kernel, ⟨?_, create_stops hadmin (by decide) hemail _⟩, ?_⟩
  · rw [normalizeEmail_longEmail]
    exact emailRegexp_longEmail
  · rw [create_stops hadmin (by decide) hrole]
    decide +kernel

end Example

end PetParadise
