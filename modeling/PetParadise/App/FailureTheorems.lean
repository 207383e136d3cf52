/-
PetParadise.App.FailureTheorems — what a request that fails has written.

No action of the application opens a transaction, so what a request has
written before it fails stays. Six of them write in several steps and may
fail in between: a change of quantity, the two checkouts, the two imports,
and bulk creation of accounts, where a text may not fit its column or a
unique index may refuse an email that was free when it was looked up
(`Route.writesInSteps`). All others write once. Of these, four answer
JavaScript only: in any other format, the one the application's own links
ask for among them, Rails raises `UnknownFormat` after the action has
written (`Route.refusesFormat`). Apart from that an error means that
nothing was written, whatever else is going on at the same time.
-/
import PetParadise.App.RequestPool
import PetParadise.Store.AllOrNothing

namespace PetParadise

open Store PetParadise.Action

/-- The action writes in several steps and may fail after the first. -/
def Route.writesInSteps : Route → Bool
  | carts (.updateQuantity ..) => true
  | carts (.checkoutMomo _) => true
  | carts (.cash _) => true
  | rooms (.import _) => true
  | users (.create ..) => true
  | users (.import ..) => true
  | _ => false

def Request.writesInSteps : Request → Bool
  | user _ route => route.writesInSteps
  | «open» _ => false

/-- The action answers JavaScript only and is asked for something else. -/
def Route.refusesFormat : Route → Bool
  | products (.destroy _ format) => format != .js
  | rooms (.destroy _ format) => format != .js
  | users (.destroy _ format) => format != .js
  | bills (.update _ format) => format != .js
  | _ => false

def Request.refusesFormat : Request → Bool
  | user _ route => route.refusesFormat
  | «open» _ => false

/-! ## Building blocks -/

theorem Stmt.Asks.isWrite {w : Stmt} (h : w.Asks) : w.isWrite = false := by
  cases w with
  | select q => rfl
  | _ => cases h

section Blocks

variable [Env] {α β : Type} {late : Failure → Prop}

/-- An error means that nothing was written, unless it is a late one. -/
abbrev Action.Whole (late : Failure → Prop) (p : Action α) : Prop :=
  p.AllOrNothing exec late Stmt.isWrite

/-- The action returns, or raises a late error. -/
abbrev Action.Sure (late : Failure → Prop) (p : Action α) : Prop := p.Settled exec late

@[simp] theorem whole_select_bind (q : Query) (g : Db → α) (f : α → Action β) :
    Whole late (select q g >>= f) ↔ ∀ db, Whole late (f (g db)) :=
  forall_congr' fun _ => and_iff_right nofun

@[simp] theorem whole_orRaise_bind (o : Option α) (e : Failure) (f : α → Action β) :
    Whole late (Prog.orRaise o e >>= f) ↔
      (o = none → ¬ late e) ∧ ∀ a, o = some a → Whole late (f a) := by
  cases o <;> simp

@[simp] theorem whole_ofExcept_bind (x : Except Failure α) (f : α → Action β) :
    Whole late (Prog.ofExcept x >>= f) ↔
      (∀ e, x = .error e → ¬ late e) ∧ ∀ a, x = .ok a → Whole late (f a) := by
  cases x <;> simp

@[simp] theorem whole_authorize_bind (u : User) (s : Subject) (f : Unit → Action α) :
    Whole late (authorize u s >>= f) ↔
      (Ability.can u s = false → ¬ late .accessDenied) ∧
        (Ability.can u s = true → Whole late (f ())) := by
  unfold authorize
  cases Ability.can u s <;> simp

@[simp] theorem whole_ite (c : Prop) [Decidable c] (p q : Action α) :
    Whole late (if c then p else q) ↔ (c → Whole late p) ∧ (¬ c → Whole late q) := by
  by_cases h : c <;> simp [h]

/-- After a write nothing but a late error may come. -/
@[simp] theorem whole_stmt (w : Stmt) (k : Db → Action α) :
    Whole late (.stmt w k) ↔ ∀ db, (∀ e, exec w db = .error e → ¬ late e) ∧
      if w.isWrite then Sure late (k db) else Whole late (k db) := Iff.rfl

@[simp] theorem sure_select_bind (q : Query) (g : Db → α) (f : α → Action β) :
    Sure late (select q g >>= f) ↔ ∀ db, Sure late (f (g db)) :=
  forall_congr' fun db => and_iff_right ⟨db, rfl⟩

/-- A page that exists for JavaScript only. -/
@[simp] theorem sure_respondJs (format : Format) (js : String) :
    Sure late (respondJs format js) ↔ (format ≠ .js → late .unknownFormat) := by
  unfold respondJs
  by_cases h : format = .js <;> simp [h]

/-- What only asks may come first. -/
theorem whole_bind {p : Action α} {f : α → Action β} (hp : p.Only (fun w => w.isWrite = false))
    (hf : ∀ a, Whole (fun _ => False) (f a)) : Whole (fun _ => False) (p >>= f) :=
  Prog.allOrNothing_bind (Prog.allOrNothing_of_reads hp) hp hf

theorem whole_of_asks {p : Action α} (hp : p.Only Stmt.Asks) : Whole (fun _ => False) p :=
  Prog.allOrNothing_of_reads (hp.mono fun _ hw => hw.isWrite)

end Blocks

/-! ## Routes without late errors -/

section Routes

variable [Env]

theorem BookingsRoute.action_whole (u : User) (r : BookingsRoute) :
    Whole (fun _ => False) (r.action u) := by
  cases r with
  | index => simp [action, BookingsController.index]
  | create p =>
    simp only [action, BookingsController.create, whole_select_bind]
    intro db
    refine whole_bind (BookingsController.emptyRoomIds_only (fun _ => rfl) p _) fun empty => ?_
    cases empty with
    | nil => trivial
    | cons roomId rest => simp [BookingsController.bookingParam, Stmt.isWrite]
  | destroy id => simp [action, BookingsController.destroy, Stmt.isWrite]

theorem ProfileRoute.action_whole (r : ProfileRoute) : Whole (fun _ => False) r.action := by
  cases r <;> simp [action, ProfileController.update, Stmt.isWrite]

@[simp] theorem ChatsController.whole_assignChatParams_bind {α : Type} (p : ChatParams)
    (f : Unit → Action α) :
    Whole (fun _ => False) (assignChatParams p >>= f) ↔
      (p.status = false → Whole (fun _ => False) (f ())) := by
  unfold assignChatParams
  cases p.status <;> simp

theorem ChatsRoute.action_whole (r : ChatsRoute) : Whole (fun _ => False) r.action := by
  cases r <;>
    simp [action, ChatsController.index, ChatsController.show, ChatsController.new,
      ChatsController.create, ChatsController.update, ChatsController.destroy,
      ChatsController.setChat, Stmt.isWrite]

theorem ChatMessagesRoute.action_whole (u : User) (r : ChatMessagesRoute) :
    Whole (fun _ => False) (r.action u) := by
  cases r with
  | create message senderId now =>
    simp [action, ChatMessagesController.create, Stmt.isWrite]

theorem CartsRoute.action_whole (u : User) {r : CartsRoute}
    (h : (Route.carts r).writesInSteps = false) : Whole (fun _ => False) (r.action u) := by
  cases r with
  | index => exact whole_of_asks (CartsController.index_only (fun _ => rfl) u)
  | checkout => exact whole_of_asks (CartsController.checkout_only (fun _ => rfl) u)
  | create p => simp [action, CartsController.create, CartsController.setProduct, Stmt.isWrite]
  | destroy productId => simp [action, CartsController.destroy, Stmt.isWrite]
  | _ => cases h

theorem ProductsRoute.action_whole (u : User) {r : ProductsRoute}
    (h : (Route.products r).refusesFormat = false) : Whole (fun _ => False) (r.action u) := by
  cases r with
  | destroy id format =>
    have hjs : format = .js := by simpa [Route.refusesFormat] using h
    simp [action, ProductsController.destroy, ProductsController.setProduct, Stmt.isWrite, hjs]
  | _ =>
    simp [action, ProductsController.index, ProductsController.show, ProductsController.new,
      ProductsController.create, ProductsController.update, ProductsController.setProduct,
      Stmt.isWrite]

theorem RoomsRoute.action_whole (u : User) {r : RoomsRoute}
    (hsteps : (Route.rooms r).writesInSteps = false)
    (h : (Route.rooms r).refusesFormat = false) : Whole (fun _ => False) (r.action u) := by
  cases r with
  | «import» sheet => cases hsteps
  | destroy id format =>
    have hjs : format = .js := by simpa [Route.refusesFormat] using h
    simp [action, RoomsController.destroy, Stmt.isWrite, hjs]
  | _ =>
    simp [action, RoomsController.index, RoomsController.new, RoomsController.edit,
      RoomsController.create, RoomsController.update, Stmt.isWrite]

theorem UsersRoute.action_whole (u : User) {r : UsersRoute}
    (hsteps : (Route.users r).writesInSteps = false)
    (h : (Route.users r).refusesFormat = false) : Whole (fun _ => False) (r.action u) := by
  cases r with
  | «import» sheet password => cases hsteps
  | create emails role password => cases hsteps
  | destroy id format =>
    have hjs : format = .js := by simpa [Route.refusesFormat] using h
    simp [action, UsersController.destroy, Stmt.isWrite, hjs]
  | _ => simp [action, UsersController.index, UsersController.new]

theorem BillsRoute.action_whole (u : User) {r : BillsRoute}
    (h : (Route.bills r).refusesFormat = false) : Whole (fun _ => False) (r.action u) := by
  cases r with
  | update id format =>
    have hjs : format = .js := by simpa [Route.refusesFormat] using h
    simp [action, BillsController.update, Stmt.isWrite, hjs]
  | _ => simp [action, BillsController.index, BillsController.show]

theorem WelcomeRoute.action_whole (u : User) (r : WelcomeRoute) :
    Whole (fun _ => False) (r.action u) := by
  cases r with
  | page => trivial
  | editPassword password confirmation =>
    simp only [action, WelcomeController.editPassword]
    split <;> simp [Stmt.isWrite]

/-- A route whose action writes once and answers in the format it is asked
for. -/
theorem Route.action_whole (u : User) {r : Route} (hsteps : r.writesInSteps = false)
    (h : r.refusesFormat = false) : Whole (fun _ => False) (r.action u) := by
  cases r with
  | bookings r => exact r.action_whole u
  | manageBookings mdate now =>
    exact whole_of_asks (ManageBookingsController.index_only u mdate now)
  | profile r => exact r.action_whole
  | chats r => exact r.action_whole
  | chatMessages r => exact r.action_whole u
  | carts r => exact CartsRoute.action_whole u hsteps
  | histories r => exact whole_of_asks (r.action_only u)
  | products r => exact ProductsRoute.action_whole u h
  | rooms r => exact RoomsRoute.action_whole u hsteps h
  | users r => exact UsersRoute.action_whole u hsteps h
  | bills r => exact BillsRoute.action_whole u h
  | welcome r => exact r.action_whole u
  | updateAccount current password confirmation =>
    simp [action, Devise.updateAccount, Stmt.isWrite]
  | cancelAccount => simp [action, Devise.cancelAccount, Stmt.isWrite]

theorem OpenRoute.action_whole (r : OpenRoute) : Whole (fun _ => False) r.action := by
  cases r with
  | callback p =>
    simp only [action, Api.V1.BillsController.create, whole_select_bind]
    intro db
    split <;> simp [Stmt.isWrite]
  | signUp email password confirmation =>
    simp only [action, Devise.signUp, UsersController.save, whole_ite, bind_assoc,
      whole_select_bind]
    refine ⟨fun _ db => ?_, fun _ => trivial⟩
    split <;> simp [Stmt.isWrite]
  | confirm id email =>
    simp only [action, Devise.confirm, whole_select_bind]
    intro db
    split <;> simp [Stmt.isWrite]
  | resetPassword id password confirmation =>
    simp only [action, Devise.resetPassword, whole_select_bind]
    intro db
    split <;> simp [Stmt.isWrite]

/-! ## The four pages in another format -/

theorem exec_destroyUser_error {i : Id} {db : Db} {e : Failure}
    (h : exec (.destroyUser i) db = .error e) : e = .noMethodError := by
  have h' : db.destroyUser i = .error e := h
  unfold Db.destroyUser at h'
  split at h'
  · cases h'
    rfl
  · cases h'

/-- They write and then raise. -/
theorem Route.action_late (u : User) {r : Route} (h : r.refusesFormat = true) :
    Whole (· = .unknownFormat) (r.action u) := by
  cases r with
  | products r =>
    cases r with
    | destroy id format =>
      simp [action, ProductsRoute.action, ProductsController.destroy,
        ProductsController.setProduct, Stmt.isWrite, exec]
    | _ => cases h
  | rooms r =>
    cases r with
    | destroy id format =>
      simp [action, RoomsRoute.action, RoomsController.destroy, Stmt.isWrite, exec]
    | _ => cases h
  | users r =>
    cases r with
    | destroy id format =>
      simp only [action, UsersRoute.action, UsersController.destroy, Prog.perform_bind,
        whole_authorize_bind, whole_select_bind, whole_orRaise_bind, whole_stmt]
      refine ⟨by simp, fun _ _ => ⟨by simp, fun user _ db => ⟨fun e he => ?_, ?_⟩⟩⟩
      · rw [exec_destroyUser_error he]
        intro h
        cases h
      · simp [Stmt.isWrite]
    | _ => cases h
  | bills r =>
    cases r with
    | update id format =>
      simp [action, BillsRoute.action, BillsController.update, Stmt.isWrite, exec]
    | _ => cases h
  | _ => cases h

/-! ## Requests -/

/-- The error of a request that comes after its write. -/
def Request.late (r : Request) (e : Failure) : Prop :=
  r.refusesFormat = true ∧ e = .unknownFormat

theorem Request.action_whole {r : Request} (h : r.writesInSteps = false) :
    Whole r.late r.action := by
  cases hformat : r.refusesFormat with
  | false =>
    have hlate : r.late = fun _ => False := by
      funext e
      simp [Request.late, hformat]
    rw [hlate]
    cases r with
    | user session route =>
      refine whole_bind ?_ fun u => Route.action_whole u h hformat
      simp [authenticateUser, Stmt.isWrite]
    | «open» route => exact route.action_whole
  | true =>
    have hlate : r.late = (· = .unknownFormat) := by
      funext e
      simp [Request.late, hformat]
    rw [hlate]
    cases r with
    | user session route =>
      simp only [Request.action, authenticateUser, bind_assoc, whole_select_bind,
        whole_orRaise_bind]
      refine fun db => ⟨fun _ h => ?_, fun u _ => Route.action_late u hformat⟩
      cases h
    | «open» route => cases hformat

/-- **A request that fails has written nothing, unless it refuses the
format.** Let any requests run interleaved in any way. A request that is
not one of the six that write in steps, and that has ended with an error,
has executed a write exactly if it is one of the four that answer
JavaScript only, was asked for another format, and the error is
`UnknownFormat`. -/
theorem failed_request_wrote_iff (db : Db) (rs : List Request) (schedule : List Nat)
    (i : Nat) (r : Request) (e : Failure) (hr : rs[i]? = some r) (hsteps : r.writesInSteps = false)
    (hfail : ((requestPool db rs).run exec schedule).answer i = some (.error e)) :
    (∃ ev ∈ ((requestPool db rs).run exec schedule).history, ev.thread = i ∧
      ev.stmt.isWrite = true) ↔ r.refusesFormat = true ∧ e = .unknownFormat := by
  have hthread : (rs.map Request.action)[i]? = some r.action := by
    rw [List.getElem?_map, hr]
    rfl
  exact Pool.wrote_iff_late hthread (Request.action_whole hsteps) hfail

end Routes

/-- An administrator removes the account of another, who cancels it at the
same time; a second administrator removes a room. -/
def removedTwice : List Request :=
  [.user (some 2) (.users (.destroy 1 .turboStream)), .user (some 1) .cancelAccount,
    .user (some 2) (.rooms (.destroy 1 .turboStream))]

section Example

attribute [local instance] Env.caseInsensitive

theorem failed_request_wrote_removedTwice :
    let pool := (requestPool officeDb removedTwice).run exec [0, 0, 1, 1, 0, 2, 2, 2]
    pool.answer 0 = some (.error .noMethodError) ∧
      pool.answer 2 = some (.error .unknownFormat) ∧
      (¬ ∃ ev ∈ pool.history, ev.thread = 0 ∧ ev.stmt.isWrite = true) ∧
      ∃ ev ∈ pool.history, ev.thread = 2 ∧ ev.stmt.isWrite = true := by
  intro pool
  have hfail : pool.answer 0 = some (.error .noMethodError) := by decide
  have hformat : pool.answer 2 = some (.error .unknownFormat) := by decide
  have hnone := failed_request_wrote_iff officeDb removedTwice _ 0 _ _ rfl rfl hfail
  have hone := failed_request_wrote_iff officeDb removedTwice _ 2 _ _ rfl rfl hformat
  exact ⟨hfail, hformat, (fun hwrote => by cases (hnone.mp hwrote).2), hone.mpr ⟨rfl, rfl⟩⟩

end Example

end PetParadise
