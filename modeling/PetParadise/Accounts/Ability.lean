/-
PetParadise.Accounts.Ability — who may do what (`app/models/ability.rb`)
and the two guards in front of an action.

`Ability.rules` is the list of `can` / `cannot` calls in source order. All
of them are about `:manage`, which covers every action, so a rule is only
its subject. cancancan lets the LAST matching rule win and denies what no
rule mentions (`Ability.can`).

`authenticateUser` is Devise's `authenticate_user!`: the session names a
user, and a session whose user no longer exists is not signed in.
-/
import PetParadise.Web.Response

namespace PetParadise

open Store

/-- The classes the rules speak about. -/
inductive Subject where
  | cart | chatMessage | chat | bill | room | user | booking | product
  deriving DecidableEq, Repr

/-- One call of `can :manage, _` or `cannot :manage, _`. -/
inductive Rule where
  | canAll
  | can (s : Subject)
  | cannot (s : Subject)
  deriving DecidableEq, Repr

namespace Rule

/-- The rule's verdict on a subject it applies to. -/
def verdict (s : Subject) : Rule → Option Bool
  | canAll => some true
  | can t => if t = s then some true else none
  | cannot t => if t = s then some false else none

end Rule

namespace Ability

/-- `Ability#initialize`. -/
def rules (u : User) : List Rule :=
  if u.hasRole "admin" then [.canAll]
  else if u.hasRole "staff" then
    [.can .cart, .can .chatMessage, .can .chat, .can .bill, .cannot .room, .cannot .user,
      .can .booking, .can .product]
  else
    [.can .cart, .can .chatMessage, .can .chat, .cannot .bill, .cannot .room, .cannot .user,
      .can .booking, .cannot .product]

/-- The last rule with a verdict decides; no verdict is a refusal. -/
def can (u : User) (s : Subject) : Bool :=
  ((rules u).reverse.findSome? (Rule.verdict s)).getD false

end Ability

/-- The user's role as the rules distinguish it. -/
def User.isAdmin (u : User) : Bool := u.hasRole "admin"

def User.isStaff (u : User) : Bool := u.hasRole "staff"

/-- A signed-in user with neither role. -/
def User.isCustomer (u : User) : Bool := !u.isAdmin && !u.isStaff

namespace Ability

/-- Only an administrator manages rooms or accounts. -/
theorem can_room_or_user {u : User} (h : u.isAdmin = false) :
    can u .room = false ∧ can u .user = false := by
  unfold User.isAdmin at h
  unfold can rules
  simp only [h, Bool.false_eq_true, if_false]
  split <;> decide

/-- Everybody manages bookings. -/
theorem can_booking (u : User) : can u .booking = true := by
  unfold can rules
  split
  · decide
  · split <;> decide

/-- A customer manages neither bills nor products. -/
theorem can_bill_or_product {u : User} (h : u.isCustomer = true) :
    can u .bill = false ∧ can u .product = false := by
  simp only [User.isCustomer, User.isAdmin, User.isStaff, Bool.and_eq_true,
    Bool.not_eq_true'] at h
  unfold can rules
  simp only [h.1, h.2, Bool.false_eq_true, if_false]
  decide

end Ability

namespace Action

/-- `authenticate_user!`, and `current_user` for what follows. -/
def authenticateUser (session : Option Id) : Action User := do
  let user ← select .currentUser (fun db => session.bind db.users.find?)
  Prog.orRaise user .unauthenticated

/-- `authorize!` (also as part of `load_and_authorize_resource`, whose load
comes first: it writes nothing, but on a missing id it fails before the
permission is looked at, and here that failure is the body's). -/
def authorize (u : User) (s : Subject) : Action Unit :=
  if Ability.can u s then pure () else .raise .accessDenied

end Action

end PetParadise
