import DealFlow.Lib.Run
import DealFlow.Services.AuthService

/-!
# Requests about identities

The dependencies of `app/core/deps.py`, which say who a bearer token stands for, the requests of
`app/api/v1/endpoints/auth.py` and `update_user` of `app/api/v1/endpoints/users.py`.  Each request
brings the answers of Odoo and the time that its handling sees.
-/

namespace DealFlow

open Lib

/-- `sys.get_int_max_str_digits()` where nobody has set it. -/
def intMaxStrDigits : ℕ := 4300

namespace ClaimValue

/-- `bool(value)`. -/
def truthy : ClaimValue → Bool
  | .null => false
  | .text s => s ≠ ""
  | .integer n => n ≠ 0
  | .flag b => b

/-- `int(value)`, `none` where it raises. -/
def toInt : ClaimValue → Option ℤ
  | .null => none
  | .text s => pythonInt intMaxStrDigits s.toList
  | .integer n => some n
  | .flag b => some (if b then 1 else 0)

/-- `str(value)`. -/
def print : ClaimValue → String
  | .null => "None"
  | .text s => s
  | .integer n => toString n
  | .flag b => if b then "True" else "False"

end ClaimValue

/-- A user as an endpoint gets it. -/
structure Caller where
  odooUserId : ℤ
  account : UserAccount
  deriving DecidableEq, Repr

section Dependencies

variable {τ : Type} (jwt : Jwt τ)

/-- `get_current_user`. -/
def getCurrentUser (auth : Option τ) (now : Timestamp) (db : IdentityDb) :
    Except IdentityError Caller :=
  match auth with
  | none => .error (.dealflow (unauthorizedError "Missing authorization header."))
  | some token =>
      match jwt.decodeToken token "internal" now with
      | .error e => .error (.dealflow (unauthorizedError s!"Invalid or expired token: {e}"))
      | .ok payload =>
          match (payload.get "sub").filter ClaimValue.truthy with
          | none => .error (.dealflow (unauthorizedError "Token missing user subject."))
          | some subject =>
              match subject.toInt with
              | none => .error .valueError
              | some odooUserId =>
                  match db.users.get odooUserId with
                  | none => .error (.dealflow (unauthorizedError "User not found."))
                  | some account =>
                      if account.isActive then .ok { odooUserId, account }
                      else .error (.dealflow (forbiddenError "User account is inactive."))

/-- `get_current_active_user`. -/
def getCurrentActiveUser (auth : Option τ) (now : Timestamp) (db : IdentityDb) :
    Except IdentityError Caller :=
  match getCurrentUser jwt auth now db with
  | .error e => .error e
  | .ok caller =>
      if caller.account.isActive then .ok caller
      else .error (.dealflow (forbiddenError "Inactive user account."))

/-- A Python list of role names, as it prints. -/
def roleNames (roles : List Role) : String :=
  "[" ++ ", ".intercalate (roles.map fun role => s!"'{role.value}'") ++ "]"

/-- `require_roles`: an administrator passes whatever the allowed roles are. -/
def requireRoles (allowedRoles : List Role) (auth : Option τ) (now : Timestamp)
    (db : IdentityDb) : Except IdentityError Caller :=
  match getCurrentActiveUser jwt auth now db with
  | .error e => .error e
  | .ok caller =>
      if caller.account.role = .admin ∨ caller.account.role ∈ allowedRoles then .ok caller
      else
        .error (.dealflow (forbiddenError
          (s!"Operation requires one of roles: {roleNames allowedRoles}, " ++
            s!"user has role: {caller.account.role.value}")))

/-- The caller of the portal where no user has the partner. -/
def portalProxy (payload : Claims) (claim : ClaimValue) (partner : ℤ) : Caller :=
  { odooUserId := 0
    account :=
      { login := s!"partner_{claim.print}"
        name := ((payload.get "name").map ClaimValue.print).getD s!"Partner {claim.print}"
        role := .customer
        isPortal := true
        partnerId := some partner } }

/-- `get_current_portal_user`. -/
def getCurrentPortalUser (auth : Option τ) (now : Timestamp) (db : IdentityDb) :
    Except IdentityError Caller :=
  match auth with
  | none => .error (.dealflow (unauthorizedError "Missing portal authorization header."))
  | some token =>
      match jwt.decodeToken token "portal" now with
      | .error e => .error (.dealflow (unauthorizedError s!"Invalid or expired portal token: {e}"))
      | .ok payload =>
          match ((payload.get "partner_id").filter ClaimValue.truthy).or
              ((payload.get "customer_id").filter ClaimValue.truthy) with
          | none =>
              .error (.dealflow
                (unauthorizedError "Portal token missing partner_id / customer_id claim."))
          | some claim =>
              match claim.toInt with
              | none => .error .valueError
              | some partner =>
                  match db.users.entries.find? fun entry => entry.2.partnerId = some partner with
                  | none => .ok (portalProxy payload claim partner)
                  | some (odooUserId, account) =>
                      if account.isActive then .ok { odooUserId, account }
                      else
                        .error (.dealflow (forbiddenError "Customer user account is inactive."))

end Dependencies

/-! ## Endpoints -/

structure UserUpdate where
  role : Option Role := none
  isActive : Option Bool := none
  salesTeamOdooId : Option ℤ := none
  deriving DecidableEq, Repr

def UserUpdate.apply (patch : UserUpdate) (user : UserAccount) : UserAccount :=
  { user with
    role := patch.role.getD user.role
    isActive := patch.isActive.getD user.isActive
    salesTeamOdooId := patch.salesTeamOdooId.or user.salesTeamOdooId }

inductive IdentityRequest (τ : Type)
  /-- `POST /login`, with Odoo's answer to the password -/
  | login (odooAuth : Option OdooIdentity) (login password : String)
  /-- `POST /magic-link/request` -/
  | requestLink (customerByEmail : String → Option ℤ) (payload : MagicLinkRequest)
  /-- `POST /magic-link/verify` -/
  | verifyLink (partnerName : ℤ → Option String) (rawToken : String)
  /-- `PATCH /users/{odoo_user_id}` -/
  | updateUser (auth : Option τ) (odooUserId : ℤ) (payload : UserUpdate)

structure IdentityCall (τ : Type) where
  now : Timestamp
  request : IdentityRequest τ

inductive IdentityAnswer (τ : Type)
  | token (response : TokenResponse τ)
  | link (link : MagicLink)
  | user (user : Caller)
  deriving DecidableEq, Repr

section Endpoints

variable {τ : Type} (jwt : Jwt τ) (hashToken : String → String)

/-- `update_user`, for administrators. -/
def updateUser (auth : Option τ) (odooUserId : ℤ) (payload : UserUpdate) (now : Timestamp)
    (db : IdentityDb) : Except IdentityError Caller × IdentityDb :=
  match requireRoles jwt [.admin] auth now db with
  | .error e => (.error e, db)
  | .ok _ =>
      match db.users.get odooUserId with
      | none =>
          (.error (.dealflow (notFoundError s!"User with Odoo ID {odooUserId} not found.")), db)
      | some before =>
          let account := payload.apply before
          (.ok { odooUserId, account }, { db with users := db.users.set odooUserId account })

/-- A request handled: its answer, and what is committed. -/
def handleIdentity (call : IdentityCall τ) (db : IdentityDb) :
    Except IdentityError (IdentityAnswer τ) × IdentityDb :=
  match call.request with
  | .login odooAuth login password =>
      (authenticateUser jwt odooAuth login password call.now db).map (·.map .token) id
  | .requestLink customerByEmail payload =>
      (createMagicLink hashToken customerByEmail payload call.now db).map (·.map .link) id
  | .verifyLink partnerName rawToken =>
      (verifyMagicLink jwt hashToken partnerName rawToken call.now db).map (·.map .token) id
  | .updateUser auth odooUserId payload =>
      (updateUser jwt auth odooUserId payload call.now db).map (·.map .user) id

/-- The answer to a request. -/
def identityAnswer (call : IdentityCall τ) (db : IdentityDb) :
    Except IdentityError (IdentityAnswer τ) :=
  (handleIdentity jwt hashToken call db).1

def identityStep (call : IdentityCall τ) (db : IdentityDb) : IdentityDb :=
  (handleIdentity jwt hashToken call db).2

end Endpoints

end DealFlow
