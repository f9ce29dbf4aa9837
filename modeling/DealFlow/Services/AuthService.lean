import DealFlow.Core.Security

/-!
# Sign-in and magic links

`app/services/auth_service.py` over the rows of `app/models/identity.py`: users sign in with their
Odoo password, customers also with a link that opens the portal once.

The table of users is a dictionary over its primary key, that of links one over the unique hash of
a link's token.  An identity of Odoo has no sales team, so a sign-in never sets one.
-/

namespace DealFlow

open Lib

/-- A row of `dealflow_user` but for its id. -/
structure UserAccount where
  login : String
  name : String
  role : Role := .salesRep
  salesTeamOdooId : Option ℤ := none
  isPortal : Bool := false
  partnerId : Option ℤ := none
  isActive : Bool := true
  lastLoginAt : Option Timestamp := none
  deriving DecidableEq, Repr

/-- A row of `magic_link_token` but for the hash of its token. -/
structure MagicLinkToken where
  odooPartnerId : ℤ
  expiresAt : Timestamp
  usedAt : Option Timestamp := none
  dealId : Option ℕ := none
  createdIp : Option String := none
  deriving DecidableEq, Repr

structure IdentityDb where
  users : Dict ℤ UserAccount := .empty
  links : Dict String MagicLinkToken := .empty

/-- What a request about identities raises: an exception of the service, a unique column written
twice, or a text that is no integer. -/
inductive IdentityError
  | dealflow (e : DealFlowException)
  | integrity (column : String)
  | valueError
  deriving DecidableEq, Repr

def unauthorizedError (message : String) : DealFlowException :=
  { code := "UNAUTHENTICATED", message }

def validationError (message : String) : DealFlowException :=
  { code := "VALIDATION_ERROR", message }

/-- What Odoo says of a user whose password it accepts. -/
structure OdooIdentity where
  uid : ℤ
  name : String
  login : String
  email : Option String := none
  groups : List String := []
  isShare : Bool := false
  partnerId : Option ℤ := none
  companyId : ℤ := 1
  deriving DecidableEq, Repr

structure TokenResponse (τ : Type) where
  accessToken : τ
  tokenType : String := "bearer"
  expiresIn : ℤ
  role : Role
  odooUserId : ℤ
  name : String
  isPortal : Bool := false
  partnerId : Option ℤ := none
  deriving DecidableEq, Repr

/-! ## Sign-in -/

/-- `word in group.lower()`. -/
def groupMentions (group word : String) : Bool :=
  word.toList <:+: group.toLower.toList

def OdooIdentity.isPortalUser (auth : OdooIdentity) : Bool :=
  auth.isShare || auth.groups.any (groupMentions · "portal")

/-- The role after one more group.  A later group overrides an earlier one. -/
def groupRole (role : Role) (group : String) : Role :=
  if groupMentions group "admin" then .admin
  else if groupMentions group "manager" then .salesManager
  else if groupMentions group "billing" || groupMentions group "account" ||
    groupMentions group "finance" then .finance
  else role

def OdooIdentity.initialRole (auth : OdooIdentity) (login : String) : Role :=
  if auth.isPortalUser then .customer
  else if login = "admin" ∨ login = "admin@dealflow.test" then .admin
  else auth.groups.foldl groupRole .salesRep

/-- The account of a first sign-in. -/
def OdooIdentity.newAccount (auth : OdooIdentity) (login : String) (now : Timestamp) :
    UserAccount :=
  { login
    name := auth.name
    role := auth.initialRole login
    isPortal := auth.isPortalUser
    partnerId := auth.partnerId
    lastLoginAt := some now }

/-- The account after a later sign-in: a portal user becomes a customer, whatever the role was. -/
def OdooIdentity.signedIn (auth : OdooIdentity) (now : Timestamp) (user : UserAccount) :
    UserAccount :=
  let user := { user with name := auth.name, lastLoginAt := some now }
  if auth.isPortalUser then
    { user with isPortal := true, role := .customer, partnerId := auth.partnerId }
  else user

/-- The partner a portal token is for: the user's, or the user's own id where that is not set. -/
def UserAccount.portalSubject (user : UserAccount) (odooUserId : ℤ) : ℤ :=
  (user.partnerId.filter (· ≠ 0)).getD odooUserId

section Service

variable {τ : Type} (jwt : Jwt τ)

def partnerToken (partner : ℤ) (now : Timestamp) : τ :=
  jwt.createPortalToken now (toString partner) (toString partner) "1" Role.customer.value
    (some (portalTokenExpireMinutes * 60))

/-- The token of a user who is signed in. -/
def userToken (odooUserId : ℤ) (user : UserAccount) (now : Timestamp) : TokenResponse τ :=
  if user.isPortal then
    { accessToken := partnerToken jwt (user.portalSubject odooUserId) now
      expiresIn := portalTokenExpireMinutes * 60
      role := .customer
      odooUserId
      name := user.name
      isPortal := true
      partnerId := user.partnerId }
  else
    { accessToken :=
        jwt.createAccessToken now (toString odooUserId) user.role.value "1" "internal" none
          [("login", .text user.login), ("name", .text user.name), ("is_portal", .flag false),
            ("partner_id", (user.partnerId.map .integer).getD .null)]
      expiresIn := accessTokenExpireMinutes * 60
      role := user.role
      odooUserId
      name := user.name
      partnerId := user.partnerId }

/-- The end of a sign-in: an inactive user gets no token. -/
def issueToken (odooUserId : ℤ) (user : UserAccount) (now : Timestamp) :
    Except IdentityError (TokenResponse τ) :=
  if user.isActive then .ok (userToken jwt odooUserId user now)
  else .error (.dealflow (unauthorizedError "User account is inactive."))

/-- A sign-in, with Odoo's answer to login and password.  What it writes about the user is committed
before it looks whether the user is active. -/
def authenticateUser (odooAuth : Option OdooIdentity) (login password : String) (now : Timestamp)
    (db : IdentityDb) : Except IdentityError (TokenResponse τ) × IdentityDb :=
  match odooAuth with
  | none =>
      match db.users.entries.find? fun entry => entry.2.login = login with
      | some (odooUserId, user) =>
          if login = "admin" ∧ password = "admin" then (issueToken jwt odooUserId user now, db)
          else (.error (.dealflow (unauthorizedError "Invalid username or password.")), db)
      | none => (.error (.dealflow (unauthorizedError "Invalid username or password.")), db)
  | some auth =>
      match db.users.get auth.uid with
      | none =>
          if db.users.entries.any fun entry => entry.2.login = login then
            (.error (.integrity "login"), db)
          else
            let user := auth.newAccount login now
            (issueToken jwt auth.uid user now, { db with users := db.users.set auth.uid user })
      | some before =>
          let user := auth.signedIn now before
          (issueToken jwt auth.uid user now, { db with users := db.users.set auth.uid user })

/-! ## Magic links -/

/-- Whom a link is asked for, with the random token it gets. -/
structure MagicLinkRequest where
  email : Option String := none
  partnerId : Option ℤ := none
  dealId : Option ℕ := none
  ip : Option String := none
  rawToken : String
  deriving DecidableEq, Repr

/-- The partner of a request, by id or by email. -/
def MagicLinkRequest.target (customerByEmail : String → Option ℤ) (r : MagicLinkRequest) :
    Except DealFlowException ℤ :=
  match r.partnerId.filter (· ≠ 0), r.email.filter (· ≠ "") with
  | some partner, _ => .ok partner
  | none, none => .error (validationError "Either email or partner_id must be provided.")
  | none, some email =>
      match customerByEmail email with
      | some partner => .ok partner
      | none => .error (notFoundError s!"No customer found with email: {email}")

/-- The link as it is sent. -/
structure MagicLink where
  rawToken : String
  portalUrl : String
  partnerId : ℤ
  deriving DecidableEq, Repr

def MagicLinkRequest.portalUrl (r : MagicLinkRequest) : String :=
  s!"/portal/verify?token={r.rawToken}" ++
    match r.dealId with
    | none => ""
    | some dealId => s!"&deal_id={dealId}"

def MagicLinkRequest.row (r : MagicLinkRequest) (partner : ℤ) (now : Timestamp) :
    MagicLinkToken :=
  { odooPartnerId := partner
    expiresAt := now + portalTokenExpireMinutes * 60
    dealId := r.dealId
    createdIp := r.ip }

def createMagicLink (hashToken : String → String) (customerByEmail : String → Option ℤ)
    (r : MagicLinkRequest) (now : Timestamp) (db : IdentityDb) :
    Except IdentityError MagicLink × IdentityDb :=
  match r.target customerByEmail with
  | .error e => (.error (.dealflow e), db)
  | .ok partner =>
      match db.links.get (hashToken r.rawToken) with
      | some _ => (.error (.integrity "token_hash"), db)
      | none =>
          (.ok { rawToken := r.rawToken, portalUrl := r.portalUrl, partnerId := partner },
            { db with links := db.links.set (hashToken r.rawToken) (r.row partner now) })

/-- A link followed.  `partnerName` is the name Odoo has for a partner, where it answers. -/
def verifyMagicLink (hashToken : String → String) (partnerName : ℤ → Option String)
    (rawToken : String) (now : Timestamp) (db : IdentityDb) :
    Except IdentityError (TokenResponse τ) × IdentityDb :=
  match db.links.get (hashToken rawToken) with
  | none => (.error (.dealflow (unauthorizedError "Invalid magic link token.")), db)
  | some link =>
      if link.usedAt.isSome then
        (.error (.dealflow (unauthorizedError "Magic link token has already been used.")), db)
      else if link.expiresAt < now then
        (.error (.dealflow (unauthorizedError "Magic link token has expired.")), db)
      else
        (.ok
          { accessToken := partnerToken jwt link.odooPartnerId now
            expiresIn := portalTokenExpireMinutes * 60
            role := .customer
            odooUserId := 0
            name := (partnerName link.odooPartnerId).getD s!"Customer {link.odooPartnerId}"
            isPortal := true
            partnerId := some link.odooPartnerId },
          { db with
            links := db.links.set (hashToken rawToken) { link with usedAt := some now } })

end Service

end DealFlow
