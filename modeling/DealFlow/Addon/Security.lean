import DealFlow.Lib.PythonText
import Mathlib.Data.Rat.Defs

/-!
# Groups, users and approval tokens

`security/dealflow_security.xml` and `security/security_utils.py` of the addon.  A group implies
others, and a user in a group is in the implied ones.

An approval token is checked against the clock, the signing key and HMAC-SHA256, which stand here
as parameters.
-/

namespace DealFlow.Addon

open Lib

/-! ## Groups -/

/-- `base.group_portal`, `base.group_user` and the groups of the addon. -/
inductive Group
  | portal | user
  | dealflowPortal | dealflowSalesRep | dealflowSalesManager | dealflowFinance | dealflowAdmin
  deriving DecidableEq, Repr

/-- `implied_ids`. -/
def Group.implied : Group → List Group
  | .portal | .user => []
  | .dealflowPortal => [.portal]
  | .dealflowSalesRep => [.user]
  | .dealflowSalesManager => [.dealflowSalesRep]
  | .dealflowFinance => [.dealflowSalesRep]
  | .dealflowAdmin => [.dealflowSalesManager, .dealflowFinance]

/-- A group with all the groups it implies. -/
def Group.withImplied : Group → List Group
  | .portal => [.portal]
  | .user => [.user]
  | .dealflowPortal => [.dealflowPortal, .portal]
  | .dealflowSalesRep => [.dealflowSalesRep, .user]
  | .dealflowSalesManager => [.dealflowSalesManager, .dealflowSalesRep, .user]
  | .dealflowFinance => [.dealflowFinance, .dealflowSalesRep, .user]
  | .dealflowAdmin =>
      [.dealflowAdmin, .dealflowSalesManager, .dealflowFinance, .dealflowSalesRep, .user]

theorem Group.withImplied_closed (group : Group) :
    ∀ g ∈ group.withImplied, ∀ i ∈ g.implied, i ∈ group.withImplied := by
  cases group <;> decide

structure Partner where
  id : ℕ
  commercialPartnerId : Option ℕ := none
  childIds : List ℕ := []
  deriving DecidableEq, Repr

structure User where
  id : ℕ
  partner : Partner
  groups : List Group
  implied : ∀ g ∈ groups, ∀ i ∈ g.implied, i ∈ groups
  deriving DecidableEq

/-- A user that was put into one group. -/
def Group.member (group : Group) (id : ℕ) : User where
  id := id
  partner := { id }
  groups := group.withImplied
  implied := group.withImplied_closed

section Groups

variable (user : User)

def User.hasGroup (group : Group) : Bool :=
  group ∈ user.groups

/-- `is_portal`: whoever is not an internal user counts as a portal user. -/
def User.isPortal : Bool :=
  user.hasGroup .portal || user.hasGroup .dealflowPortal || !user.hasGroup .user

def User.isFinanceOrAdmin : Bool :=
  user.hasGroup .dealflowFinance || user.hasGroup .dealflowAdmin

def User.isManager : Bool :=
  user.hasGroup .dealflowSalesManager || user.isFinanceOrAdmin

def User.isSalesRep : Bool :=
  user.hasGroup .dealflowSalesRep

variable {user}

theorem User.hasGroup_of_implied {g i : Group} (has : user.hasGroup g = true)
    (mem : i ∈ g.implied) : user.hasGroup i = true :=
  decide_eq_true (user.implied g (of_decide_eq_true has) i mem)

theorem User.isFinanceOrAdmin_isSalesRep (finance : user.isFinanceOrAdmin = true) :
    user.isSalesRep = true := by
  rcases Bool.or_eq_true_iff.mp finance with has | has
  · exact User.hasGroup_of_implied has (by decide)
  · have finance : user.hasGroup .dealflowFinance = true :=
      User.hasGroup_of_implied has (by decide)
    exact User.hasGroup_of_implied finance (by decide)

/-- Every manager is a sales rep. -/
theorem User.isManager_isSalesRep (manager : user.isManager = true) : user.isSalesRep = true := by
  rcases Bool.or_eq_true_iff.mp manager with has | finance
  · exact User.hasGroup_of_implied has (by decide)
  · exact User.isFinanceOrAdmin_isSalesRep finance

end Groups

/-- The environment of a call: the user with the flags of its context.  In a superuser environment
(`sudo`) the user stays who it is. -/
structure Env where
  user : User
  su : Bool := false
  /-- `dealflow_skip_reapproval`. -/
  skipReapproval : Bool := false
  /-- `dealflow_bypass_check`. -/
  bypassCheck : Bool := false
  now : ℤ := 0
  deriving DecidableEq

def Env.sudo (env : Env) : Env :=
  { env with su := true }

def Env.withSkipReapproval (env : Env) : Env :=
  { env with skipReapproval := true }

def Env.withBypassCheck (env : Env) : Env :=
  { env with bypassCheck := true }

/-! ## Approval tokens -/

/-- What Python itself raises here. -/
inductive PythonException
  | valueError (message : String)
  | typeError (message : String)
  deriving DecidableEq, Repr

/-- `str(exc)`. -/
def PythonException.message : PythonException → String
  | .valueError message => message
  | .typeError message => message

/-- A digit of `hexdigest`. -/
def isHexDigit (c : Char) : Bool :=
  c.isDigit || ('a' ≤ c && c ≤ 'f')

/-- The clock in seconds, the signing key, HMAC-SHA256 as hexadecimal text, and how many digits an
integer may have as text. -/
structure Signing where
  currentTime : ℤ
  secret : String
  hmac : String → String → String
  hexadecimal : ∀ key message, (hmac key message).toList.all isHexDigit = true
  maxStrDigits : ℕ := 4300

section Tokens

variable (signing : Signing)

/-- An integer in a text. -/
def Signing.print (n : ℤ) : Except PythonException String :=
  match intText signing.maxStrDigits n with
  | some text => .ok text
  | none => .error (.valueError
      (s!"Exceeds the limit ({signing.maxStrDigits} digits) for integer string conversion; " ++
        "use sys.set_int_max_str_digits() to increase the limit"))

/-- `payload`. -/
def Signing.payload (orderId expiry : ℤ) : Except PythonException String := do
  let order ← signing.print orderId
  let expires ← signing.print expiry
  .ok s!"{order}.{expires}"

/-- `hmac.new(..).hexdigest()`. -/
def Signing.sign (payload : String) : String :=
  signing.hmac signing.secret payload

def generateApprovalToken (orderId ttlSeconds : ℤ) : Except PythonException String := do
  let payload ← signing.payload orderId (signing.currentTime + max 1 ttlSeconds)
  .ok s!"DF-APP.{payload}.{signing.sign payload}"

/-- `hmac.compare_digest`, on strings. -/
def compareDigest (a b : String) : Except PythonException Bool :=
  if isAscii a.toList && isAscii b.toList then .ok (a = b)
  else .error (.typeError "comparing strings with non-ASCII characters is not supported")

def verifyApprovalToken (token : Option String) (orderId : ℤ) : Except PythonException Bool :=
  match (strip (token.getD "").toList).splitOn '.' with
  | [format, order, expiry, tokenSig] =>
      if format ≠ "DF-APP".toList then .ok false
      else
        match pythonInt signing.maxStrDigits order, pythonInt signing.maxStrDigits expiry with
        | some tokenOrderId, some tokenExpiry =>
            if tokenOrderId ≠ orderId then .ok false
            else if tokenExpiry < signing.currentTime then .ok false
            else do
              let payload ← signing.payload tokenOrderId tokenExpiry
              compareDigest (signing.sign payload) (String.ofList tokenSig)
        | _, _ => .ok false
  | _ => .ok false

end Tokens

-- a token verifies for its own order alone, and one with a foreign signature raises
example :
    let signing : Signing :=
      { currentTime := 90, secret := "key", hmac := fun _ _ => "5f",
        hexadecimal := fun _ _ => by decide }
    (verifyApprovalToken signing (some " DF-APP.12.100.5f") 12,
      verifyApprovalToken signing (some " DF-APP.12.100.5f") 13,
      (verifyApprovalToken signing (some "DF-APP.12.100.\u00e9") 12).toOption) =
        (.ok true, .ok false, none) := by
  decide +kernel

end DealFlow.Addon
