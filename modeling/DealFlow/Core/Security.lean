import DealFlow.Lib.Dict
import DealFlow.Lib.PythonText
import DealFlow.Models.Store

/-!
# Bearer tokens

`app/core/security.py`, over the library that signs (`jose.jwt`).  A token is of whatever type `τ`
the library signs into.  The times of a token are whole seconds.
-/

namespace DealFlow

open Lib

inductive ClaimValue
  | null
  | text (s : String)
  | integer (n : ℤ)
  | flag (b : Bool)
  deriving DecidableEq, Repr

abbrev Claims := Dict String ClaimValue

/-- `jose.jwt` under the secret and the algorithm of the settings.  Of what it has signed it accepts
the audience it was signed for, up to the second it expires, and gives back what was signed. -/
structure Jwt (τ : Type) where
  encode : Claims → τ
  decode : τ → String → Timestamp → Except String Claims
  decode_encode {claims : Claims} {subject audience : String} {expiry : Timestamp} :
    claims.get "sub" = some (.text subject) → claims.get "aud" = some (.text audience) →
    claims.get "exp" = some (.integer expiry) →
    ∀ expected now payload, decode (encode claims) expected now = .ok payload ↔
      payload = claims ∧ expected = audience ∧ now ≤ expiry

/-- Tokens that are their claims. -/
def Jwt.plain : Jwt Claims where
  encode := id
  decode claims expected now :=
    match claims.get "aud", claims.get "exp" with
    | some (.text audience), some (.integer expiry) =>
        if expected = audience ∧ now ≤ expiry then .ok claims else .error "Invalid claims"
    | _, _ => .error "Invalid claim format in token"
  decode_encode {claims subject audience expiry} sub aud exp expected now payload := by
    simp only [id, aud, exp]
    split
    · next accepted =>
        rw [Except.ok.injEq]
        exact ⟨fun same => ⟨same.symm, accepted⟩, fun all => all.1.symm⟩
    · next refused => exact ⟨nofun, fun all => absurd all.2 refused⟩

def accessTokenExpireMinutes : ℤ := 720

def portalTokenExpireMinutes : ℤ := 240

/-- When a token expires, a difference of zero counting as none. -/
def tokenExpiry (now : Timestamp) (expiresDelta : Option ℤ) (minutes : ℤ) : Timestamp :=
  now + (expiresDelta.filter (· ≠ 0)).getD (minutes * 60)

/-- What a token of the staff side says, before its extra claims. -/
def accessClaims (now expire : Timestamp) (subject role companyId audience : String) : Claims :=
  Dict.empty.update
    [("sub", .text subject), ("role", .text role), ("company_id", .text companyId),
      ("aud", .text audience), ("iat", .integer now), ("exp", .integer expire)]

/-- What a token of the customer portal says. -/
def portalClaims (now expire : Timestamp) (subject customerId companyId role : String) : Claims :=
  Dict.empty.update
    [("sub", .text subject), ("role", .text role), ("customer_id", .text customerId),
      ("company_id", .text companyId), ("aud", .text "portal"), ("iat", .integer now),
      ("exp", .integer expire)]

section Claims

variable {now expire : Timestamp} {subject role companyId audience customerId : String}

theorem accessClaims_get :
    (accessClaims now expire subject role companyId audience).get "sub" = some (.text subject) ∧
      (accessClaims now expire subject role companyId audience).get "aud" =
        some (.text audience) ∧
      (accessClaims now expire subject role companyId audience).get "exp" =
        some (.integer expire) := by
  simp [accessClaims, Dict.get_update, List.lookup_cons]

theorem portalClaims_get :
    (portalClaims now expire subject customerId companyId role).get "sub" =
        some (.text subject) ∧
      (portalClaims now expire subject customerId companyId role).get "aud" =
        some (.text "portal") ∧
      (portalClaims now expire subject customerId companyId role).get "exp" =
        some (.integer expire) := by
  simp [portalClaims, Dict.get_update, List.lookup_cons]

end Claims

namespace Jwt

variable {τ : Type} (jwt : Jwt τ)

def createAccessToken (now : Timestamp) (subject role : String) (companyId : String := "1")
    (audience : String := "internal") (expiresDelta : Option ℤ := none)
    (extraClaims : List (String × ClaimValue) := []) : τ :=
  let expire := tokenExpiry now expiresDelta accessTokenExpireMinutes
  jwt.encode ((accessClaims now expire subject role companyId audience).update extraClaims)

def createPortalToken (now : Timestamp) (subject customerId companyId : String)
    (role : String := "CUSTOMER") (expiresDelta : Option ℤ := none) : τ :=
  let expire := tokenExpiry now expiresDelta portalTokenExpireMinutes
  jwt.encode (portalClaims now expire subject customerId companyId role)

/-- The payload of a token, or the text of a `ValueError`. -/
def decodeToken (token : τ) (audience : String) (now : Timestamp) : Except String Claims :=
  match jwt.decode token audience now with
  | .ok payload => .ok payload
  | .error e => .error s!"Invalid token: {e}"

variable {jwt}

theorem decodeToken_eq_ok {token : τ} {audience : String} {now : Timestamp} {payload : Claims} :
    jwt.decodeToken token audience now = .ok payload ↔
      jwt.decode token audience now = .ok payload := by
  unfold decodeToken
  cases jwt.decode token audience now with
  | ok payload => exact Iff.rfl
  | error e => exact ⟨nofun, nofun⟩

/-- A portal token opens the portal until it expires, and nothing else. -/
theorem decodeToken_portal {now at' : Timestamp} {subject customerId companyId role : String}
    {expiresDelta : Option ℤ} {expected : String} {payload : Claims} :
    jwt.decodeToken (jwt.createPortalToken now subject customerId companyId role expiresDelta)
        expected at' = .ok payload ↔
      payload = portalClaims now (tokenExpiry now expiresDelta portalTokenExpireMinutes) subject
          customerId companyId role ∧
        expected = "portal" ∧ at' ≤ tokenExpiry now expiresDelta portalTokenExpireMinutes := by
  obtain ⟨sub, aud, exp⟩ := portalClaims_get
  rw [decodeToken_eq_ok]
  exact jwt.decode_encode sub aud exp expected at' payload

/-- A token with extra claims that leave its subject, audience and expiry alone opens what it was
signed for until it expires, and nothing else. -/
theorem decodeToken_access {now at' : Timestamp} {subject role companyId audience : String}
    {expiresDelta : Option ℤ} {extra : List (String × ClaimValue)} {expected : String}
    {payload : Claims} (plain : ∀ key ∈ ["sub", "aud", "exp"], extra.reverse.lookup key = none) :
    jwt.decodeToken (jwt.createAccessToken now subject role companyId audience expiresDelta extra)
        expected at' = .ok payload ↔
      payload = (accessClaims now (tokenExpiry now expiresDelta accessTokenExpireMinutes) subject
          role companyId audience).update extra ∧
        expected = audience ∧ at' ≤ tokenExpiry now expiresDelta accessTokenExpireMinutes := by
  obtain ⟨sub, aud, exp⟩ := accessClaims_get
  have signed : ∀ key ∈ ["sub", "aud", "exp"], ∀ {claims : Claims} {value},
      claims.get key = some value → (claims.update extra).get key = some value := by
    intro key mem claims value get
    rw [Dict.get_update, plain key mem, get]
    rfl
  rw [decodeToken_eq_ok]
  exact jwt.decode_encode (signed "sub" (by simp) sub) (signed "aud" (by simp) aud)
    (signed "exp" (by simp) exp) expected at' payload

end Jwt

end DealFlow
