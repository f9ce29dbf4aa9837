import DealFlow.Api.Identity

/-!
# What a bearer token opens

A token that a sign-in or a link answers with is for one of two sides, the staff's or the portal's.
`bearer_opens_own_side`: whatever has happened to the users since, it is accepted on its own side
only, until it expires, and for the user or the partner it was issued to; on the staff side that
user must be there and active at the time of the request.
-/

namespace DealFlow

open Lib

variable {τ : Type} {jwt : Jwt τ}

/-- The user of a request is the row of the token's subject, and it is active. -/
theorem getCurrentUser_ok {token : τ} {now : Timestamp} {db : IdentityDb} {caller : Caller}
    (ok : getCurrentUser jwt (some token) now db = .ok caller) :
    ∃ payload subject, jwt.decodeToken token "internal" now = .ok payload ∧
      payload.get "sub" = some subject ∧ subject.toInt = some caller.odooUserId ∧
      db.users.get caller.odooUserId = some caller.account ∧ caller.account.isActive = true := by
  unfold getCurrentUser at ok
  dsimp only at ok
  split at ok
  · cases ok
  · next payload decoded =>
      split at ok
      · cases ok
      · next subject found =>
          split at ok
          · cases ok
          · next odooUserId read =>
              split at ok
              · cases ok
              · next account stored =>
                  split at ok
                  · next active =>
                      cases ok
                      have sub := (Option.filter_eq_some_iff.mp found).1
                      exact ⟨payload, subject, decoded, sub, read, stored, active⟩
                  · cases ok

/-- The caller of the portal has the partner of the token, as an active user or as a proxy. -/
theorem getCurrentPortalUser_ok {token : τ} {now : Timestamp} {db : IdentityDb} {caller : Caller}
    (ok : getCurrentPortalUser jwt (some token) now db = .ok caller) :
    ∃ payload claim partner, jwt.decodeToken token "portal" now = .ok payload ∧
      ((payload.get "partner_id").filter ClaimValue.truthy).or
        ((payload.get "customer_id").filter ClaimValue.truthy) = some claim ∧
      claim.toInt = some partner ∧ caller.account.partnerId = some partner ∧
      caller.account.isActive = true := by
  unfold getCurrentPortalUser at ok
  dsimp only at ok
  split at ok
  · cases ok
  · next payload decoded =>
      split at ok
      · cases ok
      · next claim found =>
          split at ok
          · cases ok
          · next partner read =>
              split at ok
              · cases ok
                exact ⟨payload, claim, partner, decoded, found, read, rfl, rfl⟩
              · next odooUserId account row =>
                  split at ok
                  · next active =>
                      cases ok
                      have same := List.find?_some row
                      rw [decide_eq_true_eq] at same
                      exact ⟨payload, claim, partner, decoded, found, read, same, active⟩
                  · cases ok

/-! ## The two kinds of token -/

/-- A token for the portal is for the portal, for four hours, and says which partner. -/
theorem partnerToken_portal {partner : ℤ} {signed now : Timestamp} {db : IdentityDb}
    {caller : Caller}
    (ok : getCurrentPortalUser jwt (some (partnerToken jwt partner signed)) now db = .ok caller) :
    caller.account.partnerId = some partner ∧ caller.account.isActive = true ∧
      now ≤ signed + portalTokenExpireMinutes * 60 := by
  obtain ⟨payload, claim, read, decoded, found, int, same, active⟩ := getCurrentPortalUser_ok ok
  have opened := Jwt.decodeToken_portal.mp decoded
  refine ⟨?_, active, opened.2.2⟩
  have customer : (portalClaims signed (tokenExpiry signed
      (some (portalTokenExpireMinutes * 60)) portalTokenExpireMinutes) (toString partner)
      (toString partner) "1" Role.customer.value).get "customer_id" =
        some (.text (toString partner)) := by
    simp [portalClaims, Dict.get_update, List.lookup_cons]
  have missing : (portalClaims signed (tokenExpiry signed
      (some (portalTokenExpireMinutes * 60)) portalTokenExpireMinutes) (toString partner)
      (toString partner) "1" Role.customer.value).get "partner_id" = none := by
    simp [portalClaims, Dict.get_update, Dict.get_empty, List.lookup_cons]
  rw [opened.1, missing, customer, Option.filter_none, Option.none_or] at found
  obtain ⟨found, -⟩ := Option.filter_eq_some_iff.mp found
  cases found
  rw [same, eq_of_pythonInt_toString int]

theorem partnerToken_internal {partner : ℤ} {signed now : Timestamp} {db : IdentityDb}
    {caller : Caller} :
    getCurrentUser jwt (some (partnerToken jwt partner signed)) now db ≠ .ok caller := by
  intro ok
  obtain ⟨payload, subject, decoded, -⟩ := getCurrentUser_ok ok
  have opened := Jwt.decodeToken_portal.mp decoded
  exact absurd opened.2.1 (by decide)

/-- The claims a token for the staff has beside the usual ones. -/
def staffClaims (user : UserAccount) : List (String × ClaimValue) :=
  [("login", .text user.login), ("name", .text user.name), ("is_portal", .flag false),
    ("partner_id", (user.partnerId.map .integer).getD .null)]

theorem userToken_staff {user : UserAccount} (staff : user.isPortal = false) (odooUserId : ℤ)
    (signed : Timestamp) :
    (userToken jwt odooUserId user signed).accessToken =
      jwt.createAccessToken signed (toString odooUserId) user.role.value "1" "internal" none
        (staffClaims user) := by
  unfold userToken
  rw [staff]
  rfl

theorem staffClaims_plain (user : UserAccount) {key : String} (mem : key ∈ ["sub", "aud", "exp"]) :
    (staffClaims user).reverse.lookup key = none := by
  simp only [List.mem_cons, List.not_mem_nil, or_false] at mem
  rcases mem with rfl | rfl | rfl <;> simp [staffClaims, List.lookup_cons]

/-- A token for the staff is for the staff, for twelve hours, and says which user. -/
theorem userToken_internal {odooUserId : ℤ} {user : UserAccount} {signed now : Timestamp}
    {db : IdentityDb} {caller : Caller} (staff : user.isPortal = false)
    (ok : getCurrentUser jwt (some (userToken jwt odooUserId user signed).accessToken) now db =
      .ok caller) :
    caller.odooUserId = odooUserId ∧ db.users.get odooUserId = some caller.account ∧
      caller.account.isActive = true ∧ now ≤ signed + accessTokenExpireMinutes * 60 := by
  rw [userToken_staff staff] at ok
  obtain ⟨payload, subject, decoded, sub, read, stored, active⟩ := getCurrentUser_ok ok
  have opened := (Jwt.decodeToken_access fun key => staffClaims_plain user).mp decoded
  rw [opened.1, Dict.get_update, staffClaims_plain user (by simp), accessClaims_get.1,
    Option.none_or] at sub
  cases sub
  have same := eq_of_pythonInt_toString read
  rw [same] at stored
  exact ⟨same, stored, active, opened.2.2⟩

theorem userToken_portal {odooUserId : ℤ} {user : UserAccount} {signed now : Timestamp}
    {db : IdentityDb} {caller : Caller} (staff : user.isPortal = false) :
    getCurrentPortalUser jwt (some (userToken jwt odooUserId user signed).accessToken) now db ≠
      .ok caller := by
  intro ok
  rw [userToken_staff staff] at ok
  obtain ⟨payload, claim, partner, decoded, -⟩ := getCurrentPortalUser_ok ok
  have opened := (Jwt.decodeToken_access fun key => staffClaims_plain user).mp decoded
  exact absurd opened.2.1 (by decide)

/-! ## Every token answered -/

/-- A token answered is a user's or a partner's. -/
inductive Issued (jwt : Jwt τ) (signed : Timestamp) : TokenResponse τ → Prop
  | user (odooUserId : ℤ) (user : UserAccount) :
      Issued jwt signed (userToken jwt odooUserId user signed)
  | partner {response : TokenResponse τ} (partner : ℤ)
      (token : response.accessToken = partnerToken jwt partner signed)
      (portal : response.isPortal = true) (of : response.partnerId = some partner)
      (nobody : response.odooUserId = 0) : Issued jwt signed response

theorem issueToken_ok {odooUserId : ℤ} {user : UserAccount} {now : Timestamp}
    {response : TokenResponse τ} (ok : issueToken jwt odooUserId user now = .ok response) :
    user.isActive = true ∧ response = userToken jwt odooUserId user now := by
  unfold issueToken at ok
  split at ok
  · next active =>
      cases ok
      exact ⟨active, rfl⟩
  · cases ok

/-- A sign-in answers with a token of an active user. -/
theorem authenticateUser_ok {odooAuth : Option OdooIdentity} {login password : String}
    {now : Timestamp} {db after : IdentityDb} {response : TokenResponse τ}
    (ok : authenticateUser jwt odooAuth login password now db = (.ok response, after)) :
    ∃ odooUserId user, after.users.get odooUserId = some user ∧ user.isActive = true ∧
      response = userToken jwt odooUserId user now := by
  unfold authenticateUser at ok
  split at ok
  · split at ok
    · next odooUserId user found =>
        split at ok
        · obtain ⟨answer, rfl⟩ := Prod.mk.inj ok
          obtain ⟨active, same⟩ := issueToken_ok answer
          exact ⟨odooUserId, user, Dict.mem_entries.mp (List.mem_of_find?_eq_some found), active,
            same⟩
        · cases ok
    · cases ok
  · next auth =>
      split at ok
      · split at ok
        · cases ok
        · obtain ⟨answer, rfl⟩ := Prod.mk.inj ok
          obtain ⟨active, same⟩ := issueToken_ok answer
          exact ⟨_, _, by rw [Dict.get_set, if_pos rfl], active, same⟩
      · obtain ⟨answer, rfl⟩ := Prod.mk.inj ok
        obtain ⟨active, same⟩ := issueToken_ok answer
        exact ⟨_, _, by rw [Dict.get_set, if_pos rfl], active, same⟩

variable {hashToken : String → String}

theorem issued_of_answer {call : IdentityCall τ} {db : IdentityDb} {response : TokenResponse τ}
    (answered : identityAnswer jwt hashToken call db = .ok (.token response)) :
    Issued jwt call.now response := by
  obtain ⟨now, request⟩ := call
  unfold identityAnswer handleIdentity at answered
  cases request with
  | login odooAuth login password =>
      cases result : authenticateUser jwt odooAuth login password now db with
      | mk answer after =>
          cases answer with
          | error e => simp [result, Except.map] at answered
          | ok own =>
              simp only [result, Prod.map_fst, Except.map, Except.ok.injEq,
                IdentityAnswer.token.injEq] at answered
              obtain ⟨odooUserId, user, -, -, same⟩ := authenticateUser_ok result
              rw [← answered, same]
              exact .user odooUserId user
  | requestLink customerByEmail payload =>
      cases result : createMagicLink hashToken customerByEmail payload now db with
      | mk answer after => cases answer <;> simp [result, Except.map] at answered
  | verifyLink partnerName rawToken =>
      simp only [verifyMagicLink] at answered
      split at answered
      · simp [Except.map] at answered
      · next link stored =>
          split at answered
          · simp [Except.map] at answered
          · split at answered
            · simp [Except.map] at answered
            · simp only [Prod.map_fst, Except.map, Except.ok.injEq,
                IdentityAnswer.token.injEq] at answered
              rw [← answered]
              exact .partner link.odooPartnerId rfl rfl rfl rfl
  | updateUser auth odooUserId payload =>
      cases result : updateUser jwt auth odooUserId payload now db with
      | mk answer after => cases answer <;> simp [result, Except.map] at answered

/-- Whom a token is for on the portal. -/
def TokenResponse.portalSubject (response : TokenResponse τ) : ℤ :=
  (response.partnerId.filter (· ≠ 0)).getD response.odooUserId

/-- A token is accepted on its own side only, until it expires, and for the user or the partner it
was issued to, whatever the users are by then. -/
theorem bearer_opens_own_side {call : IdentityCall τ} {db : IdentityDb} {response : TokenResponse τ}
    (answered : identityAnswer jwt hashToken call db = .ok (.token response)) (later : IdentityDb)
    (now : Timestamp) :
    (∀ caller, getCurrentUser jwt (some response.accessToken) now later = .ok caller →
        response.isPortal = false ∧ caller.odooUserId = response.odooUserId ∧
          later.users.get response.odooUserId = some caller.account ∧
          caller.account.isActive = true ∧ now ≤ call.now + accessTokenExpireMinutes * 60) ∧
      ∀ caller, getCurrentPortalUser jwt (some response.accessToken) now later = .ok caller →
        response.isPortal = true ∧ caller.account.partnerId = some response.portalSubject ∧
          caller.account.isActive = true ∧ now ≤ call.now + portalTokenExpireMinutes * 60 := by
  cases issued_of_answer answered with
  | partner partner token portal of nobody =>
      rw [token]
      refine ⟨fun caller ok => absurd ok partnerToken_internal, fun caller ok => ⟨portal, ?_⟩⟩
      have subject : response.portalSubject = partner := by
        unfold TokenResponse.portalSubject
        rw [of, nobody]
        by_cases zero : partner = 0
        · rw [zero]
          rfl
        · simp [Option.filter, zero]
      rw [subject]
      exact partnerToken_portal ok
  | user odooUserId user =>
      cases side : user.isPortal with
      | true =>
          have token : userToken jwt odooUserId user call.now =
              { accessToken := partnerToken jwt (user.portalSubject odooUserId) call.now
                expiresIn := portalTokenExpireMinutes * 60
                role := .customer
                odooUserId
                name := user.name
                isPortal := true
                partnerId := user.partnerId } := if_pos side
          rw [token]
          exact ⟨fun caller ok => absurd ok partnerToken_internal,
            fun caller ok => ⟨rfl, partnerToken_portal ok⟩⟩
      | false =>
          have token : (userToken jwt odooUserId user call.now).isPortal = false ∧
              (userToken jwt odooUserId user call.now).odooUserId = odooUserId := by
            unfold userToken
            rw [side]
            exact ⟨rfl, rfl⟩
          rw [token.1, token.2]
          exact ⟨fun caller ok => ⟨rfl, userToken_internal side ok⟩,
            fun caller ok => absurd ok (userToken_portal side)⟩

/-- The token of a sales representative does not open the portal. -/
theorem bearer_of_rep :
    identityAnswer Jwt.plain id
        ⟨0, .login (some { uid := 4, name := "Rep", login := "rep" }) "rep" "secret"⟩ {} =
      .ok (.token (userToken Jwt.plain 4 { login := "rep", name := "Rep", lastLoginAt := some 0 }
        0)) ∧
      ∀ caller, getCurrentPortalUser Jwt.plain
        (some (userToken Jwt.plain 4 { login := "rep", name := "Rep", lastLoginAt := some 0 }
          0).accessToken) 60 {} ≠ .ok caller := by
  have answered : identityAnswer Jwt.plain id
      ⟨0, .login (some { uid := 4, name := "Rep", login := "rep" }) "rep" "secret"⟩ {} =
      .ok (.token (userToken Jwt.plain 4 { login := "rep", name := "Rep", lastLoginAt := some 0 }
        0)) := rfl
  refine ⟨answered, ?_⟩
  intro caller ok
  exact absurd ((bearer_opens_own_side answered {} 60).2 caller ok).1 (by decide)

end DealFlow
