import DealFlow.Identity.Bearers

/-!
# Who changes an account

What a request does to one account is a first sign-in, a later one, or the update of an active
administrator (`AccountEffect`).  So along every run of requests a role that changes, but to that
of a portal customer, is one an administrator has given (`account_changes_need_admin`), an account
switched off stays out until an administrator switches it on (`deactivated_account_refused`), and
a user who has signed in to the portal never gets a token of the staff again
(`portal_account_stays`).
-/

namespace DealFlow

open Lib

variable {τ : Type} (jwt : Jwt τ) (hashToken : String → String)

/-- The request is an update of the user that an active administrator makes. -/
def UpdatedByAdmin (call : IdentityCall τ) (db : IdentityDb) (odooUserId : ℤ)
    (payload : UserUpdate) : Prop :=
  ∃ auth caller, call.request = .updateUser auth odooUserId payload ∧
    getCurrentUser jwt auth call.now db = .ok caller ∧ caller.account.isActive = true ∧
    caller.account.role = .admin

/-- What a request does to the account of a user. -/
inductive AccountEffect (call : IdentityCall τ) (db : IdentityDb) (odooUserId : ℤ) : Prop
  | kept (same : (identityStep jwt hashToken call db).users.get odooUserId =
      db.users.get odooUserId)
  | created {auth : OdooIdentity} {login : String} (absent : db.users.get odooUserId = none)
      (set : (identityStep jwt hashToken call db).users.get odooUserId =
        some (auth.newAccount login call.now))
  | signedIn {auth : OdooIdentity} {before : UserAccount}
      (stored : db.users.get odooUserId = some before)
      (set : (identityStep jwt hashToken call db).users.get odooUserId =
        some (auth.signedIn call.now before))
  | updated {payload : UserUpdate} {before : UserAccount}
      (stored : db.users.get odooUserId = some before)
      (admin : UpdatedByAdmin jwt call db odooUserId payload)
      (set : (identityStep jwt hashToken call db).users.get odooUserId =
        some (payload.apply before))

variable {jwt hashToken}

/-- Where only administrators are let in, an administrator comes in. -/
theorem requireRoles_admin {auth : Option τ} {now : Timestamp} {db : IdentityDb} {caller : Caller}
    (ok : requireRoles jwt [.admin] auth now db = .ok caller) :
    getCurrentUser jwt auth now db = .ok caller ∧ caller.account.isActive = true ∧
      caller.account.role = .admin := by
  unfold requireRoles getCurrentActiveUser at ok
  cases user : getCurrentUser jwt auth now db with
  | error e => simp [user] at ok
  | ok found =>
      simp only [user] at ok
      split at ok
      · cases ok
      · next active =>
          split at active
          · next on =>
              cases active
              split at ok
              · next role =>
                  cases ok
                  rw [List.mem_singleton, or_self] at role
                  exact ⟨rfl, on, role⟩
              · cases ok
          · cases active

theorem createMagicLink_users (customerByEmail : String → Option ℤ) (r : MagicLinkRequest)
    (now : Timestamp) (db : IdentityDb) :
    (createMagicLink hashToken customerByEmail r now db).2.users = db.users := by
  unfold createMagicLink
  split
  · rfl
  · split <;> rfl

theorem verifyMagicLink_users (partnerName : ℤ → Option String) (rawToken : String)
    (now : Timestamp) (db : IdentityDb) :
    (verifyMagicLink jwt hashToken partnerName rawToken now db).2.users = db.users := by
  unfold verifyMagicLink
  split
  · rfl
  · split
    · rfl
    · split <;> rfl

section Effects

variable (jwt hashToken)

/-- A sign-in makes the account of the user whom Odoo names, or updates it. -/
theorem signIn_accountEffect (now : Timestamp) (auth : OdooIdentity) (login password : String)
    (db : IdentityDb) (odooUserId : ℤ) :
    AccountEffect jwt hashToken ⟨now, .login (some auth) login password⟩ db odooUserId := by
  by_cases same : odooUserId = auth.uid
  · subst same
    cases stored : db.users.get auth.uid with
    | none =>
        by_cases taken : db.users.entries.any fun entry => entry.2.login = login
        · refine .kept ?_
          simp [identityStep, handleIdentity, authenticateUser, stored, taken]
        · have set : (identityStep jwt hashToken
              ⟨now, .login (some auth) login password⟩ db).users.get auth.uid =
              some (auth.newAccount login now) := by
            simp [identityStep, handleIdentity, authenticateUser, stored, taken, Dict.get_set]
          exact .created stored set
    | some before =>
        have set : (identityStep jwt hashToken
            ⟨now, .login (some auth) login password⟩ db).users.get auth.uid =
            some (auth.signedIn now before) := by
          simp [identityStep, handleIdentity, authenticateUser, stored, Dict.get_set]
        exact .signedIn stored set
  · refine .kept ?_
    simp only [identityStep, handleIdentity, authenticateUser]
    split
    · split
      · rfl
      · simp [Dict.get_set, same]
    · simp [Dict.get_set, same]

/-- An update changes the account it names, where an administrator makes it. -/
theorem updateUser_accountEffect (now : Timestamp) (auth : Option τ) (target : ℤ)
    (payload : UserUpdate) (db : IdentityDb) (odooUserId : ℤ) :
    AccountEffect jwt hashToken ⟨now, .updateUser auth target payload⟩ db odooUserId := by
  cases allowed : requireRoles jwt [.admin] auth now db with
  | error e =>
      refine .kept ?_
      simp [identityStep, handleIdentity, updateUser, allowed]
  | ok caller =>
      cases stored : db.users.get target with
      | none =>
          refine .kept ?_
          simp [identityStep, handleIdentity, updateUser, allowed, stored]
      | some before =>
          by_cases same : odooUserId = target
          · subst same
            obtain ⟨user, active, role⟩ := requireRoles_admin allowed
            refine .updated stored ⟨auth, caller, rfl, user, active, role⟩ ?_
            simp [identityStep, handleIdentity, updateUser, allowed, stored, Dict.get_set]
          · refine .kept ?_
            simp [identityStep, handleIdentity, updateUser, allowed, stored, Dict.get_set, same]

/-- The four things a request can do to an account. -/
theorem accountEffect (call : IdentityCall τ) (db : IdentityDb) (odooUserId : ℤ) :
    AccountEffect jwt hashToken call db odooUserId := by
  obtain ⟨now, request⟩ := call
  cases request with
  | requestLink customerByEmail payload =>
      exact .kept (congrArg (fun users : Dict ℤ UserAccount => users.get odooUserId)
        (createMagicLink_users customerByEmail payload now db))
  | verifyLink partnerName rawToken =>
      exact .kept (congrArg (fun users : Dict ℤ UserAccount => users.get odooUserId)
        (verifyMagicLink_users partnerName rawToken now db))
  | login odooAuth login password =>
      cases odooAuth with
      | none =>
          refine .kept ?_
          simp only [identityStep, handleIdentity, authenticateUser]
          split
          · split <;> rfl
          · rfl
      | some auth => exact signIn_accountEffect jwt hashToken now auth login password db odooUserId
  | updateUser auth target payload =>
      exact updateUser_accountEffect jwt hashToken now auth target payload db odooUserId

end Effects

/-! ## Along a run -/

/-- A later sign-in keeps the role or makes a customer of the portal, and it neither switches an
account on or off nor takes the portal away. -/
theorem OdooIdentity.signedIn_spec (auth : OdooIdentity) (now : Timestamp) (user : UserAccount) :
    ((auth.signedIn now user).role = user.role ∨
        (auth.signedIn now user).isPortal = true ∧ (auth.signedIn now user).role = .customer) ∧
      (auth.signedIn now user).isActive = user.isActive ∧
      (user.isPortal = true → (auth.signedIn now user).isPortal = true) := by
  unfold OdooIdentity.signedIn
  dsimp only
  split
  · exact ⟨.inr ⟨rfl, rfl⟩, rfl, fun _ => rfl⟩
  · exact ⟨.inl rfl, rfl, id⟩

/-- How an account comes from what it was, administrators' updates among the requests so far. -/
structure Explained (jwt : Jwt τ) (odooUserId : ℤ) (first : UserAccount)
    (past : List (IdentityDb × IdentityCall τ)) (now : UserAccount) : Prop where
  role : now.role = first.role ∨ now.isPortal = true ∧ now.role = .customer ∨
    ∃ t ∈ past, ∃ payload, UpdatedByAdmin jwt t.2 t.1 odooUserId payload ∧
      payload.role = some now.role
  active : now.isActive = first.isActive ∨
    ∃ t ∈ past, ∃ payload, UpdatedByAdmin jwt t.2 t.1 odooUserId payload ∧
      payload.isActive = some now.isActive
  portal : first.isPortal = true → now.isPortal = true

namespace Explained

variable {odooUserId : ℤ} {first now : UserAccount} {past : List (IdentityDb × IdentityCall τ)}

theorem more (explained : Explained jwt odooUserId first past now)
    (t : IdentityDb × IdentityCall τ) : Explained jwt odooUserId first (past ++ [t]) now where
  role := by
    rcases explained.role with same | portal | ⟨s, mem, given⟩
    · exact .inl same
    · exact .inr (.inl portal)
    · exact .inr (.inr ⟨s, List.mem_append_left _ mem, given⟩)
  active := by
    rcases explained.active with same | ⟨s, mem, given⟩
    · exact .inl same
    · exact .inr ⟨s, List.mem_append_left _ mem, given⟩
  portal := explained.portal

theorem signIn (explained : Explained jwt odooUserId first past now) (auth : OdooIdentity)
    (at' : Timestamp) : Explained jwt odooUserId first past (auth.signedIn at' now) := by
  obtain ⟨role, active, portal⟩ := auth.signedIn_spec at' now
  refine ⟨?_, ?_, fun was => portal (explained.portal was)⟩
  · rcases role with same | customer
    · rw [same]
      rcases explained.role with kept | was | given
      · exact .inl kept
      · exact .inr (.inl ⟨portal was.1, was.2⟩)
      · exact .inr (.inr given)
    · exact .inr (.inl customer)
  · rw [active]
    exact explained.active

theorem update (explained : Explained jwt odooUserId first past now) {payload : UserUpdate}
    {t : IdentityDb × IdentityCall τ} (admin : UpdatedByAdmin jwt t.2 t.1 odooUserId payload) :
    Explained jwt odooUserId first (past ++ [t]) (payload.apply now) := by
  have mem : t ∈ past ++ [t] := List.mem_append_right _ (List.mem_singleton_self _)
  refine ⟨?_, ?_, explained.portal⟩
  · cases given : payload.role with
    | some role =>
        refine .inr (.inr ⟨t, mem, payload, admin, ?_⟩)
        rw [given]
        simp [UserUpdate.apply, given]
    | none =>
        have same : (payload.apply now).role = now.role := by simp [UserUpdate.apply, given]
        rw [same]
        exact (explained.more t).role
  · cases given : payload.isActive with
    | some isActive =>
        refine .inr ⟨t, mem, payload, admin, ?_⟩
        rw [given]
        simp [UserUpdate.apply, given]
    | none =>
        have same : (payload.apply now).isActive = now.isActive := by
          simp [UserUpdate.apply, given]
        rw [same]
        exact (explained.more t).active

end Explained

/-- One request takes an explained account to an explained account. -/
theorem explained_step {odooUserId : ℤ} {first account : UserAccount}
    {past : List (IdentityDb × IdentityCall τ)} {db : IdentityDb} (call : IdentityCall τ)
    (stored : db.users.get odooUserId = some account)
    (explained : Explained jwt odooUserId first past account) :
    ∃ next, (identityStep jwt hashToken call db).users.get odooUserId = some next ∧
      Explained jwt odooUserId first (past ++ [(db, call)]) next := by
  cases accountEffect jwt hashToken call db odooUserId with
  | kept same => exact ⟨account, same.trans stored, explained.more _⟩
  | created absent set =>
      rw [absent] at stored
      cases stored
  | signedIn found set =>
      rw [found] at stored
      cases stored
      exact ⟨_, set, (explained.signIn _ _).more _⟩
  | updated found admin set =>
      rw [found] at stored
      cases stored
      exact ⟨_, set, explained.update admin⟩

/-- An account's role changes to a customer's of the portal or to one that an active administrator
gives it, and only an active administrator switches it on or off. -/
theorem account_changes_need_admin (ops : List (IdentityCall τ)) (db : IdentityDb) {odooUserId : ℤ}
    {first : UserAccount} (stored : db.users.get odooUserId = some first) :
    ∃ last, (run (identityStep jwt hashToken) ops db).users.get odooUserId = some last ∧
      Explained jwt odooUserId first (history (identityStep jwt hashToken) ops db) last := by
  refine run_induction (motive := fun past (now : IdentityDb) =>
    ∃ last, now.users.get odooUserId = some last ∧ Explained jwt odooUserId first past last)
    ⟨first, stored, .inl rfl, .inl rfl, id⟩ ?_ ops
  rintro past now call ⟨last, stored, explained⟩
  exact explained_step call stored explained

/-- The administrator makes a manager of a representative. -/
theorem promotion_by_admin :
    ∃ last, (run (identityStep Jwt.plain id)
        [⟨0, .updateUser (some (userToken Jwt.plain 1
          { login := "admin", name := "Admin", role := .admin } 0).accessToken) 4
          { role := some .salesManager }⟩]
        { users := (Dict.empty.set 1 { login := "admin", name := "Admin", role := .admin }).set 4
            { login := "rep", name := "Rep" } }).users.get 4 = some last ∧
      Explained Jwt.plain 4 { login := "rep", name := "Rep" } (history (identityStep Jwt.plain id)
        [⟨0, .updateUser (some (userToken Jwt.plain 1
          { login := "admin", name := "Admin", role := .admin } 0).accessToken) 4
          { role := some .salesManager }⟩]
        { users := (Dict.empty.set 1 { login := "admin", name := "Admin", role := .admin }).set 4
            { login := "rep", name := "Rep" } }) last :=
  account_changes_need_admin _ _ rfl

/-! ## Sign-ins -/

/-- A sign-in answered: the account it leaves is active and is the one the token is made of. -/
theorem signIn_answer {call : IdentityCall τ} {db : IdentityDb} {response : TokenResponse τ}
    {odooAuth : Option OdooIdentity} {login password : String}
    (request : call.request = .login odooAuth login password)
    (answered : identityAnswer jwt hashToken call db = .ok (.token response)) :
    ∃ user, (identityStep jwt hashToken call db).users.get response.odooUserId = some user ∧
      user.isActive = true ∧ response.isPortal = user.isPortal := by
  unfold identityAnswer handleIdentity at answered
  unfold identityStep handleIdentity
  rw [request] at answered ⊢
  cases result : authenticateUser jwt odooAuth login password call.now db with
  | mk answer after =>
      cases answer with
      | error e => simp [result, Except.map] at answered
      | ok own =>
          simp only [result, Prod.map_fst, Except.map, Except.ok.injEq,
            IdentityAnswer.token.injEq] at answered
          obtain ⟨odooUserId, user, stored, active, same⟩ := authenticateUser_ok result
          subst answered
          have token : own.odooUserId = odooUserId ∧ own.isPortal = user.isPortal := by
            rw [same]
            unfold userToken
            cases user.isPortal <;> exact ⟨rfl, rfl⟩
          refine ⟨user, ?_, active, token.2⟩
          rw [token.1]
          simpa [result] using stored

/-- Only an administrator switches an account on. -/
theorem account_stays_off {call : IdentityCall τ} {db : IdentityDb} {odooUserId : ℤ}
    {account : UserAccount} (stored : db.users.get odooUserId = some account)
    (off : account.isActive = false)
    (quiet : ∀ payload, UpdatedByAdmin jwt call db odooUserId payload →
      payload.isActive ≠ some true) :
    ∃ after, (identityStep jwt hashToken call db).users.get odooUserId = some after ∧
      after.isActive = false := by
  cases accountEffect jwt hashToken call db odooUserId with
  | kept same => exact ⟨account, same.trans stored, off⟩
  | created absent set =>
      rw [absent] at stored
      cases stored
  | @signedIn auth before found set =>
      rw [found] at stored
      cases stored
      exact ⟨_, set, (auth.signedIn_spec call.now account).2.1.trans off⟩
  | @updated payload before found admin set =>
      rw [found] at stored
      cases stored
      refine ⟨_, set, ?_⟩
      have notOn := quiet payload admin
      cases given : payload.isActive with
      | none => simp [UserUpdate.apply, given, off]
      | some isActive =>
          rw [given] at notOn
          cases isActive with
          | true => exact absurd rfl notOn
          | false => simp [UserUpdate.apply, given]

/-- The caller of the portal is an active account, or stands in for a partner who has none. -/
theorem portalCaller_account {auth : Option τ} {now : Timestamp} {db : IdentityDb}
    {caller : Caller} (ok : getCurrentPortalUser jwt auth now db = .ok caller) :
    (db.users.get caller.odooUserId = some caller.account ∧ caller.account.isActive = true) ∨
      ∀ entry ∈ db.users.entries, entry.2.partnerId ≠ caller.account.partnerId := by
  unfold getCurrentPortalUser at ok
  split at ok
  · cases ok
  · split at ok
    · cases ok
    · split at ok
      · cases ok
      · split at ok
        · cases ok
        · split at ok
          · next unknown =>
              cases ok
              refine Or.inr fun entry mem same => ?_
              exact List.find?_eq_none.mp unknown entry mem (decide_eq_true same)
          · next row =>
              split at ok
              · next active =>
                  cases ok
                  exact Or.inl ⟨Dict.mem_entries.mp (List.mem_of_find?_eq_some row), active⟩
              · cases ok

/-- An account that is switched off answers no request, of the staff or of the portal, and no
sign-in as long as no administrator switches it on. -/
theorem deactivated_account_refused {ops : List (IdentityCall τ)} {db : IdentityDb}
    {odooUserId : ℤ} {first : UserAccount} (stored : db.users.get odooUserId = some first)
    (off : first.isActive = false)
    (quiet : ∀ t ∈ history (identityStep jwt hashToken) ops db, ∀ payload,
      UpdatedByAdmin jwt t.2 t.1 odooUserId payload → payload.isActive ≠ some true) :
    (∀ auth now caller,
        getCurrentUser jwt auth now (run (identityStep jwt hashToken) ops db) = .ok caller →
          caller.odooUserId ≠ odooUserId) ∧
      (∀ auth now caller,
        getCurrentPortalUser jwt auth now (run (identityStep jwt hashToken) ops db) = .ok caller →
          caller.odooUserId ≠ odooUserId ∨
            ∀ entry ∈ (run (identityStep jwt hashToken) ops db).users.entries,
              entry.2.partnerId ≠ caller.account.partnerId) ∧
      ∀ t ∈ history (identityStep jwt hashToken) ops db, ∀ odooAuth login password response,
        t.2.request = .login odooAuth login password →
        identityAnswer jwt hashToken t.2 t.1 = .ok (.token response) →
          response.odooUserId ≠ odooUserId := by
  let inv (now : IdentityDb) : Prop :=
    ∃ account, now.users.get odooUserId = some account ∧ account.isActive = false
  have kept : ∀ now call, (∀ payload, UpdatedByAdmin jwt call now odooUserId payload →
      payload.isActive ≠ some true) → inv now → inv (identityStep jwt hashToken call now) := by
    rintro now call quiet ⟨account, stored, off⟩
    exact account_stays_off stored off quiet
  obtain ⟨before, last⟩ := run_guarded inv
    (fun now call => ∀ payload, UpdatedByAdmin jwt call now odooUserId payload →
      payload.isActive ≠ some true) ⟨first, stored, off⟩ kept ops quiet
  refine ⟨?_, ?_, ?_⟩
  · rintro auth now caller ok rfl
    cases auth with
    | none => cases ok
    | some token =>
        obtain ⟨account, found, off⟩ := last
        obtain ⟨_, _, _, _, _, row, active⟩ := getCurrentUser_ok ok
        rw [row] at found
        cases found
        rw [off] at active
        cases active
  · intro auth now caller ok
    refine (portalCaller_account ok).imp_left ?_
    rintro ⟨row, active⟩ rfl
    obtain ⟨account, found, off⟩ := last
    rw [row] at found
    cases found
    rw [off] at active
    cases active
  · rintro t mem odooAuth login password response request answered rfl
    obtain ⟨user, row, active, -⟩ := signIn_answer request answered
    obtain ⟨account, found, off⟩ := kept t.1 t.2 (quiet t mem) (before t mem)
    rw [row] at found
    cases found
    rw [off] at active
    cases active

/-- A representative is switched off and signs in again with the right password. -/
theorem deactivated_rep_refused :
    let calls : List (IdentityCall Claims) :=
      [⟨5, .login (some { uid := 4, name := "Rep", login := "rep" }) "rep" "secret"⟩]
    let db : IdentityDb :=
      { users := Dict.empty.set 4 { login := "rep", name := "Rep", isActive := false } }
    (∀ auth now caller,
        getCurrentUser Jwt.plain auth now (run (identityStep Jwt.plain id) calls db) = .ok caller →
          caller.odooUserId ≠ 4) ∧
      (∀ auth now caller,
        getCurrentPortalUser Jwt.plain auth now (run (identityStep Jwt.plain id) calls db) =
            .ok caller →
          caller.odooUserId ≠ 4 ∨
            ∀ entry ∈ (run (identityStep Jwt.plain id) calls db).users.entries,
              entry.2.partnerId ≠ caller.account.partnerId) ∧
      ∀ t ∈ history (identityStep Jwt.plain id) calls db, ∀ odooAuth login password response,
        t.2.request = .login odooAuth login password →
        identityAnswer Jwt.plain id t.2 t.1 = .ok (.token response) → response.odooUserId ≠ 4 := by
  intro calls db
  refine deactivated_account_refused rfl rfl ?_
  intro t mem payload admin
  rw [List.mem_singleton.mp mem] at admin
  obtain ⟨auth, caller, request, -⟩ := admin
  cases request

/-- A user who has signed in to the portal never gets a token of the staff again, whatever role an
administrator gives the account. -/
theorem portal_account_stays {ops : List (IdentityCall τ)} {db : IdentityDb}
    {past later : List (IdentityDb × IdentityCall τ)} {t : IdentityDb × IdentityCall τ}
    (split : history (identityStep jwt hashToken) ops db = past ++ t :: later)
    {odooAuth : Option OdooIdentity} {login password : String} {response : TokenResponse τ}
    (request : t.2.request = .login odooAuth login password)
    (answered : identityAnswer jwt hashToken t.2 t.1 = .ok (.token response))
    (portal : response.isPortal = true) :
    ∀ s ∈ later, ∀ odooAuth login password again,
      s.2.request = .login odooAuth login password →
      identityAnswer jwt hashToken s.2 s.1 = .ok (.token again) →
        again.odooUserId = response.odooUserId → again.isPortal = true := by
  let inv (now : IdentityDb) : Prop :=
    ∃ account, now.users.get response.odooUserId = some account ∧ account.isPortal = true
  have kept : ∀ now call, inv now → inv (identityStep jwt hashToken call now) := by
    rintro now call ⟨account, stored, portal⟩
    obtain ⟨next, stored, explained⟩ := explained_step call stored
      (⟨.inl rfl, .inl rfl, id⟩ : Explained jwt response.odooUserId account [] account)
    exact ⟨next, stored, explained.portal portal⟩
  have start : inv (identityStep jwt hashToken t.2 t.1) := by
    obtain ⟨user, stored, -, same⟩ := signIn_answer request answered
    exact ⟨user, stored, same ▸ portal⟩
  obtain ⟨after, rfl⟩ := history_later split
  intro s mem odooAuth login password again request answered same
  obtain ⟨user, stored, -, side⟩ := signIn_answer request answered
  obtain ⟨account, found, portal⟩ := kept s.1 s.2
    ((run_invariant (identityStep jwt hashToken) inv start kept after).1 s mem)
  rw [same, found] at stored
  cases stored
  rw [side, portal]

/-- A customer signs in, and once more later. -/
theorem portal_sign_in_twice :
    let early : IdentityCall Claims :=
      ⟨0, .login (some { uid := 7, name := "Acme", login := "acme", isShare := true }) "acme"
        "secret"⟩
    let late : IdentityCall Claims :=
      ⟨9, .login (some { uid := 7, name := "Acme", login := "acme" }) "acme" "secret"⟩
    ∃ first, identityAnswer Jwt.plain id early {} = .ok (.token first) ∧
      ∀ again, identityAnswer Jwt.plain id late (identityStep Jwt.plain id early {}) =
          .ok (.token again) → again.odooUserId = first.odooUserId → again.isPortal = true := by
  intro early late
  have split : history (identityStep Jwt.plain id) [early, late] {} =
      [] ++ ({}, early) :: [(identityStep Jwt.plain id early {}, late)] := rfl
  refine ⟨_, rfl, fun again => ?_⟩
  exact portal_account_stays split rfl rfl rfl _ (List.mem_singleton_self _) _ _ _ again rfl

end DealFlow
