import DealFlow.Api.Identity

/-!
# A magic link opens the portal once

What a request does to the links is one of three things (`LinkEffect`): nothing, a new link, or a
link used up.  Along a run of requests, whatever they are and in whatever order they come, a link
that opens the portal was made for the partner it opens it for, no more than four hours before, and
never opens it again (`magic_link_opens_once`).
-/

namespace DealFlow

open Lib

variable {τ : Type} (jwt : Jwt τ) (hashToken : String → String)

/-- The request makes a link of a token for a partner. -/
def LinkMade (call : IdentityCall τ) (db : IdentityDb) (hash : String) (partner : ℤ) : Prop :=
  ∃ link, identityAnswer jwt hashToken call db = .ok (.link link) ∧
    hashToken link.rawToken = hash ∧ link.partnerId = partner

/-- The request opens the portal with a token. -/
def LinkOpened (call : IdentityCall τ) (db : IdentityDb) (rawToken : String)
    (response : TokenResponse τ) : Prop :=
  ∃ partnerName, call.request = .verifyLink partnerName rawToken ∧
    identityAnswer jwt hashToken call db = .ok (.token response)

/-- What a request does to the links. -/
inductive LinkEffect (call : IdentityCall τ) (db : IdentityDb) : Prop
  | kept (same : (identityStep jwt hashToken call db).links = db.links)
      (closed : ∀ rawToken response, ¬ LinkOpened jwt hashToken call db rawToken response)
  | made {hash : String} {row : MagicLinkToken} (fresh : db.links.get hash = none)
      (unused : row.usedAt = none)
      (expires : row.expiresAt = call.now + portalTokenExpireMinutes * 60)
      (made : LinkMade jwt hashToken call db hash row.odooPartnerId)
      (set : (identityStep jwt hashToken call db).links = db.links.set hash row)
      (closed : ∀ rawToken response, ¬ LinkOpened jwt hashToken call db rawToken response)
  | opened {rawToken : String} {row : MagicLinkToken} {response : TokenResponse τ}
      (stored : db.links.get (hashToken rawToken) = some row) (unused : row.usedAt = none)
      (intime : call.now ≤ row.expiresAt)
      (opened : LinkOpened jwt hashToken call db rawToken response)
      (partner : response.partnerId = some row.odooPartnerId)
      (set : (identityStep jwt hashToken call db).links =
        db.links.set (hashToken rawToken) { row with usedAt := some call.now })

variable {jwt hashToken}

theorem authenticateUser_links (odooAuth : Option OdooIdentity) (login password : String)
    (now : Timestamp) (db : IdentityDb) :
    (authenticateUser jwt odooAuth login password now db).2.links = db.links := by
  unfold authenticateUser
  cases odooAuth with
  | none =>
      dsimp only
      split
      · split <;> rfl
      · rfl
  | some auth =>
      dsimp only
      split
      · split <;> rfl
      · rfl

theorem updateUser_links (auth : Option τ) (odooUserId : ℤ) (payload : UserUpdate)
    (now : Timestamp) (db : IdentityDb) :
    (updateUser jwt auth odooUserId payload now db).2.links = db.links := by
  unfold updateUser
  split
  · rfl
  · split <;> rfl

/-- What a link that opens says about the links before it, and what it leaves. -/
theorem verifyMagicLink_ok {partnerName : ℤ → Option String} {rawToken : String} {now : Timestamp}
    {db after : IdentityDb} {response : TokenResponse τ}
    (ok : verifyMagicLink jwt hashToken partnerName rawToken now db = (.ok response, after)) :
    ∃ row, db.links.get (hashToken rawToken) = some row ∧ row.usedAt = none ∧
      now ≤ row.expiresAt ∧ response.partnerId = some row.odooPartnerId ∧
      after.links = db.links.set (hashToken rawToken) { row with usedAt := some now } := by
  unfold verifyMagicLink at ok
  split at ok
  · cases ok
  · next row stored =>
      split at ok
      · cases ok
      · next unused =>
          split at ok
          · cases ok
          · next intime =>
              cases ok
              have fresh := Option.not_isSome_iff_eq_none.mp unused
              exact ⟨row, stored, fresh, not_lt.mp intime, rfl, rfl⟩

theorem verifyMagicLink_error {partnerName : ℤ → Option String} {rawToken : String}
    {now : Timestamp} {db after : IdentityDb} {e : IdentityError}
    (error : verifyMagicLink jwt hashToken partnerName rawToken now db = (.error e, after)) :
    after = db := by
  unfold verifyMagicLink at error
  split at error
  · cases error
    rfl
  · split at error
    · cases error
      rfl
    · split at error
      · cases error
        rfl
      · cases error

variable (jwt hashToken) in
/-- The three things a request can do. -/
theorem linkEffect (call : IdentityCall τ) (db : IdentityDb) :
    LinkEffect jwt hashToken call db := by
  obtain ⟨now, request⟩ := call
  cases request with
  | login odooAuth login password =>
      refine .kept (authenticateUser_links odooAuth login password now db) ?_
      rintro rawToken response ⟨partnerName, same, -⟩
      cases same
  | updateUser auth odooUserId payload =>
      refine .kept (updateUser_links auth odooUserId payload now db) ?_
      rintro rawToken response ⟨partnerName, same, -⟩
      cases same
  | requestLink customerByEmail payload =>
      have closed : ∀ rawToken response,
          ¬ LinkOpened jwt hashToken ⟨now, .requestLink customerByEmail payload⟩ db rawToken
            response := by
        rintro rawToken response ⟨partnerName, same, -⟩
        cases same
      cases target : payload.target customerByEmail with
      | error e =>
          refine .kept ?_ closed
          simp [identityStep, handleIdentity, createMagicLink, target]
      | ok partner =>
          cases stored : db.links.get (hashToken payload.rawToken) with
          | some row =>
              refine .kept ?_ closed
              simp [identityStep, handleIdentity, createMagicLink, target, stored]
          | none =>
              have link : identityAnswer jwt hashToken
                  ⟨now, .requestLink customerByEmail payload⟩ db =
                  .ok (.link ⟨payload.rawToken, payload.portalUrl, partner⟩) := by
                simp [identityAnswer, handleIdentity, createMagicLink, target, stored, Except.map]
              have made : LinkMade jwt hashToken ⟨now, .requestLink customerByEmail payload⟩ db
                  (hashToken payload.rawToken) (payload.row partner now).odooPartnerId :=
                ⟨_, link, rfl, rfl⟩
              refine .made stored rfl rfl made ?_ closed
              · simp [identityStep, handleIdentity, createMagicLink, target, stored]
  | verifyLink partnerName rawToken =>
      cases result : verifyMagicLink jwt hashToken partnerName rawToken now db with
      | mk answer after =>
          cases answer with
          | error e =>
              refine .kept ?_ ?_
              · cases verifyMagicLink_error result
                simp [identityStep, handleIdentity, result]
              · rintro other response ⟨name, -, opened⟩
                simp [identityAnswer, handleIdentity, result, Except.map] at opened
          | ok response =>
              obtain ⟨row, stored, unused, intime, partner, set⟩ := verifyMagicLink_ok result
              refine .opened stored unused intime ⟨partnerName, rfl, ?_⟩ partner ?_
              · simp [identityAnswer, handleIdentity, result, Except.map]
              · rw [← set]
                simp [identityStep, handleIdentity, result]

/-! ## Along a run -/

/-- The link of a hash has been used. -/
def LinkUsed (hash : String) (db : IdentityDb) : Prop :=
  ∃ row, db.links.get hash = some row ∧ row.usedAt.isSome

/-- A link that has been used stays used. -/
theorem used_kept {call : IdentityCall τ} {db : IdentityDb} {hash : String}
    (used : LinkUsed hash db) : LinkUsed hash (identityStep jwt hashToken call db) := by
  obtain ⟨row, stored, used⟩ := used
  unfold LinkUsed
  cases linkEffect jwt hashToken call db with
  | kept same closed =>
      rw [same]
      exact ⟨row, stored, used⟩
  | made fresh unused expires made set closed =>
      rw [set, Dict.get_set]
      split
      · next same =>
          rw [same, fresh] at stored
          cases stored
      · exact ⟨row, stored, used⟩
  | opened found unused intime opened partner set =>
      rw [set, Dict.get_set]
      split
      · exact ⟨_, rfl, rfl⟩
      · exact ⟨row, stored, used⟩

/-- What a request that opens the portal finds, and what it leaves. -/
theorem LinkOpened.link {call : IdentityCall τ} {db : IdentityDb} {rawToken : String}
    {response : TokenResponse τ} (opened : LinkOpened jwt hashToken call db rawToken response) :
    ∃ row, db.links.get (hashToken rawToken) = some row ∧
      LinkUsed (hashToken rawToken) (identityStep jwt hashToken call db) ∧
      call.now ≤ row.expiresAt ∧ response.partnerId = some row.odooPartnerId := by
  cases linkEffect jwt hashToken call db with
  | kept same closed => exact absurd opened (closed _ _)
  | made fresh unused expires made set closed => exact absurd opened (closed _ _)
  | @opened other row response' stored unused intime also partner set =>
      obtain ⟨partnerName, request, answer⟩ := opened
      obtain ⟨name, request', answer'⟩ := also
      rw [request] at request'
      rw [answer] at answer'
      cases request'
      cases answer'
      refine ⟨row, stored, ⟨{ row with usedAt := some call.now }, ?_, rfl⟩, intime, partner⟩
      rw [set, Dict.get_set, if_pos rfl]

variable (jwt hashToken) in
/-- Every link comes from a request that made it, for its partner. -/
def Traced (past : List (IdentityDb × IdentityCall τ)) (db : IdentityDb) : Prop :=
  ∀ hash row, db.links.get hash = some row →
    ∃ t ∈ past, LinkMade jwt hashToken t.2 t.1 hash row.odooPartnerId ∧
      row.expiresAt = t.2.now + portalTokenExpireMinutes * 60

theorem traced_step {past : List (IdentityDb × IdentityCall τ)} {db : IdentityDb}
    (traced : Traced jwt hashToken past db) (call : IdentityCall τ) :
    Traced jwt hashToken (past ++ [(db, call)])
      (identityStep jwt hashToken call db) := by
  intro hash row stored
  have before : db.links.get hash = some row →
      ∃ t ∈ past ++ [(db, call)], LinkMade jwt hashToken t.2 t.1 hash row.odooPartnerId ∧
        row.expiresAt = t.2.now + portalTokenExpireMinutes * 60 := by
    intro found
    obtain ⟨t, mem, made, expires⟩ := traced hash row found
    exact ⟨t, List.mem_append_left _ mem, made, expires⟩
  cases linkEffect jwt hashToken call db with
  | kept same closed => exact before (same ▸ stored)
  | made fresh unused expires made set closed =>
      rw [set, Dict.get_set] at stored
      split at stored
      · next same =>
          cases stored
          subst same
          exact ⟨_, List.mem_append_right _ (List.mem_singleton_self _), made, expires⟩
      · exact before stored
  | @opened rawToken old response found unused intime opened partner set =>
      rw [set, Dict.get_set] at stored
      split at stored
      · next same =>
          cases stored
          subst same
          obtain ⟨t, mem, made, expires⟩ := traced _ old found
          exact ⟨t, List.mem_append_left _ mem, made, expires⟩
      · exact before stored

/-- A link that opens the portal was made for the partner it opens it for, at most four hours
before, and whoever comes with its token again is told that it has been used. -/
theorem magic_link_opens_once {ops : List (IdentityCall τ)} {db : IdentityDb}
    (empty : db.links = .empty) {past later : List (IdentityDb × IdentityCall τ)}
    {t : IdentityDb × IdentityCall τ}
    (split : history (identityStep jwt hashToken) ops db = past ++ t :: later) {rawToken : String}
    {response : TokenResponse τ} (opened : LinkOpened jwt hashToken t.2 t.1 rawToken response) :
    (∃ s ∈ past, ∃ partner, LinkMade jwt hashToken s.2 s.1 (hashToken rawToken) partner ∧
        response.partnerId = some partner ∧
        t.2.now ≤ s.2.now + portalTokenExpireMinutes * 60) ∧
      ∀ s ∈ later, ∀ partnerName other, s.2.request = .verifyLink partnerName other →
        hashToken other = hashToken rawToken →
          identityAnswer jwt hashToken s.2 s.1 =
            .error (.dealflow
              (unauthorizedError "Magic link token has already been used.")) := by
  obtain ⟨row, stored, used, intime, partner⟩ := opened.link
  constructor
  · obtain ⟨before, after, -, rfl, state⟩ := history_split split
    have traced : Traced jwt hashToken (history (identityStep jwt hashToken) before db)
        (run (identityStep jwt hashToken) before db) := by
      refine run_induction (motive := Traced jwt hashToken) ?_ ?_ before
      · intro hash row found
        rw [empty, Dict.get_empty] at found
        cases found
      · intro past now call traced
        exact traced_step traced call
    obtain ⟨s, mem, made, expires⟩ := traced _ _ (state ▸ stored)
    exact ⟨s, mem, _, made, partner, expires ▸ intime⟩
  · obtain ⟨after, rfl⟩ := history_later split
    have kept := (run_invariant (identityStep jwt hashToken) (LinkUsed (hashToken rawToken)) used
      (fun now call used => used_kept used) after).1
    intro s mem partnerName other request same
    obtain ⟨row, stored, used⟩ := kept s mem
    rw [← same] at stored
    simp [identityAnswer, handleIdentity, request, verifyMagicLink, stored, used, Except.map]

/-- A link asked for, followed after 100 seconds and once more after 200. -/
theorem magic_link_followed_twice :
    identityAnswer Jwt.plain id ⟨200, .verifyLink (fun _ => none) "token"⟩
        (run (identityStep Jwt.plain id)
          [⟨0, .requestLink (fun _ => none) { partnerId := some 7, rawToken := "token" }⟩,
            ⟨100, .verifyLink (fun _ => none) "token"⟩] {}) =
      .error (.dealflow (unauthorizedError "Magic link token has already been used.")) :=
  (magic_link_opens_once rfl
    (show history (identityStep Jwt.plain id)
        [⟨0, .requestLink (fun _ => none) { partnerId := some 7, rawToken := "token" }⟩,
          ⟨100, .verifyLink (fun _ => none) "token"⟩,
          ⟨200, .verifyLink (fun _ => none) "token"⟩] {} = [_] ++ _ :: [_] from rfl)
    ⟨fun _ => none, rfl, rfl⟩).2 _ (List.mem_singleton_self _) _ _ rfl rfl

end DealFlow
