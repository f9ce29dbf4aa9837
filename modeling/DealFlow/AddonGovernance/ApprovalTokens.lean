import DealFlow.Addon.SalesAdapter
import DealFlow.Lib.Fallible

/-!
# Approval tokens

What the verifier makes of a token: one whose parts it reads, for the order and not expired
(`ReadsToken`), comes down to the comparison of two signatures, and every other is turned down
(`verifyApprovalToken_spec`).

* `approvalTokens_bind`: a generated token verifies for its order until it expires, and a token that
  verifies carries the signature of its order and its expiry.
* `answersToken_iff`: the comparison raises for a signature that is not ASCII, and then alone; the
  adapter turns it into an error of the execution.
-/

namespace DealFlow.Addon

open Lib

section Tokens

variable {signing : Signing} {token : Option String} {orderId expiry : ℤ} {tokenSig : List Char}

/-! ## What the verifier reads -/

/-- A token is four parts between dots, of which the second denotes the order and the third the
expiry. -/
def TokenSays (limit : ℕ) (token : Option String) (orderId expiry : ℤ) (tokenSig : List Char) :
    Prop :=
  ∃ order expires,
    (strip (token.getD "").toList).splitOn '.' = ["DF-APP".toList, order, expires, tokenSig] ∧
      Denotes limit order orderId ∧ Denotes limit expires expiry

/-- A token for the order that has not expired, with what stands for its signature. -/
structure ReadsToken (signing : Signing) (token : Option String) (orderId expiry : ℤ)
    (tokenSig : List Char) : Prop where
  content : TokenSays signing.maxStrDigits token orderId expiry tokenSig
  unexpired : signing.currentTime ≤ expiry

/-- A token says one thing only. -/
theorem TokenSays.unique {limit : ℕ} {orderId' expiry' : ℤ} {tokenSig' : List Char}
    (first : TokenSays limit token orderId expiry tokenSig)
    (second : TokenSays limit token orderId' expiry' tokenSig') :
    orderId = orderId' ∧ expiry = expiry' := by
  obtain ⟨order, expires, parts, denotesOrder, denotesExpiry⟩ := first
  obtain ⟨order', expires', parts', denotesOrder', denotesExpiry'⟩ := second
  rw [parts] at parts'
  cases parts'
  rw [← pythonInt_eq_some_iff] at denotesOrder denotesOrder' denotesExpiry denotesExpiry'
  exact ⟨Option.some.inj (denotesOrder.symm.trans denotesOrder'),
    Option.some.inj (denotesExpiry.symm.trans denotesExpiry')⟩

theorem Signing.print_ok_iff {n : ℤ} {text : String} :
    signing.print n = .ok text ↔ Prints signing.maxStrDigits n ∧ text = toString n := by
  rw [← intText_eq_some_iff]
  unfold Signing.print
  cases intText signing.maxStrDigits n with
  | none => exact iff_of_false nofun nofun
  | some printed =>
      exact ⟨fun eq => congrArg _ (Except.ok.inj eq), fun eq => Option.some.inj eq ▸ rfl⟩

theorem Signing.payload_ok_iff {text : String} :
    signing.payload orderId expiry = .ok text ↔
      (Prints signing.maxStrDigits orderId ∧ Prints signing.maxStrDigits expiry) ∧
        text = s!"{orderId}.{expiry}" := by
  unfold Signing.payload
  constructor
  · intro ok
    obtain ⟨order, first, ok⟩ := bind_eq_ok.mp ok
    obtain ⟨expires, second, ok⟩ := bind_eq_ok.mp ok
    obtain ⟨printsOrder, rfl⟩ := Signing.print_ok_iff.mp first
    obtain ⟨printsExpiry, rfl⟩ := Signing.print_ok_iff.mp second
    exact ⟨⟨printsOrder, printsExpiry⟩, (Except.ok.inj ok).symm⟩
  · intro printed
    rcases printed with ⟨⟨printsOrder, printsExpiry⟩, rfl⟩
    exact bind_eq_ok.mpr ⟨_, Signing.print_ok_iff.mpr ⟨printsOrder, rfl⟩,
      bind_eq_ok.mpr ⟨_, Signing.print_ok_iff.mpr ⟨printsExpiry, rfl⟩, rfl⟩⟩

/-- A token that is read comes down to its signature. -/
theorem ReadsToken.verify (reads : ReadsToken signing token orderId expiry tokenSig) :
    verifyApprovalToken signing token orderId =
      compareDigest (signing.sign s!"{orderId}.{expiry}") (String.ofList tokenSig) := by
  obtain ⟨⟨order, expires, parts, denotesOrder, denotesExpiry⟩, unexpired⟩ := reads
  unfold verifyApprovalToken
  have payload := Signing.payload_ok_iff.mpr
    ⟨⟨denotesOrder.prints, denotesExpiry.prints⟩, (rfl : s!"{orderId}.{expiry}" = _)⟩
  rw [parts]
  dsimp only
  rw [pythonInt_eq_some_iff.mpr denotesOrder, pythonInt_eq_some_iff.mpr denotesExpiry]
  dsimp only
  rw [if_neg (not_not_intro rfl), if_neg (not_not_intro rfl), if_neg (not_lt.mpr unexpired),
    payload]
  rfl

/-- Every other token is turned down. -/
theorem verifyApprovalToken_unread
    (unread : ∀ expiry tokenSig, ¬ ReadsToken signing token orderId expiry tokenSig) :
    verifyApprovalToken signing token orderId = .ok false := by
  unfold verifyApprovalToken
  split
  · next format order expires tokenSig parts =>
      split
      · rfl
      · next sameFormat =>
          split
          · next tokenOrderId tokenExpiry readOrder readExpiry =>
              split
              · rfl
              · next sameOrder =>
                  split
                  · rfl
                  · next notExpired =>
                      cases not_ne_iff.mp sameFormat
                      cases not_ne_iff.mp sameOrder
                      exact absurd ⟨⟨order, expires, parts, pythonInt_eq_some_iff.mp readOrder,
                        pythonInt_eq_some_iff.mp readExpiry⟩, not_lt.mp notExpired⟩
                        (unread tokenExpiry tokenSig)
          · rfl
  · rfl

/-! ## Signatures -/

/-- Digits, letters and dashes neither pad a token nor part it. -/
def Plain (c : Char) : Prop :=
  c.toNat < 128 ∧ isSpace c = false ∧ c ≠ '.'

instance (c : Char) : Decidable (Plain c) :=
  inferInstanceAs (Decidable (_ ∧ _))

theorem plain_of_isHexDigit {c : Char} (hex : isHexDigit c = true) : Plain c := by
  have small : c.toNat < 128 := by
    unfold isHexDigit at hex
    rcases Bool.or_eq_true_iff.mp hex with digit | letter
    · exact (Char.isDigit_iff_toNat.mp digit).2.trans_lt (by decide)
    · have below : c.toNat ≤ 'f'.toNat :=
        of_decide_eq_true (Bool.and_eq_true_iff.mp letter).2
      exact below.trans_lt (by decide)
  have table : ∀ code < 128, isHexDigit (Char.ofNat code) = true → Plain (Char.ofNat code) := by
    decide +kernel
  have plain := table c.toNat small
  rw [Char.ofNat_toNat] at plain
  exact plain hex

theorem plain_of_mem_toString {n : ℤ} {c : Char} (mem : c ∈ (toString n).toList) : Plain c := by
  rcases mem_toString mem with rfl | digit
  · decide
  · exact plain_of_isHexDigit (Bool.or_eq_true_iff.mpr (.inl digit))

theorem Signing.plain_sign (signing : Signing) {payload : String} {c : Char}
    (mem : c ∈ (signing.sign payload).toList) : Plain c :=
  plain_of_isHexDigit (List.all_eq_true.mp (signing.hexadecimal _ _) c mem)

theorem Signing.sign_isAscii (payload : String) : isAscii (signing.sign payload).toList = true :=
  List.all_eq_true.mpr fun _ mem => decide_eq_true (signing.plain_sign mem).1

theorem compareDigest_sign (payload : String) (tokenSig : List Char) :
    compareDigest (signing.sign payload) (String.ofList tokenSig) =
      if isAscii tokenSig = true then .ok (signing.sign payload = String.ofList tokenSig)
      else .error (.typeError "comparing strings with non-ASCII characters is not supported") := by
  unfold compareDigest
  rw [signing.sign_isAscii, Bool.true_and, String.toList_ofList]

/-- A token verifies exactly where it is read and carries the signature of what it says. -/
theorem verifyApprovalToken_ok_true_iff :
    verifyApprovalToken signing token orderId = .ok true ↔
      ∃ expiry, ReadsToken signing token orderId expiry
        (signing.sign s!"{orderId}.{expiry}").toList := by
  constructor
  · intro verified
    by_cases read : ∃ expiry tokenSig, ReadsToken signing token orderId expiry tokenSig
    · obtain ⟨expiry, tokenSig, reads⟩ := read
      refine ⟨expiry, ?_⟩
      rw [reads.verify, compareDigest_sign] at verified
      split at verified
      · have same := of_decide_eq_true (Except.ok.inj verified)
        rwa [same, String.toList_ofList]
      · cases verified
    · rw [verifyApprovalToken_unread fun expiry tokenSig reads => read ⟨expiry, tokenSig, reads⟩]
        at verified
      cases verified
  · intro signed
    rcases signed with ⟨expiry, reads⟩
    rw [reads.verify, compareDigest_sign, if_pos (signing.sign_isAscii _), String.ofList_toList]
    exact congrArg _ (decide_eq_true rfl)

/-- A token verifies for one order. -/
theorem verifyApprovalToken_unique {a b : ℤ}
    (first : verifyApprovalToken signing token a = .ok true)
    (second : verifyApprovalToken signing token b = .ok true) : a = b := by
  obtain ⟨expiry, reads⟩ := verifyApprovalToken_ok_true_iff.mp first
  obtain ⟨expiry', reads'⟩ := verifyApprovalToken_ok_true_iff.mp second
  exact (reads.content.unique reads'.content).1

/-! ## Generated tokens -/

/-- The token for an order and an expiry. -/
def Signing.approvalToken (signing : Signing) (orderId expiry : ℤ) : String :=
  let payload := s!"{orderId}.{expiry}"
  s!"DF-APP.{payload}.{signing.sign payload}"

theorem generateApprovalToken_ok_iff {ttlSeconds : ℤ} {text : String} :
    generateApprovalToken signing orderId ttlSeconds = .ok text ↔
      (Prints signing.maxStrDigits orderId ∧
          Prints signing.maxStrDigits (signing.currentTime + max 1 ttlSeconds)) ∧
        text = signing.approvalToken orderId (signing.currentTime + max 1 ttlSeconds) := by
  constructor
  · intro ok
    obtain ⟨payload, printed, ok⟩ := bind_eq_ok.mp ok
    obtain ⟨prints, rfl⟩ := Signing.payload_ok_iff.mp printed
    exact ⟨prints, (Except.ok.inj ok).symm⟩
  · intro printed
    rcases printed with ⟨prints, rfl⟩
    exact bind_eq_ok.mpr ⟨_, Signing.payload_ok_iff.mpr ⟨prints, rfl⟩, rfl⟩

/-- A generated token is read as it was written. -/
theorem token_parts (signing : Signing) (orderId expiry : ℤ) :
    (strip (signing.approvalToken orderId expiry).toList).splitOn '.' =
      ["DF-APP".toList, (toString orderId).toList, (toString expiry).toList,
        (signing.sign s!"{orderId}.{expiry}").toList] := by
  have joined : (signing.approvalToken orderId expiry).toList =
      ['.'].intercalate ["DF-APP".toList, (toString orderId).toList, (toString expiry).toList,
        (signing.sign s!"{orderId}.{expiry}").toList] := by
    change ("DF-APP." ++ (toString orderId ++ "." ++ toString expiry) ++ "." ++
      signing.sign s!"{orderId}.{expiry}").toList = _
    simp [String.toList_append]
  have plain : ∀ part ∈ ["DF-APP".toList, (toString orderId).toList, (toString expiry).toList,
      (signing.sign s!"{orderId}.{expiry}").toList], ∀ c ∈ part, Plain c := by
    have format : "DF-APP".toList.all (fun c => decide (Plain c)) = true := by decide
    simp only [List.forall_mem_cons, List.not_mem_nil, false_implies, implies_true, and_true]
    exact ⟨fun c mem => of_decide_eq_true (List.all_eq_true.mp format c mem),
      fun c => plain_of_mem_toString, fun c => plain_of_mem_toString, fun c => signing.plain_sign⟩
  have noSpace : ∀ c ∈ (signing.approvalToken orderId expiry).toList, isSpace c = false := by
    rw [joined]
    intro c mem
    rcases mem_intercalate mem with dot | ⟨part, partMem, mem⟩
    · rw [List.mem_singleton.mp dot]
      decide
    · exact (plain part partMem c mem).2.1
  have unpadded := strip_eq_self noSpace
  rw [unpadded, joined]
  exact List.splitOn_intercalate '.' (fun part mem dot => (plain part mem '.' dot).2.2 rfl) nofun

theorem generateApprovalToken_verifies {ttlSeconds : ℤ} {text : String}
    (generated : generateApprovalToken signing orderId ttlSeconds = .ok text) (now : ℤ) :
    verifyApprovalToken { signing with currentTime := now } (some text) orderId =
      .ok (now ≤ signing.currentTime + max 1 ttlSeconds) := by
  obtain ⟨⟨printsOrder, printsExpiry⟩, rfl⟩ := generateApprovalToken_ok_iff.mp generated
  generalize signing.currentTime + max 1 ttlSeconds = expiry at printsExpiry ⊢
  have content : TokenSays signing.maxStrDigits (some (signing.approvalToken orderId expiry))
      orderId expiry (signing.sign s!"{orderId}.{expiry}").toList :=
    ⟨_, _, token_parts signing orderId expiry, .toString printsOrder, .toString printsExpiry⟩
  by_cases unexpired : now ≤ expiry
  · rw [decide_eq_true unexpired]
    exact verifyApprovalToken_ok_true_iff.mpr ⟨expiry, content, unexpired⟩
  · rw [decide_eq_false unexpired]
    refine verifyApprovalToken_unread fun expiry' tokenSig' reads => unexpired ?_
    rw [(content.unique reads.content).2]
    exact reads.unexpired

/-- A generated token verifies for its order until it expires and not after.  A token that verifies
has four parts, denotes the order and an expiry that has not passed, and carries the signature of
just these. -/
theorem approvalTokens_bind (signing : Signing) (orderId : ℤ) :
    (∀ ttlSeconds, Prints signing.maxStrDigits orderId →
        Prints signing.maxStrDigits (signing.currentTime + max 1 ttlSeconds) →
          ∃ text, generateApprovalToken signing orderId ttlSeconds = .ok text) ∧
      (∀ ttlSeconds text, generateApprovalToken signing orderId ttlSeconds = .ok text →
        ∀ now, verifyApprovalToken { signing with currentTime := now } (some text) orderId =
          .ok (now ≤ signing.currentTime + max 1 ttlSeconds)) ∧
      ∀ token, verifyApprovalToken signing token orderId = .ok true →
        ∃ expiry, ReadsToken signing token orderId expiry
          (signing.sign s!"{orderId}.{expiry}").toList :=
  ⟨fun _ printsOrder printsExpiry =>
      ⟨_, generateApprovalToken_ok_iff.mpr ⟨⟨printsOrder, printsExpiry⟩, rfl⟩⟩,
    fun _ _ generated now => generateApprovalToken_verifies generated now,
    fun _ verified => verifyApprovalToken_ok_true_iff.mp verified⟩

/-- A key of one token, issued at 90. -/
def deskSigning : Signing where
  currentTime := 90
  secret := "key"
  hmac _ message := if message = "12.3690" then "5f" else "a0"
  hexadecimal _ message := by
    split <;> decide

/-- The token of an hour for order 12, and another spelling of it. -/
theorem deskSigning_binds :
    (∀ now, verifyApprovalToken { deskSigning with currentTime := now }
        (some "DF-APP.12.3690.5f") 12 = .ok (now ≤ 3690)) ∧
      ∃ expiry, ReadsToken deskSigning (some " DF-APP.+12.3_690.5f\n") 12 expiry
        (deskSigning.sign s!"{12}.{expiry}").toList :=
  ⟨(approvalTokens_bind deskSigning 12).2.1 3600 "DF-APP.12.3690.5f" (by decide +kernel),
    (approvalTokens_bind deskSigning 12).2.2 _ (by decide +kernel)⟩

/-! ## A token that is given to the adapter -/

/-- What the adapter asks before it looks at the token. -/
structure AsksToken (db : Db) (env : Env) (orderId : ℤ) (token : String) : Prop where
  internal : env.user.isPortal = false
  quotation : ∃ order, db.browse orderId = some order ∧
    (order.state = .draft ∨ order.state = .sent)
  given : token ≠ ""

/-- The verifier returns, and a confirmation with a token it does not accept is unauthorized. -/
structure AnswersToken (signing : Signing) (token : String) (orderId : ℤ) : Prop where
  returns : ∃ accepted, verifyApprovalToken signing (some token) orderId = .ok accepted
  refuses : ∀ base db env, AsksToken db env orderId token →
    verifyApprovalToken signing (some token) orderId ≠ .ok true →
      adapterConfirmOrder base signing env orderId (some token) db = .error (authorizationError
        ("Cryptographic verification failed: Invalid, expired, or forged approval token " ++
          s!"for order {orderId}."))

/-- The adapter asks the verifier, and what that raises becomes an error of the execution. -/
theorem AsksToken.adapterConfirmOrder_eq {base : BaseOdoo} {db : Db} {env : Env} {text : String}
    (asks : AsksToken db env orderId text) :
    adapterConfirmOrder base signing env orderId (some text) db =
      match verifyApprovalToken signing (some text) orderId with
      | .ok true => (actionDealflowConfirm base env.withBypassCheck [orderId.toNat] db).mapError
          confirmFailure
      | .ok false => .error (authorizationError
          ("Cryptographic verification failed: Invalid, expired, or forged approval token " ++
            s!"for order {orderId}."))
      | .error e => .error (odooExecutionError
          s!"Failed to confirm order {orderId}: {e.message}") := by
  obtain ⟨internal, ⟨order, found, quotation⟩, given⟩ := asks
  have positive := (browse_eq_some_iff.mp found).1
  have token : givenToken (some text) = some text := Option.filter_some_pos (decide_eq_true given)
  unfold adapterConfirmOrder checkOrderId findOrder
  rw [require_bind_of positive, require_bind_of internal, found]
  change (require _ _ >>= _) = _
  rw [require_bind_of quotation, token]
  change (Except.mapError _ (verifyApprovalToken signing (some text) orderId) >>= _) = _
  cases verifyApprovalToken signing (some text) orderId with
  | error e => rfl
  | ok accepted => cases accepted <;> rfl

/-- The verifier answers every token but one for the order, not expired, whose signature has a
character outside of ASCII. -/
theorem answersToken_iff {text : String} :
    AnswersToken signing text orderId ↔
      ∀ expiry tokenSig, ReadsToken signing (some text) orderId expiry tokenSig →
        isAscii tokenSig = true := by
  constructor
  · intro answers expiry tokenSig reads
    rcases answers with ⟨⟨accepted, returned⟩, -⟩
    rw [reads.verify, compareDigest_sign] at returned
    by_contra foreign
    rw [if_neg foreign] at returned
    cases returned
  · intro ascii
    have returns : ∃ accepted, verifyApprovalToken signing (some text) orderId = .ok accepted := by
      by_cases read : ∃ expiry tokenSig, ReadsToken signing (some text) orderId expiry tokenSig
      · obtain ⟨expiry, tokenSig, reads⟩ := read
        rw [reads.verify, compareDigest_sign, if_pos (ascii expiry tokenSig reads)]
        exact ⟨_, rfl⟩
      · exact ⟨false,
          verifyApprovalToken_unread fun expiry tokenSig reads => read ⟨expiry, tokenSig, reads⟩⟩
    refine ⟨returns, fun base db env asks notAccepted => ?_⟩
    obtain ⟨accepted, returned⟩ := returns
    cases accepted with
    | true => exact absurd returned notAccepted
    | false =>
        rw [asks.adapterConfirmOrder_eq, returned]

/-- Order 12 until 3690, signed with one letter that is not ASCII. -/
theorem deskSigning_raises : ¬ AnswersToken deskSigning "DF-APP.12.3690.\u00e9" 12 := by
  intro answers
  rcases answers with ⟨⟨accepted, returned⟩, -⟩
  have raised : (verifyApprovalToken deskSigning (some "DF-APP.12.3690.\u00e9") 12).toOption =
      none := by
    decide +kernel
  rw [returned] at raised
  cases raised

end Tokens

end DealFlow.Addon
