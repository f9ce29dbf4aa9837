import DealFlow.Governance.Chain

/-!
# Who granted an approval

`Authority` relates the state of the approval chain to the stages granted so far, as a set of pairs
of a stage and the assessment it was granted for.  A pending finance request stands on a granted
manager stage, and an approval on every stage its assessment requires; while a deal is approved it
stays within the score and level of the approved assessment (`Within`).

Each operation keeps this (`Authority.assess`, `Authority.approve`, `Authority.decline`,
`Authority.remark`).  Routing reads the level off the deal and not off the request's assessment;
`Chain.currentCarried` is what makes them agree when a request is decided.
-/

namespace DealFlow

/-- The stages granted so far, each for an assessment. -/
abbrev Grants := ApprovalStage → ℕ → Prop

/-- The current score and level are within those of an assessment. -/
structure Within (a : Approvals) (s : RiskAssessment) : Prop where
  score : ∃ score, a.currentRiskScore = some score ∧ score ≤ s.riskScore
  level : levelPriority a.requiredLevel ≤ levelPriority s.requiredLevel

structure Authority (granted : Grants) (a : Approvals) : Prop where
  handedOver : ∀ r ∈ a.pending, r.requiredLevel = .finance →
    granted .salesManager r.riskAssessmentId
  approved : a.approvalState = .approved →
    ∃ s, a.approvedAssessment = some s ∧ Within a s ∧ granted .salesManager s.id ∧
      (s.requiredLevel = .managerAndFinance → granted .finance s.id)

/-- What the coverage check establishes. -/
theorem covered_spec {approvedAssessment : Option RiskAssessment} {newLevel : ApprovalLevel}
    {newRiskScore : ℚ}
    (covered : isCoveredByApprovedAssessment approvedAssessment newLevel newRiskScore = true) :
    ∃ s, approvedAssessment = some s ∧ levelPriority newLevel ≤ levelPriority s.requiredLevel ∧
      newRiskScore ≤ s.riskScore := by
  cases approvedAssessment with
  | none => cases covered
  | some s =>
      unfold isCoveredByApprovedAssessment at covered
      dsimp only at covered
      split at covered
      · cases covered
      · next level =>
          split at covered
          · cases covered
          · next score => exact ⟨s, rfl, not_lt.mp level, not_lt.mp score⟩

section Operations

variable {a : Approvals} {granted granted' : Grants}

theorem Authority.mono (authority : Authority granted a)
    (more : ∀ stage assessmentId, granted stage assessmentId → granted' stage assessmentId) :
    Authority granted' a := by
  refine ⟨fun r mem stage => more _ _ (authority.handedOver r mem stage), fun state => ?_⟩
  obtain ⟨s, found, within, manager, finance⟩ := authority.approved state
  exact ⟨s, found, within, more _ _ manager, fun level => more _ _ (finance level)⟩

/-- Storing another assessment does not lose the approved one. -/
theorem settle_approvedAssessment {s t : RiskAssessment} (found : a.approvedAssessment = some s) :
    (a.settle t).approvedAssessment = some s := by
  obtain ⟨assessmentId, approved, stored⟩ := Option.bind_eq_some_iff.mp found
  refine Option.bind_eq_some_iff.mpr ⟨assessmentId, approved, ?_⟩
  simp only [Approvals.settle, List.find?_append, stored, Option.some_or]

theorem Authority.assess (authority : Authority granted a) (t : RiskAssessment) (now : Timestamp) :
    Authority granted (a.assess t now) := by
  unfold Approvals.assess
  split
  · next kept =>
      obtain ⟨s, found, level, score⟩ := covered_spec kept.1
      obtain ⟨s', found', -, manager, finance⟩ := authority.approved kept.2
      obtain rfl : s = s' := Option.some.inj (found.symm.trans found')
      exact ⟨authority.handedOver, fun _ =>
        ⟨s, settle_approvedAssessment found, ⟨⟨t.riskScore, rfl, score⟩, level⟩, manager, finance⟩⟩
  · split
    · refine ⟨fun r mem => ?_, fun state => by cases state⟩
      have none : r ∈ waiting (a.requests.map (supersede now)) := mem
      rw [waiting_supersede] at none
      cases none
    · refine ⟨fun r mem stage => ?_, fun state => by cases state⟩
      -- what routing opens is a manager stage
      have opened : r ∈ waiting (a.requests.map (supersede now) ++
          [stageRequest .salesManager 1 (a.nextId + 1) t.id now]) := mem
      rw [waiting_append, waiting_supersede, waiting_stageRequest, List.nil_append] at opened
      rw [List.mem_singleton.mp opened] at stage
      cases stage

/-- The assessment a deal stands under, whose level and score it carries. -/
theorem Chain.current_stored (chain : Chain a) {assessmentId : ℕ}
    (current : a.currentAssessmentId = some assessmentId) :
    ∃ s, (a.assessments.find? fun t => t.id = assessmentId) = some s ∧ s.id = assessmentId ∧
      a.requiredLevel = s.requiredLevel ∧ a.currentRiskScore = some s.riskScore := by
  obtain ⟨t, memT, idT⟩ := chain.currentStored _ current
  cases found : a.assessments.find? fun t => t.id = assessmentId with
  | none =>
      have missing := List.find?_eq_none.mp found t memT
      simp only [decide_eq_true_eq] at missing
      exact absurd idT missing
  | some s =>
      have idS : s.id = assessmentId := by simpa using List.find?_some found
      obtain ⟨level, score⟩ := chain.currentCarried s (List.mem_of_find?_eq_some found)
        (current.trans (congrArg some idS.symm))
      exact ⟨s, rfl, idS, level, score⟩

theorem Authority.approve (authority : Authority granted a) (chain : Chain a)
    {req : ApprovalRequest} (mem : req ∈ a.requests) (waits : req.status = .pending)
    {close : ApprovalRequest → ApprovalRequest} (closes : ∀ r, (close r).status ≠ .pending)
    (now : Timestamp)
    (more : ∀ stage assessmentId, granted stage assessmentId → granted' stage assessmentId)
    (grant : granted' req.requiredLevel req.riskAssessmentId) :
    Authority granted' (a.approve req close now) := by
  obtain ⟨only, -, current⟩ := chain.awaits mem waits
  obtain ⟨s, found, idS, level, score⟩ := chain.current_stored current
  have closed := waiting_close closes only
  unfold Approvals.approve
  split
  · next twoStage =>
      refine ⟨fun r memR _ => ?_, fun state => by cases state⟩
      have opened : r ∈ waiting (a.requests.map (onRequest req.id close) ++
          [stageRequest .finance 2 a.nextId req.riskAssessmentId now]) := memR
      rw [waiting_append, closed, waiting_stageRequest, List.nil_append] at opened
      rw [List.mem_singleton.mp opened]
      rw [twoStage.2] at grant
      exact grant
  · next lastStage =>
      refine ⟨fun r memR => ?_, fun _ => ⟨s, found, ⟨⟨s.riskScore, score, le_rfl⟩, ?_⟩, ?_, ?_⟩⟩
      · have none : r ∈ waiting (a.requests.map (onRequest req.id close)) := memR
        rw [closed] at none
        cases none
      · exact (congrArg levelPriority level).le
      · rw [idS]
        cases stage : req.requiredLevel with
        | salesManager =>
            rw [stage] at grant
            exact grant
        | finance =>
            -- the finance stage is reached only through the manager's
            have pending : req ∈ a.pending := only ▸ List.mem_singleton_self req
            exact more _ _ (authority.handedOver req pending stage)
      · intro both
        rw [idS]
        cases stage : req.requiredLevel with
        | salesManager => exact absurd ⟨level.trans both, stage⟩ lastStage
        | finance =>
            rw [stage] at grant
            exact grant

theorem Authority.decline (chain : Chain a) {req : ApprovalRequest} (mem : req ∈ a.requests)
    (waits : req.status = .pending) {close : ApprovalRequest → ApprovalRequest}
    (closes : ∀ r, (close r).status ≠ .pending) {state : ApprovalState}
    (ends : state ≠ .approved) : Authority granted (a.decline req close state) := by
  obtain ⟨only, -, -⟩ := chain.awaits mem waits
  refine ⟨fun r memR => ?_, fun approved => absurd approved ends⟩
  have none : r ∈ waiting (a.requests.map (onRequest req.id close)) := memR
  rw [waiting_close closes only] at none
  cases none

theorem Authority.remark (authority : Authority granted a) (chain : Chain a)
    {req : ApprovalRequest} (mem : req ∈ a.requests) (waits : req.status = .pending)
    {note : ApprovalRequest → ApprovalRequest} (keepsStatus : ∀ r, (note r).status = r.status)
    (keepsStage : ∀ r, (note r).requiredLevel = r.requiredLevel)
    (keepsAssessment : ∀ r, (note r).riskAssessmentId = r.riskAssessmentId) :
    Authority granted (a.remark req note) := by
  obtain ⟨only, state, -⟩ := chain.awaits mem waits
  have pending : req ∈ a.pending := only ▸ List.mem_singleton_self req
  refine ⟨fun r memR stage => ?_, fun approved => ?_⟩
  swap
  · exact absurd (approved.symm.trans state) (approved_ne_pendingState _)
  have noted : r ∈ waiting (a.requests.map (onRequest req.id note)) := memR
  rw [waiting_remark keepsStatus only] at noted
  obtain rfl := List.mem_singleton.mp noted
  rw [keepsStage] at stage
  rw [keepsAssessment]
  exact authority.handedOver req pending stage

/-- More ids may be given out elsewhere. -/
theorem Authority.skip (authority : Authority granted a) (n : ℕ) :
    Authority granted { a with nextId := n } := by
  refine ⟨authority.handedOver, fun state => ?_⟩
  obtain ⟨s, found, within, granted⟩ := authority.approved state
  exact ⟨s, found, ⟨within.score, within.level⟩, granted⟩

/-- The current assessment of an approved deal is covered by the approved one. -/
theorem Authority.current_covered (authority : Authority granted a) (chain : Chain a)
    (state : a.approvalState = .approved) :
    ∃ current approved, a.currentAssessment = some current ∧
      a.approvedAssessment = some approved ∧
      isCoveredByApprovedAssessment (some approved) current.requiredLevel current.riskScore =
        true := by
  obtain ⟨approved, found, within, -⟩ := authority.approved state
  obtain ⟨assessmentId, carried⟩ := chain.approvedCurrent state
  obtain ⟨current, stored, -, level, score⟩ := chain.current_stored carried
  rcases within.score with ⟨riskScore, is, below⟩
  obtain rfl : current.riskScore = riskScore := Option.some.inj (score.symm.trans is)
  refine ⟨current, approved, Option.bind_eq_some_iff.mpr ⟨_, carried, stored⟩, found, ?_⟩
  unfold isCoveredByApprovedAssessment
  dsimp only
  rw [if_neg (not_lt.mpr (level ▸ within.level)), if_neg (not_lt.mpr below)]

end Operations

end DealFlow
