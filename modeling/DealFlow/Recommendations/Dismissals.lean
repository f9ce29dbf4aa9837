import DealFlow.Lib.Run
import DealFlow.Services.RecommendationService

/-!
# Dismissed products

A product has one active recommendation for a deal at most, whatever happens (`oneActive_run`): a
generation deletes the active rows of the deal and stores each product once, and no action makes a
row active.  A product that was dismissed is not recommended again, since a generation leaves out
the products with a dismissed row and such a row stays one (`dismissedStay_step`).

A dismissal does not look at the status of its row, though.  Where that is an old row, added once,
and its product has been recommended again since, the newer row stays active:
`RecommendationOp.Clears` is the condition that it does not happen, and `dismissals_iff` says that
it is exact.
-/

namespace DealFlow

open Lib

namespace RecommendationDb

/-- The row is one of the deal and the product, with the status. -/
def hasStatus (db : RecommendationDb) (status : RecommendationStatus) (id dealId : ℕ)
    (productId : ℤ) : Prop :=
  ∃ r, db.recommendations.row id = some r ∧ r.dealId = dealId ∧ r.odooProductId = productId ∧
    r.status = status

/-- A product is recommended for a deal. -/
def isRecommended (db : RecommendationDb) (dealId : ℕ) (productId : ℤ) : Prop :=
  ∃ id, db.hasStatus .active id dealId productId

/-- A product has one active row for a deal at most. -/
def OneActive (db : RecommendationDb) : Prop :=
  ∀ i j dealId productId, db.hasStatus .active i dealId productId →
    db.hasStatus .active j dealId productId → i = j

/-- No product that was dismissed for a deal is recommended for it. -/
def NoneBack (db : RecommendationDb) : Prop :=
  ∀ i dealId productId, db.hasStatus .dismissed i dealId productId →
    ¬ db.isRecommended dealId productId

/-- The rows that were dismissed are so later on. -/
def DismissedStay (before after : RecommendationDb) : Prop :=
  ∀ i dealId productId, before.hasStatus .dismissed i dealId productId →
    after.hasStatus .dismissed i dealId productId

end RecommendationDb

open RecommendationDb

section Rows

variable {db db' : RecommendationDb} {status : RecommendationStatus} {id dealId : ℕ} {productId : ℤ}

theorem hasStatus_congr (same : db'.recommendations = db.recommendations) :
    db'.hasStatus status id dealId productId ↔ db.hasStatus status id dealId productId := by
  unfold hasStatus
  rw [same]

/-- A row has one status. -/
theorem hasStatus_unique {r : RecommendationRow} (row : db.recommendations.row id = some r)
    (here : db.hasStatus status id dealId productId) : r.status = status := by
  obtain ⟨r', row', -, -, rfl⟩ := here
  cases Option.some.inj (row.symm.trans row')
  rfl

theorem oneActive_congr (same : db'.recommendations = db.recommendations) (one : db.OneActive) :
    db'.OneActive := fun i j dealId productId here there =>
  one i j dealId productId ((hasStatus_congr same).mp here) ((hasStatus_congr same).mp there)

theorem noneBack_congr (same : db'.recommendations = db.recommendations) (none : db.NoneBack) :
    db'.NoneBack := by
  intro i dealId productId dismissed recommended
  obtain ⟨j, active⟩ := recommended
  exact none i dealId productId ((hasStatus_congr same).mp dismissed)
    ⟨j, (hasStatus_congr same).mp active⟩

theorem dismissedStay_congr {before : RecommendationDb}
    (same : db'.recommendations = db.recommendations) (stay : before.DismissedStay db) :
    before.DismissedStay db' := fun i dealId productId dismissed =>
  (hasStatus_congr same).mpr (stay i dealId productId dismissed)

theorem mem_dismissedProductIds :
    productId ∈ db.dismissedProductIds dealId ↔
      ∃ id, db.hasStatus .dismissed id dealId productId := by
  unfold dismissedProductIds hasStatus
  rw [List.mem_map]
  constructor
  · intro mem
    obtain ⟨r, memRow, product⟩ := mem
    obtain ⟨memRow, dismissed⟩ := List.mem_filter.mp memRow
    obtain ⟨entry, memEntry, rfl⟩ := List.mem_map.mp memRow
    obtain ⟨deal, status⟩ := of_decide_eq_true dismissed
    exact ⟨entry.1, entry.2, Table.mem_entries.mp memEntry, deal, product, status⟩
  · intro found
    obtain ⟨id, r, row, deal, product, status⟩ := found
    refine ⟨r, List.mem_filter.mpr ⟨?_, decide_eq_true ⟨deal, status⟩⟩, product⟩
    exact List.mem_map.mpr ⟨(id, r), Table.mem_entries.mpr row, rfl⟩

end Rows

/-! ## A generation -/

section Generation

variable {db : RecommendationDb} {candidates : List RecommendationCandidate}
  (dealId riskAssessmentId : ℕ) (now : Timestamp)

/-- The rows there are after a replacement: the old ones but the active ones of the deal, and the
new ones, which are active. -/
theorem hasStatus_replaceActive {status : RecommendationStatus} {id otherId : ℕ} {productId : ℤ} :
    (db.replaceActive dealId riskAssessmentId now candidates).hasStatus status id otherId
        productId ↔
      db.hasStatus status id otherId productId ∧ ¬ (otherId = dealId ∧ status = .active) ∨
        status = .active ∧ otherId = dealId ∧ db.recommendations.next ≤ id ∧
          (candidates.map (·.odooProductId))[id - db.recommendations.next]? = some productId := by
  unfold hasStatus replaceActive
  dsimp only
  rw [Table.row_insertAll, Table.next_filter]
  split
  · next old =>
      rw [Table.row_filter]
      constructor
      · intro found
        obtain ⟨r, row, deal, product, status⟩ := found
        obtain ⟨row, kept⟩ := Option.filter_eq_some_iff.mp row
        refine Or.inl ⟨⟨r, row, deal, product, status⟩, fun gone => ?_⟩
        rw [Bool.not_eq_true', decide_eq_false_iff_not] at kept
        exact kept ⟨deal.trans gone.1, status.trans gone.2⟩
      · intro found
        rcases found with ⟨⟨r, row, deal, product, status⟩, kept⟩ | ⟨-, -, new, -⟩
        · refine ⟨r, Option.filter_eq_some_iff.mpr ⟨row, ?_⟩, deal, product, status⟩
          rw [Bool.not_eq_true', decide_eq_false_iff_not]
          exact fun gone => kept ⟨deal.symm.trans gone.1, status.symm.trans gone.2⟩
        · omega
  · next new =>
      rw [List.getElem?_map, List.getElem?_map]
      have reached := not_lt.mp new
      have missing := db.recommendations.free id reached
      constructor
      · intro found
        obtain ⟨r, row, rfl, rfl, rfl⟩ := found
        obtain ⟨c, here, rfl⟩ := Option.map_eq_some_iff.mp row
        exact Or.inr ⟨rfl, rfl, reached, by rw [here]; rfl⟩
      · intro found
        rcases found with ⟨⟨r, row, -⟩, -⟩ | ⟨rfl, rfl, -, here⟩
        · rw [missing] at row
          cases row
        · obtain ⟨c, here, product⟩ := Option.map_eq_some_iff.mp here
          exact ⟨_, by rw [here]; rfl, rfl, product, rfl⟩

theorem oneActive_replaceActive (one : db.OneActive)
    (nodup : (candidates.map (·.odooProductId)).Nodup) :
    (db.replaceActive dealId riskAssessmentId now candidates).OneActive := by
  intro i j otherId productId here there
  rw [hasStatus_replaceActive] at here there
  rcases here with ⟨here, other⟩ | ⟨-, same, oldI, atI⟩
  · rcases there with ⟨there, -⟩ | ⟨-, same, -, -⟩
    · exact one i j otherId productId here there
    · exact absurd ⟨same, rfl⟩ other
  · rcases there with ⟨-, other⟩ | ⟨-, -, oldJ, atJ⟩
    · exact absurd ⟨same, rfl⟩ other
    · obtain ⟨inside, -⟩ := List.getElem?_eq_some_iff.mp atI
      have index := (List.getElem?_inj inside nodup).mp (atI.trans atJ.symm)
      omega

theorem noneBack_replaceActive (none : db.NoneBack)
    (fresh : ∀ c ∈ candidates, c.odooProductId ∉ db.dismissedProductIds dealId) :
    (db.replaceActive dealId riskAssessmentId now candidates).NoneBack := by
  intro i otherId productId dismissed recommended
  obtain ⟨j, active⟩ := recommended
  rw [hasStatus_replaceActive] at dismissed active
  rcases dismissed with ⟨dismissed, -⟩ | ⟨wrong, -⟩
  · rcases active with ⟨active, -⟩ | ⟨-, same, -, here⟩
    · exact none i otherId productId dismissed ⟨j, active⟩
    · obtain ⟨c, mem, product⟩ := List.mem_map.mp (List.mem_of_getElem? here)
      refine fresh c mem (mem_dismissedProductIds.mpr ⟨i, ?_⟩)
      rw [product, ← same]
      exact dismissed
  · cases wrong

theorem dismissedStay_replaceActive :
    db.DismissedStay (db.replaceActive dealId riskAssessmentId now candidates) :=
  fun _ _ _ dismissed =>
    (hasStatus_replaceActive ..).mpr (Or.inl ⟨dismissed, fun gone => by cases gone.2⟩)

/-- A generation replaces the active rows by one for each of some products that were not dismissed,
or changes nothing. -/
theorem regenerate_cases (reads : RecommendationReads) (deal : RecommendedDeal) :
    db.regenerate reads dealId deal riskAssessmentId now = db ∨
      ∃ candidates : List RecommendationCandidate,
        (candidates.map (·.odooProductId)).Nodup ∧
        (∀ c ∈ candidates, c.odooProductId ∉ db.dismissedProductIds dealId) ∧
        db.regenerate reads dealId deal riskAssessmentId now =
          db.replaceActive dealId riskAssessmentId now candidates := by
  unfold regenerate generateAndPersistRecommendations
  cases computed : db.candidatesFor reads dealId deal with
  | error e => exact Or.inl rfl
  | ok found =>
      cases found with
      | none => exact Or.inl rfl
      | some candidates =>
          refine Or.inr ⟨candidates, ?_⟩
          unfold candidatesFor at computed
          split at computed
          · cases computed
          · dsimp only at computed
            split at computed
            · cases computed
            · split at computed
              · cases computed
              · split at computed
                · cases computed
                · cases computed
                  exact ⟨evaluateRecommendations_nodup _,
                    fun c mem => (evaluateRecommendations_fresh mem).1, rfl⟩

theorem oneActive_regenerate (reads : RecommendationReads) (deal : RecommendedDeal)
    (one : db.OneActive) :
    (db.regenerate reads dealId deal riskAssessmentId now).OneActive := by
  rcases regenerate_cases dealId riskAssessmentId now reads deal with
    same | ⟨candidates, nodup, -, same⟩
  · rwa [same]
  · rw [same]
    exact oneActive_replaceActive dealId riskAssessmentId now one nodup

theorem noneBack_regenerate (reads : RecommendationReads) (deal : RecommendedDeal)
    (none : db.NoneBack) :
    (db.regenerate reads dealId deal riskAssessmentId now).NoneBack := by
  rcases regenerate_cases dealId riskAssessmentId now reads deal with
    same | ⟨candidates, -, fresh, same⟩
  · rwa [same]
  · rw [same]
    exact noneBack_replaceActive dealId riskAssessmentId now none fresh

theorem dismissedStay_regenerate (reads : RecommendationReads) (deal : RecommendedDeal) :
    db.DismissedStay (db.regenerate reads dealId deal riskAssessmentId now) := by
  rcases regenerate_cases dealId riskAssessmentId now reads deal with
    same | ⟨candidates, -, -, same⟩
  · rw [same]
    exact fun _ _ _ dismissed => dismissed
  · rw [same]
    exact dismissedStay_replaceActive dealId riskAssessmentId now

end Generation

/-! ## A row marked by an action -/

section Marked

variable {db : RecommendationDb} {recommendationId : ℕ} {r : RecommendationRow}
  {f : RecommendationRow → RecommendationRow} {status : RecommendationStatus}

/-- The rows there are once a row has got another status. -/
theorem hasStatus_updateRow (row : db.recommendations.row recommendationId = some r)
    (deal : (f r).dealId = r.dealId) (product : (f r).odooProductId = r.odooProductId)
    {id dealId : ℕ} {productId : ℤ} :
    (db.updateRow recommendationId f).hasStatus status id dealId productId ↔
      if id = recommendationId then
        r.dealId = dealId ∧ r.odooProductId = productId ∧ (f r).status = status
      else db.hasStatus status id dealId productId := by
  unfold hasStatus updateRow
  dsimp only
  rw [Table.row_modify]
  simp only [List.mem_singleton]
  split
  · next here =>
      rw [here, row, Option.map_some]
      constructor
      · intro found
        obtain ⟨s, same, dealS, productS, statusS⟩ := found
        cases Option.some.inj same
        exact ⟨deal.symm.trans dealS, product.symm.trans productS, statusS⟩
      · intro found
        exact ⟨f r, rfl, deal.trans found.1, product.trans found.2.1, found.2.2⟩
  · rfl

/-- Marking a row makes none active. -/
theorem oneActive_updateRow (one : db.OneActive)
    (row : db.recommendations.row recommendationId = some r) (deal : (f r).dealId = r.dealId)
    (product : (f r).odooProductId = r.odooProductId) (marked : (f r).status ≠ .active) :
    (db.updateRow recommendationId f).OneActive := by
  intro i j dealId productId here there
  rw [hasStatus_updateRow row deal product] at here there
  split at here
  · exact absurd here.2.2 marked
  · split at there
    · exact absurd there.2.2 marked
    · exact one i j dealId productId here there

/-- An active row that is marked as added leaves the dismissed ones as they were. -/
theorem noneBack_toAdded (now : Timestamp) (none : db.NoneBack)
    (row : db.recommendations.row recommendationId = some r) :
    (db.updateRow recommendationId (.toAdded now)).NoneBack := by
  intro i dealId productId dismissed recommended
  obtain ⟨j, active⟩ := recommended
  rw [hasStatus_updateRow row rfl rfl] at dismissed active
  split at dismissed
  · cases dismissed.2.2
  · split at active
    · cases active.2.2
    · exact none i dealId productId dismissed ⟨j, active⟩

theorem dismissedStay_updateRow (row : db.recommendations.row recommendationId = some r)
    (deal : (f r).dealId = r.dealId) (product : (f r).odooProductId = r.odooProductId)
    (kept : r.status = .dismissed → (f r).status = .dismissed) :
    db.DismissedStay (db.updateRow recommendationId f) := by
  intro i dealId productId dismissed
  rw [hasStatus_updateRow row deal product]
  split
  · next here =>
      obtain ⟨s, rowS, dealS, productS, statusS⟩ := dismissed
      rw [here, row] at rowS
      cases Option.some.inj rowS
      exact ⟨dealS, productS, kept statusS⟩
  · exact dismissed

end Marked

/-! ## Operations -/

/-- The row an operation dismisses. -/
def RecommendationOp.dismisses (db : RecommendationDb) :
    RecommendationOp → Option RecommendationRow
  | .apply _ dealId recommendationId _ .dismiss _ =>
      if (db.deals.row dealId).isSome then
        (db.recommendations.row recommendationId).filter fun r => r.dealId = dealId
      else none
  | _ => none

/-- A row that is dismissed is active, or its product is not recommended. -/
def RecommendationOp.Clears (db : RecommendationDb) (op : RecommendationOp) : Prop :=
  ∀ r, op.dismisses db = some r →
    r.status = .active ∨ ¬ db.isRecommended r.dealId r.odooProductId

/-- The ways an operation goes, each with the rows it leaves. -/
inductive StepRows (db : RecommendationDb) (op : RecommendationOp) : Table RecommendationRow → Prop
  | kept (quiet : op.dismisses db = none) : StepRows db op db.recommendations
  | generated (quiet : op.dismisses db = none) (reads : RecommendationReads)
      (dealId riskAssessmentId : ℕ) (deal : RecommendedDeal) (now : Timestamp) :
    StepRows db op (db.regenerate reads dealId deal riskAssessmentId now).recommendations
  | added (quiet : op.dismisses db = none) {recommendationId : ℕ} {r : RecommendationRow}
      (row : db.recommendations.row recommendationId = some r) (active : r.status = .active)
      (now : Timestamp) :
    StepRows db op (db.updateRow recommendationId (.toAdded now)).recommendations
  | evaluated (quiet : op.dismisses db = none) {recommendationId : ℕ} {r : RecommendationRow}
      (row : db.recommendations.row recommendationId = some r) (active : r.status = .active)
      (reads : RecommendationReads) (dealId riskAssessmentId : ℕ) (deal : RecommendedDeal)
      (now : Timestamp) :
    StepRows db op (((db.updateRow recommendationId (.toAdded now)).touchDeal dealId now
      ).regenerate reads dealId deal riskAssessmentId now).recommendations
  | dismissed {recommendationId : ℕ} {r : RecommendationRow} (found : op.dismisses db = some r)
      (row : db.recommendations.row recommendationId = some r) (now : Timestamp) :
    StepRows db op (db.updateRow recommendationId (.toDismissed now)).recommendations

section Steps

variable {db : RecommendationDb}

theorem stepRows_add (calls : AdditionCalls) {op : RecommendationOp}
    (quiet : op.dismisses db = none) {recommendationId : ℕ} {r : RecommendationRow}
    (row : db.recommendations.row recommendationId = some r) (active : r.status = .active)
    (dealId : ℕ) (deal : RecommendedDeal) (actor : DealflowUser) (quantity : ℚ) (now : Timestamp) :
    StepRows db op
      (db.addRecommended calls dealId recommendationId deal r actor quantity now
        ).2.recommendations := by
  unfold RecommendationDb.addRecommended
  split
  · exact .kept quiet
  · split
    · exact .kept quiet
    · split
      · exact .added quiet row active now
      · exact .evaluated quiet row active calls.reads dealId _ deal now

theorem stepRows (op : RecommendationOp) (db : RecommendationDb) :
    StepRows db op (op.step db).recommendations := by
  cases op with
  | generate reads dealId riskAssessmentId now =>
      unfold RecommendationOp.step
      dsimp only
      cases db.deals.row dealId with
      | none => exact .kept rfl
      | some deal => exact .generated rfl reads dealId riskAssessmentId deal now
  | apply calls dealId recommendationId actor action now =>
      unfold RecommendationOp.step RecommendationDb.applyRecommendationAction
      dsimp only
      cases found : (db.recommendations.row recommendationId).filter fun r => r.dealId = dealId with
      | none =>
          refine .kept ?_
          cases action with
          | dismiss =>
              unfold RecommendationOp.dismisses
              dsimp only
              rw [found, ite_self]
          | add quantity => rfl
          | other name => rfl
      | some r =>
          obtain ⟨row, -⟩ := Option.filter_eq_some_iff.mp found
          cases deal : db.deals.row dealId with
          | none =>
              refine .kept ?_
              cases action with
              | dismiss =>
                  unfold RecommendationOp.dismisses
                  dsimp only
                  rw [deal, Option.isSome_none, if_neg (by decide)]
              | add quantity => rfl
              | other name => rfl
          | some deal' =>
              cases action with
              | add quantity =>
                  dsimp only
                  split
                  · exact .kept rfl
                  · next active =>
                      exact stepRows_add calls rfl row (not_not.mp active) dealId deal' actor
                        quantity now
              | dismiss =>
                  refine .dismissed ?_ row now
                  unfold RecommendationOp.dismisses
                  dsimp only
                  rw [deal, Option.isSome_some, if_pos rfl, found]
              | other name => exact .kept rfl
  | change deals rules policies => exact .kept rfl

theorem oneActive_step (op : RecommendationOp) (one : db.OneActive) : (op.step db).OneActive := by
  have rows := stepRows op db
  generalize after : (op.step db).recommendations = table at rows
  cases rows with
  | kept quiet => exact oneActive_congr after one
  | generated quiet reads dealId riskAssessmentId deal now =>
      exact oneActive_congr after (oneActive_regenerate dealId riskAssessmentId now reads deal one)
  | added quiet row active now =>
      exact oneActive_congr after (oneActive_updateRow one row rfl rfl nofun)
  | evaluated quiet row active reads dealId riskAssessmentId deal now =>
      have marked := oneActive_updateRow (f := .toAdded now) one row rfl rfl nofun
      exact oneActive_congr after (oneActive_regenerate dealId riskAssessmentId now reads deal
        (oneActive_congr rfl marked))
  | dismissed found row now =>
      exact oneActive_congr after (oneActive_updateRow one row rfl rfl nofun)

/-- A dismissed row stays dismissed. -/
theorem dismissedStay_step (op : RecommendationOp) (db : RecommendationDb) :
    db.DismissedStay (op.step db) := by
  have rows := stepRows op db
  generalize after : (op.step db).recommendations = table at rows
  cases rows with
  | kept quiet => exact dismissedStay_congr after fun _ _ _ dismissed => dismissed
  | generated quiet reads dealId riskAssessmentId deal now =>
      exact dismissedStay_congr after
        (dismissedStay_regenerate dealId riskAssessmentId now reads deal)
  | added quiet row active now =>
      refine dismissedStay_congr after (dismissedStay_updateRow row rfl rfl fun dismissed => ?_)
      rw [active] at dismissed
      cases dismissed
  | @evaluated quiet recommendationId r row active reads dealId riskAssessmentId deal now =>
      have marked : db.DismissedStay (db.updateRow recommendationId (.toAdded now)) := by
        refine dismissedStay_updateRow row rfl rfl fun dismissed => ?_
        rw [active] at dismissed
        cases dismissed
      refine dismissedStay_congr after fun i otherId productId dismissed => ?_
      exact dismissedStay_regenerate dealId riskAssessmentId now reads deal i otherId productId
        (marked i otherId productId dismissed)
  | dismissed found row now =>
      exact dismissedStay_congr after (dismissedStay_updateRow row rfl rfl fun _ => rfl)

theorem noneBack_step {op : RecommendationOp} (one : db.OneActive) (none : db.NoneBack)
    (clears : op.Clears db) : (op.step db).NoneBack := by
  have rows := stepRows op db
  generalize after : (op.step db).recommendations = table at rows
  cases rows with
  | kept quiet => exact noneBack_congr after none
  | generated quiet reads dealId riskAssessmentId deal now =>
      exact noneBack_congr after (noneBack_regenerate dealId riskAssessmentId now reads deal none)
  | added quiet row active now => exact noneBack_congr after (noneBack_toAdded now none row)
  | evaluated quiet row active reads dealId riskAssessmentId deal now =>
      have marked := noneBack_toAdded now none row
      exact noneBack_congr after (noneBack_regenerate dealId riskAssessmentId now reads deal
        (noneBack_congr rfl marked))
  | @dismissed recommendationId r found row now =>
      refine noneBack_congr after fun i dealId productId dismissed recommended => ?_
      obtain ⟨j, active⟩ := recommended
      rw [hasStatus_updateRow row rfl rfl] at dismissed active
      split at active
      · cases active.2.2
      · next other =>
          split at dismissed
          · obtain ⟨rfl, rfl, -⟩ := dismissed
            rcases clears r found with here | unrecommended
            · exact other (one j recommendationId _ _ active ⟨r, row, rfl, rfl, here⟩)
            · exact unrecommended ⟨j, active⟩
          · exact none i dealId productId dismissed ⟨j, active⟩

/-- A dismissal leaves a dismissed row. -/
theorem dismissed_after {op : RecommendationOp} {r : RecommendationRow}
    (found : op.dismisses db = some r) :
    ∃ id, (op.step db).hasStatus .dismissed id r.dealId r.odooProductId := by
  have rows := stepRows op db
  generalize after : (op.step db).recommendations = table at rows
  cases rows with
  | @dismissed recommendationId r' found' row now =>
      cases Option.some.inj (found.symm.trans found')
      refine ⟨recommendationId, (hasStatus_congr after).mpr ?_⟩
      rw [hasStatus_updateRow row rfl rfl, if_pos rfl]
      exact ⟨rfl, rfl, rfl⟩
  | _ quiet =>
      rw [quiet] at found
      cases found

/-- A dismissal of a row that is not active deactivates none. -/
theorem recommended_after {op : RecommendationOp} {r : RecommendationRow}
    (found : op.dismisses db = some r) (inactive : r.status ≠ .active) {dealId : ℕ}
    {productId : ℤ} (recommended : db.isRecommended dealId productId) :
    (op.step db).isRecommended dealId productId := by
  have rows := stepRows op db
  generalize after : (op.step db).recommendations = table at rows
  cases rows with
  | @dismissed recommendationId r' found' row now =>
      cases Option.some.inj (found.symm.trans found')
      obtain ⟨j, active⟩ := recommended
      refine ⟨j, (hasStatus_congr after).mpr ?_⟩
      rw [hasStatus_updateRow row rfl rfl, if_neg]
      · exact active
      · intro same
        rw [same] at active
        exact inactive (hasStatus_unique row active)
  | _ quiet =>
      rw [quiet] at found
      cases found

end Steps

/-! ## Runs -/

/-- From the dismissal of one of its rows on, a product is not recommended for the deal. -/
def DismissalsStick (ops : List RecommendationOp) (db : RecommendationDb) : Prop :=
  ∀ earlier op between later, ops = earlier ++ op :: (between ++ later) →
    ∀ r, op.dismisses (run RecommendationOp.step earlier db) = some r →
      ¬ (run RecommendationOp.step (earlier ++ op :: between) db).isRecommended r.dealId
        r.odooProductId

theorem dismissalsStick_iff {ops : List RecommendationOp} {db : RecommendationDb}
    (one : db.OneActive) (none : db.NoneBack) :
    DismissalsStick ops db ↔ ∀ t ∈ history RecommendationOp.step ops db, t.2.Clears t.1 := by
  constructor
  · intro stick t mem r found
    obtain ⟨past, rest, split⟩ := List.append_of_mem mem
    obtain ⟨earlier, later, rfl, -, state⟩ := history_split split
    have after := stick earlier t.2 [] later rfl r (state ▸ found)
    rw [run_concat, ← state] at after
    by_cases active : r.status = .active
    · exact Or.inl active
    · exact Or.inr fun recommended => after (recommended_after found active recommended)
  · rintro clears earlier op between later rfl r found
    have split : earlier ++ op :: (between ++ later) = (earlier ++ op :: between) ++ later := by
      simp
    rw [split, history_append] at clears
    have ahead := fun t mem => clears t (List.mem_append_left _ mem)
    obtain ⟨-, -, noneAfter⟩ := run_guarded (fun db => db.OneActive ∧ db.NoneBack)
      (fun db op => op.Clears db) ⟨one, none⟩
      (fun db op clears inv => ⟨oneActive_step op inv.1, noneBack_step inv.1 inv.2 clears⟩)
      (earlier ++ op :: between) ahead
    obtain ⟨id, dismissed⟩ := dismissed_after found
    have stays : DismissedStay (op.step (run RecommendationOp.step earlier db))
        (run RecommendationOp.step between (op.step (run RecommendationOp.step earlier db))) :=
      run_related (fun _ _ _ _ dismissed => dismissed)
        (fun _ _ _ first second i dealId productId dismissed =>
          second i dealId productId (first i dealId productId dismissed))
        fun t _ => dismissedStay_step t.2 t.1
    refine noneAfter id _ _ ?_
    rw [run_append, run_cons]
    exact stays id _ _ dismissed

/-- Along every run a product has one active recommendation for a deal at most; and dismissed
products stay away exactly where every row that is dismissed is active or its product is not
recommended. -/
theorem dismissals_iff (deals : Table RecommendedDeal) (rules : List RecommendationRule)
    (policies : List DiscountPolicy) (ops : List RecommendationOp) :
    let start : RecommendationDb := { deals, rules, policies }
    (∀ earlier later, ops = earlier ++ later →
        (run RecommendationOp.step earlier start).OneActive) ∧
      (DismissalsStick ops start ↔
        ∀ t ∈ history RecommendationOp.step ops start, t.2.Clears t.1) := by
  intro start
  have empty : ∀ status id dealId productId, ¬ start.hasStatus status id dealId productId := by
    intro status id dealId productId found
    obtain ⟨r, row, -⟩ := found
    cases row
  have one : start.OneActive := fun i _ dealId productId here _ =>
    absurd here (empty _ i dealId productId)
  have none : start.NoneBack := fun i dealId productId here =>
    absurd here (empty _ i dealId productId)
  refine ⟨fun earlier later _ => ?_, dismissalsStick_iff one none⟩
  have kept := run_invariant RecommendationOp.step OneActive one (fun _ op => oneActive_step op)
  exact (kept earlier).2

/-- An order of some products, one of which goes with product 105. -/
def demoReads (productIds : List ℤ) : RecommendationReads where
  buildDealContext _ := .ok
    { lines := productIds.map fun productId =>
        { productId, productName := "Laptop", categoryId := 7, categoryPath := [1, 7] }
      amountUntaxed := 1000
      totalCost := 700
      totalMarginPct := 30 }
  getProducts _ := .ok fun productId =>
    if productId = 105 then
      some { id := 105, type := "STOCKABLE", name := "Docking station", categoryId := 8,
             categoryPath := [1, 8], standardPrice := 60, listPrice := 100 }
    else none
  getPrice _ _ _ := .ok 100

/-- The order once product 105 has been added to it. -/
def demoCalls : AdditionCalls where
  addLine _ _ _ := .ok 12
  evaluateDeal := .ok 2
  reads := demoReads [101, 105]

def demoDeals : RecommendationDb where
  deals := Table.empty.insert { odooSaleOrderId := 4001, odooPartnerId := 9 }
  rules := [{ triggerProductId := 101, suggestedProductId := 105, coPurchaseCount := 4 }]

/-- Product 105 is recommended and added; its line is taken off the order again, and it is
recommended anew. -/
def demoReadded : List RecommendationOp :=
  [.generate (demoReads [101]) 1 1 0,
   .apply demoCalls 1 1 { odooUserId := 4, role := .salesRep } (.add 1) 10,
   .generate (demoReads [101]) 1 3 20]

/-- The old row is dismissed. -/
def demoDismissal : RecommendationOp :=
  .apply demoCalls 1 1 { odooUserId := 4, role := .salesRep } .dismiss 30

theorem demoDismissal_recommended :
    ¬ DismissalsStick (demoReadded ++ [demoDismissal]) demoDeals := by
  intro stick
  have dismissed : (demoDismissal.dismisses (run RecommendationOp.step demoReadded demoDeals)).map
      (fun r => (r.dealId, r.odooProductId)) = some (1, 105) := by decide +kernel
  have active : ((run RecommendationOp.step (demoReadded ++ [demoDismissal]) demoDeals
      ).recommendations.row 2).any (fun r => r.dealId = 1 ∧ r.odooProductId = 105 ∧
        r.status = .active) = true := by decide +kernel
  obtain ⟨r, found, key⟩ := Option.map_eq_some_iff.mp dismissed
  obtain ⟨deal, product⟩ := Prod.mk.inj key
  obtain ⟨newer, row, here⟩ := (Option.any_eq_true _ _).mp active
  refine stick demoReadded demoDismissal [] [] rfl r found ?_
  rw [deal, product]
  exact ⟨2, newer, row, of_decide_eq_true here⟩

end DealFlow
