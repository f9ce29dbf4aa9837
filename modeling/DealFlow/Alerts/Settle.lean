import DealFlow.Services.AlertDetectors

/-!
# What a detector does to the open alerts

A deal has an alert of a type open, or it has not (`hasOpen`); no operation opens a second one
(`OneOpen`).  A verdict carried out is described by that alone: what is open afterwards
(`Settles.hasOpen`) and whether an audit event was written, which marks the deal as active
(`Settles.deals`).
-/

namespace DealFlow

open Lib

/-- A deal at the moment an audit event about it is written. -/
def DealRow.touch (now : Timestamp) (d : DealRow) : DealRow :=
  { d with lastActivityAt := now }

@[simp] theorem DealRow.touch_touch (now : Timestamp) (d : DealRow) :
    (d.touch now).touch now = d.touch now := rfl

/-- What a verdict does: it opens the alert, closes it, or neither. -/
def AlertVerdict.effect : AlertVerdict → Option Bool
  | .raise .. => some true
  | .clear _ => some false
  | .leave => none

/-- Whether the alert is open after a verdict, by whether it was before. -/
def AlertVerdict.opens (v : AlertVerdict) (was : Bool) : Bool :=
  v.effect.getD was

@[simp] theorem AlertVerdict.opens_raise (severity : RiskSeverity) (title : AlertTitle)
    (detail : AlertDetail) (was : Bool) : (raise severity title detail).opens was = true := rfl

@[simp] theorem AlertVerdict.opens_clear (reason : String) (was : Bool) :
    (clear reason).opens was = false := rfl

@[simp] theorem AlertVerdict.opens_leave (was : Bool) : leave.opens was = was := rfl

/-- An audit event is written where the verdict changes what is open. -/
def AlertVerdict.writes (v : AlertVerdict) (was : Bool) : Bool :=
  v.opens was != was

theorem AlertVerdict.writes_iff (v : AlertVerdict) (was : Bool) :
    v.writes was = true ↔ v.opens was ≠ was :=
  bne_iff_ne

namespace AlertDb

/-- An alert of the type is open on the deal. -/
def hasOpen (db : AlertDb) (dealId : ℕ) (type : AlertType) : Bool :=
  (db.openAlert dealId type).isSome

/-- The alert is an open one of the type on the deal. -/
def openAt (db : AlertDb) (id dealId : ℕ) (type : AlertType) : Bool :=
  (db.alerts.row id).any (DealAlert.isOpen dealId type)

/-- No two alerts of one type are open on one deal. -/
def OneOpen (db : AlertDb) : Prop :=
  ∀ i j dealId type, db.openAt i dealId type = true → db.openAt j dealId type = true → i = j

end AlertDb

theorem DealAlert.isOpen_iff {a : DealAlert} {dealId : ℕ} {type : AlertType} :
    a.isOpen dealId type = true ↔ a.dealId = dealId ∧ a.type = type ∧ a.status = .open :=
  decide_eq_true_iff

section Lookup

variable {db : AlertDb} {id dealId : ℕ} {type : AlertType}

theorem openAt_iff :
    db.openAt id dealId type = true ↔
      ∃ a, db.alerts.row id = some a ∧ a.isOpen dealId type = true := by
  unfold AlertDb.openAt
  cases db.alerts.row id with
  | none => simp
  | some a => simp

theorem openAlert_some {a : DealAlert} (found : db.openAlert dealId type = some (id, a)) :
    db.alerts.row id = some a ∧ a.isOpen dealId type = true := by
  refine ⟨Table.mem_entries.mp (List.mem_of_find?_eq_some found), ?_⟩
  exact List.find?_some (p := fun entry : ℕ × DealAlert => entry.2.isOpen dealId type) found

theorem hasOpen_iff : db.hasOpen dealId type = true ↔ ∃ id, db.openAt id dealId type = true := by
  constructor
  · intro opened
    obtain ⟨entry, found⟩ := Option.isSome_iff_exists.mp opened
    exact ⟨entry.1, openAt_iff.mpr ⟨entry.2, openAlert_some found⟩⟩
  · intro opened
    obtain ⟨id, here⟩ := opened
    obtain ⟨a, row, isOpen⟩ := openAt_iff.mp here
    exact List.find?_isSome.mpr ⟨(id, a), Table.mem_entries.mpr row, isOpen⟩

theorem hasOpen_iff_row : db.hasOpen dealId type = true ↔ ∃ id a, db.alerts.row id = some a ∧
    a.dealId = dealId ∧ a.type = type ∧ a.status = .open := by
  simp only [hasOpen_iff, openAt_iff, DealAlert.isOpen_iff]

end Lookup

/-! ## The three changes to the alerts -/

section Changes

variable (db : AlertDb) (id : ℕ)

theorem openAt_updateAlert (f : DealAlert → DealAlert) (i dealId : ℕ) (type : AlertType) :
    (db.updateAlert id f).openAt i dealId type =
      if i = id then (db.alerts.row i).any fun a => (f a).isOpen dealId type
      else db.openAt i dealId type := by
  unfold AlertDb.openAt AlertDb.updateAlert
  rw [Table.row_modify]
  simp only [List.mem_singleton]
  split
  · exact Option.any_map ..
  · rfl

/-- An update that leaves an alert's deal, type and status as they are. -/
theorem openAt_updateAlert_same {f : DealAlert → DealAlert}
    (same : ∀ a dealId type, (f a).isOpen dealId type = a.isOpen dealId type) (i dealId : ℕ)
    (type : AlertType) :
    (db.updateAlert id f).openAt i dealId type = db.openAt i dealId type := by
  rw [openAt_updateAlert]
  simp only [same]
  exact ite_self _

/-- An update that leaves the alert acknowledged or resolved. -/
theorem openAt_updateAlert_closed {f : DealAlert → DealAlert} (closed : ∀ a, (f a).status ≠ .open)
    (i dealId : ℕ) (type : AlertType) :
    (db.updateAlert id f).openAt i dealId type =
      (decide (i ≠ id) && db.openAt i dealId type) := by
  rw [openAt_updateAlert]
  by_cases here : i = id
  · have never : ∀ a, (f a).isOpen dealId type = false := fun a =>
      decide_eq_false fun isOpen => closed a isOpen.2.2
    simp [here, never]
  · simp [here]

theorem openAt_insert {a : DealAlert} (opened : a.status = .open) (i dealId : ℕ)
    (type : AlertType) :
    ({ db with alerts := db.alerts.insert a } : AlertDb).openAt i dealId type =
      (db.openAt i dealId type ||
        decide (i = db.alerts.next ∧ a.dealId = dealId ∧ a.type = type)) := by
  unfold AlertDb.openAt
  rw [Table.row_insert]
  by_cases here : i = db.alerts.next
  · subst here
    simp [DealAlert.isOpen, opened]
  · simp [here]

end Changes

section Opened

variable {db : AlertDb} {id dealId dealId' : ℕ} {type type' : AlertType}

/-- An alert is open on one deal, for one type. -/
theorem openAt_key (here : db.openAt id dealId type = true)
    (there : db.openAt id dealId' type' = true) : dealId' = dealId ∧ type' = type := by
  obtain ⟨a, row, isOpen⟩ := openAt_iff.mp here
  obtain ⟨b, row', isOpen'⟩ := openAt_iff.mp there
  cases Option.some.inj (row.symm.trans row')
  obtain ⟨deal, kind, -⟩ := DealAlert.isOpen_iff.mp isOpen
  obtain ⟨deal', kind', -⟩ := DealAlert.isOpen_iff.mp isOpen'
  exact ⟨deal'.symm.trans deal, kind'.symm.trans kind⟩

theorem hasOpen_congr {db' : AlertDb}
    (same : ∀ i, db'.openAt i dealId type = db.openAt i dealId type) :
    db'.hasOpen dealId type = db.hasOpen dealId type := by
  rw [Bool.eq_iff_iff, hasOpen_iff, hasOpen_iff]
  exact exists_congr fun i => by rw [same i]

/-- Closing alerts opens no second one. -/
theorem oneOpen_of_fewer {db' : AlertDb} (one : db.OneOpen)
    (fewer : ∀ i dealId type, db'.openAt i dealId type = true → db.openAt i dealId type = true) :
    db'.OneOpen := fun i j dealId type here there =>
  one i j dealId type (fewer i dealId type here) (fewer j dealId type there)

theorem hasOpen_updateAlert_closed (one : db.OneOpen) {f : DealAlert → DealAlert}
    (closed : ∀ a, (f a).status ≠ .open) (here : db.openAt id dealId type = true) :
    (db.updateAlert id f).hasOpen dealId' type' =
      if dealId' = dealId ∧ type' = type then false else db.hasOpen dealId' type' := by
  split
  · next same =>
      obtain ⟨rfl, rfl⟩ := same
      rw [Bool.eq_false_iff, ne_eq, hasOpen_iff]
      intro opened
      obtain ⟨i, still⟩ := opened
      rw [openAt_updateAlert_closed db id closed, Bool.and_eq_true, decide_eq_true_eq] at still
      exact still.1 (one i id _ _ still.2 here)
  · next other =>
      refine hasOpen_congr fun i => ?_
      rw [openAt_updateAlert_closed db id closed]
      by_cases same : i = id
      · have elsewhere : db.openAt i dealId' type' = false :=
          Bool.eq_false_iff.mpr fun opened => other (openAt_key here (same ▸ opened))
        rw [elsewhere, Bool.and_false]
      · simp [same]

theorem hasOpen_insert {a : DealAlert} (opened : a.status = .open) :
    ({ db with alerts := db.alerts.insert a } : AlertDb).hasOpen dealId type =
      (db.hasOpen dealId type || decide (dealId = a.dealId ∧ type = a.type)) := by
  rw [Bool.eq_iff_iff, Bool.or_eq_true, hasOpen_iff, hasOpen_iff, decide_eq_true_eq]
  simp only [openAt_insert db opened, Bool.or_eq_true, decide_eq_true_eq]
  constructor
  · rintro ⟨i, before | ⟨-, deal, kind⟩⟩
    · exact Or.inl ⟨i, before⟩
    · exact Or.inr ⟨deal.symm, kind.symm⟩
  · rintro (⟨i, before⟩ | ⟨deal, kind⟩)
    · exact ⟨i, Or.inl before⟩
    · exact ⟨db.alerts.next, Or.inr ⟨rfl, deal.symm, kind.symm⟩⟩

theorem oneOpen_insert {a : DealAlert} (one : db.OneOpen) (opened : a.status = .open)
    (unopened : db.hasOpen a.dealId a.type = false) :
    ({ db with alerts := db.alerts.insert a } : AlertDb).OneOpen := by
  have none : ∀ i, db.openAt i a.dealId a.type ≠ true := fun i here =>
    Bool.eq_false_iff.mp unopened (hasOpen_iff.mpr ⟨i, here⟩)
  intro i j dealId type here there
  rw [openAt_insert db opened, Bool.or_eq_true, decide_eq_true_eq] at here there
  rcases here with here | ⟨rfl, rfl, rfl⟩
  · rcases there with there | ⟨rfl, rfl, rfl⟩
    · exact one i j dealId type here there
    · exact absurd here (none i)
  · rcases there with there | ⟨rfl, -, -⟩
    · exact absurd there (none j)
    · rfl

end Opened

/-! ## A verdict carried out -/

section Verdict

variable {db : AlertDb} {now : Timestamp} {dealId : ℕ} {type : AlertType} {v : AlertVerdict}

/-- The ways a verdict is carried out, each with the database it leaves. -/
inductive Settles (db : AlertDb) (now : Timestamp) (dealId : ℕ) (type : AlertType) :
    AlertVerdict → AlertDb → Prop
  | updated {severity : RiskSeverity} {title : AlertTitle} {detail : AlertDetail} {id : ℕ}
      {a : DealAlert} (found : db.openAlert dealId type = some (id, a)) :
    Settles db now dealId type (.raise severity title detail)
      (db.updateAlert id fun a => { a with severity, title, detail })
  | raised {severity : RiskSeverity} {title : AlertTitle} {detail : AlertDetail}
      (found : db.openAlert dealId type = none) :
    Settles db now dealId type (.raise severity title detail)
      (({ db with
          alerts := db.alerts.insert
            { dealId, type, severity, status := .open, title, detail, raisedAt := now }
          } : AlertDb).recordAuditEvent
        { eventType := .alertRaised, alertId := db.alerts.next, dealId, reason := .title title,
          createdAt := now })
  | resolved {reason : String} {id : ℕ} {a : DealAlert}
      (found : db.openAlert dealId type = some (id, a)) :
    Settles db now dealId type (.clear reason) (db.autoResolve now id dealId reason)
  | cleared {reason : String} (found : db.openAlert dealId type = none) :
    Settles db now dealId type (.clear reason) db
  | left : Settles db now dealId type .leave db

theorem settles : Settles db now dealId type v (db.settle now dealId type v).1 := by
  cases v with
  | raise severity title detail =>
      unfold AlertDb.settle
      match found : db.openAlert dealId type with
      | none => exact .raised found
      | some (id, a) => exact .updated found
  | clear reason =>
      unfold AlertDb.settle
      match found : db.openAlert dealId type with
      | none => exact .cleared found
      | some (id, a) => exact .resolved found
  | leave => exact .left

variable {db' : AlertDb}

theorem hasOpen_of_found {id : ℕ} {a : DealAlert}
    (found : db.openAlert dealId type = some (id, a)) : db.hasOpen dealId type = true := by
  unfold AlertDb.hasOpen
  rw [found]
  rfl

theorem hasOpen_of_none (found : db.openAlert dealId type = none) :
    db.hasOpen dealId type = false := by
  unfold AlertDb.hasOpen
  rw [found]
  rfl

theorem openAt_of_found {id : ℕ} {a : DealAlert}
    (found : db.openAlert dealId type = some (id, a)) : db.openAt id dealId type = true :=
  openAt_iff.mpr ⟨a, openAlert_some found⟩

/-- What a verdict leaves open, of its own type on its own deal and otherwise. -/
theorem Settles.hasOpen (h : Settles db now dealId type v db') (one : db.OneOpen) (dealId' : ℕ)
    (type' : AlertType) :
    db'.hasOpen dealId' type' =
      if dealId' = dealId ∧ type' = type then v.opens (db.hasOpen dealId type)
      else db.hasOpen dealId' type' := by
  cases h with
  | @updated severity title detail id a found =>
      have same := hasOpen_congr fun i => openAt_updateAlert_same db id
        (f := fun a => { a with severity, title, detail }) (fun _ _ _ => rfl) i dealId' type'
      rw [same]
      split
      · next key => rw [key.1, key.2, hasOpen_of_found found, AlertVerdict.opens_raise]
      · rfl
  | raised found =>
      refine (hasOpen_insert rfl).trans ?_
      split
      · next key => simp [key]
      · next other => simp [other]
  | resolved found =>
      exact hasOpen_updateAlert_closed one (fun _ => nofun) (openAt_of_found found)
  | cleared found =>
      split
      · next key => rw [key.1, key.2, hasOpen_of_none found, AlertVerdict.opens_clear]
      · rfl
  | left =>
      split
      · next key => rw [key.1, key.2, AlertVerdict.opens_leave]
      · rfl

theorem Settles.oneOpen (h : Settles db now dealId type v db') (one : db.OneOpen) :
    db'.OneOpen := by
  cases h with
  | @updated severity title detail id a found =>
      refine oneOpen_of_fewer one fun i deal kind opened => ?_
      have same := openAt_updateAlert_same db id
        (f := fun a => { a with severity, title, detail }) (fun _ _ _ => rfl) i deal kind
      exact same.symm.trans opened
  | raised found => exact oneOpen_insert one rfl (hasOpen_of_none found)
  | @resolved reason id a found =>
      refine oneOpen_of_fewer one fun i deal kind opened => ?_
      have closed := openAt_updateAlert_closed db id
        (f := fun a => { a with status := .resolved, resolvedAt := some now }) (fun _ => nofun)
        i deal kind
      exact (Bool.and_eq_true_iff.mp (closed.symm.trans opened)).2
  | cleared found => exact one
  | left => exact one

/-- A verdict marks its deal as active where it writes an event, and changes no other. -/
theorem Settles.deals (h : Settles db now dealId type v db') :
    db'.deals = db.deals.modify (if v.writes (db.hasOpen dealId type) = true then [dealId] else [])
      (DealRow.touch now) := by
  cases h with
  | updated found =>
      rw [hasOpen_of_found found]
      exact (Table.modify_nil _ _).symm
  | raised found =>
      rw [hasOpen_of_none found]
      rfl
  | resolved found =>
      rw [hasOpen_of_found found]
      rfl
  | cleared found =>
      rw [hasOpen_of_none found]
      exact (Table.modify_nil _ _).symm
  | left =>
      rw [AlertVerdict.writes, AlertVerdict.opens_leave, bne_self_eq_false]
      exact (Table.modify_nil _ _).symm

/-- A verdict that writes no event opens and closes nothing. -/
theorem Settles.openAt (h : Settles db now dealId type v db')
    (quiet : v.writes (db.hasOpen dealId type) = false) (i dealId' : ℕ) (type' : AlertType) :
    db'.openAt i dealId' type' = db.openAt i dealId' type' := by
  cases h with
  | @updated severity title detail id a found =>
      exact openAt_updateAlert_same db id
        (f := fun a => { a with severity, title, detail }) (fun _ _ _ => rfl) i dealId' type'
  | raised found =>
      rw [hasOpen_of_none found] at quiet
      cases quiet
  | resolved found =>
      rw [hasOpen_of_found found] at quiet
      cases quiet
  | cleared found => rfl
  | left => rfl

theorem Settles.snapshots (h : Settles db now dealId type v db') :
    db'.snapshots = db.snapshots := by
  cases h <;> rfl

end Verdict

end DealFlow
