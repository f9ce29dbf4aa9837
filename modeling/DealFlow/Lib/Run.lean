import Mathlib.Data.List.Basic
import Mathlib.Data.List.Induction

/-!
# Runs of a state machine and their histories

A machine is a step function on its states.  `run` carries a state through a list of operations and
`history` lists the steps taken, each as the state it started from and its operation.

`run_induction` is the one induction every statement about runs uses: a property of history and
state that holds at the start and survives one more step holds of every run. `run_invariant` and
`run_guarded` are the two forms it takes for a property of states alone, `run_steps_guarded` is the
second with the history at hand, `run_states_iff` and `run_related_iff` are about one moment and two
moments of a run, and `run_steps_iff` and `run_forall_iff` say when two properties of steps hold
along the same runs.

Where messages carry a key, a message may fail, and one whose key the receiver has recorded is a
duplicate; `firsts` lists the others, the first of each key that comes through.

* `run_firsts`: where failures and duplicates change nothing and what comes through is recorded, the
  whole run ends where the run of the firsts does.
-/

namespace DealFlow.Lib

section

variable {S Op : Type*} (step : Op → S → S)

/-- The state after the operations, in order. -/
def run : List Op → S → S
  | [], s => s
  | op :: ops, s => run ops (step op s)

/-- The steps of a run. -/
def history : List Op → S → List (S × Op)
  | [], _ => []
  | op :: ops, s => (s, op) :: history ops (step op s)

@[simp] theorem run_nil (s : S) : run step [] s = s := rfl

@[simp] theorem run_cons (op : Op) (ops : List Op) (s : S) :
    run step (op :: ops) s = run step ops (step op s) := rfl

@[simp] theorem history_nil (s : S) : history step [] s = [] := rfl

@[simp] theorem history_cons (op : Op) (ops : List Op) (s : S) :
    history step (op :: ops) s = (s, op) :: history step ops (step op s) := rfl

theorem run_concat (ops : List Op) (op : Op) (s : S) :
    run step (ops ++ [op]) s = step op (run step ops s) := by
  induction ops generalizing s with
  | nil => rfl
  | cons first ops ih => exact ih (step first s)

theorem run_append (ops later : List Op) (s : S) :
    run step (ops ++ later) s = run step later (run step ops s) := by
  induction ops generalizing s with
  | nil => rfl
  | cons op ops ih => exact ih (step op s)

theorem history_append (ops later : List Op) (s : S) :
    history step (ops ++ later) s = history step ops s ++ history step later (run step ops s) := by
  induction ops generalizing s with
  | nil => rfl
  | cons op ops ih => exact congrArg ((s, op) :: ·) (ih (step op s))

theorem history_concat (ops : List Op) (op : Op) (s : S) :
    history step (ops ++ [op]) s = history step ops s ++ [(run step ops s, op)] := by
  induction ops generalizing s with
  | nil => rfl
  | cons first ops ih =>
      rw [List.cons_append, history_cons, history_cons, ih, run_cons, List.cons_append]

variable {step}

/-- Induction along a run, with the steps taken so far at hand. -/
theorem run_induction {motive : List (S × Op) → S → Prop} {s : S} (start : motive [] s)
    (next : ∀ past now op, motive past now → motive (past ++ [(now, op)]) (step op now))
    (ops : List Op) : motive (history step ops s) (run step ops s) := by
  induction ops using List.reverseRecOn with
  | nil => exact start
  | append_singleton ops op ih =>
      rw [history_concat, run_concat]
      exact next _ _ op ih

/-- Where a step of the history stands: the operations before it lead to its state. -/
theorem history_split {ops : List Op} {s : S} {past later : List (S × Op)} {t : S × Op}
    (split : history step ops s = past ++ t :: later) :
    ∃ before after, ops = before ++ t.2 :: after ∧ past = history step before s ∧
      t.1 = run step before s := by
  induction past generalizing ops s with
  | nil =>
      cases ops with
      | nil => cases split
      | cons op ops =>
          rw [history_cons, List.nil_append] at split
          obtain ⟨rfl, -⟩ := List.cons.inj split
          exact ⟨[], ops, rfl, rfl, rfl⟩
  | cons first past ih =>
      cases ops with
      | nil => cases split
      | cons op ops =>
          rw [history_cons, List.cons_append] at split
          obtain ⟨rfl, rest⟩ := List.cons.inj split
          obtain ⟨before, after, rfl, rfl, state⟩ := ih rest
          exact ⟨op :: before, after, rfl, rfl, state⟩

/-- What follows a step of the history is the history from where that step leads. -/
theorem history_later {ops : List Op} {s : S} {past later : List (S × Op)} {t : S × Op}
    (split : history step ops s = past ++ t :: later) :
    ∃ after, later = history step after (step t.2 t.1) := by
  obtain ⟨before, after, rfl, rfl, state⟩ := history_split split
  refine ⟨after, ?_⟩
  rw [history_append, List.append_cancel_left_eq, history_cons, ← state] at split
  exact (List.cons.inj split).2.symm

/-- A property of single steps and a property that also looks at what came before agree along every
run when they agree under one that every run has. -/
theorem run_steps_iff {motive : List (S × Op) → S → Prop} {holds : S → Op → Prop}
    {guard : List (S × Op) → S → Op → Prop} {s : S} (start : motive [] s)
    (next : ∀ past now op, motive past now → motive (past ++ [(now, op)]) (step op now))
    (same : ∀ past now op, motive past now → (holds now op ↔ guard past now op))
    (ops : List Op) :
    (∀ t ∈ history step ops s, holds t.1 t.2) ↔
      ∀ past t later, history step ops s = past ++ t :: later → guard past t.1 t.2 := by
  have reached : ∀ past t later, history step ops s = past ++ t :: later → motive past t.1 := by
    intro past t later split
    obtain ⟨before, after, -, rfl, state⟩ := history_split split
    rw [state]
    exact run_induction start next before
  constructor
  · intro all past t later split
    have mem : t ∈ history step ops s := split ▸ List.mem_append_right _ List.mem_cons_self
    exact (same past t.1 t.2 (reached past t later split)).mp (all t mem)
  · intro all t mem
    obtain ⟨past, later, split⟩ := List.append_of_mem mem
    exact (same past t.1 t.2 (reached past t later split)).mpr (all past t later split)

/-- A property of history and state kept by the steps that a guard lets through holds at every step
of a guarded run. -/
theorem run_steps_guarded {motive : List (S × Op) → S → Prop} (guard : S → Op → Prop) {s : S}
    (start : motive [] s)
    (next : ∀ past now op, guard now op → motive past now →
      motive (past ++ [(now, op)]) (step op now))
    (ops : List Op) (guarded : ∀ t ∈ history step ops s, guard t.1 t.2) :
    ∀ past t later, history step ops s = past ++ t :: later → motive past t.1 := by
  intro past t later split
  obtain ⟨before, after, -, rfl, state⟩ := history_split split
  have earlier : ∀ t ∈ history step before s, guard t.1 t.2 := fun t mem =>
    guarded t (split ▸ List.mem_append_left _ mem)
  rw [state]
  refine run_induction (motive := fun past now => (∀ t ∈ past, guard t.1 t.2) → motive past now)
    (fun _ => start) (fun past now op ih guards => ?_) before earlier
  obtain ⟨old, new⟩ := List.forall_mem_append.mp guards
  exact next past now op (new _ (List.mem_singleton_self _)) (ih old)

/-- A state property kept by every step holds along the whole run: before each of its steps and at
the end. -/
theorem run_invariant (step : Op → S → S) (inv : S → Prop) {s : S} (start : inv s)
    (kept : ∀ now op, inv now → inv (step op now)) (ops : List Op) :
    (∀ t ∈ history step ops s, inv t.1) ∧ inv (run step ops s) := by
  refine run_induction (motive := fun past now => (∀ t ∈ past, inv t.1) ∧ inv now)
    ⟨by simp, start⟩ ?_ ops
  rintro past now op ⟨before, here⟩
  refine ⟨List.forall_mem_append.mpr ⟨before, ?_⟩, kept now op here⟩
  intro t mem
  rw [List.mem_singleton.mp mem]
  exact here

/-- A state property kept by the steps that a guard lets through holds along every guarded run. -/
theorem run_guarded (inv : S → Prop) (guard : S → Op → Prop) {s : S} (start : inv s)
    (kept : ∀ now op, guard now op → inv now → inv (step op now)) (ops : List Op)
    (guarded : ∀ t ∈ history step ops s, guard t.1 t.2) :
    (∀ t ∈ history step ops s, inv t.1) ∧ inv (run step ops s) := by
  induction ops generalizing s with
  | nil => exact ⟨by simp, start⟩
  | cons op ops ih =>
      rw [history_cons, List.forall_mem_cons] at guarded
      obtain ⟨before, last⟩ := ih (kept s op guarded.1 start) guarded.2
      rw [history_cons, run_cons, List.forall_mem_cons]
      exact ⟨⟨start, before⟩, last⟩

/-- A relation that holds across the steps of a run holds from its start to its end. -/
theorem run_related {R : S → S → Prop} (refl : ∀ s, R s s)
    (trans : ∀ a b c, R a b → R b c → R a c) {ops : List Op} {s : S}
    (steps : ∀ t ∈ history step ops s, R t.1 (step t.2 t.1)) : R s (run step ops s) := by
  induction ops generalizing s with
  | nil => exact refl s
  | cons op ops ih =>
      rw [history_cons, List.forall_mem_cons] at steps
      exact trans _ _ _ steps.1 (ih steps.2)

variable (step) in
/-- What holds at the start holds at every moment of a run exactly when it holds after each step. -/
theorem run_states_iff {P : S → Prop} {s : S} (start : P s) (ops : List Op) :
    (∀ earlier later, ops = earlier ++ later → P (run step earlier s)) ↔
      ∀ t ∈ history step ops s, P (step t.2 t.1) := by
  constructor
  · intro states t mem
    obtain ⟨past, later, split⟩ := List.append_of_mem mem
    obtain ⟨before, after, rfl, -, state⟩ := history_split split
    have reached := states (before ++ [t.2]) after (by simp)
    rw [run_concat, ← state] at reached
    exact reached
  · rintro steps earlier later rfl
    rw [history_append, List.forall_mem_append] at steps
    have ahead := steps.1
    cases earlier using List.reverseRecOn with
    | nil => exact start
    | append_singleton before op =>
        rw [history_concat, List.forall_mem_append] at ahead
        rw [run_concat]
        exact ahead.2 _ List.mem_cons_self

variable (step) in
/-- A preorder relates any two moments of a run, the earlier first, exactly when it relates the two
sides of every step. -/
theorem run_related_iff {R : S → S → Prop} (refl : ∀ s, R s s)
    (trans : ∀ a b c, R a b → R b c → R a c) (ops : List Op) (s : S) :
    (∀ earlier between later, ops = earlier ++ between ++ later →
        R (run step earlier s) (run step (earlier ++ between) s)) ↔
      ∀ t ∈ history step ops s, R t.1 (step t.2 t.1) := by
  constructor
  · intro related t mem
    obtain ⟨past, later, split⟩ := List.append_of_mem mem
    obtain ⟨before, after, rfl, -, state⟩ := history_split split
    have across := related before [t.2] after (by simp)
    rw [run_concat, ← state] at across
    exact across
  · rintro steps earlier between later rfl
    rw [run_append]
    refine run_related refl trans fun t mem => steps t ?_
    rw [history_append, history_append]
    exact List.mem_append_left _ (List.mem_append_right _ mem)

variable (step) in
/-- The steps of a run take its operations. -/
theorem history_allowed {allowed : Op → Prop} {ops : List Op} (all : ∀ op ∈ ops, allowed op)
    (s : S) : ∀ t ∈ history step ops s, allowed t.2 := by
  induction ops generalizing s with
  | nil => simp
  | cons op ops ih =>
      obtain ⟨first, rest⟩ := List.forall_mem_cons.mp all
      rw [history_cons, List.forall_mem_cons]
      exact ⟨first, ih rest (step op s)⟩

/-- Two properties of single steps agree along a run of allowed steps when they agree under an
invariant that the steps with the second property keep. -/
theorem run_forall_iff (inv : S → Prop) {allowed holds guard : S → Op → Prop} {s : S}
    (start : inv s)
    (same : ∀ now op, allowed now op → inv now → (holds now op ↔ guard now op))
    (kept : ∀ now op, allowed now op → inv now → guard now op → inv (step op now))
    (ops : List Op) (all : ∀ t ∈ history step ops s, allowed t.1 t.2) :
    (∀ t ∈ history step ops s, holds t.1 t.2) ↔ ∀ t ∈ history step ops s, guard t.1 t.2 := by
  induction ops generalizing s with
  | nil => simp
  | cons op ops ih =>
      rw [history_cons, List.forall_mem_cons] at all
      rcases all with ⟨first, rest⟩
      rw [history_cons, List.forall_mem_cons, List.forall_mem_cons, same s op first start]
      exact and_congr_right fun guarded => ih (kept s op first start guarded) rest

end

/-! ## Messages that are delivered again -/

variable {M K S : Type*} [DecidableEq K] (key : M → K) (fails : M → Bool)

/-- The messages that come through under a key that has not been seen before them. -/
def firsts : List K → List M → List M
  | _, [] => []
  | seen, m :: ms =>
      if fails m = true ∨ key m ∈ seen then firsts seen ms
      else m :: firsts (key m :: seen) ms

variable {key fails} {step : M → S → S}

/-- A run with failures and duplicates does what its firsts do. -/
theorem run_firsts (recorded : S → K → Prop) (failed : ∀ m s, fails m = true → step m s = s)
    (duplicate : ∀ m s, recorded s (key m) → step m s = s)
    (records : ∀ m s, fails m = false → recorded (step m s) (key m))
    (keeps : ∀ m s k, recorded s k → recorded (step m s) k)
    (ms : List M) {seen : List K} {s : S} (known : ∀ k ∈ seen, recorded s k) :
    run step ms s = run step (firsts key fails seen ms) s := by
  induction ms generalizing seen s with
  | nil => rfl
  | cons m ms ih =>
      unfold firsts
      split
      · next skipped =>
          have same : step m s = s := by
            rcases skipped with fails | old
            · exact failed m s fails
            · exact duplicate m s (known _ old)
          rw [run_cons, same]
          exact ih known
      · next through =>
          rw [run_cons, run_cons]
          refine ih (List.forall_mem_cons.mpr ⟨?_, fun k mem => keeps m s k (known k mem)⟩)
          exact records m s (Bool.eq_false_iff.mpr (not_or.mp through).1)

end DealFlow.Lib
