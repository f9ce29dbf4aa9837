import Mathlib.Logic.Basic

/-!
# Computations that may raise

`require` raises unless a condition holds; `List.foldlM` in `Except` is a loop that the first raise
ends.

* `bind_eq_ok`, `require_eq_ok`: what is known of a computation that came to its end.
* `mapError_eq_ok`: it comes to its end whatever its exceptions are turned into.
* `map_eq_error`: it raises whatever its result is turned into.
* `foldlM_ok`: an invariant of a loop, with the elements already done at hand.
* `foldlM_ok_image`: a loop that computes what a fold does.
-/

namespace DealFlow.Lib

variable {ε : Type*} {α β : Type}

def require (p : Prop) [Decidable p] (e : ε) : Except ε Unit :=
  if p then .ok () else .error e

theorem bind_eq_ok {x : Except ε α} {f : α → Except ε β} {b : β} :
    (x >>= f) = .ok b ↔ ∃ a, x = .ok a ∧ f a = .ok b := by
  cases x with
  | error e => exact ⟨nofun, fun ⟨a, eq, _⟩ => nomatch eq⟩
  | ok a => exact ⟨fun eq => ⟨a, rfl, eq⟩, fun ⟨c, eq, rest⟩ => Except.ok.inj eq ▸ rest⟩

theorem require_eq_ok {p : Prop} [Decidable p] {e : ε} {u : Unit} :
    require p e = .ok u ↔ p := by
  unfold require
  split
  · next holds => exact iff_of_true rfl holds
  · next fails => exact iff_of_false nofun fails

theorem require_bind_eq_ok {p : Prop} [Decidable p] {e : ε} {f : Unit → Except ε β} {b : β} :
    (require p e >>= f) = .ok b ↔ p ∧ f () = .ok b := by
  rw [bind_eq_ok]
  exact ⟨fun ⟨_, passed, rest⟩ => ⟨require_eq_ok.mp passed, rest⟩,
    fun ⟨holds, rest⟩ => ⟨(), require_eq_ok.mpr holds, rest⟩⟩

theorem require_bind_of {p : Prop} [Decidable p] {e : ε} {f : Unit → Except ε β} (holds : p) :
    (require p e >>= f) = f () := by
  unfold require
  rw [if_pos holds]
  rfl

theorem mapError_eq_ok {ε δ α : Type} {f : ε → δ} {x : Except ε α} {a : α} :
    x.mapError f = .ok a ↔ x = .ok a := by
  cases x with
  | error e => exact iff_of_false nofun nofun
  | ok b => exact ⟨fun eq => congrArg _ (Except.ok.inj eq), fun eq => congrArg _ (Except.ok.inj eq)⟩

theorem map_eq_error {f : α → β} {x : Except ε α} {e : ε} :
    x.map f = .error e ↔ x = .error e := by
  cases x with
  | error d => exact ⟨fun eq => congrArg _ (Except.error.inj eq),
      fun eq => congrArg _ (Except.error.inj eq)⟩
  | ok a => exact iff_of_false nofun nofun

/-- Induction along a loop that came to its end. -/
theorem foldlM_ok {f : β → α → Except ε β} {motive : List α → β → Prop} {l : List α} {b c : β}
    (ok : l.foldlM f b = .ok c) (start : motive [] b)
    (next : ∀ done x, x ∈ l → ∀ now after, f now x = .ok after → motive done now →
      motive (done ++ [x]) after) : motive l c := by
  induction l generalizing b motive with
  | nil => exact Except.ok.inj ok ▸ start
  | cons x l ih =>
      rw [List.foldlM_cons] at ok
      obtain ⟨after, first, rest⟩ := bind_eq_ok.mp ok
      refine ih (motive := fun done now => motive (x :: done) now) rest ?_ ?_
      · exact next [] x List.mem_cons_self b after first start
      · exact fun done y mem => next (x :: done) y (List.mem_cons_of_mem x mem)

/-- A loop whose steps change a part of the state by a function folds that function. -/
theorem foldlM_ok_image {γ : Type} {f : β → α → Except ε β} {g : γ → α → γ} (embed : γ → β)
    (step : ∀ c a b, f (embed c) a = .ok b → b = embed (g c a)) {l : List α} {c : γ} {b : β}
    (ok : l.foldlM f (embed c) = .ok b) : b = embed (l.foldl g c) := by
  refine foldlM_ok (motive := fun done now => now = embed (done.foldl g c)) ok rfl ?_
  rintro done a - now after next rfl
  rw [step _ a after next, List.foldl_append]
  rfl

end DealFlow.Lib
