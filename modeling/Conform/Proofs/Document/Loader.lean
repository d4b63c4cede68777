import Conform.Document.Loader
import Conform.Proofs.Outcome

/-!
# What a loader's steps come to

A loader's state decides what is noted and what is kept, not what a value is read as
(`Loader.parse_outcome`): the grammar is loaded or was loaded before, and notes never fail.
-/

namespace Conform

/-- What the steps of a loader come to, without what they leave behind. -/
def Loading.outcome {α : Type} (steps : Loading α) (loader : Loader) : Except DocumentFailure α :=
  (steps.run.run loader).1

namespace Loading

variable {α β : Type}

/-- A step that the loader takes no part in. -/
theorem outcome_lift_bind (x : Except DocumentFailure α) (rest : α → Loading β) (loader : Loader) :
    outcome (do let a ← x; rest a) loader = (do let a ← x; (rest a).outcome loader) := by
  cases x <;> rfl

theorem outcome_lift (x : Except DocumentFailure α) (loader : Loader) :
    outcome (liftM x) loader = x := by
  cases x <;> rfl

/-- A step that never fails, whatever it does to the loader. -/
theorem outcome_unit_bind {step : Loading Unit} {rest : Loading β}
    {x : Except DocumentFailure β} (hstep : ∀ loader, step.outcome loader = .ok ())
    (hrest : ∀ loader, rest.outcome loader = x) (loader : Loader) :
    outcome (do step; rest) loader = x := by
  have h := hstep loader
  unfold outcome at h ⊢
  rw [ExceptT.run_bind, StateT.run_bind]
  cases hs : step.run.run loader with
  | mk result after =>
    rw [hs] at h
    obtain rfl : result = .ok () := h
    exact hrest after

end Loading

namespace Loader

theorem note_outcome (record : Record) (loader : Loader) :
    (note record).outcome loader = .ok () := rfl

theorem loadGrammar_outcome (resolved : String) (loader : Loader) :
    (loadGrammar resolved).outcome loader = .ok () := by
  have hget : (loadGrammar resolved).outcome loader =
      Loading.outcome (if !loader.grammars.contains resolved then
        (do
          set { loader with grammars := resolved :: loader.grammars }
          note (Document.grammarRecord resolved) : Loading Unit)
      else pure ()) loader := rfl
  rw [hget]
  cases loader.grammars.contains resolved <;> rfl

theorem parse_outcome (v : Value) (source : String) (loader : Loader) :
    (parse v source).outcome loader = Document.parse v source := by
  have hload (header : Document.Header) (entries : List (Value × Value)) (loader : Loader) :
      Loading.outcome (do
        let resolved ← Document.grammarVersion header
        loadGrammar resolved
        Document.ofEntries header entries source) loader = (do
      let _ ← Document.grammarVersion header
      Document.ofEntries header entries source) := by
    rw [Loading.outcome_lift_bind]
    congr
    funext resolved
    exact Loading.outcome_unit_bind (loadGrammar_outcome resolved)
      (Loading.outcome_lift (Document.ofEntries header entries source)) loader
  unfold parse Document.parse
  rw [Loading.outcome_lift_bind]
  congr
  funext ⟨⟨formatVersion, warning⟩, entries⟩
  cases warning with
  | none => exact hload _ _ _
  | some warning => exact Loading.outcome_unit_bind (note_outcome _) (hload _ _) _

end Loader

end Conform
