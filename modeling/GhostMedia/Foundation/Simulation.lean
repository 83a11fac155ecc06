import GhostMedia.Foundation.Runs

/- A machine measured against a specification that has states, inputs and answers of its
   own. What an input asks is read off the input alone; the states are related, and what
   the machine puts out shows what the specification answers. -/
namespace Runs
variable {State Input Output Spec Request Answer : Type}

structure Simulates (step : State → Input → Output × State)
    (spec : Spec → Request → Answer × Spec) (Asks : Input → Request → Prop)
    (Shows : Input → Answer → Output → Prop) (Related : State → Spec → Prop) : Prop where
  shown : ∀ {s t i r}, Related s t → Asks i r → Shows i (spec t r).1 (step s i).1
  kept : ∀ {s t i r}, Related s t → Asks i r → Related (step s i).2 (spec t r).2

/-- An event of the machine shows the event of the specification beside it. -/
def Explains (Asks : Input → Request → Prop) (Shows : Input → Answer → Output → Prop)
    (e : Event State Input Output) (spec : Event Spec Request Answer) : Prop :=
  Asks e.input spec.input ∧ Shows e.input spec.output e.output

section Runs
variable {step : State → Input → Output × State} {spec : Spec → Request → Answer × Spec}
  {Asks : Input → Request → Prop} {Shows : Input → Answer → Output → Prop}
  {Related : State → Spec → Prop} {inputs : List Input} {requests : List Request}

theorem run_simulated (simulates : Simulates step spec Asks Shows Related)
    (asked : List.Forall₂ Asks inputs requests) {s : State} {t : Spec} (related : Related s t) :
    List.Forall₂ (Explains Asks Shows) (events step s inputs) (events spec t requests) ∧
      Related (final step s inputs) (final spec t requests) := by
  induction asked generalizing s t with
  | nil => exact ⟨.nil, related⟩
  | cons asks _ rest =>
    obtain ⟨explained, last⟩ := rest (simulates.kept related asks)
    exact ⟨.cons ⟨asks, simulates.shown related asks⟩ explained, last⟩

/-- Inputs that all ask something are asked in order. -/
theorem requests_exist (asks : ∀ i, ∃ r, Asks i r) (inputs : List Input) :
    ∃ requests, List.Forall₂ Asks inputs requests := by
  induction inputs with
  | nil => exact ⟨[], .nil⟩
  | cons i inputs rest =>
    obtain ⟨r, first⟩ := asks i
    obtain ⟨requests, others⟩ := rest
    exact ⟨r :: requests, .cons first others⟩

end Runs

end Runs
