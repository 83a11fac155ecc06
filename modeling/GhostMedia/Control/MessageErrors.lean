import GhostMedia.Control.JsonAcceptance
import GhostMedia.Control.Message

/- A refused message is refused with an error about its text: no step of the decoding
   fails with `GM_OK` or with a state conflict. -/
namespace GhostMedia.Control
open Json

/-- A step that fails only with the status of a refused text. -/
def Errs {α : Type} (step : Except GmStatus α) : Prop :=
  ∀ status, step = .error status → Refusal status

@[simp] theorem refusal_iff (status : GmStatus) :
    Refusal status ↔ status ≠ .ok ∧ status ≠ .stateConflict := Iff.rfl

section Rules
variable {α β : Type}

@[simp] theorem errs_ok (a : α) : Errs (.ok a) := by
  intro status failed
  cases failed

@[simp] theorem errs_pure (a : α) : Errs (pure a) := errs_ok a

@[simp] theorem errs_error (status : GmStatus) :
    Errs (.error status : Except GmStatus α) ↔ Refusal status := by
  constructor
  · exact fun errs => errs status rfl
  · intro error other failed
    cases failed
    exact error

@[simp] theorem errs_throw (status : GmStatus) :
    Errs (throw status : Except GmStatus α) ↔ Refusal status := errs_error status

@[simp] theorem errs_check (condition : Bool) : Errs (check condition) := by
  cases condition with
  | true => exact errs_pure ()
  | false => exact (errs_error .badMessage).mpr (by decide)

@[simp] theorem errs_require (value : Option α) : Errs (require value) := by
  cases value with
  | some a => exact errs_pure a
  | none => exact (errs_error .badMessage).mpr (by decide)

@[simp] theorem errs_bind (step : Except GmStatus α) (next : α → Except GmStatus β) :
    Errs (step >>= next) ↔ Errs step ∧ ∀ a, step = .ok a → Errs (next a) := by
  cases step with
  | ok a => simp [Errs, bind, Except.bind]
  | error status => simp [Errs, bind, Except.bind]

@[simp] theorem errs_map (step : Except GmStatus α) (f : α → β) :
    Errs (f <$> step) ↔ Errs step := by
  cases step <;> simp [Errs, Functor.map, Except.map]

@[simp] theorem errs_ite (condition : Prop) [Decidable condition] (a b : Except GmStatus α) :
    Errs (if condition then a else b) ↔ (condition → Errs a) ∧ (¬ condition → Errs b) := by
  by_cases holds : condition <;> simp [holds]

end Rules

theorem profile_validate_no_conflict (profile : GmAudioProfile) :
    gmAudioProfileValidate profile ≠ .stateConflict := by
  unfold gmAudioProfileValidate
  repeat' split
  all_goals decide

theorem parse_profile_errs (object : JsonValue) : Errs (parseProfile object) := by
  simp only [parseProfile, errs_bind, errs_check, errs_require, true_and]
  intros
  split
  · exact errs_pure _
  · rename_i status other
    exact (errs_throw _).mpr ⟨other, profile_validate_no_conflict _⟩

theorem versions_loop_errs (previous : UInt64) (saw : Bool) (elements : List JsonValue) :
    Errs (versionsLoop previous saw elements) := by
  induction elements generalizing previous saw with
  | nil => exact errs_pure _
  | cons element rest ih =>
    cases element with
    | number read => simp [versionsLoop, ih]
    | _ => simp [versionsLoop]

theorem validate_versions_errs (elements : List JsonValue) (out : GmControlMessageInfo) :
    Errs (validateVersions elements out) := by
  simp [validateVersions, versions_loop_errs]

theorem validate_session_close_errs (root : JsonValue) (out : GmControlMessageInfo) :
    Errs (validateSessionClose root out) := by
  simp only [validateSessionClose, errs_bind, errs_check, errs_require, true_and]
  intro _ _ reason _
  cases reason <;> simp

theorem validate_request_errs (root : JsonValue) (out : GmControlMessageInfo) (type : List UInt8) :
    Errs (validateRequest root out type) := by
  simp [validateRequest, validateSessionHello, validateTransportBind, validateStreamOpen,
    validateStreamStart, validateStreamEnd, validateStreamRekey, validateStatusGet, validatePing,
    validate_session_close_errs, validate_versions_errs, parse_profile_errs]

theorem validate_result_errs (root : JsonValue) (out : GmControlMessageInfo) :
    Errs (validateResult root out) := by
  simp [validateResult, validateResultObject, validateHelloResult, validateBindResult,
    validateOpenResult, validateRekeyResult, validateStreamResult, validateStateResult,
    validateStatusResult, validatePingResult, validateRequiredDecimalString]

theorem validate_event_errs (root : JsonValue) (out : GmControlMessageInfo) (type : List UInt8) :
    Errs (validateEvent root out type) := by
  simp [validateEvent, validateStreamStarted, validateStreamStopped, validateOutputState,
    validateSessionExpiring, validateRequiredDecimalString]

theorem parse_root_errs (root : JsonValue) (out : GmControlMessageInfo) :
    Errs (parseRoot root out) := by
  simp [parseRoot, validateError, validate_request_errs, validate_result_errs,
    validate_event_errs]

theorem parse_json_errs (jsonText : GmBytes) : Errs (parseJson jsonText) := by
  intro status failed
  cases jsonText with
  | view text => exact parse_json_error failed
  | null size =>
    cases size with
    | zero =>
      have refused : parseJson (.null 0) = .error .badMessage := rfl
      cases refused.symm.trans failed
      decide
    | succ size =>
      have refused : parseJson (.null (size + 1)) = .error .badArgument := rfl
      cases refused.symm.trans failed
      decide

theorem parse_message_errs (jsonText : GmBytes) (out : GmControlMessageInfo) :
    Errs (gmControlParseMessage jsonText out) := by
  have size (root : JsonValue) : Errs (enforceV1MessageSize jsonText root) := by
    simp [enforceV1MessageSize]
  simp [gmControlParseMessage, parse_json_errs, parse_root_errs, size]

end GhostMedia.Control
