import GhostMedia.Bridge.ProtocolCore
import GhostMedia.Foundation.StateLogic
import Mathlib.Logic.Function.Basic

/- SecureStore.swift: a store of values under keys, any access to which may be refused. A
   refused access changes nothing. -/
namespace GhostMedia.Security
open CString

inductive SecurityError where
  | keychainStatus (status : Int)
  | invalidStoredValue (key : List UInt8)
  | runtimeFailure (operation status : String)
  | protocolCore (error : Bridge.ProtocolCoreError)
  | encoding
  deriving DecidableEq

abbrev SecureStore := List UInt8 → Option (List UInt8)

/-- The accesses that are refused during one call, with the status they are refused with. -/
structure Refusals where
  data : List UInt8 → Option Int
  set : List UInt8 → Option Int

/-- A call on the store that may throw. -/
abbrev Storing := EStateM SecurityError SecureStore

def SecureStore.data (refusals : Refusals) (key : List UInt8) : Storing (Option (List UInt8)) :=
  fun store =>
    match refusals.data key with
    | some status => .error (.keychainStatus status) store
    | none => .ok (store key) store

def SecureStore.set (refusals : Refusals) (value key : List UInt8) : Storing Unit :=
  fun store =>
    match refusals.set key with
    | some status => .error (.keychainStatus status) store
    | none => .ok () (Function.update store key (some value))

section Access
variable {refusals : Refusals} {key value : List UInt8} {store : SecureStore}

theorem data_ends : StateLogic.Ends (fun found after => after = store ∧ found = store key)
    (fun _ after => after = store) (SecureStore.data refusals key store) := by
  rw [SecureStore.data]
  cases refusals.data key with
  | none => exact ⟨rfl, rfl⟩
  | some => rfl

theorem set_ends : StateLogic.Ends
    (fun _ after => after = Function.update store key (some value)) (fun _ after => after = store)
    (SecureStore.set refusals value key store) := by
  rw [SecureStore.set]
  cases refusals.set key with
  | none => rfl
  | some => rfl

end Access

end GhostMedia.Security
