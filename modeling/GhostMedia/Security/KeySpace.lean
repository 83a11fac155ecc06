import GhostMedia.Security.Trust

/- The one flat key space: no two digests share a trust key, none of them is a key of the
   identity, and `loadOrCreate` neither reads nor writes any of them. -/
namespace GhostMedia.Security
open CString StateLogic

section Keys

theorem hex_digit_injective {n m : UInt8} (below : n < 16) (below' : m < 16)
    (same : hexDigit n = hexDigit m) : n = m := by
  rw [UInt8.lt_iff_toNat_lt] at below below'
  have digits : (hexDigit n).toNat = (hexDigit m).toNat := congrArg UInt8.toNat same
  have value : ∀ k : UInt8, k.toNat < 16 →
      (hexDigit k).toNat = if k.toNat < 10 then 48 + k.toNat else 87 + k.toNat := by
    intro k small
    have ten : k < 10 ↔ k.toNat < 10 := UInt8.lt_iff_toNat_lt
    rw [hexDigit, apply_ite UInt8.toNat, UInt8.toNat_add, UInt8.toNat_add]
    simp only [ten]
    split
    · exact Nat.mod_eq_of_lt (Nat.add_lt_add_left small 48 |>.trans (by decide))
    · exact Nat.mod_eq_of_lt (Nat.add_lt_add_left small 87 |>.trans (by decide))
  rw [value n below, value m below'] at digits
  apply UInt8.toNat_inj.mp
  split at digits <;> split at digits <;> omega

theorem hex_byte_injective {a b : UInt8} (same : hexByte a = hexByte b) : a = b := by
  obtain ⟨high, rest⟩ := List.cons.inj same
  obtain ⟨low, _⟩ := List.cons.inj rest
  have below : ∀ c : UInt8, c / 16 < 16 ∧ c % 16 < 16 := by
    intro c
    have bound := c.toNat_lt
    constructor
    · rw [UInt8.lt_iff_toNat_lt, UInt8.toNat_div]
      exact Nat.div_lt_of_lt_mul bound
    · rw [UInt8.lt_iff_toNat_lt, UInt8.toNat_mod]
      exact Nat.mod_lt _ (by decide)
  have quotient := congrArg UInt8.toNat (hex_digit_injective (below a).1 (below b).1 high)
  have remainder := congrArg UInt8.toNat (hex_digit_injective (below a).2 (below b).2 low)
  simp only [UInt8.toNat_div, UInt8.toNat_mod] at quotient remainder
  have sixteen : UInt8.toNat 16 = 16 := rfl
  rw [sixteen] at quotient remainder
  apply UInt8.toNat_inj.mp
  omega

theorem hex_injective {d e : List UInt8} (same : d.flatMap hexByte = e.flatMap hexByte) :
    d = e := by
  induction d generalizing e with
  | nil =>
    cases e with
    | nil => rfl
    | cons b e => simp [hexByte] at same
  | cons a d ih =>
    cases e with
    | nil => simp [hexByte] at same
    | cons b e =>
      rw [List.flatMap_cons, List.flatMap_cons] at same
      obtain ⟨byte, rest⟩ := List.append_inj same rfl
      rw [hex_byte_injective byte, ih rest]

theorem trust_key_injective {d e : List UInt8} (same : trustKey d = trustKey e) : d = e :=
  hex_injective (List.append_cancel_left same)

def identityKeys : List (List UInt8) :=
  [serverIdKey, identityKey, legacySigningKey, legacyCertificate]

theorem trust_key_apart (d : List UInt8) : trustKey d ∉ identityKeys := by
  have initials : ∀ key ∈ identityKeys, key.head? ≠ some 116 := by decide
  exact fun member => initials _ member rfl

end Keys

/-- Two stores with the same identity, and all else as it was at the start. -/
structure SideBySide (start start' store twin : SecureStore) : Prop where
  same : ∀ key ∈ identityKeys, store key = twin key
  left : ∀ key, key ∉ identityKeys → store key = start key
  right : ∀ key, key ∉ identityKeys → twin key = start' key

section Manager
variable {Uuid Key Certificate : Type} {platform : Platform Uuid Key Certificate}
  {around : Surroundings Uuid Key Certificate} {start start' s t : SecureStore}

theorem data_twin {refusals : Refusals} {key : List UInt8} (member : key ∈ identityKeys)
    (beside : SideBySide start start' s t) : Twin (SideBySide start start')
      (SecureStore.data refusals key s) (SecureStore.data refusals key t) := by
  rw [SecureStore.data, SecureStore.data]
  cases refusals.data key with
  | none => exact ⟨beside.same key member, beside⟩
  | some status => exact ⟨rfl, beside⟩

theorem set_twin {refusals : Refusals} {value key : List UInt8} (member : key ∈ identityKeys)
    (beside : SideBySide start start' s t) : Twin (SideBySide start start')
      (SecureStore.set refusals value key s) (SecureStore.set refusals value key t) := by
  rw [SecureStore.set, SecureStore.set]
  cases refusals.set key with
  | some status => exact ⟨rfl, beside⟩
  | none =>
    refine ⟨rfl, fun other member' => ?_, fun other apart => ?_, fun other apart => ?_⟩
    · by_cases same : other = key
      · rw [same, Function.update_self, Function.update_self]
      · rw [Function.update_of_ne same, Function.update_of_ne same]
        exact beside.same other member'
    · have distinct : other ≠ key := ne_of_mem_of_not_mem member apart |>.symm
      rw [Function.update_of_ne distinct]
      exact beside.left other apart
    · have distinct : other ≠ key := ne_of_mem_of_not_mem member apart |>.symm
      rw [Function.update_of_ne distinct]
      exact beside.right other apart

theorem require_stored_twin {α : Type} (key : List UInt8) (value : Option α)
    (beside : SideBySide start start' s t) : Twin (SideBySide start start')
      (requireStored key value s) (requireStored key value t) := by
  cases value with
  | none => exact ⟨rfl, beside⟩
  | some a => exact ⟨rfl, beside⟩

theorem require_runtime_ok_twin {α : Type} (operation : String) (result : Except GmStatus α)
    (beside : SideBySide start start' s t) : Twin (SideBySide start start')
      (requireRuntimeOk operation result s) (requireRuntimeOk operation result t) := by
  cases result with
  | error status => exact ⟨rfl, beside⟩
  | ok a => exact ⟨rfl, beside⟩

theorem load_or_create_server_id_twin (beside : SideBySide start start' s t) :
    Twin (SideBySide start start') (loadOrCreateServerId platform around s)
      (loadOrCreateServerId platform around t) := by
  rw [loadOrCreateServerId]
  refine twin_bind (data_twin (by decide) beside) fun found _ _ beside => ?_
  cases found with
  | some bytes => exact require_stored_twin _ _ beside
  | none =>
    exact twin_bind (set_twin (by decide) beside) fun _ _ _ beside => ⟨rfl, beside⟩

theorem persist_twin (identity : RuntimeIdentity Key Certificate)
    (beside : SideBySide start start' s t) : Twin (SideBySide start start')
      (persist platform around identity s) (persist platform around identity t) := by
  rw [persist]
  refine twin_bind (require_runtime_ok_twin _ _ beside) fun pkcs8 _ _ beside => ?_
  refine twin_bind (require_runtime_ok_twin _ _ beside) fun der _ _ beside => ?_
  cases platform.encodeStored ⟨pkcs8, der⟩ with
  | none => exact ⟨rfl, beside⟩
  | some bytes => exact set_twin (by decide) beside

theorem load_or_renew_identity_twin (stored : StoredIdentity)
    (beside : SideBySide start start' s t) : Twin (SideBySide start start')
      (loadOrRenewIdentity platform around stored s)
      (loadOrRenewIdentity platform around stored t) := by
  rw [loadOrRenewIdentity]
  refine twin_ite (fun _ => ?_) fun _ => require_stored_twin _ _ beside
  refine twin_bind (require_stored_twin _ _ beside) fun renewed _ _ beside => ?_
  exact twin_bind (persist_twin renewed beside) fun _ _ _ beside => ⟨rfl, beside⟩

theorem load_legacy_identity_twin (key certificate : List UInt8)
    (beside : SideBySide start start' s t) : Twin (SideBySide start start')
      (loadLegacyIdentity platform around key certificate s)
      (loadLegacyIdentity platform around key certificate t) := by
  rw [loadLegacyIdentity]
  exact twin_ite (fun _ => require_stored_twin _ _ beside) fun _ => require_stored_twin _ _ beside

theorem migrate_or_generate_twin (beside : SideBySide start start' s t) :
    Twin (SideBySide start start') (migrateOrGenerate platform around s)
      (migrateOrGenerate platform around t) := by
  rw [migrateOrGenerate]
  refine twin_bind (data_twin (by decide) beside) fun key _ _ beside => ?_
  refine twin_bind (data_twin (by decide) beside) fun certificate _ _ beside => ?_
  have kept : ∀ identity s' t', SideBySide start start' s' t' →
      Twin (SideBySide start start')
        ((persist platform around identity >>= fun _ => pure identity) s')
        ((persist platform around identity >>= fun _ => pure identity) t') :=
    fun identity _ _ beside =>
      twin_bind (persist_twin identity beside) fun _ _ _ beside => ⟨rfl, beside⟩
  cases key with
  | none =>
    cases certificate with
    | none => exact twin_bind (require_runtime_ok_twin _ _ beside) kept
    | some certificate => exact ⟨rfl, beside⟩
  | some key =>
    cases certificate with
    | none => exact ⟨rfl, beside⟩
    | some certificate => exact twin_bind (load_legacy_identity_twin _ _ beside) kept

theorem load_identity_twin (beside : SideBySide start start' s t) :
    Twin (SideBySide start start') (loadIdentity platform around s)
      (loadIdentity platform around t) := by
  rw [loadIdentity]
  refine twin_bind (data_twin (by decide) beside) fun found _ _ beside => ?_
  cases found with
  | none => exact migrate_or_generate_twin beside
  | some bytes =>
    exact twin_bind (require_stored_twin _ _ beside) fun stored _ _ beside =>
      load_or_renew_identity_twin stored beside

theorem apple_output_identity_twin (id : Uuid) (identity : RuntimeIdentity Key Certificate)
    (beside : SideBySide start start' s t) : Twin (SideBySide start start')
      (appleOutputIdentity platform id identity s)
      (appleOutputIdentity platform id identity t) := by
  rw [appleOutputIdentity]
  refine twin_bind (require_runtime_ok_twin _ _ beside) fun spki _ _ beside => ?_
  refine twin_bind (require_runtime_ok_twin _ _ beside) fun digest _ _ beside => ?_
  refine twin_bind (require_runtime_ok_twin _ _ beside) fun der _ _ beside => ?_
  cases Crypto.gmIdentityEncodePeerId digest.bytes with
  | ok peerId => exact ⟨rfl, beside⟩
  | error status => exact ⟨rfl, beside⟩

variable (platform around) in
/-- In stores with the same identity the manager does the same, and only to the identity. -/
theorem load_or_create_twin (beside : SideBySide start start' s t) :
    Twin (SideBySide start start') (loadOrCreate platform around s)
      (loadOrCreate platform around t) := by
  rw [loadOrCreate]
  refine twin_bind (load_or_create_server_id_twin beside) fun id _ _ beside => ?_
  refine twin_bind (load_identity_twin beside) fun identity _ _ beside => ?_
  exact apple_output_identity_twin id identity beside

end Manager

end GhostMedia.Security
