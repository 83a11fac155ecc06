import GhostMedia.Runtime.AesGcm

/- What the AES-256-GCM calls compute when the EVP calls under them perform an
   authenticated cipher, which is a parameter. -/
namespace GhostMedia.Runtime
open CString Media StateLogic

/-- The sizes that `validate_common` lets through. -/
structure WithinLimits (key nonce aad payload : List UInt8) : Prop where
  key : key.length = gmCryptoKeyBytes
  nonce : nonce.length = gmMediaNonceBytes
  aad : aad.length ≤ gmMediaHeaderBytes
  payload : payload.length ≤ gmMediaMaxPayloadBytes.toNat

/-- An authenticated cipher whose decryption inverts its encryption. -/
structure Aead where
  enc : (key nonce aad plaintext : List UInt8) → List UInt8 × List UInt8
  dec : (key nonce aad ciphertext tag : List UInt8) → Option (List UInt8)
  round_trip : ∀ {key nonce aad plaintext}, WithinLimits key nonce aad plaintext →
    dec key nonce aad (enc key nonce aad plaintext).1 (enc key nonce aad plaintext).2 =
      some plaintext
  ciphertext_length : ∀ {key nonce aad plaintext}, WithinLimits key nonce aad plaintext →
    (enc key nonce aad plaintext).1.length = plaintext.length
  tag_length : ∀ {key nonce aad plaintext}, WithinLimits key nonce aad plaintext →
    (enc key nonce aad plaintext).2.length = gmMediaTagBytes
  plaintext_length : ∀ {key nonce aad ciphertext tag plaintext},
    WithinLimits key nonce aad ciphertext → dec key nonce aad ciphertext tag = some plaintext →
      plaintext.length = ciphertext.length

/-- The EVP calls as documented: set-up calls return 1, an update writes as many bytes as it
    reads, the final call of a decryption returns 1 for an authentic text only. -/
structure Performs (evp : Evp) (aead : Aead) : Prop where
  encryptOpens : ∀ {key nonce aad text}, WithinLimits key nonce aad text →
    Succeeded evp (encryptSetup (.view key) (.view nonce) (.view aad))
  encryptUpdates : ∀ {key nonce aad text}, WithinLimits key nonce aad text → text ≠ [] →
    evp (encryptSetup (.view key) (.view nonce) (.view aad)) (.encryptUpdate text) =
      ⟨1, (aead.enc key nonce aad text).1, text.length⟩
  encryptEnds : ∀ {key nonce aad text}, WithinLimits key nonce aad text →
    evp (encryptSetup (.view key) (.view nonce) (.view aad) ++ encryptText (.view text))
      .encryptFinal = ⟨1, [], 0⟩
  getsTag : ∀ {key nonce aad text}, WithinLimits key nonce aad text →
    evp (encryptSetup (.view key) (.view nonce) (.view aad) ++ encryptText (.view text) ++
      [.encryptFinal]) (.ctrlGetTag gmMediaTagBytes) = ⟨1, (aead.enc key nonce aad text).2, 0⟩
  decryptOpens : ∀ {key nonce aad text}, WithinLimits key nonce aad text →
    Succeeded evp (decryptSetup (.view key) (.view nonce) (.view aad))
  decryptUpdates : ∀ {key nonce aad text}, WithinLimits key nonce aad text → text ≠ [] →
    ∃ written, evp (decryptSetup (.view key) (.view nonce) (.view aad)) (.decryptUpdate text) =
        ⟨1, written, text.length⟩ ∧
      ∀ tag plaintext, aead.dec key nonce aad text tag = some plaintext → written = plaintext
  setsTag : ∀ {key nonce aad text tag}, WithinLimits key nonce aad text →
    tag.length = gmMediaTagBytes →
      (evp (decryptSetup (.view key) (.view nonce) (.view aad) ++ decryptText (.view text))
        (.ctrlSetTag tag)).result = 1
  decryptEnds : ∀ {key nonce aad text tag}, WithinLimits key nonce aad text →
    tag.length = gmMediaTagBytes →
      ∃ result, evp (decryptSetup (.view key) (.view nonce) (.view aad) ++
          decryptText (.view text) ++ [.ctrlSetTag tag]) .decryptFinal = ⟨result, [], 0⟩ ∧
        (result = 1 ↔ (aead.dec key nonce aad text tag).isSome)

section Runs
variable {evp : Evp} {s : Provider}

theorem call_run (call : EvpCall) (s : Provider) :
    evpCall evp call s = .ok (evp s.calls call) { s with calls := s.calls ++ [call] } := rfl

theorem ensure_run {α : Type} {status : GmStatus} {condition : Bool} {rest : Providing α}
    (met : condition = true) : (ensure status condition >>= fun _ => rest) s = rest s := by
  rw [met]
  rfl

theorem open_context_run {initCipher initKey : EvpCall} {nonce : GmBytes}
    (answered : Succeeded evp
      (s.calls ++ [.cipherCtxNew, initCipher, .ctrlSetIvLen nonce.size, initKey])) :
    openContext evp initCipher initKey nonce s =
      .ok () { s with calls :=
        s.calls ++ [.cipherCtxNew, initCipher, .ctrlSetIvLen nonce.size, initKey] } := by
  have first := answered s.calls .cipherCtxNew [initCipher, .ctrlSetIvLen nonce.size, initKey] rfl
  have second := answered (s.calls ++ [.cipherCtxNew]) initCipher
    [.ctrlSetIvLen nonce.size, initKey] (by simp)
  have third := answered (s.calls ++ [.cipherCtxNew, initCipher]) (.ctrlSetIvLen nonce.size)
    [initKey] (by simp)
  have fourth := answered (s.calls ++ [.cipherCtxNew, initCipher, .ctrlSetIvLen nonce.size])
    initKey [] (by simp)
  unfold openContext
  rw [bind_ok (call_run _ s), ensure_run (decide_eq_true first)]
  rw [bind_ok (call_run _ _), ensure_run (by simpa using second)]
  rw [bind_ok (call_run _ _), ensure_run (by simpa using third)]
  rw [bind_ok (call_run _ _)]
  simp [ensure, fourth, pure, EStateM.pure]

theorem update_aad_run {update : EvpCall} {aad : GmBytes}
    (answered : Succeeded evp (s.calls ++ if aad.size ≠ 0 then [update] else [])) :
    updateAad evp update aad s =
      .ok () { s with calls := s.calls ++ if aad.size ≠ 0 then [update] else [] } := by
  unfold updateAad
  by_cases present : aad.size ≠ 0
  · rw [if_pos present] at answered ⊢
    have reply := answered s.calls update [] rfl
    rw [bind_ok (call_run _ s), if_pos present]
    simp [ensure, reply, pure, EStateM.pure]
  · rw [if_neg present, if_neg present, List.append_nil]
    rfl

theorem update_text_run {update : EvpCall} {input : GmBytes}
    (answered : input.size ≠ 0 →
      (evp s.calls update).result = 1 ∧ (evp s.calls update).done = input.size) :
    updateText evp update input s =
      .ok () { s with
        calls := s.calls ++ if input.size ≠ 0 then [update] else []
        output := updated evp s.calls update input } := by
  unfold updateText updated
  by_cases present : input.size ≠ 0
  · obtain ⟨result, done⟩ := answered present
    simp only [if_pos present]
    change ensureOrClear .internal _ _ = _
    simp [ensureOrClear, result, done, pure, EStateM.pure, overwrite]
  · have empty : List.replicate input.size (0 : UInt8) = [] := by simpa using present
    rw [if_neg present, if_neg present, if_neg present, List.append_nil, empty]
    rfl

theorem validate_run {key nonce aad payload tag : List UInt8}
    (limits : WithinLimits key nonce aad payload) (tagSize : tag.length = gmMediaTagBytes) :
    validateCommon (.view key) (.view nonce) (.view aad) (.view payload) (.view tag) s =
      .ok () s := by
  have aadFits : ¬ aad.length > gmMediaHeaderBytes := Nat.not_lt.mpr limits.aad
  have payloadFits : ¬ 1420 < payload.length := Nat.not_lt.mpr limits.payload
  simp [validateCommon, limits.key, limits.nonce, tagSize, aadFits, payloadFits, pure,
    EStateM.pure]

end Runs

/-- A payload beyond the limit is refused before any EVP call. -/
theorem encrypt_refuses (evp : Evp) {key nonce aad text ciphertext tag : GmBytes}
    (large : gmMediaMaxPayloadBytes.toNat < text.size) :
    (gmRuntimeAes256GcmEncrypt evp key nonce aad text ciphertext tag).status ≠ .ok := by
  have refused : Ends (fun _ _ => False) Refused (aes256GcmEncrypt evp key nonce aad text
      ⟨[], [], List.replicate gmMediaTagBytes 0⟩) := by
    unfold aes256GcmEncrypt
    refine ends_bind (?_ : Ends (fun _ _ => False) Refused _) ?_
    · unfold validateCommon
      apply ends_ite
      · exact fun _ => (by decide : GmStatus.badArgument ≠ .ok)
      · intro _
        apply ends_ite
        · exact fun _ => (by decide : GmStatus.badMessage ≠ .ok)
        · intro fits
          rw [Bool.or_eq_true, not_or] at fits
          exact fits.2 (decide_eq_true large)
    · exact fun _ _ never => never.elim
  unfold gmRuntimeAes256GcmEncrypt
  split
  · exact (by decide : GmStatus.badArgument ≠ .ok)
  · cases run : aes256GcmEncrypt evp key nonce aad text
      ⟨[], [], List.replicate gmMediaTagBytes 0⟩ with
    | ok _ _ =>
      rw [run] at refused
      exact refused.elim
    | error _ _ =>
      rw [run] at refused
      exact refused

theorem succeeded_front {evp : Evp} {front back : List EvpCall}
    (all : Succeeded evp (front ++ back)) : Succeeded evp front := by
  rintro before call after rfl
  exact all before call (after ++ back) (by simp)

theorem overwrite_whole {buffer written : List UInt8} (fits : written.length = buffer.length) :
    overwrite buffer written = written := by
  have all : written.take buffer.length = written := List.take_of_length_le fits.le
  simp [overwrite, writeAt, all, fits]

section Performing
variable {evp : Evp} {aead : Aead} {key nonce aad text tag : List UInt8}

theorem ciphertext_performed (performs : Performs evp aead)
    (limits : WithinLimits key nonce aad text) :
    ciphertextOf evp (.view key) (.view nonce) (.view aad) (.view text) =
      (aead.enc key nonce aad text).1 := by
  have size := aead.ciphertext_length limits
  unfold ciphertextOf updated
  by_cases present : text ≠ []
  · have nonzero : (GmBytes.view text).size ≠ 0 := by simpa using present
    rw [if_pos nonzero, view_data, performs.encryptUpdates limits present]
    exact overwrite_whole (by simpa using size)
  · have empty : text = [] := not_not.mp present
    rw [empty] at size ⊢
    exact (List.eq_nil_of_length_eq_zero size).symm

theorem tag_performed (performs : Performs evp aead)
    (limits : WithinLimits key nonce aad text) :
    tagOf evp (.view key) (.view nonce) (.view aad) (.view text) =
      (aead.enc key nonce aad text).2 := by
  rw [tagOf, performs.getsTag limits]
  exact overwrite_whole (by simpa using aead.tag_length limits)

theorem encrypt_runs (performs : Performs evp aead) (limits : WithinLimits key nonce aad text) :
    Ends (fun _ _ => True) (fun _ _ => False)
      (aes256GcmEncrypt evp (.view key) (.view nonce) (.view aad) (.view text)
        ⟨[], [], List.replicate gmMediaTagBytes 0⟩) := by
  have opens := performs.encryptOpens limits
  have update : (GmBytes.view text).size ≠ 0 →
      (evp (encryptSetup (.view key) (.view nonce) (.view aad)) (.encryptUpdate text)).result = 1 ∧
        (evp (encryptSetup (.view key) (.view nonce) (.view aad)) (.encryptUpdate text)).done =
          (GmBytes.view text).size := by
    intro nonzero
    rw [performs.encryptUpdates limits (by simpa using nonzero)]
    exact ⟨rfl, rfl⟩
  have final := performs.encryptEnds limits
  have answered := congrArg EvpReply.result final
  have ended := congrArg EvpReply.done final
  have tagged := congrArg EvpReply.result (performs.getsTag limits)
  unfold aes256GcmEncrypt
  rw [bind_ok (validate_run limits List.length_replicate)]
  rw [bind_ok (open_context_run (succeeded_front opens))]
  rw [bind_ok (update_aad_run opens)]
  rw [bind_ok (update_text_run update)]
  apply ends_call
  refine ends_ensure_or_clear (fun refused => ?_) fun _ => ?_
  · rw [Bool.and_eq_false_iff] at refused
    exact refused.elim (of_decide_eq_false · answered) (of_decide_eq_false · ended)
  apply ends_call
  apply ends_modify
  exact ends_last (fun refused => of_decide_eq_false refused tagged) fun _ => trivial

theorem decrypt_runs (performs : Performs evp aead) (limits : WithinLimits key nonce aad text)
    (tagSize : tag.length = gmMediaTagBytes)
    (authentic : (aead.dec key nonce aad text tag).isSome) :
    Ends (fun _ _ => True) (fun _ _ => False)
      (aes256GcmDecrypt evp (.view key) (.view nonce) (.view aad) (.view text) (.view tag)
        ⟨[], [], []⟩) := by
  have opens := performs.decryptOpens limits
  have update : (GmBytes.view text).size ≠ 0 →
      (evp (decryptSetup (.view key) (.view nonce) (.view aad)) (.decryptUpdate text)).result = 1 ∧
        (evp (decryptSetup (.view key) (.view nonce) (.view aad)) (.decryptUpdate text)).done =
          (GmBytes.view text).size := by
    intro nonzero
    obtain ⟨_, reply, _⟩ := performs.decryptUpdates limits (by simpa using nonzero)
    rw [reply]
    exact ⟨rfl, rfl⟩
  have sets := performs.setsTag limits tagSize
  obtain ⟨result, final, accepts⟩ := performs.decryptEnds limits tagSize
  rw [accepts.mpr authentic] at final
  have checked := congrArg EvpReply.result final
  have ended := congrArg EvpReply.done final
  unfold aes256GcmDecrypt
  rw [bind_ok (validate_run limits tagSize)]
  rw [bind_ok (open_context_run (succeeded_front opens))]
  rw [bind_ok (update_aad_run opens)]
  rw [bind_ok (update_text_run update)]
  apply ends_call
  refine ends_ensure_or_clear (fun refused => of_decide_eq_false refused sets) ?_
  intro _
  apply ends_call
  refine ends_ensure_or_clear (fun refused => of_decide_eq_false refused checked) ?_
  intro _
  exact ends_last (fun refused => of_decide_eq_false refused ended) fun _ => trivial

/-- An encryption within the limits succeeds and delivers the cipher's texts. -/
theorem encrypt_performed (performs : Performs evp aead)
    (limits : WithinLimits key nonce aad text) {ciphertext : List UInt8}
    (fits : ciphertext.length = text.length) (tagSize : tag.length = gmMediaTagBytes)
    {outcome : AeadOutcome}
    (made : gmRuntimeAes256GcmEncrypt evp (.view key) (.view nonce) (.view aad) (.view text)
      (.view ciphertext) (.view tag) = outcome) :
    outcome.status = .ok ∧ outcome.output.data = (aead.enc key nonce aad text).1 ∧
      outcome.tag = .view (aead.enc key nonce aad text).2 := by
  obtain ⟨_, done⟩ := encrypt_outcome evp _ _ _ _ _ _ _ made
  have runs := encrypt_runs performs limits
  have present : tag ≠ [] := by
    rintro rfl
    cases tagSize
  have ok : outcome.status = .ok := by
    unfold gmRuntimeAes256GcmEncrypt at made
    rw [if_neg (by simp [present, fits, tagSize])] at made
    cases run : aes256GcmEncrypt evp (.view key) (.view nonce) (.view aad) (.view text)
      ⟨[], [], List.replicate gmMediaTagBytes 0⟩ with
    | ok _ _ =>
      rw [run] at made
      rw [← made]
    | error _ _ =>
      rw [run] at runs
      exact runs.elim
  obtain ⟨_, _, output, tagged⟩ := done ok
  rw [ciphertext_performed performs limits] at output
  rw [tag_performed performs limits] at tagged
  exact ⟨ok, output, tagged⟩

theorem plaintext_performed (performs : Performs evp aead)
    (limits : WithinLimits key nonce aad text) {plaintext : List UInt8}
    (authentic : aead.dec key nonce aad text tag = some plaintext) :
    plaintextOf evp (.view key) (.view nonce) (.view aad) (.view text) = plaintext := by
  have size := aead.plaintext_length limits authentic
  unfold plaintextOf updated
  by_cases present : text ≠ []
  · have nonzero : (GmBytes.view text).size ≠ 0 := by simpa using present
    obtain ⟨written, reply, same⟩ := performs.decryptUpdates limits present
    rw [if_pos nonzero, view_data, reply, same tag plaintext authentic]
    exact overwrite_whole (by simpa using size)
  · have empty : text = [] := not_not.mp present
    rw [empty] at size ⊢
    exact (List.eq_nil_of_length_eq_zero size).symm

/-- A decryption within the limits succeeds for the texts that the cipher accepts, and
    delivers what the cipher does. -/
theorem decrypt_performed (performs : Performs evp aead)
    (limits : WithinLimits key nonce aad text) {buffer : List UInt8}
    (fits : buffer.length = text.length) (tagSize : tag.length = gmMediaTagBytes)
    {outcome : AeadOutcome}
    (made : gmRuntimeAes256GcmDecrypt evp (.view key) (.view nonce) (.view aad) (.view text)
      (.view tag) (.view buffer) = outcome) (plaintext : List UInt8) :
    outcome.status = .ok ∧ outcome.output.data = plaintext ↔
      aead.dec key nonce aad text tag = some plaintext := by
  obtain ⟨done, _⟩ := decrypt_outcome evp _ _ _ _ _ _ _ made
  obtain ⟨result, final, accepts⟩ := performs.decryptEnds limits tagSize
  constructor
  · rintro ⟨ok, rfl⟩
    obtain ⟨calls, succeeded, output⟩ := done ok
    have checked := succeeded (decryptSetup (.view key) (.view nonce) (.view aad) ++
      decryptText (.view text) ++ [.ctrlSetTag tag]) .decryptFinal [] (by
        simp [calls, decryptTrace])
    rw [final] at checked
    obtain ⟨plaintext, authentic⟩ := Option.isSome_iff_exists.mp (accepts.mp checked)
    rw [authentic, output, plaintext_performed performs limits authentic]
  · intro authentic
    have runs := decrypt_runs performs limits tagSize (by rw [authentic]; rfl)
    have ok : outcome.status = .ok := by
      unfold gmRuntimeAes256GcmDecrypt at made
      rw [if_neg (by simp [fits])] at made
      cases run : aes256GcmDecrypt evp (.view key) (.view nonce) (.view aad) (.view text)
        (.view tag) ⟨[], [], []⟩ with
      | ok _ _ =>
        rw [run] at made
        rw [← made]
      | error _ _ =>
        rw [run] at runs
        exact runs.elim
    obtain ⟨_, _, output⟩ := done ok
    exact ⟨ok, by rw [output, plaintext_performed performs limits authentic]⟩

end Performing

end GhostMedia.Runtime
