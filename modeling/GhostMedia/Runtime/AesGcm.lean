import GhostMedia.Foundation.StateLogic
import GhostMedia.Media.Header

/- AES-256-GCM of aes_gcm_provider.cpp behind its C interface in gm_runtime.cpp. The EVP
   calls of OpenSSL are a parameter: a reply to every call, given the calls made on the
   same context before it. Whatever they reply, a call that fails shows nothing. -/
namespace GhostMedia.Runtime
open CString Media StateLogic

/-- The calls on one cipher context, with what they read. -/
inductive EvpCall where
  | cipherCtxNew
  | encryptInitCipher
  | decryptInitCipher
  | ctrlSetIvLen (length : Nat)
  | encryptInitKey (key nonce : List UInt8)
  | decryptInitKey (key nonce : List UInt8)
  | encryptAad (aad : List UInt8)
  | decryptAad (aad : List UInt8)
  | encryptUpdate (plaintext : List UInt8)
  | decryptUpdate (ciphertext : List UInt8)
  | encryptFinal
  | decryptFinal
  | ctrlGetTag (size : Nat)
  | ctrlSetTag (tag : List UInt8)
  deriving DecidableEq

/-- The return value, where 1 also stands for a new context, the bytes written into the
    output buffer, and the length reported for them. -/
structure EvpReply where
  result : Int
  written : List UInt8
  done : Int
  deriving DecidableEq

abbrev Evp := List EvpCall → EvpCall → EvpReply

/-- The calls made so far, the output vector and the tag of a provider function. -/
structure Provider where
  calls : List EvpCall
  output : List UInt8
  tag : List UInt8
  deriving DecidableEq

abbrev Providing := EStateM GmStatus Provider

/-- `EVP` writes no further than the buffer it is given. -/
def overwrite (buffer written : List UInt8) : List UInt8 :=
  writeAt buffer 0 (written.take buffer.length)

/-- The two comparisons with `INT_MAX` are implied by the limits before them. -/
def validateCommon (key nonce aad payload tag : GmBytes) : Providing Unit :=
  if [key, nonce, aad, payload, tag].any fun value => !hasReadableData value then
    throw .badArgument
  else if key.size ≠ gmCryptoKeyBytes || nonce.size ≠ gmMediaNonceBytes ||
      tag.size ≠ gmMediaTagBytes || aad.size > gmMediaHeaderBytes ||
      payload.size > gmMediaMaxPayloadBytes.toNat then
    throw .badMessage
  else return ()

def ensure (status : GmStatus) (condition : Bool) : Providing Unit :=
  if condition then return () else throw status

/-- The condition that ends a function with its output cleared. -/
def ensureOrClear (status : GmStatus) (condition : Bool) : Providing Unit :=
  if condition then return ()
  else do
    modify fun provider => { provider with output := [] }
    throw status

section Provider
variable (evp : Evp)

def evpCall (call : EvpCall) : Providing EvpReply := fun provider =>
  .ok (evp provider.calls call) { provider with calls := provider.calls ++ [call] }

/-- A context with its cipher, nonce length, key and nonce. -/
def openContext (initCipher initKey : EvpCall) (nonce : GmBytes) : Providing Unit := do
  ensure .internal ((← evpCall evp .cipherCtxNew).result = 1)
  ensure .internal ((← evpCall evp initCipher).result = 1)
  ensure .internal ((← evpCall evp (.ctrlSetIvLen nonce.size)).result = 1)
  ensure .internal ((← evpCall evp initKey).result = 1)

def updateAad (update : EvpCall) (aad : GmBytes) : Providing Unit :=
  if aad.size ≠ 0 then do ensure .internal ((← evpCall evp update).result = 1) else return ()

/-- The output of an update, in a vector of zeros as long as its input. -/
def updateText (update : EvpCall) (input : GmBytes) : Providing Unit := do
  modify fun provider => { provider with output := List.replicate input.size 0 }
  if input.size ≠ 0 then
    let reply ← evpCall evp update
    modify fun provider => { provider with output := overwrite provider.output reply.written }
    ensureOrClear .internal (reply.result = 1 && reply.done = input.size)
  else return ()

def aes256GcmEncrypt (key nonce aad plaintext : GmBytes) : Providing Unit := do
  validateCommon key nonce aad plaintext (.view (List.replicate gmMediaTagBytes 0))
  openContext evp .encryptInitCipher (.encryptInitKey key.data nonce.data) nonce
  updateAad evp (.encryptAad aad.data) aad
  updateText evp (.encryptUpdate plaintext.data) plaintext
  let final ← evpCall evp .encryptFinal
  ensureOrClear .internal (final.result = 1 && final.done = 0)
  let tagged ← evpCall evp (.ctrlGetTag gmMediaTagBytes)
  modify fun provider => { provider with tag := overwrite provider.tag tagged.written }
  ensureOrClear .internal (tagged.result = 1)

def aes256GcmDecrypt (key nonce aad ciphertext tag : GmBytes) : Providing Unit := do
  validateCommon key nonce aad ciphertext tag
  openContext evp .decryptInitCipher (.decryptInitKey key.data nonce.data) nonce
  updateAad evp (.decryptAad aad.data) aad
  updateText evp (.decryptUpdate ciphertext.data) ciphertext
  ensureOrClear .internal ((← evpCall evp (.ctrlSetTag tag.data)).result = 1)
  let final ← evpCall evp .decryptFinal
  ensureOrClear .badMessage (final.result = 1)
  ensureOrClear .internal (final.done = 0)

end Provider

/-- A status with the caller's buffers after the call, and the EVP calls it made. -/
structure AeadOutcome where
  status : GmStatus
  output : GmBytes
  tag : GmBytes
  calls : List EvpCall
  deriving DecidableEq

/-- `std::memcpy` of a whole vector to the front of a buffer. -/
def copyTo (buffer : GmBytes) (bytes : List UInt8) : GmBytes :=
  match buffer with
  | .null size => .null size
  | .view data => .view (writeAt data 0 bytes)

section Interface
variable (evp : Evp)

def gmRuntimeAes256GcmEncrypt (key nonce aad plaintext ciphertext tag : GmBytes) : AeadOutcome :=
  if !hasReadableData ciphertext || tag.data = [] || ciphertext.size ≠ plaintext.size ||
      tag.size ≠ gmMediaTagBytes then
    ⟨.badArgument, ciphertext, tag, []⟩
  else
    match aes256GcmEncrypt evp key nonce aad plaintext
      ⟨[], [], List.replicate gmMediaTagBytes 0⟩ with
    | .ok _ provider =>
      let ciphertext :=
        if provider.output ≠ [] then copyTo ciphertext provider.output else ciphertext
      ⟨.ok, ciphertext, copyTo tag provider.tag, provider.calls⟩
    | .error status provider => ⟨status, ciphertext, tag, provider.calls⟩

def gmRuntimeAes256GcmDecrypt (key nonce aad ciphertext tag plaintext : GmBytes) : AeadOutcome :=
  if !hasReadableData plaintext || plaintext.size ≠ ciphertext.size then
    ⟨.badArgument, plaintext, tag, []⟩
  else
    match aes256GcmDecrypt evp key nonce aad ciphertext tag ⟨[], [], []⟩ with
    | .ok _ provider =>
      let plaintext :=
        if provider.output ≠ [] then copyTo plaintext provider.output else plaintext
      ⟨.ok, plaintext, tag, provider.calls⟩
    | .error status provider => ⟨status, plaintext, tag, provider.calls⟩

end Interface

section Traces
variable {evp : Evp}

/-- Every call was answered with 1. -/
def Succeeded (evp : Evp) (calls : List EvpCall) : Prop :=
  ∀ before call after, calls = before ++ call :: after → (evp before call).result = 1

def encryptSetup (key nonce aad : GmBytes) : List EvpCall :=
  [.cipherCtxNew, .encryptInitCipher, .ctrlSetIvLen nonce.size,
    .encryptInitKey key.data nonce.data] ++ if aad.size ≠ 0 then [.encryptAad aad.data] else []

def encryptText (plaintext : GmBytes) : List EvpCall :=
  if plaintext.size ≠ 0 then [.encryptUpdate plaintext.data] else []

def decryptSetup (key nonce aad : GmBytes) : List EvpCall :=
  [.cipherCtxNew, .decryptInitCipher, .ctrlSetIvLen nonce.size,
    .decryptInitKey key.data nonce.data] ++ if aad.size ≠ 0 then [.decryptAad aad.data] else []

def decryptText (ciphertext : GmBytes) : List EvpCall :=
  if ciphertext.size ≠ 0 then [.decryptUpdate ciphertext.data] else []

/-- All calls of an encryption, and of a decryption up to its tag check. -/
def encryptTrace (key nonce aad plaintext : GmBytes) : List EvpCall :=
  encryptSetup key nonce aad ++ encryptText plaintext ++
    [.encryptFinal, .ctrlGetTag gmMediaTagBytes]

def decryptTrace (key nonce aad ciphertext tag : GmBytes) : List EvpCall :=
  decryptSetup key nonce aad ++ decryptText ciphertext ++ [.ctrlSetTag tag.data, .decryptFinal]

theorem succeeded_nil : Succeeded evp [] := by
  intro before call after split
  simp at split

theorem succeeded_snoc {calls : List EvpCall} {call : EvpCall} (earlier : Succeeded evp calls)
    (now : (evp calls call).result = 1) : Succeeded evp (calls ++ [call]) := by
  intro before other after split
  rcases List.eq_nil_or_concat after with rfl | ⟨front, last, rfl⟩
  · obtain ⟨rfl, same⟩ := List.append_inj' split rfl
    cases same
    exact now
  · have longer : calls ++ [call] = (before ++ other :: front) ++ [last] := by simpa using split
    exact earlier before other front (List.append_inj' longer rfl).1

section Rules
variable {post : Unit → Provider → Prop} {failed : GmStatus → Provider → Prop} {s : Provider}
  {call : EvpCall}

theorem ends_call {f : EvpReply → Providing Unit}
    (next : Ends post failed (f (evp s.calls call) { s with calls := s.calls ++ [call] })) :
    Ends post failed ((evpCall evp call >>= f) s) := next

theorem ends_ensure {f : Unit → Providing Unit} {status : GmStatus} {condition : Bool}
    (refused : condition = false → failed status s)
    (next : condition = true → Ends post failed (f () s)) :
    Ends post failed ((ensure status condition >>= f) s) := by
  cases condition with
  | false => exact refused rfl
  | true => exact next rfl

theorem ends_ensure_or_clear {f : Unit → Providing Unit} {status : GmStatus} {condition : Bool}
    (refused : condition = false → failed status { s with output := [] })
    (next : condition = true → Ends post failed (f () s)) :
    Ends post failed ((ensureOrClear status condition >>= f) s) := by
  cases condition with
  | false => exact refused rfl
  | true => exact next rfl

theorem ends_modify {f : Unit → Providing Unit} {edit : Provider → Provider}
    (next : Ends post failed (f () (edit s))) :
    Ends post failed (((modify edit : Providing Unit) >>= f) s) := next

theorem ends_last {status : GmStatus} {condition : Bool}
    (refused : condition = false → failed status { s with output := [] })
    (next : condition = true → post () s) :
    Ends post failed (ensureOrClear status condition s) := by
  cases condition with
  | false => exact refused rfl
  | true => exact next rfl

end Rules

/-- The state after a piece that has made the calls `more`, each answered with 1. -/
def Advanced (evp : Evp) (s : Provider) (more : List EvpCall) (p : Provider) : Prop :=
  p.calls = s.calls ++ more ∧ Succeeded evp p.calls ∧ p.tag = s.tag

/-- A failure is reported as one. -/
def Refused (status : GmStatus) (_ : Provider) : Prop := status ≠ .ok

theorem validate_ends (key nonce aad payload tag : GmBytes) (s : Provider) :
    Ends (fun _ p => p = s) Refused (validateCommon key nonce aad payload tag s) := by
  unfold validateCommon
  apply ends_ite
  · exact fun _ => (by decide : GmStatus.badArgument ≠ .ok)
  · intro _
    apply ends_ite
    · exact fun _ => (by decide : GmStatus.badMessage ≠ .ok)
    · exact fun _ => rfl

theorem open_context_ends {initCipher initKey : EvpCall} {nonce : GmBytes} {s : Provider}
    (earlier : Succeeded evp s.calls) :
    Ends (fun _ => Advanced evp s [.cipherCtxNew, initCipher, .ctrlSetIvLen nonce.size, initKey])
      Refused (openContext evp initCipher initKey nonce s) := by
  have internal : GmStatus.internal ≠ .ok := by decide
  unfold openContext
  apply ends_call
  refine ends_ensure (fun _ => internal) fun first => ?_
  have made := succeeded_snoc earlier (of_decide_eq_true first)
  apply ends_call
  refine ends_ensure (fun _ => internal) fun second => ?_
  replace made := succeeded_snoc made (of_decide_eq_true second)
  apply ends_call
  refine ends_ensure (fun _ => internal) fun third => ?_
  replace made := succeeded_snoc made (of_decide_eq_true third)
  apply ends_call
  unfold ensure
  apply ends_ite
  · intro fourth
    replace made := succeeded_snoc made (of_decide_eq_true fourth)
    exact ⟨by simp, made, rfl⟩
  · exact fun _ => internal

theorem update_aad_ends {update : EvpCall} {aad : GmBytes} {s : Provider}
    (earlier : Succeeded evp s.calls) :
    Ends (fun _ => Advanced evp s (if aad.size ≠ 0 then [update] else [])) Refused
      (updateAad evp update aad s) := by
  have internal : GmStatus.internal ≠ .ok := by decide
  unfold updateAad
  by_cases present : aad.size ≠ 0
  · rw [if_pos present, if_pos present]
    apply ends_call
    unfold ensure
    apply ends_ite
    · intro answered
      exact ⟨rfl, succeeded_snoc earlier (of_decide_eq_true answered), rfl⟩
    · exact fun _ => internal
  · rw [if_neg present, if_neg present]
    exact ⟨by simp, by simpa using earlier, rfl⟩

theorem overwrite_length (buffer written : List UInt8) :
    (overwrite buffer written).length = buffer.length := by
  simp [overwrite, writeAt]

/-- What an update leaves in the vector: a text of the size of its input. -/
def updated (evp : Evp) (calls : List EvpCall) (update : EvpCall) (input : GmBytes) : List UInt8 :=
  if input.size ≠ 0 then overwrite (List.replicate input.size 0) (evp calls update).written else []

theorem update_text_ends {update : EvpCall} {input : GmBytes} {s : Provider}
    (earlier : Succeeded evp s.calls) :
    Ends
      (fun _ p => Advanced evp s (if input.size ≠ 0 then [update] else []) p ∧
        p.output = updated evp s.calls update input)
      Refused (updateText evp update input s) := by
  have internal : GmStatus.internal ≠ .ok := by decide
  unfold updateText updated
  apply ends_modify
  by_cases present : input.size ≠ 0
  · rw [if_pos present, if_pos present, if_pos present]
    apply ends_call
    apply ends_modify
    refine ends_last (fun _ => internal) fun answered => ?_
    rw [Bool.and_eq_true] at answered
    exact ⟨⟨rfl, succeeded_snoc earlier (of_decide_eq_true answered.1), rfl⟩, rfl⟩
  · rw [if_neg present, if_neg present, if_neg present]
    have empty : input.size = 0 := not_not.mp present
    exact ⟨⟨by simp, by simpa using earlier, rfl⟩, by simp [empty]⟩

theorem updated_length (evp : Evp) (calls : List EvpCall) (update : EvpCall) (input : GmBytes) :
    (updated evp calls update input).length = input.size := by
  unfold updated
  split
  · rw [overwrite_length, List.length_replicate]
  · rename_i empty
    exact (not_not.mp empty).symm

theorem encrypt_ends (evp : Evp) (key nonce aad plaintext : GmBytes) (tag : List UInt8) :
    Ends
      (fun _ p => p.calls = encryptTrace key nonce aad plaintext ∧ Succeeded evp p.calls ∧
        p.output = updated evp (encryptSetup key nonce aad) (.encryptUpdate plaintext.data)
          plaintext ∧
        p.tag = overwrite tag
          (evp (encryptSetup key nonce aad ++ encryptText plaintext ++ [.encryptFinal])
            (.ctrlGetTag gmMediaTagBytes)).written)
      Refused (aes256GcmEncrypt evp key nonce aad plaintext ⟨[], [], tag⟩) := by
  have internal : GmStatus.internal ≠ .ok := by decide
  unfold aes256GcmEncrypt
  apply ends_bind (validate_ends _ _ _ _ _ _)
  rintro _ _ rfl
  apply ends_bind (open_context_ends succeeded_nil)
  rintro _ s₁ ⟨calls₁, made₁, tag₁⟩
  apply ends_bind (update_aad_ends made₁)
  rintro _ s₂ ⟨calls₂, made₂, tag₂⟩
  apply ends_bind (update_text_ends made₂)
  rintro _ s₃ ⟨⟨calls₃, made₃, tag₃⟩, output⟩
  apply ends_call
  refine ends_ensure_or_clear (fun _ => internal) fun answered => ?_
  rw [Bool.and_eq_true] at answered
  have made₄ := succeeded_snoc made₃ (of_decide_eq_true answered.1)
  apply ends_call
  apply ends_modify
  refine ends_last (fun _ => internal) fun tagged => ?_
  have made₅ := succeeded_snoc made₄ (of_decide_eq_true tagged)
  have setup : s₂.calls = encryptSetup key nonce aad := by
    rw [calls₂, calls₁]
    rfl
  have text : s₃.calls = encryptSetup key nonce aad ++ encryptText plaintext := by
    rw [calls₃, setup]
    rfl
  refine ⟨by simp [encryptTrace, text], made₅, by rw [output, setup], ?_⟩
  simp only [text, tag₃, tag₂, tag₁]

theorem decrypt_ends (evp : Evp) (key nonce aad ciphertext tag : GmBytes) :
    Ends
      (fun _ p => p.calls = decryptTrace key nonce aad ciphertext tag ∧ Succeeded evp p.calls ∧
        p.output = updated evp (decryptSetup key nonce aad) (.decryptUpdate ciphertext.data)
          ciphertext)
      Refused (aes256GcmDecrypt evp key nonce aad ciphertext tag ⟨[], [], []⟩) := by
  have internal : GmStatus.internal ≠ .ok := by decide
  have forged : GmStatus.badMessage ≠ .ok := by decide
  unfold aes256GcmDecrypt
  apply ends_bind (validate_ends _ _ _ _ _ _)
  rintro _ _ rfl
  apply ends_bind (open_context_ends succeeded_nil)
  rintro _ s₁ ⟨calls₁, made₁, _⟩
  apply ends_bind (update_aad_ends made₁)
  rintro _ s₂ ⟨calls₂, made₂, _⟩
  apply ends_bind (update_text_ends made₂)
  rintro _ s₃ ⟨⟨calls₃, made₃, _⟩, output⟩
  apply ends_call
  refine ends_ensure_or_clear (fun _ => internal) fun tagged => ?_
  have made₄ := succeeded_snoc made₃ (of_decide_eq_true tagged)
  apply ends_call
  refine ends_ensure_or_clear (fun _ => forged) fun checked => ?_
  have made₅ := succeeded_snoc made₄ (of_decide_eq_true checked)
  refine ends_last (fun _ => internal) fun _ => ?_
  have setup : s₂.calls = decryptSetup key nonce aad := by
    rw [calls₂, calls₁]
    rfl
  have text : s₃.calls = decryptSetup key nonce aad ++ decryptText ciphertext := by
    rw [calls₃, setup]
    rfl
  exact ⟨by simp [decryptTrace, text], made₅, by rw [output, setup]⟩

/-- A whole vector of the buffer's size replaces all of it. -/
theorem copyTo_whole {buffer : GmBytes} {bytes : List UInt8}
    (readable : hasReadableData buffer = true) (fits : bytes.length = buffer.size) :
    (if bytes ≠ [] then copyTo buffer bytes else buffer).data = bytes := by
  cases buffer with
  | null size =>
    have none : size = 0 := by simpa [hasReadableData] using readable
    have empty : bytes = [] := List.eq_nil_of_length_eq_zero (fits.trans none)
    simp [empty, GmBytes.data]
  | view data =>
    have enough : data.length ≤ bytes.length := fits.ge
    by_cases present : bytes ≠ []
    · rw [if_pos present]
      simpa [copyTo, writeAt] using enough
    · have empty : bytes = [] := not_not.mp present
      rw [if_neg present, empty]
      exact List.eq_nil_of_length_eq_zero (by simpa [empty] using fits.symm)

/-- The bytes an encryption takes from its context. -/
def ciphertextOf (evp : Evp) (key nonce aad plaintext : GmBytes) : List UInt8 :=
  updated evp (encryptSetup key nonce aad) (.encryptUpdate plaintext.data) plaintext

def tagOf (evp : Evp) (key nonce aad plaintext : GmBytes) : List UInt8 :=
  overwrite (List.replicate gmMediaTagBytes 0)
    (evp (encryptSetup key nonce aad ++ encryptText plaintext ++ [.encryptFinal])
      (.ctrlGetTag gmMediaTagBytes)).written

/-- The bytes a decryption takes from its context. -/
def plaintextOf (evp : Evp) (key nonce aad ciphertext : GmBytes) : List UInt8 :=
  updated evp (decryptSetup key nonce aad) (.decryptUpdate ciphertext.data) ciphertext

theorem decrypt_outcome (evp : Evp) (key nonce aad ciphertext tag plaintext : GmBytes)
    (outcome : AeadOutcome)
    (made : gmRuntimeAes256GcmDecrypt evp key nonce aad ciphertext tag plaintext = outcome) :
    (outcome.status = .ok →
      outcome.calls = decryptTrace key nonce aad ciphertext tag ∧
        Succeeded evp outcome.calls ∧
        outcome.output.data = plaintextOf evp key nonce aad ciphertext) ∧
    (outcome.status ≠ .ok → outcome.output = plaintext) := by
  have ends := decrypt_ends evp key nonce aad ciphertext tag
  unfold gmRuntimeAes256GcmDecrypt at made
  split at made
  · subst made
    exact ⟨fun done => (by cases done), fun _ => rfl⟩
  · rename_i valid
    rw [Bool.or_eq_true, not_or, Bool.not_eq_true', Bool.not_eq_false, decide_eq_true_eq,
      not_not] at valid
    split at made
    · rename_i run
      rw [run] at ends
      obtain ⟨calls, succeeded, output⟩ := ends
      subst made
      refine ⟨fun _ => ⟨calls, succeeded, ?_⟩, fun failed => absurd rfl failed⟩
      rw [← plaintextOf] at output
      have fits : (plaintextOf evp key nonce aad ciphertext).length = plaintext.size :=
        (updated_length _ _ _ _).trans valid.2.symm
      rw [output]
      exact copyTo_whole valid.1 fits
    · rename_i run
      rw [run] at ends
      subst made
      exact ⟨fun done => absurd done ends, fun _ => rfl⟩

theorem encrypt_outcome (evp : Evp) (key nonce aad plaintext ciphertext tag : GmBytes)
    (outcome : AeadOutcome)
    (made : gmRuntimeAes256GcmEncrypt evp key nonce aad plaintext ciphertext tag = outcome) :
    (outcome.status ≠ .ok → outcome.output = ciphertext ∧ outcome.tag = tag) ∧
    (outcome.status = .ok →
      outcome.calls = encryptTrace key nonce aad plaintext ∧ Succeeded evp outcome.calls ∧
        outcome.output.data = ciphertextOf evp key nonce aad plaintext ∧
        outcome.tag = .view (tagOf evp key nonce aad plaintext)) := by
  have ends := encrypt_ends evp key nonce aad plaintext (List.replicate gmMediaTagBytes 0)
  unfold gmRuntimeAes256GcmEncrypt at made
  split at made
  · subst made
    exact ⟨fun _ => ⟨rfl, rfl⟩, fun done => by cases done⟩
  · rename_i valid
    simp only [Bool.or_eq_true, not_or, Bool.not_eq_true', Bool.not_eq_false, decide_eq_true_eq,
      ne_eq, not_not] at valid
    obtain ⟨⟨⟨readable, present⟩, fits⟩, sized⟩ := valid
    split at made
    · rename_i run
      rw [run] at ends
      obtain ⟨calls, succeeded, output, tagged⟩ := ends
      subst made
      refine ⟨fun failed => absurd rfl failed, fun _ => ⟨calls, succeeded, ?_, ?_⟩⟩
      · rw [← ciphertextOf] at output
        rw [output]
        exact copyTo_whole readable ((updated_length _ _ _ _).trans fits.symm)
      · rw [← tagOf] at tagged
        rw [tagged]
        have whole : (tagOf evp key nonce aad plaintext).length = gmMediaTagBytes := by
          rw [tagOf, overwrite_length, List.length_replicate]
        cases tag with
        | null size => exact absurd rfl present
        | view data =>
          have enough : data.length ≤ (tagOf evp key nonce aad plaintext).length :=
            (sized.trans whole.symm).le
          simp [copyTo, writeAt, enough]
    · rename_i run
      rw [run] at ends
      subst made
      exact ⟨fun _ => ⟨rfl, rfl⟩, fun done => absurd done ends⟩

/-- A plaintext appears only after its tag check has succeeded, and a failed call leaves
    the caller's buffers as they were. -/
theorem aead_calls_all_or_nothing (evp : Evp) :
    (∀ key nonce aad ciphertext tag plaintext outcome,
      gmRuntimeAes256GcmDecrypt evp key nonce aad ciphertext tag plaintext = outcome →
      (outcome.status = .ok →
        outcome.calls = decryptTrace key nonce aad ciphertext tag ∧
          (evp (decryptSetup key nonce aad ++ decryptText ciphertext ++ [.ctrlSetTag tag.data])
            .decryptFinal).result = 1 ∧
          Succeeded evp outcome.calls) ∧
      (outcome.status ≠ .ok → outcome.output = plaintext)) ∧
    ∀ key nonce aad plaintext ciphertext tag outcome,
      gmRuntimeAes256GcmEncrypt evp key nonce aad plaintext ciphertext tag = outcome →
      (outcome.status ≠ .ok → outcome.output = ciphertext ∧ outcome.tag = tag) ∧
      (outcome.status = .ok →
        outcome.output.data = ciphertextOf evp key nonce aad plaintext ∧
          outcome.output.data.length = plaintext.size ∧
          outcome.tag = .view (tagOf evp key nonce aad plaintext) ∧
          outcome.tag.size = gmMediaTagBytes) := by
  constructor
  · intro key nonce aad ciphertext tag plaintext outcome made
    obtain ⟨accepted, refused⟩ := decrypt_outcome evp _ _ _ _ _ _ _ made
    refine ⟨fun done => ?_, refused⟩
    obtain ⟨calls, succeeded, _⟩ := accepted done
    refine ⟨calls, ?_, succeeded⟩
    apply succeeded _ _ []
    simp [calls, decryptTrace]
  · intro key nonce aad plaintext ciphertext tag outcome made
    obtain ⟨refused, accepted⟩ := encrypt_outcome evp _ _ _ _ _ _ _ made
    refine ⟨refused, fun done => ?_⟩
    obtain ⟨_, _, output, tagged⟩ := accepted done
    refine ⟨output, ?_, tagged, ?_⟩
    · rw [output, ciphertextOf, updated_length]
    · rw [tagged, GmBytes.size, tagOf, overwrite_length, List.length_replicate]

end Traces

end GhostMedia.Runtime
