import GhostMedia.Core.Crypto
import GhostMedia.Media.Header
import GhostMedia.Foundation.CheckedMemory
import GhostMedia.Foundation.Base32

/- `gm_identity_encode_peer_id` with its output buffer: a peer id is the base 32 text
   of the digest. Reads of the alphabet, writes to the output and shifts of the
   accumulator are checked; nothing clears the bits of the accumulator already used. -/
namespace GhostMedia.Crypto
open Checked Media BitStrings

structure PeerIdState where
  output : List UInt8
  outputIndex : Nat
  bitBuffer : UInt32
  bitsAvailable : Nat

/-- `output.data[output_index++] = kPeerIdAlphabet[bits & 0x1f]`. -/
def putPeerIdDigit (bits : UInt32) (state : PeerIdState) : Option PeerIdState := do
  let character ← load kPeerIdAlphabet (bits &&& 0x1f).toNat
  let output ← store state.output state.outputIndex character
  return { state with output := output, outputIndex := state.outputIndex + 1 }

/-- The `while` loop over the complete groups of five bits. -/
def drainPeerIdBits (state : PeerIdState) : Nat → Option PeerIdState
  | bitsAvailable + 5 => do
    let bits ← shifted 32 bitsAvailable (state.bitBuffer >>> UInt32.ofNat bitsAvailable)
    let state ← putPeerIdDigit bits state
    drainPeerIdBits state bitsAvailable
  | bitsAvailable => some { state with bitsAvailable := bitsAvailable }

def encodePeerIdBytes (state : PeerIdState) : List UInt8 → Option PeerIdState
  | [] => some state
  | byte :: input => do
    let bitBuffer := (state.bitBuffer <<< 8) ||| byte.toUInt32
    let state ← drainPeerIdBits { state with bitBuffer := bitBuffer } (state.bitsAvailable + 8)
    encodePeerIdBytes state input

def flushPeerIdBits (state : PeerIdState) : Option PeerIdState :=
  if state.bitsAvailable ≠ 0 then do
    let bits ← shifted 32 (5 - state.bitsAvailable)
      (state.bitBuffer <<< UInt32.ofNat (5 - state.bitsAvailable))
    putPeerIdDigit bits state
  else some state

/-- No result stands for a call that leaves the buffers or shifts too far. -/
def gmIdentityEncodePeerIdInto (spkiDigest output : GmBytes) : Option EncodeResult :=
  if !hasReadableData spkiDigest || !hasReadableData output then
    some ⟨.badArgument, output, none⟩
  else
    let written := gmPeerIdBase32Bytes + 1
    if spkiDigest.size ≠ gmSpkiDigestBytes then some ⟨.badMessage, output, some written⟩
    else if output.size < gmPeerIdBase32Bytes + 1 then
      some ⟨.bufferTooSmall, output, some written⟩
    else
      match output with
      | .null _ => some ⟨.badArgument, output, some written⟩
      | .view data => do
        let state ← encodePeerIdBytes ⟨data, 0, 0, 0⟩ spkiDigest.data
        let state ← flushPeerIdBits state
        let data ← store state.output state.outputIndex 0
        let status := if state.outputIndex = gmPeerIdBase32Bytes then .ok else .internal
        return ⟨status, .view data, some written⟩

theorem alphabet_symbol {v : Nat} (small : v < 32) :
    load kPeerIdAlphabet v = some (Base32.symbol v) := by
  have table : ∀ i : Fin 32, load kPeerIdAlphabet i = some (Base32.symbol i) := by decide
  exact table ⟨v, small⟩

theorem low_five (bits : UInt32) : (bits &&& 0x1f).toNat = bits.toNat % 32 :=
  Nat.and_two_pow_sub_one_eq_mod bits.toNat 5

/-- The state once `text` stands at the front of the buffer `data`. -/
def textState (data text : List UInt8) (bitBuffer : UInt32) (bitsAvailable : Nat) :
    PeerIdState :=
  ⟨text ++ data.drop text.length, text.length, bitBuffer, bitsAvailable⟩

@[simp] theorem text_state_available (data text : List UInt8) (acc : UInt32) (n : Nat) :
    (textState data text acc n).bitsAvailable = n := rfl

@[simp] theorem text_state_buffer (data text : List UInt8) (acc : UInt32) (n : Nat) :
    (textState data text acc n).bitBuffer = acc := rfl

theorem put_digit (data text : List UInt8) (room : text.length < data.length) (bits : UInt32)
    (bitBuffer : UInt32) (bitsAvailable : Nat) :
    putPeerIdDigit bits (textState data text bitBuffer bitsAvailable) =
      some (textState data (text ++ [Base32.symbol (bits.toNat % 32)]) bitBuffer
        bitsAvailable) := by
  have character := alphabet_symbol (v := bits.toNat % 32) (Nat.mod_lt _ (by decide))
  have place := store_next text data[text.length] (Base32.symbol (bits.toNat % 32))
    (data.drop (text.length + 1))
  rw [← List.drop_eq_getElem_cons room] at place
  rw [putPeerIdDigit, low_five, character]
  simp only [textState, place, Option.bind_eq_bind, Option.bind_some, Option.pure_def,
    List.length_append, List.length_singleton, List.append_assoc, List.singleton_append]

theorem groups_short (acc : UInt32) {n : Nat} (short : n < 5) : peerIdGroups acc n = ([], n) := by
  match n, short with
  | 0, _ | 1, _ | 2, _ | 3, _ | 4, _ => rfl

theorem drain_short (state : PeerIdState) {n : Nat} (short : n < 5) :
    drainPeerIdBits state n = some { state with bitsAvailable := n } := by
  match n, short with
  | 0, _ | 1, _ | 2, _ | 3, _ | 4, _ => rfl

theorem shifted_right (acc : UInt32) {n : Nat} (few : n < 32) :
    (acc >>> UInt32.ofNat n).toNat = acc.toNat / 2 ^ n := by
  have amount : (UInt32.ofNat n).toNat % 32 = n := by
    rw [UInt32.toNat_ofNat']
    omega
  rw [UInt32.toNat_shiftRight, amount, Nat.shiftRight_eq_div_pow]

theorem digit_symbol (bits : UInt32) : peerIdDigit bits = Base32.symbol (bits.toNat % 32) := by
  have character := alphabet_symbol (v := bits.toNat % 32) (Nat.mod_lt _ (by decide))
  rw [load] at character
  rw [peerIdDigit, low_five, List.getD_eq_getElem?_getD, character]
  rfl

/-- The complete groups among the `n` lowest bits of the accumulator, and the bits left. -/
theorem groups_spell (acc : UInt32) (n : Nat) (few : n < 37) :
    (peerIdGroups acc n).2 = n % 5 ∧ (peerIdGroups acc n).1.length = n / 5 ∧
      ∀ future, Base32.encodeBits (bits n acc.toNat ++ future) =
        (peerIdGroups acc n).1 ++ Base32.encodeBits (bits (n % 5) acc.toNat ++ future) := by
  induction n using Nat.strongRecOn with
  | _ n ih =>
    by_cases short : n < 5
    · rw [groups_short acc short, Nat.mod_eq_of_lt short, Nat.div_eq_of_lt short]
      exact ⟨rfl, rfl, fun _ => rfl⟩
    · obtain ⟨rest, rfl⟩ := Nat.exists_eq_add_of_le' (Nat.le_of_not_lt short)
      obtain ⟨left, size, spelled⟩ := ih rest (by omega) (by omega)
      have groups : peerIdGroups acc (rest + 5) =
          (peerIdDigit (acc >>> UInt32.ofNat rest) :: (peerIdGroups acc rest).1,
            (peerIdGroups acc rest).2) := rfl
      have first : peerIdDigit (acc >>> UInt32.ofNat rest) =
          Base32.symbol (acc.toNat / 2 ^ rest % 32) := by
        rw [digit_symbol, shifted_right acc (by omega)]
      have again : (rest + 5) % 5 = rest % 5 := Nat.add_mod_right rest 5
      rw [groups, first, left, again]
      refine ⟨rfl, ?_, ?_⟩
      · rw [List.length_cons, size]
        omega
      · intro future
        rw [Nat.add_comm rest 5, bits_append, List.append_assoc, Base32.encode_bits_group, spelled]
        rfl

theorem drain_run (data : List UInt8) (acc : UInt32) (n : Nat) (few : n < 37)
    (text : List UInt8) (room : text.length + n / 5 ≤ data.length) (before : Nat) :
    drainPeerIdBits (textState data text acc before) n =
      some (textState data (text ++ (peerIdGroups acc n).1) acc (peerIdGroups acc n).2) := by
  induction n using Nat.strongRecOn generalizing text with
  | _ n ih =>
    by_cases short : n < 5
    · rw [drain_short _ short, groups_short acc short, List.append_nil]
      rfl
    · obtain ⟨rest, rfl⟩ := Nat.exists_eq_add_of_le' (Nat.le_of_not_lt short)
      have put := put_digit data text (by omega)
        (acc >>> UInt32.ofNat rest) acc before
      rw [← digit_symbol] at put
      have later := ih rest (by omega) (by omega)
        (text ++ [peerIdDigit (acc >>> UInt32.ofNat rest)])
        (by rw [List.length_append, List.length_singleton]; omega)
      rw [List.append_assoc] at later
      rw [drainPeerIdBits, shifted_eq (by omega)]
      exact (congrArg (Option.bind · fun state => drainPeerIdBits state rest) put).trans later

/-- The accumulator after one more byte: it wraps, and still ends in the bits needed. -/
theorem push_byte (acc : UInt32) (byte : UInt8) :
    ((acc <<< 8) ||| byte.toUInt32).toNat = (acc.toNat * 256 + byte.toNat) % 2 ^ 32 := by
  have low := byte.toNat_lt
  have high : (acc <<< 8).toNat = acc.toNat % 2 ^ 24 * 2 ^ 8 := by
    rw [UInt32.toNat_shiftLeft, show (8 : UInt32).toNat % 32 = 8 from rfl, Nat.shiftLeft_eq]
    omega
  rw [UInt32.toNat_or, high, UInt8.toNat_toUInt32, BigEndian.or_eq_add low]
  omega

theorem push_byte_bits (acc : UInt32) (byte : UInt8) {n : Nat} (few : n ≤ 24) :
    bits (n + 8) ((acc <<< 8) ||| byte.toUInt32).toNat =
      bits n acc.toNat ++ bits 8 byte.toNat := by
  have low := byte.toNat_lt
  have kept : bits (n + 8) ((acc.toNat * 256 + byte.toNat) % 2 ^ 32) =
      bits (n + 8) (acc.toNat * 256 + byte.toNat) :=
    bits_congr (Nat.mod_mod_of_dvd _ (Nat.pow_dvd_pow 2 (by omega)))
  have high : (acc.toNat * 256 + byte.toNat) / 2 ^ 8 = acc.toNat := by omega
  have last : bits 8 (acc.toNat * 256 + byte.toNat) = bits 8 byte.toNat :=
    bits_congr (by omega)
  rw [push_byte, kept, bits_append, high, last]

theorem last_digit (acc : UInt32) {n : Nat} (more : 0 < n) (few : n < 5) :
    peerIdDigit (acc <<< UInt32.ofNat (5 - n)) =
      Base32.symbol (acc.toNat * 2 ^ (5 - n) % 32) := by
  have amount : (UInt32.ofNat (5 - n)).toNat % 32 = 5 - n := by
    rw [UInt32.toNat_ofNat']
    omega
  rw [digit_symbol, UInt32.toNat_shiftLeft, amount, Nat.shiftLeft_eq,
    Nat.mod_mod_of_dvd _ (by decide)]

/-- The digits spell the bits the accumulator holds and the bits of the bytes ahead. -/
theorem digits_spell (input : List UInt8) (acc : UInt32) {n : Nat} (few : n < 5) :
    peerIdDigits acc n input = Base32.encodeBits (bits n acc.toNat ++ ofBytes input) := by
  induction input generalizing acc n with
  | nil =>
    rw [peerIdDigits, show ofBytes [] = [] from rfl, List.append_nil]
    by_cases none : n = 0
    · subst none
      rfl
    · rw [if_pos none, last_digit acc (Nat.pos_of_ne_zero none) few,
        Base32.encode_bits_last (Nat.pos_of_ne_zero none) few]
  | cons byte input ih =>
    obtain ⟨left, _, spelled⟩ := groups_spell ((acc <<< 8) ||| byte.toUInt32) (n + 8) (by omega)
    have unfolded : peerIdDigits acc n (byte :: input) =
        (peerIdGroups ((acc <<< 8) ||| byte.toUInt32) (n + 8)).1 ++
          peerIdDigits ((acc <<< 8) ||| byte.toUInt32)
            (peerIdGroups ((acc <<< 8) ||| byte.toUInt32) (n + 8)).2 input := rfl
    rw [unfolded, left, ih _ (Nat.mod_lt _ (by decide)), ← spelled,
      push_byte_bits acc byte (by omega), of_bytes_cons, List.append_assoc]

theorem wrapped_step (a p v m : Nat) : (a % m * p + v) % m = (a * p + v) % m := by
  rw [Nat.add_mod, Nat.mod_mul_mod, ← Nat.add_mod]

/-- The outer loop: the text grows by the complete groups, and the accumulator is the
    number read so far within 32 bits. -/
theorem encode_bytes_run (data input : List UInt8) (acc : UInt32) {n : Nat}
    (few : n < 5) (text : List UInt8)
    (room : text.length + (n + 8 * input.length) / 5 ≤ data.length) :
    ∃ (digits : List UInt8) (acc' : UInt32),
      encodePeerIdBytes (textState data text acc n) input =
        some (textState data (text ++ digits) acc' ((n + 8 * input.length) % 5)) ∧
      digits.length = (n + 8 * input.length) / 5 ∧
      peerIdDigits acc n input =
        digits ++ peerIdDigits acc' ((n + 8 * input.length) % 5) [] ∧
      acc'.toNat = (acc.toNat * 256 ^ input.length + BigEndian.value input) % 2 ^ 32 := by
  induction input generalizing acc n text with
  | nil =>
    rw [List.length_nil, Nat.mul_zero, Nat.add_zero, Nat.mod_eq_of_lt few, Nat.div_eq_of_lt few]
    refine ⟨[], acc, ?_, rfl, rfl, ?_⟩
    · rw [List.append_nil]
      rfl
    · simp [Nat.mod_eq_of_lt acc.toNat_lt]
  | cons byte input ih =>
    rw [List.length_cons] at room ⊢
    have pushed := push_byte acc byte
    generalize grown : (acc <<< 8) ||| byte.toUInt32 = acc₁ at pushed
    obtain ⟨left, size, _⟩ := groups_spell acc₁ (n + 8) (by omega)
    have drained := drain_run data acc₁ (n + 8) (by omega) text (by omega) n
    rw [left] at drained
    obtain ⟨digits, acc', run, size', spelled, value⟩ := ih acc₁ (Nat.mod_lt (n + 8) (by decide))
      (text ++ (peerIdGroups acc₁ (n + 8)).1) (by rw [List.length_append, size]; omega)
    have total : ((n + 8) % 5 + 8 * input.length) % 5 = (n + 8 * (input.length + 1)) % 5 := by
      omega
    rw [total] at run spelled
    refine ⟨(peerIdGroups acc₁ (n + 8)).1 ++ digits, acc', ?_, ?_, ?_, ?_⟩
    · rw [← List.append_assoc, ← run, encodePeerIdBytes]
      subst grown
      exact congrArg (Option.bind · fun state => encodePeerIdBytes state input) drained
    · rw [List.length_append, size, size']
      omega
    · have unfolded : peerIdDigits acc n (byte :: input) = (peerIdGroups acc₁ (n + 8)).1 ++
          peerIdDigits acc₁ (peerIdGroups acc₁ (n + 8)).2 input := by
        subst grown
        rfl
      rw [unfolded, left, spelled, List.append_assoc]
    · have shifted : (acc.toNat * 256 + byte.toNat) * 256 ^ input.length =
          acc.toNat * 256 ^ (input.length + 1) + byte.toNat * 256 ^ input.length := by
        rw [Nat.pow_succ]
        ring
      rw [value, pushed, wrapped_step, shifted, BigEndian.value_cons, Nat.add_assoc]

theorem flush_run (data text : List UInt8) (acc : UInt32) {n : Nat} (few : n < 5)
    (room : text.length < data.length) :
    flushPeerIdBits (textState data text acc n) =
      some (textState data (text ++ peerIdDigits acc n []) acc n) := by
  rw [flushPeerIdBits, text_state_available, text_state_buffer, peerIdDigits]
  by_cases none : n = 0
  · subst none
    rw [if_neg (by decide), if_neg (by decide), List.append_nil]
  · have put := put_digit data text room (acc <<< UInt32.ofNat (5 - n)) acc n
    have amount : 5 - n < 32 := by omega
    rw [← digit_symbol] at put
    rw [if_pos none, if_pos none, shifted_eq amount]
    exact put

theorem encode_into_run {spkiDigest data : List UInt8} (size : spkiDigest.length = 32)
    (room : 53 ≤ data.length) :
    gmIdentityEncodePeerIdInto (.view spkiDigest) (.view data) =
      some ⟨.ok, .view (Base32.encode spkiDigest ++ 0 :: data.drop 53), some 53⟩ := by
  obtain ⟨digits, acc, run, long, spelled, _⟩ := encode_bytes_run data spkiDigest 0
    (n := 0) (by decide) [] (by rw [size, List.length_nil]; omega)
  rw [digits_spell spkiDigest 0 (by decide)] at spelled
  have written : digits ++ peerIdDigits acc ((0 + 8 * spkiDigest.length) % 5) [] =
      Base32.encode spkiDigest := spelled.symm
  have few : (0 + 8 * spkiDigest.length) % 5 < 5 := Nat.mod_lt _ (by decide)
  have flush := flush_run data digits acc few (by omega)
  have total := Base32.encode_length spkiDigest
  rw [written] at flush
  have room' : (Base32.encode spkiDigest).length < data.length := by omega
  have place := store_next (Base32.encode spkiDigest) data[(Base32.encode spkiDigest).length] 0
    (data.drop ((Base32.encode spkiDigest).length + 1))
  rw [← List.drop_eq_getElem_cons room'] at place
  rw [total, size] at place
  have start : (⟨data, 0, 0, 0⟩ : PeerIdState) = textState data [] 0 0 := rfl
  have readable : (!hasReadableData (.view spkiDigest) || !hasReadableData (.view data)) = false :=
    rfl
  rw [gmIdentityEncodePeerIdInto, readable, if_neg (by decide), if_neg (by simpa using size),
    if_neg (by simpa using room)]
  simp only [view_data, start, run, List.nil_append, flush, Option.bind_eq_bind, Option.bind_some]
  simp only [textState, total, size]
  rw [place]
  rfl

/-- The text that the trust decisions and the secure store take for the peer's name. -/
theorem peer_id_text {spkiDigest : List UInt8} (size : spkiDigest.length = 32) :
    gmIdentityEncodePeerId spkiDigest = .ok (Base32.encode spkiDigest) := by
  have spelled : peerIdDigits 0 0 spkiDigest = Base32.encode spkiDigest :=
    digits_spell spkiDigest 0 (by decide)
  have total := Base32.encode_length spkiDigest
  rw [size] at total
  rw [gmIdentityEncodePeerId, if_neg (by simpa using size), spelled]
  exact if_pos total

theorem last_symbol {spkiDigest : List UInt8} (size : spkiDigest.length = 32) :
    (Base32.encode spkiDigest).getLast? =
      some (Base32.symbol (BigEndian.value spkiDigest % 2 * 16)) := by
  obtain ⟨digits, acc, _, _, spelled, value⟩ := encode_bytes_run
    (List.replicate 53 0) spkiDigest 0 (n := 0) (by decide) []
    (by rw [size]; decide)
  rw [digits_spell spkiDigest 0 (by decide), size] at spelled
  have encoded : Base32.encode spkiDigest = digits ++ peerIdDigits acc 1 [] := spelled
  have last : peerIdDigits acc 1 [] = [Base32.symbol (acc.toNat * 2 ^ 4 % 32)] := by
    rw [← last_digit acc (n := 1) (by decide) (by decide)]
    rfl
  have kept : acc.toNat * 2 ^ 4 % 32 = BigEndian.value spkiDigest % 2 * 16 := by
    rw [value]
    simp only [UInt32.toNat_zero, Nat.zero_mul, Nat.zero_add]
    omega
  rw [encoded, last, kept, List.getLast?_append]
  rfl

/-- The accumulator holds the last 32 bits read; those not yet written are its lowest. -/
theorem accumulator_holds {spkiDigest data : List UInt8} (size : spkiDigest.length = 32)
    (room : 53 ≤ data.length) {i : Nat} (inside : i ≤ 32) :
    ∃ state, encodePeerIdBytes ⟨data, 0, 0, 0⟩ (spkiDigest.take i) = some state ∧
      state.outputIndex = 8 * i / 5 ∧ state.bitsAvailable = 8 * i % 5 ∧
      state.bitBuffer.toNat = BigEndian.value (spkiDigest.take i) % 2 ^ 32 ∧
      bits state.bitsAvailable state.bitBuffer.toNat =
        (ofBytes (spkiDigest.take i)).drop (8 * i / 5 * 5) := by
  have long : (spkiDigest.take i).length = i := by
    rw [List.length_take]
    omega
  obtain ⟨digits, acc, run, written, _, value⟩ := encode_bytes_run data
    (spkiDigest.take i) 0 (n := 0) (by decide) [] (by rw [long, List.length_nil]; omega)
  rw [long, Nat.zero_add] at run written
  rw [UInt32.toNat_zero, Nat.zero_mul, Nat.zero_add] at value
  refine ⟨_, run, ?_, rfl, value, ?_⟩
  · simpa [textState] using written
  · rw [text_state_available, text_state_buffer, value]
    have whole : ofBytes (spkiDigest.take i) =
        bits (8 * i / 5 * 5 + 8 * i % 5) (BigEndian.value (spkiDigest.take i)) := by
      apply eq_of_value
      · rw [of_bytes_length, bits_length, long, Nat.div_add_mod']
      · have bound := BigEndian.value_lt (spkiDigest.take i)
        rw [long, show 256 = 2 ^ 8 from rfl, ← Nat.pow_mul] at bound
        rw [value_of_bytes, Nat.div_add_mod', value_bits_of_lt bound]
    rw [whole, bits_append, List.drop_left' (by rw [bits_length])]
    have few : 8 * i % 5 < 5 := Nat.mod_lt _ (by decide)
    exact bits_congr (Nat.mod_mod_of_dvd _ (Nat.pow_dvd_pow 2 (by omega)))

theorem encode_never_internal (spkiDigest output : GmBytes) :
    ∃ result, gmIdentityEncodePeerIdInto spkiDigest output = some result ∧
      result.status ≠ .internal := by
  by_cases readable : (!hasReadableData spkiDigest || !hasReadableData output) = true
  · exact ⟨⟨.badArgument, output, none⟩, if_pos readable, by simp⟩
  by_cases size : spkiDigest.size = gmSpkiDigestBytes
  · by_cases room : output.size < gmPeerIdBase32Bytes + 1
    · refine ⟨⟨.bufferTooSmall, output, some (gmPeerIdBase32Bytes + 1)⟩, ?_, by simp⟩
      rw [gmIdentityEncodePeerIdInto, if_neg readable, if_neg (not_not_intro size), if_pos room]
    · cases spkiDigest with
      | null n =>
        simp only [GmBytes.size] at size
        simp [hasReadableData, size] at readable
      | view digest =>
        cases output with
        | null n =>
          simp only [GmBytes.size, gmPeerIdBase32Bytes, Nat.not_lt] at room
          have other : n ≠ 0 := by omega
          simp [hasReadableData, other] at readable
        | view data =>
          exact ⟨_, encode_into_run size (Nat.le_of_not_lt room), by simp⟩
  · refine ⟨⟨.badMessage, output, some (gmPeerIdBase32Bytes + 1)⟩, ?_, by simp⟩
    rw [gmIdentityEncodePeerIdInto, if_neg readable, if_pos size]

/-- Peer ids are exact: the buffer receives the base 32 text of the digest and a NUL, the
    text decodes to the digest, and no other digest has it. -/
theorem peer_id_exact (spkiDigest data : List UInt8) (size : spkiDigest.length = gmSpkiDigestBytes)
    (room : gmPeerIdBase32Bytes + 1 ≤ data.length) :
    (gmIdentityEncodePeerIdInto (.view spkiDigest) (.view data) =
        some ⟨.ok, .view (Base32.encode spkiDigest ++ 0 :: data.drop 53), some 53⟩ ∧
      (Base32.encode spkiDigest).length = gmPeerIdBase32Bytes ∧
      (∀ c ∈ Base32.encode spkiDigest, c ∈ kPeerIdAlphabet) ∧
      (Base32.encode spkiDigest).getLast? =
        some (Base32.symbol (BigEndian.value spkiDigest % 2 * 16))) ∧
    (Base32.decode (Base32.encode spkiDigest) = some spkiDigest ∧
      ∀ other, Base32.encode other = Base32.encode spkiDigest → other = spkiDigest) ∧
    (∀ i ≤ 32, ∃ state, encodePeerIdBytes ⟨data, 0, 0, 0⟩ (spkiDigest.take i) = some state ∧
      state.outputIndex = 8 * i / 5 ∧ state.bitsAvailable = 8 * i % 5 ∧
      state.bitBuffer.toNat = BigEndian.value (spkiDigest.take i) % 2 ^ 32 ∧
      bits state.bitsAvailable state.bitBuffer.toNat =
        (ofBytes (spkiDigest.take i)).drop (8 * i / 5 * 5)) ∧
    ∀ digest output : GmBytes, ∃ result, gmIdentityEncodePeerIdInto digest output = some result ∧
      result.status ≠ .internal := by
  refine ⟨⟨encode_into_run size room, ?_, ?_, last_symbol size⟩, ⟨?_, ?_⟩, ?_, ?_⟩
  · rw [Base32.encode_length, size]
    rfl
  · intro c member
    obtain ⟨v, small, rfl⟩ := Base32.encode_bits_symbols _ c member
    exact List.mem_of_getElem? (alphabet_symbol small)
  · exact Base32.decode_encode spkiDigest
  · exact fun other same => Base32.encode_injective same
  · exact fun i inside => accumulator_holds size room inside
  · exact encode_never_internal

/-- The digest and the peer id of the repository's test vectors. -/
def windowsSpki : List UInt8 := (List.range 32).map UInt8.ofNat

theorem windows_peer_id :
    gmIdentityEncodePeerIdInto (.view windowsSpki) (.view (List.replicate 53 0)) =
      some ⟨.ok, .view (ascii "aaaqeayeaudaocajbifqydiob4ibceqtcqkrmfyydenbwha5dypq" ++ [0]),
        some 53⟩ := by
  have spelled : Base32.encode windowsSpki =
      ascii "aaaqeayeaudaocajbifqydiob4ibceqtcqkrmfyydenbwha5dypq" := by decide +kernel
  have run := (peer_id_exact windowsSpki (List.replicate 53 0) (by decide) (by decide)).1.1
  rw [spelled] at run
  exact run

end GhostMedia.Crypto
