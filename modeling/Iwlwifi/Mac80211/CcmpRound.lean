import Iwlwifi.Mac80211.CcmpBlocks

/-!
# Decapsulation undoes encapsulation

A frame that `ccmp_encrypt_skb` made is accepted by `ieee80211_crypto_ccmp_decrypt` and gives back
its header and body; with a protected part of the header changed it is rejected.  The AEAD is
ideal for the encryptions made: it decrypts exactly these.
-/

namespace Iwlwifi

open Lib
open Function (update)

/-! ## The packet number -/

theorem ccmpHdr2pn_pn2hdr (pn : Pn) (keyId : Nat) (rest : List UInt8) :
    ccmpHdr2pn (ccmpPn2hdr pn keyId ++ rest) = pn := by
  obtain ⟨bytes, length⟩ := pn
  match bytes, length with
  | [_, _, _, _, _, _], _ => rfl

theorem ccmpPn2hdr_length (pn : Pn) (keyId : Nat) : (ccmpPn2hdr pn keyId).length = 8 := rfl

theorem Pn.ofNat_injective {m n : Nat} (same : Pn.ofNat m = Pn.ofNat n) :
    m % 2 ^ 48 = n % 2 ^ 48 := by
  have bytes := congrArg Pn.bytes same
  simp only [Pn.ofNat, List.cons.injEq, and_true] at bytes
  obtain ⟨h5, h4, h3, h2, h1, h0⟩ := bytes
  have byte {k l : Nat} (eq : UInt8.ofNat k = UInt8.ofNat l) : k % 256 = l % 256 := by
    simpa using congrArg UInt8.toNat eq
  have h5 := byte h5
  have h4 := byte h4
  have h3 := byte h3
  have h2 := byte h2
  have h1 := byte h1
  have h0 := byte h0
  omega

/-! ## Encapsulation -/

/-- The key when it has been used `n` times more. -/
def CcmpTxKey.advance (key : CcmpTxKey) (n : Nat) : CcmpTxKey :=
  { key with txPn := (key.txPn + n) % 2 ^ 64 }

/-- The packet number of the next frame. -/
def CcmpTxKey.nextPn (key : CcmpTxKey) : Pn := .ofNat ((key.txPn + 1) % 2 ^ 64)

/-- The frame with its CCMP header, before it is encrypted. -/
def pushed (key : CcmpTxKey) (skb : Skb) : Skb :=
  skb.take skb.hdrlen ++ ccmpPn2hdr key.nextPn key.keyidx ++ skb.drop skb.hdrlen

/-- Nonce, AAD and plaintext of the encryption of a frame. -/
structure Sealing where
  nonce : List UInt8
  aad : List UInt8
  plain : List UInt8
  deriving DecidableEq

def sealing (stack : List UInt8) (key : CcmpTxKey) (skb : Skb) : Sealing where
  nonce := ccmpNonce (pushed key skb) key.nextPn
  aad := aad stack (pushed key skb)
  plain := skb.drop skb.hdrlen

theorem ieee80211IsMgmt_of_isRobustMgmtFrame {skb : Skb}
    (robust : ieee80211IsRobustMgmtFrame skb = true) :
    ieee80211IsMgmt skb.frameControl = true := by
  have masked (value : Nat) (mgmt : value &&& ieee80211FctlFtype = 0)
      (subtype : skb.frameControl &&& (ieee80211FctlFtype ||| ieee80211FctlStype) = value) :
      ieee80211IsMgmt skb.frameControl = true := by
    have type : skb.frameControl &&& (ieee80211FctlFtype ||| ieee80211FctlStype) &&&
        ieee80211FctlFtype = skb.frameControl &&& ieee80211FctlFtype := by
      rw [Nat.land_assoc]
      rfl
    rw [ieee80211IsMgmt, beq_iff_eq, ← type, subtype]
    exact mgmt
  rw [ieee80211IsRobustMgmtFrame] at robust
  split at robust
  · cases robust
  split at robust
  · next removal =>
      rcases Bool.or_eq_true _ _ ▸ removal with disassoc | deauth
      · exact masked _ rfl (beq_iff_eq.mp disassoc)
      · exact masked _ rfl (beq_iff_eq.mp deauth)
  split at robust
  · next action => exact masked _ rfl (beq_iff_eq.mp action)
  · cases robust

/-- A frame that software encrypts: it has all of its header, and a robust management frame has
its Protected bit set, as `ieee80211_tx_set_protected` does for every frame. -/
structure Protectable (skb : Skb) : Prop where
  whole : skb.hdrlen ≤ skb.length
  type : ieee80211IsData skb.frameControl = true ∨
    (ieee80211IsRobustMgmtFrame skb = true ∧ ieee80211HasProtected skb.frameControl = true)

namespace Protectable

variable {skb : Skb} {key : CcmpTxKey}

theorem le_hdrlen (protectable : Protectable skb) : 24 ≤ skb.hdrlen := by
  refine Iwlwifi.le_hdrlen ?_
  rcases protectable.type with data | ⟨robust, -⟩
  · exact .inl data
  · exact .inr (ieee80211IsMgmt_of_isRobustMgmtFrame robust)

end Protectable

variable {aead : Aead} {stack : List UInt8} {skb sent : Skb} {key key' : CcmpTxKey} {tx : TxSkb}

/-- The frame in the air. -/
def onAir (aead : Aead) (stack : List UInt8) (key : CcmpTxKey) (skb : Skb) : Skb :=
  let s := sealing stack key skb
  skb.take skb.hdrlen ++ ccmpPn2hdr key.nextPn key.keyidx ++
    ((aead.encrypt s.nonce s.aad s.plain).1 ++ (aead.encrypt s.nonce s.aad s.plain).2)

/-- What `ccmp_encrypt_skb` makes of a frame in software. -/
theorem ccmpEncryptSkb_eq_some (done : ccmpEncryptSkb aead stack none key tx = some (key', sent)) :
    key' = key.advance 1 ∧ sent = onAir aead stack key tx.data := by
  rw [ccmpEncryptSkb] at done
  simp only [Option.any_none, Bool.false_eq_true, if_false, Option.isSome_none,
    Option.ite_none_left_eq_some, Option.some.injEq, Prod.mk.injEq] at done
  obtain ⟨-, rfl, rfl⟩ := done
  refine ⟨rfl, ?_⟩
  rw [onAir, List.append_assoc]
  rfl

namespace Protectable

variable (protectable : Protectable skb)
include protectable

theorem take_length : (skb.take skb.hdrlen).length = skb.hdrlen :=
  List.length_take_of_le protectable.whole

theorem prefix_length :
    (skb.take skb.hdrlen ++ ccmpPn2hdr key.nextPn key.keyidx).length = skb.hdrlen + 8 := by
  rw [List.length_append, protectable.take_length, ccmpPn2hdr_length]

/-- The frame with room for its CCMP header and the one in the air build the same. -/
theorem sameBlocks_onAir : SameBlocks (onAir aead stack key skb) (pushed key skb) := by
  have enough : 32 ≤ (skb.take skb.hdrlen ++ ccmpPn2hdr key.nextPn key.keyidx).length := by
    have := protectable.le_hdrlen
    rw [protectable.prefix_length]
    omega
  refine sameBlocks_of_take ?_
  rw [onAir, pushed, List.take_append_of_le_length enough, List.take_append_of_le_length enough]

/-- The header in the air is the one the frame had. -/
theorem frameControl_pushed : (pushed key skb).frameControl = skb.frameControl := by
  have le := protectable.le_hdrlen
  have same : (pushed key skb).take 24 = skb.take 24 := by
    have enough : 24 ≤ (skb.take skb.hdrlen).length := by
      rw [protectable.take_length]
      exact le
    rw [pushed, List.append_assoc, List.take_append_of_le_length enough, List.take_take,
      Nat.min_eq_left le]
  rw [Skb.frameControl, Skb.frameControl, Skb.byte_eq_of_take _ same (by decide),
    Skb.byte_eq_of_take 1 same (by decide)]

theorem hdrlen_onAir : (onAir aead stack key skb).hdrlen = skb.hdrlen := by
  rw [protectable.sameBlocks_onAir.hdrlen, Skb.hdrlen, protectable.frameControl_pushed]
  rfl

theorem drop_onAir : (onAir aead stack key skb).drop skb.hdrlen =
    ccmpPn2hdr key.nextPn key.keyidx ++
      ((aead.encrypt (sealing stack key skb).nonce (sealing stack key skb).aad
          (sealing stack key skb).plain).1 ++
        (aead.encrypt (sealing stack key skb).nonce (sealing stack key skb).aad
          (sealing stack key skb).plain).2) := by
  rw [onAir, List.append_assoc, List.drop_left' protectable.take_length]

variable (aead stack key) in
theorem length_onAir : (onAir aead stack key skb).length = skb.length + 8 + aead.micLen := by
  have whole := protectable.whole
  rw [onAir, List.length_append, protectable.prefix_length, List.length_append,
    aead.encrypt_length, aead.mic_length, sealing, List.length_drop]
  omega

end Protectable

/-! ## Decapsulation -/

/-- A frame that the hardware has not touched, of a known station. -/
structure InSoftware (rx : CipherRx) : Prop where
  encrypted : rx.status.decrypted = false
  unchecked : rx.status.pnValidated = false
  sta : rx.hasSta = true
  linear : rx.linearizeFails = false

/-- A frame that `ieee80211_crypto_ccmp_decrypt` looks at. -/
def Looked (skb : Skb) : Prop :=
  ieee80211IsData skb.frameControl = true ∨ ieee80211IsRobustMgmtFrame skb = true

/-- The packet number in a frame. -/
def Skb.pn (skb : Skb) : Pn := ccmpHdr2pn (skb.drop skb.hdrlen)

/-- What is decrypted of a frame. -/
def Skb.cipherText (skb : Skb) (micLen : Nat) : List UInt8 :=
  skb.span (skb.hdrlen + 8) (skb.length - skb.hdrlen - 8 - micLen)

def Skb.mic (skb : Skb) (micLen : Nat) : List UInt8 := skb.drop (skb.length - micLen)

/-- The receiver accepts a packet number. -/
def Fresh (rx : CipherRx) (key : CcmpKey) : Prop :=
  0 < memcmp rx.skb.pn.bytes (key.rxPn rx.securityIdx).bytes ∨
    (memcmp rx.skb.pn.bytes (key.rxPn rx.securityIdx).bytes = 0 ∧ rx.status.allowSamePn = true)

section Receive

variable {rx : CipherRx} {rxKey : CcmpKey}

/-- A frame that is not looked at is passed on as it is. -/
theorem pnDecrypt_of_not_looked {nonce : Skb → Pn → List UInt8} (other : ¬ Looked rx.skb) :
    pnDecrypt nonce aead stack rx rxKey = ⟨.cont, rx.skb, rxKey⟩ := by
  rw [Looked, not_or, Bool.not_eq_true, Bool.not_eq_true] at other
  rw [pnDecrypt]
  dsimp only
  rw [other.1, other.2]
  rfl

/-- Removing the header and the MIC around a plaintext. -/
theorem removeHeaderAndMic_software (plain mic : List UInt8) (rxKey : CcmpKey)
    (software : InSoftware rx)
    (long : rx.skb.hdrlen + 8 ≤ rx.skb.length) :
    removeHeaderAndMic rx (rx.skb.take (rx.skb.hdrlen + 8) ++ plain ++ mic) mic.length rxKey =
      ⟨.cont, rx.skb.take rx.skb.hdrlen ++ plain, rxKey⟩ := by
  have front : (rx.skb.take (rx.skb.hdrlen + 8)).length = rx.skb.hdrlen + 8 :=
    List.length_take_of_le long
  have trimmed : (rx.skb.take (rx.skb.hdrlen + 8) ++ plain ++ mic).take
      ((rx.skb.take (rx.skb.hdrlen + 8) ++ plain ++ mic).length - mic.length) =
        rx.skb.take (rx.skb.hdrlen + 8) ++ plain := by
    rw [List.length_append, Nat.add_sub_cancel, List.take_left]
  rw [removeHeaderAndMic, software.encrypted, Bool.false_and, if_neg Bool.false_ne_true]
  dsimp only
  rw [trimmed, List.drop_left' front, List.take_append_of_le_length (by omega), List.take_take,
    Nat.min_eq_left (by omega)]

/-- What a frame the receiver looks at comes to in software. -/
theorem pnDecrypt_software (nonce : Skb → Pn → List UInt8) (aead : Aead) (stack : List UInt8)
    (rxKey : CcmpKey) (software : InSoftware rx) (looked : Looked rx.skb) :
    ((rx.skb.length < rx.skb.hdrlen + 8 + aead.micLen ∨ ¬ Fresh rx rxKey ∨
          aeadDecrypt aead (nonce rx.skb rx.skb.pn) (aad stack rx.skb)
            (rx.skb.cipherText aead.micLen) (rx.skb.mic aead.micLen) = none) ∧
        (pnDecrypt nonce aead stack rx rxKey).result = .dropUnusable ∧
        (pnDecrypt nonce aead stack rx rxKey).key.rxPn = rxKey.rxPn) ∨
      ∃ plain, aeadDecrypt aead (nonce rx.skb rx.skb.pn) (aad stack rx.skb)
          (rx.skb.cipherText aead.micLen) (rx.skb.mic aead.micLen) = some plain ∧
        rx.skb.hdrlen + 8 + aead.micLen ≤ rx.skb.length ∧ Fresh rx rxKey ∧
        pnDecrypt nonce aead stack rx rxKey = ⟨.cont, rx.skb.take rx.skb.hdrlen ++ plain,
          { rxKey with rxPn := update rxKey.rxPn rx.securityIdx rx.skb.pn }⟩ := by
  have isLooked : (!ieee80211IsData rx.skb.frameControl && !ieee80211IsRobustMgmtFrame rx.skb) =
      false := by
    rcases looked with data | robust
    · rw [data]
      rfl
    · rw [robust, Bool.not_true, Bool.and_false]
  rw [pnDecrypt]
  simp only [isLooked, software.encrypted, software.unchecked, software.sta, software.linear,
    Bool.false_eq_true, if_false, Bool.false_and, Bool.not_false, Bool.and_false, Bool.not_true,
    Bool.false_or, decide_eq_true_eq]
  split
  · next short => exact .inl ⟨.inl short, rfl, rfl⟩
  next long =>
  rw [Nat.not_lt] at long
  split
  · next stale =>
      refine .inl ⟨.inr (.inl ?_), rfl, rfl⟩
      rintro (greater | ⟨equal, allowed⟩)
      · rcases stale with less | ⟨equal, -⟩
        · exact absurd greater (not_lt.mpr less.le)
        · exact absurd greater (equal.le.not_gt)
      · rcases stale with less | ⟨-, forbidden⟩
        · exact absurd equal less.ne
        · rw [forbidden] at allowed
          cases allowed
  · next fresh =>
      have isFresh : Fresh rx rxKey := by
        rw [not_or, not_lt, not_and] at fresh
        rcases fresh.1.lt_or_eq with greater | equal
        · exact .inl greater
        · exact .inr ⟨equal.symm, Bool.not_eq_false _ ▸ fresh.2 equal.symm⟩
      change _ ∨ ∃ plain, aeadDecrypt aead (nonce rx.skb rx.skb.pn) (aad stack rx.skb)
        (rx.skb.cipherText aead.micLen) (rx.skb.mic aead.micLen) = some plain ∧ _
      split
      · next failed => exact .inl ⟨.inr (.inr failed), rfl, rfl⟩
      · next plain opened =>
          refine .inr ⟨plain, opened, long, isFresh, ?_⟩
          have micLen : (rx.skb.drop (rx.skb.length - aead.micLen)).length = aead.micLen := by
            rw [List.length_drop]
            omega
          have removed := removeHeaderAndMic_software plain
            (rx.skb.drop (rx.skb.length - aead.micLen))
            { rxKey with rxPn := update rxKey.rxPn rx.securityIdx rx.skb.pn } software (by omega)
          rw [micLen] at removed
          exact removed

end Receive

/-! ## The AEAD -/

/-- Decryption returns a plaintext exactly for the encryptions that were made. -/
def Aead.Ideal (aead : Aead) (log : Sealing → Prop) : Prop :=
  ∀ nonce aad data mic plain, aead.decrypt nonce aad data mic = some plain ↔
    log ⟨nonce, aad, plain⟩ ∧ aead.encrypt nonce aad plain = (data, mic)

/-- The encryptions made by sending frames one after another. -/
def CcmpLog (stack : Nat → List UInt8) (key : CcmpTxKey) (skbs : List Skb) (s : Sealing) : Prop :=
  ∃ i skb, skbs[i]? = some skb ∧ s = sealing (stack i) (key.advance i) skb

/-- The packet numbers of 2^48 frames in a row differ. -/
theorem nextPn_injective {i j : Nat} (left : i < 2 ^ 48) (right : j < 2 ^ 48)
    (same : (key.advance i).nextPn = (key.advance j).nextPn) : i = j := by
  have eq := Pn.ofNat_injective same
  simp only [CcmpTxKey.advance] at eq
  omega

/-- The nonce contains the packet number. -/
theorem pn_eq_of_ccmpNonce {skb skb' : Skb} {pn pn' : Pn}
    (same : ccmpNonce skb pn = ccmpNonce skb' pn') : pn = pn' := by
  obtain ⟨bytes, length⟩ := pn
  obtain ⟨bytes', length'⟩ := pn'
  have tails := (List.append_inj' same (length.trans length'.symm)).2
  subst tails
  rfl

/-- No nonce is used twice. -/
theorem CcmpLog.eq_of_nonce {stack : Nat → List UInt8} {skbs : List Skb} {s s' : Sealing}
    (few : skbs.length ≤ 2 ^ 48) (left : CcmpLog stack key skbs s)
    (right : CcmpLog stack key skbs s') (same : s.nonce = s'.nonce) : s = s' := by
  obtain ⟨i, skb, here, rfl⟩ := left
  obtain ⟨j, skb', there, rfl⟩ := right
  have before : i < skbs.length := (List.getElem?_eq_some_iff.mp here).1
  have before' : j < skbs.length := (List.getElem?_eq_some_iff.mp there).1
  obtain rfl : i = j := nextPn_injective (by omega) (by omega) (pn_eq_of_ccmpNonce same)
  rw [Option.some.inj (here.symm.trans there)]

/-! ## Round trip -/

section Round

variable {rx : CipherRx} {rxKey : CcmpKey}

theorem pn_of_behind (protectable : Protectable skb)
    (behind : rx.skb.drop skb.hdrlen = (onAir aead stack key skb).drop skb.hdrlen)
    (header : rx.skb.hdrlen = skb.hdrlen) : rx.skb.pn = key.nextPn := by
  rw [Skb.pn, header, behind, protectable.drop_onAir]
  exact ccmpHdr2pn_pn2hdr _ _ _

/-- Ciphertext and MIC behind the CCMP header are those of the frame in the air. -/
theorem cipherText_of_behind (protectable : Protectable skb)
    (behind : rx.skb.drop skb.hdrlen = (onAir aead stack key skb).drop skb.hdrlen)
    (length : rx.skb.length = (onAir aead stack key skb).length)
    (header : rx.skb.hdrlen = skb.hdrlen) :
    aead.encrypt (sealing stack key skb).nonce (sealing stack key skb).aad
        (sealing stack key skb).plain =
      (rx.skb.cipherText aead.micLen, rx.skb.mic aead.micLen) := by
  generalize pair : aead.encrypt (sealing stack key skb).nonce (sealing stack key skb).aad
    (sealing stack key skb).plain = out
  obtain ⟨ct, mic⟩ := out
  have whole := protectable.whole
  have ctLength : ct.length = skb.length - skb.hdrlen := by
    have := aead.encrypt_length (sealing stack key skb).nonce (sealing stack key skb).aad
      (sealing stack key skb).plain
    rw [pair] at this
    exact this.trans List.length_drop
  have micLength : mic.length = aead.micLen := by
    have := aead.mic_length (sealing stack key skb).nonce (sealing stack key skb).aad
      (sealing stack key skb).plain
    rwa [pair] at this
  rw [protectable.length_onAir aead stack key] at length
  rw [protectable.drop_onAir, pair] at behind
  have body : rx.skb.drop (skb.hdrlen + 8) = ct ++ mic := by
    rw [← List.drop_drop, behind, List.drop_left' (ccmpPn2hdr_length _ _)]
  have first : rx.skb.cipherText aead.micLen = ct := by
    rw [Skb.cipherText, Skb.span, header, body, List.take_left']
    omega
  have last : rx.skb.mic aead.micLen = mic := by
    have split : rx.skb.length - aead.micLen = (skb.hdrlen + 8) + ct.length := by omega
    rw [Skb.mic, split, ← List.drop_drop, body, List.drop_left]
  rw [first, last]

/-- A frame whose AAD fits its buffer. -/
def AadFits (skb : Skb) : Prop := skb.hdrlen ≤ 32

theorem aad_congr_stack (stack stack' : List UInt8) (fits : AadFits skb) (long : 32 ≤ skb.length) :
    aad stack skb = aad stack' skb := by
  have buffer : 30 ≤ (aadBuf skb).length := by
    have addr4 : skb.addr4.length = 6 := by
      rw [Skb.addr4, Skb.span, List.length_take_of_le]
      rw [List.length_drop]
      omega
    rw [aadBuf, List.length_append, List.length_append, List.length_append,
      span_addresses_length (by omega)]
    split
    · rw [List.length_append, addr4]
      exact Nat.le_refl 30
    · exact Nat.le_refl 30
  have within : skb.hdrlen - 2 ≤ (aadBuf skb).length := by
    rw [AadFits] at fits
    omega
  rw [aad, aad, List.take_append_of_le_length within, List.take_append_of_le_length within]

theorem ieee80211IsRobustMgmtFrame_of_protected {a b : Skb}
    (robust : ieee80211IsRobustMgmtFrame a = true)
    (protect : ieee80211HasProtected a.frameControl = true) (long : 25 ≤ b.length)
    (fc : b.frameControl &&& fcInFlight = a.frameControl &&& fcInFlight) :
    ieee80211IsRobustMgmtFrame b = true := by
  have subtype := land_eq_of_masked (ieee80211FctlFtype ||| ieee80211FctlStype) fc rfl
  have bit : ieee80211HasProtected b.frameControl = ieee80211HasProtected a.frameControl := by
    rw [ieee80211HasProtected, ieee80211HasProtected,
      land_eq_of_masked 0x4000 fc rfl]
  rw [ieee80211IsRobustMgmtFrame] at robust ⊢
  rw [subtype, bit, protect, if_neg (by omega), Bool.true_or]
  split at robust
  · cases robust
  split
  · rfl
  next other =>
  rw [if_neg other] at robust
  split at robust
  · next action => rw [if_pos action]
  · cases robust

/-- A genuine frame is accepted, and body and header are given back. -/
theorem ccmpDecrypt_onAir {log : Sealing → Prop} {rxStack : List UInt8} (ideal : aead.Ideal log)
    (logged : log (sealing stack key skb)) (protectable : Protectable skb)
    (nonempty : skb.hdrlen < skb.length) (fits : AadFits skb)
    (alike : Alike rx.skb (onAir aead stack key skb))
    (length : rx.skb.length = (onAir aead stack key skb).length) (software : InSoftware rx)
    (fresh : (rxKey.rxPn rx.securityIdx).value < key.nextPn.value) :
    ccmpDecrypt aead rxStack rx rxKey = ⟨.cont, rx.skb.take skb.hdrlen ++ skb.drop skb.hdrlen,
      { rxKey with rxPn := update rxKey.rxPn rx.securityIdx key.nextPn }⟩ := by
  have header : rx.skb.hdrlen = skb.hdrlen :=
    alike.sameBlocks.hdrlen.trans protectable.hdrlen_onAir
  have le := protectable.le_hdrlen
  have whole := protectable.whole
  have total := protectable.length_onAir aead stack key
  have behind : rx.skb.drop skb.hdrlen = (onAir aead stack key skb).drop skb.hdrlen := by
    rw [← Nat.add_sub_cancel' le, ← List.drop_drop, alike.behind, List.drop_drop]
  have pn := pn_of_behind protectable behind header
  have texts := cipherText_of_behind protectable behind length header
  have nonce : ccmpNonce rx.skb rx.skb.pn = (sealing stack key skb).nonce := by
    rw [pn, alike.sameBlocks.ccmpNonce, protectable.sameBlocks_onAir.ccmpNonce]
    rfl
  have sameAad : aad rxStack rx.skb = (sealing stack key skb).aad := by
    have fits' : AadFits rx.skb := header.le.trans fits
    rw [aad_congr_stack rxStack stack fits' (by omega), alike.sameBlocks.aad,
      protectable.sameBlocks_onAir.aad]
    rfl
  have isFresh : Fresh rx rxKey := by
    refine .inl ((memcmp_pos_iff ?_).mpr ?_)
    · rw [rx.skb.pn.length_eq, (rxKey.rxPn rx.securityIdx).length_eq]
    · rw [pn]
      exact fresh
  have opened : aeadDecrypt aead (ccmpNonce rx.skb rx.skb.pn) (aad rxStack rx.skb)
      (rx.skb.cipherText aead.micLen) (rx.skb.mic aead.micLen) = some (skb.drop skb.hdrlen) := by
    have some_ := (ideal _ _ _ _ (sealing stack key skb).plain).mpr ⟨logged, texts⟩
    have filled : (rx.skb.cipherText aead.micLen).length ≠ 0 := by
      have := aead.encrypt_length (sealing stack key skb).nonce (sealing stack key skb).aad
        (sealing stack key skb).plain
      rw [texts] at this
      rw [this, sealing, List.length_drop]
      omega
    rw [aeadDecrypt, if_neg filled, nonce, sameAad]
    exact some_
  have looked : Looked rx.skb := by
    have fc : rx.skb.frameControl &&& fcInFlight = skb.frameControl &&& fcInFlight := by
      rw [alike.fc, protectable.sameBlocks_onAir.fc, protectable.frameControl_pushed]
    rcases protectable.type with data | ⟨robust, protect⟩
    · exact .inl ((ieee80211IsData_congr (fcKind_of_inFlight fc)).trans data)
    · exact .inr (ieee80211IsRobustMgmtFrame_of_protected robust protect (by omega) fc)
  rcases pnDecrypt_software ccmpNonce aead rxStack rxKey software looked with
    ⟨failed | failed | failed, -⟩ |
    ⟨plain, some_, -, -, done⟩
  · omega
  · exact absurd isFresh failed
  · rw [opened] at failed
    cases failed
  · rw [opened] at some_
    rw [ccmpDecrypt, done, header, pn, ← Option.some.inj some_]

/-- The frame itself is one that was encrypted under the key. -/
def Genuine (aead : Aead) (log : Sealing → Prop) (stack : List UInt8) (skb : Skb) : Prop :=
  ∃ plain, log ⟨ccmpNonce skb skb.pn, aad stack skb, plain⟩ ∧
    aead.encrypt (ccmpNonce skb skb.pn) (aad stack skb) plain =
      (skb.cipherText aead.micLen, skb.mic aead.micLen)

/-- A frame with a protected part of its header changed is rejected, unless it is not looked at
or, with another nonce, happens to be a frame that was encrypted under the key. -/
theorem ccmpDecrypt_tampered {log : Sealing → Prop} {rxStack : List UInt8}
    (ideal : aead.Ideal log)
    (once : ∀ s s', log s → log s' → s.nonce = s'.nonce → s = s')
    (logged : log (sealing stack key skb)) (protectable : Protectable skb)
    (changed : protectedPart rx.skb ≠ protectedPart (onAir aead stack key skb))
    (software : InSoftware rx) :
    (¬ Looked rx.skb ∧ ccmpDecrypt aead rxStack rx rxKey = ⟨.cont, rx.skb, rxKey⟩) ∨
      ((ccmpDecrypt aead rxStack rx rxKey).result = .dropUnusable ∧
        (ccmpDecrypt aead rxStack rx rxKey).key.rxPn = rxKey.rxPn) ∨
      (ccmpNonce rx.skb rx.skb.pn ≠ (sealing stack key skb).nonce ∧
        Genuine aead log rxStack rx.skb) := by
  by_cases looked : Looked rx.skb
  · right
    rcases pnDecrypt_software ccmpNonce aead rxStack rxKey software looked with
      ⟨-, rejected⟩ | ⟨plain, opened, long, -⟩
    · exact .inl rejected
    · right
      rw [aeadDecrypt] at opened
      split at opened
      · cases opened
      obtain ⟨made, texts⟩ := (ideal _ _ _ _ _).mp opened
      refine ⟨fun same => changed ?_, plain, made, texts⟩
      have entry := once _ _ made logged same
      have type : ieee80211IsData rx.skb.frameControl = true ∨
          ieee80211IsMgmt rx.skb.frameControl = true := by
        rcases looked with data | robust
        · exact .inl data
        · exact .inr (ieee80211IsMgmt_of_isRobustMgmtFrame robust)
      have le := protectable.le_hdrlen
      have whole := protectable.whole
      have le' : 24 ≤ rx.skb.hdrlen := le_hdrlen type
      have header : 24 ≤ (pushed key skb).hdrlen := by
        rw [Skb.hdrlen, protectable.frameControl_pushed]
        exact le
      have long' : 30 ≤ (pushed key skb).length := by
        rw [pushed, List.length_append, protectable.prefix_length]
        omega
      rw [protectable.sameBlocks_onAir.protectedPart]
      exact protectedPart_eq_of_aad type (by omega) long' header (congrArg Sealing.aad entry)
  · exact .inl ⟨looked, pnDecrypt_of_not_looked looked⟩

end Round

/-! ## The stored packet number -/

/-- How a frame can come out: looked at or not, and with its packet number stored or not. -/
theorem pnDecrypt_cases (nonce : Skb → Pn → List UInt8) (aead : Aead) (stack : List UInt8)
    (rx : CipherRx) (rxKey : CcmpKey) :
    ((pnDecrypt nonce aead stack rx rxKey).result = .cont ∧
        (pnDecrypt nonce aead stack rx rxKey).key.rxPn = rxKey.rxPn ∧
        (Looked rx.skb → rx.status.pnValidated = true)) ∨
      ((pnDecrypt nonce aead stack rx rxKey).result = .dropUnusable ∧
        (pnDecrypt nonce aead stack rx rxKey).key.rxPn = rxKey.rxPn) ∨
      ((pnDecrypt nonce aead stack rx rxKey).key.rxPn =
          update rxKey.rxPn rx.securityIdx rx.skb.pn ∧
        (rxKey.rxPn rx.securityIdx).value ≤ rx.skb.pn.value ∧
        (((pnDecrypt nonce aead stack rx rxKey).result = .dropUnusable ∧ rx.trimFails = true) ∨
          ((pnDecrypt nonce aead stack rx rxKey).result = .cont ∧
            (pnDecrypt nonce aead stack rx rxKey).skb.take rx.skb.hdrlen =
              rx.skb.take rx.skb.hdrlen ∧ rx.skb.hdrlen ≤ rx.skb.length))) := by
  have removed (skb : Skb) (micLen : Nat) (key : CcmpKey) :
      (removeHeaderAndMic rx skb micLen key).key = key ∧
        (((removeHeaderAndMic rx skb micLen key).result = .dropUnusable ∧ rx.trimFails = true) ∨
          ((removeHeaderAndMic rx skb micLen key).result = .cont ∧
            (rx.skb.hdrlen + micLen ≤ skb.length → (removeHeaderAndMic rx skb micLen key).skb.take
              rx.skb.hdrlen = skb.take rx.skb.hdrlen))) := by
    rw [removeHeaderAndMic]
    split
    · next fails => exact ⟨rfl, .inl ⟨rfl, (Bool.and_eq_true_iff.mp fails).2⟩⟩
    · refine ⟨rfl, .inr ⟨rfl, fun long => ?_⟩⟩
      have front : ((skb.take (skb.length - micLen)).take rx.skb.hdrlen).length =
          rx.skb.hdrlen := by
        rw [List.take_take, List.length_take]
        omega
      change ((skb.take (skb.length - micLen)).take rx.skb.hdrlen ++ _).take rx.skb.hdrlen = _
      rw [List.take_left' front, List.take_take, Nat.min_eq_left (by omega)]
  rw [pnDecrypt]
  dsimp only
  generalize (if rx.status.decrypted && rx.status.micStripped then 0 else aead.micLen) = micLen
  split
  · next other =>
      refine .inl ⟨rfl, rfl, ?_⟩
      rw [Bool.and_eq_true, Bool.not_eq_true', Bool.not_eq_true'] at other
      rintro (data | robust)
      · rw [other.1] at data
        cases data
      · rw [other.2] at robust
        cases robust
  split
  · exact .inr (.inl ⟨rfl, rfl⟩)
  split
  · exact .inr (.inl ⟨rfl, rfl⟩)
  split
  · exact .inr (.inl ⟨rfl, rfl⟩)
  next long =>
  rw [Bool.or_eq_true, not_or, decide_eq_true_eq, Nat.not_lt] at long
  split
  · next validated =>
      obtain ⟨key, ⟨dropped, -⟩ | ⟨accepted, -⟩⟩ := removed rx.skb micLen rxKey
      · exact .inr (.inl ⟨dropped, congrArg CcmpKey.rxPn key⟩)
      · exact .inl ⟨accepted, congrArg CcmpKey.rxPn key, fun _ => validated⟩
  split
  · exact .inr (.inl ⟨rfl, rfl⟩)
  next fresh =>
  have forward : (rxKey.rxPn rx.securityIdx).value ≤ rx.skb.pn.value := by
    have lengths : (rxKey.rxPn rx.securityIdx).bytes.length = rx.skb.pn.bytes.length := by
      rw [rx.skb.pn.length_eq, (rxKey.rxPn rx.securityIdx).length_eq]
    rw [not_or, not_lt] at fresh
    rcases fresh.1.lt_or_eq with greater | equal
    · exact ((memcmp_pos_iff lengths.symm).mp greater).le
    · have same : rx.skb.pn.bytes = (rxKey.rxPn rx.securityIdx).bytes :=
        eq_of_memcmp_eq_zero lengths.symm equal.symm
      rw [Pn.value, Pn.value, same]
  split
  · obtain ⟨key, ⟨dropped, fails⟩ | ⟨accepted, header⟩⟩ := removed rx.skb micLen
      { rxKey with rxPn := update rxKey.rxPn rx.securityIdx rx.skb.pn }
    · exact .inr (.inr ⟨congrArg CcmpKey.rxPn key, forward, .inl ⟨dropped, fails⟩⟩)
    · exact .inr (.inr ⟨congrArg CcmpKey.rxPn key, forward,
        .inr ⟨accepted, header (by omega), by omega⟩⟩)
  split
  · exact .inr (.inl ⟨rfl, rfl⟩)
  · next plain opened =>
      have front : (rx.skb.take (rx.skb.hdrlen + 8)).length = rx.skb.hdrlen + 8 :=
        List.length_take_of_le (by omega)
      obtain ⟨key, ⟨dropped, fails⟩ | ⟨accepted, header⟩⟩ := removed
        (rx.skb.take (rx.skb.hdrlen + 8) ++ plain ++ rx.skb.drop (rx.skb.length - micLen)) micLen
        { rxKey with rxPn := update rxKey.rxPn rx.securityIdx rx.skb.pn }
      · exact .inr (.inr ⟨congrArg CcmpKey.rxPn key, forward, .inl ⟨dropped, fails⟩⟩)
      · refine .inr (.inr ⟨congrArg CcmpKey.rxPn key, forward, .inr ⟨accepted, ?_, by omega⟩⟩)
        refine (header ?_).trans ?_
        · rw [List.length_append, List.length_append, front, List.length_drop]
          omega
        · rw [List.append_assoc, List.take_append_of_le_length (by omega), List.take_take,
            Nat.min_eq_left (by omega)]

/-- A frame's stored packet number changes only where the frame is accepted, and never back, as
long as memory does not run out when the MIC is trimmed. -/
theorem pnDecrypt_rxPn (nonce : Skb → Pn → List UInt8) (aead : Aead) (stack : List UInt8)
    {rx : CipherRx} (rxKey : CcmpKey) (trims : rx.trimFails = false) :
    (pnDecrypt nonce aead stack rx rxKey).key.rxPn = rxKey.rxPn ∨
      ((pnDecrypt nonce aead stack rx rxKey).result = .cont ∧
        (pnDecrypt nonce aead stack rx rxKey).key.rxPn =
          update rxKey.rxPn rx.securityIdx rx.skb.pn ∧
        (rxKey.rxPn rx.securityIdx).value ≤ rx.skb.pn.value) := by
  rcases pnDecrypt_cases nonce aead stack rx rxKey with ⟨-, same, -⟩ | ⟨-, same⟩ |
    ⟨stored, forward, ⟨-, fails⟩ | ⟨accepted, -⟩⟩
  · exact .inl same
  · exact .inl same
  · rw [trims] at fails
    cases fails
  · exact .inr ⟨accepted, stored, forward⟩

/-- Frames received one after another under one key, each with its result. -/
def ccmpDecryptRun (aead : Aead) (stack : List UInt8) :
    CcmpKey → List CipherRx → CcmpKey × List (CipherRx × RxResult)
  | key, [] => (key, [])
  | key, rx :: rest =>
      let first := ccmpDecrypt aead stack rx key
      let run := ccmpDecryptRun aead stack first.key rest
      (run.1, (rx, first.result) :: run.2)

theorem ccmpDecryptRun_rxPn (idx : Nat) (frames : List CipherRx) {rxKey : CcmpKey}
    (trims : ∀ rx ∈ frames, rx.trimFails = false) :
    (rxKey.rxPn idx).value ≤ ((ccmpDecryptRun aead stack rxKey frames).1.rxPn idx).value ∧
      ((ccmpDecryptRun aead stack rxKey frames).1.rxPn idx ≠ rxKey.rxPn idx →
        ∃ frame ∈ (ccmpDecryptRun aead stack rxKey frames).2,
          frame.1.securityIdx = idx ∧ frame.2 = .cont) := by
  induction frames generalizing rxKey with
  | nil => exact ⟨Nat.le_refl _, fun moved => absurd rfl moved⟩
  | cons rx rest ih =>
      obtain ⟨forward, accepted⟩ := @ih (ccmpDecrypt aead stack rx rxKey).key
        fun f member => trims f (List.mem_cons_of_mem rx member)
      have later (moved : (ccmpDecryptRun aead stack rxKey (rx :: rest)).1.rxPn idx ≠
            (ccmpDecrypt aead stack rx rxKey).key.rxPn idx) :
          ∃ frame ∈ (ccmpDecryptRun aead stack rxKey (rx :: rest)).2,
            frame.1.securityIdx = idx ∧ frame.2 = .cont := by
        obtain ⟨frame, member, which⟩ := accepted moved
        exact ⟨frame, List.mem_cons_of_mem _ member, which⟩
      rcases pnDecrypt_rxPn ccmpNonce aead stack rxKey (trims rx List.mem_cons_self) with
        same | ⟨isAccepted, stored, le⟩
      · have same' : (ccmpDecrypt aead stack rx rxKey).key.rxPn = rxKey.rxPn := same
        rw [same'] at forward later
        exact ⟨forward, later⟩
      · have stored' : (ccmpDecrypt aead stack rx rxKey).key.rxPn =
          update rxKey.rxPn rx.securityIdx rx.skb.pn := stored
        by_cases here : rx.securityIdx = idx
        · subst here
          rw [stored', Function.update_self] at forward
          exact ⟨le.trans forward, fun _ =>
            ⟨(rx, (ccmpDecrypt aead stack rx rxKey).result), List.mem_cons_self, rfl, isAccepted⟩⟩
        · rw [stored', Function.update_of_ne (Ne.symm here)] at forward later
          exact ⟨forward, later⟩

/-! ## The round trip -/

/-- Frames encrypted one after another in software by one key, and what becomes of each of them
when it is received, as it was or changed. -/
theorem ccmp_roundTrip (aead : Aead) (stackAt : Nat → List UInt8) (key : CcmpTxKey)
    (skbs : List Skb) (few : skbs.length ≤ 2 ^ 48)
    (ideal : aead.Ideal (CcmpLog stackAt key skbs)) :
    (∀ i tx key' sent, skbs[i]? = some tx.data →
      ccmpEncryptSkb aead (stackAt i) none (key.advance i) tx = some (key', sent) →
      Protectable tx.data → ∀ rxStack rx rxKey, InSoftware rx →
        rx.skb.length = sent.length →
        (tx.data.hdrlen < tx.data.length → AadFits tx.data → Alike rx.skb sent →
          (rxKey.rxPn rx.securityIdx).value < (key.advance i).nextPn.value →
            ccmpDecrypt aead rxStack rx rxKey =
              ⟨.cont, rx.skb.take tx.data.hdrlen ++ tx.data.drop tx.data.hdrlen,
                { rxKey with
                  rxPn := update rxKey.rxPn rx.securityIdx (key.advance i).nextPn }⟩) ∧
        (protectedPart rx.skb ≠ protectedPart sent →
          (¬ Looked rx.skb ∧ ccmpDecrypt aead rxStack rx rxKey = ⟨.cont, rx.skb, rxKey⟩) ∨
          ((ccmpDecrypt aead rxStack rx rxKey).result = .dropUnusable ∧
            (ccmpDecrypt aead rxStack rx rxKey).key.rxPn = rxKey.rxPn) ∨
          (ccmpNonce rx.skb rx.skb.pn ≠ ccmpNonce sent sent.pn ∧
            Genuine aead (CcmpLog stackAt key skbs) rxStack rx.skb))) ∧
    (∀ rxStack rxKey frames idx, (∀ rx ∈ frames, rx.trimFails = false) →
      (rxKey.rxPn idx).value ≤ ((ccmpDecryptRun aead rxStack rxKey frames).1.rxPn idx).value ∧
      ((ccmpDecryptRun aead rxStack rxKey frames).1.rxPn idx ≠ rxKey.rxPn idx →
        ∃ frame ∈ (ccmpDecryptRun aead rxStack rxKey frames).2,
          frame.1.securityIdx = idx ∧ frame.2 = .cont)) := by
  refine ⟨?_, fun rxStack rxKey frames idx trims => ccmpDecryptRun_rxPn idx frames trims⟩
  intro i tx key' sent here done protectable rxStack rx rxKey software length
  obtain ⟨-, rfl⟩ := ccmpEncryptSkb_eq_some done
  have logged : CcmpLog stackAt key skbs (sealing (stackAt i) (key.advance i) tx.data) :=
    ⟨i, tx.data, here, rfl⟩
  refine ⟨fun nonempty fits alike fresh => ?_, fun changed => ?_⟩
  · exact ccmpDecrypt_onAir ideal logged protectable nonempty fits alike length software fresh
  · have nonce : ccmpNonce (onAir aead (stackAt i) (key.advance i) tx.data)
        (onAir aead (stackAt i) (key.advance i) tx.data).pn =
          (sealing (stackAt i) (key.advance i) tx.data).nonce := by
      have pn : (onAir aead (stackAt i) (key.advance i) tx.data).pn = (key.advance i).nextPn := by
        rw [Skb.pn, protectable.hdrlen_onAir, protectable.drop_onAir]
        exact ccmpHdr2pn_pn2hdr _ _ _
      rw [pn, protectable.sameBlocks_onAir.ccmpNonce]
      rfl
    rw [nonce]
    exact ccmpDecrypt_tampered ideal (fun _ _ left right => left.eq_of_nonce few right) logged
      protectable changed software

/-- An AEAD that decrypts what it has encrypted, with a MIC of eight zeros. -/
def loggedAead (log : List Sealing) : Aead where
  encrypt _ _ plain := (plain, List.replicate 8 0)
  decrypt nonce aad data mic :=
    if ⟨nonce, aad, data⟩ ∈ log ∧ mic = List.replicate 8 0 then some data else none
  micLen := 8
  encrypt_length _ _ _ := rfl
  mic_length _ _ _ := rfl
  decrypt_length nonce aad data mic plain opened := by
    split at opened
    · rw [Option.some.inj opened]
    · cases opened

theorem loggedAead_ideal {log : List Sealing} {entries : Sealing → Prop}
    (same : ∀ s, entries s ↔ s ∈ log) : (loggedAead log).Ideal entries := by
  intro nonce aad data mic plain
  rw [same]
  change (if ⟨nonce, aad, data⟩ ∈ log ∧ mic = List.replicate 8 0 then some data else none) =
    some plain ↔ ⟨nonce, aad, plain⟩ ∈ log ∧ (plain, List.replicate 8 0) = (data, mic)
  constructor
  · intro opened
    split at opened
    · next logged =>
        obtain rfl := Option.some.inj opened
        exact ⟨logged.1, by rw [logged.2]⟩
    · cases opened
  · rintro ⟨logged, pair⟩
    obtain ⟨rfl, rfl⟩ := Prod.mk.inj pair
    rw [if_pos ⟨logged, rfl⟩]

theorem ccmpLog_singleton (stackAt : Nat → List UInt8) (key : CcmpTxKey) (skb : Skb)
    (s : Sealing) :
    CcmpLog stackAt key [skb] s ↔ s ∈ [sealing (stackAt 0) (key.advance 0) skb] := by
  rw [List.mem_singleton]
  constructor
  · rintro ⟨i, skb', here, rfl⟩
    cases i with
    | zero => rw [← Option.some.inj here]
    | succ i => cases here
  · rintro rfl
    exact ⟨0, skb, rfl, rfl⟩

/-- A QoS data frame with a body. -/
def qosDataFrame (body : List UInt8) : Skb :=
  [0x88, 0x41, 0, 0, 2, 0, 0, 0, 0, 1, 2, 0, 0, 0, 0, 2, 2, 0, 0, 0, 0, 3, 0x10, 0, 5, 0] ++ body

def exampleTxKey : CcmpTxKey := ⟨0, 1⟩

def exampleRxKey : CcmpKey := ⟨fun _ => .ofNat 0, 0⟩

/-- A frame for software decryption, of a known station. -/
def softwareRx (skb : Skb) : CipherRx :=
  ⟨skb, ⟨false, false, false, false, false⟩, true, (ieee80211ParseQos skb).2, false, false⟩

/-- The AEAD with the one encryption of a frame, and the frame in the air. -/
def exampleAead (skb : Skb) : Aead := loggedAead [sealing [] (exampleTxKey.advance 0) skb]

def exampleSent (skb : Skb) : Skb := onAir (exampleAead skb) [] (exampleTxKey.advance 0) skb

theorem exampleAead_ideal (skb : Skb) :
    (exampleAead skb).Ideal (CcmpLog (fun _ => []) exampleTxKey [skb]) :=
  loggedAead_ideal (ccmpLog_singleton (fun _ => []) exampleTxKey skb)

theorem ccmp_roundTrip_qosDataFrame :
    (ccmpDecrypt (exampleAead (qosDataFrame [0xaa])) []
      (softwareRx (exampleSent (qosDataFrame [0xaa]))) exampleRxKey).result = .cont := by
  have trip := ccmp_roundTrip (exampleAead (qosDataFrame [0xaa])) (fun _ => []) exampleTxKey
    [qosDataFrame [0xaa]] (by decide) (exampleAead_ideal _)
  have accepted := (trip.1 0 ⟨qosDataFrame [0xaa], 8, 8⟩ (exampleTxKey.advance 1)
    (exampleSent (qosDataFrame [0xaa])) rfl rfl ⟨by decide, .inl (by decide)⟩ []
    (softwareRx (exampleSent (qosDataFrame [0xaa]))) exampleRxKey ⟨rfl, rfl, rfl, rfl⟩ rfl).1
    (by decide) (show (qosDataFrame [0xaa]).hdrlen ≤ 32 by decide) ⟨rfl, rfl, rfl, rfl⟩
    (by decide)
  rw [accepted]

/-- A frame with an empty body is rejected as it is.  One whose type bits were changed so that it
is a control frame is passed on. -/
theorem not_ccmp_roundTrip :
    ((exampleAead (qosDataFrame [])).Ideal
        (CcmpLog (fun _ => []) exampleTxKey [qosDataFrame []]) ∧
      ∃ key' sent, ccmpEncryptSkb (exampleAead (qosDataFrame [])) [] none
        (exampleTxKey.advance 0) ⟨qosDataFrame [], 8, 8⟩ = some (key', sent) ∧
      (ccmpDecrypt (exampleAead (qosDataFrame [])) [] (softwareRx sent) exampleRxKey).result =
        .dropUnusable) ∧
    ∃ key' sent, ccmpEncryptSkb (exampleAead (qosDataFrame [0xaa])) [] none
        (exampleTxKey.advance 0) ⟨qosDataFrame [0xaa], 8, 8⟩ = some (key', sent) ∧
      sent.byte 0 = 0x88 ∧
      (ccmpDecrypt (exampleAead (qosDataFrame [0xaa])) [] (softwareRx (0x84 :: sent.tail))
        exampleRxKey).result = .cont := by
  refine ⟨⟨exampleAead_ideal _, exampleTxKey.advance 1, exampleSent (qosDataFrame []), rfl, ?_⟩,
    exampleTxKey.advance 1, exampleSent (qosDataFrame [0xaa]), rfl, rfl, ?_⟩
  · decide +kernel
  · decide +kernel

end Iwlwifi
