import Mathlib.Logic.Function.Basic
import Iwlwifi.Lib.Bytes
import Iwlwifi.Mac80211.Skb

/-!
# CCMP and GCMP in software

`ccmp_encrypt_skb`, `ieee80211_crypto_ccmp_decrypt` and their twins for GCMP of
`net/mac80211/wpa.c`.  The AEAD behind `ieee80211_aes_ccm_encrypt` is the kernel's crypto API
and a parameter.  Its wrapper in `aead_api.c`, which rejects an empty ciphertext, is not.  Where
an AAD is longer than its buffer of 32 bytes, `stack` is what lies behind the buffer.
-/

namespace Iwlwifi

open Lib
open Function (update)

/-! ## Packet numbers -/

/-- The six bytes of a packet number, most significant first. -/
structure Pn where
  bytes : List UInt8
  length_eq : bytes.length = 6
  deriving DecidableEq

namespace Pn

def value (pn : Pn) : Nat := bigEndian pn.bytes

/-- The low 48 bits of `tx_pn`. -/
def ofNat (pn64 : Nat) : Pn where
  bytes := [.ofNat (pn64 / 2 ^ 40), .ofNat (pn64 / 2 ^ 32), .ofNat (pn64 / 2 ^ 24),
    .ofNat (pn64 / 2 ^ 16), .ofNat (pn64 / 2 ^ 8), .ofNat pn64]
  length_eq := rfl

end Pn

/-- `ccmp_pn2hdr` -/
def ccmpPn2hdr (pn : Pn) (keyId : Nat) : List UInt8 :=
  [pn.bytes.getD 5 0, pn.bytes.getD 4 0, 0, .ofNat (0x20 ||| (keyId <<< 6)), pn.bytes.getD 3 0,
    pn.bytes.getD 2 0, pn.bytes.getD 1 0, pn.bytes.getD 0 0]

/-- `ccmp_hdr2pn` -/
def ccmpHdr2pn (hdr : List UInt8) : Pn where
  bytes := [hdr.getD 7 0, hdr.getD 6 0, hdr.getD 5 0, hdr.getD 4 0, hdr.getD 1 0, hdr.getD 0 0]
  length_eq := rfl

/-! ## Nonce and AAD -/

/-- `mask_fc` of `ccmp_special_blocks`. -/
def maskFc (fc : Nat) : Nat :=
  let mask := fc &&& (0xffff ^^^ (0x0800 ||| 0x1000 ||| 0x2000))
  let mask := if ieee80211IsMgmt fc then mask else mask &&& (0xffff ^^^ 0x0070)
  mask ||| 0x4000

/-- `qos_tid` -/
def qosTid (skb : Skb) : Nat := if ieee80211IsDataQos skb.frameControl then skb.tid else 0

/-- The bytes `aad[2]` to `aad[31]`. -/
def aadBuf (skb : Skb) : List UInt8 :=
  let mask := maskFc skb.frameControl
  [.ofNat mask, .ofNat (mask / 256)] ++ skb.span 4 18 ++ [skb.byte 22 &&& 0x0f, 0] ++
    if ieee80211HasA4 skb.frameControl then skb.addr4 ++ [.ofNat (qosTid skb), 0]
    else [.ofNat (qosTid skb), 0, 0, 0, 0, 0, 0, 0]

/-- The AAD that is passed on: `len_a` bytes from `aad[2]` on. -/
def aad (stack : List UInt8) (skb : Skb) : List UInt8 :=
  (aadBuf skb ++ stack).take (skb.hdrlen - 2)

/-- The nonce in `b_0` of `ccmp_special_blocks`. -/
def ccmpNonce (skb : Skb) (pn : Pn) : List UInt8 :=
  [.ofNat (qosTid skb ||| ((ieee80211IsMgmt skb.frameControl).toNat <<< 4))] ++ skb.addr2 ++
    pn.bytes

/-- The nonce in `j_0` of `gcmp_special_blocks`. -/
def gcmpNonce (skb : Skb) (pn : Pn) : List UInt8 := skb.addr2 ++ pn.bytes

/-- An AEAD under a key.  The ciphertext is as long as the plaintext. -/
structure Aead where
  encrypt : List UInt8 → List UInt8 → List UInt8 → List UInt8 × List UInt8
  decrypt : List UInt8 → List UInt8 → List UInt8 → List UInt8 → Option (List UInt8)
  micLen : Nat
  encrypt_length : ∀ nonce aad data, (encrypt nonce aad data).1.length = data.length
  mic_length : ∀ nonce aad data, (encrypt nonce aad data).2.length = micLen
  decrypt_length : ∀ nonce aad data mic plain, decrypt nonce aad data mic = some plain →
    plain.length = data.length

/-- `aead_decrypt` -/
def aeadDecrypt (aead : Aead) (nonce aad data mic : List UInt8) : Option (List UInt8) :=
  if data.length = 0 then none else aead.decrypt nonce aad data mic

/-! ## Sending -/

/-- The flags of `info->control.hw_key`. -/
structure HwKeyFlags where
  generateIv : Bool
  putIvSpace : Bool
  generateIvMgmt : Bool

structure CcmpTxKey where
  txPn : Nat
  keyidx : Nat

structure TxSkb where
  data : Skb
  headroom : Nat
  tailroom : Nat

/-- `ccmp_encrypt_skb`: `none` where it fails. -/
def ccmpEncryptSkb (aead : Aead) (stack : List UInt8) (hwKey : Option HwKeyFlags)
    (key : CcmpTxKey) (tx : TxSkb) : Option (CcmpTxKey × Skb) :=
  let skb := tx.data
  let hdrlen := skb.hdrlen
  let left := hwKey.any fun flags => !flags.generateIv && !flags.putIvSpace &&
    !(flags.generateIvMgmt && ieee80211IsMgmt skb.frameControl)
  if left then some (key, skb)
  else if tx.tailroom < (if hwKey.isSome then 0 else aead.micLen) ∨ tx.headroom < 8 then none
  else if hwKey.any (·.putIvSpace) then
    some (key, skb.take hdrlen ++ List.replicate 8 0 ++ skb.drop hdrlen)
  else
    let key := { key with txPn := (key.txPn + 1) % 2 ^ 64 }
    let pn := Pn.ofNat key.txPn
    let hdr := skb.take hdrlen ++ ccmpPn2hdr pn key.keyidx
    if hwKey.isSome then some (key, hdr ++ skb.drop hdrlen)
    else
      let pushed := hdr ++ skb.drop hdrlen
      let out := aead.encrypt (ccmpNonce pushed pn) (aad stack pushed) (skb.drop hdrlen)
      some (key, hdr ++ out.1 ++ out.2)

/-! ## Receiving -/

/-- The flags of `struct ieee80211_rx_status` that the ciphers look at. -/
structure RxStatus where
  decrypted : Bool
  ivStripped : Bool
  micStripped : Bool
  pnValidated : Bool
  allowSamePn : Bool

inductive RxResult
  | cont
  | dropUnusable
  | dropMonitor
  | queued
  deriving DecidableEq

/-- What a cipher is given.  `linearizeFails` and `trimFails` say whether memory runs out. -/
structure CipherRx where
  skb : Skb
  status : RxStatus
  hasSta : Bool
  securityIdx : Nat
  linearizeFails : Bool
  trimFails : Bool

/-- `key->u.ccmp`, which has the layout of `key->u.gcmp`. -/
structure CcmpKey where
  rxPn : Nat → Pn
  replays : Nat

/-- The state after a frame: the result, the frame and the key. -/
structure Decrypted where
  result : RxResult
  skb : Skb
  key : CcmpKey

/-- The security header and the MIC are removed. -/
def removeHeaderAndMic (rx : CipherRx) (skb : Skb) (micLen : Nat) (key : CcmpKey) : Decrypted :=
  if rx.status.decrypted && rx.trimFails then ⟨.dropUnusable, skb, key⟩
  else
    let skb := skb.take (skb.length - micLen)
    ⟨.cont, skb.take rx.skb.hdrlen ++ skb.drop (rx.skb.hdrlen + 8), key⟩

/-- The body that `ieee80211_crypto_ccmp_decrypt` and `ieee80211_crypto_gcmp_decrypt` share. -/
def pnDecrypt (nonce : Skb → Pn → List UInt8) (aead : Aead) (stack : List UInt8) (rx : CipherRx)
    (key : CcmpKey) : Decrypted :=
  let skb := rx.skb
  let hdrlen := skb.hdrlen
  let micLen := if rx.status.decrypted && rx.status.micStripped then 0 else aead.micLen
  if !ieee80211IsData skb.frameControl && !ieee80211IsRobustMgmtFrame skb then ⟨.cont, skb, key⟩
  else if rx.status.decrypted && decide (skb.length < hdrlen + 8) then ⟨.dropUnusable, skb, key⟩
  else if !rx.status.decrypted && rx.linearizeFails then ⟨.dropUnusable, skb, key⟩
  else if !rx.hasSta || decide (skb.length < hdrlen + 8 + micLen) then ⟨.dropUnusable, skb, key⟩
  else if rx.status.pnValidated then removeHeaderAndMic rx skb micLen key
  else
    let pn := ccmpHdr2pn (skb.drop hdrlen)
    let res := memcmp pn.bytes (key.rxPn rx.securityIdx).bytes
    if res < 0 ∨ (res = 0 ∧ rx.status.allowSamePn = false) then
      ⟨.dropUnusable, skb, { key with replays := key.replays + 1 }⟩
    else
      let key' := { key with rxPn := update key.rxPn rx.securityIdx pn }
      if rx.status.decrypted then removeHeaderAndMic rx skb micLen key'
      else
        let dataLen := skb.length - hdrlen - 8 - micLen
        match aeadDecrypt aead (nonce skb pn) (aad stack skb) (skb.span (hdrlen + 8) dataLen)
            (skb.drop (skb.length - micLen)) with
        | none => ⟨.dropUnusable, skb, key⟩
        | some plain =>
            removeHeaderAndMic rx
              (skb.take (hdrlen + 8) ++ plain ++ skb.drop (skb.length - micLen)) micLen key'

/-- `ieee80211_crypto_ccmp_decrypt` -/
def ccmpDecrypt (aead : Aead) (stack : List UInt8) (rx : CipherRx) (key : CcmpKey) : Decrypted :=
  pnDecrypt ccmpNonce aead stack rx key

end Iwlwifi
