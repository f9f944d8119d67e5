import Iwlwifi.Mac80211.Ccmp

/-!
# TKIP in software

The two phases of the key mixing and `ieee80211_tkip_decrypt_data` of `net/mac80211/tkip.c`,
`ieee80211_crypto_tkip_decrypt` and `ieee80211_rx_h_michael_mic_verify` of `wpa.c`, the Michael
MIC of `michael.c` and `ieee80211_wep_decrypt_data` of `wep.c`.  ARC4 and `crc32_le` are the
kernel's and parameters.
-/

namespace Iwlwifi

open Function (update)

/-! ## Words -/

/-- `get_unaligned_le16` -/
def getUnalignedLe16 (bytes : List UInt8) (offset : Nat) : UInt16 :=
  (bytes.getD offset 0).toUInt16 ||| ((bytes.getD (offset + 1) 0).toUInt16 <<< 8)

/-- `get_unaligned_le32` -/
def getUnalignedLe32 (bytes : List UInt8) (offset : Nat) : UInt32 :=
  (getUnalignedLe16 bytes offset).toUInt32 |||
    ((getUnalignedLe16 bytes (offset + 2)).toUInt32 <<< 16)

/-- `put_unaligned_le16` -/
def putUnalignedLe16 (value : UInt16) : List UInt8 := [value.toUInt8, (value >>> 8).toUInt8]

/-- `put_unaligned_le32` -/
def putUnalignedLe32 (value : UInt32) : List UInt8 :=
  putUnalignedLe16 value.toUInt16 ++ putUnalignedLe16 (value >>> 16).toUInt16

def swab16 (value : UInt16) : UInt16 := (value <<< 8) ||| (value >>> 8)

def ror16 (value : UInt16) (shift : UInt16) : UInt16 :=
  (value >>> shift) ||| (value <<< (16 - shift))

def rol32 (value : UInt32) (shift : UInt32) : UInt32 :=
  (value <<< shift) ||| (value >>> (32 - shift))

def ror32 (value : UInt32) (shift : UInt32) : UInt32 :=
  (value >>> shift) ||| (value <<< (32 - shift))

/-! ## Key mixing -/

def tkipSbox : List UInt16 :=
  [
   0xC6A5, 0xF884, 0xEE99, 0xF68D, 0xFF0D, 0xD6BD, 0xDEB1, 0x9154,
   0x6050, 0x0203, 0xCEA9, 0x567D, 0xE719, 0xB562, 0x4DE6, 0xEC9A,
   0x8F45, 0x1F9D, 0x8940, 0xFA87, 0xEF15, 0xB2EB, 0x8EC9, 0xFB0B,
   0x41EC, 0xB367, 0x5FFD, 0x45EA, 0x23BF, 0x53F7, 0xE496, 0x9B5B,
   0x75C2, 0xE11C, 0x3DAE, 0x4C6A, 0x6C5A, 0x7E41, 0xF502, 0x834F,
   0x685C, 0x51F4, 0xD134, 0xF908, 0xE293, 0xAB73, 0x6253, 0x2A3F,
   0x080C, 0x9552, 0x4665, 0x9D5E, 0x3028, 0x37A1, 0x0A0F, 0x2FB5,
   0x0E09, 0x2436, 0x1B9B, 0xDF3D, 0xCD26, 0x4E69, 0x7FCD, 0xEA9F,
   0x121B, 0x1D9E, 0x5874, 0x342E, 0x362D, 0xDCB2, 0xB4EE, 0x5BFB,
   0xA4F6, 0x764D, 0xB761, 0x7DCE, 0x527B, 0xDD3E, 0x5E71, 0x1397,
   0xA6F5, 0xB968, 0x0000, 0xC12C, 0x4060, 0xE31F, 0x79C8, 0xB6ED,
   0xD4BE, 0x8D46, 0x67D9, 0x724B, 0x94DE, 0x98D4, 0xB0E8, 0x854A,
   0xBB6B, 0xC52A, 0x4FE5, 0xED16, 0x86C5, 0x9AD7, 0x6655, 0x1194,
   0x8ACF, 0xE910, 0x0406, 0xFE81, 0xA0F0, 0x7844, 0x25BA, 0x4BE3,
   0xA2F3, 0x5DFE, 0x80C0, 0x058A, 0x3FAD, 0x21BC, 0x7048, 0xF104,
   0x63DF, 0x77C1, 0xAF75, 0x4263, 0x2030, 0xE51A, 0xFD0E, 0xBF6D,
   0x814C, 0x1814, 0x2635, 0xC32F, 0xBEE1, 0x35A2, 0x88CC, 0x2E39,
   0x9357, 0x55F2, 0xFC82, 0x7A47, 0xC8AC, 0xBAE7, 0x322B, 0xE695,
   0xC0A0, 0x1998, 0x9ED1, 0xA37F, 0x4466, 0x547E, 0x3BAB, 0x0B83,
   0x8CCA, 0xC729, 0x6BD3, 0x283C, 0xA779, 0xBCE2, 0x161D, 0xAD76,
   0xDB3B, 0x6456, 0x744E, 0x141E, 0x92DB, 0x0C0A, 0x486C, 0xB8E4,
   0x9F5D, 0xBD6E, 0x43EF, 0xC4A6, 0x39A8, 0x31A4, 0xD337, 0xF28B,
   0xD532, 0x8B43, 0x6E59, 0xDAB7, 0x018C, 0xB164, 0x9CD2, 0x49E0,
   0xD8B4, 0xACFA, 0xF307, 0xCF25, 0xCAAF, 0xF48E, 0x47E9, 0x1018,
   0x6FD5, 0xF088, 0x4A6F, 0x5C72, 0x3824, 0x57F1, 0x73C7, 0x9751,
   0xCB23, 0xA17C, 0xE89C, 0x3E21, 0x96DD, 0x61DC, 0x0D86, 0x0F85,
   0xE090, 0x7C42, 0x71C4, 0xCCAA, 0x90D8, 0x0605, 0xF701, 0x1C12,
   0xC2A3, 0x6A5F, 0xAEF9, 0x69D0, 0x1791, 0x9958, 0x3A27, 0x27B9,
   0xD938, 0xEB13, 0x2BB3, 0x2233, 0xD2BB, 0xA970, 0x0789, 0x33A7,
   0x2DB6, 0x3C22, 0x1592, 0xC920, 0x8749, 0xAAFF, 0x5078, 0xA57A,
   0x038F, 0x59F8, 0x0980, 0x1A17, 0x65DA, 0xD731, 0x84C6, 0xD0B8,
   0x82C3, 0x29B0, 0x5A77, 0x1E11, 0x7BCB, 0xA8FC, 0x6DD6, 0x2C3A]

def tkipS (val : UInt16) : UInt16 :=
  tkipSbox.getD (val &&& 0xff).toNat 0 ^^^ swab16 (tkipSbox.getD (val >>> 8).toNat 0)

/-- `p1k[5]` -/
structure P1k where
  k0 : UInt16
  k1 : UInt16
  k2 : UInt16
  k3 : UInt16
  k4 : UInt16
  deriving DecidableEq

/-- One turn of the loop of `tkip_mixing_phase1`. -/
def tkipMixingRound (tk : List UInt8) (p1k : P1k) (i : Nat) : P1k :=
  let j := 2 * (i % 2)
  let k0 := p1k.k0 + tkipS (p1k.k4 ^^^ getUnalignedLe16 tk (0 + j))
  let k1 := p1k.k1 + tkipS (k0 ^^^ getUnalignedLe16 tk (4 + j))
  let k2 := p1k.k2 + tkipS (k1 ^^^ getUnalignedLe16 tk (8 + j))
  let k3 := p1k.k3 + tkipS (k2 ^^^ getUnalignedLe16 tk (12 + j))
  let k4 := p1k.k4 + tkipS (k3 ^^^ getUnalignedLe16 tk (0 + j)) + .ofNat i
  ⟨k0, k1, k2, k3, k4⟩

/-- The key that `tkip_mixing_phase1` computes: Phase1(TK, TA, IV32). -/
def tkipPhase1 (tk ta : List UInt8) (iv32 : UInt32) : P1k :=
  (List.range 8).foldl (tkipMixingRound tk)
    ⟨iv32.toUInt16, (iv32 >>> 16).toUInt16, getUnalignedLe16 ta 0, getUnalignedLe16 ta 2,
      getUnalignedLe16 ta 4⟩

inductive TkipState
  | notInit
  | phase1Done
  | phase1HwUploaded
  deriving DecidableEq

/-- `struct tkip_ctx` -/
structure TkipCtx where
  p1k : P1k
  p1kIv32 : UInt32
  state : TkipState

/-- `tkip_mixing_phase1` -/
def tkipMixingPhase1 (tk ta : List UInt8) (iv32 : UInt32) : TkipCtx :=
  ⟨tkipPhase1 tk ta iv32, iv32, .phase1Done⟩

/-- `write_tkip_iv` -/
def writeTkipIv (iv16 : UInt16) : List UInt8 :=
  [(iv16 >>> 8).toUInt8, ((iv16 >>> 8) ||| 0x20).toUInt8 &&& 0x7f, iv16.toUInt8]

/-- `tkip_mixing_phase2`: the RC4 key. -/
def tkipMixingPhase2 (tk : List UInt8) (p1k : P1k) (iv16 : UInt16) : List UInt8 :=
  let k5 := p1k.k4 + iv16
  let k0 := p1k.k0 + tkipS (k5 ^^^ getUnalignedLe16 tk 0)
  let k1 := p1k.k1 + tkipS (k0 ^^^ getUnalignedLe16 tk 2)
  let k2 := p1k.k2 + tkipS (k1 ^^^ getUnalignedLe16 tk 4)
  let k3 := p1k.k3 + tkipS (k2 ^^^ getUnalignedLe16 tk 6)
  let k4 := p1k.k4 + tkipS (k3 ^^^ getUnalignedLe16 tk 8)
  let k5 := k5 + tkipS (k4 ^^^ getUnalignedLe16 tk 10)
  let k0 := k0 + ror16 (k5 ^^^ getUnalignedLe16 tk 12) 1
  let k1 := k1 + ror16 (k0 ^^^ getUnalignedLe16 tk 14) 1
  let k2 := k2 + ror16 k1 1
  let k3 := k3 + ror16 k2 1
  let k4 := k4 + ror16 k3 1
  let k5 := k5 + ror16 k4 1
  writeTkipIv iv16 ++ [((k5 ^^^ getUnalignedLe16 tk 0) >>> 1).toUInt8] ++
    [k0, k1, k2, k3, k4, k5].flatMap putUnalignedLe16

/-! ## WEP decryption -/

/-- `wep_rx_tfm` and `crc32_le` with the seed `~0`.  `allocated` is that the cipher is no
`IS_ERR`. -/
structure WepCipher where
  allocated : Bool
  arc4 : List UInt8 → List UInt8 → List UInt8
  arc4_length : ∀ key data, (arc4 key data).length = data.length
  crc32 : List UInt8 → UInt32

/-- `ieee80211_wep_decrypt_data`: whether the ICV matches, and the buffer. -/
def wepDecryptData (cipher : WepCipher) (rc4key data : List UInt8) : Bool × List UInt8 :=
  if !cipher.allocated then (false, data)
  else
    let plain := cipher.arc4 rc4key data
    let dataLen := data.length - 4
    (plain.drop dataLen == putUnalignedLe32 (~~~cipher.crc32 (plain.take dataLen)), plain)

/-! ## Michael -/

structure MichaelMicCtx where
  l : UInt32
  r : UInt32

def michaelBlock (mctx : MichaelMicCtx) (val : UInt32) : MichaelMicCtx :=
  let l := mctx.l ^^^ val
  let r := mctx.r ^^^ rol32 l 17
  let l := l + r
  let r := r ^^^ (((l &&& 0xff00ff00) >>> 8) ||| ((l &&& 0x00ff00ff) <<< 8))
  let l := l + r
  let r := r ^^^ rol32 l 3
  let l := l + r
  let r := r ^^^ ror32 l 2
  ⟨l + r, r⟩

/-- `ieee80211_get_DA` -/
def Skb.da (skb : Skb) : List UInt8 :=
  if ieee80211HasTods skb.frameControl then skb.span 16 6 else skb.addr1

/-- `ieee80211_get_SA` -/
def Skb.sa (skb : Skb) : List UInt8 :=
  if ieee80211HasA4 skb.frameControl then skb.addr4
  else if ieee80211HasFromds skb.frameControl then skb.span 16 6 else skb.addr2

/-- `michael_mic_hdr` -/
def michaelMicHdr (key : List UInt8) (hdr : Skb) : MichaelMicCtx :=
  let tid := if ieee80211IsDataQos hdr.frameControl then UInt32.ofNat hdr.tid else 0
  [getUnalignedLe32 hdr.da 0,
    (getUnalignedLe16 hdr.da 4).toUInt32 ||| ((getUnalignedLe16 hdr.sa 0).toUInt32 <<< 16),
    getUnalignedLe32 hdr.sa 2, tid].foldl michaelBlock
      ⟨getUnalignedLe32 key 0, getUnalignedLe32 key 4⟩

/-- The blocks of `michael_mic`: words of four bytes, the rest padded with `0x5a`, and zero. -/
def michaelBlocks : List UInt8 → List UInt32
  | a :: b :: c :: d :: rest => getUnalignedLe32 [a, b, c, d] 0 :: michaelBlocks rest
  | left => [left.foldr (fun byte val => (val <<< 8) ||| byte.toUInt32) 0x5a, 0]

def michaelMic (key : List UInt8) (hdr : Skb) (data : List UInt8) : List UInt8 :=
  let mctx := (michaelBlocks data).foldl michaelBlock (michaelMicHdr key hdr)
  putUnalignedLe32 mctx.l ++ putUnalignedLe32 mctx.r

/-! ## The key -/

/-- `struct tkip_ctx_rx` -/
structure TkipCtxRx where
  ctx : TkipCtx
  iv32 : UInt32
  iv16 : UInt16

/-- What does not change under a key: `key->conf`, the address of the station, whether the
interface is an AP and whether `update_tkip_key` is called. -/
structure TkipConf where
  keyidx : Nat
  key : List UInt8
  ta : List UInt8
  vifIsAp : Bool
  updateTkipKey : Bool

namespace TkipConf

/-- `NL80211_TKIP_DATA_OFFSET_ENCR_KEY` -/
def tk (conf : TkipConf) : List UInt8 := conf.key.take 16

/-- `NL80211_TKIP_DATA_OFFSET_RX_MIC_KEY` -/
def rxMicKey (conf : TkipConf) : List UInt8 := (conf.key.drop 24).take 8

end TkipConf

/-- `key->u.tkip` of the receiver. -/
structure TkipKey where
  rx : Nat → TkipCtxRx
  micFailures : Nat

/-- The key as `ieee80211_key_alloc` leaves it, with the counters of `seq`. -/
def TkipKey.alloc (iv32 : UInt32) (iv16 : UInt16) : TkipKey :=
  ⟨fun _ => ⟨⟨⟨0, 0, 0, 0, 0⟩, 0, .notInit⟩, iv32, iv16⟩, 0⟩

/-! ## Decryption -/

/-- `TKIP_DECRYPT_OK` to `TKIP_DECRYPT_REPLAY`.  Three of them are -1 in the source: too short
a frame, the missing extended IV and the ICV that does not match. -/
inductive TkipDecrypt
  | ok
  | short
  | noExtIv
  | invalidKeyidx
  | replay
  | icvMismatch
  deriving DecidableEq

/-- What `ieee80211_tkip_decrypt_data` leaves behind.  `p1k` is the key that phase 2 starts
from, where it is reached. -/
structure TkipData where
  res : TkipDecrypt
  payload : List UInt8
  ctx : TkipCtxRx
  p1k : Option P1k

/-- `iv32` of a payload. -/
def tkipIv32 (payload : List UInt8) : UInt32 := getUnalignedLe32 payload 4

/-- `iv16` of a payload. -/
def tkipIv16 (payload : List UInt8) : UInt16 :=
  ((payload.getD 0 0).toUInt16 <<< 8) ||| (payload.getD 2 0).toUInt16

/-- The checks of `ieee80211_tkip_decrypt_data` before it decrypts. -/
def tkipCheckIv (conf : TkipConf) (rxCtx : TkipCtxRx) (payload : List UInt8) : TkipDecrypt :=
  let keyid := payload.getD 3 0
  let iv32 := tkipIv32 payload
  let iv16 := tkipIv16 payload
  if payload.length < 12 then .short
  else if keyid &&& 0x20 = 0 then .noExtIv
  else if (keyid >>> 6).toNat ≠ conf.keyidx then .invalidKeyidx
  else if rxCtx.ctx.state ≠ .notInit ∧
      (iv32 < rxCtx.iv32 ∨ (iv32 = rxCtx.iv32 ∧ iv16 ≤ rxCtx.iv16)) then .replay
  else .ok

/-- The context that phase 2 is given: phase 1 is run again where the IV32 is not the one of
the last frame that was stored. -/
def tkipPhase1Ctx (conf : TkipConf) (rxCtx : TkipCtxRx) (iv32 : UInt32) : TkipCtx :=
  let ctx := if rxCtx.ctx.state = .notInit ∨ rxCtx.iv32 ≠ iv32
    then tkipMixingPhase1 conf.tk conf.ta iv32 else rxCtx.ctx
  if conf.updateTkipKey ∧ ctx.state ≠ .phase1HwUploaded
    then { ctx with state := .phase1HwUploaded } else ctx

/-- `ieee80211_tkip_decrypt_data` -/
def tkipDecryptData (cipher : WepCipher) (conf : TkipConf) (onlyIv : Bool) (rxCtx : TkipCtxRx)
    (payload : List UInt8) : TkipData :=
  let res := tkipCheckIv conf rxCtx payload
  if res ≠ .ok then ⟨res, payload, rxCtx, none⟩
  else if onlyIv then
    ⟨.ok, payload, { rxCtx with ctx := { rxCtx.ctx with state := .phase1HwUploaded } }, none⟩
  else
    let ctx := tkipPhase1Ctx conf rxCtx (tkipIv32 payload)
    let rc4key := tkipMixingPhase2 conf.tk ctx.p1k (tkipIv16 payload)
    let out := wepDecryptData cipher rc4key (payload.drop 8)
    ⟨if out.1 then .ok else .icvMismatch, payload.take 8 ++ out.2, { rxCtx with ctx := ctx },
      some ctx.p1k⟩

/-- The flags of `struct ieee80211_rx_status` that TKIP and the Michael MIC look at. -/
structure TkipStatus where
  decrypted : Bool
  ivStripped : Bool
  icvStripped : Bool
  mmicStripped : Bool
  mmicError : Bool

/-- A frame for the key.  The receive path has dropped the frames that are shorter than their
header. -/
structure TkipRx where
  skb : Skb
  status : TkipStatus
  hasSta : Bool
  securityIdx : Nat
  linearizeFails : Bool
  michaelLinearizeFails : Bool
  hdrlen_le : skb.hdrlen ≤ skb.length

/-- What follows the header of a frame. -/
def TkipRx.payload (rx : TkipRx) : List UInt8 := rx.skb.drop rx.skb.hdrlen

/-- The IV32 of a frame. -/
def TkipRx.iv32 (rx : TkipRx) : UInt32 := tkipIv32 rx.payload

/-- Whether `ieee80211_crypto_tkip_decrypt` drops a frame before it looks at the IV. -/
def TkipRx.unusable (rx : TkipRx) : Bool :=
  !rx.hasSta || decide (rx.payload.length < 12) || rx.linearizeFails

/-- What `ieee80211_crypto_tkip_decrypt` leaves behind.  `res` and `p1k` are those of
`ieee80211_tkip_decrypt_data`, where it is called. -/
structure TkipDecrypted where
  result : RxResult
  skb : Skb
  rxCtx : TkipCtxRx
  res : Option TkipDecrypt
  p1k : Option P1k

/-- `ieee80211_crypto_tkip_decrypt` -/
def tkipDecrypt (cipher : WepCipher) (conf : TkipConf) (rxCtx : TkipCtxRx) (rx : TkipRx) :
    TkipDecrypted :=
  let skb := rx.skb
  if !ieee80211IsData skb.frameControl then ⟨.cont, skb, rxCtx, none, none⟩
  else if rx.unusable then ⟨.dropUnusable, skb, rxCtx, none, none⟩
  else
    let out := tkipDecryptData cipher conf rx.status.decrypted rxCtx rx.payload
    let skb := skb.take skb.hdrlen ++ out.payload
    if out.res ≠ .ok then ⟨.dropUnusable, skb, out.ctx, some out.res, out.p1k⟩
    else
      let skb := if rx.status.icvStripped then skb else skb.take (skb.length - 4)
      let skb := skb.take rx.skb.hdrlen ++ skb.drop (rx.skb.hdrlen + 8)
      ⟨.cont, skb, out.ctx, some out.res, out.p1k⟩

/-! ## Verification -/

/-- The labels of `ieee80211_rx_h_michael_mic_verify` and its plain returns. -/
inductive MichaelMicVerdict
  | cont
  | drop
  | updateIv (skb : Skb)
  | micFail
  | micFailNoKey
  deriving DecidableEq

/-- The branches of `ieee80211_rx_h_michael_mic_verify` under a TKIP key. -/
def michaelMicVerdict (conf : TkipConf) (status : TkipStatus) (linearizeFails : Bool)
    (skb : Skb) : MichaelMicVerdict :=
  if !ieee80211IsDataPresent skb.frameControl then .cont
  else if status.mmicStripped || status.ivStripped then
    if status.mmicError then .micFailNoKey
    else if !status.ivStripped then .updateIv skb
    else .cont
  else if !status.decrypted then .cont
  else if conf.vifIsAp ∧ conf.keyidx ≠ 0 then .drop
  else if status.mmicError then .micFail
  else if skb.length < skb.hdrlen + 8 then .drop
  else if linearizeFails then .drop
  else
    let data := (skb.take (skb.length - 8)).drop skb.hdrlen
    if michaelMic conf.rxMicKey skb data ≠ skb.drop (skb.length - 8) then .micFail
    else .updateIv (skb.take (skb.length - 8))

/-- What the two handlers make of a frame. -/
structure TkipOutcome where
  result : RxResult
  skb : Skb
  res : Option TkipDecrypt
  micFailed : Bool
  p1k : Option P1k
  deriving DecidableEq

/-- A replay, or a frame whose ICV or whose Michael MIC does not match. -/
def TkipOutcome.rejected (outcome : TkipOutcome) : Bool :=
  outcome.res == some .replay || outcome.res == some .icvMismatch || outcome.micFailed

/-- `ieee80211_rx_h_michael_mic_verify` after `ieee80211_crypto_tkip_decrypt`. -/
def michaelMicVerify (conf : TkipConf) (key : TkipKey) (rx : TkipRx) (out : TkipDecrypted) :
    TkipKey × TkipOutcome :=
  let key := { key with rx := update key.rx rx.securityIdx out.rxCtx }
  -- `ieee80211_rx_h_decrypt` sets `RX_FLAG_DECRYPTED` in between
  match michaelMicVerdict conf { rx.status with decrypted := true } rx.michaelLinearizeFails
      out.skb with
  | .cont => (key, ⟨.cont, out.skb, out.res, false, out.p1k⟩)
  | .drop => (key, ⟨.dropUnusable, out.skb, out.res, false, out.p1k⟩)
  | .updateIv skb =>
      let rxCtx := { out.rxCtx with iv32 := tkipIv32 rx.payload, iv16 := tkipIv16 rx.payload }
      ({ key with rx := update key.rx rx.securityIdx rxCtx },
        ⟨.cont, skb, out.res, false, out.p1k⟩)
  | .micFail =>
      ({ key with micFailures := key.micFailures + 1 },
        ⟨.dropUnusable, out.skb, out.res, true, out.p1k⟩)
  | .micFailNoKey => (key, ⟨.dropUnusable, out.skb, out.res, true, out.p1k⟩)

/-- A frame goes through decryption and, unless it is dropped there, through verification. -/
def tkipReceive (cipher : WepCipher) (conf : TkipConf) (key : TkipKey) (rx : TkipRx) :
    TkipKey × TkipOutcome :=
  let out := tkipDecrypt cipher conf (key.rx rx.securityIdx) rx
  match out.result with
  | .cont => michaelMicVerify conf key rx out
  | result =>
      ({ key with rx := update key.rx rx.securityIdx out.rxCtx },
        ⟨result, out.skb, out.res, false, out.p1k⟩)

end Iwlwifi
