import Iwlwifi.Mac80211.FastRx

/-!
# The fast receive path against the normal one

The Ethernet frame of the fast path and the one of `ieee80211_crypto_ccmp_decrypt` and
`ieee80211_data_to_8023` differ only in how many bytes are cut off at the end: the normal path
removes the MIC that is there (`micLeft`), the fast path what `rx->key` makes it remove
(`micCut`).
-/

namespace Iwlwifi.FastRx

open Lib
open Xmit (EtherAddr CipherSuite fctlTods fctlFromds frameControl_window)

/-! ## The normal path -/

/-- The MIC that `ieee80211_rx_h_decrypt` tells the cipher to remove. -/
def micLen : CipherSuite → Nat
  | .ccmp => 8
  | .ccmp256 | .gcmp | .gcmp256 => 16
  | _ => 0

/-- A frame without IV and MIC, which are removed as in `ieee80211_crypto_ccmp_decrypt` unless
the driver has removed them. -/
def stripIvMic (status : RxStatus) (micLen : Nat) (skb : Skb) : Option Skb :=
  let iv := if status.ivStripped then 0 else 8
  let mic := if status.micStripped then 0 else micLen
  if skb.length < skb.hdrlen + iv + mic then none
  else
    let kept := skb.take (skb.length - mic)
    some (kept.take skb.hdrlen ++ kept.drop (skb.hdrlen + iv))

/-- The Ethernet frame of the normal path. -/
def normalFrame (junk : List UInt8) (status : RxStatus) (sdata : RxSdata) (sta : RxSta)
    (skb : Skb) : Option Skb :=
  let stripped := match sta.ptk with
    | none => some skb
    | some cipher => stripIvMic status (micLen cipher) skb
  stripped.bind fun skb => dataTo8023 junk skb sdata.vifAddr.val sdata.vifType

/-- What the ciphers make of a data frame that the hardware has decrypted, with its IV, and whose
packet number was checked. -/
theorem pnDecrypt_eq_stripIvMic (nonce : Skb → Pn → List UInt8) (aead : Aead)
    (stack : List UInt8) (rx : CipherRx) (key : CcmpKey)
    (data : ieee80211IsData rx.skb.frameControl = true) (decrypted : rx.status.decrypted = true)
    (validated : rx.status.pnValidated = true) (hasIv : rx.status.ivStripped = false)
    (hasSta : rx.hasSta = true) (trims : rx.trimFails = false) :
    (if (pnDecrypt nonce aead stack rx key).result = .cont
      then some (pnDecrypt nonce aead stack rx key).skb else none) =
      stripIvMic rx.status aead.micLen rx.skb := by
  rw [stripIvMic, pnDecrypt]
  simp only [data, decrypted, hasIv, hasSta, validated, Bool.not_true, Bool.false_and,
    Bool.true_and, Bool.false_eq_true, if_false, Bool.false_or, decide_eq_true_eq, if_true]
  by_cases short : rx.skb.length < rx.skb.hdrlen + 8 +
      if rx.status.micStripped then 0 else aead.micLen
  · rw [if_pos short]
    split <;> simp
  · have header : ¬rx.skb.length < rx.skb.hdrlen + 8 := by omega
    rw [if_neg short, if_neg header, if_neg short, removeHeaderAndMic]
    simp only [trims, Bool.and_false, Bool.false_eq_true, if_false, if_true]

/-! ## Headers -/

section Header

variable {skb other : Skb}

/-- Frames with the same bytes up to the end of the header. -/
theorem window_eq_of_take {ofs len stop : Nat} (same : other.take stop = skb.take stop)
    (inside : ofs + len ≤ stop) : window other ofs len = window skb ofs len := by
  rw [← window_take inside, same, window_take inside]

theorem frameControl_eq_of_take {stop : Nat} (same : other.take stop = skb.take stop)
    (two : 2 ≤ stop) : Skb.frameControl other = skb.frameControl := by
  rw [← frameControl_window, window_eq_of_take same (by omega), frameControl_window]

/-- A header with four addresses has room for them. -/
theorem le_hdrlen_of_hasA4 {fc : Nat} (data : ieee80211IsData fc = true)
    (hasA4 : ieee80211HasA4 fc = true) : 30 ≤ ieee80211Hdrlen fc := by
  rw [ieee80211Hdrlen, if_pos data, if_pos hasA4]
  omega

/-- The four directions that have a fast path. -/
theorem of_directions {loc : RxLocal} {sdata : RxSdata} {sta : RxSta} {daOffs saOffs bits : Nat}
    (chosen : directions loc sdata sta = some (daOffs, saOffs, bits)) :
    (sdata.vifType = .station ∧ daOffs = 4 ∧ saOffs = 10 ∧ bits = 0) ∨
      (sdata.vifType = .station ∧ daOffs = 4 ∧ saOffs = 16 ∧ bits = 0x200) ∨
      ((sdata.vifType = .ap ∨ sdata.vifType = .apVlan) ∧
        daOffs = 16 ∧ saOffs = 10 ∧ bits = 0x100) ∨
      ((sdata.vifType = .station ∨ sdata.vifType = .apVlan) ∧
        daOffs = 16 ∧ saOffs = 24 ∧ bits = 0x300) := by
  rw [directions] at chosen
  cases type : sdata.vifType
  all_goals simp only [type] at chosen
  case station =>
    split at chosen
    · cases chosen
    split at chosen
    · cases chosen
      exact Or.inl ⟨rfl, rfl, rfl, rfl⟩
    split at chosen
    · cases chosen
      exact Or.inr (Or.inr (Or.inr ⟨Or.inl rfl, rfl, rfl, rfl⟩))
    · cases chosen
      exact Or.inr (Or.inl ⟨rfl, rfl, rfl, rfl⟩)
  case apVlan =>
    split at chosen
    · cases chosen
    split at chosen
    · cases chosen
      exact Or.inr (Or.inr (Or.inr ⟨Or.inr rfl, rfl, rfl, rfl⟩))
    · cases chosen
      exact Or.inr (Or.inr (Or.inl ⟨Or.inr rfl, rfl, rfl, rfl⟩))
  case ap =>
    split at chosen
    · cases chosen
    · cases chosen
      exact Or.inr (Or.inr (Or.inl ⟨Or.inl rfl, rfl, rfl, rfl⟩))
  all_goals cases chosen

/-- The places of the addresses of a `fast_rx` are those of the normal path, and the interface
takes frames of that direction. -/
theorem direction_eq {loc : RxLocal} {sdata : RxSdata} {sta : RxSta} {daOffs saOffs bits : Nat}
    (chosen : directions loc sdata sta = some (daOffs, saOffs, bits))
    (expected : skb.frameControl &&& (fctlFromds ||| fctlTods) = bits)
    (data : ieee80211IsData skb.frameControl = true)
    (unicast : isMulticastEtherAddr (window skb 4 6) = false) :
    daOffs + 6 ≤ skb.hdrlen ∧ saOffs + 6 ≤ skb.hdrlen ∧
      checkDirection skb sdata.vifAddr.val sdata.vifType skb.hdrlen =
        some (window skb daOffs 6, window skb saOffs 6, skb.hdrlen) := by
  have masked (part : Nat) (within : (fctlFromds ||| fctlTods) &&& part = part) :
      skb.frameControl &&& part = bits &&& part := by
    rw [← expected, Nat.land_assoc, within]
  have tods : ieee80211HasTods skb.frameControl = (bits &&& 0x0100 != 0) := by
    rw [ieee80211HasTods, masked 0x0100 (by decide)]
  have fromds : ieee80211HasFromds skb.frameControl = (bits &&& 0x0200 != 0) := by
    rw [ieee80211HasFromds, masked 0x0200 (by decide)]
  have three : 24 ≤ skb.hdrlen := le_hdrlen (Or.inl data)
  rcases of_directions chosen with ⟨type, rfl, rfl, rfl⟩ | ⟨type, rfl, rfl, rfl⟩ |
    ⟨type, rfl, rfl, rfl⟩ | ⟨type, rfl, rfl, rfl⟩
  · replace tods : ieee80211HasTods skb.frameControl = false := tods
    replace fromds : ieee80211HasFromds skb.frameControl = false := fromds
    refine ⟨by omega, by omega, ?_⟩
    simp [checkDirection, ieee80211GetDa, ieee80211GetSa, ieee80211HasA4, tods, fromds, type]
  · replace tods : ieee80211HasTods skb.frameControl = false := tods
    replace fromds : ieee80211HasFromds skb.frameControl = true := fromds
    refine ⟨by omega, by omega, ?_⟩
    simp [checkDirection, ieee80211GetDa, ieee80211GetSa, ieee80211HasA4, tods, fromds, type,
      unicast]
  · replace tods : ieee80211HasTods skb.frameControl = true := tods
    replace fromds : ieee80211HasFromds skb.frameControl = false := fromds
    refine ⟨by omega, by omega, ?_⟩
    rcases type with type | type
    all_goals
      simp [checkDirection, ieee80211GetDa, ieee80211GetSa, ieee80211HasA4, tods, fromds, type]
  · replace tods : ieee80211HasTods skb.frameControl = true := tods
    replace fromds : ieee80211HasFromds skb.frameControl = true := fromds
    have four : 30 ≤ skb.hdrlen := by
      refine le_hdrlen_of_hasA4 data ?_
      rw [ieee80211HasA4, tods, fromds, Bool.and_self]
    refine ⟨by omega, by omega, ?_⟩
    rcases type with type | type
    all_goals
      simp [checkDirection, ieee80211GetDa, ieee80211GetSa, ieee80211HasA4, tods, fromds, type]

end Header

/-! ## What is cut off -/

/-- The MIC that is there and that the normal path removes. -/
def micLeft (status : RxStatus) (fast : Ieee80211FastRx) : Nat :=
  if fast.key && !status.micStripped then fast.icvLen else 0

/-- What the fast path removes. -/
def micCut (call : FastRxCall) (fast : Ieee80211FastRx) : Nat :=
  if call.rxKey && !call.status.micStripped then fast.icvLen else 0

/-- `icv_len` is the length of the MIC, for the ciphers that have a fast path. -/
theorem icvLen_eq_micLen {cipher : CipherSuite}
    (handled : cipher = .ccmp ∨ cipher = .ccmp256 ∨ cipher = .gcmp ∨ cipher = .gcmp256) :
    icvLen cipher = micLen cipher ∧ 0 < icvLen cipher ∧ icvLen cipher ≤ 16 := by
  rcases handled with rfl | rfl | rfl | rfl
  all_goals decide

/-- What `ieee80211_check_fast_rx` has found when it installs a `fast_rx`. -/
theorem of_checkFastRx {loc : RxLocal} {sdata : RxSdata} {sta : RxSta} {allocated : Bool}
    {fast : Ieee80211FastRx} (installed : checkFastRx loc sdata sta allocated = some fast) :
    directions loc sdata sta = some (fast.daOffs, fast.saOffs, fast.expectedDsBits) ∧
      fast.vifAddr = sdata.vifAddr ∧
      ((sta.ptk = none ∧ fast.key = false ∧ fast.icvLen = 0) ∨
        ∃ cipher, sta.ptk = some cipher ∧ fast.key = true ∧ fast.icvLen = micLen cipher ∧
          0 < fast.icvLen ∧ fast.icvLen ≤ 16) := by
  rw [checkFastRx] at installed
  split at installed
  · cases installed
  obtain ⟨⟨daOffs, saOffs, bits⟩, chosen, installed⟩ := Option.bind_eq_some_iff.mp installed
  simp only at installed
  split at installed
  · cases installed
  obtain ⟨⟨key, icv⟩, keyed, installed⟩ := Option.bind_eq_some_iff.mp installed
  simp only at installed
  split at installed
  · cases installed
  cases installed
  refine ⟨chosen, rfl, ?_⟩
  rw [fastKey] at keyed
  cases ptk : sta.ptk with
  | none =>
      rw [ptk] at keyed
      cases keyed
      exact Or.inl ⟨rfl, rfl, rfl⟩
  | some cipher =>
      rw [ptk] at keyed
      simp only at keyed
      split at keyed
      · next handled =>
          cases keyed
          exact Or.inr ⟨cipher, rfl, rfl, icvLen_eq_micLen handled⟩
      · cases keyed

/-- A check that a delivered frame has passed. -/
theorem of_guard {fails : Prop} [Decidable fails] {verdict rest : FastRxVerdict} {frame : Skb}
    {route : Route} (delivered : (if fails then verdict else rest) = .delivered frame route)
    (other : verdict ≠ .delivered frame route) : ¬fails ∧ rest = .delivered frame route := by
  split at delivered
  · exact absurd delivered other
  · exact ⟨‹_›, delivered⟩

/-- What `ieee80211_invoke_fast_rx` has checked of a frame it delivers. -/
theorem of_invokeFastRx {call : FastRxCall} {fast : Ieee80211FastRx} {skb frame : Skb} {way : Route}
    (delivered : invokeFastRx call fast skb = .delivered frame way) :
    ieee80211IsDataPresent skb.frameControl = true ∧ window skb 4 6 = fast.vifAddr.val ∧
      skb.frameControl &&& (fctlFromds ||| fctlTods) = fast.expectedDsBits ∧
      snapOffs fast call.status.toRxStatus skb + 8 ≤ skb.length ∧
      window skb (snapOffs fast call.status.toRxStatus skb) 6 = rfc1042Header ∧
      ∃ trimmed, trimmed = (if call.rxKey && !call.status.micStripped then
          pskbTrim skb fast.icvLen else skb) ∧
        frame = window trimmed fast.daOffs 6 ++ window trimmed fast.saOffs 6 ++
          skbPull trimmed (snapOffs fast call.status.toRxStatus skb + 6) := by
  unfold invokeFastRx at delivered
  extract_lets status snap trimmed da sa ether at delivered
  obtain ⟨-, delivered⟩ := of_guard delivered nofun
  obtain ⟨-, delivered⟩ := of_guard delivered nofun
  obtain ⟨present, delivered⟩ := of_guard delivered nofun
  obtain ⟨-, delivered⟩ := of_guard delivered nofun
  obtain ⟨addressed, delivered⟩ := of_guard delivered nofun
  obtain ⟨direction, delivered⟩ := of_guard delivered nofun
  obtain ⟨long, delivered⟩ := of_guard delivered nofun
  obtain ⟨snapped, delivered⟩ := of_guard delivered nofun
  obtain ⟨-, delivered⟩ := of_guard delivered nofun
  obtain ⟨-, delivered⟩ := of_guard delivered nofun
  obtain ⟨-, delivered⟩ := of_guard delivered nofun
  obtain ⟨single, delivered⟩ := of_guard delivered (by split <;> exact nofun)
  obtain ⟨-, delivered⟩ := of_guard delivered nofun
  rw [Bool.not_eq_true] at single
  simp only [Bool.not_eq_true', Bool.not_eq_false] at present
  simp only [bne_iff_ne, ne_eq, Decidable.not_not] at addressed direction
  simp only [single, Bool.not_false, Bool.true_and, decide_eq_true_eq, Nat.not_lt] at long
  simp only [single, Bool.not_false, Bool.true_and, bne_iff_ne, ne_eq, Decidable.not_not] at snapped
  have sent : ether = frame := (FastRxVerdict.delivered.inj delivered).1
  exact ⟨present, addressed.symm, direction, long, snapped, trimmed, rfl, sent.symm⟩

/-! ## The two frames -/

section Frames

variable {loc : RxLocal} {sdata : RxSdata} {sta : RxSta} {allocated : Bool} {fast : Ieee80211FastRx}
  {status : RxStatus} {skb : Skb} {junk : List UInt8}

/-- A frame whose IV lies behind the header is converted as if it had none. -/
theorem dataTo8023_without_iv (installed : checkFastRx loc sdata sta allocated = some fast)
    (present : ieee80211IsDataPresent skb.frameControl = true)
    (expected : skb.frameControl &&& (fctlFromds ||| fctlTods) = fast.expectedDsBits)
    (unicast : isMulticastEtherAddr (window skb 4 6) = false) {iv : Nat}
    (snap : window skb (skb.hdrlen + iv) 6 = rfc1042Header)
    (notAarp : be16At skb (skb.hdrlen + iv + 6) ≠ ethPAarp)
    (notIpx : be16At skb (skb.hdrlen + iv + 6) ≠ ethPIpx)
    (long : skb.hdrlen + iv + 8 ≤ skb.length) :
    dataTo8023 junk (skb.take skb.hdrlen ++ skb.drop (skb.hdrlen + iv)) sdata.vifAddr.val
        sdata.vifType =
      some (window skb fast.daOffs 6 ++ window skb fast.saOffs 6 ++
        skb.drop (skb.hdrlen + iv + 6)) := by
  have data := ieee80211IsData_of_isDataPresent present
  obtain ⟨chosen, -, -⟩ := of_checkFastRx installed
  obtain ⟨daInside, saInside, -⟩ := direction_eq chosen expected data unicast
  have header : (skb.take skb.hdrlen).length = skb.hdrlen := by
    rw [List.length_take]
    omega
  -- the frame without the IV
  generalize other_eq : skb.take skb.hdrlen ++ skb.drop (skb.hdrlen + iv) = other
  have same : other.take skb.hdrlen = skb.take skb.hdrlen := by
    rw [← other_eq, List.take_left' header]
  have behind (n : Nat) : other.drop (skb.hdrlen + n) = skb.drop (skb.hdrlen + iv + n) := by
    rw [← other_eq, ← List.drop_drop, List.drop_left' header, List.drop_drop]
  have fc : Skb.frameControl other = skb.frameControl := by
    refine frameControl_eq_of_take same ?_
    have atLeast : 24 ≤ skb.hdrlen := le_hdrlen (Or.inl data)
    omega
  have hdrlen : Skb.hdrlen other = skb.hdrlen := by rw [Skb.hdrlen, fc, Skb.hdrlen]
  have addressed : window other 4 6 = window skb 4 6 := by
    refine window_eq_of_take same ?_
    have atLeast : 24 ≤ skb.hdrlen := le_hdrlen (Or.inl data)
    omega
  have direction : checkDirection other sdata.vifAddr.val sdata.vifType (Skb.hdrlen other) =
      some (window skb fast.daOffs 6, window skb fast.saOffs 6, Skb.hdrlen other) := by
    obtain ⟨-, -, direction⟩ :=
      @direction_eq other _ _ _ _ _ _ chosen (fc ▸ expected) (fc ▸ data) (addressed ▸ unicast)
    rw [direction, window_eq_of_take same daInside, window_eq_of_take same saInside]
  have type : be16At other (Skb.hdrlen other + 6) = be16At skb (skb.hdrlen + iv + 6) := by
    rw [hdrlen, ← be16At_drop, behind, be16At_drop]
  have length : skb.hdrlen + 8 ≤ other.length := by
    rw [← other_eq, List.length_append, header, List.length_drop]
    omega
  have snap' : window other (Skb.hdrlen other) 6 = rfc1042Header := by
    have rest := behind 0
    rw [Nat.add_zero, Nat.add_zero] at rest
    rw [hdrlen, window, rest, ← window, snap]
  rw [dataTo8023_of_rfc1042 (fc ▸ present) (hdrlen ▸ length) direction snap' (type ▸ notAarp)
    (type ▸ notIpx), hdrlen, behind]

/-- A frame that has lost its end and its IV is converted if there is room for an LLC/SNAP header
left. -/
theorem dataTo8023_stripped (installed : checkFastRx loc sdata sta allocated = some fast)
    (present : ieee80211IsDataPresent skb.frameControl = true)
    (expected : skb.frameControl &&& (fctlFromds ||| fctlTods) = fast.expectedDsBits)
    (unicast : isMulticastEtherAddr (window skb 4 6) = false) {iv left : Nat}
    (snap : window skb (skb.hdrlen + iv) 6 = rfc1042Header)
    (notAarp : be16At skb (skb.hdrlen + iv + 6) ≠ ethPAarp)
    (notIpx : be16At skb (skb.hdrlen + iv + 6) ≠ ethPIpx)
    (room : skb.hdrlen + iv + left ≤ skb.length) :
    dataTo8023 junk ((skb.take (skb.length - left)).take skb.hdrlen ++
        (skb.take (skb.length - left)).drop (skb.hdrlen + iv)) sdata.vifAddr.val sdata.vifType =
      if skb.hdrlen + iv + 8 + left ≤ skb.length then
        some (window skb fast.daOffs 6 ++ window skb fast.saOffs 6 ++
          (skb.take (skb.length - left)).drop (skb.hdrlen + iv + 6))
      else none := by
  have data := ieee80211IsData_of_isDataPresent present
  obtain ⟨chosen, -, -⟩ := of_checkFastRx installed
  obtain ⟨daInside, saInside, -⟩ := direction_eq chosen expected data unicast
  have atLeast : 24 ≤ skb.hdrlen := le_hdrlen (Or.inl data)
  generalize kept_eq : skb.take (skb.length - left) = kept
  have keptLength : kept.length = skb.length - left := by
    rw [← kept_eq, List.length_take]
    omega
  have inKept {ofs len : Nat} (inside : ofs + len + left ≤ skb.length) :
      window kept ofs len = window skb ofs len := by
    rw [← kept_eq]
    exact window_take (by omega)
  have fc : Skb.frameControl kept = skb.frameControl := by
    rw [← frameControl_window, inKept (by omega), frameControl_window]
  have hdrlen : Skb.hdrlen kept = skb.hdrlen := by rw [Skb.hdrlen, fc, Skb.hdrlen]
  split
  · next long =>
      have type : be16At kept (skb.hdrlen + iv + 6) = be16At skb (skb.hdrlen + iv + 6) := by
        have left := @be16At_window kept (skb.hdrlen + iv + 6) 2 0 (by decide)
        have right := @be16At_window skb (skb.hdrlen + iv + 6) 2 0 (by decide)
        rw [Nat.add_zero] at left right
        rw [← left, ← right, inKept (by omega)]
      have addressed : window kept 4 6 = window skb 4 6 := inKept (by omega)
      have snapped : window kept (skb.hdrlen + iv) 6 = window skb (skb.hdrlen + iv) 6 :=
        inKept (by omega)
      have converted := @dataTo8023_without_iv loc sdata sta allocated fast kept junk installed
        (fc ▸ present) (fc ▸ expected) (addressed ▸ unicast) iv
      rw [hdrlen] at converted
      rw [converted (snapped ▸ snap) (type ▸ notAarp) (type ▸ notIpx) (by omega),
        inKept (by omega), inKept (by omega)]
  · next short =>
      have header : (kept.take skb.hdrlen).length = skb.hdrlen := by
        rw [List.length_take]
        omega
      have sameFc : Skb.frameControl (kept.take skb.hdrlen ++ kept.drop (skb.hdrlen + iv)) =
          skb.frameControl := by
        rw [← fc]
        refine frameControl_eq_of_take ?_ (by omega : 2 ≤ skb.hdrlen)
        rw [List.take_left' header]
      have sameHdrlen : Skb.hdrlen (kept.take skb.hdrlen ++ kept.drop (skb.hdrlen + iv)) =
          skb.hdrlen := congrArg ieee80211Hdrlen sameFc
      refine dataTo8023_of_short ?_
      rw [sameHdrlen, List.length_append, header, List.length_drop, keptLength]
      omega

/-- The normal path delivers the frame without the IV and without the MIC that is left, if there
is room for an LLC/SNAP header then. -/
theorem normalFrame_eq (installed : checkFastRx loc sdata sta allocated = some fast)
    (present : ieee80211IsDataPresent skb.frameControl = true)
    (expected : skb.frameControl &&& (fctlFromds ||| fctlTods) = fast.expectedDsBits)
    (unicast : isMulticastEtherAddr (window skb 4 6) = false)
    (snap : window skb (snapOffs fast status skb) 6 = rfc1042Header)
    (long : snapOffs fast status skb + 8 ≤ skb.length)
    (notAarp : be16At skb (snapOffs fast status skb + 6) ≠ ethPAarp)
    (notIpx : be16At skb (snapOffs fast status skb + 6) ≠ ethPIpx) :
    normalFrame junk status sdata sta skb =
      if snapOffs fast status skb + 8 + micLeft status fast ≤ skb.length then
        some (window skb fast.daOffs 6 ++ window skb fast.saOffs 6 ++
          (skb.take (skb.length - micLeft status fast)).drop (snapOffs fast status skb + 6))
      else none := by
  obtain ⟨-, -, ⟨noKey, key, -⟩ | ⟨cipher, keyed, key, icv, -⟩⟩ := of_checkFastRx installed
  · have left : micLeft status fast = 0 := by rw [micLeft, key]; rfl
    have snapAt : snapOffs fast status skb = skb.hdrlen + 0 := by rw [snapOffs, key]; rfl
    rw [snapAt] at snap long notAarp notIpx ⊢
    have whole := @dataTo8023_stripped loc sdata sta allocated fast skb junk installed present
      expected unicast 0 0 snap notAarp notIpx (by omega)
    rw [Nat.sub_zero, List.take_length, Nat.add_zero, List.take_append_drop] at whole
    rw [normalFrame, noKey, left, Nat.sub_zero, List.take_length]
    exact whole
  · have left : micLeft status fast = if status.micStripped then 0 else micLen cipher := by
      rw [micLeft, key, icv]
      cases status.micStripped <;> rfl
    have snapAt : snapOffs fast status skb = skb.hdrlen + if status.ivStripped then 0 else 8 := by
      rw [snapOffs, key]
      cases status.ivStripped <;> rfl
    rw [snapAt] at snap long notAarp notIpx ⊢
    rw [normalFrame, keyed, left]
    simp only [stripIvMic]
    generalize (if status.ivStripped then 0 else 8) = iv at *
    generalize (if status.micStripped then 0 else micLen cipher) = mic at *
    by_cases short : skb.length < skb.hdrlen + iv + mic
    · simp only [if_pos short, Option.bind_none]
      rw [if_neg (by omega)]
    · simp only [if_neg short, Option.bind_some]
      exact dataTo8023_stripped installed present expected unicast snap notAarp notIpx
        (Nat.not_lt.mp short)

/-- The fast path cuts as much off as the normal path, and there is as much to be cut off. -/
def CutsMic (call : FastRxCall) (fast : Ieee80211FastRx) (skb : Skb) : Prop :=
  fast.key = false ∨ call.status.micStripped = true ∨
    (call.rxKey = true ∧
      snapOffs fast call.status.toRxStatus skb + 8 + fast.icvLen ≤ skb.length)

instance (call : FastRxCall) (fast : Ieee80211FastRx) (skb : Skb) :
    Decidable (CutsMic call fast skb) :=
  inferInstanceAs (Decidable (_ ∨ _ ∨ _))

/-- The fast path never cuts off more than the normal one. -/
theorem micCut_le {call : FastRxCall}
    (installed : checkFastRx loc sdata sta allocated = some fast) :
    micCut call fast ≤ micLeft call.status.toRxStatus fast := by
  obtain ⟨-, -, ⟨-, key, icv⟩ | ⟨-, -, key, -, -, -⟩⟩ := of_checkFastRx installed
  · rw [micCut, icv]
    split <;> exact Nat.zero_le _
  · rw [micCut, micLeft, key]
    cases call.status.micStripped
    · cases call.rxKey
      · exact Nat.zero_le _
      · exact Nat.le_refl _
    · simp

/-- What the condition says of the two lengths. -/
theorem cutsMic_iff {call : FastRxCall}
    (installed : checkFastRx loc sdata sta allocated = some fast)
    (long : snapOffs fast call.status.toRxStatus skb + 8 ≤ skb.length) :
    CutsMic call fast skb ↔
      micCut call fast = micLeft call.status.toRxStatus fast ∧
        snapOffs fast call.status.toRxStatus skb + 8 + micLeft call.status.toRxStatus fast ≤
          skb.length := by
  obtain ⟨-, -, ⟨-, key, icv⟩ | ⟨-, -, key, -, some, -⟩⟩ := of_checkFastRx installed
  · have left : micLeft call.status.toRxStatus fast = 0 := by
      rw [micLeft, key]
      rfl
    have cut : micCut call fast = 0 := by
      rw [micCut, icv]
      split <;> rfl
    rw [left, cut]
    exact ⟨fun _ => ⟨rfl, long⟩, fun _ => Or.inl key⟩
  · rw [CutsMic, micCut, micLeft, key]
    cases call.status.micStripped
    · cases call.rxKey
      · have other : (0 : Nat) ≠ fast.icvLen := by omega
        simp [other]
      · simp
    · simp [long]

/-- What the fast path hands to the stack is the frame of the normal path exactly if the station
has no key, the driver has removed the MIC, or `rx->key` is set and there is room. -/
theorem fastRx_eq_normal_iff {call : FastRxCall} {frame : Skb} {way : Route}
    (installed : checkFastRx loc sdata sta allocated = some fast)
    (unicast : isMulticastEtherAddr sdata.vifAddr.val = false)
    (delivered : invokeFastRx call fast skb = .delivered frame way)
    (notAarp : be16At skb (snapOffs fast call.status.toRxStatus skb + 6) ≠ ethPAarp)
    (notIpx : be16At skb (snapOffs fast call.status.toRxStatus skb + 6) ≠ ethPIpx) :
    normalFrame junk call.status.toRxStatus sdata sta skb = some frame ↔
      CutsMic call fast skb := by
  obtain ⟨present, addressed, expected, long, snap, trimmed, trimmed_eq, frame_eq⟩ :=
    of_invokeFastRx delivered
  obtain ⟨chosen, vifAddr, keys⟩ := of_checkFastRx installed
  have data := ieee80211IsData_of_isDataPresent present
  have unicast' : isMulticastEtherAddr (window skb 4 6) = false := by
    rw [addressed, vifAddr, unicast]
  obtain ⟨daInside, saInside, -⟩ := direction_eq chosen expected data unicast'
  have atLeast : 24 ≤ skb.hdrlen := le_hdrlen (Or.inl data)
  have behind : skb.hdrlen ≤ snapOffs fast call.status.toRxStatus skb := Nat.le_add_right _ _
  have small : fast.icvLen ≤ 16 := by
    obtain ⟨-, -, icv⟩ | ⟨-, -, -, -, -, icv⟩ := keys <;> omega
  have cutLe := @micCut_le loc sdata sta allocated fast call installed
  replace trimmed_eq : trimmed = skb.take (skb.length - micCut call fast) := by
    rw [trimmed_eq, micCut, pskbTrim]
    split
    · rw [if_neg (by omega)]
    · rw [Nat.sub_zero, List.take_length]
  have trimmedLength : trimmed.length = skb.length - micCut call fast := by
    rw [trimmed_eq, List.length_take]
    omega
  rw [cutsMic_iff installed long,
    normalFrame_eq installed present expected unicast' snap long notAarp notIpx]
  generalize snapOffs fast call.status.toRxStatus skb = snapAt at *
  generalize micLeft call.status.toRxStatus fast = left at *
  by_cases room : snapAt + 8 + left ≤ skb.length
  · rw [if_pos room, Option.some.injEq]
    constructor
    · intro same
      refine ⟨?_, room⟩
      have lengths := congrArg List.length same
      rw [frame_eq, skbPull, if_neg (by omega)] at lengths
      simp only [List.length_append, List.length_drop, trimmedLength, List.length_take] at lengths
      rw [window_length (by omega), window_length (by omega), window_length (by omega),
        window_length (by omega)] at lengths
      omega
    · rintro ⟨sameCut, -⟩
      rw [sameCut] at trimmed_eq trimmedLength
      rw [frame_eq, skbPull, if_neg (by omega), trimmed_eq, window_take (by omega),
        window_take (by omega)]
  · rw [if_neg room]
    exact ⟨nofun, fun both => absurd both.2 room⟩

end Frames

/-- A station interface on hardware that checks packet numbers. -/
def ccmpLocal : RxLocal := ⟨true, true, false, true, true, false⟩

def ccmpSdata : RxSdata :=
  ⟨.station, Xmit.localAddr 2, 0x888e, false, true, false, false, false⟩

def ccmpSta : RxSta := ⟨false, true, some .ccmp⟩

def ccmpFast : Ieee80211FastRx :=
  ⟨.station, Xmit.localAddr 2, 0x888e, true, 8, false, false, 0x0200, 4, 16⟩

/-- A decrypted frame; `rx->key` is what the memory was cleared to. -/
def ccmpCall (micStripped : Bool) : FastRxCall :=
  ⟨⟨⟨true, false, micStripped, true, false⟩, true, false⟩, false, false, true, fun _ => false,
    fun _ => false, true⟩

/-- An IPv4 frame of an access point with its IV, and with a MIC if there is one. -/
def ccmpFrame (mic : List UInt8) : Skb :=
  [0x08, 0x42, 0, 0] ++ [2, 0, 0, 0, 0, 2] ++ [2, 0, 0, 0, 0, 1] ++ [2, 0, 0, 0, 0, 3] ++ [0, 0] ++
    [1, 0, 0, 0x20, 0, 0, 0, 0] ++ rfc1042Header ++ [0x08, 0x00] ++ [1, 2, 3] ++ mic

/-- What the fast path makes of it. -/
def ccmpEther (mic : List UInt8) : Skb :=
  [2, 0, 0, 0, 0, 2] ++ [2, 0, 0, 0, 0, 3] ++ [0x08, 0x00] ++ [1, 2, 3] ++ mic

theorem fastRx_eq_normal_ccmp :
    normalFrame [] (ccmpCall true).status.toRxStatus ccmpSdata ccmpSta (ccmpFrame []) =
      some (ccmpEther []) :=
  (@fastRx_eq_normal_iff ccmpLocal ccmpSdata ccmpSta true ccmpFast (ccmpFrame []) []
    (ccmpCall true) (ccmpEther []) .stack rfl rfl rfl (by decide) (by decide)).mpr (by decide)

/-- Where the driver leaves the MIC at the end, it is handed to the stack. -/
theorem not_fastRx_eq_normal :
    checkFastRx ccmpLocal ccmpSdata ccmpSta true = some ccmpFast ∧
      invokeFastRx (ccmpCall false) ccmpFast (ccmpFrame [9, 9, 9, 9, 9, 9, 9, 9]) =
        .delivered (ccmpEther [9, 9, 9, 9, 9, 9, 9, 9]) .stack ∧
      normalFrame [] (ccmpCall false).status.toRxStatus ccmpSdata ccmpSta
        (ccmpFrame [9, 9, 9, 9, 9, 9, 9, 9]) = some (ccmpEther []) ∧
      ccmpEther [9, 9, 9, 9, 9, 9, 9, 9] ≠ ccmpEther [] :=
  ⟨rfl, rfl, rfl, by decide⟩

end Iwlwifi.FastRx
