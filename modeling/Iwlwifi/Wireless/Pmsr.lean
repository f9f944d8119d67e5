import Mathlib.Data.Nat.Bitwise
import Iwlwifi.Wireless.Chan

/-!
# Measurement requests

`nl80211_pmsr_start` parses a peer measurement request from netlink and checks it against the
capabilities of the device before the driver gets it.  Most checks of `pmsr_parse_ftm` end in
`-EINVAL`; those of the two location flags set an error message and go on.  The loop of
`pmsr_parse_peer` over the sub-requests overwrites the error of one by the result of the next,
and accepts a peer without any.  `fits_iff` says what follows for an accepted request.

An attribute stands with the word that `nla_get_u32` reads at it, of which the shorter
attributes hold the low bytes.  The channel of a peer stands as `nl80211_parse_chandef` has
parsed it.  A shift takes its count modulo 64, as the instruction does; the policy does not
bound the preamble.
-/

namespace Iwlwifi.Pmsr

/-! ## Capabilities and requests -/

abbrev Addr := BitVec 48

inductive Errno where
  | einval
  | eopnotsupp
  | chandef (code : Nat)
  | randomMac (code : Nat)
  deriving DecidableEq, Repr

/-- The `ftm` of `struct cfg80211_pmsr_capabilities`. -/
structure FtmCapa where
  preambles : UInt32
  bandwidths : UInt32
  maxBurstsExponent : Int8
  maxFtmsPerBurst : UInt8
  asap : Bool
  nonAsap : Bool
  requestLci : Bool
  requestCivicloc : Bool
  deriving DecidableEq, Repr

/-- `struct cfg80211_pmsr_capabilities`. -/
structure PmsrCapa where
  maxPeers : Nat
  reportApTsf : Bool
  randomizeMacAddr : Bool
  ftm : FtmCapa
  deriving DecidableEq, Repr

/-- `enum nl80211_peer_measurement_ftm_req`. -/
inductive FtmReqAttr where
  | asap
  | preamble
  | numBurstsExp
  | burstPeriod
  | burstDuration
  | ftmsPerBurst
  | numFtmrRetries
  | requestLci
  | requestCivicloc
  deriving DecidableEq, Repr

/-- A sub-request: the type of its attribute and the attributes in it. -/
structure TReq where
  type : Nat
  attrs : List (FtmReqAttr × UInt32)
  deriving DecidableEq, Repr

def nl80211PmsrTypeFtm : Nat := 1
def nl80211Band60ghz : Nat := 2
def nl80211PreambleDmg : UInt32 := 3

/-- A channel definition that has been parsed, with its channel. -/
structure Parsed where
  chandef : ChanDef
  chan : Channel
  has : chandef.chan = some chan

/-- `NL80211_PMSR_PEER_ATTR_REQ`. -/
structure ReqAttrs where
  data : Option (List TReq)
  getApTsf : Bool

/-- The attributes of a peer. -/
structure PeerAttrs where
  addr : Option Addr
  chan : Option (Except Nat Parsed)
  req : Option ReqAttrs

/-- `struct cfg80211_pmsr_ftm_request_peer`. -/
structure FtmRequestPeer where
  preamble : UInt32 := 0
  burstPeriod : UInt16 := 0
  requested : Bool := false
  asap : Bool := false
  requestLci : Bool := false
  requestCivicloc : Bool := false
  numBurstsExp : UInt8 := 0
  burstDuration : UInt8 := 0
  ftmsPerBurst : UInt8 := 0
  ftmrRetries : UInt8 := 0
  deriving DecidableEq, Repr

/-- `struct cfg80211_pmsr_request_peer`; `chandef` is `none` while it is zero. -/
structure RequestPeer where
  addr : Addr := 0
  chandef : Option Parsed := none
  reportApTsf : Bool := false
  ftm : FtmRequestPeer := {}

/-- What a function returns, what it has written and the last error message. -/
structure Outcome (α : Type) where
  err : Option Errno
  out : α
  msg : Option String

/-! ## A ranging sub-request -/

/-- `BIT`. -/
def bit (nr : UInt32) : UInt64 := 1 <<< nr.toUInt64

/-- A test of a bitmap of capabilities. -/
def capable (mask : UInt32) (nr : UInt32) : Bool := mask.toUInt64 &&& bit nr != 0

/-- `enum nl80211_chan_width` as a number. -/
def widthNr : Nl80211ChanWidth → UInt32
  | .w20NoHt => 0
  | .w20 => 1
  | .w40 => 2
  | .w80 => 3
  | .w80p80 => 4
  | .w160 => 5
  | .w5 => 6
  | .w10 => 7

section

variable (attrs : List (FtmReqAttr × UInt32))

/-- The table of parsed attributes, where the last of its kind stands. -/
def tb (attr : FtmReqAttr) : Option UInt32 := attrs.reverse.lookup attr

def preambleOf : UInt32 := (tb attrs .preamble).getD nl80211PreambleDmg
def burstPeriodOf : UInt16 := ((tb attrs .burstPeriod).getD 0).toUInt16
def asapOf : Bool := (tb attrs .asap).isSome
def numBurstsExpOf : UInt8 := ((tb attrs .numBurstsExp).getD 0).toUInt8
def burstDurationOf : UInt8 := ((tb attrs .burstDuration).getD 15).toUInt8
def ftmsPerBurstOf : UInt8 := ((tb attrs .ftmsPerBurst).getD 0).toUInt8
def ftmrRetriesOf : UInt8 := ((tb attrs .numFtmrRetries).getD 3).toUInt8
def requestLciOf : Bool := (tb attrs .requestLci).isSome
def requestCiviclocOf : Bool := (tb attrs .requestCivicloc).isSome

/-- `pmsr_parse_ftm` from the retries on, where nothing fails. -/
def parseFtmLocation (capa : FtmCapa) (out : FtmRequestPeer) (msg : Option String) :
    Outcome FtmRequestPeer where
  err := none
  out :=
    { out with
      ftmrRetries := ftmrRetriesOf attrs
      requestLci := requestLciOf attrs
      requestCivicloc := requestCiviclocOf attrs }
  msg :=
    if requestCiviclocOf attrs && !capa.requestCivicloc then
      some "FTM: civic location request not supported"
    else if requestLciOf attrs && !capa.requestLci then some "FTM: LCI request not supported"
    else msg

/-- `pmsr_parse_ftm` from the bursts on. -/
def parseFtmBursts (capa : FtmCapa) (out : FtmRequestPeer) (msg : Option String) :
    Outcome FtmRequestPeer :=
  let out := { out with numBurstsExp := numBurstsExpOf attrs }
  if 0 ≤ capa.maxBurstsExponent.toInt ∧ capa.maxBurstsExponent.toInt < out.numBurstsExp.toNat then
    { err := some .einval, out
      msg := some "FTM: max NUM_BURSTS_EXP must be set lower than the device limit" }
  else
    let out :=
      { out with
        burstDuration := burstDurationOf attrs
        ftmsPerBurst := ftmsPerBurstOf attrs }
    if capa.maxFtmsPerBurst ≠ 0 ∧
        (capa.maxFtmsPerBurst < out.ftmsPerBurst ∨ out.ftmsPerBurst = 0) then
      { err := some .einval, out
        msg := some
          "FTM: FTMs per burst must be set lower than the device limit but non-zero" }
    else parseFtmLocation attrs capa out msg

/-- `pmsr_parse_ftm`. -/
def pmsrParseFtm (capa : FtmCapa) (parsed : Parsed) (out : FtmRequestPeer)
    (msg : Option String) : Outcome FtmRequestPeer :=
  if !capable capa.bandwidths (widthNr parsed.chandef.width) then
    { err := some .einval, out, msg := some "FTM: unsupported bandwidth" }
  else
    let out := { out with requested := true }
    if parsed.chan.band ≠ nl80211Band60ghz ∧ (tb attrs .preamble).isNone then
      { err := some .einval, out, msg := some "FTM: must specify preamble" }
    else if !capable capa.preambles (preambleOf attrs) then
      { err := some .einval, out, msg := some "FTM: invalid preamble" }
    else
      let out :=
        { out with
          preamble := preambleOf attrs
          burstPeriod := burstPeriodOf attrs
          asap := asapOf attrs }
      if out.asap && !capa.asap then
        { err := some .einval, out, msg := some "FTM: ASAP mode not supported" }
      else if !out.asap && !capa.nonAsap then
        { err := some .einval, out, msg := some "FTM: non-ASAP mode not supported" }
      else parseFtmBursts attrs capa out msg

end

/-! ## A peer -/

/-- One turn of the loop over the sub-requests. -/
def parseReq (capa : PmsrCapa) (parsed : Parsed) (before : Outcome RequestPeer) (treq : TReq) :
    Outcome RequestPeer :=
  if treq.type = nl80211PmsrTypeFtm then
    let ftm := pmsrParseFtm treq.attrs capa.ftm parsed before.out.ftm before.msg
    { err := ftm.err, out := { before.out with ftm := ftm.out }, msg := ftm.msg }
  else { before with err := some .einval, msg := some "unsupported measurement type" }

/-- `pmsr_parse_peer` from the parsed channel on. -/
def parsePeerReq (capa : PmsrCapa) (parsed : Parsed) (req : ReqAttrs) (out : RequestPeer)
    (msg : Option String) : Outcome RequestPeer :=
  match req.data with
  | none => { err := some .einval, out, msg := some "missing request type/data" }
  | some data =>
      let out := { out with reportApTsf := out.reportApTsf || req.getApTsf }
      if out.reportApTsf && !capa.reportApTsf then
        { err := some .einval, out, msg := some "reporting AP TSF is not supported" }
      else data.foldl (parseReq capa parsed) { err := none, out, msg }

/-- `pmsr_parse_peer`. -/
def pmsrParsePeer (capa : PmsrCapa) (peer : PeerAttrs) (out : RequestPeer)
    (msg : Option String) : Outcome RequestPeer :=
  match peer.addr, peer.chan, peer.req with
  | some addr, some chan, some req =>
      let out := { out with addr }
      match chan with
      | .error code => { err := some (.chandef code), out, msg }
      | .ok parsed => parsePeerReq capa parsed req { out with chandef := some parsed } msg
  | _, _, _ => { err := some .einval, out, msg := some "insufficient peer data" }

/-! ## The request -/

/-- The attributes of the command: of `NL80211_ATTR_PEER_MEASUREMENTS` the peers, the timeout,
and the address and mask of `nl80211_parse_random_mac` where there is an address. -/
structure StartAttrs where
  peers : Option (List PeerAttrs)
  timeout : Option UInt32
  mac : Option (Except Nat (Addr × Addr))

/-- `struct cfg80211_pmsr_request`, as the driver gets it. -/
structure Request where
  timeout : UInt32
  macAddr : Addr
  macAddrMask : Addr
  peers : List RequestPeer

/-- The loop of `nl80211_pmsr_start` over the peers. -/
def parsePeers (capa : PmsrCapa) : List PeerAttrs → Option String →
    Except Errno (List RequestPeer)
  | [], _ => .ok []
  | peer :: rest, msg =>
      let parsed := pmsrParsePeer capa peer {} msg
      match parsed.err with
      | some err => .error err
      | none => (parsePeers capa rest parsed.msg).map (parsed.out :: ·)

/-- The MAC address of a request and its mask. -/
def requestMac (capa : PmsrCapa) (wdevAddress : Addr) :
    Option (Except Nat (Addr × Addr)) → Except Errno (Addr × Addr)
  | none => .ok (wdevAddress, BitVec.allOnes 48)
  | some mac =>
      if !capa.randomizeMacAddr then .error .einval
      else
        match mac with
        | .error code => .error (.randomMac code)
        | .ok mac => .ok mac

/-- `nl80211_pmsr_start` up to `rdev_start_pmsr`. -/
def nl80211PmsrStart (pmsrCapa : Option PmsrCapa) (wdevAddress : Addr) (attrs : StartAttrs) :
    Except Errno Request :=
  match pmsrCapa with
  | none => .error .eopnotsupp
  | some capa =>
      match attrs.peers with
      | none => .error .einval
      | some peers =>
          if capa.maxPeers < peers.length then .error .einval
          else
            match requestMac capa wdevAddress attrs.mac with
            | .error err => .error err
            | .ok mac =>
                (parsePeers capa peers none).map fun parsed =>
                  { timeout := attrs.timeout.getD 0
                    macAddr := mac.1
                    macAddrMask := mac.2
                    peers := parsed }

/-! ## What the device allows -/

/-- The preamble that a sub-request means; it is optional only in the 60 GHz band. -/
def preambleIn (parsed : Parsed) (attrs : List (FtmReqAttr × UInt32)) : Option UInt32 :=
  (tb attrs .preamble).or
    (if parsed.chan.band = nl80211Band60ghz then some nl80211PreambleDmg else none)

/-- The parameters of a ranging sub-request are ones that the device has. -/
structure FtmFits (capa : FtmCapa) (parsed : Parsed) (attrs : List (FtmReqAttr × UInt32)) :
    Prop where
  bandwidth : capa.bandwidths.toNat.testBit (widthNr parsed.chandef.width).toNat
  preamble : (preambleIn parsed attrs).any (capa.preambles.toNat.testBit ·.toNat)
  asap : if asapOf attrs then capa.asap else capa.nonAsap
  bursts : 0 ≤ capa.maxBurstsExponent.toInt →
    (numBurstsExpOf attrs).toNat ≤ capa.maxBurstsExponent.toInt
  ftms : capa.maxFtmsPerBurst ≠ 0 →
    ftmsPerBurstOf attrs ≠ 0 ∧ ftmsPerBurstOf attrs ≤ capa.maxFtmsPerBurst
  lci : requestLciOf attrs → capa.requestLci
  civicloc : requestCiviclocOf attrs → capa.requestCivicloc

/-- A peer has sub-requests, all of them for ranging and with parameters of the device. -/
def PeerFits (capa : PmsrCapa) (peer : PeerAttrs) : Prop :=
  ∃ parsed req data, peer.chan = some (.ok parsed) ∧ peer.req = some req ∧
    req.data = some data ∧ data ≠ [] ∧
    ∀ treq ∈ data, treq.type = nl80211PmsrTypeFtm ∧ FtmFits capa.ftm parsed treq.attrs

/-- The parser accepts the sub-request when it is the only one. -/
def Passes (capa : PmsrCapa) (parsed : Parsed) (treq : TReq) : Prop :=
  (parseReq capa parsed { err := none, out := {}, msg := none } treq).err = none

/-- What no check refuses is as it should be: the number of the preamble is one of a bit, and
only a location that the device can ask for is asked for. -/
structure Unrefused (capa : FtmCapa) (attrs : List (FtmReqAttr × UInt32)) : Prop where
  preamble : (preambleOf attrs).toNat < 64
  lci : requestLciOf attrs → capa.requestLci
  civicloc : requestCiviclocOf attrs → capa.requestCivicloc

/-- The condition on a peer: it has sub-requests, none but the last relies on its error being
reported, and none on what no check refuses. -/
def PeerChecked (capa : PmsrCapa) (peer : PeerAttrs) : Prop :=
  ∃ parsed req data, peer.chan = some (.ok parsed) ∧ peer.req = some req ∧
    req.data = some data ∧ data ≠ [] ∧
    (∀ treq ∈ data.dropLast, Passes capa parsed treq) ∧
    ∀ treq ∈ data, Unrefused capa.ftm treq.attrs

/-! ## The checks -/

theorem capable_iff (mask nr : UInt32) :
    capable mask nr ↔ mask.toNat.testBit (nr.toNat % 64) := by
  have shifted : (bit nr).toNat = 2 ^ (nr.toNat % 64) := by
    have below : nr.toNat % 64 < 64 := Nat.mod_lt _ (by decide)
    rw [bit, UInt64.toNat_shiftLeft, UInt32.toNat_toUInt64, UInt64.toNat_one, Nat.one_shiftLeft]
    exact Nat.mod_eq_of_lt (Nat.pow_lt_pow_right (by decide) below)
  rw [capable, bne_iff_ne, ne_eq, ← UInt64.toNat_inj, UInt64.toNat_and, shifted,
    UInt32.toNat_toUInt64, Nat.and_two_pow]
  cases mask.toNat.testBit (nr.toNat % 64) <;> simp

theorem widthNr_lt (width : Nl80211ChanWidth) : (widthNr width).toNat < 64 := by
  cases width <;> decide

/-- What `pmsr_parse_ftm` checks. -/
structure FtmChecked (capa : FtmCapa) (parsed : Parsed) (attrs : List (FtmReqAttr × UInt32)) :
    Prop where
  bandwidth : capable capa.bandwidths (widthNr parsed.chandef.width)
  preambleGiven : parsed.chan.band = nl80211Band60ghz ∨ (tb attrs .preamble).isSome
  preamble : capable capa.preambles (preambleOf attrs)
  asap : if asapOf attrs then capa.asap else capa.nonAsap
  bursts : 0 ≤ capa.maxBurstsExponent.toInt →
    (numBurstsExpOf attrs).toNat ≤ capa.maxBurstsExponent.toInt
  ftms : capa.maxFtmsPerBurst ≠ 0 →
    ftmsPerBurstOf attrs ≠ 0 ∧ ftmsPerBurstOf attrs ≤ capa.maxFtmsPerBurst

/-- A check that fails ends in its error. -/
theorem err_ite {α : Type} {failed : Prop} [Decidable failed] {error rest : Outcome α}
    (reported : error.err ≠ none) :
    (if failed then error else rest).err = none ↔ ¬failed ∧ rest.err = none := by
  split
  · next fails => exact iff_of_false reported fun passed => passed.1 fails
  · next passes => exact (and_iff_right passes).symm

variable {capa : PmsrCapa} {parsed : Parsed} {msg : Option String}

theorem pmsrParseFtm_err_iff {capa : FtmCapa} {attrs : List (FtmReqAttr × UInt32)}
    {out : FtmRequestPeer} :
    (pmsrParseFtm attrs capa parsed out msg).err = none ↔ FtmChecked capa parsed attrs := by
  have some' : some Errno.einval ≠ none := Option.some_ne_none _
  unfold pmsrParseFtm parseFtmBursts
  dsimp only
  rw [err_ite some', err_ite some', err_ite some', err_ite some', err_ite some', err_ite some',
    err_ite some']
  have mode : (¬(asapOf attrs && !capa.asap) = true ∧ ¬(!asapOf attrs && !capa.nonAsap) = true) ↔
      if asapOf attrs then capa.asap = true else capa.nonAsap = true := by
    cases asapOf attrs <;> simp
  constructor
  · intro passed
    obtain ⟨bandwidth, given, preamble, asap, nonAsap, bursts, ftms, _⟩ := passed
    refine ⟨by simpa using bandwidth, ?_, by simpa using preamble, mode.mp ⟨asap, nonAsap⟩, ?_, ?_⟩
    · by_cases optional : parsed.chan.band = nl80211Band60ghz
      · exact .inl optional
      · exact .inr (Option.isSome_iff_ne_none.mpr fun missing =>
          given ⟨optional, Option.isNone_iff_eq_none.mpr missing⟩)
    · exact fun limited => Int.not_lt.mp fun beyond => bursts ⟨limited, beyond⟩
    · intro limited
      refine ⟨fun zero => ftms ⟨limited, .inr zero⟩, UInt8.not_lt.mp fun beyond => ?_⟩
      exact ftms ⟨limited, .inl beyond⟩
  · intro checked
    obtain ⟨asap, nonAsap⟩ := mode.mpr checked.asap
    refine ⟨by simpa using checked.bandwidth, ?_, by simpa using checked.preamble, asap, nonAsap,
      ?_, ?_, rfl⟩
    · intro missing
      obtain optional | given := checked.preambleGiven
      · exact missing.1 optional
      · exact Option.isSome_iff_ne_none.mp given (Option.isNone_iff_eq_none.mp missing.2)
    · exact fun beyond => Int.not_lt.mpr (checked.bursts beyond.1) beyond.2
    · intro beyond
      obtain ⟨some', within⟩ := checked.ftms beyond.1
      exact beyond.2.elim (UInt8.not_lt.mpr within) some'

/-! ## One sub-request -/

/-- A preamble that is meant is the one that is read. -/
theorem preambleIn_any_iff {attrs : List (FtmReqAttr × UInt32)} {p : UInt32 → Bool} :
    (preambleIn parsed attrs).any p ↔
      (parsed.chan.band = nl80211Band60ghz ∨ (tb attrs .preamble).isSome) ∧
        p (preambleOf attrs) := by
  unfold preambleIn preambleOf
  cases tb attrs .preamble with
  | some given => simp
  | none => by_cases optional : parsed.chan.band = nl80211Band60ghz <;> simp [optional]

/-- A sub-request fits the device exactly when it is accepted and right in what no check
refuses. -/
theorem ftmFits_iff {capa : FtmCapa} {attrs : List (FtmReqAttr × UInt32)} :
    FtmFits capa parsed attrs ↔ FtmChecked capa parsed attrs ∧ Unrefused capa attrs := by
  have width : (widthNr parsed.chandef.width).toNat % 64 = (widthNr parsed.chandef.width).toNat :=
    Nat.mod_eq_of_lt (widthNr_lt _)
  constructor
  · intro fits
    obtain ⟨given, preamble⟩ := preambleIn_any_iff.mp fits.preamble
    have below : (preambleOf attrs).toNat < 64 := by
      by_contra beyond
      have small : capa.preambles.toNat < 2 ^ (preambleOf attrs).toNat :=
        Nat.lt_of_lt_of_le capa.preambles.toNat_lt
          (Nat.pow_le_pow_right (by decide) (by omega))
      rw [Nat.testBit_lt_two_pow small] at preamble
      exact absurd preamble Bool.false_ne_true
    refine ⟨⟨?_, given, ?_, fits.asap, fits.bursts, fits.ftms⟩, below, fits.lci, fits.civicloc⟩
    · rw [capable_iff, width]
      exact fits.bandwidth
    · rw [capable_iff, Nat.mod_eq_of_lt below]
      exact preamble
  · intro both
    obtain ⟨checked, unrefused⟩ := both
    have bandwidth := (capable_iff _ _).mp checked.bandwidth
    have preamble := (capable_iff _ _).mp checked.preamble
    rw [width] at bandwidth
    rw [Nat.mod_eq_of_lt unrefused.preamble] at preamble
    exact ⟨bandwidth, preambleIn_any_iff.mpr ⟨checked.preambleGiven, preamble⟩, checked.asap,
      checked.bursts, checked.ftms, unrefused.lci, unrefused.civicloc⟩

theorem parseReq_err_iff {before : Outcome RequestPeer} {treq : TReq} :
    (parseReq capa parsed before treq).err = none ↔
      treq.type = nl80211PmsrTypeFtm ∧ FtmChecked capa.ftm parsed treq.attrs := by
  unfold parseReq
  split
  · next ftm => exact pmsrParseFtm_err_iff.trans (and_iff_right ftm).symm
  · next other => exact iff_of_false (Option.some_ne_none _) fun passed => other passed.1

theorem passes_iff {treq : TReq} :
    Passes capa parsed treq ↔
      treq.type = nl80211PmsrTypeFtm ∧ FtmChecked capa.ftm parsed treq.attrs :=
  parseReq_err_iff

/-! ## The sub-requests of a peer -/

/-- The error of the loop is that of its last turn. -/
theorem foldl_parseReq_err {before : Outcome RequestPeer} (start : before.err = none)
    (data : List TReq) :
    (data.foldl (parseReq capa parsed) before).err = none ↔
      ∀ last ∈ data.getLast?, Passes capa parsed last := by
  obtain rfl | ⟨earlier, last, rfl⟩ := List.eq_nil_or_concat' data
  · exact iff_of_true start fun _ none => absurd none (Option.not_mem_none _)
  · rw [List.foldl_append, List.foldl_cons, List.foldl_nil, List.getLast?_concat,
      parseReq_err_iff, ← passes_iff]
    simp

/-- What is accepted for a peer. -/
theorem pmsrParsePeer_accepted {peer : PeerAttrs} {out : RequestPeer}
    (accepted : (pmsrParsePeer capa peer out msg).err = none) :
    ∃ parsed req data, peer.chan = some (.ok parsed) ∧ peer.req = some req ∧
      req.data = some data ∧ ∀ last ∈ data.getLast?, Passes capa parsed last := by
  unfold pmsrParsePeer at accepted
  split at accepted
  swap
  · cases accepted
  next addr chan req _ chanGiven reqGiven =>
  dsimp only at accepted
  split at accepted
  · cases accepted
  next parsed =>
  unfold parsePeerReq at accepted
  split at accepted
  · cases accepted
  next data dataGiven =>
  dsimp only at accepted
  split at accepted
  · cases accepted
  · exact ⟨parsed, req, data, chanGiven, reqGiven, dataGiven,
      (foldl_parseReq_err rfl data).mp accepted⟩

/-- An accepted peer fits the device exactly when it meets the condition. -/
theorem peerFits_iff {peer : PeerAttrs} {out : RequestPeer}
    (accepted : (pmsrParsePeer capa peer out msg).err = none) :
    PeerFits capa peer ↔ PeerChecked capa peer := by
  constructor
  · intro fit
    obtain ⟨parsed, req, data, chanGiven, reqGiven, dataGiven, some', fits⟩ := fit
    refine ⟨parsed, req, data, chanGiven, reqGiven, dataGiven, some', fun treq earlier => ?_,
      fun treq member => (ftmFits_iff.mp (fits treq member).2).2⟩
    have member := List.dropLast_subset _ earlier
    exact passes_iff.mpr ⟨(fits treq member).1, (ftmFits_iff.mp (fits treq member).2).1⟩
  · intro met
    obtain ⟨parsed, req, data, chanGiven, reqGiven, dataGiven, some', earlier, unrefused⟩ := met
    refine ⟨parsed, req, data, chanGiven, reqGiven, dataGiven, some', fun treq member => ?_⟩
    obtain ⟨parsed', req', data', chanGiven', reqGiven', dataGiven', last⟩ :=
      pmsrParsePeer_accepted accepted
    obtain rfl : parsed' = parsed :=
      Except.ok.inj (Option.some.inj (chanGiven'.symm.trans chanGiven))
    obtain rfl : req' = req := Option.some.inj (reqGiven'.symm.trans reqGiven)
    obtain rfl : data' = data := Option.some.inj (dataGiven'.symm.trans dataGiven)
    have passes : Passes capa parsed' treq := by
      rw [← List.dropLast_append_getLast some'] at member
      obtain before | here := List.mem_append.mp member
      · exact earlier treq before
      · rw [List.mem_singleton.mp here]
        exact last _ (List.getLast?_eq_some_getLast some')
    obtain ⟨ftm, checked⟩ := passes_iff.mp passes
    exact ⟨ftm, ftmFits_iff.mpr ⟨checked, unrefused treq member⟩⟩

/-! ## Accepted requests -/

/-- Each peer of an accepted request is accepted. -/
theorem parsePeers_accepted {peers : List PeerAttrs} {out : List RequestPeer}
    (accepted : parsePeers capa peers msg = .ok out) :
    ∀ peer ∈ peers, ∃ msg, (pmsrParsePeer capa peer {} msg).err = none := by
  induction peers generalizing msg out with
  | nil => exact List.forall_mem_nil _
  | cons peer rest ih =>
      rw [parsePeers] at accepted
      split at accepted
      · cases accepted
      · next passed =>
          refine List.forall_mem_cons.mpr ⟨⟨msg, passed⟩, ?_⟩
          cases later : parsePeers capa rest (pmsrParsePeer capa peer {} msg).msg with
          | error err =>
              rw [later] at accepted
              cases accepted
          | ok out => exact ih later

/-- Where the parser succeeds on all peers, they fit the device exactly when each has a
sub-request, all its sub-requests but the last pass on their own, and none asks for a location
that the device cannot ask for or for a preamble whose number is beyond the word. -/
theorem fits_iff {capa : PmsrCapa} {peers : List PeerAttrs} {msg : Option String}
    {out : List RequestPeer} (accepted : parsePeers capa peers msg = .ok out) :
    (∀ peer ∈ peers, PeerFits capa peer) ↔ ∀ peer ∈ peers, PeerChecked capa peer := by
  refine forall₂_congr fun peer member => ?_
  obtain ⟨msg, passed⟩ := parsePeers_accepted accepted peer member
  exact peerFits_iff passed

/-- A device that can range in the non-ASAP mode with the HT preamble over 20 MHz, and that can
ask for no location. -/
def htDevice : PmsrCapa where
  maxPeers := 5
  reportApTsf := false
  randomizeMacAddr := false
  ftm :=
    { preambles := 2
      bandwidths := 2
      maxBurstsExponent := 0
      maxFtmsPerBurst := 8
      asap := false
      nonAsap := true
      requestLci := false
      requestCivicloc := false }

/-- A peer on a channel of 20 MHz, with its sub-requests. -/
def peerWith (data : List TReq) : PeerAttrs :=
  let chan : Channel :=
    { band := 1, centerFreq := 5180, flags := 0, dfsState := .usable, dfsStateEntered := 0
      dfsCacMs := 0 }
  { addr := some 2
    chan := some (.ok
      { chandef := { chan := some chan, width := .w20, centerFreq1 := 5180, centerFreq2 := 0 }
        chan
        has := rfl })
    req := some { data := some data, getApTsf := false } }

/-- A ranging sub-request of four frames with the HT preamble. -/
def ranging : TReq where
  type := nl80211PmsrTypeFtm
  attrs := [(.preamble, 1), (.ftmsPerBurst, 4)]

/-- The same with the location of the peer. -/
def locating : TReq := { ranging with attrs := (.requestLci, 0) :: ranging.attrs }

/-- The same in the ASAP mode, which the device does not have. -/
def rangingAsap : TReq := { ranging with attrs := (.asap, 0) :: ranging.attrs }

theorem fits_ranging : PeerFits htDevice (peerWith [ranging]) := by
  refine (@fits_iff htDevice [peerWith [ranging]] none _ rfl).mpr (fun peer member => ?_) _
    (List.mem_singleton_self _)
  obtain rfl := List.mem_singleton.mp member
  refine ⟨_, _, [ranging], rfl, rfl, rfl, List.cons_ne_nil _ _, nofun, fun treq member => ?_⟩
  obtain rfl := List.mem_singleton.mp member
  exact ⟨by decide, by decide, by decide⟩

/-- Three peers that are accepted: without a sub-request, with one for a location that the device
cannot ask for, and with one in a mode that the device does not have before one that it accepts. -/
theorem not_fits :
    (∃ out, parsePeers htDevice
        [peerWith [], peerWith [locating], peerWith [rangingAsap, ranging]] none = .ok out) ∧
      ¬PeerFits htDevice (peerWith []) ∧ ¬PeerFits htDevice (peerWith [locating]) ∧
      ¬PeerFits htDevice (peerWith [rangingAsap, ranging]) := by
  have data : ∀ {treqs : List TReq} {req : ReqAttrs} {given : List TReq},
      (peerWith treqs).req = some req → req.data = some given → given = treqs := by
    intro treqs req given some' known
    obtain rfl := Option.some.inj some'
    exact (Option.some.inj known).symm
  refine ⟨⟨_, rfl⟩, ?_, ?_, ?_⟩
  · intro fit
    obtain ⟨_, _, _, _, reqGiven, dataGiven, some', _⟩ := fit
    exact some' (data reqGiven dataGiven)
  · intro fit
    obtain ⟨_, _, _, _, reqGiven, dataGiven, _, fits⟩ := fit
    rw [data reqGiven dataGiven] at fits
    exact absurd ((fits locating List.mem_cons_self).2.lci rfl) Bool.false_ne_true
  · intro fit
    obtain ⟨_, _, _, _, reqGiven, dataGiven, _, fits⟩ := fit
    rw [data reqGiven dataGiven] at fits
    exact absurd (fits rangingAsap List.mem_cons_self).2.asap Bool.false_ne_true

/-- A request that reaches the driver has been parsed, and has no more peers than announced. -/
theorem nl80211PmsrStart_parsed {wdevAddress : Addr} {attrs : StartAttrs} {request : Request}
    (started : nl80211PmsrStart (some capa) wdevAddress attrs = .ok request) :
    ∃ peers, attrs.peers = some peers ∧ peers.length ≤ capa.maxPeers ∧
      parsePeers capa peers none = .ok request.peers := by
  unfold nl80211PmsrStart at started
  dsimp only at started
  split at started
  · cases started
  next peers given =>
  split at started
  · cases started
  next few =>
  split at started
  · cases started
  cases parsed : parsePeers capa peers none with
  | error err =>
      rw [parsed] at started
      cases started
  | ok out =>
      rw [parsed] at started
      obtain rfl := Except.ok.inj started
      exact ⟨peers, given, Nat.not_lt.mp few, parsed⟩

end Iwlwifi.Pmsr
