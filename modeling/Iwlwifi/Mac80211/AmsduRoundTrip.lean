import Iwlwifi.Mac80211.AmsduAggregate
import Iwlwifi.Wireless.AmsduExact
import Mathlib.Data.List.Forall2

/-!
# Aggregation and de-aggregation

Whatever calls of `ieee80211_amsdu_aggregate` find a frame at the end of a flow, its body is the
frame alone (`Plain`) or a list of sub-frames that is padded but for the last (`Aggregate`): the
padding of a sub-frame is put in front of the next one (`LaidOut.snoc`).  Such a body is taken
apart again into the frames that were put in.
-/

namespace Iwlwifi.Xmit

open Lib

/-! ## Ethernet frames -/

/-- An Ethernet frame with a type. -/
structure EtherFrame where
  dest : EtherAddr
  source : EtherAddr
  proto : Nat
  payload : List UInt8
  isType : 0x600 ≤ proto
  protoLt : proto < 2 ^ 16

namespace EtherFrame

variable (frame : EtherFrame)

def bytes : List UInt8 :=
  frame.dest.val ++ (frame.source.val ++ (be16Bytes frame.proto ++ frame.payload))

/-- The LLC/SNAP header, the type and the payload. -/
def msdu : List UInt8 := rfc1042Header ++ (be16Bytes frame.proto ++ frame.payload)

theorem bytes_length : frame.bytes.length = 14 + frame.payload.length := by
  rw [bytes, List.length_append, List.length_append, List.length_append, frame.dest.property,
    frame.source.property, be16Bytes_length]
  omega

theorem msdu_length : frame.msdu.length = 8 + frame.payload.length := by
  rw [msdu, List.length_append, List.length_append, be16Bytes_length]
  change 6 + _ = _
  omega

theorem take_bytes : frame.bytes.take 12 = frame.dest.val ++ frame.source.val := by
  have length : (frame.dest.val ++ frame.source.val).length = 12 := by
    rw [List.length_append, frame.dest.property, frame.source.property]
  rw [bytes, ← List.append_assoc, ← length, List.take_left]

theorem drop_bytes : frame.bytes.drop 12 = be16Bytes frame.proto ++ frame.payload := by
  have length : (frame.dest.val ++ frame.source.val).length = 12 := by
    rw [List.length_append, frame.dest.property, frame.source.property]
  rw [bytes, ← List.append_assoc, ← length, List.drop_left]

theorem window_dest : window frame.bytes 0 6 = frame.dest.val := by
  rw [window, List.drop_zero, bytes, List.take_left' frame.dest.property]

theorem window_source : window frame.bytes 6 6 = frame.source.val := by
  have dest : frame.bytes.drop 6 =
      frame.source.val ++ (be16Bytes frame.proto ++ frame.payload) := by
    rw [bytes, List.drop_left' frame.dest.property]
  rw [window, dest, List.take_left' frame.source.property]

end EtherFrame

/-! ## Sub-frames -/

/-- A sub-frame holds a frame. -/
structure Carries (sf : Subframe) (frame : EtherFrame) : Prop where
  dest : sf.dest = frame.dest.val
  source : sf.source = frame.source.val
  payload : sf.payload = frame.msdu

theorem exists_carries (frame : EtherFrame) (small : 8 + frame.payload.length < 2 ^ 16) :
    ∃ sf, Carries sf frame :=
  ⟨⟨frame.dest.val, frame.source.val, frame.msdu, frame.dest.property, frame.source.property,
    by rw [frame.msdu_length]; exact small⟩, rfl, rfl, rfl⟩

namespace Carries

variable {sf : Subframe} {frame : EtherFrame} (carries : Carries sf frame)
include carries

theorem bytes_eq : sf.bytes = frame.dest.val ++ frame.source.val ++
    be16Bytes frame.msdu.length ++ frame.msdu := by
  rw [Subframe.bytes, Subframe.eth, Ethhdr.bytes, carries.dest, carries.source, carries.payload]

theorem not_mayBegin : ¬sf.MayBegin := by
  rintro ⟨short, -⟩
  rw [carries.payload, frame.msdu_length] at short
  omega

/-- The LLC/SNAP header is taken off again. -/
theorem ethernetFrame_eq (aarp : frame.proto ≠ ethPAarp) (ipx : frame.proto ≠ ethPIpx) :
    sf.ethernetFrame = frame.bytes := by
  have length := frame.msdu_length
  have type : be16At frame.msdu 6 = frame.proto :=
    @be16At_be16Bytes rfc1042Header frame.payload frame.proto frame.protoLt
  have snap : frame.msdu.take 6 = rfc1042Header := List.take_left' rfl
  have rest : frame.msdu.drop 6 = be16Bytes frame.proto ++ frame.payload :=
    List.drop_left' rfl
  have removes : removesEncapsulation frame.msdu = true := by
    rw [removesEncapsulation, snap, type]
    simp only [beq_self_eq_true, Bool.true_and, Bool.or_eq_true, Bool.and_eq_true, bne_iff_ne]
    exact Or.inl ⟨aarp, ipx⟩
  rw [Subframe.ethernetFrame, carries.payload, if_pos ⟨by omega, removes⟩, carries.dest,
    carries.source, rest, EtherFrame.bytes, List.append_assoc]

end Carries

/-! ## The head -/

/-- A header as `ieee80211_xmit_fast` patches it for a frame. -/
structure Headed (fast : FastTx) (first : EtherFrame) (hdr : List UInt8) : Prop where
  length : hdr.length = fast.machdrLen
  frameControl : Skb.frameControl hdr = Skb.frameControl fast.hdr
  da : window hdr fast.daOffs 6 = first.dest.val
  sa : window hdr fast.saOffs 6 = first.source.val

/-- The frame is alone. -/
structure Plain (fast : FastTx) (first : EtherFrame) (head : QueuedSkb) : Prop where
  amsdu : head.amsdu = false
  fragList : head.fragList = []
  data : ∃ hdr, Headed fast first hdr ∧ head.data = hdr ++ first.msdu

/-- The body is a list of sub-frames that hold the frame and those of the fragment list. -/
structure Aggregate (fast : FastTx) (frames : List EtherFrame) (head : QueuedSkb) : Prop where
  amsdu : head.amsdu = true
  listed : head.fragList.length + 1 = frames.length
  headed : fast.machdrLen ≤ head.data.length
  body : ∃ sfs, LaidOut (head.bytes.drop fast.machdrLen) sfs (.complete []) ∧
    List.Forall₂ Carries sfs frames

/-- What `ieee80211_xmit_fast` queues. -/
def queueSkb (fast : FastTx) (skb : TxSkb) (rateCtrlProbe : Bool) : QueuedSkb :=
  { data := fastFrame fast skb.bytes skb.priority
    nrFrags := skb.nrFrags
    fragList := []
    isGso := skb.isGso
    rateCtrlProbe := rateCtrlProbe
    amsdu := false }

section Head

variable {fast : FastTx} (shaped : fast.Shaped) {first : EtherFrame} {hdr : List UInt8}
include shaped

theorem headed_patched (priority : Nat) :
    Headed fast first (fast.patched first.bytes priority) := by
  have length := first.bytes_length
  have long : 12 ≤ first.bytes.length := by omega
  exact ⟨patched_length shaped priority long, frameControl_patched shaped priority long,
    by rw [patched_da shaped priority long, first.window_dest],
    by rw [patched_sa shaped priority long, first.window_source]⟩

theorem plain_queueSkb {skb : TxSkb} (same : skb.bytes = first.bytes) (rateCtrlProbe : Bool) :
    Plain fast first (queueSkb fast skb rateCtrlProbe) := by
  have length := first.bytes_length
  have long : 12 ≤ first.bytes.length := by omega
  refine ⟨rfl, rfl, fast.patched first.bytes skb.priority, headed_patched shaped _, ?_⟩
  rw [queueSkb, same]
  simp only
  rw [fastFrame_eq shaped skb.priority long, first.drop_bytes, EtherFrame.msdu]

/-- The outer header is written in the place of the header. -/
theorem outerHeader_append (sdata : SubIfData) (headed : Headed fast first hdr)
    (qos : fast.isQos = true) (rest : List UInt8) :
    ∃ outer, outerHeader sdata fast (hdr ++ rest) = outer ++ rest ∧
      outer.length = fast.machdrLen := by
  obtain ⟨length, frameControl, -, -⟩ := headed
  obtain ⟨-, -, room, daBehind, saBehind, daInside, saInside, -, -⟩ := shaped
  rw [if_pos qos] at room
  have machdr : fast.machdrLen = fast.hdrLen - 6 := rfl
  have fc : Skb.frameControl (hdr ++ rest) = Skb.frameControl fast.hdr := by
    rw [frameControl_append (by omega), frameControl]
  -- each of the two steps replaces six bytes of the header, or none
  have patch : ∀ (front : List UInt8) (ofs : Nat) (addr : EtherAddr) (cond : Bool),
      front.length = fast.machdrLen → Skb.frameControl front = Skb.frameControl fast.hdr →
      4 ≤ ofs → ofs + 6 ≤ qosCtlOffset fast.hdr →
      ∃ front', (if cond then overwrite (front ++ rest) ofs addr.val else front ++ rest) =
          front' ++ rest ∧
        front'.length = fast.machdrLen ∧ Skb.frameControl front' = Skb.frameControl fast.hdr := by
    intro front ofs addr cond long same behind inside
    have fits : ofs + addr.val.length ≤ front.length := by
      rw [addr.property]
      omega
    cases cond with
    | false => exact ⟨front, rfl, long, same⟩
    | true =>
        refine ⟨overwrite front ofs addr.val, ?_, ?_, ?_⟩
        · rw [if_pos rfl, overwrite_append_left fits]
        · rw [overwrite_length fits, long]
        · rw [frameControl_overwrite (by omega) fits, same]
  have finish : ∀ front : List UInt8, front.length = fast.machdrLen →
      Skb.frameControl front = Skb.frameControl fast.hdr →
      ∃ outer, overwrite (front ++ rest) (qosCtlOffset (front ++ rest))
          [Skb.byte (front ++ rest) (qosCtlOffset (front ++ rest)) ||| 0x80] = outer ++ rest ∧
        outer.length = fast.machdrLen := by
    intro front long same
    have qc : qosCtlOffset (front ++ rest) = qosCtlOffset fast.hdr := by
      rw [qosCtlOffset, frameControl_append (by omega), same, qosCtlOffset]
    have fits : ∀ byte : UInt8, qosCtlOffset fast.hdr + [byte].length ≤ front.length := by
      intro byte
      rw [List.length_singleton]
      omega
    rw [qc]
    exact ⟨_, overwrite_append_left (fits _), by rw [overwrite_length (fits _), long]⟩
  rw [outerHeader]
  simp only [fc]
  cases outerBssid sdata with
  | none => exact finish hdr length frameControl
  | some bssid =>
      obtain ⟨source, patchedSource, long, same⟩ := patch hdr fast.saOffs bssid
        (ieee80211HasFromds (Skb.frameControl fast.hdr)) length frameControl saBehind saInside
      obtain ⟨both, patchedBoth, long', same'⟩ := patch source fast.daOffs bssid
        (ieee80211HasTods (Skb.frameControl fast.hdr)) long same daBehind daInside
      simp only [patchedSource, patchedBoth]
      exact finish both long' same'

theorem withSubframeHeader_eq {head : QueuedSkb} {msdu : List UInt8}
    (headed : Headed fast first hdr) (data : head.data = hdr ++ msdu)
    (fragList : head.fragList = []) :
    withSubframeHeader fast head =
      hdr ++ (first.dest.val ++ (first.source.val ++ be16Bytes msdu.length) ++ msdu) := by
  obtain ⟨length, -, da, sa⟩ := headed
  obtain ⟨-, -, room, -, -, daInside, saInside, -, -⟩ := shaped
  have machdr : fast.machdrLen = fast.hdrLen - 6 := rfl
  have base : qosCtlOffset fast.hdr ≥ 24 := by
    rw [qosCtlOffset]
    split <;> decide
  have body : head.len - fast.machdrLen = msdu.length := by
    rw [QueuedSkb.len, QueuedSkb.bytes, QueuedSkb.listed, fragList, data, List.map_nil,
      List.flatten_nil, List.append_nil, List.length_append, length]
    omega
  -- the bytes that `memmove` leaves, as two addresses and a length
  have gap : (hdr.drop (fast.machdrLen - 14)).length = 14 := by
    rw [List.length_drop, length]
    omega
  obtain ⟨dest, source, type, split, destLength, sourceLength, typeLength⟩ :
      ∃ dest source type : List UInt8, hdr.drop (fast.machdrLen - 14) =
        dest ++ (source ++ type) ∧ dest.length = 6 ∧ source.length = 6 ∧ type.length = 2 := by
    refine ⟨(hdr.drop (fast.machdrLen - 14)).take 6,
      ((hdr.drop (fast.machdrLen - 14)).drop 6).take 6,
      ((hdr.drop (fast.machdrLen - 14)).drop 6).drop 6, ?_, ?_, ?_, ?_⟩
    · rw [List.take_append_drop, List.take_append_drop]
    · rw [List.length_take, gap]
      rfl
    · rw [List.length_take, List.length_drop, gap]
      rfl
    · rw [List.length_drop, List.length_drop, gap]
  have before : head.data.take fast.machdrLen ++ head.data.drop (fast.machdrLen - 14) =
      hdr ++ (dest ++ (source ++ (type ++ msdu))) := by
    rw [data, ← length, List.take_left, length, List.drop_append_of_le_length (by omega), split,
      List.append_assoc, List.append_assoc]
  have typed : ∀ rest, overwrite (hdr ++ (dest ++ (source ++ (type ++ rest))))
      (fast.machdrLen + 12) (be16Bytes msdu.length) =
        hdr ++ (dest ++ (source ++ (be16Bytes msdu.length ++ rest))) := by
    intro rest
    have middle := @overwrite_middle _ (be16Bytes msdu.length) (hdr ++ (dest ++ source)) type rest
      typeLength
    rw [List.length_append, List.length_append, length, destLength, sourceLength] at middle
    rwa [List.append_assoc, List.append_assoc, List.append_assoc, List.append_assoc] at middle
  have sourced : ∀ rest, overwrite (hdr ++ (dest ++ (source ++ rest))) (fast.machdrLen + 6)
      first.source.val = hdr ++ (dest ++ (first.source.val ++ rest)) := by
    intro rest
    have middle := @overwrite_middle _ first.source.val (hdr ++ dest) source rest
      (by rw [sourceLength, first.source.property])
    rw [List.length_append, length, destLength] at middle
    rwa [List.append_assoc, List.append_assoc] at middle
  have addressed : ∀ rest, overwrite (hdr ++ (dest ++ rest)) fast.machdrLen first.dest.val =
      hdr ++ (first.dest.val ++ rest) := by
    intro rest
    have middle := @overwrite_middle _ first.dest.val hdr dest rest
      (by rw [destLength, first.dest.property])
    rwa [length] at middle
  have readSa : ∀ rest, window (hdr ++ rest) fast.saOffs 6 = first.source.val := by
    intro rest
    rw [window_append_left (by omega), sa]
  have readDa : ∀ rest, window (hdr ++ rest) fast.daOffs 6 = first.dest.val := by
    intro rest
    rw [window_append_left (by omega), da]
  rw [withSubframeHeader]
  simp only [before, body, typed, readSa, sourced, readDa, addressed, List.append_assoc]

omit shaped in
theorem len_of_plain {head : QueuedSkb} (plain : Plain fast first head) :
    head.len = fast.machdrLen + (8 + first.payload.length) := by
  obtain ⟨hdr, headed, data⟩ := plain.data
  rw [QueuedSkb.len, QueuedSkb.bytes, QueuedSkb.listed, plain.fragList, data, List.map_nil,
    List.flatten_nil, List.append_nil, List.length_append, headed.length, first.msdu_length]

/-- The conversion in place. -/
theorem aggregate_of_plain {head : QueuedSkb} (plain : Plain fast first head)
    (qos : fast.isQos = true) (sdata : SubIfData) (small : head.len < 2 ^ 16) :
    Aggregate fast [first]
        { head with
            data := outerHeader sdata fast (withSubframeHeader fast head), amsdu := true } ∧
      QueuedSkb.len { head with
          data := outerHeader sdata fast (withSubframeHeader fast head), amsdu := true } =
        head.len + 14 := by
  have len := len_of_plain plain
  obtain ⟨hdr, headed, data⟩ := plain.data
  obtain ⟨outer, written, length⟩ := outerHeader_append shaped sdata headed qos
    (first.dest.val ++ (first.source.val ++ be16Bytes first.msdu.length) ++ first.msdu)
  rw [← withSubframeHeader_eq shaped headed data plain.fragList] at written
  obtain ⟨sf, carries⟩ := exists_carries first (by omega)
  have bytes : outerHeader sdata fast (withSubframeHeader fast head) ++ [] = outer ++ sf.bytes := by
    rw [List.append_nil, written, carries.bytes_eq]
    simp only [List.append_assoc]
  have nothing : (head.fragList.map Prod.fst).flatten = [] := by
    rw [plain.fragList]
    rfl
  refine ⟨⟨rfl, ?_, ?_, [sf], ?_, .cons carries .nil⟩, ?_⟩
  · simp only [plain.fragList]
    rfl
  · simp only [written, List.length_append, length]
    omega
  · rw [QueuedSkb.bytes, QueuedSkb.listed]
    simp only
    rw [nothing, bytes, ← length, List.drop_left]
    have last := @LaidOut.last sf [] (Nat.zero_le _)
    rwa [List.append_nil] at last
  · rw [QueuedSkb.len, QueuedSkb.bytes, QueuedSkb.listed]
    simp only
    rw [nothing, bytes, List.length_append, sf.bytes_length, carries.payload, first.msdu_length,
      length, len]
    omega

end Head

/-! ## Another frame -/

theorem asSubframe_eq {skb : TxSkb} {frame : EtherFrame} {sf : Subframe}
    (carries : Carries sf frame) (same : skb.bytes = frame.bytes) (pad : Nat) :
    asSubframe skb pad = List.replicate pad 0 ++ sf.bytes := by
  have length : frame.bytes.length - 6 = frame.msdu.length := by
    rw [frame.bytes_length, frame.msdu_length]
    omega
  rw [asSubframe, same, frame.take_bytes, frame.drop_bytes, length, carries.bytes_eq,
    EtherFrame.msdu, List.append_assoc (_ ++ be16Bytes _)]

theorem amsduPad_eq (len : Nat) : amsduPad len = amsduPadding len := by
  rw [amsduPad, amsduPadding]
  split
  · next some =>
      rw [bne_iff_ne] at some
      omega
  · next none =>
      rw [bne_iff_ne, ne_eq, not_not] at none
      omega

variable {frames : List EtherFrame} {sfs : List Subframe}

theorem aggregate_append {fast : FastTx} {head : QueuedSkb} (aggregate : Aggregate fast frames head)
    {skb : TxSkb} {frame : EtherFrame} (same : skb.bytes = frame.bytes)
    (small : skb.bytes.length < 2 ^ 16) (nrFrags : Nat) :
    Aggregate fast (frames ++ [frame])
        { head with
            fragList := head.fragList ++
              [(asSubframe skb (amsduPad (head.len - fast.machdrLen)), nrFrags)] } ∧
      QueuedSkb.len { head with
          fragList := head.fragList ++
            [(asSubframe skb (amsduPad (head.len - fast.machdrLen)), nrFrags)] } =
        head.len + amsduPad (head.len - fast.machdrLen) + (8 + skb.bytes.length) := by
  obtain ⟨amsdu, listed, headed, sfs, laid, carried⟩ := aggregate
  have frameLength := frame.bytes_length
  rw [same] at small
  obtain ⟨sf, carries⟩ := exists_carries frame (by omega)
  have bytes : QueuedSkb.bytes { head with
      fragList := head.fragList ++
        [(asSubframe skb (amsduPad (head.len - fast.machdrLen)), nrFrags)] } =
      head.bytes ++ (List.replicate (amsduPad (head.len - fast.machdrLen)) 0 ++ sf.bytes) := by
    rw [QueuedSkb.bytes, QueuedSkb.listed, QueuedSkb.bytes, QueuedSkb.listed]
    simp only
    rw [List.map_append, List.flatten_append, ← List.append_assoc, List.map_singleton,
      List.flatten_singleton, asSubframe_eq carries same]
  have inside : fast.machdrLen ≤ head.bytes.length := by
    rw [QueuedSkb.bytes, List.length_append]
    omega
  refine ⟨⟨amsdu, ?_, headed, sfs ++ [sf], ?_, List.rel_append carried (.cons carries .nil)⟩, ?_⟩
  · simp only [List.length_append, List.length_singleton]
    omega
  · rw [bytes, List.drop_append_of_le_length inside]
    refine laid.snoc sf ?_
    rw [List.length_replicate, amsduPad_eq, List.length_drop, QueuedSkb.len]
  · rw [QueuedSkb.len, bytes, List.length_append, List.length_append, List.length_replicate,
      sf.bytes_length, carries.payload, frame.msdu_length, same, frameLength, QueuedSkb.len]
    omega

/-! ## Calls -/

theorem AmsduCall.limit_le (call : AmsduCall) (tid : Nat) :
    call.limit tid ≤ call.maxAmsduLen.toNat := by
  rw [limit]
  split <;> split <;> omega

section Calls

variable {call : AmsduCall} {fast : FastTx} {head next : QueuedSkb} {skb : TxSkb} {ret : Bool}

/-- What a call does that finds a head: nothing, or the checks have been passed. -/
theorem of_aggregateInto (run : aggregateInto call fast head skb = (next, ret)) :
    next = head ∧ ret = false ∨
      skb.bytes.length + head.len ≤ call.limit (skb.priority % 8) ∧
        (call.maxAmsduSubframes ≠ 0 →
          2 + head.fragList.length ≤ call.maxAmsduSubframes.toNat) ∧
        ∃ ready, amsduPrepareHead call fast head = (ready, true) ∧
          appendTo call fast ready skb = (next, ret) := by
  have nothing : ∀ {made : QueuedSkb × Bool}, made = (head, false) → made = (next, ret) →
      next = head ∧ ret = false := by
    rintro made rfl same
    cases same
    exact ⟨rfl, rfl⟩
  rw [aggregateInto] at run
  split at run
  · exact Or.inl (nothing rfl run)
  split at run
  · exact Or.inl (nothing rfl run)
  next short =>
    split at run
    · exact Or.inl (nothing rfl run)
    split at run
    · exact Or.inl (nothing rfl run)
    next few =>
      split at run
      · exact Or.inl (nothing rfl run)
      split at run
      · exact Or.inl (nothing rfl run)
      split at run
      · next kept prepared =>
          have same : kept = head := by
            rw [amsduPrepareHead] at prepared
            split at prepared
            · exact (congrArg Prod.fst prepared).symm
            split at prepared
            · cases congrArg Prod.snd prepared
            split at prepared
            · exact (congrArg Prod.fst prepared).symm
            · cases congrArg Prod.snd prepared
          exact Or.inl (nothing (by rw [same]) run)
      · next ready prepared =>
          refine Or.inr ⟨Nat.not_lt.mp short, fun some => ?_, ready, prepared, run⟩
          by_contra many
          refine few ?_
          rw [Bool.and_eq_true, bne_iff_ne, decide_eq_true_eq]
          exact ⟨some, Nat.not_le.mp many⟩

theorem of_amsduPrepareHead {ready : QueuedSkb}
    (prepared : amsduPrepareHead call fast head = (ready, true)) :
    head.amsdu = true ∧ ready = head ∨
      head.amsdu = false ∧ ready =
        { head with
            data := outerHeader call.sdata fast (withSubframeHeader fast head)
            amsdu := true } := by
  rw [amsduPrepareHead] at prepared
  split at prepared
  · cases congrArg Prod.snd prepared
  split at prepared
  · next already => exact Or.inl ⟨already, (congrArg Prod.fst prepared).symm⟩
  · next plain =>
      split at prepared
      · cases congrArg Prod.snd prepared
      · exact Or.inr ⟨Bool.not_eq_true _ ▸ plain, (congrArg Prod.fst prepared).symm⟩

theorem of_appendTo (appended : appendTo call fast head skb = (next, ret)) :
    ret = false ∧ next = head ∨
      ret = true ∧ next =
        { head with
            fragList := head.fragList ++
              [(asSubframe skb (amsduPad (head.len - fast.machdrLen)), skb.nrFrags)] } := by
  rw [appendTo] at appended
  split at appended
  · exact Or.inl ⟨(congrArg Prod.snd appended).symm, (congrArg Prod.fst appended).symm⟩
  · exact Or.inr ⟨(congrArg Prod.snd appended).symm, (congrArg Prod.fst appended).symm⟩

theorem of_amsduAggregate {flow flow' : TxFlow}
    (run : amsduAggregate call fast flow skb = (flow', ret))
    (tail : flow.queue.getLast? = some head) (tail' : flow'.queue.getLast? = some next) :
    next = head ∧ ret = false ∨ aggregateInto call fast head skb = (next, ret) := by
  have nothing : (flow, false) = (flow', ret) → next = head ∧ ret = false := by
    intro same
    cases same
    exact ⟨Option.some.inj (tail'.symm.trans tail), rfl⟩
  rw [amsduAggregate] at run
  split at run
  · exact Or.inl (nothing run)
  split at run
  · exact Or.inl (nothing run)
  split at run
  · exact Or.inl (nothing run)
  split at run
  · exact Or.inl (nothing run)
  simp only [tail] at run
  right
  have queue : flow'.queue = flow.queue.dropLast ++ [(aggregateInto call fast head skb).1] :=
    (congrArg (TxFlow.queue ∘ Prod.fst) run).symm
  rw [queue, List.getLast?_concat] at tail'
  have returned : (aggregateInto call fast head skb).2 = ret := congrArg Prod.snd run
  exact Prod.ext (Option.some.inj tail') returned

end Calls

/-! ## Runs -/

/-- Calls for flows that a frame is at the end of: the frames that have been appended to it, the
last call that appended one, with its TID, and what the frame has become. -/
inductive Appends (fast : FastTx) (head : QueuedSkb) :
    List EtherFrame → Option (AmsduCall × Nat) → QueuedSkb → Prop
  | start : Appends fast head [] none head
  | call {frames : List EtherFrame} {last : Option (AmsduCall × Nat)} {now next : QueuedSkb}
    {flow' : TxFlow} {ret : Bool} (call : AmsduCall) (flow : TxFlow) (skb : TxSkb)
    (frame : EtherFrame) :
    Appends fast head frames last now → flow.queue.getLast? = some now →
    skb.bytes = frame.bytes → amsduAggregate call fast flow skb = (flow', ret) →
    flow'.queue.getLast? = some next →
    Appends fast head (if ret then frames ++ [frame] else frames)
      (if ret then some (call, skb.priority % 8) else last) next

/-- What the frame is, and the limits that hold of it. -/
structure Held (fast : FastTx) (first : EtherFrame) (frames : List EtherFrame)
    (last : Option (AmsduCall × Nat)) (now : QueuedSkb) : Prop where
  shape : frames = [] ∧ Plain fast first now ∨ Aggregate fast (first :: frames) now
  short : ∀ call tid, last = some (call, tid) → now.len ≤ fast.machdrLen + call.limit tid
  few : ∀ call tid, last = some (call, tid) → call.maxAmsduSubframes ≠ 0 →
    frames.length + 1 ≤ call.maxAmsduSubframes.toNat
  started : frames = [] → last = none

section Run

variable {fast : FastTx} (shaped : fast.Shaped) (qos : fast.isQos = true) {first : EtherFrame}
include shaped qos

/-- One call. -/
theorem Held.aggregateInto {last : Option (AmsduCall × Nat)} {now next : QueuedSkb}
    {call : AmsduCall} {skb : TxSkb} {frame : EtherFrame} {ret : Bool}
    (held : Held fast first frames last now) (same : skb.bytes = frame.bytes)
    (run : aggregateInto call fast now skb = (next, ret)) :
    Held fast first (if ret then frames ++ [frame] else frames)
      (if ret then some (call, skb.priority % 8) else last) next := by
  rcases of_aggregateInto run with ⟨rfl, rfl⟩ | ⟨fits, few, ready, prepared, appended⟩
  · exact held
  have limit := call.limit_le (skb.priority % 8)
  have word := call.maxAmsduLen.toNat_lt
  have room := shaped.room
  have base : 24 ≤ qosCtlOffset fast.hdr := by
    rw [qosCtlOffset]
    split <;> decide
  rw [if_pos qos] at room
  have machdr : fast.machdrLen = fast.hdrLen - 6 := rfl
  -- the head is an A-MSDU before the frame is appended, at most 14 bytes longer
  have converted : Aggregate fast (first :: frames) ready ∧ ready.len ≤ now.len + 14 ∧
      (ready.len = now.len ∨ frames = []) ∧ ready.fragList = now.fragList := by
    rcases of_amsduPrepareHead prepared with ⟨already, rfl⟩ | ⟨plain, rfl⟩
    · rcases held.shape with ⟨-, plain⟩ | aggregate
      · rw [plain.amsdu] at already
        cases already
      · exact ⟨aggregate, Nat.le_add_right _ _, Or.inl rfl, rfl⟩
    · rcases held.shape with ⟨rfl, isPlain⟩ | aggregate
      · obtain ⟨aggregate, len⟩ := aggregate_of_plain shaped isPlain qos call.sdata (by omega)
        exact ⟨aggregate, Nat.le_of_eq len, Or.inr rfl, rfl⟩
      · rw [aggregate.amsdu] at plain
        cases plain
  obtain ⟨aggregate, len, kept, listed⟩ := converted
  rcases of_appendTo appended with ⟨rfl, rfl⟩ | ⟨rfl, rfl⟩
  · refine ⟨Or.inr aggregate, fun before tid is => ?_, held.few, held.started⟩
    rcases kept with kept | none
    · rw [kept]
      exact held.short before tid is
    · rw [held.started none] at is
      cases is
  · have bytes := frame.bytes_length
    obtain ⟨grown, grownLen⟩ := aggregate_append aggregate same (by omega) skb.nrFrags
    have pad : amsduPad (ready.len - fast.machdrLen) ≤ 3 := by
      rw [amsduPad_eq, amsduPadding]
      omega
    refine ⟨Or.inr grown, fun before tid is => ?_, fun before tid is some => ?_, fun none => ?_⟩
    · cases is
      rw [grownLen]
      omega
    · cases is
      have count := aggregate.listed
      have most := few some
      rw [← listed] at most
      rw [List.length_cons] at count
      rw [if_pos rfl, List.length_append, List.length_singleton]
      omega
    · rw [if_pos rfl] at none
      cases (List.append_eq_nil_iff.mp none).2

/-- A whole run. -/
theorem held_of_appends {head now : QueuedSkb} {last : Option (AmsduCall × Nat)}
    (plain : Plain fast first head) (run : Appends fast head frames last now) :
    Held fast first frames last now := by
  induction run with
  | start =>
      refine ⟨Or.inl ⟨rfl, plain⟩, fun _ _ is => ?_, fun _ _ is => ?_, fun _ => rfl⟩
      · cases is
      · cases is
  | call call flow skb frame before tail same run tail' ih =>
      rcases of_amsduAggregate run tail tail' with ⟨rfl, rfl⟩ | aggregated
      · exact ih
      · exact ih.aggregateInto shaped qos same aggregated

end Run

/-! ## The receiver -/

/-- A body is given to the receiver without address filters, in an skb whose pages do not
overflow the fragments of a frame. -/
structure Fed (env : AmsduEnv) (skb : AggregateSkb) (body : List UInt8) : Prop where
  noDa : env.checkDa = none
  noSa : env.checkSa = none
  bytes : skb.bytes = body
  fits : ∀ sfs, LaidOut body sfs (.complete []) → ∀ placed ∈ placedPayloads 0 sfs,
    FragsFit env.maxSkbFrags skb placed.1 placed.2

theorem not_mayBegin_of_carried (carried : List.Forall₂ Carries sfs frames) :
    ∀ sf ∈ sfs, ¬sf.MayBegin := by
  induction carried with
  | nil => nofun
  | cons carries _ ih =>
      intro sf member
      rcases List.mem_cons.mp member with rfl | member
      · exact carries.not_mayBegin
      · exact ih sf member

theorem map_ethernetFrame (carried : List.Forall₂ Carries sfs frames)
    (types : ∀ frame ∈ frames, frame.proto ≠ ethPAarp ∧ frame.proto ≠ ethPIpx) :
    sfs.map Subframe.ethernetFrame = frames.map EtherFrame.bytes := by
  induction carried with
  | nil => rfl
  | cons carries _ ih =>
      obtain ⟨aarp, ipx⟩ := types _ List.mem_cons_self
      rw [List.map_cons, List.map_cons, carries.ethernetFrame_eq aarp ipx,
        ih fun frame member => types frame (List.mem_cons_of_mem _ member)]

theorem amsduTo8023s_of_laidOut {env : AmsduEnv} {skb : AggregateSkb} {body : List UInt8}
    (laid : LaidOut body sfs (.complete [])) (carried : List.Forall₂ Carries sfs frames)
    (fed : Fed env skb body)
    (types : ∀ frame ∈ frames, frame.proto ≠ ethPAarp ∧ frame.proto ≠ ethPIpx) (junk : Ethhdr) :
    ∃ fuel delivered, amsduTo8023s env skb junk fuel = some (.ok delivered) ∧
      (delivered = frames.map EtherFrame.bytes ∨
        delivered = [] ∧ ∃ n, env.allocated n = false) := by
  obtain ⟨noDa, noSa, bytes, fits⟩ := fed
  have passes : ∀ sf, passesFilter env (Subframe.eth sf) = true := by
    intro sf
    rw [passesFilter, noDa, noSa]
    rfl
  have all : passing env sfs = sfs := List.filter_eq_self.mpr fun sf _ => passes sf
  have clean : Clean env skb 0 sfs (.complete []) := by
    refine ⟨fun _ sf member => ?_, fun _ slack same left => ?_, fun placed member _ =>
      fits sfs laid placed member⟩
    · rw [all] at member
      exact not_mayBegin_of_carried carried sf member
    · cases same
      exact absurd rfl left
  rw [← bytes] at laid
  obtain ⟨fuel, run⟩ := @amsduTo8023s_eq env skb sfs _ laid junk
  obtain ⟨complete, -⟩ := @makeFrames_of_clean env skb _ 0 [] sfs clean
  rw [all, map_ethernetFrame carried types, List.nil_append] at complete
  rcases complete rfl with made | ⟨purged, short⟩
  · rw [made] at run
    exact ⟨fuel, _, run, Or.inl rfl⟩
  · rw [purged] at run
    exact ⟨fuel, [], run, Or.inr ⟨rfl, short⟩⟩

/-! ## The round trip -/

/-- What is appended to a frame stays in the limits of the last call that appends, and whatever
has become an A-MSDU is taken apart into the frames it was made of, also when the first call for
it fails behind the conversion. -/
theorem amsdu_round_trip {loc : TxLocal} {sdata : SubIfData} {sta : TxSta} {allocated : Bool}
    {fast : FastTx} (installed : checkFastXmit loc sdata sta allocated none = some fast)
    (qos : fast.isQos = true) {skb : TxSkb} {first : EtherFrame} (same : skb.bytes = first.bytes)
    (rateCtrlProbe : Bool) {frames : List EtherFrame} {last : Option (AmsduCall × Nat)}
    {now : QueuedSkb} (run : Appends fast (queueSkb fast skb rateCtrlProbe) frames last now)
    (types : ∀ frame ∈ first :: frames, frame.proto ≠ ethPAarp ∧ frame.proto ≠ ethPIpx) :
    (∀ call tid, last = some (call, tid) →
      (now.bytes.drop fast.machdrLen).length ≤ call.limit tid ∧
        call.limit tid ≤ call.maxAmsduLen.toNat ∧
        (call.maxAmsduSubframes ≠ 0 → (first :: frames).length ≤ call.maxAmsduSubframes.toNat)) ∧
    (frames ≠ [] → now.amsdu = true) ∧
    (now.amsdu = true → ∀ env aggregate junk,
      Fed env aggregate (now.bytes.drop fast.machdrLen) → ∃ fuel delivered,
        amsduTo8023s env aggregate junk fuel = some (.ok delivered) ∧
          (delivered = (first :: frames).map EtherFrame.bytes ∨
            delivered = [] ∧ ∃ n, env.allocated n = false)) := by
  have shaped := shaped_of_checkFastXmit installed
  obtain ⟨shape, short, few, -⟩ :=
    held_of_appends shaped qos (plain_queueSkb shaped same rateCtrlProbe) run
  refine ⟨fun call tid is => ⟨?_, call.limit_le tid, few call tid is⟩, fun some => ?_,
    fun amsdu env aggregate junk fed => ?_⟩
  · have most := short call tid is
    rw [QueuedSkb.len] at most
    rw [List.length_drop]
    omega
  · rcases shape with ⟨none, -⟩ | aggregate
    · exact absurd none some
    · exact aggregate.amsdu
  · rcases shape with ⟨-, plain⟩ | ⟨-, -, -, sfs, laid, carried⟩
    · rw [plain.amsdu] at amsdu
      cases amsdu
    · exact amsduTo8023s_of_laidOut laid carried fed types junk

/-- An IPv4 frame. -/
def ipFrame : EtherFrame :=
  ⟨localAddr 3, localAddr 2, 0x0800, [1, 2, 3], by decide, by decide⟩

theorem two_frames_round_trip :
    ∃ now : QueuedSkb, now.amsdu = true ∧ ∃ fuel,
      amsduTo8023s plainEnv ⟨now.bytes.drop 26, [], [], false⟩ ⟨[], [], 0⟩ fuel =
        some (.ok [ipFrame.bytes, ipFrame.bytes]) := by
  let skb : TxSkb := ⟨ipFrame.bytes, 0, false, 0⟩
  let flow : TxFlow := ⟨[queueSkb qosFast skb false], 0⟩
  let now := (aggregateInto openCall qosFast (queueSkb qosFast skb false) skb).1
  have returned : (amsduAggregate openCall qosFast flow skb).2 = true := by decide +kernel
  have called : amsduAggregate openCall qosFast flow skb =
      ((amsduAggregate openCall qosFast flow skb).1, true) := Prod.ext rfl returned
  have run : Appends qosFast (queueSkb qosFast skb false) [ipFrame] (some (openCall, 0)) now :=
    Appends.call openCall flow skb ipFrame .start rfl rfl called rfl
  obtain ⟨-, flagged, delivers⟩ := @amsdu_round_trip plainLocal openStation qosSta true qosFast
    rfl (by decide) skb ipFrame rfl false [ipFrame] _ now run (by decide)
  have amsdu : now.amsdu = true := flagged (List.cons_ne_nil _ _)
  obtain ⟨fuel, delivered, returns, all | ⟨-, n, short⟩⟩ :=
    delivers amsdu plainEnv ⟨now.bytes.drop 26, [], [], false⟩ ⟨[], [], 0⟩
      ⟨rfl, rfl, List.append_nil _ |>.trans (List.append_nil _), fun _ _ _ _ => nofun⟩
  · rw [all] at returns
    exact ⟨now, amsdu, fuel, returns⟩
  · cases short

end Iwlwifi.Xmit
