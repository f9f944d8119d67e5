import Iwlwifi.Mac80211.DefragmentRun
import Iwlwifi.Mac80211.Fragment

/-!
# Fragments are put together again

The fragments of a frame are its header before each of a list of bodies that add up to the body of
the frame (`marked`).  On the receiver the first of them takes an entry of the fragment cache, and
as long as the others follow in time it is the first entry that the search looks at, whatever else
is in the cache (`Waiting`).
-/

namespace Iwlwifi.Frag

open Lib
open Function (update)

/-! ## What is sent -/

/-- The fragments with these bodies, the first of them with the number `fragnum`. -/
def marked (hdr : List UInt8) : Nat → List (List UInt8) → List Skb
  | _, [] => []
  | fragnum, [body] => [orFragnum (clearMorefrags (hdr ++ body)) fragnum]
  | fragnum, body :: next :: bodies =>
    orFragnum (setMorefrags (hdr ++ body)) fragnum :: marked hdr (fragnum + 1) (next :: bodies)

section Sent

variable {allocated : Nat → Bool} {skb : TxSkb} {hdrlen perFragm : Nat}

theorem fragmentLoop_returns (some : 0 < perFragm) {fuel rem : Nat} (enough : rem ≤ fuel)
    (n pos : Nat) : ∃ out, fragmentLoop allocated skb hdrlen perFragm fuel n pos rem =
      Option.some out := by
  induction fuel generalizing n pos rem with
  | zero =>
    obtain rfl := Nat.le_zero.mp enough
    exact ⟨_, by rw [fragmentLoop]⟩
  | succ fuel ih =>
    cases rem with
    | zero => exact ⟨_, by rw [fragmentLoop]⟩
    | succ rem =>
      rw [fragmentLoop]
      split
      · exact ⟨_, rfl⟩
      · obtain ⟨out, returns⟩ := @ih (rem + 1 - min perFragm (rem + 1)) (by omega)
          (n + 1) (pos + min perFragm (rem + 1))
        rw [returns]
        exact ⟨_, rfl⟩

/-- The loop cuts what is behind its position into bodies. -/
theorem fragmentLoop_spec {fuel n pos rem : Nat} {tail : List TxSkb}
    (run : fragmentLoop allocated skb hdrlen perFragm fuel n pos rem = some (.ok tail))
    (whole : pos + rem = skb.bytes.length) :
    ∃ bodies, tail.map TxSkb.bytes = bodies.map (skb.bytes.take hdrlen ++ ·) ∧
      bodies.flatten = skb.bytes.drop pos ∧ (∀ body ∈ bodies, body.length ≤ perFragm) ∧
      (0 < rem → bodies ≠ []) := by
  induction fuel generalizing n pos rem tail with
  | zero =>
    cases rem with
    | zero =>
      rw [fragmentLoop] at run
      cases run
      refine ⟨[], rfl, ?_, nofun, nofun⟩
      rw [List.drop_eq_nil_of_le (by omega), List.flatten_nil]
    | succ rem =>
      rw [fragmentLoop] at run
      cases run
  | succ fuel ih =>
    cases rem with
    | zero =>
      rw [fragmentLoop] at run
      cases run
      refine ⟨[], rfl, ?_, nofun, nofun⟩
      rw [List.drop_eq_nil_of_le (by omega), List.flatten_nil]
    | succ rem =>
      rw [fragmentLoop] at run
      split at run
      · cases run
      obtain ⟨out, rest, mapped⟩ := Option.map_eq_some_iff.mp run
      cases out with
      | error stop => cases mapped
      | ok skbs =>
        cases mapped
        obtain ⟨bodies, bytes, flat, short, -⟩ := ih rest (by omega)
        refine ⟨window skb.bytes pos (min perFragm (rem + 1)) :: bodies, ?_, ?_, ?_,
          fun _ => List.cons_ne_nil _ _⟩
        · rw [List.map_cons, List.map_cons, bytes]
        · rw [List.flatten_cons, flat, window, ← List.drop_drop, List.take_append_drop]
        · intro body member
          rcases List.mem_cons.mp member with rfl | member
          · rw [window_length (by omega)]
            exact Nat.min_le_left _ _
          · exact short body member

theorem markFragments_bytes {skbs : List TxSkb} {hdr : List UInt8} {bodies : List (List UInt8)}
    (bytes : skbs.map TxSkb.bytes = bodies.map (hdr ++ ·)) (fragnum : Nat) :
    (markFragments fragnum skbs).map TxSkb.bytes = marked hdr fragnum bodies := by
  induction skbs generalizing bodies fragnum with
  | nil =>
    rw [List.map_nil, eq_comm, List.map_eq_nil_iff] at bytes
    rw [bytes]
    rfl
  | cons skb skbs ih =>
    cases bodies with
    | nil => cases bytes
    | cons body bodies =>
      obtain ⟨first, rest⟩ := List.cons.inj bytes
      cases skbs with
      | nil =>
        rw [List.map_nil, eq_comm, List.map_eq_nil_iff] at rest
        rw [rest, markFragments, marked, List.map_singleton, first]
      | cons next skbs =>
        cases bodies with
        | nil => cases rest
        | cons nextBody bodies =>
          rw [markFragments, marked, List.map_cons, ih rest, first]

/-- A frame that is fragmented is longer than the threshold, and its fragments have bodies that
add up to its own. -/
theorem txHFragment_spec {dev : Device} (least : 256 ≤ dev.fragThreshold)
    (fragments : skb.info.dontfrag = false) (software : dev.supportsTxFrag = false) :
    ∃ out, ieee80211TxHFragment dev skb = some out ∧ ∀ skbs, out = .cont skbs →
      ∃ first second bodies,
        skbs.map TxSkb.bytes =
          marked (skb.bytes.take skb.bytes.hdrlen) 0 (first :: second :: bodies) ∧
        (first :: second :: bodies).flatten = skb.bytes.drop skb.bytes.hdrlen ∧
        (∀ body ∈ first :: second :: bodies,
          skb.bytes.hdrlen + body.length + 4 ≤ dev.fragThreshold) ∧
        skb.bytes.hdrlen ≤ skb.bytes.length := by
  have header : skb.bytes.hdrlen ≤ 36 := by
    rw [Skb.hdrlen, ieee80211Hdrlen]
    repeat' split
    all_goals omega
  rw [ieee80211TxHFragment, fragments, software]
  simp only [Bool.false_eq_true, if_false]
  split
  · refine ⟨_, rfl, fun skbs failed => ?_⟩
    cases failed
  split
  · refine ⟨_, rfl, fun skbs failed => ?_⟩
    cases failed
  next long =>
    rw [ieee80211Fragment]
    rw [if_neg (by omega)]
    obtain ⟨out, returns⟩ := @fragmentLoop_returns dev.allocated skb skb.bytes.hdrlen
      (dev.fragThreshold - skb.bytes.hdrlen - 4) (by omega) skb.bytes.length
      (skb.bytes.length - (skb.bytes.hdrlen + (dev.fragThreshold - skb.bytes.hdrlen - 4)))
      (by omega) 0 (skb.bytes.hdrlen + (dev.fragThreshold - skb.bytes.hdrlen - 4))
    rw [returns]
    cases out with
    | error stop =>
      refine ⟨_, rfl, fun skbs failed => ?_⟩
      cases failed
    | ok tail =>
      refine ⟨_, rfl, fun skbs same => ?_⟩
      cases same
      obtain ⟨bodies, bytes, flat, short, some⟩ := fragmentLoop_spec returns (by omega)
      cases bodies with
      | nil => exact absurd rfl (some (by omega))
      | cons second bodies =>
        refine ⟨window skb.bytes skb.bytes.hdrlen
          (dev.fragThreshold - skb.bytes.hdrlen - 4), second, bodies, ?_, ?_, ?_, by omega⟩
        · refine markFragments_bytes ?_ 0
          rw [List.map_cons, bytes, List.map_cons, List.map_cons, List.map_cons, window,
            ← List.take_add]
        · rw [List.flatten_cons, flat, window, ← List.drop_drop, List.take_append_drop]
        · intro body member
          rcases List.mem_cons.mp member with rfl | member
          · rw [window_length (by omega)]
            omega
          · have most := short body member
            omega

end Sent

/-! ## What the fragments have in common -/

/-- A header with a mark is that of the frame. -/
structure Copies (fragment skb : Skb) : Prop where
  kind : fragment.frameControl &&& fcKind = skb.frameControl &&& fcKind
  bytes : ∀ i, i < skb.hdrlen → i ≠ 1 → i ≠ 22 → fragment.byte i = skb.byte i
  long : skb.hdrlen ≤ fragment.length

section Common

variable {fragment skb : Skb}

theorem span_eq_of_bytes {ofs len : Nat} (same : ∀ i, ofs ≤ i → i < ofs + len →
    fragment.byte i = skb.byte i) (long : ofs + len ≤ fragment.length)
    (long' : ofs + len ≤ skb.length) : fragment.span ofs len = skb.span ofs len := by
  refine List.ext_getElem ?_ fun i inside inside' => ?_
  · rw [Skb.span, Skb.span, List.length_take, List.length_take, List.length_drop,
      List.length_drop]
    omega
  · rw [Skb.span, List.length_take, List.length_drop] at inside
    have here := same (ofs + i) (by omega) (by omega)
    rw [Skb.byte, Skb.byte, List.getD_eq_getElem _ _ (by omega : ofs + i < fragment.length),
      List.getD_eq_getElem _ _ (by omega : ofs + i < skb.length)] at here
    simp only [Skb.span, List.getElem_take, List.getElem_drop]
    exact here

variable (copies : Copies fragment skb) (header : 24 ≤ skb.hdrlen)
  (whole : skb.hdrlen ≤ skb.length)
include copies

theorem Copies.hdrlen_eq : fragment.hdrlen = skb.hdrlen := ieee80211Hdrlen_congr copies.kind

theorem Copies.ftype_eq : fragment.ftype = skb.ftype := land_eq_of_masked _ copies.kind rfl

theorem Copies.isCtl_eq : ieee80211IsCtl fragment.frameControl = ieee80211IsCtl skb.frameControl :=
  ieee80211IsCtl_congr copies.kind

theorem Copies.hasProtected_eq : ieee80211HasProtected fragment.frameControl =
    ieee80211HasProtected skb.frameControl := ieee80211HasProtected_congr copies.kind

/-- The queue of a fragment is that of the frame. -/
theorem Copies.queue_eq : (ieee80211ParseQos fragment).1 = (ieee80211ParseQos skb).1 := by
  rw [ieee80211ParseQos, ieee80211ParseQos]
  simp only [ieee80211IsDataQos_congr copies.kind]
  split
  · next qos =>
      have reach := (le_hdrlen_of_isData (ieee80211IsData_of_isDataQos qos)).2 qos
      have ctl : fragment.qosCtl = skb.qosCtl := by
        rw [Skb.qosCtl, Skb.qosCtl, ieee80211HasA4_congr copies.kind]
        split
        · next a4 =>
            have deep := reach.2 a4
            exact copies.bytes 30 (by omega) (by decide) (by decide)
        · exact copies.bytes 24 (by omega) (by decide) (by decide)
      rw [Skb.tid, Skb.tid, ctl]
  · rfl

include header

theorem Copies.multicast_eq : fragment.multicast = skb.multicast := by
  rw [Skb.multicast, Skb.multicast, copies.bytes 4 (by omega) (by decide) (by decide)]

include whole

theorem Copies.addr1_eq : fragment.addr1 = skb.addr1 := by
  have long := copies.long
  exact span_eq_of_bytes (fun i le lt => copies.bytes i (by omega) (by omega) (by omega)) (by omega)
    (by omega)

theorem Copies.addr2_eq : fragment.addr2 = skb.addr2 := by
  have long := copies.long
  exact span_eq_of_bytes (fun i le lt => copies.bytes i (by omega) (by omega) (by omega)) (by omega)
    (by omega)

end Common

/-- One fragment: the marks, the number and the body. -/
structure FragmentOf (skb : Skb) (more : Bool) (fragnum : Nat) (body fragment : List UInt8) :
    Prop where
  copies : Copies fragment skb
  more_eq : ieee80211HasMorefrags (Skb.frameControl fragment) = more
  frag : Skb.frag fragment = fragnum
  seq : Skb.seq fragment = skb.seq
  body_eq : fragment.drop skb.hdrlen = body

section One

variable {skb : Skb} (header : 24 ≤ skb.hdrlen) (whole : skb.hdrlen ≤ skb.length)
include whole

theorem byte_header (body : List UInt8) {i : Nat} (inside : i < skb.hdrlen) :
    Skb.byte (skb.take skb.hdrlen ++ body) i = skb.byte i := by
  rw [Skb.byte, Skb.byte, List.getD_eq_getElem?_getD, List.getD_eq_getElem?_getD,
    List.getElem?_append_left (by rw [List.length_take]; omega), List.getElem?_take_of_lt inside]

variable (none : skb.frag = 0) {fragnum : Nat} (small : fragnum < 16)
include header none small

theorem fragmentOf_mark {more : Bool} (body : List UInt8) {mark : Skb → Skb}
    (marks : ∀ bytes : Skb, 1 < bytes.length → mark bytes = bytes.set 1 ((mark bytes).byte 1) ∧
      (mark bytes).frameControl &&& fcKind = bytes.frameControl &&& fcKind ∧
      ieee80211HasMorefrags (mark bytes).frameControl = more) :
    FragmentOf skb more fragnum body
      (orFragnum (mark (skb.take skb.hdrlen ++ body)) fragnum) := by
  have length : (skb.take skb.hdrlen ++ body).length = skb.hdrlen + body.length := by
    rw [List.length_append, List.length_take, Nat.min_eq_left whole]
  obtain ⟨mark_eq, kind, isMore⟩ := marks (skb.take skb.hdrlen ++ body) (by omega)
  generalize value : (mark (skb.take skb.hdrlen ++ body)).byte 1 = second at mark_eq
  have fc : Skb.frameControl (skb.take skb.hdrlen ++ body) = skb.frameControl := by
    rw [Skb.frameControl, Skb.frameControl, byte_header whole body (by omega),
      byte_header whole body (by omega)]
  have sc : ∀ bytes : Skb, bytes = (skb.take skb.hdrlen ++ body).set 1 second →
      bytes.seqCtrl = skb.seqCtrl := by
    rintro bytes rfl
    rw [Skb.seqCtrl, Skb.seqCtrl, byte_set_of_ne _ (by decide), byte_set_of_ne _ (by decide),
      byte_header whole body (by omega), byte_header whole body (by omega)]
  have markedSc := sc _ mark_eq
  have number : (orFragnum (mark (skb.take skb.hdrlen ++ body)) fragnum).seqCtrl =
      skb.seqCtrl + fragnum := by
    rw [seqCtrl_orFragnum ?_ ?_ small, markedSc]
    · rw [mark_eq, List.length_set, length]
      omega
    · rw [Skb.frag, markedSc]
      exact none
  have low : skb.seqCtrl % 16 = 0 := by
    rw [← none, Skb.frag]
    exact (Nat.and_two_pow_sub_one_eq_mod _ 4).symm
  refine ⟨⟨?_, fun i inside one two => ?_, ?_⟩, ?_, ?_, ?_, ?_⟩
  · rw [frameControl_orFragnum, kind, fc]
  · rw [orFragnum, byte_set_of_ne _ (Ne.symm two), mark_eq, byte_set_of_ne _ (Ne.symm one),
      byte_header whole body inside]
  · rw [orFragnum, List.length_set, mark_eq, List.length_set, length]
    omega
  · rw [frameControl_orFragnum, isMore]
  · have masked : (skb.seqCtrl + fragnum) &&& 0x000f = (skb.seqCtrl + fragnum) % 2 ^ 4 :=
      Nat.and_two_pow_sub_one_eq_mod _ 4
    rw [Skb.frag, number, masked]
    omega
  · rw [Skb.seq, Skb.seq, number, Nat.shiftRight_and_distrib, Nat.shiftRight_and_distrib,
      Nat.shiftRight_eq_div_pow, Nat.shiftRight_eq_div_pow]
    congr 1
    omega
  · rw [orFragnum, List.drop_set_of_lt (by omega), mark_eq, List.drop_set_of_lt (by omega)]
    exact List.drop_left' (by rw [List.length_take, Nat.min_eq_left whole])

theorem fragmentOf_set (body : List UInt8) : FragmentOf skb true fragnum body
    (orFragnum (setMorefrags (skb.take skb.hdrlen ++ body)) fragnum) := by
  refine fragmentOf_mark header whole none small body fun bytes inside => ⟨?_,
    kind_setMorefrags inside, hasMorefrags_setMorefrags inside⟩
  rw [setMorefrags, byte_set_self _ inside]

theorem fragmentOf_clear (body : List UInt8) : FragmentOf skb false fragnum body
    (orFragnum (clearMorefrags (skb.take skb.hdrlen ++ body)) fragnum) := by
  refine fragmentOf_mark header whole none small body fun bytes inside => ⟨?_,
    kind_clearMorefrags inside, hasMorefrags_clearMorefrags inside⟩
  rw [clearMorefrags, byte_set_self _ inside]

end One

/-! ## What is received -/

/-- A frame as `ieee80211_rx_h_defragment` gets it. -/
structure Received where
  rx : RxData
  keys : Nat → CcmpKey
  arrival : Arrival

/-- The frame that is received, with its queue, is the fragment. -/
structure Receives (fragment : Skb) (received : Received) : Prop where
  skb : received.arrival.skb = fragment
  queue : received.arrival.queue = (ieee80211ParseQos fragment).1

/-- Nothing keeps a frame out of an entry that was started at a time: there is memory for it, and
it is not late. -/
structure Timely (hz since : Nat) (received : Received) : Prop where
  linear : received.rx.linearizeFails = false
  expand : received.rx.expandFails = false
  inTime : received.rx.jiffies ≤ since + 2 * hz

/-- The frames one after the other. -/
def receive (objects : KeyObjects) (hz : Nat) : FragmentCache → List Received → List DefragOut
  | _, [] => []
  | cache, received :: more =>
    let out := ieee80211RxHDefragment objects hz cache received.rx received.keys
      received.arrival
    out :: receive objects hz out.cache more

/-- The entry where the search starts. -/
def newest (cache : FragmentCache) : FragmentEntry :=
  cache.fragments (if cache.fragmentNext = 0 then 3 else cache.fragmentNext - 1)

/-- The newest entry waits for the fragment behind `last` of a frame, and holds `pending`. -/
structure Waiting (cache : FragmentCache) (skb : Skb) (pending : List UInt8) (last since : Nat) :
    Prop where
  head : ∃ first, (newest cache).skbList.head? = some first ∧ Copies first.data skb
  held : ((newest cache).skbList.map (·.data)).flatten = pending
  seq : (newest cache).seq = skb.seq
  queue : (newest cache).rxQueue = (ieee80211ParseQos skb).1
  lastFrag : (newest cache).lastFrag = last
  time : (newest cache).firstFragTime = since
  unchecked : (newest cache).checkSequentialPn = false

section Receiver

variable {objects : KeyObjects} {hz : Nat} {cache : FragmentCache} {received : Received}
  {skb : Skb} {body fragment : List UInt8} (header : 24 ≤ skb.hdrlen)
  (whole : skb.hdrlen ≤ skb.length) (unicast : skb.multicast = false)
  (notCtl : ieee80211IsCtl skb.frameControl = false)
include header unicast notCtl

/-- The first fragment takes a new entry. -/
theorem defragment_first (next : cache.fragmentNext < 4)
    (unprotected : ieee80211HasProtected skb.frameControl = false)
    (sent : FragmentOf skb true 0 body fragment) (receives : Receives fragment received)
    (linear : received.rx.linearizeFails = false) :
    ∃ out, ieee80211RxHDefragment objects hz cache received.rx received.keys received.arrival =
        out ∧
      out.result = .queued ∧ out.output = none ∧
      Waiting out.cache skb fragment 0 received.rx.jiffies := by
  obtain ⟨skbEq, queue⟩ := receives
  obtain ⟨copies, more, frag, seq, -⟩ := sent
  refine ⟨_, rfl, ?_⟩
  rw [ieee80211RxHDefragment, skbEq, queue, linear]
  simp only [copies.isCtl_eq, notCtl, copies.multicast_eq header, unicast, more, frag, seq,
    copies.hasProtected_eq, unprotected, copies.queue_eq, Bool.false_eq_true, if_false,
    Bool.not_true, Bool.false_and, if_true]
  have here : newest (ieee80211ReassembleAdd cache 0 skb.seq (ieee80211ParseQos skb).1
      received.rx.jiffies ⟨fragment, received.arrival⟩ none) =
      { skbList := [⟨fragment, received.arrival⟩]
        firstFragTime := received.rx.jiffies
        seq := skb.seq
        lastFrag := 0
        rxQueue := (ieee80211ParseQos skb).1
        checkSequentialPn := false
        lastPn := (cache.fragments cache.fragmentNext).lastPn } := by
    have back : (if (if 4 ≤ cache.fragmentNext + 1 then 0 else cache.fragmentNext + 1) = 0 then 3
        else (if 4 ≤ cache.fragmentNext + 1 then 0 else cache.fragmentNext + 1) - 1) =
          cache.fragmentNext := by
      split <;> split <;> omega
    rw [newest, ieee80211ReassembleAdd]
    simp only [back, Function.update_self]
    rfl
  refine ⟨trivial, trivial, ⟨⟨⟨fragment, received.arrival⟩, by rw [here]; rfl, copies⟩,
    ?_, ?_, ?_, ?_, ?_, ?_⟩⟩
  all_goals rw [here]
  exact List.flatten_singleton

include whole

omit unicast notCtl in
/-- The search finds the newest entry if it is in time. -/
theorem reassembleFind_of_waiting {pending : List UInt8} {last since jiffies : Nat}
    (waiting : Waiting cache skb pending last since) (inTime : jiffies ≤ since + 2 * hz)
    (copies : Copies fragment skb) :
    ieee80211ReassembleFind cache hz jiffies (last + 1) skb.seq (ieee80211ParseQos skb).1
        fragment =
      (cache, some (if cache.fragmentNext = 0 then 3 else cache.fragmentNext - 1)) := by
  obtain ⟨⟨first, head, firstCopies⟩, -, seq, queue, lastFrag, time, -⟩ := waiting
  have waits : (newest cache).waitsFor (last + 1) skb.seq (ieee80211ParseQos skb).1 fragment =
      true := by
    rw [FragmentEntry.waitsFor, head]
    simp only [seq, queue, lastFrag, copies.ftype_eq, firstCopies.ftype_eq,
      copies.addr1_eq header whole, firstCopies.addr1_eq header whole,
      copies.addr2_eq header whole, firstCopies.addr2_eq header whole, beq_self_eq_true,
      Bool.and_self]
  have fresh : ¬(newest cache).firstFragTime + 2 * hz < jiffies := by
    rw [time]
    omega
  rw [newest] at waits fresh
  rw [ieee80211ReassembleFind, reassembleFindFrom]
  simp only [waits, fresh, if_true, if_false]

/-- A later fragment joins the entry. -/
theorem defragment_next {pending : List UInt8} {last since : Nat} {more : Bool}
    (waiting : Waiting cache skb pending last since) (timely : Timely hz since received)
    (sent : FragmentOf skb more (last + 1) body fragment)
    (receives : Receives fragment received) :
    ∃ out, ieee80211RxHDefragment objects hz cache received.rx received.keys received.arrival =
        out ∧
      (more = true → out.result = .queued ∧ out.output = none ∧
        Waiting out.cache skb (pending ++ body) (last + 1) since) ∧
      (more = false → out.result = .cont ∧
        out.output.map Prod.fst = some (pending ++ body)) := by
  obtain ⟨skbEq, queue⟩ := receives
  obtain ⟨linear, expand, inTime⟩ := timely
  obtain ⟨copies, isMore, frag, seq, rest⟩ := sent
  have find := reassembleFind_of_waiting header whole waiting inTime copies
  obtain ⟨⟨first, head, firstCopies⟩, held, entrySeq, entryQueue, -, time, unchecked⟩ := waiting
  have pulled : Skb.pull fragment (Skb.hdrlen fragment) = body := by
    rw [Skb.pull, if_neg (by rw [copies.hdrlen_eq]; exact Nat.not_lt.mpr copies.long),
      copies.hdrlen_eq, rest]
  refine ⟨_, rfl, ?_⟩
  rw [ieee80211RxHDefragment, skbEq, queue, linear]
  simp only [copies.isCtl_eq, notCtl, copies.multicast_eq header, unicast, isMore, frag, seq,
    copies.queue_eq, find, Bool.false_eq_true, if_false, Nat.succ_ne_zero, beq_iff_eq,
    Bool.and_eq_true, and_false]
  rw [newest] at unchecked held head entrySeq entryQueue time
  have joined : ∀ list : List QueuedSkb, list =
      (cache.fragments (if cache.fragmentNext = 0 then 3 else cache.fragmentNext - 1)).skbList ++
        [⟨body, received.arrival⟩] →
      (list.map (·.data)).flatten = pending ++ body := by
    rintro list rfl
    rw [List.map_append, List.flatten_append, held, List.map_singleton, List.flatten_singleton]
  rw [unchecked]
  simp only [Bool.false_eq_true, if_false]
  rw [addToEntry, skbEq, isMore, expand, frag, pulled]
  cases more with
  | true =>
    refine ⟨fun _ => ⟨rfl, rfl, ⟨first, ?_, firstCopies⟩, ?_, ?_, ?_, ?_, ?_, ?_⟩,
      fun last => absurd last.symm Bool.false_ne_true⟩
    all_goals
      rw [newest]
      simp only [if_true, Function.update_self]
    · rw [List.head?_append, head, Option.some_or]
    · exact joined _ rfl
    · exact entrySeq
    · exact entryQueue
    · exact time
    · exact unchecked
  | false =>
    refine ⟨fun goesOn => absurd goesOn Bool.false_ne_true, fun _ => ⟨rfl, ?_⟩⟩
    rw [← joined _ rfl]
    rfl

/-- The rest of the fragments, one after the other. -/
theorem receive_rest (none : skb.frag = 0) {since : Nat} {bodies : List (List UInt8)}
    {pending : List UInt8} {last : Nat} {rs : List Received}
    (waiting : Waiting cache skb pending last since) (some : bodies ≠ [])
    (few : last + bodies.length < 16)
    (received : List.Forall₂ Receives (marked (skb.take skb.hdrlen) (last + 1) bodies) rs)
    (timely : ∀ r ∈ rs, Timely hz since r) :
    (receive objects hz cache rs).map (fun out => (out.result, out.output.map Prod.fst)) =
      List.replicate (bodies.length - 1) (.queued, Option.none) ++
        [(.cont, Option.some (pending ++ bodies.flatten))] := by
  induction bodies generalizing cache pending last rs with
  | nil => exact absurd rfl some
  | cons body bodies ih =>
    rw [List.length_cons] at few
    cases bodies with
    | nil =>
      rw [marked] at received
      obtain _ | ⟨receives, ⟨⟩⟩ := received
      next r =>
        have sent := fragmentOf_clear header whole none (by omega : last + 1 < 16) body
        obtain ⟨out, run, -, delivers⟩ := @defragment_next objects hz cache r skb body _ header
          whole unicast notCtl pending last since false waiting
          (timely r List.mem_cons_self) sent receives
        obtain ⟨result, output⟩ := delivers rfl
        rw [receive, run, receive, List.map_singleton, result, output, List.flatten_singleton]
        rfl
    | cons next bodies =>
      rw [marked] at received
      obtain _ | ⟨receives, others⟩ := received
      next r rs =>
        have sent := fragmentOf_set header whole none (by omega : last + 1 < 16) body
        obtain ⟨out, run, queues, -⟩ := @defragment_next objects hz cache r skb body _ header
          whole unicast notCtl pending last since true waiting
          (timely r List.mem_cons_self) sent receives
        obtain ⟨result, output, waits⟩ := queues rfl
        have more := ih waits (List.cons_ne_nil _ _) (by rw [List.length_cons] at few ⊢; omega)
          others fun r member => timely r (List.mem_cons_of_mem _ member)
        rw [receive, run, List.map_cons, more, result, output, List.flatten_cons,
          List.append_assoc pending]
        rfl

end Receiver

/-! ## The round trip -/

theorem marked_length {hdr : List UInt8} (bodies : List (List UInt8)) (fragnum : Nat) :
    (marked hdr fragnum bodies).length = bodies.length := by
  induction bodies generalizing fragnum with
  | nil => rfl
  | cons body bodies ih =>
    cases bodies with
    | nil => rfl
    | cons next bodies => rw [marked, List.length_cons, ih, ← List.length_cons]

section Marked

variable {skb : Skb} (header : 24 ≤ skb.hdrlen) (whole : skb.hdrlen ≤ skb.length)
  (none : skb.frag = 0)
include header whole none

/-- Each fragment is that with its number, and all but the last have the more fragments bit. -/
theorem marked_facts {bodies : List (List UInt8)} {fragnum : Nat} (some : bodies ≠ [])
    (few : fragnum + bodies.length ≤ 16) :
    (marked (skb.take skb.hdrlen) fragnum bodies).map
        (fun fragment => ieee80211HasMorefrags fragment.frameControl) =
      List.replicate (bodies.length - 1) true ++ [false] ∧
    (marked (skb.take skb.hdrlen) fragnum bodies).map Skb.frag =
      List.range' fragnum bodies.length ∧
    ∀ fragment ∈ marked (skb.take skb.hdrlen) fragnum bodies, fragment.seq = skb.seq ∧
      ∃ body ∈ bodies, fragment.length = skb.hdrlen + body.length := by
  have length : ∀ body : List UInt8,
      (skb.take skb.hdrlen ++ body).length = skb.hdrlen + body.length := by
    intro body
    rw [List.length_append, List.length_take, Nat.min_eq_left whole]
  induction bodies generalizing fragnum with
  | nil => exact absurd rfl some
  | cons body bodies ih =>
    rw [List.length_cons] at few
    cases bodies with
    | nil =>
      have last := fragmentOf_clear header whole none (by omega : fragnum < 16) body
      rw [marked]
      refine ⟨?_, ?_, fun fragment member => ?_⟩
      · rw [List.map_singleton, last.more_eq]
        rfl
      · rw [List.map_singleton, last.frag]
        rfl
      · rw [List.mem_singleton] at member
        refine ⟨by rw [member, last.seq], body, List.mem_cons_self, ?_⟩
        rw [member, orFragnum, clearMorefrags, List.length_set, List.length_set, length]
    | cons next bodies =>
      have first := fragmentOf_set header whole none (by omega : fragnum < 16) body
      obtain ⟨mores, numbers, others⟩ := @ih (fragnum + 1) (List.cons_ne_nil _ _)
        (by omega)
      rw [marked]
      refine ⟨?_, ?_, fun fragment member => ?_⟩
      · rw [List.map_cons, mores, first.more_eq]
        rfl
      · rw [List.map_cons, numbers, first.frag]
        rfl
      · rcases List.mem_cons.mp member with rfl | member
        · refine ⟨first.seq, body, List.mem_cons_self, ?_⟩
          rw [orFragnum, setMorefrags, List.length_set, List.length_set, length]
        · obtain ⟨seq, other, isBody, size⟩ := others fragment member
          exact ⟨seq, other, List.mem_cons_of_mem _ isBody, size⟩

omit none in
/-- The first fragment with the other bodies behind it is the frame with the mark. -/
theorem first_append {first : List UInt8} {rest : List UInt8}
    (body : first ++ rest = skb.drop skb.hdrlen) :
    orFragnum (setMorefrags (skb.take skb.hdrlen ++ first)) 0 ++ rest = setMorefrags skb := by
  have length : (skb.take skb.hdrlen ++ first).length = skb.hdrlen + first.length := by
    rw [List.length_append, List.length_take, Nat.min_eq_left whole]
  have unchanged : ∀ bytes : Skb, 22 < bytes.length → orFragnum bytes 0 = bytes := by
    intro bytes inside
    have zero : bytes.byte 22 ||| .ofNat (0 % 16) = bytes.byte 22 := UInt8.or_zero
    rw [orFragnum, zero, Skb.byte, List.getD_eq_getElem _ _ inside, List.set_getElem_self]
  rw [unchanged _ (by rw [setMorefrags, List.length_set, length]; omega), setMorefrags,
    setMorefrags, byte_header whole first (by omega), ← List.set_append_left 1 _ (by omega),
    List.append_assoc, body, List.take_append_drop]

end Marked

/-- The fragments of a frame are short, marked and numbered, and a receiver with any fragment
cache makes the frame of them, with the more fragments bit of the first. -/
structure RoundTrip (dev : Device) (skb : Skb) (skbs : List TxSkb)
    (undisturbed : Nat → List Received → Prop) : Prop where
  short : ∀ fragment ∈ skbs, fragment.bytes.length + 4 ≤ dev.fragThreshold
  more : skbs.map (fun fragment => ieee80211HasMorefrags fragment.bytes.frameControl) =
    List.replicate (skbs.length - 1) true ++ [false]
  numbers : skbs.map (·.bytes.frag) = List.range skbs.length
  sequence : ∀ fragment ∈ skbs, fragment.bytes.seq = skb.seq
  received : ∀ (objects : KeyObjects) (hz : Nat) (cache : FragmentCache) (rs : List Received),
    cache.fragmentNext < 4 → List.Forall₂ Receives (skbs.map TxSkb.bytes) rs →
    undisturbed hz rs →
    (receive objects hz cache rs).map (fun out => (out.result, out.output.map Prod.fst)) =
      List.replicate (skbs.length - 1) (.queued, none) ++ [(.cont, some (setMorefrags skb))]

/-- Memory suffices, and no frame is late. -/
def Undisturbed (hz : Nat) (rs : List Received) : Prop :=
  ∀ first ∈ rs.head?, ∀ r ∈ rs, Timely hz first.rx.jiffies r

/-- An unprotected unicast frame. -/
structure Fragmentable (dev : Device) (skb : TxSkb) : Prop where
  least : 256 ≤ dev.fragThreshold
  type : ieee80211IsData skb.bytes.frameControl = true ∨
    ieee80211IsMgmt skb.bytes.frameControl = true
  unicast : skb.bytes.multicast = false
  unprotected : ieee80211HasProtected skb.bytes.frameControl = false
  dontfrag : skb.info.dontfrag = false
  software : dev.supportsTxFrag = false

theorem fragments_round_trip {dev : Device} {skb : TxSkb} (fragmentable : Fragmentable dev skb)
    (numbered : skb.bytes.frag = 0) :
    ∃ out, ieee80211TxHFragment dev skb = some out ∧
      ∀ skbs, out = .cont skbs → skbs.length ≤ 16 → RoundTrip dev skb.bytes skbs Undisturbed := by
  obtain ⟨least, type, unicast, unprotected, dontfrag, software⟩ := fragmentable
  obtain ⟨out, returns, spec⟩ := txHFragment_spec least dontfrag software
  refine ⟨out, returns, fun skbs cont few => ?_⟩
  obtain ⟨first, second, bodies, bytes, flat, short, whole⟩ := spec skbs cont
  have header : 24 ≤ skb.bytes.hdrlen := le_hdrlen type
  have count : skbs.length = (first :: second :: bodies).length := by
    rw [← @marked_length (skb.bytes.take skb.bytes.hdrlen) (first :: second :: bodies) 0,
      ← bytes, List.length_map]
  have facts := marked_facts header whole numbered (List.cons_ne_nil first (second :: bodies))
    (by omega : 0 + (first :: second :: bodies).length ≤ 16)
  rw [← bytes, List.map_map, List.map_map] at facts
  obtain ⟨mores, numbers, members⟩ := facts
  have notCtl : ieee80211IsCtl skb.bytes.frameControl = false := by
    rw [ieee80211IsCtl, beq_eq_false_iff_ne]
    intro ctl
    rcases type with data | mgmt
    · rw [ieee80211IsData, ctl] at data
      cases data
    · rw [ieee80211IsMgmt, ctl] at mgmt
      cases mgmt
  refine ⟨fun fragment member => ?_, ?_, ?_, fun fragment member => ?_,
    fun objects hz cache rs next receives undisturbed => ?_⟩
  · obtain ⟨-, body, isBody, size⟩ := members _ (List.mem_map_of_mem member)
    have most := short body isBody
    omega
  · rw [count]
    exact mores
  · rw [count, List.range_eq_range']
    exact numbers
  · exact (members _ (List.mem_map_of_mem member)).1
  · rw [bytes, marked] at receives
    obtain _ | ⟨receivesFirst, receivesRest⟩ := receives
    next r rs =>
      have timely := undisturbed r rfl
      have sent := fragmentOf_set header whole numbered (by decide : 0 < 16) first
      obtain ⟨out, run, result, output, waits⟩ := @defragment_first objects hz cache r skb.bytes
        first _ header unicast notCtl next unprotected sent receivesFirst
        (timely r List.mem_cons_self).linear
      have rest := @receive_rest objects hz out.cache skb.bytes header whole unicast notCtl
        numbered r.rx.jiffies (second :: bodies) _ 0 rs waits (List.cons_ne_nil second bodies)
        (by rw [List.length_cons] at count; omega) receivesRest
        fun other member => timely other (List.mem_cons_of_mem _ member)
      rw [receive, run, List.map_cons, rest, result, output, count, first_append header whole]
      · rfl
      · rw [← flat]
        rfl

/-- A data frame of 324 bytes. -/
def longFrame (seqCtrl : UInt8) : TxSkb where
  bytes := (RxInterface.stationFrame 0x01 seqCtrl (List.replicate 300 7)).skb
  info := ⟨false, false, false, true, false, false, [0, -1, -1, -1]⟩

def softwareDevice : Device := ⟨false, 256, fun _ => true⟩

/-- A fragment that comes at a time. -/
def receivedAt (jiffies : Nat) (skb : Skb) : Received where
  rx := { RxInterface.stationFrame 0x01 0 [] with skb := skb, jiffies := jiffies }
  keys _ := exampleRxKey
  arrival := ⟨jiffies, skb, (ieee80211ParseQos skb).1, none, none⟩

def fragmentsOf (skb : TxSkb) : List TxSkb :=
  match ieee80211TxHFragment softwareDevice skb with
  | some (.cont skbs) => skbs
  | _ => []

theorem cont_of_fragmentsOf {skb : TxSkb} (two : (fragmentsOf skb).length = 2) :
    ieee80211TxHFragment softwareDevice skb = some (.cont (fragmentsOf skb)) := by
  rw [fragmentsOf] at two ⊢
  split at two
  · next skbs returns => rw [returns]
  · cases two

theorem longFrame_round_trip :
    RoundTrip softwareDevice (longFrame 0x40).bytes (fragmentsOf (longFrame 0x40))
      Undisturbed := by
  have two : (fragmentsOf (longFrame 0x40)).length = 2 := by decide +kernel
  obtain ⟨out, returns, trips⟩ := @fragments_round_trip softwareDevice (longFrame 0x40)
    ⟨by decide, Or.inl rfl, rfl, rfl, rfl, rfl⟩ (by decide)
  rw [cont_of_fragmentsOf two] at returns
  exact trips _ (Option.some.inj returns).symm (by omega)

/-- Without the conditions: the second fragment comes three seconds after the first, and a frame
that has a fragment number already keeps it. -/
theorem not_round_trip :
    (¬∀ dev skb skbs, Fragmentable dev skb → skb.bytes.frag = 0 →
      ieee80211TxHFragment dev skb = some (.cont skbs) → skbs.length ≤ 16 →
        RoundTrip dev skb.bytes skbs fun _ _ => True) ∧
    ¬∀ dev skb skbs, Fragmentable dev skb → ieee80211TxHFragment dev skb = some (.cont skbs) →
      skbs.length ≤ 16 → RoundTrip dev skb.bytes skbs Undisturbed := by
  constructor
  · intro trips
    have two : (fragmentsOf (longFrame 0x40)).length = 2 := by decide +kernel
    have trip := trips softwareDevice (longFrame 0x40) _
      ⟨by decide, by decide, by decide, by decide, rfl, rfl⟩ (by decide)
      (cont_of_fragmentsOf two) (by omega)
    obtain ⟨first, second, both⟩ := List.length_eq_two.mp two
    have received : List.Forall₂ Receives ((fragmentsOf (longFrame 0x40)).map TxSkb.bytes)
        (List.zipWith receivedAt [0, 3] ((fragmentsOf (longFrame 0x40)).map TxSkb.bytes)) := by
      rw [both]
      exact .cons ⟨rfl, rfl⟩ (.cons ⟨rfl, rfl⟩ .nil)
    have whole := trip.received RxInterface.ccmpObjects 1 ⟨fun _ => RxInterface.emptyEntry, 0⟩ _
      (by decide) received trivial
    have late : (receive RxInterface.ccmpObjects 1 ⟨fun _ => RxInterface.emptyEntry, 0⟩
        (List.zipWith receivedAt [0, 3] ((fragmentsOf (longFrame 0x40)).map TxSkb.bytes))).map
          (·.result) = [.queued, .dropMonitor] := by
      decide +kernel
    have results := congrArg (List.map Prod.fst) whole
    rw [List.map_map, two] at results
    cases late.symm.trans results
  · intro trips
    have two : (fragmentsOf (longFrame 0x41)).length = 2 := by decide +kernel
    have trip := trips softwareDevice (longFrame 0x41) _
      ⟨by decide, by decide, by decide, by decide, rfl, rfl⟩ (cont_of_fragmentsOf two) (by omega)
    have numbers := trip.numbers
    have read : (fragmentsOf (longFrame 0x41)).map (·.bytes.frag) = [1, 1] := by decide +kernel
    rw [read, two] at numbers
    cases numbers

end Iwlwifi.Frag
