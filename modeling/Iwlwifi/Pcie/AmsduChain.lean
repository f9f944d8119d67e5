import Iwlwifi.Pcie.TxAmsdu

/-!
# The chain of a TSO A-MSDU is complete

`amsduTbs` is the chain the transport offers to the descriptor, as a list computed from the
regions of the payload and the lengths of the shares; `putSubframes_eq` says the loops offer
exactly that.  Nothing of it is refused, because a payload in `r` regions cut into `n` shares
has at most `n + r - 1` pieces, which is what the number of sub-frames allows for.

It describes the frame when the transport looks for the IV where mac80211 left room for it, and
when each piece is short enough for the length field.
-/

namespace Iwlwifi

/-! ## What the chain has to describe -/

/-- Padding, sub-frame header, and the SNAP, IP and TCP headers with the fields of this
sub-frame in them. -/
def subframeHeader (skb : GsoSkb) (pad ipId tcpSeq size : Nat) (isLast : Bool) : List UInt8 :=
  List.replicate pad 0 ++ skb.mac.da ++ skb.mac.sa ++
    putBe16 [0, 0] 0 (skb.hdrs.snapIpTcp + size) ++
    tsoBuildHdr skb.hdrs skb.hdrs.bytes 8 (8 + skb.hdrs.ip.length) ipId tcpSeq size isLast

/-- The buffers describe these shares in order: the header of a sub-frame in one buffer, behind
`lead`, then its share of the payload in any number of buffers. -/
def Describes (skb : GsoSkb) : (lead : List UInt8) → (pad ipId tcpSeq : Nat) →
    (shares : List (List UInt8)) → List TxTb → Prop
  | _, _, _, _, [], tbs => tbs = []
  | lead, pad, ipId, tcpSeq, share :: rest, tbs =>
      ∃ (pieces : List (List UInt8)) (tail : List TxTb),
      tbs = ⟨.headerPage, lead ++
          subframeHeader skb pad ipId tcpSeq share.length rest.isEmpty⟩ ::
        (pieces.map (TxTb.mk .payload) ++ tail) ∧
      pieces.flatten = share ∧
      Describes skb [] (amsduPad (ethHdrLen + skb.hdrs.snapIpTcp + share.length))
        (nextIpId skb.hdrs.protocol ipId) ((tcpSeq + share.length) % 2 ^ 32) rest tail

def bytesLen (tbs : List TxTb) : Nat := (tbs.map fun tb => tb.bytes.length).sum

def initialIpId (skb : GsoSkb) : Nat := getBe16 skb.hdrs.ip 4

def initialTcpSeq (skb : GsoSkb) : Nat := getBe16 skb.hdrs.tcp 4 * 65536 + getBe16 skb.hdrs.tcp 6

/-- What the chain owes to a buffer whose A-MSDU keeps `limit`: no buffer was refused, those
behind the Tx command describe the IV and the sub-frames, `tx_cmd->len` is their length and that
of the 802.11 header, and the headers fit the room requested for them.  `tx_cmd->len` has 16
bits, which lengths up to the largest A-MSDU of the standard do not exceed. -/
structure AmsduChain (skb : GsoSkb) (limit : Nat) (build : AmsduBuild) : Prop where
  refused : build.tfd.refused = 0
  describes : Describes skb skb.iv 0 (initialIpId skb) (initialTcpSeq skb) skb.subframes
    (build.tfd.tbs.drop 2)
  length : build.txCmdLen = (skb.hdrLen + bytesLen (build.tfd.tbs.drop 2)) % 2 ^ 16
  exact : limit ≤ 11454 → build.txCmdLen = skb.hdrLen + bytesLen (build.tfd.tbs.drop 2)
  room : build.written ≤ (tsoFrame skb).hdrRoom

/-- The room for an IV between the 802.11 header and the SNAP header: `ieee80211_check_fast_xmit`
leaves it for a key with `IEEE80211_KEY_FLAG_PUT_IV_SPACE`, and `iwl_mvm_mac_set_key` sets that
flag for CCMP and GCMP keys unless the device has the new Tx API. -/
def ivSpace (newTxApi isProtected : Bool) : Nat :=
  if isProtected && !newTxApi then ccmpHdrLen else 0

/-! ## Offering buffers to the descriptor -/

section Offer

variable {gen2 : Bool} {tfd : Tfd} {tb : TxTb} {tbs : List TxTb}

def offer (gen2 : Bool) (tfd : Tfd) (tbs : List TxTb) : Tfd := tbs.foldl (buildTfd gen2) tfd

theorem offer_append (tfd : Tfd) (first second : List TxTb) :
    offer gen2 tfd (first ++ second) = offer gen2 (offer gen2 tfd first) second :=
  List.foldl_append

/-- As long as there is room, every buffer is stored. -/
theorem offer_of_room (room : tfd.tbs.length + tbs.length ≤ maxTbs gen2) :
    offer gen2 tfd tbs = ⟨tfd.tbs ++ tbs.map (storedTb gen2), tfd.refused⟩ := by
  induction tbs generalizing tfd with
  | nil => simp [offer]
  | cons tb tbs ih =>
    rw [List.length_cons] at room
    have stored : buildTfd gen2 tfd tb =
        { tfd with tbs := tfd.tbs ++ [storedTb gen2 tb] } := by
      unfold buildTfd
      exact if_neg (by omega)
    rw [offer, List.foldl_cons, stored]
    refine (ih (by simp only [List.length_append, List.length_singleton]; omega)).trans ?_
    simp

/-- A buffer is stored as it is when its length fits the length field. -/
theorem storedTb_eq_self (short : tb.bytes.length < 2 ^ 12 ∨ gen2 = true ∧
    tb.bytes.length < 2 ^ 16) : storedTb gen2 tb = tb := by
  have len : tbLen gen2 tb.bytes.length = tb.bytes.length := by
    unfold tbLen
    rcases short with short | ⟨format, short⟩
    · split
      · exact Nat.mod_eq_of_lt (by omega)
      · exact Nat.mod_eq_of_lt short
    · rw [if_pos format]
      exact Nat.mod_eq_of_lt short
  rw [storedTb, len, List.take_length]

end Offer

/-! ## The payload loop -/

section Payload

variable {gen2 : Bool} {tfd : Tfd} {tso : Tso} {left fuel : Nat}

/-- The regions the TSO state has left, the current one first. -/
def Tso.regions (tso : Tso) : List (List UInt8) := tso.data :: tso.nextFrags

theorem Tso.regions_ne_nil (tso : Tso) : tso.regions ≠ [] := List.cons_ne_nil _ _

/-- Reading past part of a region stays in it; reading it to its end moves on, if there is a
fragment to move on to. -/
theorem regions_tsoBuildData (tso : Tso) (size : Nat) :
    (size < tso.data.length ∨ tso.nextFrags = [] →
      (tsoBuildData tso size).regions = tso.data.drop size :: tso.nextFrags) ∧
    (tso.data.length ≤ size → tso.nextFrags ≠ [] →
      (tsoBuildData tso size).regions = tso.nextFrags) := by
  rcases tso with ⟨data, nextFrags, ipId, tcpSeq⟩
  dsimp only [tsoBuildData]
  constructor
  · intro stays
    have kept : data.drop size ≠ [] ∨ nextFrags = [] := by
      rcases stays with inside | last
      · exact Or.inl (List.ne_nil_of_length_pos (by rw [List.length_drop]; omega))
      · exact Or.inr last
    unfold Tso.moveToNext
    dsimp only
    split
    · next exhausted => exact absurd kept (by simp [exhausted])
    · rfl
  · intro exhausted more
    rw [List.drop_of_length_le exhausted]
    cases nextFrags with
    | nil => exact absurd rfl more
    | cons frag frags => rfl

theorem tsoBuildData_counters (tso : Tso) (size : Nat) :
    (tsoBuildData tso size).ipId = tso.ipId ∧
      (tsoBuildData tso size).tcpSeq = (tso.tcpSeq + size) % 2 ^ 32 := by
  unfold tsoBuildData Tso.moveToNext
  dsimp only
  split <;> exact ⟨rfl, rfl⟩

theorem putPayload_zero : putPayload gen2 fuel tfd tso 0 = some (tfd, tso) := by
  cases fuel <;> rfl

theorem putPayload_succ (more : 0 < left) :
    putPayload gen2 (fuel + 1) tfd tso left =
      putPayload gen2 fuel
        (buildTfd gen2 tfd ⟨.payload, tso.data.take (min tso.data.length left)⟩)
        (tsoBuildData tso (min tso.data.length left)) (left - min tso.data.length left) := by
  cases left with
  | zero => exact absurd more (Nat.lt_irrefl 0)
  | succ left => rfl

/-- One stretch that ends the share. -/
theorem putPayload_last (more : 0 < left) (inside : left ≤ tso.data.length) :
    putPayload gen2 (fuel + 1) tfd tso left =
      some (buildTfd gen2 tfd ⟨.payload, tso.data.take left⟩, tsoBuildData tso left) := by
  rw [putPayload_succ more, Nat.min_eq_right inside, Nat.sub_self, putPayload_zero]

/-- The payload loop offers the pieces of the share, and leaves the regions behind them. -/
theorem putPayload_eq (small : tso.tcpSeq < 2 ^ 32) (enough : left ≤ tso.regions.flatten.length)
    (fueled : (Lib.cut left tso.regions).1.length ≤ fuel) :
    ∃ tso', putPayload gen2 fuel tfd tso left =
        some (offer gen2 tfd ((Lib.cut left tso.regions).1.map (TxTb.mk .payload)), tso') ∧
      tso'.regions = (Lib.cut left tso.regions).2 ∧ tso'.ipId = tso.ipId ∧
      tso'.tcpSeq = (tso.tcpSeq + left) % 2 ^ 32 := by
  induction frags : tso.nextFrags generalizing tso tfd left fuel with
  | nil =>
    rcases Nat.eq_zero_or_pos left with rfl | more
    · rw [Lib.cut_zero, putPayload_zero]
      exact ⟨tso, rfl, rfl, rfl, (Nat.mod_eq_of_lt small).symm⟩
    · have inside : left ≤ tso.data.length := by
        simpa [Tso.regions, frags] using enough
      have pieces : Lib.cut left tso.regions = ([tso.data.take left], [tso.data.drop left]) := by
        rw [Tso.regions, frags]
        simp [Lib.cut, Nat.pos_iff_ne_zero.mp more]
      rw [pieces] at fueled ⊢
      obtain ⟨fuel, rfl⟩ := Nat.exists_eq_add_of_lt (Nat.lt_of_lt_of_le Nat.zero_lt_one fueled)
      rw [Nat.zero_add, putPayload_last more inside]
      refine ⟨_, rfl, ?_, tsoBuildData_counters tso left⟩
      rw [(regions_tsoBuildData tso left).1 (Or.inr frags), frags]
  | cons frag rest ih =>
    rcases Nat.eq_zero_or_pos left with rfl | more
    · rw [Lib.cut_zero, putPayload_zero]
      exact ⟨tso, rfl, rfl, rfl, (Nat.mod_eq_of_lt small).symm⟩
    by_cases inside : left < tso.data.length
    · have pieces : Lib.cut left tso.regions =
          ([tso.data.take left], tso.data.drop left :: tso.nextFrags) := by
        rw [Tso.regions]
        simp [Lib.cut, Nat.pos_iff_ne_zero.mp more, inside]
      rw [pieces] at fueled ⊢
      obtain ⟨fuel, rfl⟩ := Nat.exists_eq_add_of_lt (Nat.lt_of_lt_of_le Nat.zero_lt_one fueled)
      rw [Nat.zero_add, putPayload_last more inside.le]
      exact ⟨_, rfl, (regions_tsoBuildData tso left).1 (Or.inl inside),
        tsoBuildData_counters tso left⟩
    · have past : tso.data.length ≤ left := Nat.not_lt.mp inside
      have following : tso.nextFrags ≠ [] := by
        rw [frags]
        exact List.cons_ne_nil _ _
      have moved := (regions_tsoBuildData tso tso.data.length).2 le_rfl following
      have pieces : Lib.cut left tso.regions =
          (tso.data :: (Lib.cut (left - tso.data.length) tso.nextFrags).1,
            (Lib.cut (left - tso.data.length) tso.nextFrags).2) := by
        rw [Tso.regions]
        simp [Lib.cut, Nat.pos_iff_ne_zero.mp more, inside, following]
      obtain ⟨sameId, seq⟩ := tsoBuildData_counters tso tso.data.length
      rw [pieces] at fueled ⊢
      rw [← moved] at fueled ⊢
      obtain ⟨fuel, rfl⟩ := Nat.exists_eq_add_of_lt (Nat.lt_of_lt_of_le (Nat.succ_pos _) fueled)
      rw [Nat.zero_add] at fueled ⊢
      rw [putPayload_succ more, Nat.min_eq_left past, List.take_length]
      have rest' : (tsoBuildData tso tso.data.length).nextFrags = rest := by
        have := moved.trans frags
        rw [Tso.regions] at this
        exact (List.cons.inj this).2
      have reduced : (tsoBuildData tso tso.data.length).tcpSeq < 2 ^ 32 := by
        rw [seq]
        exact Nat.mod_lt _ (by decide)
      have remaining : left - tso.data.length ≤
          (tsoBuildData tso tso.data.length).regions.flatten.length := by
        rw [Tso.regions, List.flatten_cons, List.length_append] at enough
        rw [moved]
        omega
      obtain ⟨tso', result, regions, ipId, tcpSeq⟩ := @ih
        (buildTfd gen2 tfd ⟨.payload, tso.data⟩) _ _ _ reduced remaining
        (Nat.le_of_succ_le_succ fueled) rest'
      refine ⟨tso', result, regions, ipId.trans sameId, ?_⟩
      rw [tcpSeq, seq]
      omega

end Payload

/-! ## The headers of a sub-frame -/

section Headers

variable {skb : GsoSkb} {page : Nat → UInt8} {build : AmsduBuild} {size : Nat} {isLast : Bool}

theorem length_tsoBuildHdr (hdrs : TcpHdrs) (data : List UInt8)
    (network transport ipId tcpSeq : Nat) :
    (tsoBuildHdr hdrs data network transport ipId tcpSeq size isLast).length =
      (data.take (transport + hdrs.tcp.length)).length := by
  unfold tsoBuildHdr
  dsimp only
  cases hdrs.protocol <;> cases isLast <;> simp [clearTcpFlags]

theorem length_copied_headers (hdrs : TcpHdrs) (ipId tcpSeq : Nat) :
    (tsoBuildHdr hdrs hdrs.bytes 8 (8 + hdrs.ip.length) ipId tcpSeq size isLast).length =
      hdrs.snapIpTcp := by
  rw [length_tsoBuildHdr, List.length_take, hdrs.bytes_length, TcpHdrs.snapIpTcp, Nat.min_self]

theorem length_subframeHeader (skb : GsoSkb) (pad ipId tcpSeq : Nat) :
    (subframeHeader skb pad ipId tcpSeq size isLast).length =
      pad + (ethHdrLen + skb.hdrs.snapIpTcp) := by
  simp only [subframeHeader, List.length_append, List.length_replicate, MacHdr.da_length,
    MacHdr.sa_length, length_putBe16, length_copied_headers, List.length_cons, List.length_nil,
    ethHdrLen]
  omega

/-- With the IV where the transport looks for it, what is pulled ends right before the SNAP
header. -/
theorem tsoFrame_pulled (layout : skb.iv.length = (tsoFrame skb).ivLen) :
    (tsoFrame skb).data = skb.hdrs.bytes ++ skb.linear ∧ (tsoFrame skb).network = 8 := by
  have data : (tsoFrame skb).data =
      (skb.iv ++ skb.hdrs.bytes ++ skb.linear).drop (tsoFrame skb).ivLen := rfl
  have network : (tsoFrame skb).network = skb.iv.length + 8 - (tsoFrame skb).ivLen := rfl
  rw [data, network, ← layout, List.append_assoc, List.drop_left]
  exact ⟨rfl, Nat.add_sub_cancel_left ..⟩

theorem subframeHdrs_eq (layout : skb.iv.length = (tsoFrame skb).ivLen) :
    subframeHdrs (tsoFrame skb) page build size isLast =
      subframeHeader skb build.pad build.tso.ipId build.tso.tcpSeq size isLast := by
  obtain ⟨data, network⟩ := tsoFrame_pulled layout
  have copied : tsoBuildHdr skb.hdrs (tsoFrame skb).data (tsoFrame skb).network
      ((tsoFrame skb).network + skb.hdrs.ip.length) build.tso.ipId build.tso.tcpSeq size isLast =
      tsoBuildHdr skb.hdrs skb.hdrs.bytes 8 (8 + skb.hdrs.ip.length) build.tso.ipId
        build.tso.tcpSeq size isLast := by
    have takes : (skb.hdrs.bytes ++ skb.linear).take
        (8 + skb.hdrs.ip.length + skb.hdrs.tcp.length) =
          skb.hdrs.bytes.take (8 + skb.hdrs.ip.length + skb.hdrs.tcp.length) :=
      List.take_append_of_le_length (by rw [TcpHdrs.bytes_length, TcpHdrs.snapIpTcp])
    rw [data, network]
    unfold tsoBuildHdr
    dsimp only
    rw [takes]
  unfold subframeHdrs subframeHeader
  dsimp only
  rw [show (tsoFrame skb).skb = skb from rfl, copied]
  congr 1
  refine List.ext_getElem (by simp [length_copied_headers]) fun i inside inside' => ?_
  simp [List.getElem?_eq_getElem inside']

end Headers

/-! ## The sub-frame loop -/

/-- The header bytes of sub-frames with these shares, when `hdr` bytes of headers go with each
and the first is padded by `pad`. -/
def hdrBytes (hdr : Nat) : Nat → List Nat → Nat
  | _, [] => 0
  | pad, share :: rest => pad + hdr + hdrBytes hdr (amsduPad (hdr + share)) rest

/-- The chain the loops offer for shares of these lengths. -/
def amsduTbs (skb : GsoSkb) : (lead : List UInt8) → (pad ipId tcpSeq : Nat) →
    (regions : List (List UInt8)) → (shares : List Nat) → List TxTb
  | _, _, _, _, _, [] => []
  | lead, pad, ipId, tcpSeq, regions, share :: rest =>
    ⟨.headerPage, lead ++ subframeHeader skb pad ipId tcpSeq share rest.isEmpty⟩ ::
      ((Lib.cut share regions).1.map (TxTb.mk .payload) ++
        amsduTbs skb [] (amsduPad (ethHdrLen + skb.hdrs.snapIpTcp + share))
          (nextIpId skb.hdrs.protocol ipId) ((tcpSeq + share) % 2 ^ 32)
          (Lib.cut share regions).2 rest)

section Subframes

variable {gen2 : Bool} {skb : GsoSkb} {page : Nat → UInt8} {build : AmsduBuild} {fuel : Nat}
  {total : Nat}

theorem putSubframes_zero :
    putSubframes gen2 (tsoFrame skb) page fuel build 0 = some build := by
  cases fuel <;> rfl

/-- One sub-frame: its header buffer and the pieces of its share are offered, and the state
moves on to the regions behind the share. -/
theorem putSubframes_step {size left : Nat} (layout : skb.iv.length = (tsoFrame skb).ivLen)
    (seq : build.tso.tcpSeq < 2 ^ 32) (more : 0 < total)
    (share : min skb.gsoSize total = size) (rest : total - size = left)
    (reach : size ≤ build.tso.regions.flatten.length)
    (fueled : (Lib.cut size build.tso.regions).1.length ≤ fuel) :
    ∃ next, putSubframes gen2 (tsoFrame skb) page (fuel + 1) build total =
        putSubframes gen2 (tsoFrame skb) page fuel next left ∧
      next.tfd = offer gen2 build.tfd
        (⟨.headerPage, build.startHdr ++
            subframeHeader skb build.pad build.tso.ipId build.tso.tcpSeq size (left == 0)⟩ ::
          (Lib.cut size build.tso.regions).1.map (TxTb.mk .payload)) ∧
      next.startHdr = [] ∧ next.pad = amsduPad (ethHdrLen + skb.hdrs.snapIpTcp + size) ∧
      next.tso.regions = (Lib.cut size build.tso.regions).2 ∧
      next.tso.ipId = nextIpId skb.hdrs.protocol build.tso.ipId ∧
      next.tso.tcpSeq = (build.tso.tcpSeq + size) % 2 ^ 32 ∧
      next.txCmdLen =
        (build.txCmdLen + (build.pad + (ethHdrLen + skb.hdrs.snapIpTcp))) % 2 ^ 16 ∧
      next.written = build.written + (build.pad + (ethHdrLen + skb.hdrs.snapIpTcp)) := by
  have headers := @subframeHdrs_eq skb page build size (left == 0) layout
  have written : (subframeHdrs (tsoFrame skb) page build size (left == 0)).length =
      build.pad + (ethHdrLen + skb.hdrs.snapIpTcp) := by
    rw [headers, length_subframeHeader]
  obtain ⟨tso, result, regions, ipId, tcpSeq⟩ := @putPayload_eq gen2
    (putHdrs gen2 (tsoFrame skb) page build size (left == 0)).tfd
    (putHdrs gen2 (tsoFrame skb) page build size (left == 0)).tso size fuel seq reach fueled
  refine ⟨{ putHdrs gen2 (tsoFrame skb) page build size (left == 0) with
      tfd := offer gen2 (putHdrs gen2 (tsoFrame skb) page build size (left == 0)).tfd
        ((Lib.cut size build.tso.regions).1.map (TxTb.mk .payload))
      tso := tso }, ?_, ?_, rfl, rfl, regions, ipId, tcpSeq,
    congrArg (fun bytes => (build.txCmdLen + bytes) % 2 ^ 16) written,
    congrArg (build.written + ·) written⟩
  · cases total with
    | zero => exact absurd more (Nat.lt_irrefl 0)
    | succ total =>
      rw [putSubframes]
      dsimp only
      rw [show min (tsoFrame skb).skb.gsoSize (total + 1) = size from share, rest, result]
      rfl
  · rw [← headers]
    rfl

/-- The loops end, having offered the chain. -/
theorem putSubframes_eq (layout : skb.iv.length = (tsoFrame skb).ivLen)
    (gso : 0 < skb.gsoSize) (l : List UInt8) :
    ∀ (build : AmsduBuild) (fuel : Nat), build.txCmdLen < 2 ^ 16 →
      build.tso.tcpSeq < 2 ^ 32 → build.tso.regions.flatten = l →
      (Lib.chunks skb.gsoSize l).length + build.tso.regions.length ≤ fuel →
      ∃ build', putSubframes gen2 (tsoFrame skb) page fuel build l.length = some build' ∧
        build'.tfd = offer gen2 build.tfd (amsduTbs skb build.startHdr build.pad build.tso.ipId
          build.tso.tcpSeq build.tso.regions ((Lib.chunks skb.gsoSize l).map List.length)) ∧
        build'.txCmdLen = (build.txCmdLen + hdrBytes (ethHdrLen + skb.hdrs.snapIpTcp) build.pad
          ((Lib.chunks skb.gsoSize l).map List.length)) % 2 ^ 16 ∧
        build'.written = build.written + hdrBytes (ethHdrLen + skb.hdrs.snapIpTcp) build.pad
          ((Lib.chunks skb.gsoSize l).map List.length) := by
  induction l using Lib.chunks_induction gso with
  | nil =>
    intro build fuel len _ _ _
    exact ⟨build, putSubframes_zero, rfl, (Nat.mod_eq_of_lt len).symm, rfl⟩
  | cons l nonempty ih =>
    intro build fuel len seq payload fueled
    have more : 0 < l.length := List.length_pos_iff.mpr nonempty
    have share : (l.take skb.gsoSize).length = min skb.gsoSize l.length := List.length_take
    have reach : (l.take skb.gsoSize).length ≤ build.tso.regions.flatten.length := by
      rw [payload, share]
      exact Nat.min_le_right _ _
    have left : l.length - (l.take skb.gsoSize).length = (l.drop skb.gsoSize).length := by
      rw [share, List.length_drop]
      omega
    rw [Lib.chunks_eq_cons gso nonempty, List.length_cons] at fueled
    rw [Lib.chunks_eq_cons gso nonempty, List.map_cons]
    obtain ⟨fuel, rfl⟩ : ∃ rest, fuel = rest + 1 := ⟨fuel - 1, by omega⟩
    obtain ⟨pieces, fewer, kept⟩ := @Lib.cut_length _ (l.take skb.gsoSize).length _
      build.tso.regions_ne_nil
    have some := List.length_pos_iff.mpr kept
    obtain ⟨next, step, tfd, startHdr, pad, regions, ipId, tcpSeq, txCmdLen, written⟩ :=
      @putSubframes_step gen2 skb page build fuel l.length _ _ layout seq more share.symm left
        reach (by omega)
    have behind : next.tso.regions.flatten = l.drop skb.gsoSize := by
      rw [regions, (Lib.cut_flatten reach).2, payload, share]
      by_cases short : skb.gsoSize ≤ l.length
      · rw [Nat.min_eq_left short]
      · rw [Nat.min_eq_right (by omega), List.drop_length, List.drop_of_length_le (by omega)]
    obtain ⟨build', run, tfd', txCmdLen', written'⟩ := ih next fuel
      (by rw [txCmdLen]; exact Nat.mod_lt _ (by decide))
      (by rw [tcpSeq]; exact Nat.mod_lt _ (by decide)) behind (by rw [regions]; omega)
    have last : ((l.drop skb.gsoSize).length == 0) =
        ((Lib.chunks skb.gsoSize (l.drop skb.gsoSize)).map List.length).isEmpty := by
      by_cases none : l.drop skb.gsoSize = []
      · rw [none]
        rfl
      · rw [Lib.chunks_eq_cons gso none, List.map_cons, List.isEmpty_cons, beq_eq_false_iff_ne]
        exact fun zero => none (List.length_eq_zero_iff.mp zero)
    refine ⟨build', step.trans run, ?_, ?_, ?_⟩
    · rw [tfd', tfd, ← offer_append, startHdr, pad, regions, ipId, tcpSeq, last]
      rfl
    · rw [txCmdLen', txCmdLen, pad, hdrBytes]
      omega
    · rw [written', written, pad, hdrBytes]
      omega

end Subframes

/-! ## The chain -/

section Chain

variable {skb : GsoSkb} {lead : List UInt8} {pad ipId tcpSeq hdr : Nat}
  {regions : List (List UInt8)} {shares : List Nat} {tb : TxTb}

/-- Two buffers for each sub-frame, and one more for each region after the first. -/
theorem amsduTbs_length (nonempty : regions ≠ []) :
    (amsduTbs skb lead pad ipId tcpSeq regions shares).length + 1 ≤
      2 * shares.length + regions.length := by
  induction shares generalizing lead pad ipId tcpSeq regions with
  | nil =>
    have := List.length_pos_iff.mpr nonempty
    simp only [amsduTbs, List.length_nil]
    omega
  | cons share rest ih =>
    obtain ⟨pieces, -, left⟩ := @Lib.cut_length _ share _ nonempty
    have others := @ih [] (amsduPad (ethHdrLen + skb.hdrs.snapIpTcp + share))
      (nextIpId skb.hdrs.protocol ipId) ((tcpSeq + share) % 2 ^ 32) _ left
    simp only [amsduTbs, List.length_cons, List.length_append, List.length_map]
    omega

/-- A buffer of the chain is a short header or a piece of a share. -/
theorem of_mem_amsduTbs (mem : tb ∈ amsduTbs skb lead pad ipId tcpSeq regions shares)
    (padded : pad ≤ 3) :
    tb.source = .headerPage ∧
        tb.bytes.length ≤ lead.length + (3 + (ethHdrLen + skb.hdrs.snapIpTcp)) ∨
      ∃ pieces ∈ Lib.cutShares shares regions, ∃ piece ∈ pieces, tb = ⟨.payload, piece⟩ := by
  induction shares generalizing lead pad ipId tcpSeq regions with
  | nil => cases mem
  | cons share rest ih =>
    rw [amsduTbs, List.mem_cons, List.mem_append] at mem
    rcases mem with rfl | stretch | later
    · left
      rw [List.length_append, length_subframeHeader]
      exact ⟨rfl, by omega⟩
    · obtain ⟨piece, listed, rfl⟩ := List.mem_map.mp stretch
      exact Or.inr ⟨_, List.mem_cons_self, piece, listed, rfl⟩
    · rcases ih later (Nat.le_of_lt_succ (amsduPad_lt _)) with ⟨header, short⟩ | cut
      · rw [List.length_nil, Nat.zero_add] at short
        exact Or.inl ⟨header, short.trans (Nat.le_add_left _ _)⟩
      · obtain ⟨pieces, listed, found⟩ := cut
        exact Or.inr ⟨pieces, List.mem_cons_of_mem _ listed, found⟩

/-- Every piece of a share is in the chain. -/
theorem mem_amsduTbs_of_piece {pieces : List (List UInt8)} {piece : List UInt8}
    (listed : pieces ∈ Lib.cutShares shares regions) (mem : piece ∈ pieces) :
    ⟨.payload, piece⟩ ∈ amsduTbs skb lead pad ipId tcpSeq regions shares := by
  induction shares generalizing lead pad ipId tcpSeq regions with
  | nil => cases listed
  | cons share rest ih =>
    rw [amsduTbs, List.mem_cons, List.mem_append]
    cases listed with
    | head => exact Or.inr (Or.inl (List.mem_map_of_mem mem))
    | tail _ listed => exact Or.inr (Or.inr (ih listed))

theorem describes_amsduTbs (gso : 0 < skb.gsoSize) (l : List UInt8) :
    ∀ (lead : List UInt8) (pad ipId tcpSeq : Nat) (regions : List (List UInt8)),
      regions.flatten = l →
      Describes skb lead pad ipId tcpSeq (Lib.chunks skb.gsoSize l)
        (amsduTbs skb lead pad ipId tcpSeq regions
          ((Lib.chunks skb.gsoSize l).map List.length)) := by
  induction l using Lib.chunks_induction gso with
  | nil => exact fun _ _ _ _ _ _ => rfl
  | cons l nonempty ih =>
    intro lead pad ipId tcpSeq regions payload
    have reach : (l.take skb.gsoSize).length ≤ regions.flatten.length := by
      rw [payload, List.length_take]
      exact Nat.min_le_right _ _
    obtain ⟨taken, left⟩ := Lib.cut_flatten reach
    rw [payload] at taken left
    rw [Lib.chunks_eq_cons gso nonempty, List.map_cons]
    refine ⟨_, _, ?_, taken.trans ?_, ih _ _ _ _ _ (left.trans ?_)⟩
    · rw [amsduTbs, List.isEmpty_map]
    · rw [List.length_take, List.take_eq_take_iff]
      omega
    · rw [List.length_take]
      by_cases short : skb.gsoSize ≤ l.length
      · rw [Nat.min_eq_left short]
      · rw [Nat.min_eq_right (by omega), List.drop_length, List.drop_of_length_le (by omega)]

/-- The bytes of the payload among those the buffers describe. -/
def payloadLen (tbs : List TxTb) : Nat := bytesLen (tbs.filter (·.source = .payload))

theorem payloadLen_cons (tb : TxTb) (tbs : List TxTb) :
    payloadLen (tb :: tbs) =
      (if tb.source = .payload then tb.bytes.length else 0) + payloadLen tbs := by
  unfold payloadLen bytesLen
  rw [List.filter_cons]
  by_cases payload : tb.source = .payload
  · rw [if_pos payload, if_pos (by simpa using payload), List.map_cons, List.sum_cons]
  · rw [if_neg payload, if_neg (by simpa using payload), Nat.zero_add]

@[simp] theorem bytesLen_cons (tb : TxTb) (tbs : List TxTb) :
    bytesLen (tb :: tbs) = tb.bytes.length + bytesLen tbs := by
  simp [bytesLen]

@[simp] theorem bytesLen_append (first second : List TxTb) :
    bytesLen (first ++ second) = bytesLen first + bytesLen second := by
  simp [bytesLen]

@[simp] theorem bytesLen_pieces (pieces : List (List UInt8)) :
    bytesLen (pieces.map (TxTb.mk .payload)) = pieces.flatten.length := by
  simp [bytesLen, List.length_flatten, Function.comp_def]

/-- A chain that describes shares has the bytes of its headers and of the shares, ... -/
theorem Describes.bytesLen {shares : List (List UInt8)} {tbs : List TxTb}
    (describes : Describes skb lead pad ipId tcpSeq shares tbs) (some : shares ≠ []) :
    bytesLen tbs = lead.length +
      hdrBytes (ethHdrLen + skb.hdrs.snapIpTcp) pad (shares.map List.length) +
        shares.flatten.length := by
  induction shares generalizing lead pad ipId tcpSeq tbs with
  | nil => exact absurd rfl some
  | cons share rest ih =>
    obtain ⟨pieces, tail, rfl, pieces_eq, describes⟩ := describes
    have others : Iwlwifi.bytesLen tail = hdrBytes (ethHdrLen + skb.hdrs.snapIpTcp)
        (amsduPad (ethHdrLen + skb.hdrs.snapIpTcp + share.length)) (rest.map List.length) +
          rest.flatten.length := by
      cases rest with
      | nil =>
        rw [show tail = [] from describes]
        rfl
      | cons next rest => simpa using ih describes (List.cons_ne_nil _ _)
    rw [bytesLen_cons, bytesLen_append, bytesLen_pieces, others, pieces_eq, List.length_append,
      length_subframeHeader, List.map_cons, hdrBytes, List.flatten_cons, List.length_append]
    omega

/-- ... and of the payload exactly the shares. -/
theorem Describes.payloadLen {shares : List (List UInt8)} {tbs : List TxTb}
    (describes : Describes skb lead pad ipId tcpSeq shares tbs) :
    payloadLen tbs = shares.flatten.length := by
  induction shares generalizing lead pad ipId tcpSeq tbs with
  | nil =>
    rw [show tbs = [] from describes]
    rfl
  | cons share rest ih =>
    obtain ⟨pieces, tail, rfl, pieces_eq, describes⟩ := describes
    have others := ih describes
    have all : (pieces.map (TxTb.mk .payload)).filter (·.source = .payload) =
        pieces.map (TxTb.mk .payload) := by
      simp [List.filter_eq_self]
    unfold Iwlwifi.payloadLen at others ⊢
    rw [List.filter_cons_of_neg (by simp), List.filter_append, all, bytesLen_append,
      bytesLen_pieces, others, pieces_eq, List.flatten_cons, List.length_append]

/-- Every header takes at most three bytes of padding. -/
theorem hdrBytes_le (padded : pad ≤ 3) : hdrBytes hdr pad shares ≤ shares.length * (3 + hdr) := by
  induction shares generalizing pad with
  | nil => exact Nat.zero_le _
  | cons share rest ih =>
    have others := ih (Nat.le_of_lt_succ (amsduPad_lt (hdr + share)))
    rw [hdrBytes, List.length_cons, Nat.succ_mul]
    omega

/-- Headers and shares make up the A-MSDU. -/
theorem hdrBytes_add_sum (some : shares ≠ []) :
    hdrBytes hdr pad shares + shares.sum = pad + amsduLen hdr shares := by
  induction shares generalizing pad with
  | nil => exact absurd rfl some
  | cons share rest ih =>
    cases rest with
    | nil =>
      simp [hdrBytes, amsduLen]
      omega
    | cons next rest =>
      have others := @ih (amsduPad (hdr + share)) (List.cons_ne_nil _ _)
      rw [hdrBytes, List.sum_cons, amsduLen]
      · omega
      · simp

end Chain

/-! ## The chain of a queued frame -/

/-- The regions the payload lies in: what is left of the linear area, if anything is, then the
page fragments. -/
def GsoSkb.regions (skb : GsoSkb) : List (List UInt8) :=
  if skb.linear = [] ∧ skb.frags ≠ [] then skb.frags else skb.linear :: skb.frags

/-- No stretch of a region that falls into one sub-frame is longer than 4095 bytes. -/
def ShortPieces (skb : GsoSkb) : Prop :=
  ∀ pieces ∈ Lib.cutShares (skb.subframes.map List.length) skb.regions,
    ∀ piece ∈ pieces, piece.length < 2 ^ 12

/-- What the conversion guarantees of a frame that it marks. -/
structure ReadyAmsdu (gen2 : Bool) (num limit : Nat) (skb : GsoSkb) : Prop where
  gso : 0 < skb.gsoSize
  long : skb.gsoSize < skb.payload.length
  fits : skb.payload.length ≤ num * skb.gsoSize
  tbs : num * 2 + skb.frags.length + 1 + 3 ≤ maxTbs gen2
  limit : amsduLen (ethHdrLen + skb.hdrs.snapIpTcp) (skb.subframes.map List.length) ≤ limit
  headers : skb.hdrs.snapIpTcp ≤ 128

section Frame

variable {gen2 : Bool} {num limit fuel : Nat} {skb : GsoSkb} {tb0 tb1 : List UInt8}
  {page : Nat → UInt8} {build : AmsduBuild}

theorem tsoStart_spec (skb : GsoSkb) :
    (tsoStart skb).regions = skb.regions ∧ (tsoStart skb).ipId = initialIpId skb ∧
      (tsoStart skb).tcpSeq = initialTcpSeq skb := by
  unfold tsoStart Tso.moveToNext GsoSkb.regions
  dsimp only
  split
  · next frag frags empty frags_eq =>
      rw [if_pos ⟨empty, by simp [frags_eq]⟩, frags_eq]
      exact ⟨rfl, rfl, rfl⟩
  · next notBoth =>
      refine ⟨(if_neg fun both => ?_).symm, rfl, rfl⟩
      obtain ⟨frag, frags, frags_eq⟩ := List.exists_cons_of_ne_nil both.2
      exact notBoth frag frags both.1 frags_eq

theorem regions_spec (skb : GsoSkb) : skb.regions.flatten = skb.payload ∧
    skb.regions.length ≤ skb.frags.length + 1 ∧ skb.regions ≠ [] := by
  unfold GsoSkb.regions
  split
  · next empty =>
      refine ⟨?_, Nat.le_succ _, empty.2⟩
      rw [GsoSkb.payload, empty.1, List.nil_append]
  · exact ⟨rfl, le_rfl, List.cons_ne_nil _ _⟩

theorem initialTcpSeq_lt (skb : GsoSkb) : initialTcpSeq skb < 2 ^ 32 := by
  have byte := fun i => (skb.hdrs.tcp.getD i 0).toNat_lt
  have first := byte 4
  have second := byte (4 + 1)
  have third := byte 6
  have fourth := byte (6 + 1)
  simp only [initialTcpSeq, getBe16]
  omega

theorem startTfd_eq (gen2 : Bool) (tb0 tb1 : List UInt8) :
    startTfd gen2 tb0 tb1 = ⟨[storedTb gen2 ⟨.command, tb0⟩, storedTb gen2 ⟨.command, tb1⟩], 0⟩ := by
  cases gen2 <;> rfl

/-- What is left once the headers and the IV are taken off is the payload. -/
theorem totalLen_eq (layout : skb.iv.length = (tsoFrame skb).ivLen) :
    (tsoFrame skb).totalLen = skb.payload.length := by
  have total : (tsoFrame skb).totalLen =
      (skb.len + 2 ^ 32 - skb.hdrs.snapIpTcp - skb.hdrLen - (tsoFrame skb).ivLen) % 2 ^ 32 := rfl
  have len := skb.len_lt
  rw [show (skb.linear ++ skb.frags.flatten).length = skb.payload.length from rfl] at len
  rw [total, ← layout, GsoSkb.len]
  omega

/-- The transport finds room for the whole chain, in a frame whose IV is where it looks for
it. -/
theorem buildAmsdu_eq (ready : ReadyAmsdu gen2 num limit skb)
    (layout : skb.iv.length = (tsoFrame skb).ivLen) :
    ∃ fuel build, buildAmsdu gen2 fuel skb tb0 tb1 page = some build ∧
      build.tfd.refused = 0 ∧
      build.tfd.tbs.drop 2 = (amsduTbs skb skb.iv 0 (initialIpId skb) (initialTcpSeq skb)
        skb.regions (skb.subframes.map List.length)).map (storedTb gen2) ∧
      build.txCmdLen = (skb.len + 2 ^ 16 - skb.hdrs.snapIpTcp +
        hdrBytes (ethHdrLen + skb.hdrs.snapIpTcp) 0 (skb.subframes.map List.length)) % 2 ^ 16 ∧
      build.written = skb.iv.length +
        hdrBytes (ethHdrLen + skb.hdrs.snapIpTcp) 0 (skb.subframes.map List.length) := by
  obtain ⟨regions, ipId, tcpSeq⟩ := tsoStart_spec skb
  obtain ⟨payload, few, some⟩ := regions_spec skb
  have cuts : skb.subframes.length ≤ num := Lib.chunks_length_le ready.gso ready.fits
  have lead : (skb.iv ++ skb.hdrs.bytes ++ skb.linear).take (tsoFrame skb).ivLen = skb.iv := by
    rw [← layout, List.append_assoc, List.take_left]
  obtain ⟨build, run, tfd, txCmdLen, written⟩ := @putSubframes_eq gen2 skb page layout ready.gso
    skb.payload (startBuild skb (startTfd gen2 tb0 tb1))
    (skb.subframes.length + (tsoStart skb).regions.length) (Nat.mod_lt _ (by decide))
    (by
      change (tsoStart skb).tcpSeq < 2 ^ 32
      rw [tcpSeq]
      exact initialTcpSeq_lt skb)
    (by
      change (tsoStart skb).regions.flatten = skb.payload
      rw [regions, payload])
    le_rfl
  rw [← totalLen_eq layout] at run
  have room := @amsduTbs_length skb skb.iv 0 (initialIpId skb) (initialTcpSeq skb) skb.regions
    (skb.subframes.map List.length) some
  rw [List.length_map] at room
  have tbs := ready.tbs
  have stored := @offer_of_room gen2 (startTfd gen2 tb0 tb1) (amsduTbs skb skb.iv 0
    (initialIpId skb) (initialTcpSeq skb) skb.regions (skb.subframes.map List.length)) (by
      rw [startTfd_eq]
      simp only [List.length_cons, List.length_nil]
      omega)
  have chain : build.tfd = offer gen2 (startTfd gen2 tb0 tb1) (amsduTbs skb skb.iv 0
      (initialIpId skb) (initialTcpSeq skb) skb.regions (skb.subframes.map List.length)) := by
    rw [tfd]
    change offer gen2 _ (amsduTbs skb ((skb.iv ++ skb.hdrs.bytes ++ skb.linear).take
      (tsoFrame skb).ivLen) 0 (tsoStart skb).ipId (tsoStart skb).tcpSeq (tsoStart skb).regions _)
      = _
    rw [lead, ipId, tcpSeq, regions]
    rfl
  rw [stored, startTfd_eq] at chain
  refine ⟨_, build, run, by rw [chain], by rw [chain]; rfl, ?_, ?_⟩
  · rw [txCmdLen]
    have start : (startBuild skb (startTfd gen2 tb0 tb1)).txCmdLen =
        (skb.len % 2 ^ 16 + 2 ^ 16 - skb.hdrs.snapIpTcp) % 2 ^ 16 := rfl
    have short := skb.hdrs.short
    rw [start]
    change (_ + hdrBytes _ 0 (skb.subframes.map List.length)) % _ = _
    rw [TcpHdrs.snapIpTcp] at *
    omega
  · rw [written, layout]
    rfl

theorem ieee80211Hdrlen_le (fc : Nat) : ieee80211Hdrlen fc ≤ 36 := by
  unfold ieee80211Hdrlen
  split <;> split <;> (try split) <;> (try split) <;> omega

theorem ivLen_le (skb : GsoSkb) : (tsoFrame skb).ivLen ≤ 8 := by
  change (if skb.isProtected then ccmpHdrLen else 0) ≤ 8
  split <;> decide

/-- The room requested covers the padded headers of all sub-frames. -/
theorem written_le_hdrRoom (ready : ReadyAmsdu gen2 num limit skb)
    (layout : skb.iv.length = (tsoFrame skb).ivLen) :
    skb.iv.length +
        hdrBytes (ethHdrLen + skb.hdrs.snapIpTcp) 0 (skb.subframes.map List.length) ≤
      (tsoFrame skb).hdrRoom := by
  have room : (tsoFrame skb).hdrRoom =
      (((tsoFrame skb).totalLen + skb.gsoSize - 1) % 2 ^ 32 / skb.gsoSize *
        (3 + skb.hdrs.snapIpTcp + ethHdrLen) + (tsoFrame skb).ivLen) % 2 ^ 32 := rfl
  have gso := ready.gso
  have tbs := ready.tbs
  have headers := ready.headers
  have segment := skb.gsoSize_lt
  have few : num ≤ 12 := by
    have : maxTbs gen2 ≤ 25 := by cases gen2 <;> decide
    omega
  have payload : skb.payload.length ≤ 12 * skb.gsoSize :=
    ready.fits.trans (Nat.mul_le_mul_right _ few)
  have iv := ivLen_le skb
  rw [totalLen_eq layout, ← layout, Nat.mod_eq_of_lt
    (show skb.payload.length + skb.gsoSize - 1 < 2 ^ 32 by omega)] at room
  -- the rounded quotient is at least the number of sub-frames, and small
  have ceil : (skb.payload.length + skb.gsoSize - 1) / skb.gsoSize ≤ 12 := by
    rw [Nat.div_le_iff_le_mul_add_pred gso]
    omega
  have covers : skb.subframes.length ≤ (skb.payload.length + skb.gsoSize - 1) / skb.gsoSize := by
    refine Lib.chunks_length_le gso ?_
    have := Nat.div_add_mod (skb.payload.length + skb.gsoSize - 1) skb.gsoSize
    have := Nat.mod_lt (skb.payload.length + skb.gsoSize - 1) gso
    rw [Nat.mul_comm]
    omega
  have bytes := @hdrBytes_le 0 (ethHdrLen + skb.hdrs.snapIpTcp)
    (skb.subframes.map List.length) (Nat.zero_le _)
  rw [List.length_map] at bytes
  have most := Nat.mul_le_mul_right (3 + (ethHdrLen + skb.hdrs.snapIpTcp)) covers
  have small := Nat.mul_le_mul_right (3 + (ethHdrLen + skb.hdrs.snapIpTcp)) ceil
  rw [room, show 3 + skb.hdrs.snapIpTcp + ethHdrLen = 3 + (ethHdrLen + skb.hdrs.snapIpTcp) by
    omega, Nat.mod_eq_of_lt (by rw [ethHdrLen] at *; omega)]
  omega

/-- The pieces of a chain are not longer than the shares. -/
theorem length_le_of_mem_cutShares {bound : Nat} {shares : List Nat}
    {regions : List (List UInt8)} {pieces : List (List UInt8)} {piece : List UInt8}
    (short : ∀ share ∈ shares, share ≤ bound) (listed : pieces ∈ Lib.cutShares shares regions)
    (mem : piece ∈ pieces) : piece.length ≤ bound := by
  induction shares generalizing regions with
  | nil => cases listed
  | cons share rest ih =>
    cases listed with
    | head => exact (Lib.length_le_of_mem_cut mem).trans (short share List.mem_cons_self)
    | tail _ listed =>
      exact ih (fun other mem => short other (List.mem_cons_of_mem share mem)) listed

theorem subframes_le (gso : 0 < skb.gsoSize) :
    ∀ share ∈ skb.subframes.map List.length, share ≤ skb.gsoSize := by
  intro share mem
  obtain ⟨part, listed, rfl⟩ := List.mem_map.mp mem
  exact Lib.length_le_of_mem_chunks gso listed

/-- Every buffer is stored as it is offered when the pieces are short, or the length field is
that of the newer descriptor. -/
theorem map_storedTb_amsduTbs (ready : ReadyAmsdu gen2 num limit skb)
    (layout : skb.iv.length = (tsoFrame skb).ivLen) (short : gen2 = true ∨ ShortPieces skb) :
    (amsduTbs skb skb.iv 0 (initialIpId skb) (initialTcpSeq skb) skb.regions
      (skb.subframes.map List.length)).map (storedTb gen2) =
        amsduTbs skb skb.iv 0 (initialIpId skb) (initialTcpSeq skb) skb.regions
          (skb.subframes.map List.length) := by
  have keep : ∀ tb ∈ amsduTbs skb skb.iv 0 (initialIpId skb) (initialTcpSeq skb) skb.regions
      (skb.subframes.map List.length), storedTb gen2 tb = id tb := by
    intro tb mem
    have headers := ready.headers
    have iv := ivLen_le skb
    refine storedTb_eq_self ?_
    rcases of_mem_amsduTbs mem (Nat.zero_le 3) with
      ⟨-, header⟩ | ⟨pieces, listed, piece, inside, rfl⟩
    · left
      rw [ethHdrLen] at header
      omega
    · rcases short with format | short
      · have bound := length_le_of_mem_cutShares (subframes_le ready.gso) listed inside
        exact Or.inr ⟨format, bound.trans_lt skb.gsoSize_lt⟩
      · exact Or.inl (short pieces listed piece inside)
  exact (List.map_congr_left keep).trans (List.map_id _)

/-- With the IV in place and pieces that the length field can hold, the chain is complete. -/
theorem buildAmsdu_complete (ready : ReadyAmsdu gen2 num limit skb)
    (layout : skb.iv.length = (tsoFrame skb).ivLen) (short : gen2 = true ∨ ShortPieces skb) :
    ∃ fuel build, buildAmsdu gen2 fuel skb tb0 tb1 page = some build ∧
      AmsduChain skb limit build := by
  obtain ⟨fuel, build, run, refused, tbs, txCmdLen, written⟩ :=
    @buildAmsdu_eq gen2 num limit skb tb0 tb1 page ready layout
  have kept := map_storedTb_amsduTbs ready layout short
  have describes := describes_amsduTbs ready.gso skb.payload skb.iv 0 (initialIpId skb)
    (initialTcpSeq skb) skb.regions (regions_spec skb).1
  have some : skb.subframes ≠ [] := by
    have two := Lib.two_le_chunks_length ready.gso ready.long
    exact List.ne_nil_of_length_pos (Nat.lt_of_lt_of_le Nat.zero_lt_two two)
  have bytes := describes.bytesLen some
  rw [Lib.flatten_chunks ready.gso] at bytes
  rw [kept] at tbs
  have len : skb.len = skb.hdrLen + skb.iv.length + skb.hdrs.snapIpTcp + skb.payload.length := rfl
  change bytesLen (amsduTbs _ _ _ _ _ _ (skb.subframes.map List.length)) = _ +
    hdrBytes _ 0 (skb.subframes.map List.length) + _ at bytes
  have length : build.txCmdLen = (skb.hdrLen + bytesLen (build.tfd.tbs.drop 2)) % 2 ^ 16 := by
    rw [txCmdLen, tbs, bytes, len]
    omega
  refine ⟨fuel, build, run, refused, by rw [tbs]; exact describes, length, fun standard => ?_,
    by rw [written]; exact written_le_hdrRoom ready layout⟩
  -- the length of a whole A-MSDU fits the field
  have amsdu := @hdrBytes_add_sum 0 (ethHdrLen + skb.hdrs.snapIpTcp)
    (skb.subframes.map List.length) (by simpa using some)
  rw [← List.length_flatten, GsoSkb.subframes, Lib.flatten_chunks ready.gso, Nat.zero_add] at amsdu
  have limited := ready.limit
  have hdrLen : skb.hdrLen ≤ 36 := ieee80211Hdrlen_le skb.mac.frameControl
  have iv := ivLen_le skb
  rw [length, tbs, bytes]
  rw [GsoSkb.subframes] at limited ⊢
  omega

end Frame

/-! ## Where the chain falls short -/

section Short

variable {gen2 : Bool} {frame : TsoFrame} {page : Nat → UInt8} {tfd tfd' : Tfd} {tso tso' : Tso}
  {build build' : AmsduBuild} {fuel fuel' left total : Nat}

theorem putPayload_mono (more : fuel ≤ fuel') {result : Tfd × Tso}
    (run : putPayload gen2 fuel tfd tso left = some result) :
    putPayload gen2 fuel' tfd tso left = some result := by
  induction fuel generalizing fuel' tfd tso left with
  | zero =>
    cases left with
    | zero => exact putPayload_zero.trans run
    | succ left => cases run
  | succ fuel ih =>
    rcases Nat.eq_zero_or_pos left with rfl | some
    · exact putPayload_zero.trans run
    · obtain ⟨fuel', rfl⟩ : ∃ rest, fuel' = rest + 1 := ⟨fuel' - 1, by omega⟩
      rw [putPayload_succ some] at run ⊢
      exact ih (Nat.le_of_succ_le_succ more) run

theorem putSubframes_mono (more : fuel ≤ fuel')
    (run : putSubframes gen2 frame page fuel build total = some build') :
    putSubframes gen2 frame page fuel' build total = some build' := by
  induction fuel generalizing fuel' build total with
  | zero =>
    cases total with
    | zero =>
      cases fuel' with
      | zero => exact run
      | succ fuel' => exact run
    | succ total => cases run
  | succ fuel ih =>
    obtain ⟨fuel', rfl⟩ : ∃ rest, fuel' = rest + 1 := ⟨fuel' - 1, by omega⟩
    have more := Nat.le_of_succ_le_succ more
    cases total with
    | zero => exact run
    | succ total =>
      rw [putSubframes] at run ⊢
      dsimp only at run ⊢
      obtain ⟨next, payload, run⟩ := Option.bind_eq_some_iff.mp run
      rw [putPayload_mono more payload]
      exact ih more run

theorem payloadLen_append (first second : List TxTb) :
    payloadLen (first ++ second) = payloadLen first + payloadLen second := by
  rw [payloadLen, List.filter_append, bytesLen_append, payloadLen, payloadLen]

/-- Without a refusal, the payload loop describes what it was asked to. -/
theorem putPayload_adds (small : left < 2 ^ 16)
    (run : putPayload true fuel tfd tso left = some (tfd', tso')) :
    ∃ added, tfd'.tbs = tfd.tbs ++ added ∧ tfd.refused ≤ tfd'.refused ∧
      (tfd'.refused = tfd.refused → payloadLen added = left) := by
  induction fuel generalizing tfd tso left with
  | zero =>
    cases left with
    | zero =>
      cases run
      exact ⟨[], by simp, le_rfl, fun _ => rfl⟩
    | succ left => cases run
  | succ fuel ih =>
    rcases Nat.eq_zero_or_pos left with rfl | some
    · rw [putPayload_zero] at run
      cases run
      exact ⟨[], by simp, le_rfl, fun _ => rfl⟩
    rw [putPayload_succ some] at run
    have size := Nat.min_le_right tso.data.length left
    obtain ⟨added, tbs, refused, payload⟩ := ih (by omega) run
    by_cases full : maxTbs true ≤ tfd.tbs.length
    · rw [buildTfd, if_pos full] at tbs refused payload
      dsimp only at refused payload
      exact ⟨added, tbs, by omega, fun same => by omega⟩
    · rw [buildTfd, if_neg full] at tbs refused payload
      refine ⟨_, tbs.trans (List.append_assoc ..), refused, fun same => ?_⟩
      have piece : (tso.data.take (min tso.data.length left)).length =
          min tso.data.length left := by
        rw [List.length_take]
        omega
      rw [payloadLen_append, payload same, storedTb_eq_self (Or.inr ⟨rfl, by
        dsimp only
        omega⟩)]
      rw [payloadLen_cons, if_pos rfl, piece]
      change _ + 0 + _ = left
      omega

/-- Without a refusal, the sub-frame loop describes what it was asked to. -/
theorem putSubframes_adds
    (run : putSubframes true frame page fuel build total = some build') :
    ∃ added, build'.tfd.tbs = build.tfd.tbs ++ added ∧ build.tfd.refused ≤ build'.tfd.refused ∧
      (build'.tfd.refused = build.tfd.refused → payloadLen added = total) := by
  induction fuel generalizing build total with
  | zero =>
    cases total with
    | zero =>
      cases run
      exact ⟨[], by simp, le_rfl, fun _ => rfl⟩
    | succ total => cases run
  | succ fuel ih =>
    cases total with
    | zero =>
      cases run
      exact ⟨[], by simp, le_rfl, fun _ => rfl⟩
    | succ total =>
      rw [putSubframes] at run
      dsimp only at run
      obtain ⟨⟨tfd, tso⟩, share, run⟩ := Option.bind_eq_some_iff.mp run
      have size := Nat.min_le_left frame.skb.gsoSize (total + 1)
      have size' := Nat.min_le_right frame.skb.gsoSize (total + 1)
      obtain ⟨pieces, tbs, refused, payload⟩ := putPayload_adds
        (size.trans_lt frame.skb.gsoSize_lt) share
      obtain ⟨added, tbs', refused', payload'⟩ := ih run
      dsimp only at tbs' refused' payload'
      rw [tbs] at tbs'
      dsimp only [putHdrs] at tbs' refused payload
      by_cases full : maxTbs true ≤ build.tfd.tbs.length
      · rw [buildTfd, if_pos full] at tbs' refused payload
        dsimp only at tbs' refused payload
        exact ⟨pieces ++ added, by rw [tbs', List.append_assoc], by omega,
          fun same => by omega⟩
      · rw [buildTfd, if_neg full] at tbs' refused payload
        dsimp only at tbs' refused payload
        refine ⟨_, by rw [tbs', List.append_assoc, List.append_assoc], by omega,
          fun same => ?_⟩
        have header : ∀ bytes, payloadLen [storedTb true ⟨.headerPage, bytes⟩] = 0 := by
          intro bytes
          rw [payloadLen_cons, if_neg (by simp [storedTb])]
          rfl
        rw [payloadLen_append, payloadLen_append, header, payload (by omega),
          payload' (by omega)]
        omega

theorem tbLen_le (gen2 : Bool) (len : Nat) : tbLen gen2 len ≤ len := by
  unfold tbLen
  split <;> exact Nat.mod_le _ _

theorem payloadLen_map_storedTb_le (tbs : List TxTb) :
    payloadLen (tbs.map (storedTb gen2)) ≤ payloadLen tbs := by
  induction tbs with
  | nil => exact le_rfl
  | cons tb tbs ih =>
    rw [List.map_cons, payloadLen_cons, payloadLen_cons]
    refine Nat.add_le_add ?_ ih
    rw [show (storedTb gen2 tb).source = tb.source from rfl]
    split
    · exact List.length_take_le' _ _
    · exact le_rfl

/-- Storing buffers whose length field is too small for a piece loses payload. -/
theorem tbLen_eq_of_payloadLen {tbs : List TxTb}
    (same : payloadLen (tbs.map (storedTb gen2)) = payloadLen tbs) {piece : List UInt8}
    (mem : ⟨.payload, piece⟩ ∈ tbs) : tbLen gen2 piece.length = piece.length := by
  induction tbs with
  | nil => cases mem
  | cons tb tbs ih =>
    have rest := @payloadLen_map_storedTb_le gen2 tbs
    have stored : (storedTb gen2 tb).bytes.length = tbLen gen2 tb.bytes.length := by
      rw [storedTb, List.length_take, Nat.min_eq_left (tbLen_le gen2 _)]
    have shorter := tbLen_le gen2 tb.bytes.length
    rw [List.map_cons, payloadLen_cons, payloadLen_cons, stored,
      show (storedTb gen2 tb).source = tb.source from rfl] at same
    cases mem with
    | head =>
      rw [if_pos rfl, if_pos rfl] at same
      dsimp only at same shorter
      omega
    | tail _ mem =>
      refine ih ?_ mem
      split at same <;> omega

end Short

/-! ## The frames the conversion queues -/

section Queued

variable {skbGsoSegment : SkbGsoSegment} {mvm : TsoMvm} {sta : TsoSta} {ampdu : Bool}
  {skb mpdu : GsoSkb} {tb0 tb1 : List UInt8} {page : Nat → UInt8}

/-- A frame that was marked went through the checks in front of the sizing. -/
theorem buildsAmsdu_of_mem_txTso (segments : SegmentsPayload skbGsoSegment)
    (gso : 0 < skb.gsoSize)
    (mem : mpdu ∈ (txTso skbGsoSegment mvm sta ampdu skb).mpdus) (marked : mpdu.IsAmsdu) :
    BuildsAmsdu sta ampdu skb := by
  rcases @txTso_cases skbGsoSegment mvm sta ampdu skb with
    ⟨-, ⟨csum, one⟩ | ⟨-, refused⟩⟩ | ⟨builds, -⟩
  · rw [one] at mem
    have segmented := @txTsoSegment_segmented _ csum skb 1 segments gso Nat.one_pos
      (by rw [Nat.one_mul]; exact skb.gsoSize_lt)
    have amsdu := segmented.amsdu mpdu mem marked
    have long := amsdu.long
    have fits := amsdu.fits
    omega
  · rw [refused] at mem
    cases mem
  · exact builds

/-- Nothing is queued by a run that asks the stack for segments of zero bytes. -/
theorem numSubframes_pos_of_mem
    (needs : ∀ csum skb, skb.gsoSize = 0 → skbGsoSegment csum skb = none)
    (builds : BuildsAmsdu sta ampdu skb) (gso : 0 < skb.gsoSize)
    (long : skb.gsoSize < skb.payload.length)
    (mem : mpdu ∈ (txTso skbGsoSegment mvm sta ampdu skb).mpdus) :
    0 < numSubframes mvm sta ampdu skb := by
  by_contra zero
  rcases @txTso_cases skbGsoSegment mvm sta ampdu skb with ⟨notBuilds, -⟩ | ⟨-, run⟩
  · exact notBuilds builds
  · rw [run, Nat.eq_zero_of_not_pos zero, txTsoAmsdu] at mem
    rw [if_neg (by simp only [GsoSkb.tcpPayloadLen]; omega), if_neg (by omega),
      txTsoSegment] at mem
    rw [needs true _ (by simp [GsoSkb.setGsoSize])] at mem
    cases mem

/-- The headers of a packet that is turned into A-MSDUs have no extension headers. -/
theorem snapIpTcp_le_of_buildsAmsdu (builds : BuildsAmsdu sta ampdu skb) :
    skb.hdrs.snapIpTcp ≤ 128 := by
  have tcp := skb.hdrs.tcp_length.2
  have ip : skb.hdrs.ip.length ≤ 60 := by
    have fits := skb.hdrs.ip_length
    have extension := builds.2.1
    cases kind : skb.hdrs.protocol with
    | ip =>
      rw [kind] at fits
      exact fits.2
    | ipv6 =>
      rw [kind] at fits
      have noExtension : ipv6Nexthdr skb.hdrs.ip = ipprotoTcp := by
        by_contra other
        exact extension ⟨kind, other⟩
      rw [fits.2 noExtension]
      decide
  rw [TcpHdrs.snapIpTcp]
  omega

theorem readyAmsdu_of_mem_txTso (segments : SegmentsPayload skbGsoSegment)
    (needs : ∀ csum skb, skb.gsoSize = 0 → skbGsoSegment csum skb = none)
    (gso : 0 < skb.gsoSize) (long : skb.gsoSize < skb.payload.length)
    (mem : mpdu ∈ (txTso skbGsoSegment mvm sta ampdu skb).mpdus) (marked : mpdu.IsAmsdu) :
    ReadyAmsdu mvm.newTxApi (numSubframes mvm sta ampdu skb)
      (maxAmsduLen mvm sta ampdu skb.mac.tid) mpdu ∧ mpdu.SameFrame skb := by
  have builds := buildsAmsdu_of_mem_txTso segments gso mem marked
  have positive := numSubframes_pos_of_mem needs builds gso long mem
  obtain ⟨several, amsdu⟩ := amsduOf_of_mem_txTso segments gso long positive mem marked
  have buffers := (numSubframes_of_several several).2
  have frags := amsdu.frame.frags
  have tbs : 3 ≤ maxTbs mvm.newTxApi := by cases mvm.newTxApi <;> decide
  rw [TsoMvm.maxSkbFrags] at buffers
  refine ⟨?_, amsdu.frame⟩
  exact
    { gso := amsdu.gsoSize ▸ gso
      long := amsdu.gsoSize ▸ amsdu.long
      fits := amsdu.gsoSize ▸ amsdu.fits
      tbs := by omega
      limit := amsdu.amsduLen_le gso (numSubframes_fit several)
      headers := amsdu.frame.hdrs.snapIpTcp ▸ snapIpTcp_le_of_buildsAmsdu builds }

end Queued

/-! ## When the chain is complete -/

section Complete

variable {num limit fuel : Nat} {mpdu : GsoSkb} {tb0 tb1 : List UInt8} {page : Nat → UInt8}
  {build : AmsduBuild}

theorem AmsduChain.payloadLen (chain : AmsduChain mpdu limit build) (gso : 0 < mpdu.gsoSize) :
    payloadLen (build.tfd.tbs.drop 2) = mpdu.payload.length := by
  rw [chain.describes.payloadLen, GsoSkb.subframes, Lib.flatten_chunks gso]

/-- With the older descriptor, a complete chain has no piece that its length field cuts off. -/
theorem AmsduChain.shortPieces (ready : ReadyAmsdu false num limit mpdu)
    (layout : mpdu.iv.length = (tsoFrame mpdu).ivLen)
    (run : buildAmsdu false fuel mpdu tb0 tb1 page = some build)
    (chain : AmsduChain mpdu limit build) : ShortPieces mpdu := by
  obtain ⟨fuel', build', run', -, tbs, -, -⟩ :=
    @buildAmsdu_eq false num limit mpdu tb0 tb1 page ready layout
  have same : build = build' := Option.some.inj
    ((putSubframes_mono (Nat.le_max_left fuel fuel') run).symm.trans
      (putSubframes_mono (Nat.le_max_right fuel fuel') run'))
  have offered := (describes_amsduTbs ready.gso mpdu.payload mpdu.iv 0 (initialIpId mpdu)
    (initialTcpSeq mpdu) mpdu.regions (regions_spec mpdu).1).payloadLen
  have stored := chain.payloadLen ready.gso
  rw [same, tbs] at stored
  rw [Lib.flatten_chunks ready.gso] at offered
  intro pieces listed piece mem
  have len := tbLen_eq_of_payloadLen (stored.trans offered.symm)
    (mem_amsduTbs_of_piece listed mem)
  rw [← len]
  exact Nat.mod_lt _ (by decide)

/-- A protected frame without room for an IV loses eight bytes of its payload. -/
theorem not_amsduChain_of_missing_iv (gso : 0 < mpdu.gsoSize) (isProtected : mpdu.isProtected)
    (noIv : mpdu.iv = []) (run : buildAmsdu true fuel mpdu tb0 tb1 page = some build) :
    ¬ AmsduChain mpdu limit build := by
  intro chain
  obtain ⟨added, tbs, -, payload⟩ := putSubframes_adds run
  have start := startTfd_eq true tb0 tb1
  change build.tfd.tbs = (startTfd true tb0 tb1).tbs ++ added at tbs
  change (build.tfd.refused = (startTfd true tb0 tb1).refused → _) at payload
  rw [start] at tbs payload
  have total := payload chain.refused
  have described := chain.payloadLen gso
  rw [tbs] at described
  have len : mpdu.len = mpdu.hdrLen + 0 + mpdu.hdrs.snapIpTcp + mpdu.payload.length := by
    rw [GsoSkb.len, noIv]
    rfl
  have short := mpdu.len_lt
  rw [show (mpdu.linear ++ mpdu.frags.flatten).length = mpdu.payload.length from rfl] at short
  have ivLen : (tsoFrame mpdu).ivLen = 8 := if_pos isProtected
  have computed : (tsoFrame mpdu).totalLen = (mpdu.len + 2 ^ 32 - mpdu.hdrs.snapIpTcp -
      mpdu.hdrLen - (tsoFrame mpdu).ivLen) % 2 ^ 32 := rfl
  rw [ivLen, ← total] at computed
  change payloadLen added = mpdu.payload.length at described
  omega

end Complete

/-- Every frame the conversion marks gets a complete chain exactly where the transport looks for
an IV only if there is one, and the length field of a buffer can hold the pieces: no frame is
protected on a device with the new Tx API, and without it no piece is longer than 4095 bytes. -/
theorem amsduChain_iff {skbGsoSegment : SkbGsoSegment} (segments : SegmentsPayload skbGsoSegment)
    (needs : ∀ csum skb, skb.gsoSize = 0 → skbGsoSegment csum skb = none)
    (mvm : TsoMvm) (sta : TsoSta) (ampdu : Bool) (skb : GsoSkb) (gso : 0 < skb.gsoSize)
    (long : skb.gsoSize < skb.payload.length)
    (layout : skb.iv.length = ivSpace mvm.newTxApi skb.isProtected)
    (mpdu : GsoSkb) (mem : mpdu ∈ (txTso skbGsoSegment mvm sta ampdu skb).mpdus)
    (marked : mpdu.IsAmsdu) (tb0 tb1 : List UInt8) (page : Nat → UInt8) :
    (∃ fuel build,
      (if mvm.newTxApi then gen2BuildAmsdu else fillDataTbsAmsdu) fuel mpdu tb0 tb1 page =
        some build ∧ AmsduChain mpdu (maxAmsduLen mvm sta ampdu skb.mac.tid) build) ↔
      ¬ (mvm.newTxApi ∧ mpdu.isProtected) ∧ (mvm.newTxApi ∨ ShortPieces mpdu) := by
  obtain ⟨ready, frame⟩ := readyAmsdu_of_mem_txTso segments needs gso long mem marked
  have isProtected : mpdu.isProtected = skb.isProtected := by
    rw [GsoSkb.isProtected, frame.frameControl, GsoSkb.isProtected]
  rw [← frame.iv, ← isProtected] at layout
  have ivLen : (tsoFrame mpdu).ivLen = if mpdu.isProtected then ccmpHdrLen else 0 := rfl
  cases api : mvm.newTxApi with
  | false =>
    rw [api] at ready layout
    have place : mpdu.iv.length = (tsoFrame mpdu).ivLen := by
      rw [layout, ivLen]
      simp [ivSpace]
    constructor
    · rintro ⟨fuel, build, run, chain⟩
      exact ⟨by simp, Or.inr (AmsduChain.shortPieces ready place run chain)⟩
    · rintro ⟨-, newer | short⟩
      · exact absurd newer Bool.false_ne_true
      · exact buildAmsdu_complete ready place (Or.inr short)
  | true =>
    rw [api] at ready layout
    constructor
    · rintro ⟨fuel, build, run, chain⟩
      refine ⟨fun both => ?_, Or.inl rfl⟩
      have noIv : mpdu.iv = [] := List.length_eq_zero_iff.mp (by simp [layout, ivSpace])
      exact not_amsduChain_of_missing_iv ready.gso both.2 noIv run chain
    · rintro ⟨notBoth, -⟩
      have open' : mpdu.isProtected = false := by
        rw [← Bool.not_eq_true]
        exact fun closed => notBoth ⟨rfl, closed⟩
      have place : mpdu.iv.length = (tsoFrame mpdu).ivLen := by
        rw [layout, ivLen, open']
        rfl
      exact buildAmsdu_complete ready place (Or.inl rfl)

/-- The first A-MSDU of the sample packet. -/
def sampleMpdu : GsoSkb :=
  (txTso copySegment sampleMvm (sampleSta 3839) false sampleSkb).mpdus.get
    ⟨0, by decide +kernel⟩

theorem sampleMpdu_mem :
    sampleMpdu ∈ (txTso copySegment sampleMvm (sampleSta 3839) false sampleSkb).mpdus :=
  List.get_mem _ _

theorem amsduChain_sample :
    ∃ fuel build, (if sampleMvm.newTxApi then gen2BuildAmsdu else fillDataTbsAmsdu) fuel
        sampleMpdu [] [] (fun _ => 0) = some build ∧
      AmsduChain sampleMpdu (maxAmsduLen sampleMvm (sampleSta 3839) false sampleSkb.mac.tid)
        build :=
  (amsduChain_iff segmentsPayload_copySegment copySegment_zero sampleMvm (sampleSta 3839) false
    sampleSkb (by decide) (by decide +kernel) (by decide) sampleMpdu sampleMpdu_mem
    ⟨by decide +kernel, by decide +kernel⟩ [] [] fun _ => 0).mpr
    ⟨by decide, Or.inr (by unfold ShortPieces; decide +kernel)⟩

/-- The sample packet on a device with the new Tx API, protected by a CCMP key: there is no room
for an IV in it. -/
def protectedSkb : GsoSkb :=
  { sampleSkb with
    mac := { sampleSkb.mac with frameControl := 0x4188 }
    len_lt := by
      simp only [sampleSkb, List.flatten_nil, List.append_nil, List.length_replicate]
      decide }

def protectedMpdu : GsoSkb :=
  (txTso copySegment { sampleMvm with newTxApi := true } (sampleSta 3839) false
    protectedSkb).mpdus.get ⟨0, by decide +kernel⟩

/-- It is marked, and however long the transport runs, the chain is not complete. -/
theorem not_amsduChain_protected :
    protectedSkb.iv.length = ivSpace true protectedSkb.isProtected ∧
    protectedMpdu ∈ (txTso copySegment { sampleMvm with newTxApi := true } (sampleSta 3839) false
      protectedSkb).mpdus ∧ protectedMpdu.IsAmsdu ∧
    ∀ fuel tb0 tb1 page build, gen2BuildAmsdu fuel protectedMpdu tb0 tb1 page = some build →
      ¬ AmsduChain protectedMpdu 3839 build :=
  ⟨by decide, List.get_mem _ _, ⟨by decide +kernel, by decide +kernel⟩,
    fun _ _ _ _ _ run => not_amsduChain_of_missing_iv (by decide +kernel) (by decide +kernel)
      (List.length_eq_zero_iff.mp (by decide +kernel)) run⟩

end Iwlwifi
