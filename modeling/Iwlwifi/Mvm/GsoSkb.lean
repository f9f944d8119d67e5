import Mathlib.Algebra.Ring.Nat
import Iwlwifi.Ieee80211
import Iwlwifi.Lib.Chunks

/-!
# TCP segmentation offload buffers

A large TCP packet as mac80211 hands it to the driver: the 802.11 header, the room for the IV
of the cipher, one SNAP, IP and TCP header, and the TCP payload, part of it in the linear area
of the buffer and the rest in page fragments.  `gsoSize` is the `gso_size` of the source, the
payload of one TCP segment.

The segmentation function of the network stack is not part of the driver.  It is an argument
here, and `SegmentsPayload` says what the driver relies on.
-/

namespace Iwlwifi

/-! ## Bytes -/

/-- A big-endian 16-bit field written over the bytes at `offset`. -/
def putBe16 (bytes : List UInt8) (offset value : Nat) : List UInt8 :=
  (bytes.set offset (UInt8.ofNat (value / 256))).set (offset + 1) (UInt8.ofNat value)

def putBe32 (bytes : List UInt8) (offset value : Nat) : List UInt8 :=
  putBe16 (putBe16 bytes offset (value / 65536)) (offset + 2) value

def getBe16 (bytes : List UInt8) (offset : Nat) : Nat :=
  (bytes.getD offset 0).toNat * 256 + (bytes.getD (offset + 1) 0).toNat

@[simp] theorem length_putBe16 (bytes : List UInt8) (offset value : Nat) :
    (putBe16 bytes offset value).length = bytes.length := by
  simp [putBe16]

@[simp] theorem length_putBe32 (bytes : List UInt8) (offset value : Nat) :
    (putBe32 bytes offset value).length = bytes.length := by
  simp [putBe32]

/-! ## Headers -/

/-- What the driver reads and writes of the 802.11 header; the QoS control field is its TID
and its A-MSDU bit. -/
structure MacHdr where
  frameControl : Nat
  addr1 : List UInt8
  addr2 : List UInt8
  addr3 : List UInt8
  addr4 : List UInt8
  tid : Fin 16
  amsduPresent : Bool
  addr_length : addr1.length = 6 ∧ addr2.length = 6 ∧ addr3.length = 6 ∧ addr4.length = 6

namespace MacHdr

/-- `ieee80211_get_DA`. -/
def da (hdr : MacHdr) : List UInt8 :=
  if ieee80211HasTods hdr.frameControl then hdr.addr3 else hdr.addr1

/-- `ieee80211_get_SA`. -/
def sa (hdr : MacHdr) : List UInt8 :=
  if ieee80211HasA4 hdr.frameControl then hdr.addr4
  else if ieee80211HasFromds hdr.frameControl then hdr.addr3
  else hdr.addr2

theorem da_length (hdr : MacHdr) : hdr.da.length = 6 := by
  obtain ⟨one, -, three, -⟩ := hdr.addr_length
  unfold da
  split
  · exact three
  · exact one

theorem sa_length (hdr : MacHdr) : hdr.sa.length = 6 := by
  obtain ⟨-, two, three, four⟩ := hdr.addr_length
  unfold sa
  split
  · exact four
  split
  · exact three
  · exact two

end MacHdr

/-- `skb->protocol` of a TCP packet. -/
inductive EthProtocol
  | ip
  | ipv6
  deriving DecidableEq

def ipprotoTcp : Nat := 6

/-- The next header field of an IPv6 header. -/
def ipv6Nexthdr (ip : List UInt8) : Nat := (ip.getD 6 0).toNat

/-- The lengths an IP header can have: with options up to 60 bytes, and for IPv6 the fixed
header followed by the extension headers, if there are any. -/
def IpLengthOk : EthProtocol → List UInt8 → Prop
  | .ip, ip => 20 ≤ ip.length ∧ ip.length ≤ 60
  | .ipv6, ip => 40 ≤ ip.length ∧ (ipv6Nexthdr ip = ipprotoTcp → ip.length = 40)

/-- The SNAP, IP and TCP headers in front of the payload.  The offsets of an `sk_buff` are 16
bits wide, so the headers are shorter than 65536 bytes. -/
structure TcpHdrs where
  protocol : EthProtocol
  snap : List UInt8
  ip : List UInt8
  tcp : List UInt8
  snap_length : snap.length = 8
  ip_length : IpLengthOk protocol ip
  tcp_length : 20 ≤ tcp.length ∧ tcp.length ≤ 60
  short : 8 + ip.length + tcp.length < 2 ^ 16

namespace TcpHdrs

/-- `8 + skb_transport_header(skb) - skb_network_header(skb) + tcp_hdrlen(skb)`. -/
def snapIpTcp (hdrs : TcpHdrs) : Nat := 8 + hdrs.ip.length + hdrs.tcp.length

def bytes (hdrs : TcpHdrs) : List UInt8 := hdrs.snap ++ hdrs.ip ++ hdrs.tcp

theorem bytes_length (hdrs : TcpHdrs) : hdrs.bytes.length = hdrs.snapIpTcp := by
  simp only [bytes, snapIpTcp, List.length_append, hdrs.snap_length]

/-- A change of some fields of an IPv4 header; an IPv6 header is left alone. -/
def modifyIpv4 (hdrs : TcpHdrs) (change : List UInt8 → List UInt8)
    (keeps : ∀ ip, (change ip).length = ip.length) : TcpHdrs :=
  match kind : hdrs.protocol with
  | .ip =>
      { hdrs with
        ip := change hdrs.ip
        ip_length := by
          have fits := hdrs.ip_length
          rw [kind] at fits ⊢
          simpa [IpLengthOk, keeps] using fits
        short := by simpa [keeps] using hdrs.short }
  | .ipv6 => hdrs

theorem modifyIpv4_ip_length (hdrs : TcpHdrs) (change : List UInt8 → List UInt8)
    (keeps : ∀ ip, (change ip).length = ip.length) :
    (hdrs.modifyIpv4 change keeps).ip.length = hdrs.ip.length := by
  unfold modifyIpv4
  split
  · exact keeps _
  · rfl

def putSeq (hdrs : TcpHdrs) (seq : Nat) : TcpHdrs :=
  { hdrs with
    tcp := putBe32 hdrs.tcp 4 seq
    tcp_length := by simpa using hdrs.tcp_length
    short := by simpa using hdrs.short }

/-- The same protocol and the same lengths: what a segment keeps of the headers it is given a
copy of, while the stack rewrites its identification, length and sequence number. -/
structure SameShape (seg hdrs : TcpHdrs) : Prop where
  protocol : seg.protocol = hdrs.protocol
  ip : seg.ip.length = hdrs.ip.length
  tcp : seg.tcp.length = hdrs.tcp.length

theorem SameShape.refl (hdrs : TcpHdrs) : SameShape hdrs hdrs := ⟨rfl, rfl, rfl⟩

theorem SameShape.snapIpTcp {seg hdrs : TcpHdrs} (same : SameShape seg hdrs) :
    seg.snapIpTcp = hdrs.snapIpTcp := by
  rw [TcpHdrs.snapIpTcp, same.ip, same.tcp, TcpHdrs.snapIpTcp]

theorem SameShape.modifyIpv4 {seg hdrs : TcpHdrs} (same : SameShape seg hdrs)
    (change : List UInt8 → List UInt8) (keeps : ∀ ip, (change ip).length = ip.length) :
    SameShape (seg.modifyIpv4 change keeps) hdrs where
  protocol := by
    rw [← same.protocol]
    unfold TcpHdrs.modifyIpv4
    split <;> rfl
  ip := (modifyIpv4_ip_length seg change keeps).trans same.ip
  tcp := by
    rw [← same.tcp]
    unfold TcpHdrs.modifyIpv4
    split <;> rfl

theorem SameShape.putSeq {seg hdrs : TcpHdrs} (same : SameShape seg hdrs) (seq : Nat) :
    SameShape (seg.putSeq seq) hdrs :=
  ⟨same.protocol, same.ip, (length_putBe32 ..).trans same.tcp⟩

end TcpHdrs

/-! ## The buffer -/

/-- A TCP buffer on its way through the driver. -/
structure GsoSkb where
  mac : MacHdr
  iv : List UInt8
  hdrs : TcpHdrs
  linear : List UInt8
  frags : List (List UInt8)
  gsoSize : Nat
  gsoSize_lt : gsoSize < 2 ^ 16
  len_lt : ieee80211Hdrlen mac.frameControl + iv.length + hdrs.snapIpTcp +
    (linear ++ frags.flatten).length < 2 ^ 32

namespace GsoSkb

/-- The TCP payload: the rest of the linear area, then the page fragments. -/
def payload (skb : GsoSkb) : List UInt8 := skb.linear ++ skb.frags.flatten

def hdrLen (skb : GsoSkb) : Nat := ieee80211Hdrlen skb.mac.frameControl

/-- `skb->len`. -/
def len (skb : GsoSkb) : Nat :=
  skb.hdrLen + skb.iv.length + skb.hdrs.snapIpTcp + skb.payload.length

def isDataQos (skb : GsoSkb) : Bool := ieee80211IsDataQos skb.mac.frameControl

def isProtected (skb : GsoSkb) : Bool := ieee80211HasProtected skb.mac.frameControl

/-- `skb_tail_pointer(skb) - skb_transport_header(skb) - tcp_hdrlen(skb) + skb->data_len`. -/
def tcpPayloadLen (skb : GsoSkb) : Nat := skb.payload.length

/-- The field is 16 bits wide. -/
def setGsoSize (skb : GsoSkb) (size : Nat) : GsoSkb :=
  { skb with gsoSize := size % 2 ^ 16, gsoSize_lt := Nat.mod_lt _ (by decide) }

/-- `IEEE80211_QOS_CTL_A_MSDU_PRESENT` set or cleared. -/
def setAmsduPresent (skb : GsoSkb) (present : Bool) : GsoSkb :=
  { skb with mac := { skb.mac with amsduPresent := present } }

def modifyIpv4 (skb : GsoSkb) (change : List UInt8 → List UInt8)
    (keeps : ∀ ip, (change ip).length = ip.length) : GsoSkb :=
  { skb with
    hdrs := skb.hdrs.modifyIpv4 change keeps
    len_lt := by
      have same := ((TcpHdrs.SameShape.refl skb.hdrs).modifyIpv4 change keeps).snapIpTcp
      rw [same]
      exact skb.len_lt }

/-- The frame a segmentation makes of a part of the payload shares these with the whole. -/
structure SameFrame (seg skb : GsoSkb) : Prop where
  frameControl : seg.mac.frameControl = skb.mac.frameControl
  da : seg.mac.da = skb.mac.da
  sa : seg.mac.sa = skb.mac.sa
  iv : seg.iv = skb.iv
  hdrs : seg.hdrs.SameShape skb.hdrs
  frags : seg.frags.length ≤ skb.frags.length

namespace SameFrame

variable {seg skb : GsoSkb}

theorem refl (skb : GsoSkb) : SameFrame skb skb := ⟨rfl, rfl, rfl, rfl, .refl _, le_rfl⟩

theorem setGsoSize (same : SameFrame seg skb) (size : Nat) :
    SameFrame (seg.setGsoSize size) skb :=
  ⟨same.frameControl, same.da, same.sa, same.iv, same.hdrs, same.frags⟩

theorem setAmsduPresent (same : SameFrame seg skb) (present : Bool) :
    SameFrame (seg.setAmsduPresent present) skb :=
  ⟨same.frameControl, same.da, same.sa, same.iv, same.hdrs, same.frags⟩

theorem modifyIpv4 (same : SameFrame seg skb) (change : List UInt8 → List UInt8)
    (keeps : ∀ ip, (change ip).length = ip.length) :
    SameFrame (seg.modifyIpv4 change keeps) skb :=
  ⟨same.frameControl, same.da, same.sa, same.iv, same.hdrs.modifyIpv4 change keeps, same.frags⟩

/-- What is set on the whole before it is cut does not show in the comparison. -/
theorem of_setGsoSize {size : Nat} (same : SameFrame seg (skb.setGsoSize size)) :
    SameFrame seg skb :=
  ⟨same.frameControl, same.da, same.sa, same.iv, same.hdrs, same.frags⟩

theorem of_setAmsduPresent {present : Bool}
    (same : SameFrame seg (skb.setAmsduPresent present)) : SameFrame seg skb :=
  ⟨same.frameControl, same.da, same.sa, same.iv, same.hdrs, same.frags⟩

end SameFrame

end GsoSkb

/-! ## Segmentation -/

/-- `skb_gso_segment`: from a flag that asks for partial checksums and a buffer to a list of
buffers, or an error. -/
abbrev SkbGsoSegment := Bool → GsoSkb → Option (List GsoSkb)

/-- Given a size, the stack cuts the payload into consecutive runs of that size.  Each segment
has a copy of the headers and refers to no more page fragments than the whole does. -/
structure SegmentsPayload (skbGsoSegment : SkbGsoSegment) : Prop where
  splits : ∀ csum skb, 0 < skb.gsoSize → ∃ segs, skbGsoSegment csum skb = some segs ∧
    segs.map GsoSkb.payload = Lib.chunks skb.gsoSize skb.payload
  copies : ∀ csum skb segs, skbGsoSegment csum skb = some segs →
    ∀ seg ∈ segs, seg.SameFrame skb

/-- The headers of the `i`-th segment, which carries `part` from `offset` on. -/
def segmentHdrs (hdrs : TcpHdrs) (i offset : Nat) (part : List UInt8) : TcpHdrs :=
  (hdrs.modifyIpv4
    (fun ip => putBe16 (putBe16 ip 2 (ip.length + hdrs.tcp.length + part.length)) 4
      (getBe16 ip 4 + i))
    fun _ => by simp).putSeq (getBe16 hdrs.tcp 4 * 65536 + getBe16 hdrs.tcp 6 + offset)

theorem sameShape_segmentHdrs (hdrs : TcpHdrs) (i offset : Nat) (part : List UInt8) :
    (segmentHdrs hdrs i offset part).SameShape hdrs :=
  ((TcpHdrs.SameShape.refl hdrs).modifyIpv4 _ _).putSeq _

/-- A segmentation that copies every run into a linear buffer of its own, as the stack does
for a payload that is linear. -/
def copySegment : SkbGsoSegment := fun _ skb =>
  if skb.gsoSize = 0 then none else
  some ((Lib.chunks skb.gsoSize skb.payload).mapIdx fun i part =>
    { skb with
      hdrs := segmentHdrs skb.hdrs i (i * skb.gsoSize) part
      linear := part.take skb.payload.length
      frags := []
      len_lt := by
        rw [(sameShape_segmentHdrs skb.hdrs i (i * skb.gsoSize) part).snapIpTcp]
        have short := List.length_take_le skb.payload.length part
        have whole := skb.len_lt
        rw [show (skb.linear ++ skb.frags.flatten).length = skb.payload.length from rfl] at whole
        rw [List.flatten_nil, List.append_nil]
        omega })

theorem segmentsPayload_copySegment : SegmentsPayload copySegment where
  splits := by
    refine fun csum skb positive => ⟨_, if_neg (Nat.pos_iff_ne_zero.mp positive), ?_⟩
    refine List.ext_getElem (by simp) fun i _ inside => ?_
    have part : (Lib.chunks skb.gsoSize skb.payload)[i].length ≤ skb.payload.length := by
      have sub := List.sublist_flatten_of_mem (List.getElem_mem inside)
      rw [Lib.flatten_chunks positive] at sub
      exact sub.length_le
    simp only [List.getElem_map, List.getElem_mapIdx]
    exact (List.append_nil _).trans (List.take_of_length_le part)
  copies := by
    intro csum skb segs result seg mem
    unfold copySegment at result
    split at result
    · cases result
    cases result
    obtain ⟨i, inside, rfl⟩ := List.mem_mapIdx.mp mem
    exact ⟨rfl, rfl, rfl, rfl, sameShape_segmentHdrs .., Nat.zero_le _⟩

theorem copySegment_zero (csum : Bool) (skb : GsoSkb) (zero : skb.gsoSize = 0) :
    copySegment csum skb = none := if_pos zero

end Iwlwifi
