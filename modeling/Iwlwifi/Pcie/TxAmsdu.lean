import Iwlwifi.Lib.Scatter
import Iwlwifi.Mvm.TxTso

/-!
# Transfer buffers of a TSO A-MSDU

The transport turns a marked buffer into a chain of transfer buffers: for each sub-frame one
for its headers, which are written into a page of their own, and one for each stretch of the
payload.  `iwl_fill_data_tbs_amsdu` and `iwl_pcie_gen2_build_amsdu` do the same over two formats
of the descriptor, so both are `buildAmsdu`, which is told the format.

The TSO helper of the network stack is embedded from the copy in `compat/`.  Page allocation
and DMA mapping succeed here; where they fail the frame is dropped.  The software checksums of
test setups, which overwrite checksum fields once the chain is built, are left out.
-/

namespace Iwlwifi

/-! ## The descriptor -/

/-- Where a transfer buffer points: into the Tx command, into the header page, or into the
payload. -/
inductive TbSource
  | command
  | headerPage
  | payload
  deriving DecidableEq

/-- A transfer buffer, as the bytes it describes. -/
structure TxTb where
  source : TbSource
  bytes : List UInt8

/-- The descriptor under construction; `refused` counts the buffers that found it full. -/
structure Tfd where
  tbs : List TxTb
  refused : Nat

/-- What the length field keeps: 16 bits in `struct iwl_tfh_tb`, 12 in `struct iwl_tfd_tb`. -/
def tbLen (gen2 : Bool) (len : Nat) : Nat := if gen2 then len % 2 ^ 16 else len % 2 ^ 12

def storedTb (gen2 : Bool) (tb : TxTb) : TxTb :=
  { tb with bytes := tb.bytes.take (tbLen gen2 tb.bytes.length) }

/-- `iwl_pcie_txq_build_tfd` and `iwl_pcie_gen2_set_tb`; the caller ignores the error. -/
def buildTfd (gen2 : Bool) (tfd : Tfd) (tb : TxTb) : Tfd :=
  if maxTbs gen2 ≤ tfd.tbs.length then { tfd with refused := tfd.refused + 1 }
  else { tfd with tbs := tfd.tbs ++ [storedTb gen2 tb] }

/-! ## The TSO helper -/

/-- `struct tso_t`: the rest of the current region, the fragments after it, and the fields that
change from one sub-frame to the next. -/
structure Tso where
  data : List UInt8
  nextFrags : List (List UInt8)
  ipId : Nat
  tcpSeq : Nat

/-- An exhausted region is left for the next fragment, if there is one. -/
def Tso.moveToNext (tso : Tso) : Tso :=
  match tso.data, tso.nextFrags with
  | [], frag :: frags => { tso with data := frag, nextFrags := frags }
  | _, _ => tso

/-- `tso_start`. -/
def tsoStart (skb : GsoSkb) : Tso :=
  Tso.moveToNext
    { data := skb.linear
      nextFrags := skb.frags
      ipId := getBe16 skb.hdrs.ip 4
      tcpSeq := getBe16 skb.hdrs.tcp 4 * 65536 + getBe16 skb.hdrs.tcp 6 }

/-- `tso_build_data`. -/
def tsoBuildData (tso : Tso) (size : Nat) : Tso :=
  Tso.moveToNext { tso with data := tso.data.drop size, tcpSeq := (tso.tcpSeq + size) % 2 ^ 32 }

/-- `psh`, `fin` and `rst` of a TCP header at `offset` cleared. -/
def clearTcpFlags (hdr : List UInt8) (offset : Nat) : List UInt8 :=
  hdr.set (offset + 13) (hdr.getD (offset + 13) 0 &&& 0xf2)

/-- `tso_build_hdr` on a buffer whose data starts with `data` and whose network and transport
headers are at the given offsets, with the `ip_id` and `tcp_seq` of the TSO state. -/
def tsoBuildHdr (hdrs : TcpHdrs) (data : List UInt8) (network transport : Nat)
    (ipId tcpSeq size : Nat) (isLast : Bool) : List UInt8 :=
  let hdrLen := transport + hdrs.tcp.length
  let hdr := data.take hdrLen
  let hdr := match hdrs.protocol with
    | .ip => putBe16 (putBe16 hdr (network + 4) ipId) (network + 2) (size + hdrLen - network)
    | .ipv6 => putBe16 hdr (network + 4) (size + hdrs.tcp.length)
  let hdr := putBe32 hdr (transport + 4) tcpSeq
  if isLast then hdr else clearTcpFlags hdr transport

/-- `tso->ip_id++`, for IPv4. -/
def nextIpId (protocol : EthProtocol) (ipId : Nat) : Nat :=
  match protocol with
  | .ip => (ipId + 1) % 65536
  | .ipv6 => ipId

/-! ## Building the chain -/

/-- What the loops change: the descriptor, the TSO state, `tx_cmd->len`, the header bytes
written since the last header buffer, all header bytes written, and `amsdu_pad`. -/
structure AmsduBuild where
  tfd : Tfd
  tso : Tso
  txCmdLen : Nat
  startHdr : List UInt8
  written : Nat
  pad : Nat

/-- The lengths and offsets both functions compute first. -/
structure TsoFrame where
  skb : GsoSkb
  ivLen : Nat
  data : List UInt8
  network : Nat
  totalLen : Nat
  hdrRoom : Nat

def ccmpHdrLen : Nat := 8

/-- The buffer, its IV as the transport sees it, and what is behind it once the 802.11 header
and the IV are pulled. -/
def tsoFrame (skb : GsoSkb) : TsoFrame :=
  let ivLen := if skb.isProtected then ccmpHdrLen else 0
  let totalLen := (skb.len + 2 ^ 32 - skb.hdrs.snapIpTcp - skb.hdrLen - ivLen) % 2 ^ 32
  { skb := skb
    ivLen := ivLen
    data := (skb.iv ++ skb.hdrs.bytes ++ skb.linear).drop ivLen
    network := skb.iv.length + 8 - ivLen
    totalLen := totalLen
    hdrRoom := ((totalLen + skb.gsoSize - 1) % 2 ^ 32 / skb.gsoSize *
      (3 + skb.hdrs.snapIpTcp + ethHdrLen) + ivLen) % 2 ^ 32 }

/-- Padding, sub-frame header and the copied headers of one sub-frame.  A header shorter than
the room left for it leaves the old contents of the page behind it. -/
def subframeHdrs (frame : TsoFrame) (page : Nat → UInt8) (build : AmsduBuild) (size : Nat)
    (isLast : Bool) : List UInt8 :=
  let skb := frame.skb
  let ether := List.replicate build.pad 0 ++ skb.mac.da ++ skb.mac.sa ++
    putBe16 [0, 0] 0 (skb.hdrs.snapIpTcp + size)
  let copied := tsoBuildHdr skb.hdrs frame.data frame.network
    (frame.network + skb.hdrs.ip.length) build.tso.ipId build.tso.tcpSeq size isLast
  ether ++ (List.range skb.hdrs.snapIpTcp).map fun i =>
    copied.getD i (page (build.written + ether.length + i))

/-- The header buffer of one sub-frame. -/
def putHdrs (gen2 : Bool) (frame : TsoFrame) (page : Nat → UInt8) (build : AmsduBuild)
    (size : Nat) (isLast : Bool) : AmsduBuild :=
  let hdrs := subframeHdrs frame page build size isLast
  { tfd := buildTfd gen2 build.tfd ⟨.headerPage, build.startHdr ++ hdrs⟩
    tso := { build.tso with ipId := nextIpId frame.skb.hdrs.protocol build.tso.ipId }
    txCmdLen := (build.txCmdLen + hdrs.length) % 2 ^ 16
    startHdr := []
    written := build.written + hdrs.length
    pad := amsduPad (ethHdrLen + frame.skb.hdrs.snapIpTcp + size) }

/-- The loop over the payload of one sub-frame. -/
def putPayload (gen2 : Bool) : Nat → Tfd → Tso → Nat → Option (Tfd × Tso)
  | _, tfd, tso, 0 => some (tfd, tso)
  | 0, _, _, _ + 1 => none
  | fuel + 1, tfd, tso, dataLeft + 1 =>
      let size := min tso.data.length (dataLeft + 1)
      putPayload gen2 fuel (buildTfd gen2 tfd ⟨.payload, tso.data.take size⟩)
        (tsoBuildData tso size) (dataLeft + 1 - size)

/-- The loop over the sub-frames, while payload is left. -/
def putSubframes (gen2 : Bool) (frame : TsoFrame) (page : Nat → UInt8) :
    Nat → AmsduBuild → Nat → Option AmsduBuild
  | _, build, 0 => some build
  | 0, _, _ + 1 => none
  | fuel + 1, build, totalLen + 1 => do
      let size := min frame.skb.gsoSize (totalLen + 1)
      let left := totalLen + 1 - size
      let build := putHdrs gen2 frame page build size (left == 0)
      let (tfd, tso) ← putPayload gen2 fuel build.tfd build.tso size
      putSubframes gen2 frame page fuel { build with tfd := tfd, tso := tso } left

/-- The descriptor with the first buffer and the rest of the Tx command, which holds the 802.11
header, in place. -/
def startTfd (gen2 : Bool) (tb0 tb1 : List UInt8) : Tfd :=
  buildTfd gen2 (buildTfd gen2 ⟨[], 0⟩ ⟨.command, tb0⟩) ⟨.command, tb1⟩

def startBuild (skb : GsoSkb) (tfd : Tfd) : AmsduBuild where
  tfd := tfd
  tso := tsoStart skb
  txCmdLen := (skb.len % 2 ^ 16 + 2 ^ 16 - skb.hdrs.snapIpTcp) % 2 ^ 16
  startHdr := (skb.iv ++ skb.hdrs.bytes ++ skb.linear).take (tsoFrame skb).ivLen
  written := (tsoFrame skb).ivLen
  pad := 0

def buildAmsdu (gen2 : Bool) (fuel : Nat) (skb : GsoSkb) (tb0 tb1 : List UInt8)
    (page : Nat → UInt8) : Option AmsduBuild :=
  putSubframes gen2 (tsoFrame skb) page fuel (startBuild skb (startTfd gen2 tb0 tb1))
    (tsoFrame skb).totalLen

/-- `iwl_fill_data_tbs_amsdu`, after the buffers of the Tx command. -/
def fillDataTbsAmsdu := buildAmsdu false

/-- `iwl_pcie_gen2_build_amsdu`, after the buffers of the Tx command. -/
def gen2BuildAmsdu := buildAmsdu true

end Iwlwifi
