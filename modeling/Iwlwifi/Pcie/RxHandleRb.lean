import Iwlwifi.Lib.BoundedRead

/-!
# Walking a receive buffer

`iwl_pcie_rx_handle_rb` takes the packets out of a receive buffer one after the other: each
starts with a word that holds its length in the low 14 bits, and the next one starts at its end
rounded up to `FH_RSCSR_FRAME_ALIGN`.  The device writes an end marker after the last packet if
there is room for one.  The loop looks only at where the next header would be, so the length of
every packet but the last is checked by the walk going on, and that of the last is not checked.
-/

namespace Iwlwifi.RxHandleRb

open Lib

/-- A receive buffer of `rx_buf_bytes` bytes, which is a positive `int`. -/
structure RxBuf where
  content : List UInt8
  size_lt : content.length < 2 ^ 31

/-- `trans_pcie->rx_buf_bytes` -/
def RxBuf.bytes (rb : RxBuf) : Nat := rb.content.length

/-- What the walk reads of the transport. -/
structure RxTrans where
  /-- `device_family >= IWL_DEVICE_FAMILY_AX210` -/
  ax210 : Bool
  noReclaimCmds : List Nat
  /-- `n_window` of the command queue -/
  nWindow : Nat

/-- `FH_RSCSR_FRAME_INVALID` -/
def frameInvalid : Nat := 0x55550000

/-- `ALIGN(len, FH_RSCSR_FRAME_ALIGN)` -/
def alignFrame (len : Nat) : Nat := (len + 63) / 64 * 64

/-- A packet as the op-mode gets it; `len` is the length it claims, with the status word. -/
structure RxPacket where
  offset : Nat
  len : Nat
  cmd : Nat
  groupId : Nat
  sequence : Nat
  /-- It answers a command of the driver. -/
  reclaim : Bool
  cmdIndex : Nat
  deriving DecidableEq

/-- `iwl_rx_packet_len`, and the status word. -/
def packetLen (rb : RxBuf) (offset : Nat) : Nat := (le32At rb.content offset &&& 0x3fff) + 4

/-- The little-endian half word at `ofs`. -/
def le16At (bytes : List UInt8) (ofs : Nat) : Nat := u8At bytes ofs + 2 ^ 8 * u8At bytes (ofs + 1)

/-- The body of the loop up to where the packet is passed on. -/
def packetAt (trans : RxTrans) (rb : RxBuf) (offset : Nat) : RxPacket :=
  let cmd := u8At rb.content (offset + 4)
  let groupId := u8At rb.content (offset + 5)
  let sequence := le16At rb.content (offset + 6)
  let fromUcode := sequence &&& 0x8000 ≠ 0
  { offset := offset
    len := packetLen rb offset
    cmd := cmd
    groupId := groupId
    sequence := sequence
    reclaim := !fromUcode && !(groupId == 0 && trans.noReclaimCmds.contains cmd)
    cmdIndex := sequence &&& 0xff &&& (trans.nWindow - 1) }

theorem packetLen_le (rb : RxBuf) (offset : Nat) : packetLen rb offset ≤ 2 ^ 14 + 3 := by
  have masked : le32At rb.content offset &&& 0x3fff ≤ 0x3fff := Nat.and_le_right
  rw [packetLen]
  omega

theorem packetLen_pos (rb : RxBuf) (offset : Nat) : 4 ≤ packetLen rb offset := Nat.le_add_left _ _

theorem le_alignFrame (len : Nat) : len ≤ alignFrame len := by
  rw [alignFrame]
  omega

theorem alignFrame_lt (len : Nat) : alignFrame len < len + 64 := by
  rw [alignFrame]
  omega

/-- `offset += ALIGN(len, FH_RSCSR_FRAME_ALIGN)`, in a `u32`. -/
def nextOffset (rb : RxBuf) (offset : Nat) : Nat :=
  (offset + alignFrame (packetLen rb offset)) % 2 ^ 32

/-- The offset does not wrap around. -/
theorem nextOffset_eq {rb : RxBuf} {offset : Nat} (room : offset + 4 + 4 < rb.bytes) :
    nextOffset rb offset = offset + alignFrame (packetLen rb offset) := by
  have short := packetLen_le rb offset
  have aligned := alignFrame_lt (packetLen rb offset)
  have small := rb.size_lt
  rw [RxBuf.bytes] at room
  rw [nextOffset, Nat.mod_eq_of_lt (by omega)]

/-- A turn takes at least 64 bytes. -/
theorem add_lt_nextOffset {rb : RxBuf} {offset : Nat} (room : offset + 4 + 4 < rb.bytes) :
    offset + 64 ≤ nextOffset rb offset := by
  have long := packetLen_pos rb offset
  rw [nextOffset_eq room, alignFrame]
  omega

/-- The loop of `iwl_pcie_rx_handle_rb` from `offset` on: the packets it passes to the op-mode. -/
def walk (trans : RxTrans) (rb : RxBuf) (offset : Nat) : List RxPacket :=
  if offset + 4 + 4 < rb.bytes then
    if le32At rb.content offset = frameInvalid then []
    else if trans.ax210 then [packetAt trans rb offset]
    else packetAt trans rb offset :: walk trans rb (nextOffset rb offset)
  else []
termination_by rb.bytes - offset
decreasing_by
  have room : offset + 4 + 4 < rb.bytes := by assumption
  have further := add_lt_nextOffset room
  omega

/-- What becomes of a buffer. -/
inductive RbFate where
  /-- It is mapped again and goes to `rx_free`. -/
  | rxFree
  /-- It has no page any more and goes to `iwl_pcie_rx_reuse_rbd`. -/
  | reuseRbd
  deriving DecidableEq

structure Handled where
  passed : List RxPacket
  /-- The packets for which `iwl_pcie_hcmd_complete` is called. -/
  completed : List RxPacket
  fate : RbFate

/-- `iwl_pcie_rx_handle_rb`: the op-mode may steal the page with a packet, and mapping the page
again may fail. -/
def rxHandleRb (trans : RxTrans) (rb : RxBuf) (steals : RxPacket → Bool) (mapped : Bool) :
    Handled :=
  let passed := walk trans rb 0
  { passed := passed
    completed := passed.filter fun pkt => pkt.reclaim && !steals pkt
    fate := if passed.any steals then .reuseRbd else if mapped then .rxFree else .reuseRbd }

/-! ## Inside the buffer -/

/-- The packet lies in the buffer. -/
def RxPacket.Inside (rb : RxBuf) (pkt : RxPacket) : Prop := pkt.offset + pkt.len ≤ rb.bytes

instance (rb : RxBuf) : DecidablePred (RxPacket.Inside rb) := fun _ =>
  inferInstanceAs (Decidable (_ ≤ _))

/-- The packets from `offset` on, each found at the aligned end of the one before, end with the
one at `last`: it is not an end marker, and behind it there is no room for a header, or the device
has one packet in a buffer. -/
inductive EndsAt (trans : RxTrans) (rb : RxBuf) : Nat → Nat → Prop
  | last {offset : Nat} : offset + 8 < rb.bytes → le32At rb.content offset ≠ frameInvalid →
      trans.ax210 ∨ rb.bytes ≤ offset + alignFrame (packetLen rb offset) + 8 →
      EndsAt trans rb offset offset
  | more {offset last : Nat} : offset + 8 < rb.bytes →
      le32At rb.content offset ≠ frameInvalid → trans.ax210 = false →
      EndsAt trans rb (offset + alignFrame (packetLen rb offset)) last →
      EndsAt trans rb offset last

/-- There is no last packet, as an end marker comes first, or it claims no more than is left. -/
def LastFits (trans : RxTrans) (rb : RxBuf) (offset : Nat) : Prop :=
  ∀ last, EndsAt trans rb offset last → last + packetLen rb last ≤ rb.bytes

variable {trans : RxTrans} {rb : RxBuf} {offset : Nat}

theorem EndsAt.room {last : Nat} (ends : EndsAt trans rb offset last) :
    offset + 8 < rb.bytes ∧ le32At rb.content offset ≠ frameInvalid := by
  cases ends with
  | last room packet => exact ⟨room, packet⟩
  | more room packet => exact ⟨room, packet⟩

/-- A packet with room for a header behind it lies in the buffer. -/
theorem inside_of_room (room : offset + alignFrame (packetLen rb offset) + 8 < rb.bytes) :
    (packetAt trans rb offset).Inside rb := by
  have aligned := le_alignFrame (packetLen rb offset)
  show offset + packetLen rb offset ≤ rb.bytes
  omega

theorem walk_of_no_room (full : ¬offset + 8 < rb.bytes) : walk trans rb offset = [] := by
  rw [walk, if_neg full]

/-- Every packet from `offset` on lies in the buffer exactly if the last one does. -/
theorem walk_inside_iff :
    (∀ pkt ∈ walk trans rb offset, pkt.Inside rb) ↔ LastFits trans rb offset := by
  fun_induction walk trans rb offset with
  | case1 offset room marker =>
      refine iff_of_true (fun _ member => absurd member List.not_mem_nil) fun last ends => ?_
      exact absurd marker ends.room.2
  | case2 offset room packet single =>
      rw [List.forall_mem_singleton]
      constructor
      · intro inside last ends
        cases ends with
        | last => exact inside
        | more _ _ many => exact absurd (many.symm.trans single) Bool.false_ne_true
      · exact fun fits => fits offset (.last room packet (.inl single))
  | case3 offset room packet many ih =>
      rw [nextOffset_eq room] at ih ⊢
      rw [List.forall_mem_cons, ih]
      constructor
      · rintro ⟨inside, fits⟩ last ends
        cases ends with
        | last => exact inside
        | more _ _ _ rest => exact fits last rest
      · intro fits
        refine ⟨?_, fun last rest =>
          fits last (.more room packet (Bool.eq_false_iff.mpr many) rest)⟩
        by_cases further : offset + alignFrame (packetLen rb offset) + 8 < rb.bytes
        · exact inside_of_room further
        · exact fits offset (.last room packet (.inr (by omega)))
  | case4 offset full =>
      refine iff_of_true (fun _ member => absurd member List.not_mem_nil) fun last ends => ?_
      exact absurd ends.room.1 full

/-- The walk makes at most one turn for every 64 bytes that are left. -/
theorem length_walk_le : (walk trans rb offset).length * 64 ≤ rb.bytes - offset + 63 := by
  fun_induction walk trans rb offset with
  | case1 offset => exact Nat.zero_le _
  | case2 offset room =>
      rw [List.length_singleton]
      omega
  | case3 offset room packet many ih =>
      have further := add_lt_nextOffset room
      rw [List.length_cons]
      by_cases over_end : rb.bytes ≤ nextOffset rb offset
      · have done : walk trans rb (nextOffset rb offset) = [] := walk_of_no_room (by omega)
        rw [done, List.length_nil]
        omega
      · omega
  | case4 offset => exact Nat.zero_le _

/-- The walk over a buffer ends, and every packet passed to the op-mode lies in the buffer. -/
structure WalksInside (trans : RxTrans) (rb : RxBuf) (passed : List RxPacket) : Prop where
  ends : passed.length * 64 ≤ rb.bytes + 63
  inside : ∀ pkt ∈ passed, pkt.Inside rb

/-- The walk over any buffer ends; it stays in the buffer exactly if an end marker is met or the
last packet claims no more bytes than are left. -/
theorem rxHandleRb_inside_iff (trans : RxTrans) (rb : RxBuf) (steals : RxPacket → Bool)
    (mapped : Bool) :
    WalksInside trans rb (rxHandleRb trans rb steals mapped).passed ↔ LastFits trans rb 0 :=
  ⟨fun walks => walk_inside_iff.mp walks.inside,
    fun fits => ⟨length_walk_le, walk_inside_iff.mpr fits⟩⟩

/-- A buffer of 4 KiB whose first packet claims all that 14 bits can say. -/
def overlong : RxBuf where
  content := [0xff, 0x3f, 0, 0] ++ List.replicate 4092 0
  size_lt := by
    rw [List.length_append, List.length_replicate]
    decide

/-- A device of the 9000 family. -/
def family9000 : RxTrans := ⟨false, [], 32⟩

/-- That packet is passed on, and ends 12 KiB behind the buffer. -/
theorem not_rxHandleRb_inside :
    ¬WalksInside family9000 overlong
      (rxHandleRb family9000 overlong (fun _ => false) true).passed := by
  have size : overlong.bytes = 4096 := by
    rw [RxBuf.bytes, overlong, List.length_append, List.length_replicate]
    rfl
  have len : packetLen overlong 0 = 16387 := by decide +kernel
  have unmarked : le32At overlong.content 0 ≠ frameInvalid := by decide +kernel
  have last : EndsAt family9000 overlong 0 0 :=
    .last (by omega) unmarked (.inr (by rw [len, size]; decide))
  intro walks
  have fits := walk_inside_iff.mp walks.inside 0 last
  omega

end Iwlwifi.RxHandleRb
