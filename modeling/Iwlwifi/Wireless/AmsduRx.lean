import Iwlwifi.Lib.BoundedRead

/-!
# De-aggregation of an A-MSDU

`ieee80211_amsdu_to_8023s` of `net/wireless/util.c` and the copies below it.  The aggregate lies
in the linear part of the skb, in page fragments and in the skbs of its fragment list; a frame
that is handed on has a linear part and, where pages are reused, fragments of its own.  What lies
in memory behind the linear part of a frame is a parameter (`tail`), since the encapsulation of a
short payload is looked for there.
-/

namespace Iwlwifi

open Lib

/-! ## Frames -/

def rfc1042Header : List UInt8 := [0xaa, 0xaa, 0x03, 0x00, 0x00, 0x00]

def bridgeTunnelHeader : List UInt8 := [0xaa, 0xaa, 0x03, 0x00, 0x00, 0xf8]

def ethPAarp : Nat := 0x80f3

def ethPIpx : Nat := 0x8137

/-- `struct ethhdr`, with `h_proto` in host order. -/
structure Ethhdr where
  hDest : List UInt8
  hSource : List UInt8
  hProto : Nat
  deriving DecidableEq

def be16Bytes (value : Nat) : List UInt8 := [.ofNat (value / 2 ^ 8), .ofNat value]

def Ethhdr.bytes (eth : Ethhdr) : List UInt8 := eth.hDest ++ eth.hSource ++ be16Bytes eth.hProto

def Ethhdr.ofBytes (bytes : List UInt8) : Ethhdr :=
  ⟨bytes.take 6, (bytes.drop 6).take 6, be16At bytes 12⟩

/-- The skb that holds the aggregate. -/
structure AggregateSkb where
  head : List UInt8
  frags : List (List UInt8)
  fragList : List (List UInt8)
  headFrag : Bool

namespace AggregateSkb

def bytes (skb : AggregateSkb) : List UInt8 :=
  skb.head ++ skb.frags.flatten ++ skb.fragList.flatten

def len (skb : AggregateSkb) : Nat := skb.bytes.length

/-- `skb_is_nonlinear` -/
def isNonlinear (skb : AggregateSkb) : Bool :=
  skb.frags.flatten.length + skb.fragList.flatten.length != 0

/-- `skb->head_frag && !skb_has_frag_list(skb)` -/
def reuseFrag (skb : AggregateSkb) : Bool := skb.headFrag && skb.fragList.isEmpty

/-- `skb_copy_bits`, unless the bytes are not there. -/
def copyBits (skb : AggregateSkb) (offset n : Nat) : Option (List UInt8) :=
  if offset + n ≤ skb.len then some ((skb.bytes.drop offset).take n) else none

end AggregateSkb

/-- A frame: its linear part and its page fragments. -/
structure FrameSkb where
  head : List UInt8
  frags : List (List UInt8)

namespace FrameSkb

def bytes (frame : FrameSkb) : List UInt8 := frame.head ++ frame.frags.flatten

/-- `skb_pull`, which does nothing to a frame that is shorter. -/
def pull (frame : FrameSkb) (n : Nat) : FrameSkb :=
  if frame.bytes.length < n then frame else { frame with head := frame.head.drop n }

end FrameSkb

/-! ## Copies -/

/-- What the function does not compute itself. -/
structure AmsduEnv where
  checkDa : Option (List UInt8)
  checkSa : Option (List UInt8)
  /-- `MAX_SKB_FRAGS` -/
  maxSkbFrags : Nat
  /-- Whether the allocation for the frame with a number succeeds. -/
  allocated : Nat → Bool
  /-- The memory behind the linear part of the frame with a number. -/
  tail : Nat → Nat → UInt8

/-- The first loop of `__ieee80211_amsdu_copy_frag`: the piece that holds the offset, from there
on, and the fragments behind it. -/
def skipFrags : List UInt8 → List (List UInt8) → Nat →
    BoundedRead Unit (List UInt8 × List (List UInt8))
  | piece, [], offset =>
      if offset < piece.length then return (piece.drop offset, []) else .error .outOfBounds
  | piece, frag :: frags, offset =>
      if offset < piece.length then return (piece.drop offset, frag :: frags)
      else skipFrags frag frags (offset - piece.length)

/-- `__frame_add_frag`.  The array of the fragments has `maxSkbFrags` places. -/
def frameAddFrag (maxSkbFrags : Nat) (frame : FrameSkb) (frag : List UInt8) :
    BoundedRead Unit FrameSkb :=
  if frame.frags.length < maxSkbFrags then return { frame with frags := frame.frags ++ [frag] }
  else .error .outOfBounds

/-- The second loop. -/
def takeFrags (maxSkbFrags : Nat) (frame : FrameSkb) : List (List UInt8) → Nat →
    BoundedRead Unit FrameSkb
  | _, 0 => return frame
  | [], _ + 1 => .error .outOfBounds
  | frag :: frags, len + 1 => do
      let frame ← frameAddFrag maxSkbFrags frame (frag.take (len + 1))
      takeFrags maxSkbFrags frame frags (len + 1 - frag.length)

/-- `__ieee80211_amsdu_copy_frag` -/
def amsduCopyFrag (maxSkbFrags : Nat) (skb : AggregateSkb) (frame : FrameSkb)
    (offset len : Nat) : BoundedRead Unit FrameSkb := do
  let (piece, frags) ← skipFrags skb.head skb.frags offset
  let frame ← frameAddFrag maxSkbFrags frame (piece.take len)
  takeFrags maxSkbFrags frame frags (len - piece.length)

/-- `__ieee80211_amsdu_copy`, for the frame with number `n`.  It fails with the code `()`. -/
def amsduCopy (env : AmsduEnv) (skb : AggregateSkb) (n offset len : Nat) :
    BoundedRead Unit FrameSkb :=
  if skb.len - offset < len then .error (.ret ())
  else
    let curLen := if skb.reuseFrag then min len 32 else len
    if !env.allocated n then .error (.ret ())
    else
      match skb.copyBits offset curLen with
      | none => .error .outOfBounds
      | some head =>
          if len - curLen = 0 then return ⟨head, []⟩
          else amsduCopyFrag env.maxSkbFrags skb ⟨head, []⟩ (offset + curLen) (len - curLen)

/-! ## Sub-frames -/

def isMulticastEtherAddr (addr : List UInt8) : Bool := addr.getD 0 0 &&& 1 != 0

/-- The addresses pass the filter. -/
def passesFilter (env : AmsduEnv) (eth : Ethhdr) : Bool :=
  !((match env.checkDa with
      | some checkDa => !isMulticastEtherAddr eth.hDest && checkDa != eth.hDest
      | none => false) ||
    match env.checkSa with
    | some checkSa => checkSa != eth.hSource
    | none => false)

/-- The encapsulation that the first eight bytes of a payload announce is removed. -/
def removesEncapsulation (payload : List UInt8) : Bool :=
  let ethertype := be16At payload 6
  payload.take 6 == rfc1042Header && ethertype != ethPAarp && ethertype != ethPIpx ||
    payload.take 6 == bridgeTunnelHeader

/-- The first eight bytes at the data of a frame. -/
def lookAt (head : List UInt8) (tail : Nat → UInt8) : List UInt8 :=
  (List.range 8).map fun i => if i < head.length then head.getD i 0 else tail i

/-- The header that a frame gets and what is left of the frame. -/
def encapsulate (eth : Ethhdr) (frame : FrameSkb) (tail : Nat → UInt8) : Ethhdr × FrameSkb :=
  let payload := lookAt frame.head tail
  if removesEncapsulation payload then ({ eth with hProto := be16At payload 6 }, frame.pull 8)
  else (eth, frame)

/-- The header and the Ethernet frame of a sub-frame that passes the filter, with number `n` and
its payload at `offset`. -/
def subframeFrame (env : AmsduEnv) (skb : AggregateSkb) (n offset : Nat) (eth : Ethhdr)
    (last : Bool) : BoundedRead Unit (Ethhdr × List UInt8) := do
  let frame ←
    if !skb.isNonlinear && !skb.reuseFrag && last then pure ⟨skb.head.drop offset, []⟩
    else amsduCopy env skb n offset eth.hProto
  let (eth, frame) := encapsulate eth frame (env.tail n)
  return (eth, eth.bytes ++ frame.bytes)

structure AmsduState where
  offset : Nat
  eth : Ethhdr
  last : Bool
  list : List (List UInt8)

/-- `(4 - subframe_len) & 0x3` -/
def amsduPadding (subframeLen : Nat) : Nat := (4 - subframeLen % 4) % 4

/-- One turn of the loop of `ieee80211_amsdu_to_8023s`.  The code `()` is the label `purge`. -/
def amsduTurn (env : AmsduEnv) (skb : AggregateSkb) (st : AmsduState) :
    BoundedRead Unit AmsduState := do
  let eth := match skb.copyBits st.offset 14 with
    | some header => Ethhdr.ofBytes header
    | none => st.eth
  let subframeLen := 14 + eth.hProto
  let padding := amsduPadding subframeLen
  let remaining := skb.len - st.offset
  if remaining < subframeLen then .error (.ret ())
  else
    let last := decide (remaining ≤ subframeLen + padding)
    let next := st.offset + 14 + eth.hProto + padding
    if !passesFilter env eth then return ⟨next, eth, last, st.list⟩
    else
      let (eth, frame) ← subframeFrame env skb st.list.length (st.offset + 14) eth last
      return ⟨next, eth, last, st.list ++ [frame]⟩

def amsduLoop (env : AmsduEnv) (skb : AggregateSkb) : Nat → AmsduState →
    Option (BoundedRead Unit (List (List UInt8)))
  | 0, _ => none
  | fuel + 1, st =>
      match amsduTurn env skb st with
      | .error stop => some (.error stop)
      | .ok st => if st.last then some (.ok st.list) else amsduLoop env skb fuel st

/-- `ieee80211_amsdu_to_8023s`: the frames that are on the list.  `junk` is what `eth` holds
before the first header is copied there. -/
def amsduTo8023s (env : AmsduEnv) (skb : AggregateSkb) (junk : Ethhdr) (fuel : Nat) :
    Option (BoundedRead Unit (List (List UInt8))) :=
  match amsduLoop env skb fuel ⟨0, junk, false, []⟩ with
  | some (.error (.ret ())) => some (.ok [])
  | outcome => outcome

end Iwlwifi
