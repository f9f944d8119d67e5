import Iwlwifi.Wireless.AmsduRx

/-!
# The sub-frames of an A-MSDU

Every byte string is a sequence of sub-frames that ends with the last one or with bytes that hold
none (`LaidOut`).  A turn of the loop takes one sub-frame off, and its frame has the bytes of the
payload, whatever the split of the skb, if the array of the fragments does not overflow
(`amsduCopy_spec`).  What is made of these bytes depends on the memory behind a payload that is
shorter than the eight bytes where the encapsulation is looked for (`made_ne_of_begins`).
-/

namespace Iwlwifi

open Lib

/-! ## Sub-frames -/

/-- An MSDU: the length of the payload is a 16-bit field. -/
structure Subframe where
  dest : List UInt8
  source : List UInt8
  payload : List UInt8
  destLength : dest.length = 6
  sourceLength : source.length = 6
  payloadLength : payload.length < 2 ^ 16

namespace Subframe

def eth (sf : Subframe) : Ethhdr := ⟨sf.dest, sf.source, sf.payload.length⟩

def bytes (sf : Subframe) : List UInt8 := sf.eth.bytes ++ sf.payload

def padding (sf : Subframe) : Nat := amsduPadding (14 + sf.payload.length)

/-- The Ethernet frame: the LLC/SNAP header is removed if the payload is at least eight bytes
long and starts with it, and what follows is the type. -/
def ethernetFrame (sf : Subframe) : List UInt8 :=
  if 8 ≤ sf.payload.length ∧ removesEncapsulation sf.payload = true then
    sf.dest ++ sf.source ++ sf.payload.drop 6
  else sf.bytes

end Subframe

/-- How a byte string ends: with the last sub-frame and what is left behind it, or without. -/
inductive Ending
  | complete (slack : List UInt8)
  | broken

/-- The sub-frames of a byte string.  A list of sub-frames that is laid out back to back, padded
but for the last, ends with `.complete []`. -/
inductive LaidOut : List UInt8 → List Subframe → Ending → Prop
  | broken {bytes : List UInt8} :
    (∀ (sf : Subframe) (more : List UInt8), bytes ≠ sf.bytes ++ more) → LaidOut bytes [] .broken
  | last {sf : Subframe} {slack : List UInt8} : slack.length ≤ sf.padding →
    LaidOut (sf.bytes ++ slack) [sf] (.complete slack)
  | cons {sf : Subframe} {pad rest : List UInt8} {sfs : List Subframe} {ending : Ending} :
    pad.length = sf.padding → rest ≠ [] → LaidOut rest sfs ending →
    LaidOut (sf.bytes ++ (pad ++ rest)) (sf :: sfs) ending

theorem exists_laidOut (bytes : List UInt8) : ∃ sfs ending, LaidOut bytes sfs ending := by
  induction h : bytes.length using Nat.strongRecOn generalizing bytes with
  | _ n ih =>
    by_cases starts : ∃ (sf : Subframe) (more : List UInt8), bytes = sf.bytes ++ more
    · obtain ⟨sf, more, rfl⟩ := starts
      rcases Nat.lt_or_ge sf.padding more.length with goesOn | ends
      · have left : more.drop sf.padding ≠ [] := by
          rw [ne_eq, List.drop_eq_nil_iff]
          omega
        have shorter : (more.drop sf.padding).length < n := by
          rw [← h, List.length_drop, List.length_append, Subframe.bytes, List.length_append,
            Ethhdr.bytes, List.length_append, List.length_append, be16Bytes]
          simp only [List.length_cons, List.length_nil]
          omega
        obtain ⟨sfs, ending, laid⟩ := ih _ shorter _ rfl
        have padded : (more.take sf.padding).length = sf.padding := by
          rw [List.length_take]
          omega
        refine ⟨sf :: sfs, ending, ?_⟩
        have whole := LaidOut.cons padded left laid
        rwa [List.take_append_drop] at whole
      · exact ⟨[sf], .complete more, .last ends⟩
    · refine ⟨[], .broken, .broken fun sf more same => starts ⟨sf, more, same⟩⟩

/-! ## The header of a sub-frame -/

theorem be16Bytes_length (value : Nat) : (be16Bytes value).length = 2 := rfl

theorem be16At_be16Bytes {before after : List UInt8} {value : Nat} (small : value < 2 ^ 16) :
    be16At (before ++ (be16Bytes value ++ after)) before.length = value := by
  have first : u8At (before ++ (be16Bytes value ++ after)) before.length = value / 2 ^ 8 := by
    rw [u8At, List.getD_eq_getElem?_getD, List.getElem?_append_right (Nat.le_refl _), Nat.sub_self]
    simp only [be16Bytes, List.cons_append, List.getElem?_cons_zero, Option.getD_some]
    have high : value / 2 ^ 8 < 2 ^ 8 := by omega
    exact UInt8.toNat_ofNat_of_lt' high
  have second : u8At (before ++ (be16Bytes value ++ after)) (before.length + 1) =
      value % 2 ^ 8 := by
    rw [u8At, List.getD_eq_getElem?_getD, List.getElem?_append_right (by omega),
      show before.length + 1 - before.length = 1 by omega]
    simp only [be16Bytes, List.cons_append, List.getElem?_cons_succ, List.getElem?_cons_zero,
      Option.getD_some]
    exact UInt8.toNat_ofNat
  rw [be16At, first, second]
  omega

theorem be16At_lt (bytes : List UInt8) (ofs : Nat) : be16At bytes ofs < 2 ^ 16 := by
  have high := u8At_lt bytes ofs
  have low := u8At_lt bytes (ofs + 1)
  rw [be16At]
  omega

theorem be16Bytes_be16At {bytes : List UInt8} {ofs : Nat} (length : bytes.length = ofs + 2) :
    be16Bytes (be16At bytes ofs) = bytes.drop ofs := by
  have first : ofs < bytes.length := by omega
  have second : ofs + 1 < bytes.length := by omega
  have high : u8At bytes ofs = bytes[ofs].toNat := by
    rw [u8At, List.getD_eq_getElem?_getD, List.getElem?_eq_getElem first, Option.getD_some]
  have low : u8At bytes (ofs + 1) = bytes[ofs + 1].toNat := by
    rw [u8At, List.getD_eq_getElem?_getD, List.getElem?_eq_getElem second, Option.getD_some]
  have small := UInt8.toNat_lt bytes[ofs + 1]
  rw [List.drop_eq_getElem_cons first, List.drop_eq_getElem_cons second,
    List.drop_eq_nil_of_le (by omega : bytes.length ≤ ofs + 1 + 1), be16Bytes, be16At, high, low]
  have highByte : UInt8.ofNat ((2 ^ 8 * bytes[ofs].toNat + bytes[ofs + 1].toNat) / 2 ^ 8) =
      bytes[ofs] := by
    rw [show (2 ^ 8 * bytes[ofs].toNat + bytes[ofs + 1].toNat) / 2 ^ 8 = bytes[ofs].toNat by omega]
    exact UInt8.ofNat_toNat
  have lowByte : UInt8.ofNat (2 ^ 8 * bytes[ofs].toNat + bytes[ofs + 1].toNat) =
      bytes[ofs + 1] := by
    rw [← UInt8.toNat_inj, UInt8.toNat_ofNat']
    omega
  rw [highByte, lowByte]

namespace Subframe

variable (sf : Subframe)

theorem eth_bytes_length : sf.eth.bytes.length = 14 := by
  rw [Ethhdr.bytes, List.length_append, List.length_append, be16Bytes_length, eth, sf.destLength,
    sf.sourceLength]

theorem bytes_length : sf.bytes.length = 14 + sf.payload.length := by
  rw [bytes, List.length_append, eth_bytes_length]

theorem ofBytes_header : Ethhdr.ofBytes sf.eth.bytes = sf.eth := by
  have proto := @be16At_be16Bytes (sf.dest ++ sf.source) [] _ sf.payloadLength
  rw [List.append_nil, List.length_append, sf.destLength, sf.sourceLength] at proto
  have dest : (sf.dest ++ sf.source ++ be16Bytes sf.payload.length).take 6 = sf.dest := by
    rw [List.append_assoc, ← sf.destLength, List.take_left]
  have source : ((sf.dest ++ sf.source ++ be16Bytes sf.payload.length).drop 6).take 6 =
      sf.source := by
    rw [List.append_assoc, ← sf.destLength, List.drop_left, sf.destLength, ← sf.sourceLength,
      List.take_left]
  rw [Ethhdr.bytes, Ethhdr.ofBytes]
  simp only [eth]
  rw [dest, source, proto]

end Subframe

/-! ## Where a sub-frame starts -/

section Start

variable {env : AmsduEnv} {skb : AggregateSkb} {sf : Subframe} {offset : Nat}
  {more : List UInt8}

theorem length_of_drop {rest : List UInt8} (here : skb.bytes.drop offset = rest)
    (nonempty : rest ≠ []) : skb.len = offset + rest.length := by
  have length := congrArg List.length here
  rw [List.length_drop] at length
  have positive := List.length_pos_iff.mpr nonempty
  rw [AggregateSkb.len]
  omega

theorem copyBits_of_drop {front back : List UInt8}
    (here : skb.bytes.drop offset = front ++ back) (inside : offset + front.length ≤ skb.len) :
    skb.copyBits offset front.length = some front := by
  rw [AggregateSkb.copyBits, if_pos inside, here, List.take_left]

theorem bytes_ne_nil : sf.bytes ++ more ≠ [] := by
  intro empty
  have length := congrArg List.length empty
  rw [List.length_append, sf.bytes_length, List.length_nil] at length
  omega

theorem drop_payload (here : skb.bytes.drop offset = sf.bytes ++ more) :
    skb.bytes.drop (offset + 14) = sf.payload ++ more := by
  rw [← List.drop_drop, here, Subframe.bytes, List.append_assoc, ← sf.eth_bytes_length,
    List.drop_left]

/-- What a turn does at a sub-frame. -/
theorem amsduTurn_of_drop (here : skb.bytes.drop offset = sf.bytes ++ more) (eth : Ethhdr)
    (last : Bool) (list : List (List UInt8)) :
    amsduTurn env skb ⟨offset, eth, last, list⟩ =
      if passesFilter env sf.eth then
        subframeFrame env skb list.length (offset + 14) sf.eth
            (decide (more.length ≤ sf.padding)) >>= fun made =>
          .ok ⟨offset + 14 + sf.payload.length + sf.padding, made.1,
            decide (more.length ≤ sf.padding), list ++ [made.2]⟩
      else .ok ⟨offset + 14 + sf.payload.length + sf.padding, sf.eth,
        decide (more.length ≤ sf.padding), list⟩ := by
  have length := length_of_drop here bytes_ne_nil
  rw [List.length_append, sf.bytes_length] at length
  have header : skb.copyBits offset 14 = some sf.eth.bytes := by
    rw [← sf.eth_bytes_length]
    refine @copyBits_of_drop skb offset sf.eth.bytes (sf.payload ++ more) ?_ ?_
    · rw [here, Subframe.bytes, List.append_assoc]
    · rw [sf.eth_bytes_length]
      omega
  have proto : sf.eth.hProto = sf.payload.length := rfl
  have isLast : decide (skb.len - offset ≤ 14 + sf.payload.length +
      amsduPadding (14 + sf.payload.length)) = decide (more.length ≤ sf.padding) := by
    rw [decide_eq_decide, Subframe.padding]
    omega
  rw [amsduTurn]
  simp only [header, sf.ofBytes_header, proto]
  rw [if_neg (by omega), isLast]
  cases passesFilter env sf.eth with
  | false => rfl
  | true =>
    simp only [Bool.not_true, Bool.false_eq_true, if_false, if_true]
    rfl

/-- A turn where no sub-frame starts. -/
theorem amsduTurn_broken {rest : List UInt8} (here : skb.bytes.drop offset = rest)
    (broken : ∀ (sf : Subframe) (more : List UInt8), rest ≠ sf.bytes ++ more) (eth : Ethhdr)
    (last : Bool) (list : List (List UInt8)) :
    amsduTurn env skb ⟨offset, eth, last, list⟩ = .error (.ret ()) := by
  have length := congrArg List.length here
  rw [List.length_drop] at length
  rw [amsduTurn]
  simp only
  rw [if_pos]
  split
  · next header copied =>
      obtain ⟨inside, same⟩ := Option.ite_none_right_eq_some.mp copied
      rw [here] at same
      by_contra long
      rw [AggregateSkb.len] at inside long
      have headerLength : header.length = 14 := by
        rw [← Option.some.inj same, List.length_take]
        omega
      have split : rest = header ++ rest.drop 14 := by
        rw [← Option.some.inj same, List.take_append_drop]
      have proto : (Ethhdr.ofBytes header).hProto = be16At header 12 := rfl
      rw [proto] at long
      have payload : ((rest.drop 14).take (be16At header 12)).length = be16At header 12 := by
        rw [List.length_take, List.length_drop]
        omega
      let sf : Subframe :=
        { dest := header.take 6
          source := (header.drop 6).take 6
          payload := (rest.drop 14).take (be16At header 12)
          destLength := by rw [List.length_take]; omega
          sourceLength := by rw [List.length_take, List.length_drop]; omega
          payloadLength := by rw [payload]; exact be16At_lt header 12 }
      have eth : sf.eth.bytes = header := by
        have type : be16Bytes (be16At header 12) = header.drop 12 :=
          be16Bytes_be16At headerLength
        have halves : (header.drop 6).take 6 ++ header.drop 12 = header.drop 6 := by
          have twice : header.drop 12 = (header.drop 6).drop 6 := by rw [List.drop_drop]
          rw [twice, List.take_append_drop]
        have same : sf.eth.hProto = be16At header 12 := payload
        change header.take 6 ++ (header.drop 6).take 6 ++ be16Bytes _ = header
        rw [same, type, List.append_assoc, halves, List.take_append_drop]
      refine broken sf ((rest.drop 14).drop (be16At header 12)) ?_
      rw [Subframe.bytes, eth, List.append_assoc, List.take_append_drop]
      exact split
  · next missing =>
      have outside : ¬offset + 14 ≤ skb.len := by
        intro inside
        rw [AggregateSkb.copyBits, if_pos inside] at missing
        cases missing
      omega

end Start

/-- A sub-frame is laid out behind the others: first the padding of the last of them. -/
theorem LaidOut.snoc {bytes pad : List UInt8} {sfs : List Subframe}
    (laid : LaidOut bytes sfs (.complete [])) (sf : Subframe)
    (padded : pad.length = amsduPadding bytes.length) :
    LaidOut (bytes ++ (pad ++ sf.bytes)) (sfs ++ [sf]) (.complete []) := by
  have new : LaidOut (sf.bytes ++ []) [sf] (.complete []) := .last (Nat.zero_le _)
  generalize complete : Ending.complete [] = ending at laid
  induction laid with
  | broken => cases complete
  | @last first slack short =>
    cases complete
    rw [List.append_nil, first.bytes_length] at padded
    have both := @LaidOut.cons first _ _ _ _ padded bytes_ne_nil new
    rwa [List.append_nil] at both ⊢
  | @cons first gap rest sfs ending full left laid ih =>
    have aligned : amsduPadding (first.bytes ++ (gap ++ rest)).length =
        amsduPadding rest.length := by
      rw [List.length_append, List.length_append, first.bytes_length, full, Subframe.padding]
      simp only [amsduPadding]
      omega
    have more := ih (by rw [padded, aligned]) complete
    have nonempty : rest ++ (pad ++ sf.bytes) ≠ [] := fun empty =>
      left (List.append_eq_nil_iff.mp empty).1
    have whole := LaidOut.cons full nonempty more
    rwa [← List.append_assoc, ← List.append_assoc, List.append_assoc first.bytes] at whole

/-! ## Page fragments -/

/-- Where the fragments of a list start, the first of them at `start`. -/
def fragStarts (start : Nat) : List (List UInt8) → List Nat
  | [] => []
  | frag :: frags => start :: fragStarts (start + frag.length) frags

/-- How many fragments start before a position. -/
def startsBefore (start : Nat) (frags : List (List UInt8)) (stop : Nat) : Nat :=
  (fragStarts start frags).countP fun position => position < stop

theorem le_of_mem_fragStarts {start position : Nat} {frags : List (List UInt8)}
    (member : position ∈ fragStarts start frags) : start ≤ position := by
  induction frags generalizing start with
  | nil => cases member
  | cons frag frags ih =>
    rcases List.mem_cons.mp member with rfl | member
    · exact Nat.le_refl _
    · have later := ih member
      omega

theorem startsBefore_eq_zero {start stop : Nat} (frags : List (List UInt8)) (le : stop ≤ start) :
    startsBefore start frags stop = 0 := by
  refine List.countP_eq_zero.mpr fun position member => ?_
  have later := le_of_mem_fragStarts member
  simp only [decide_eq_true_eq]
  omega

theorem startsBefore_cons {start stop : Nat} (frag : List UInt8) (frags : List (List UInt8))
    (lt : start < stop) : startsBefore start (frag :: frags) stop =
      startsBefore (start + frag.length) frags stop + 1 := by
  rw [startsBefore, fragStarts, List.countP_cons_of_pos (by simpa using lt), startsBefore]

section Frags

variable {maxSkbFrags : Nat}

/-- The fragments that are taken hold the bytes, if the array has a place for each that starts
before their end. -/
theorem takeFrags_spec {frame : FrameSkb} {frags : List (List UInt8)} {start len : Nat}
    (inside : len ≤ frags.flatten.length) (room : frame.frags.length ≤ maxSkbFrags) :
    (frame.frags.length + startsBefore start frags (start + len) ≤ maxSkbFrags →
      ∃ taken, takeFrags maxSkbFrags frame frags len = .ok ⟨frame.head, taken⟩ ∧
        taken.flatten = frame.frags.flatten ++ frags.flatten.take len) ∧
    (maxSkbFrags < frame.frags.length + startsBefore start frags (start + len) →
      takeFrags maxSkbFrags frame frags len = .error .outOfBounds) := by
  induction frags generalizing frame start len with
  | nil =>
    have none : len = 0 := Nat.le_zero.mp inside
    subst none
    refine ⟨fun _ => ⟨frame.frags, by rw [takeFrags]; rfl, by simp⟩, fun full => ?_⟩
    rw [Nat.add_zero, startsBefore_eq_zero [] (Nat.le_refl _)] at full
    omega
  | cons frag frags ih =>
    cases len with
    | zero =>
      refine ⟨fun _ => ⟨frame.frags, by rw [takeFrags]; rfl, by simp⟩, fun full => ?_⟩
      rw [Nat.add_zero, startsBefore_eq_zero _ (Nat.le_refl _)] at full
      omega
    | succ len =>
      rw [List.flatten_cons, List.length_append] at inside
      have rest : startsBefore (start + frag.length) frags (start + (len + 1)) =
          startsBefore (start + frag.length) frags
            (start + frag.length + (len + 1 - frag.length)) := by
        rcases Nat.le_total frag.length (len + 1) with whole | part
        · rw [show start + frag.length + (len + 1 - frag.length) = start + (len + 1) by omega]
        · rw [startsBefore_eq_zero _ (by omega), startsBefore_eq_zero _ (by omega)]
      rw [startsBefore_cons frag frags (by omega), rest, takeFrags, frameAddFrag]
      by_cases place : frame.frags.length < maxSkbFrags
      · rw [if_pos place]
        have added : (frame.frags ++ [frag.take (len + 1)]).length =
            frame.frags.length + 1 := by
          rw [List.length_append, List.length_singleton]
        obtain ⟨fits, overflows⟩ := @ih ⟨frame.head, frame.frags ++ [frag.take (len + 1)]⟩
          (start + frag.length) (len + 1 - frag.length) (by omega)
          (by rw [added]; exact place)
        rw [added] at fits overflows
        constructor
        · intro enough
          obtain ⟨taken, takes, bytes⟩ := fits (by omega)
          refine ⟨taken, takes, ?_⟩
          rw [bytes, List.flatten_cons, List.take_append, List.flatten_append,
            List.flatten_singleton, List.append_assoc]
        · intro full
          exact overflows (by omega)
      · rw [if_neg place]
        refine ⟨fun enough => ?_, fun _ => rfl⟩
        omega

/-- How many fragments start inside a range. -/
def startsInside (start : Nat) (frags : List (List UInt8)) (low high : Nat) : Nat :=
  (fragStarts start frags).countP fun position => low < position ∧ position < high

/-- Behind a position in a piece every fragment that follows starts later. -/
theorem startsInside_of_lt {piece : List UInt8} {frags : List (List UInt8)} {start offset : Nat}
    (here : offset < piece.length) (stop : Nat) :
    startsInside (start + piece.length) frags (start + offset) stop =
      startsBefore (start + offset + (piece.drop offset).length) frags stop := by
  rw [List.length_drop, show start + offset + (piece.length - offset) =
    start + piece.length by omega, startsInside, startsBefore]
  refine List.countP_congr fun position member => ?_
  have later := le_of_mem_fragStarts member
  simp only [decide_eq_true_eq]
  omega

/-- The piece that holds the offset, and what is behind it. -/
theorem skipFrags_spec {piece : List UInt8} {frags : List (List UInt8)} {start offset : Nat}
    (inside : offset < piece.length + frags.flatten.length) :
    ∃ piece' frags', skipFrags piece frags offset = .ok (piece', frags') ∧ piece' ≠ [] ∧
      piece' ++ frags'.flatten = (piece ++ frags.flatten).drop offset ∧
      ∀ stop, startsInside (start + piece.length) frags (start + offset) stop =
        startsBefore (start + offset + piece'.length) frags' stop := by
  have nonempty : ∀ {piece : List UInt8} {offset : Nat}, offset < piece.length →
      piece.drop offset ≠ [] := by
    intro piece offset here
    rw [ne_eq, List.drop_eq_nil_iff]
    omega
  induction frags generalizing piece start offset with
  | nil =>
    have here : offset < piece.length := by simpa using inside
    refine ⟨piece.drop offset, [], ?_, nonempty here, ?_, startsInside_of_lt here⟩
    · rw [skipFrags, if_pos here]
      rfl
    · rw [List.drop_append_of_le_length (Nat.le_of_lt here)]
  | cons frag frags ih =>
    by_cases here : offset < piece.length
    · refine ⟨piece.drop offset, frag :: frags, ?_, nonempty here, ?_, startsInside_of_lt here⟩
      · rw [skipFrags, if_pos here]
        rfl
      · rw [List.drop_append_of_le_length (Nat.le_of_lt here)]
    · rw [List.flatten_cons, List.length_append] at inside
      obtain ⟨piece', frags', skips, left, bytes, starts⟩ :=
        @ih frag (start + piece.length) (offset - piece.length) (by omega)
      rw [show start + piece.length + (offset - piece.length) = start + offset by omega]
        at starts
      refine ⟨piece', frags', ?_, left, ?_, fun stop => ?_⟩
      · rw [skipFrags, if_neg here]
        exact skips
      · have past : (piece ++ (frag ++ frags.flatten)).drop offset =
            (frag ++ frags.flatten).drop (offset - piece.length) := by
          rw [List.drop_append, List.drop_eq_nil_of_le (Nat.not_lt.mp here), List.nil_append]
        rw [bytes, List.flatten_cons, past]
      · rw [← starts, startsInside, fragStarts, List.countP_cons_of_neg, startsInside]
        simp only [decide_eq_true_eq]
        omega

/-- The pages are reused if the array has a place for each fragment that starts inside. -/
theorem amsduCopyFrag_spec {skb : AggregateSkb} {head : List UInt8} {offset len : Nat}
    (positive : 0 < len) (inside : offset + len ≤ skb.head.length + skb.frags.flatten.length) :
    (startsInside skb.head.length skb.frags offset (offset + len) < maxSkbFrags →
      ∃ taken, amsduCopyFrag maxSkbFrags skb ⟨head, []⟩ offset len = .ok ⟨head, taken⟩ ∧
        taken.flatten = ((skb.head ++ skb.frags.flatten).drop offset).take len) ∧
    (maxSkbFrags ≤ startsInside skb.head.length skb.frags offset (offset + len) →
      amsduCopyFrag maxSkbFrags skb ⟨head, []⟩ offset len = .error .outOfBounds) := by
  obtain ⟨piece, frags, skips, nonempty, bytes, starts⟩ :=
    @skipFrags_spec skb.head skb.frags 0 offset (by omega)
  rw [Nat.zero_add, Nat.zero_add] at starts
  have long := List.length_pos_iff.mpr nonempty
  have total := congrArg List.length bytes
  rw [List.length_append, List.length_drop, List.length_append] at total
  have rest : startsBefore (offset + piece.length) frags (offset + len) =
      startsBefore (offset + piece.length) frags
        (offset + piece.length + (len - piece.length)) := by
    rcases Nat.le_total piece.length len with whole | part
    · rw [show offset + piece.length + (len - piece.length) = offset + len by omega]
    · rw [startsBefore_eq_zero _ (by omega), startsBefore_eq_zero _ (by omega)]
  rw [starts, rest, amsduCopyFrag, skips]
  simp only [bind, Except.bind]
  rw [frameAddFrag]
  by_cases place : 0 < maxSkbFrags
  · rw [if_pos (by exact place)]
    obtain ⟨fits, overflows⟩ := @takeFrags_spec maxSkbFrags ⟨head, [piece.take len]⟩ frags
      (offset + piece.length) (len - piece.length) (by omega) place
    simp only [List.length_singleton] at fits overflows
    constructor
    · intro enough
      obtain ⟨taken, takes, flat⟩ := fits (by omega)
      refine ⟨taken, takes, ?_⟩
      rw [flat, ← bytes, List.take_append, List.flatten_singleton]
    · intro full
      exact overflows (by omega)
  · rw [if_neg (by exact place)]
    exact ⟨fun enough => by omega, fun _ => rfl⟩

end Frags

/-! ## The encapsulation -/

variable {tail : Nat → UInt8}

theorem lookAt_getElem? {head : List UInt8} {i : Nat} (index : i < 8) :
    (lookAt head tail)[i]? = some (if i < head.length then head.getD i 0 else tail i) := by
  rw [lookAt, List.getElem?_map, List.getElem?_range index]
  rfl

theorem lookAt_of_le {head : List UInt8} (long : 8 ≤ head.length) :
    lookAt head tail = head.take 8 := by
  refine List.ext_getElem? fun i => ?_
  rcases Nat.lt_or_ge i 8 with index | outside
  · rw [lookAt_getElem? index, if_pos (by omega), List.getElem?_take_of_lt index,
      List.getD_eq_getElem?_getD, List.getElem?_eq_getElem (by omega), Option.getD_some]
  · rw [List.getElem?_eq_none, List.getElem?_eq_none]
    · rw [List.length_take]
      omega
    · simp only [lookAt, List.length_map, List.length_range]
      exact outside

theorem removesEncapsulation_take (payload : List UInt8) :
    removesEncapsulation (payload.take 8) = removesEncapsulation payload := by
  have byte : ∀ i < 8, u8At (payload.take 8) i = u8At payload i := by
    intro i index
    rw [u8At, u8At, List.getD_eq_getElem?_getD, List.getD_eq_getElem?_getD,
      List.getElem?_take_of_lt index]
  have type : be16At (payload.take 8) 6 = be16At payload 6 := by
    rw [be16At, be16At, byte 6 (by decide), byte 7 (by decide)]
  rw [removesEncapsulation, removesEncapsulation, type, List.take_take]
  rfl

/-- The frame that is made of a sub-frame whose frame has the bytes `data`. -/
def Subframe.made (sf : Subframe) (data : List UInt8) (tail : Nat → UInt8) : List UInt8 :=
  if removesEncapsulation (lookAt data tail) then
    sf.dest ++ sf.source ++ be16Bytes (be16At (lookAt data tail) 6) ++
      (if data.length < 8 then data else data.drop 8)
  else sf.eth.bytes ++ data

theorem encapsulate_made (sf : Subframe) {frame : FrameSkb} (tail : Nat → UInt8)
    (whole : 8 ≤ frame.head.length ∨ frame.frags.flatten = []) :
    (encapsulate sf.eth frame tail).1.bytes ++ (encapsulate sf.eth frame tail).2.bytes =
      sf.made frame.bytes tail := by
  have same : lookAt frame.head tail = lookAt frame.bytes tail := by
    rw [FrameSkb.bytes]
    rcases whole with long | none
    · have longer : 8 ≤ (frame.head ++ frame.frags.flatten).length := by
        rw [List.length_append]
        omega
      rw [lookAt_of_le long, lookAt_of_le longer, List.take_append_of_le_length long]
    · rw [none, List.append_nil]
  rw [encapsulate, Subframe.made, same]
  split
  · simp only [Ethhdr.bytes, Subframe.eth, FrameSkb.pull, List.append_assoc]
    congr 3
    split
    · rfl
    · rw [FrameSkb.bytes, FrameSkb.bytes]
      rcases whole with long | none
      · rw [List.drop_append_of_le_length long]
      · rw [none, List.append_nil, List.append_nil]
  · rfl

/-- The payload is shorter than the eight bytes that are looked at and might be the beginning of
an LLC/SNAP header. -/
def Subframe.MayBegin (sf : Subframe) : Prop :=
  sf.payload.length < 8 ∧
    (sf.payload.take 6 <+: rfc1042Header ∨ sf.payload.take 6 <+: bridgeTunnelHeader)

instance (sf : Subframe) : Decidable sf.MayBegin := inferInstanceAs (Decidable (_ ∧ _))

namespace Subframe

variable {sf : Subframe}

theorem take_lookAt {data header : List UInt8} (same : (lookAt data tail).take 6 = header) :
    data.take 6 <+: header := by
  refine List.prefix_iff_getElem?.mpr fun i index => ?_
  rw [List.length_take] at index
  rw [← same, List.getElem?_take_of_lt (by omega), lookAt_getElem? (by omega), if_pos (by omega),
    List.getD_eq_getElem?_getD, List.getElem?_eq_getElem (by omega), Option.getD_some,
    List.getElem_take]

theorem made_of_not_mayBegin (clean : ¬sf.MayBegin) (tail : Nat → UInt8) :
    sf.made sf.payload tail = sf.ethernetFrame := by
  rw [made, ethernetFrame]
  rcases Nat.lt_or_ge sf.payload.length 8 with short | long
  · have kept : ¬(8 ≤ sf.payload.length ∧ removesEncapsulation sf.payload = true) := by omega
    have notRemoved : ¬removesEncapsulation (lookAt sf.payload tail) = true := by
      intro removes
      refine clean ⟨short, ?_⟩
      rw [removesEncapsulation] at removes
      simp only [Bool.or_eq_true, Bool.and_eq_true, beq_iff_eq] at removes
      rcases removes with ⟨⟨same, -⟩, -⟩ | same
      · exact Or.inl (take_lookAt same)
      · exact Or.inr (take_lookAt same)
    rw [if_neg kept, if_neg notRemoved]
    rfl
  · have notShort : ¬sf.payload.length < 8 := by omega
    rw [lookAt_of_le long, removesEncapsulation_take sf.payload, if_neg notShort]
    by_cases removes : removesEncapsulation sf.payload = true
    · have both : 8 ≤ sf.payload.length ∧ removesEncapsulation sf.payload = true := ⟨long, removes⟩
      have eight : (sf.payload.take 8).length = 6 + 2 := by
        rw [List.length_take]
        omega
      have rest : (sf.payload.take 8).drop 6 ++ sf.payload.drop 8 = sf.payload.drop 6 := by
        rw [← List.drop_append_of_le_length (by omega), List.take_append_drop]
      rw [if_pos removes, if_pos both, be16Bytes_be16At eight, List.append_assoc, rest]
    · have kept : ¬(8 ≤ sf.payload.length ∧ removesEncapsulation sf.payload = true) :=
        fun both => removes both.2
      rw [if_neg removes, if_neg kept]
      rfl

/-- Memory that goes on with a header, then with bytes that are no length and no type that is
left alone. -/
def tailAfter (header : List UInt8) (i : Nat) : UInt8 := header.getD i 0xff

theorem lookAt_tailAfter {header data : List UInt8} (six : header.length = 6)
    (short : data.length < 8) (begins : data.take 6 <+: header) :
    (lookAt data (tailAfter header)).take 6 = header ∧
      u8At (lookAt data (tailAfter header)) 7 = 0xff := by
  constructor
  · refine List.ext_getElem? fun i => ?_
    rcases Nat.lt_or_ge i 6 with index | outside
    · rw [List.getElem?_take_of_lt index, lookAt_getElem? (by omega),
        List.getElem?_eq_getElem (by omega : i < header.length)]
      split
      · next inData =>
          have same := List.prefix_iff_getElem?.mp begins i (by rw [List.length_take]; omega)
          rw [List.getElem?_eq_getElem (by omega : i < header.length), List.getElem_take] at same
          rw [List.getD_eq_getElem?_getD, List.getElem?_eq_getElem inData, Option.getD_some, same]
      · rw [tailAfter, List.getD_eq_getElem?_getD,
          List.getElem?_eq_getElem (by omega : i < header.length), Option.getD_some]
    · rw [List.getElem?_eq_none (by rw [List.length_take]; omega),
        List.getElem?_eq_none (by omega)]
  · have last : ¬7 < data.length := by omega
    rw [u8At, List.getD_eq_getElem?_getD, lookAt_getElem? (by decide), if_neg last,
      Option.getD_some, tailAfter, List.getD_eq_getElem?_getD,
      List.getElem?_eq_none (by omega : header.length ≤ 7)]
    rfl

/-- In such memory the frame of a short payload gets another type. -/
theorem made_ne_of_begins {header : List UInt8} (six : header.length = 6)
    (known : header = rfc1042Header ∨ header = bridgeTunnelHeader) (short : sf.payload.length < 8)
    (begins : sf.payload.take 6 <+: header) :
    sf.made sf.payload (tailAfter header) ≠ sf.ethernetFrame := by
  obtain ⟨taken, low⟩ := lookAt_tailAfter six short begins
  have type : ∃ high, be16At (lookAt sf.payload (tailAfter header)) 6 = 2 ^ 8 * high + 0xff :=
    ⟨_, by rw [be16At, low]⟩
  obtain ⟨high, type⟩ := type
  have removes : removesEncapsulation (lookAt sf.payload (tailAfter header)) = true := by
    rw [removesEncapsulation, taken, type]
    simp only [Bool.or_eq_true, Bool.and_eq_true, beq_iff_eq, bne_iff_ne, ethPAarp, ethPIpx]
    rcases known with rfl | rfl
    · exact Or.inl ⟨⟨rfl, by omega⟩, by omega⟩
    · exact Or.inr rfl
  have kept : ¬(8 ≤ sf.payload.length ∧ removesEncapsulation sf.payload = true) := by omega
  rw [made, if_pos removes, if_pos short, ethernetFrame, if_neg kept, bytes, Ethhdr.bytes, type]
  intro same
  have types := List.append_inj_left (List.append_cancel_right same) rfl
  have bytes := List.append_cancel_left (List.append_cancel_right same)
  have lowByte : UInt8.ofNat (2 ^ 8 * high + 0xff) = UInt8.ofNat sf.payload.length :=
    (List.cons.inj (List.cons.inj bytes).2).1
  have lows := congrArg UInt8.toNat lowByte
  rw [UInt8.toNat_ofNat', UInt8.toNat_ofNat'] at lows
  omega

theorem length_made (data : List UInt8) (tail : Nat → UInt8) :
    (sf.made data tail).length = 14 + data.length ∨
      8 ≤ data.length ∧ (sf.made data tail).length = 6 + data.length := by
  rw [made]
  split
  · split
    · left
      simp only [List.length_append, sf.destLength, sf.sourceLength, be16Bytes_length]
    · right
      simp only [List.length_append, sf.destLength, sf.sourceLength, be16Bytes_length,
        List.length_drop]
      omega
  · left
    rw [List.length_append, sf.eth_bytes_length]

theorem length_ethernetFrame : sf.ethernetFrame.length = 14 + sf.payload.length ∨
    sf.ethernetFrame.length = 6 + sf.payload.length ∧ 8 ≤ sf.payload.length := by
  rw [ethernetFrame]
  split
  · next both =>
      right
      simp only [List.length_append, sf.destLength, sf.sourceLength, List.length_drop]
      omega
  · exact Or.inl sf.bytes_length

/-- A frame that keeps bytes behind its payload is another one. -/
theorem made_ne_of_slack {slack : List UInt8} (tail : Nat → UInt8) (some : slack ≠ [])
    (short : slack.length ≤ sf.padding) :
    sf.made (sf.payload ++ slack) tail ≠ sf.ethernetFrame := by
  intro same
  have lengths := congrArg List.length same
  have positive := List.length_pos_iff.mpr some
  have made := @length_made sf (sf.payload ++ slack) tail
  have frame := @length_ethernetFrame sf
  rw [List.length_append] at made
  rw [padding, amsduPadding] at short
  omega

end Subframe

/-! ## The frame of a sub-frame -/

/-- The skb itself becomes the frame of the last sub-frame. -/
def AggregateSkb.reusesSkb (skb : AggregateSkb) : Bool := !skb.isNonlinear && !skb.reuseFrag

/-- The array of the fragments has a place for every fragment that a payload at an offset starts
in, but for the first 32 bytes, which are copied. -/
def FragsFit (maxSkbFrags : Nat) (skb : AggregateSkb) (offset : Nat) (sf : Subframe) : Prop :=
  skb.reuseFrag = true → 32 < sf.payload.length →
    startsInside skb.head.length skb.frags (offset + 32) (offset + sf.payload.length) < maxSkbFrags

instance (maxSkbFrags : Nat) (skb : AggregateSkb) (offset : Nat) (sf : Subframe) :
    Decidable (FragsFit maxSkbFrags skb offset sf) := inferInstanceAs (Decidable (_ → _ → _))

section Frame

variable {env : AmsduEnv} {skb : AggregateSkb} {sf : Subframe} {n offset : Nat}
  {more : List UInt8} (here : skb.bytes.drop offset = sf.payload ++ more)
include here

theorem subframeFrame_reused (reuses : skb.reusesSkb = true) :
    ∃ eth, subframeFrame env skb n offset sf.eth true =
      .ok (eth, sf.made (sf.payload ++ more) (env.tail n)) := by
  have linear : (!skb.isNonlinear && !skb.reuseFrag && true) = true := by
    rw [Bool.and_true]
    exact reuses
  obtain ⟨notNonlinear, -⟩ := Bool.and_eq_true_iff.mp reuses
  have none : skb.frags.flatten = [] ∧ skb.fragList.flatten = [] := by
    rw [AggregateSkb.isNonlinear, Bool.not_eq_true', bne_eq_false_iff_eq] at notNonlinear
    exact ⟨List.length_eq_zero_iff.mp (by omega), List.length_eq_zero_iff.mp (by omega)⟩
  have bytes : skb.bytes = skb.head := by
    rw [AggregateSkb.bytes, none.1, none.2, List.append_nil, List.append_nil]
  rw [bytes] at here
  have frameBytes : FrameSkb.bytes ⟨skb.head.drop offset, []⟩ = sf.payload ++ more := by
    rw [FrameSkb.bytes, List.flatten_nil, List.append_nil, here]
  have made := @encapsulate_made sf ⟨skb.head.drop offset, []⟩ (env.tail n) (Or.inr rfl)
  rw [subframeFrame, if_pos linear]
  simp only [bind, Except.bind, pure, Except.pure]
  exact ⟨_, by rw [made, frameBytes]⟩

theorem copyBits_payload {len : Nat} (part : len ≤ sf.payload.length)
    (nonempty : offset ≤ skb.len) : skb.copyBits offset len = some (sf.payload.take len) := by
  have length := congrArg List.length here
  rw [List.length_drop, List.length_append] at length
  rw [AggregateSkb.len] at nonempty
  rw [AggregateSkb.copyBits, if_pos, here, List.take_append_of_le_length part]
  rw [AggregateSkb.len]
  omega

variable (inside : offset ≤ skb.len)
include inside

theorem amsduCopy_spec (succeeds : env.allocated n = true) :
    (FragsFit env.maxSkbFrags skb offset sf →
      ∃ frame, amsduCopy env skb n offset sf.payload.length = .ok frame ∧
        frame.bytes = sf.payload ∧ (8 ≤ frame.head.length ∨ frame.frags.flatten = [])) ∧
    (¬FragsFit env.maxSkbFrags skb offset sf →
      amsduCopy env skb n offset sf.payload.length = .error .outOfBounds) := by
  have length := congrArg List.length here
  rw [List.length_drop, List.length_append] at length
  have room : ¬skb.len - offset < sf.payload.length := by
    rw [AggregateSkb.len]
    omega
  rw [amsduCopy, if_neg room, succeeds]
  simp only [Bool.not_true, Bool.false_eq_true, if_false]
  by_cases pages : skb.reuseFrag = true ∧ 32 < sf.payload.length
  · obtain ⟨reuses, long⟩ := pages
    have some : ¬sf.payload.length - 32 = 0 := by omega
    have noList : skb.fragList = [] := by
      rw [AggregateSkb.reuseFrag, Bool.and_eq_true] at reuses
      exact List.isEmpty_iff.mp reuses.2
    have bytes : skb.bytes = skb.head ++ skb.frags.flatten := by
      rw [AggregateSkb.bytes, noList, List.flatten_nil, List.append_nil]
    rw [bytes, List.length_append] at length
    rw [if_pos reuses, Nat.min_eq_right (Nat.le_of_lt long),
      copyBits_payload here (Nat.le_of_lt long) inside]
    simp only
    rw [if_neg some]
    obtain ⟨fits, overflows⟩ := @amsduCopyFrag_spec env.maxSkbFrags skb (sf.payload.take 32)
      (offset + 32) (sf.payload.length - 32) (by omega) (by omega)
    rw [show offset + 32 + (sf.payload.length - 32) = offset + sf.payload.length by omega]
      at fits overflows
    constructor
    · intro fit
      obtain ⟨taken, copies, flat⟩ := fits (fit reuses long)
      refine ⟨_, copies, ?_, Or.inl ?_⟩
      · have dropped : (sf.payload.drop 32).length = sf.payload.length - 32 := List.length_drop
        have left : (sf.payload.drop 32 ++ more).take (sf.payload.length - 32) =
            sf.payload.drop 32 := by
          rw [← dropped, List.take_left]
        rw [FrameSkb.bytes, flat, ← bytes, ← List.drop_drop, here,
          List.drop_append_of_le_length (Nat.le_of_lt long), left]
        exact List.take_append_drop 32 sf.payload
      · rw [List.length_take]
        omega
    · intro overflow
      refine overflows ?_
      rw [FragsFit] at overflow
      by_contra fits
      exact overflow fun _ _ => Nat.not_le.mp fits
  · have whole : (if skb.reuseFrag = true then min sf.payload.length 32 else sf.payload.length) =
        sf.payload.length := by
      split
      · next reuses => exact Nat.min_eq_left (Nat.not_lt.mp fun long => pages ⟨reuses, long⟩)
      · rfl
    rw [whole, copyBits_payload here (Nat.le_refl _) inside]
    simp only [Nat.sub_self, if_true]
    refine ⟨fun _ => ⟨_, rfl, ?_, Or.inr rfl⟩, fun overflow => ?_⟩
    · rw [FrameSkb.bytes, List.flatten_nil, List.append_nil, List.take_length]
    · exact absurd (fun reuses long => absurd ⟨reuses, long⟩ pages) overflow

theorem subframeFrame_copied {last : Bool} (copies : (skb.reusesSkb && last) = false) :
    (env.allocated n = false → subframeFrame env skb n offset sf.eth last = .error (.ret ())) ∧
    (env.allocated n = true → FragsFit env.maxSkbFrags skb offset sf →
      ∃ eth, subframeFrame env skb n offset sf.eth last =
        .ok (eth, sf.made sf.payload (env.tail n))) ∧
    (env.allocated n = true → ¬FragsFit env.maxSkbFrags skb offset sf →
      subframeFrame env skb n offset sf.eth last = .error .outOfBounds) := by
  have length := congrArg List.length here
  rw [List.length_drop, List.length_append] at length
  have room : ¬skb.len - offset < sf.payload.length := by
    rw [AggregateSkb.len]
    omega
  have proto : sf.eth.hProto = sf.payload.length := rfl
  have notReused : ¬(!skb.isNonlinear && !skb.reuseFrag && last) = true := by
    rw [AggregateSkb.reusesSkb] at copies
    rw [copies]
    decide
  rw [subframeFrame, if_neg notReused, proto]
  refine ⟨fun fails => ?_, fun succeeds fit => ?_, fun succeeds overflow => ?_⟩
  · rw [amsduCopy, if_neg room, fails]
    rfl
  · obtain ⟨frame, copy, bytes, whole⟩ := (amsduCopy_spec here inside succeeds).1 fit
    have made := encapsulate_made sf (env.tail n) whole
    rw [copy]
    simp only [bind, Except.bind, pure, Except.pure]
    exact ⟨_, by rw [made, bytes]⟩
  · rw [(amsduCopy_spec here inside succeeds).2 overflow]
    rfl

end Frame

end Iwlwifi
