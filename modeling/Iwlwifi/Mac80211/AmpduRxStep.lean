import Iwlwifi.Lib.Ring
import Iwlwifi.Lib.Slots
import Iwlwifi.Mac80211.AmpduRx

/-!
# What a release does to the window

Where the buffer size divides 4096, the window's sequence numbers have slots of their own:
the one `l` after the head has slot `(head + l) % bufSize`, on either side of the wrap at 4096.
`Kept` is the state between two releases, `Moves rx n after frames` a move of the head by `n`
that hands over `frames`; the loops of the source are followed pass by pass.
-/

namespace Iwlwifi

open Function (update update_eq_self update_of_ne update_self)

open Lib
namespace TidAmpduRx

variable {rx after : TidAmpduRx} {frames : List (List AmpduSkb)} {n k l hz jiffies : Nat}

/-! ## Slots -/

/-- The slot of the sequence number `l` after `head`. -/
def slot (rx : TidAmpduRx) (head l : Nat) : Nat := (head + l) % rx.bufSize

/-- The buffer sizes for which slots do not depend on the wrap at 4096. -/
structure SizeOk (rx : TidAmpduRx) : Prop where
  divides : rx.bufSize ∣ 4096
  small : rx.bufSize ≤ 256

namespace SizeOk

theorem pos (size : SizeOk rx) : 0 < rx.bufSize := Nat.pos_of_dvd_of_pos size.divides (by decide)

theorem slot_lt (size : SizeOk rx) (head l : Nat) : rx.slot head l < rx.bufSize :=
  Nat.mod_lt _ size.pos

theorem slot_mod (size : SizeOk rx) (head l : Nat) :
    rx.slot (head % 4096) l = rx.slot head l := by
  rw [slot, slot, Nat.add_mod, Nat.mod_mod_of_dvd _ size.divides, ← Nat.add_mod]

/-- The slot of a sequence number, counted from a head. -/
theorem slot_ieee80211SnSub (size : SizeOk rx) (head : Nat) {sn : Nat} (bound : sn < 4096) :
    rx.slot head (ieee80211SnSub sn head) = sn % rx.bufSize := by
  have arrives := mod_of_ieee80211SnSub (h := head) bound
  rw [slot, ← Nat.mod_mod_of_dvd _ size.divides, ← arrives]

end SizeOk

/-- A window has every slot once. -/
theorem slot_injective {head : Nat} (left : k < rx.bufSize) (right : l < rx.bufSize)
    (same : rx.slot head k = rx.slot head l) : k = l :=
  eq_of_add_mod left right same

theorem slot_add (head : Nat) : rx.slot (head + n) l = rx.slot head (n + l) := by
  rw [slot, slot, Nat.add_assoc]

theorem exists_slot (size : SizeOk rx) (head : Nat) {i : Nat} (bound : i < rx.bufSize) :
    ∃ l < rx.bufSize, rx.slot head l = i := by
  refine ⟨ringDist rx.bufSize head i, ringDist_lt size.pos, ?_⟩
  rw [slot, add_ringDist size.pos, Nat.mod_eq_of_lt bound]

/-! ## The state between releases -/

/-- The frames in the window's slots carry the window's sequence numbers, and the complete ones
are counted. -/
structure Kept (rx : TidAmpduRx) : Prop where
  size : SizeOk rx
  headLt : rx.headSeqNum < 4096
  unfiltered : rx.reorderBufFiltered = fun _ => false
  windowed : ∀ l < rx.bufSize, ∀ f ∈ rx.reorderBuf (rx.slot rx.headSeqNum l),
    f.sn = (rx.headSeqNum + l) % 4096
  counted : rx.storedMpduNum = marked complete rx.reorderBuf rx.bufSize

namespace Kept

theorem reorderReady (kept : Kept rx) (index : Nat) :
    rx.reorderReady index = complete (rx.reorderBuf index) := by
  rw [TidAmpduRx.reorderReady, kept.unfiltered]
  rfl

/-- Only the slots, the count, the size and the head matter. -/
theorem congr (kept : Kept rx) (bufSize : after.bufSize = rx.bufSize)
    (head : after.headSeqNum = rx.headSeqNum) (buf : after.reorderBuf = rx.reorderBuf)
    (filtered : after.reorderBufFiltered = rx.reorderBufFiltered)
    (stored : after.storedMpduNum = rx.storedMpduNum) : Kept after where
  size := ⟨bufSize ▸ kept.size.divides, bufSize ▸ kept.size.small⟩
  headLt := head ▸ kept.headLt
  unfiltered := filtered.trans kept.unfiltered
  windowed := by
    simp only [slot]
    rw [bufSize, head, buf]
    exact kept.windowed
  counted := by
    rw [stored, buf, bufSize]
    exact kept.counted

theorem storedMpduNum_pos (kept : Kept rx) {i : Nat} (bound : i < rx.bufSize)
    (ready : complete (rx.reorderBuf i) = true) : 0 < rx.storedMpduNum := by
  rw [kept.counted]
  refine Nat.pos_of_ne_zero fun none => ?_
  rw [marked_eq_zero_iff.mp none i bound] at ready
  cases ready

end Kept

/-! ## Moving the head -/

/-- The head moves by `n`; what is handed over leaves in batches of one sequence number, in the
order of the window, and the head passes it. -/
structure Moves (rx : TidAmpduRx) (n : Nat) (after : TidAmpduRx)
    (frames : List (List AmpduSkb)) : Prop where
  bufSize : after.bufSize = rx.bufSize
  autoSeq : after.autoSeq = rx.autoSeq
  head : after.headSeqNum = (rx.headSeqNum + n) % 4096
  uniform : ∀ batch ∈ frames, ∀ f ∈ batch, ∀ g ∈ batch, f.sn = g.sn
  passed : ∀ f ∈ frames.flatten, ieee80211SnSub f.sn rx.headSeqNum < n
  sorted : frames.flatten.Pairwise fun f g =>
    ieee80211SnSub f.sn rx.headSeqNum ≤ ieee80211SnSub g.sn rx.headSeqNum

/-- The way from one head to a sequence number through another. -/
theorem ieee80211SnSub_head {head sn : Nat}
    (small : n + ieee80211SnSub sn ((head + n) % 4096) < 4096) :
    ieee80211SnSub sn head = n + ieee80211SnSub sn ((head + n) % 4096) := by
  simp only [ieee80211SnSub] at small ⊢
  omega

namespace Moves

theorem refl (headLt : rx.headSeqNum < 4096) : Moves rx 0 rx [] where
  bufSize := rfl
  autoSeq := rfl
  head := (Nat.mod_eq_of_lt headLt).symm
  uniform := nofun
  passed := nofun
  sorted := .nil

theorem trans {middle : TidAmpduRx} {m : Nat} {more : List (List AmpduSkb)}
    (first : Moves rx n middle frames) (second : Moves middle m after more)
    (small : n + m < 4096) : Moves rx (n + m) after (frames ++ more) where
  bufSize := second.bufSize.trans first.bufSize
  autoSeq := second.autoSeq.trans first.autoSeq
  head := by
    rw [second.head, first.head, Nat.mod_add_mod, Nat.add_assoc]
  uniform batch member := by
    rcases List.mem_append.mp member with old | new
    · exact first.uniform batch old
    · exact second.uniform batch new
  passed f member := by
    rw [List.flatten_append] at member
    rcases List.mem_append.mp member with old | new
    · exact Nat.lt_add_right m (first.passed f old)
    · have less := second.passed f new
      rw [first.head] at less
      rw [ieee80211SnSub_head (n := n) (by omega)]
      omega
  sorted := by
    rw [List.flatten_append, List.pairwise_append]
    have shift : ∀ f ∈ more.flatten, ieee80211SnSub f.sn rx.headSeqNum =
        n + ieee80211SnSub f.sn middle.headSeqNum := by
      intro f member
      have less := second.passed f member
      rw [first.head] at less ⊢
      exact ieee80211SnSub_head (by omega)
    refine ⟨first.sorted, ?_, ?_⟩
    · refine second.sorted.imp_of_mem fun {f g} left right le => ?_
      rw [shift f left, shift g right]
      omega
    · intro f old g new
      have before := first.passed f old
      rw [shift g new]
      omega

/-- Only the head, the size and `auto_seq` matter before and after. -/
theorem congr {rx' after' : TidAmpduRx} (moves : Moves rx n after frames)
    (head : rx'.headSeqNum = rx.headSeqNum) (bufSize : rx'.bufSize = rx.bufSize)
    (autoSeq : rx'.autoSeq = rx.autoSeq) (head' : after'.headSeqNum = after.headSeqNum)
    (bufSize' : after'.bufSize = after.bufSize) (autoSeq' : after'.autoSeq = after.autoSeq) :
    Moves rx' n after' frames where
  bufSize := by rw [bufSize', bufSize, moves.bufSize]
  autoSeq := by rw [autoSeq', autoSeq, moves.autoSeq]
  head := by rw [head', head, moves.head]
  uniform := moves.uniform
  passed := by
    rw [head]
    exact moves.passed
  sorted := by
    rw [head]
    exact moves.sorted

end Moves

/-! ## Releasing one slot -/

/-- A slot is emptied and the head moves past it and the `skipped` slots before it. -/
def released (rx : TidAmpduRx) (index skipped : Nat) : TidAmpduRx :=
  { rx with
    reorderBuf := update rx.reorderBuf index []
    reorderBufFiltered := fun _ => false
    storedMpduNum := rx.storedMpduNum - (complete (rx.reorderBuf index)).toNat
    headSeqNum := (rx.headSeqNum + skipped + 1) % 4096 }

/-- The head also moves past the slots skipped. -/
theorem released_skip (rx : TidAmpduRx) (index skipped : Nat) :
    { rx.released index 0 with
      headSeqNum := ((rx.released index 0).headSeqNum + skipped) % 4096 } =
      rx.released index skipped := by
  have head : ((rx.headSeqNum + 0 + 1) % 4096 + skipped) % 4096 =
      (rx.headSeqNum + skipped + 1) % 4096 := by omega
  simp only [released, head]

/-- What a slot hands over: all of it, or nothing. -/
def readyFrames (rx : TidAmpduRx) (index : Nat) : List (List AmpduSkb) :=
  if complete (rx.reorderBuf index) then [rx.reorderBuf index] else []

theorem releaseReorderFrame_eq (unfiltered : rx.reorderBufFiltered = fun _ => false)
    (index : Nat) :
    rx.releaseReorderFrame index = (rx.released index 0, rx.readyFrames index) := by
  have cleared : update (fun _ => false) index false = fun _ : Nat => false :=
    update_eq_self index (fun _ : Nat => false)
  rw [releaseReorderFrame, released, readyFrames]
  split
  · next empty =>
      have kept : update rx.reorderBuf index [] = rx.reorderBuf := by
        rw [← empty]
        exact update_eq_self index rx.reorderBuf
      rw [noFrame, unfiltered, cleared, kept, empty]
      rfl
  split
  · next notReady =>
      rw [reorderReady, unfiltered, Bool.false_or, Bool.not_eq_true] at notReady
      rw [noFrame, notReady]
      dsimp only
      rw [unfiltered, cleared]
      rfl
  · next ready =>
      rw [reorderReady, unfiltered, Bool.false_or, not_not] at ready
      rw [noFrame, ready]
      dsimp only
      rw [unfiltered, cleared]
      rfl

/-- Releasing the slot `k` after the head when the ones before it are empty. -/
theorem Kept.released (kept : Kept rx) (bound : k < rx.bufSize)
    (empty : ∀ l < k, rx.reorderBuf (rx.slot rx.headSeqNum l) = []) :
    Kept (rx.released (rx.slot rx.headSeqNum k) k) where
  size := ⟨kept.size.divides, kept.size.small⟩
  headLt := Nat.mod_lt _ (by decide)
  unfiltered := rfl
  windowed l less f held := by
    change f.sn = ((rx.headSeqNum + k + 1) % 4096 + l) % 4096
    change f ∈ update rx.reorderBuf _ [] (rx.slot ((rx.headSeqNum + k + 1) % 4096) l) at held
    change l < rx.bufSize at less
    rw [kept.size.slot_mod, Nat.add_assoc, slot_add] at held
    rcases Nat.lt_or_ge (k + 1 + l) rx.bufSize with inside | around
    · have other : rx.slot rx.headSeqNum (k + 1 + l) ≠ rx.slot rx.headSeqNum k := by
        intro same
        have := slot_injective inside bound same
        omega
      rw [update_of_ne other] at held
      rw [kept.windowed _ inside f held, Nat.mod_add_mod]
      congr 1
      omega
    · have again : rx.slot rx.headSeqNum (k + 1 + l) =
          rx.slot rx.headSeqNum (k + 1 + l - rx.bufSize) := by
        rw [slot, slot, ← Nat.add_mod_right (rx.headSeqNum + (k + 1 + l - rx.bufSize))]
        congr 1
        omega
      rw [again] at held
      rcases Nat.lt_or_ge (k + 1 + l - rx.bufSize) k with before | last
      · have other : rx.slot rx.headSeqNum (k + 1 + l - rx.bufSize) ≠
            rx.slot rx.headSeqNum k := by
          intro same
          have := slot_injective (by omega) bound same
          omega
        rw [update_of_ne other, empty _ before] at held
        cases held
      · have here : k + 1 + l - rx.bufSize = k := by omega
        rw [here, update_self] at held
        cases held
  counted := by
    change rx.storedMpduNum - _ = marked complete (update rx.reorderBuf _ []) rx.bufSize
    have moved := marked_update (p := complete) rx.reorderBuf
      (kept.size.slot_lt rx.headSeqNum k) []
    rw [← kept.counted] at moved
    have nothing : (complete []).toNat = 0 := rfl
    omega

theorem Kept.moves_released (kept : Kept rx) (bound : k < rx.bufSize) :
    Moves rx (k + 1) (rx.released (rx.slot rx.headSeqNum k) k)
      (rx.readyFrames (rx.slot rx.headSeqNum k)) := by
  have small := kept.size.small
  have held : ∀ f ∈ (rx.readyFrames (rx.slot rx.headSeqNum k)).flatten,
      f.sn = (rx.headSeqNum + k) % 4096 := by
    intro f member
    rw [readyFrames] at member
    split at member
    · rw [List.flatten_cons, List.flatten_nil, List.append_nil] at member
      exact kept.windowed k bound f member
    · cases member
  have offset : ∀ f ∈ (rx.readyFrames (rx.slot rx.headSeqNum k)).flatten,
      ieee80211SnSub f.sn rx.headSeqNum = k := by
    intro f member
    rw [held f member]
    exact ieee80211SnSub_snAdd (by omega)
  refine ⟨rfl, rfl, ?_, ?_, ?_, ?_⟩
  · exact congrArg (· % 4096) (Nat.add_assoc _ _ _)
  · intro batch member f inF g inG
    rw [held f (List.mem_flatten_of_mem member inF), held g (List.mem_flatten_of_mem member inG)]
  · intro f member
    rw [offset f member]
    exact Nat.lt_succ_self k
  · exact List.pairwise_of_forall_mem_list fun f left g right =>
      ((offset f left).trans (offset g right).symm).le

/-! ## The release loops -/

/-- The first `n` slots from the head on were emptied, nothing else in the buffer changed. -/
structure Cleared (rx : TidAmpduRx) (n : Nat) (after : TidAmpduRx) : Prop where
  time : after.reorderTime = rx.reorderTime
  emptied : ∀ m < n, after.reorderBuf (rx.slot rx.headSeqNum m) = []
  others : ∀ i, (∀ m < n, i ≠ rx.slot rx.headSeqNum m) → after.reorderBuf i = rx.reorderBuf i

theorem Cleared.refl : Cleared rx 0 rx := ⟨rfl, nofun, fun _ _ => rfl⟩

/-- One more slot before the ones that were emptied. -/
theorem Cleared.succ (size : SizeOk rx)
    (rest : Cleared (rx.released (rx.slot rx.headSeqNum 0) 0) n after) :
    Cleared rx (n + 1) after := by
  have shift : ∀ m, (rx.released (rx.slot rx.headSeqNum 0) 0).slot
      (rx.released (rx.slot rx.headSeqNum 0) 0).headSeqNum m = rx.slot rx.headSeqNum (m + 1) := by
    intro m
    change rx.slot ((rx.headSeqNum + 0 + 1) % 4096) m = _
    rw [size.slot_mod, slot_add, Nat.add_zero, Nat.add_comm m 1]
  refine ⟨rest.time, ?_, ?_⟩
  · intro m less
    cases m with
    | succ m =>
      rw [← shift m]
      exact rest.emptied m (by omega)
    | zero =>
      by_cases again : ∃ m < n, rx.slot rx.headSeqNum 0 = rx.slot rx.headSeqNum (m + 1)
      · obtain ⟨m, before, same⟩ := again
        rw [same, ← shift m]
        exact rest.emptied m before
      · rw [rest.others]
        · exact update_self _ _ _
        · intro m before
          rw [shift m]
          exact fun same => again ⟨m, before, same⟩
  · intro i other
    rw [rest.others]
    · exact update_of_ne (other 0 (Nat.succ_pos n)) _ _
    · intro m before
      rw [shift m]
      exact other (m + 1) (by omega)

/-- Releasing up to a sequence number less than 2048 ahead. -/
theorem Kept.releaseUpTo {headSeqNum : Nat} (fuel : Nat) (kept : Kept rx)
    (ahead : ieee80211SnSub headSeqNum rx.headSeqNum = n) (near : n < 2048)
    (enough : n ≤ fuel) :
    Kept (releaseUpTo headSeqNum fuel rx).1 ∧
      Moves rx n (releaseUpTo headSeqNum fuel rx).1 (releaseUpTo headSeqNum fuel rx).2 ∧
      Cleared rx n (releaseUpTo headSeqNum fuel rx).1 := by
  induction fuel generalizing rx n with
  | zero =>
    obtain rfl : n = 0 := by omega
    exact ⟨kept, .refl kept.headLt, .refl⟩
  | succ fuel ih =>
    have swap := ieee80211SnSub_swap (a := headSeqNum) (b := rx.headSeqNum)
    rw [ahead] at swap
    rw [TidAmpduRx.releaseUpTo]
    cases n with
    | zero =>
      rw [if_neg (by rw [ieee80211SnLess_iff, swap]; decide)]
      exact ⟨kept, .refl kept.headLt, .refl⟩
    | succ n =>
      rw [if_pos (by rw [ieee80211SnLess_iff, swap]; omega),
        releaseReorderFrame_eq kept.unfiltered]
      have first := kept.moves_released kept.size.pos
      have kept' := kept.released kept.size.pos nofun
      have closer : ieee80211SnSub headSeqNum
          (rx.released (rx.slot rx.headSeqNum 0) 0).headSeqNum = n := by
        have step := ieee80211SnSub_snInc (a := headSeqNum) (h := rx.headSeqNum) (by omega)
        rw [ahead] at step
        exact step
      obtain ⟨kept'', rest, cleared⟩ := ih kept' closer (by omega) (by omega)
      refine ⟨kept'', ?_, cleared.succ kept.size⟩
      rw [Nat.add_comm n 1]
      exact first.trans rest (by omega)

/-- Whatever sequence number the buffer is released up to. -/
theorem Kept.releaseReorderFrames (kept : Kept rx) (headSeqNum : Nat) :
    ∃ n < 2048, (ieee80211SnSub headSeqNum rx.headSeqNum < 2048 →
        n = ieee80211SnSub headSeqNum rx.headSeqNum) ∧
      Kept (rx.releaseReorderFrames headSeqNum).1 ∧
      Moves rx n (rx.releaseReorderFrames headSeqNum).1
        (rx.releaseReorderFrames headSeqNum).2 ∧
      Cleared rx n (rx.releaseReorderFrames headSeqNum).1 := by
  rcases Nat.lt_or_ge (ieee80211SnSub headSeqNum rx.headSeqNum) 2048 with near | far
  · exact ⟨_, near, fun _ => rfl, kept.releaseUpTo 2048 rfl near (by omega)⟩
  · have swap := ieee80211SnSub_swap (a := headSeqNum) (b := rx.headSeqNum)
    have stays : rx.releaseReorderFrames headSeqNum = (rx, []) := by
      rw [TidAmpduRx.releaseReorderFrames, TidAmpduRx.releaseUpTo,
        if_neg (by rw [ieee80211SnLess_iff, swap]; omega)]
    rw [stays]
    exact ⟨0, by decide, fun near => by omega, kept, .refl kept.headLt, .refl⟩

/-- Releasing from the head on ends at a slot that is not ready. -/
theorem Kept.releaseReady (fuel : Nat) (kept : Kept rx) :
    ∃ n ≤ rx.storedMpduNum, Kept (releaseReady fuel rx).1 ∧
      Moves rx n (releaseReady fuel rx).1 (releaseReady fuel rx).2 ∧
      (rx.storedMpduNum < fuel → (releaseReady fuel rx).1.reorderReady
        ((releaseReady fuel rx).1.headSeqNum % rx.bufSize) = false) := by
  induction fuel generalizing rx with
  | zero => exact ⟨0, Nat.zero_le _, kept, .refl kept.headLt, nofun⟩
  | succ fuel ih =>
    rw [TidAmpduRx.releaseReady]
    dsimp only
    split
    · next ready =>
        have few : rx.storedMpduNum ≤ 256 := by
          rw [kept.counted]
          exact Nat.le_trans marked_le kept.size.small
        rw [releaseReorderFrame_eq kept.unfiltered]
        rw [kept.reorderReady] at ready
        have positive := kept.storedMpduNum_pos (kept.size.slot_lt _ 0) ready
        have first := kept.moves_released kept.size.pos
        have kept' := kept.released kept.size.pos nofun
        have fewer : (rx.released (rx.slot rx.headSeqNum 0) 0).storedMpduNum =
            rx.storedMpduNum - 1 := by
          change rx.storedMpduNum -
            (complete (rx.reorderBuf (rx.headSeqNum % rx.bufSize))).toNat = _
          rw [ready, Bool.toNat_true]
        obtain ⟨n, le, kept'', rest, done⟩ := ih kept'
        refine ⟨1 + n, by omega, kept'', first.trans rest (by omega), fun stored => done ?_⟩
        omega
    · next notReady =>
        exact ⟨0, Nat.zero_le _, kept, .refl kept.headLt, fun _ => by simpa using notReady⟩

/-! ## Frames that have timed out -/

def withBuf (rx : TidAmpduRx) (buf : Nat → List AmpduSkb) : TidAmpduRx :=
  { rx with reorderBuf := buf }

/-- The slots from `k` up to `j`'s are purged and nothing else is. -/
theorem purgeBetween_eq (size : SizeOk rx) (head : Nat) {j : Nat} (bound : j < rx.bufSize)
    (fuel k : Nat) (le : k ≤ j) (enough : j - k ≤ fuel) :
    ∃ buf, rx.purgeBetween (rx.slot head j) fuel (rx.slot head k) =
        rx.withBuf buf ∧
      (∀ l, k ≤ l → l < j → buf (rx.slot head l) = []) ∧
      ∀ i, (∀ l, k ≤ l → l < j → i ≠ rx.slot head l) → buf i = rx.reorderBuf i := by
  induction fuel generalizing rx k with
  | zero => exact ⟨rx.reorderBuf, rfl, fun l _ _ => by omega, fun _ _ => rfl⟩
  | succ fuel ih =>
    rw [purgeBetween]
    split
    · next here =>
        have last : k = j := slot_injective (by omega) bound here
        exact ⟨rx.reorderBuf, rfl, fun l _ _ => by omega, fun _ _ => rfl⟩
    · next before =>
        have less : k < j := Nat.lt_of_le_of_ne le fun same => before (by rw [same])
        have next : (rx.slot head k + 1) % rx.bufSize = rx.slot head (k + 1) := by
          rw [slot, slot, Nat.mod_add_mod, Nat.add_assoc]
        rw [next]
        have size' : SizeOk { rx with
            reorderBuf := update rx.reorderBuf (rx.slot head k) [] } :=
          ⟨size.divides, size.small⟩
        obtain ⟨buf, same, purged, others⟩ := ih size' bound (k + 1) less (by omega)
        refine ⟨buf, same, ?_, ?_⟩
        · intro l from' upTo
          rcases Nat.lt_or_eq_of_le from' with later | rfl
          · exact purged l later upTo
          · rw [others]
            · exact update_self _ _ _
            · intro l after upTo' same'
              have := slot_injective (by omega) (by omega) same'
              omega
        · intro i other
          rw [others]
          · exact update_of_ne (other k (Nat.le_refl k) less) _ _
          · exact fun l after upTo' => other l (by omega) upTo'

/-- The search for timed-out frames has passed the first `k` slots after `head`, and the head
has moved past the first `e` of them. -/
structure Scanning (rx : TidAmpduRx) (head e k : Nat) : Prop where
  kept : Kept rx
  moved : rx.headSeqNum = (head + e) % 4096
  begun : 1 ≤ k
  first : rx.reorderBuf (rx.slot head 0) = []
  empty : ∀ l < e, rx.reorderBuf (rx.slot head l) = []
  notReady : ∀ l < k, complete (rx.reorderBuf (rx.slot head l)) = false

variable {head e : Nat}

/-- What the slots passed over hold is given up, none of which is complete. -/
theorem Scanning.purge (scanning : Scanning rx head e k) (bound : k < rx.bufSize) :
    ∃ buf, rx.purgeBetween (rx.slot head k) rx.bufSize (rx.slot head 1) =
        rx.withBuf buf ∧
      Kept (rx.withBuf buf) ∧ (∀ l < k, buf (rx.slot head l) = []) ∧
      buf (rx.slot head k) = rx.reorderBuf (rx.slot head k) := by
  have begun := scanning.begun
  obtain ⟨buf, purged, gone, others⟩ :=
    purgeBetween_eq scanning.kept.size head bound rx.bufSize 1 begun (by omega)
  have kept (l : Nat) (less : l < rx.bufSize) (notPurged : ¬ (1 ≤ l ∧ l < k)) :
      buf (rx.slot head l) = rx.reorderBuf (rx.slot head l) := by
    refine others _ fun l' from' upTo same => notPurged ?_
    rw [slot_injective less (by omega) same]
    exact ⟨from', upTo⟩
  have change_ (i : Nat) (less : i < rx.bufSize) :
      buf i = rx.reorderBuf i ∨ (buf i = [] ∧ complete (rx.reorderBuf i) = false) := by
    obtain ⟨l, inside, rfl⟩ := exists_slot scanning.kept.size head less
    by_cases isPurged : 1 ≤ l ∧ l < k
    · exact .inr ⟨gone l isPurged.1 isPurged.2, scanning.notReady l isPurged.2⟩
    · exact .inl (kept l inside isPurged)
  refine ⟨buf, purged, ?_, ?_, kept k bound (by omega)⟩
  · refine ⟨⟨scanning.kept.size.divides, scanning.kept.size.small⟩, scanning.kept.headLt,
      scanning.kept.unfiltered, ?_, ?_⟩
    · intro l less f held
      change f ∈ buf (rx.slot rx.headSeqNum l) at held
      rcases change_ _ (scanning.kept.size.slot_lt rx.headSeqNum l) with same | ⟨none, -⟩
      · rw [same] at held
        exact scanning.kept.windowed l less f held
      · rw [none] at held
        cases held
    · refine scanning.kept.counted.trans (marked_congr fun i less => ?_)
      change complete (rx.reorderBuf i) = complete (buf i)
      rcases change_ i less with same | ⟨none, incomplete⟩
      · rw [same]
      · rw [none, incomplete]
        rfl
  · intro l less
    rcases Nat.eq_zero_or_pos l with rfl | positive
    · rw [kept 0 (by omega) (by omega)]
      exact scanning.first
    · exact gone l positive less

/-- Skipping a slot that is not ready. -/
theorem Scanning.skip (scanning : Scanning rx head e k)
    (notReady : complete (rx.reorderBuf (rx.slot head k)) = false) :
    Scanning rx head e (k + 1) where
  kept := scanning.kept
  moved := scanning.moved
  begun := by omega
  first := scanning.first
  empty := scanning.empty
  notReady l less := by
    rcases Nat.lt_succ_iff_lt_or_eq.mp less with before | rfl
    · exact scanning.notReady l before
    · exact notReady

variable (hz jiffies) in
/-- The search goes over the whole window at most, and moves the head past what it releases. -/
theorem Scanning.releaseTimedOut {skipped : Nat} (fuel : Nat)
    (scanning : Scanning rx head e k) (sum : e + skipped = k) (bound : k ≤ rx.bufSize)
    (enough : rx.bufSize - k < fuel) :
    ∃ n, e + n ≤ rx.bufSize ∧
      Kept (releaseTimedOut hz jiffies (rx.slot head 0) fuel (rx.slot head k) skipped rx).1 ∧
      Moves rx n (releaseTimedOut hz jiffies (rx.slot head 0) fuel (rx.slot head k) skipped rx).1
        (releaseTimedOut hz jiffies (rx.slot head 0) fuel (rx.slot head k) skipped rx).2.1 := by
  have stays : ∃ n, e + n ≤ rx.bufSize ∧ Kept rx ∧ Moves rx n rx [] :=
    ⟨0, by omega, scanning.kept, .refl scanning.kept.headLt⟩
  induction fuel generalizing rx e k skipped with
  | zero => omega
  | succ fuel ih =>
    have small := scanning.kept.size.small
    have begun := scanning.begun
    rw [TidAmpduRx.releaseTimedOut]
    split
    · exact stays
    next further =>
    have inside : k < rx.bufSize := by
      refine Nat.lt_of_le_of_ne bound fun last => further ?_
      rw [last, slot, slot, Nat.add_mod_right, Nat.add_zero]
    have next : (rx.slot head k + 1) % rx.bufSize = rx.slot head (k + 1) := by
      rw [slot, slot, Nat.mod_add_mod, Nat.add_assoc]
    rw [scanning.kept.reorderReady, next]
    split
    · next notReady =>
        rw [Bool.not_eq_true] at notReady
        exact ih (scanning.skip notReady) (by omega) (by omega) (by omega) stays
    next ready =>
    split
    · exact stays
    have start : (rx.slot head 0 + 1) % rx.bufSize = rx.slot head 1 := by
      rw [slot, slot, Nat.mod_add_mod, Nat.add_assoc]
    obtain ⟨buf, purged, kept, gone, here⟩ := scanning.purge inside
    have asHead : (rx.withBuf buf).slot (rx.withBuf buf).headSeqNum skipped =
        rx.slot head k := by
      change rx.slot rx.headSeqNum skipped = _
      rw [scanning.moved, scanning.kept.size.slot_mod, slot_add, sum]
    have empty : ∀ l < skipped,
        (rx.withBuf buf).reorderBuf ((rx.withBuf buf).slot (rx.withBuf buf).headSeqNum l) =
          [] := by
      intro l less
      change buf (rx.slot rx.headSeqNum l) = []
      rw [scanning.moved, scanning.kept.size.slot_mod, slot_add]
      exact gone (e + l) (by omega)
    have kept' := kept.released (by change skipped < rx.bufSize; omega) empty
    have moves := kept.moves_released (k := skipped) (by change skipped < rx.bufSize; omega)
    rw [asHead] at kept' moves
    have scanning' : Scanning ((rx.withBuf buf).released (rx.slot head k) skipped) head
        (k + 1) (k + 1) := by
      have gone' : ∀ l < k + 1, update buf (rx.slot head k) [] (rx.slot head l) = [] := by
        intro l less
        rcases Nat.lt_succ_iff_lt_or_eq.mp less with before | rfl
        · by_cases same : rx.slot head l = rx.slot head k
          · rw [same, update_self]
          · rw [update_of_ne same]
            exact gone l before
        · exact update_self _ _ _
      refine ⟨kept', ?_, by omega, gone' 0 (by omega), gone', fun l less => ?_⟩
      · change (rx.headSeqNum + skipped + 1) % 4096 = _
        rw [scanning.moved]
        omega
      · change complete (update buf (rx.slot head k) [] (rx.slot head l)) = false
        rw [gone' l less]
        rfl
    have sum' : k + 1 + 0 = k + 1 := rfl
    obtain ⟨n, total, kept'', rest⟩ := ih scanning' sum' inside
      (by change rx.bufSize - (k + 1) < fuel; omega)
      ⟨0, by change k + 1 + 0 ≤ rx.bufSize; omega, kept', .refl kept'.headLt⟩
    change k + 1 + n ≤ rx.bufSize at total
    have first : Moves rx (skipped + 1) ((rx.withBuf buf).released (rx.slot head k) skipped)
        ((rx.withBuf buf).readyFrames (rx.slot head k)) :=
      moves.congr rfl rfl rfl rfl rfl rfl
    rw [start, purged]
    dsimp only
    rw [releaseReorderFrame_eq kept.unfiltered]
    dsimp only
    have next' : (rx.slot head k + 1) %
        ((rx.withBuf buf).released (rx.slot head k) 0).bufSize = rx.slot head (k + 1) := next
    rw [released_skip, next']
    exact ⟨skipped + 1 + n, by omega, kept'', first.trans rest (by omega)⟩

end TidAmpduRx

end Iwlwifi
