import Mathlib.Data.List.Chain
import Iwlwifi.Lib.Run
import Iwlwifi.Mac80211.CcmpRound
import Iwlwifi.Mac80211.Defragment

/-!
# What is put together belongs together

`Reassembled` says that a frame was put together from the fragments of one frame.  The cache
checks the protection of later fragments only through the packet number that the key they select
has stored, so it is kept by runs whose fragments meet `FragmentKept`: a later fragment is
protected as the first one was, and under the same key object.
-/

namespace Iwlwifi

open Function (update update_of_ne update_self)

open Lib
/-! ## Fragments of one frame -/

def Skb.header (skb : Skb) : List UInt8 := skb.take skb.hdrlen

def Skb.body (skb : Skb) : List UInt8 := skb.drop skb.hdrlen

namespace Arrival

def protect (f : Arrival) : Bool := ieee80211HasProtected f.skb.frameControl

/-- The index of the packet numbers that a fragment is checked against. -/
def securityIdx (f : Arrival) : Nat :=
  if f.queue < 16 then f.queue else if f.skb.ftype = 0 then 16 else 0

/-- A fragment continues another under the same key, with the next packet number. -/
def Continues (f g : Arrival) : Prop :=
  ∃ key p q, f.key = some key ∧ g.key = some key ∧ f.pn = some p ∧ g.pn = some q ∧
    q.value = p.value + 1

end Arrival

/-- Fragments of one frame: numbered from 0 on, of one sequence number, transmitter, receiver,
type and queue, received in this order, all unprotected or all under one key. -/
structure Together (first : Arrival) (rest : List Arrival) : Prop where
  numbered : (first :: rest).map (·.skb.frag) = List.range (rest.length + 1)
  seq : ∀ f ∈ rest, f.skb.seq = first.skb.seq
  transmitter : ∀ f ∈ rest, f.skb.addr2 = first.skb.addr2
  receiver : ∀ f ∈ rest, f.skb.addr1 = first.skb.addr1
  type : ∀ f ∈ rest, f.skb.ftype = first.skb.ftype
  queue : ∀ f ∈ rest, f.queue = first.queue
  inOrder : (first :: rest).Pairwise fun f g => f.time < g.time
  protection : (∀ f ∈ first :: rest, f.protect = false) ∨
    ((∀ f ∈ first :: rest, f.protect = true) ∧ (first :: rest).IsChain Arrival.Continues)

/-- A frame and the fragments it was put together from. -/
def Reassembled (out : Skb × List Arrival) : Prop :=
  ∃ first rest, out.2 = first :: rest ∧ Together first rest ∧
    out.1 = first.skb.header ++ ((first :: rest).map (·.skb.body)).flatten

variable {first f : Arrival} {rest : List Arrival}

theorem Together.single (number : first.skb.frag = 0) : Together first [] where
  numbered := congrArg (fun n => [n]) number
  seq := nofun
  transmitter := nofun
  receiver := nofun
  type := nofun
  queue := nofun
  inOrder := List.pairwise_singleton _ _
  protection := by
    cases protect : first.protect with
    | false =>
        refine .inl fun f member => ?_
        rwa [List.mem_singleton.mp member]
    | true =>
        refine .inr ⟨fun f member => ?_, .singleton _⟩
        rwa [List.mem_singleton.mp member]

theorem reassembled_single (number : first.skb.frag = 0) : Reassembled (first.skb, [first]) := by
  refine ⟨first, [], rfl, .single number, ?_⟩
  change first.skb = first.skb.header ++ [first.skb.body].flatten
  rw [List.flatten_cons, List.flatten_nil, List.append_nil, Skb.header, Skb.body,
    List.take_append_drop]

theorem Reassembled.not_mixed {out : Skb × List Arrival} (reassembled : Reassembled out)
    (sealed : ∃ f ∈ out.2, f.protect = true) : ¬ ∃ f ∈ out.2, f.protect = false := by
  obtain ⟨first, rest, fragments, together, -⟩ := reassembled
  rw [fragments] at sealed ⊢
  obtain ⟨f, member, isSealed⟩ := sealed
  rintro ⟨g, member', isPlain⟩
  rcases together.protection with plain | ⟨protect, -⟩
  · rw [plain f member] at isSealed
    cases isSealed
  · rw [protect g member'] at isPlain
    cases isPlain

/-- A further fragment. -/
structure Joins (first : Arrival) (rest : List Arrival) (f : Arrival) : Prop where
  number : f.skb.frag = rest.length + 1
  seq : f.skb.seq = first.skb.seq
  transmitter : f.skb.addr2 = first.skb.addr2
  receiver : f.skb.addr1 = first.skb.addr1
  type : f.skb.ftype = first.skb.ftype
  queue : f.queue = first.queue
  later : ∀ g ∈ first :: rest, g.time < f.time
  protect : f.protect = first.protect
  continues : first.protect = true → ∀ last ∈ (first :: rest).getLast?, last.Continues f

theorem Together.join (together : Together first rest) (joins : Joins first rest f) :
    Together first (rest ++ [f]) := by
  have split {p : Arrival → Prop} (old : ∀ g ∈ rest, p g) (new : p f) : ∀ g ∈ rest ++ [f], p g := by
    intro g member
    rcases List.mem_append.mp member with inRest | isNew
    · exact old g inRest
    · rwa [List.mem_singleton.mp isNew]
  refine ⟨?_, split together.seq joins.seq, split together.transmitter joins.transmitter,
    split together.receiver joins.receiver, split together.type joins.type,
    split together.queue joins.queue, ?_, ?_⟩
  · rw [← List.cons_append, List.map_append, together.numbered, List.length_append]
    exact (congrArg (List.range (rest.length + 1) ++ [·]) joins.number).trans
      List.range_succ.symm
  · rw [← List.cons_append]
    refine List.pairwise_append.mpr ⟨together.inOrder, List.pairwise_singleton _ _, ?_⟩
    intro g old h isNew
    rw [List.mem_singleton.mp isNew]
    exact joins.later g old
  · rw [← List.cons_append]
    rcases together.protection with plain | ⟨sealed, chain⟩
    · refine .inl fun g member => ?_
      rcases List.mem_append.mp member with old | isNew
      · exact plain g old
      · rw [List.mem_singleton.mp isNew, joins.protect]
        exact plain first List.mem_cons_self
    · have isSealed := sealed first List.mem_cons_self
      refine .inr ⟨fun g member => ?_, ?_⟩
      · rcases List.mem_append.mp member with old | isNew
        · exact sealed g old
        · rw [List.mem_singleton.mp isNew, joins.protect]
          exact isSealed
      · refine List.isChain_append.mpr ⟨chain, .singleton f, fun last isLast g isNew => ?_⟩
        rw [← Option.mem_some.mp isNew]
        exact joins.continues isSealed last isLast

/-! ## Decryption -/

section Decrypt

variable {objects : KeyObjects} {keys : Nat → CcmpKey} {rx : RxData} {key : Nat}

/-- Stored packet numbers never go back. -/
theorem decrypt_rxPn_le (objects : KeyObjects) (keys : Nat → CcmpKey) (rx : RxData) (k idx : Nat) :
    ((keys k).rxPn idx).value ≤
      (((ieee80211RxHDecrypt objects keys rx).keys k).rxPn idx).value := by
  rw [ieee80211RxHDecrypt]
  split
  · exact Nat.le_refl _
  · exact Nat.le_refl _
  next key _ =>
  split
  · exact Nat.le_refl _
  split
  · by_cases this_ : k = key
    · subst this_
      dsimp only
      rw [update_self]
      have forward (stored : (pnDecrypt (pnNonce (objects.cipher k)) (objects.aead k) objects.stack
            rx.cipherRx (keys k)).key.rxPn =
              update (keys k).rxPn rx.cipherRx.securityIdx rx.cipherRx.skb.pn)
          (le : ((keys k).rxPn rx.cipherRx.securityIdx).value ≤ rx.cipherRx.skb.pn.value) :
          ((keys k).rxPn idx).value ≤ ((pnDecrypt (pnNonce (objects.cipher k)) (objects.aead k)
            objects.stack rx.cipherRx (keys k)).key.rxPn idx).value := by
        rw [stored]
        by_cases here : idx = rx.cipherRx.securityIdx
        · rw [here, update_self]
          exact le
        · rw [update_of_ne here]
      rcases pnDecrypt_cases (pnNonce (objects.cipher k)) (objects.aead k) objects.stack
          rx.cipherRx (keys k) with ⟨-, same, -⟩ | ⟨-, same⟩ | ⟨stored, le, -⟩
      · rw [same]
      · rw [same]
      · exact forward stored le
    · dsimp only
      rw [update_of_ne this_]
  · exact Nat.le_refl _

/-- A frame that CCMP or GCMP has let through, with its packet number checked. -/
structure Checked (objects : KeyObjects) (keys : Nat → CcmpKey) (rx : RxData) (key : Nat) :
    Prop where
  selected : (ieee80211RxHDecrypt objects keys rx).key = some key
  hasPn : (objects.cipher key).hasPn = true
  stored : ((ieee80211RxHDecrypt objects keys rx).keys key).rxPn (ieee80211ParseQos rx.skb).2 =
    rx.skb.pn
  header : (ieee80211RxHDecrypt objects keys rx).skb.take rx.skb.hdrlen =
    rx.skb.take rx.skb.hdrlen
  type : ieee80211IsData rx.skb.frameControl = true ∨ ieee80211IsMgmt rx.skb.frameControl = true

theorem checked_of_pnChecked (accepted : (ieee80211RxHDecrypt objects keys rx).result = .cont)
    (checked : pnChecked objects rx = some key) : Checked objects keys rx key := by
  rw [pnChecked] at checked
  split at checked
  · next chosen selection =>
      rw [Option.ite_none_right_eq_some, Option.some.injEq] at checked
      obtain ⟨conditions, rfl⟩ := checked
      rw [Bool.and_eq_true, Bool.and_eq_true, Bool.or_eq_true, Bool.not_eq_true'] at conditions
      obtain ⟨⟨hasPn, unvalidated⟩, looked⟩ := conditions
      rw [ieee80211RxHDecrypt, selection] at accepted
      dsimp only at accepted
      split at accepted
      · cases accepted
      next untainted =>
      have out : ieee80211RxHDecrypt objects keys rx =
          ⟨(pnDecrypt (pnNonce (objects.cipher chosen)) (objects.aead chosen) objects.stack
              rx.cipherRx (keys chosen)).result, some chosen,
            (pnDecrypt (pnNonce (objects.cipher chosen)) (objects.aead chosen) objects.stack
              rx.cipherRx (keys chosen)).skb,
            update keys chosen (pnDecrypt (pnNonce (objects.cipher chosen)) (objects.aead chosen)
              objects.stack rx.cipherRx (keys chosen)).key⟩ := by
        rw [ieee80211RxHDecrypt, selection]
        dsimp only
        rw [if_neg untainted, if_pos hasPn]
      have type : ieee80211IsData rx.skb.frameControl = true ∨
          ieee80211IsMgmt rx.skb.frameControl = true := by
        rcases looked with data | robust
        · exact .inl data
        · exact .inr (ieee80211IsMgmt_of_isRobustMgmtFrame robust)
      rcases pnDecrypt_cases (pnNonce (objects.cipher chosen)) (objects.aead chosen)
          objects.stack rx.cipherRx (keys chosen) with
        ⟨-, -, validated⟩ | ⟨dropped, -⟩ | ⟨stored, -, ⟨dropped, -⟩ | ⟨-, header, -⟩⟩
      · have contradiction := validated looked
        rw [show rx.cipherRx.status.pnValidated = false from unvalidated] at contradiction
        cases contradiction
      · rw [dropped] at accepted
        cases accepted
      · rw [dropped] at accepted
        cases accepted
      · refine ⟨congrArg DecryptOut.key out, hasPn, ?_, ?_, type⟩
        · rw [out]
          dsimp only
          rw [update_self, stored]
          exact update_self _ _ _
        · rw [out]
          exact header
  · cases checked

end Decrypt

/-! ## The cache -/

/-- What an entry with fragments holds. -/
structure Holding (entry : FragmentEntry) (keys : Nat → CcmpKey) (now : Nat) (first : QueuedSkb)
    (rest : List QueuedSkb) : Prop where
  together : Together first.arrival (rest.map (·.arrival))
  lastFrag : entry.lastFrag = rest.length
  seq : entry.seq = first.arrival.skb.seq
  rxQueue : entry.rxQueue = first.arrival.queue
  past : ∀ f ∈ first :: rest, f.arrival.time < now
  firstData : first.data = first.arrival.skb
  restData : ∀ f ∈ rest, f.data = f.arrival.skb.body
  check : entry.checkSequentialPn = first.arrival.protect
  lastPn : first.arrival.protect = true → ∃ key, first.arrival.key = some key ∧
    (∀ last ∈ ((first :: rest).map (·.arrival)).getLast?,
      last.key = some key ∧ last.pn = some entry.lastPn) ∧
    entry.lastPn.value ≤ ((keys key).rxPn first.arrival.securityIdx).value

/-- The invariant of an entry. -/
def EntryKept (keys : Nat → CcmpKey) (now : Nat) (entry : FragmentEntry) : Prop :=
  ∀ first rest, entry.skbList = first :: rest → Holding entry keys now first rest

theorem entryKept_nil {entry : FragmentEntry} {keys : Nat → CcmpKey} {now : Nat}
    (none : entry.skbList = []) : EntryKept keys now entry := by
  intro first rest some_
  rw [none] at some_
  cases some_

variable {keys keys' : Nat → CcmpKey} {now now' : Nat} {entry : FragmentEntry}

theorem EntryKept.mono (kept : EntryKept keys now entry) (later : now ≤ now')
    (forward : ∀ k idx, ((keys k).rxPn idx).value ≤ ((keys' k).rxPn idx).value) :
    EntryKept keys' now' entry := by
  intro first rest list
  have holding := kept first rest list
  refine { holding with past := ?_, lastPn := ?_ }
  · exact fun f member => (holding.past f member).trans_le later
  · intro protect
    obtain ⟨key, selected, last, le⟩ := holding.lastPn protect
    exact ⟨key, selected, last, le.trans (forward key _)⟩

/-- The search only purges entries, and finds one that waits. -/
theorem reassembleFindFrom_spec {hz jiffies frag seq rxQueue : Nat} {hdr : Skb} (fuel : Nat)
    (idx : Nat) (fragments : Nat → FragmentEntry) :
    (∀ i, (reassembleFindFrom hz jiffies frag seq rxQueue hdr fuel idx fragments).1 i =
        fragments i ∨
      ((reassembleFindFrom hz jiffies frag seq rxQueue hdr fuel idx fragments).1 i).skbList =
        []) ∧
    ∀ found ∈ (reassembleFindFrom hz jiffies frag seq rxQueue hdr fuel idx fragments).2,
      ((reassembleFindFrom hz jiffies frag seq rxQueue hdr fuel idx fragments).1 found).waitsFor
        frag seq rxQueue hdr = true := by
  induction fuel generalizing idx fragments with
  | zero => exact ⟨fun i => .inl rfl, nofun⟩
  | succ fuel ih =>
      rw [reassembleFindFrom]
      generalize (if idx = 0 then 3 else idx - 1) = idx'
      split
      · next waits =>
          split
          · obtain ⟨same, finds⟩ := ih idx'
              (update fragments idx' { fragments idx' with skbList := [] })
            refine ⟨fun i => ?_, finds⟩
            rcases same i with kept | purged
            · by_cases here : i = idx'
              · right
                rw [kept, here, update_self]
              · left
                rw [kept, update_of_ne here]
            · exact .inr purged
          · refine ⟨fun i => .inl rfl, fun found isFound => ?_⟩
            rw [← Option.mem_some.mp isFound]
            exact waits
      · exact ih idx' fragments

/-- What the search compares. -/
theorem FragmentEntry.waitsFor_spec {frag seq rxQueue : Nat} {hdr : Skb}
    (waits : entry.waitsFor frag seq rxQueue hdr = true) :
    ∃ first rest, entry.skbList = first :: rest ∧ entry.seq = seq ∧ entry.rxQueue = rxQueue ∧
      entry.lastFrag + 1 = frag ∧ hdr.ftype = first.data.ftype ∧
      hdr.addr1 = first.data.addr1 ∧ hdr.addr2 = first.data.addr2 := by
  rw [waitsFor] at waits
  split at waits
  · cases waits
  · next first head =>
      obtain ⟨rest, list⟩ := List.head?_eq_some_iff.mp head
      simp only [Bool.and_eq_true, beq_iff_eq] at waits
      obtain ⟨⟨⟨⟨⟨seq, queue⟩, frag⟩, type⟩, addr1⟩, addr2⟩ := waits
      exact ⟨first, rest, list, seq, queue, frag, type, addr1, addr2⟩

variable {cache : FragmentCache} {arrival : Arrival} {idx : Nat} {head : QueuedSkb}
  {tail : List QueuedSkb}

/-- The bodies behind the first fragment, with one more. -/
theorem flatten_data (firstData : head.data = head.arrival.skb)
    (restData : ∀ f ∈ tail, f.data = f.arrival.skb.body) (body : List UInt8) :
    ((head :: tail).map (·.data)).flatten ++ body =
      head.arrival.skb.header ++
        (((head :: tail).map (·.arrival)).map (·.skb.body)).flatten ++ body := by
  have bodies : tail.map (·.data) = (tail.map (·.arrival)).map (·.skb.body) := by
    rw [List.map_map]
    exact List.map_congr_left restData
  rw [List.map_cons, List.map_cons, List.map_cons, List.flatten_cons, List.flatten_cons,
    firstData, bodies, Skb.header, ← List.append_assoc, Skb.body, List.take_append_drop]

/-- Defragmentation leaves entries that hold what they should, and puts out frames in order. -/
structure OutKept (keys : Nat → CcmpKey) (now : Nat) (out : DefragOut) : Prop where
  entries : ∀ i, EntryKept keys now (out.cache.fragments i)
  outputs : ∀ frame ∈ out.output, Reassembled frame

theorem outKept_nothing {result : RxResult}
    (entries : ∀ i, EntryKept keys now (cache.fragments i)) :
    OutKept keys now ⟨result, none, cache⟩ :=
  ⟨entries, fun _ isOut => absurd isOut (Option.not_mem_none _)⟩

/-- A fragment that joins an entry. -/
theorem addToEntry_kept {lastPn : Pn} {expandFails : Bool}
    (kept : ∀ i, EntryKept keys now (cache.fragments i))
    (list : (cache.fragments idx).skbList = head :: tail)
    (joins : Joins head.arrival (tail.map (·.arrival)) arrival)
    (present : arrival.time = now) (whole : arrival.skb.hdrlen ≤ arrival.skb.length)
    (pn : head.arrival.protect = true → ∃ key, head.arrival.key = some key ∧
      arrival.key = some key ∧ arrival.pn = some lastPn ∧
      lastPn.value ≤ ((keys key).rxPn head.arrival.securityIdx).value) :
    OutKept keys (now + 1) (addToEntry cache idx arrival lastPn expandFails) := by
  have holding := kept idx head tail list
  have together := holding.together.join joins
  have pulled : arrival.skb.pull arrival.skb.hdrlen = arrival.skb.body := by
    rw [Skb.pull, if_neg (by omega)]
    rfl
  have others {entry : FragmentEntry} (new : EntryKept keys (now + 1) entry) :
      ∀ i, EntryKept keys (now + 1) (update cache.fragments idx entry i) := by
    intro i
    by_cases here : i = idx
    · rw [here, update_self]
      exact new
    · rw [update_of_ne here]
      exact (kept i).mono (Nat.le_succ now) fun _ _ => Nat.le_refl _
  rw [addToEntry]
  dsimp only
  rw [list, pulled]
  split
  · refine outKept_nothing (others fun first rest same => ?_)
    have longer : head :: (tail ++ [⟨arrival.skb.body, arrival⟩]) = first :: rest := same
    obtain ⟨rfl, rfl⟩ := List.cons.inj longer
    refine ⟨?_, ?_, holding.seq, holding.rxQueue, ?_, holding.firstData, ?_, holding.check, ?_⟩
    · rw [List.map_append]
      exact together
    · have number := joins.number
      rw [List.length_map] at number
      rw [List.length_append]
      exact number
    · intro f member
      rw [← List.cons_append] at member
      rcases List.mem_append.mp member with old | new
      · exact (holding.past f old).trans (Nat.lt_succ_self now)
      · rw [List.mem_singleton.mp new]
        exact present.trans_lt (Nat.lt_succ_self now)
    · intro f member
      rcases List.mem_append.mp member with old | new
      · exact holding.restData f old
      · rw [List.mem_singleton.mp new]
    · intro protect
      obtain ⟨key, selected, own, isLast, le⟩ := pn protect
      refine ⟨key, selected, ?_, le⟩
      rw [← List.cons_append, List.map_append, List.map_singleton, List.getLast?_append,
        List.getLast?_singleton]
      intro last same
      rw [← Option.mem_some.mp same]
      exact ⟨own, isLast⟩
  split
  · exact outKept_nothing (others (entryKept_nil rfl))
  · refine ⟨others (entryKept_nil rfl), fun out isOut => ?_⟩
    rw [← Option.mem_some.mp isOut]
    refine ⟨head.arrival, tail.map (·.arrival) ++ [arrival], ?_, together, ?_⟩
    · exact List.map_append
    · dsimp only
      rw [List.map_append, List.flatten_append, List.map_singleton, List.flatten_singleton,
        flatten_data holding.firstData holding.restData, List.append_assoc, ← List.cons_append,
        List.map_append, List.flatten_append, List.map_singleton, List.flatten_singleton]
      rfl

/-! ## Frames -/

namespace RxInterface

variable {objects : KeyObjects} {hz : Nat} {s : RxInterface} {rx : RxData}

/-- The entry that a later fragment is added to, by its first fragment. -/
def pendingFirst (hz : Nat) (s : RxInterface) (rx : RxData) (arrival : Arrival) :
    Option QueuedSkb :=
  let found := ieee80211ReassembleFind s.cache hz rx.jiffies arrival.skb.frag arrival.skb.seq
    arrival.queue arrival.skb
  found.2.bind fun idx => (found.1.fragments idx).skbList.head?

/-- The condition on a frame that decryption lets through and that is not a control frame: a
group-addressed one has no fragment number; a fragment has its whole header and, if it is
protected, is one whose packet number CCMP or GCMP has just checked; and one that is added to an
entry is protected as its first fragment was, under the same key object. -/
def FragmentKept (objects : KeyObjects) (hz : Nat) (s : RxInterface) (rx : RxData) : Prop :=
  let f := s.arrival objects rx
  (ieee80211RxHDecrypt objects s.keys rx).result = .cont →
    ieee80211IsCtl f.skb.frameControl = false →
    (f.skb.multicast = true → f.skb.frag = 0) ∧
    (f.skb.multicast = false → ieee80211HasMorefrags f.skb.frameControl = true ∨ f.skb.frag ≠ 0 →
      f.skb.hdrlen ≤ f.skb.length ∧ (f.protect = true → f.pn.isSome = true) ∧
      (f.skb.frag ≠ 0 → ∀ first ∈ s.pendingFirst hz rx f,
        f.protect = first.arrival.protect ∧ (f.protect = true → f.key = first.arrival.key)))

/-- The invariant of a run. -/
structure Tracked (s : RxInterface) : Prop where
  entries : ∀ i, EntryKept s.keys s.frames (s.cache.fragments i)
  outputs : ∀ out ∈ s.outputs, Reassembled out

/-- A protected fragment whose packet number was checked has it stored in its key. -/
theorem arrival_checked (accepted : (ieee80211RxHDecrypt objects s.keys rx).result = .cont)
    (hasPn : (s.arrival objects rx).pn.isSome = true) :
    ∃ key, (s.arrival objects rx).key = some key ∧ (objects.cipher key).hasPn = true ∧
      (s.arrival objects rx).pn = some
        (((ieee80211RxHDecrypt objects s.keys rx).keys key).rxPn (ieee80211ParseQos rx.skb).2) ∧
      (s.arrival objects rx).securityIdx = (ieee80211ParseQos rx.skb).2 := by
  rw [arrival, Option.isSome_map] at hasPn
  obtain ⟨key, isChecked⟩ := Option.isSome_iff_exists.mp hasPn
  have checked := checked_of_pnChecked accepted isChecked
  refine ⟨key, checked.selected, checked.hasPn, ?_, ?_⟩
  · rw [checked.stored, arrival, isChecked]
    rfl
  · have header : 24 ≤ rx.skb.hdrlen := le_hdrlen checked.type
    have front : (ieee80211RxHDecrypt objects s.keys rx).skb.take 24 = rx.skb.take 24 := by
      have cut := congrArg (List.take 24) checked.header
      rwa [List.take_take, List.take_take, Nat.min_eq_left header] at cut
    have fc : (ieee80211RxHDecrypt objects s.keys rx).skb.frameControl = rx.skb.frameControl := by
      rw [Skb.frameControl, Skb.frameControl, Skb.byte_eq_of_take _ front (by decide),
        Skb.byte_eq_of_take 1 front (by decide)]
    rw [Arrival.securityIdx, arrival]
    dsimp only
    rw [Skb.ftype, fc, ieee80211ParseQos]
    split
    · rw [if_pos]
      rw [Skb.tid, UInt8.toNat_and]
      exact Nat.lt_succ_of_le Nat.and_le_right
    · rw [if_neg (Nat.lt_irrefl 16), ieee80211IsMgmt]
      simp only [beq_iff_eq]
      rfl

/-- The first fragment of a frame takes an entry. -/
theorem reassembleAdd_kept {keys : Nat → CcmpKey} {cache : FragmentCache} {f : Arrival}
    {now queue jiffies : Nat} {pn : Option Pn}
    (entries : ∀ i, EntryKept keys now (cache.fragments i)) (present : f.time = now)
    (number : f.skb.frag = 0) (sameQueue : queue = f.queue) (check : pn.isSome = f.protect)
    (known : f.protect = true → ∃ key p, f.key = some key ∧ f.pn = some p ∧ pn = some p ∧
      p.value ≤ ((keys key).rxPn f.securityIdx).value) (i : Nat) :
    EntryKept keys (now + 1) ((ieee80211ReassembleAdd cache f.skb.frag f.skb.seq queue jiffies
      ⟨f.skb, f⟩ pn).fragments i) := by
  rw [ieee80211ReassembleAdd]
  dsimp only
  by_cases here : i = cache.fragmentNext
  · rw [here, update_self]
    intro first rest list
    obtain ⟨rfl, rfl⟩ := List.cons.inj list
    refine ⟨.single number, number, rfl, sameQueue, ?_, rfl, nofun, check, fun protect => ?_⟩
    · intro g member
      rw [List.mem_singleton.mp member]
      exact present.trans_lt (Nat.lt_succ_self now)
    · obtain ⟨key, p, selected, own, rfl, le⟩ := known protect
      refine ⟨key, selected, ?_, le⟩
      intro last same
      rw [← Option.mem_some.mp same]
      exact ⟨selected, own⟩
  · rw [update_of_ne here]
    exact (entries i).mono (Nat.le_succ now) fun _ _ => Nat.le_refl _

theorem pnValue_ofNat (n : Nat) : (Pn.ofNat n).value = n % 2 ^ 48 := by
  simp only [Pn.value, Pn.ofNat, bigEndian, UInt8.toNat_ofNat', List.length_cons, List.length_nil]
  omega

/-- The packet number after the last fragment's, with no wrap. -/
theorem value_next {p q : Pn} (next : p.next = q) (le : p.value ≤ q.value) :
    q.value = p.value + 1 := by
  have bound : p.value < 2 ^ 48 := by
    have := bigEndian_lt p.bytes
    rw [p.length_eq] at this
    exact this
  have low : q.value = (p.value + 1) % 2 ^ 48 := by
    rw [← next, Pn.next, pnValue_ofNat]
  omega

section Defragment

variable {keys : Nat → CcmpKey} {f : Arrival}

/-- A packet number that was checked is the one stored in the key of the frame. -/
def StoredPn (objects : KeyObjects) (keys : Nat → CcmpKey) (rx : RxData) (f : Arrival) : Prop :=
  f.pn.isSome = true → ∃ key, f.key = some key ∧ (objects.cipher key).hasPn = true ∧
    f.pn = some ((keys key).rxPn (ieee80211ParseQos rx.skb).2) ∧
    f.securityIdx = (ieee80211ParseQos rx.skb).2

/-- The packet number that the first fragment leaves in its entry. -/
def firstPn (objects : KeyObjects) (keys : Nat → CcmpKey) (rx : RxData) (f : Arrival) :
    Option Pn :=
  if ieee80211HasProtected f.skb.frameControl then
    (f.key.filter fun key => (objects.cipher key).hasPn).map fun key =>
      (keys key).rxPn (ieee80211ParseQos rx.skb).2
  else none

theorem firstPn_of_protected (stored : StoredPn objects keys rx f) (protect : f.protect = true)
    (checked : f.pn.isSome = true) :
    ∃ key p, f.key = some key ∧ f.pn = some p ∧ firstPn objects keys rx f = some p ∧
      p.value ≤ ((keys key).rxPn f.securityIdx).value := by
  obtain ⟨key, selected, hasPn, own, idx⟩ := stored checked
  refine ⟨key, _, selected, own, ?_, ?_⟩
  · rw [Arrival.protect] at protect
    rw [firstPn, protect, selected, Option.filter_some, if_pos hasPn]
    rfl
  · rw [idx]

theorem isSome_firstPn (stored : StoredPn objects keys rx f)
    (checked : f.protect = true → f.pn.isSome = true) :
    (firstPn objects keys rx f).isSome = f.protect := by
  cases protect : f.protect with
  | false =>
      rw [Arrival.protect] at protect
      rw [firstPn, protect]
      rfl
  | true =>
      obtain ⟨key, p, -, -, first, -⟩ := firstPn_of_protected stored protect (checked protect)
      rw [first]
      rfl

/-- A frame without a fragment number is handed on, or the first fragment of one. -/
theorem defragment_first (stored : StoredPn objects keys rx f)
    (entries : ∀ i, EntryKept keys s.frames (s.cache.fragments i)) (present : f.time = s.frames)
    (number : f.skb.frag = 0)
    (checked : ieee80211IsCtl f.skb.frameControl = false → f.skb.multicast = false →
      ieee80211HasMorefrags f.skb.frameControl = true → f.protect = true → f.pn.isSome = true) :
    OutKept keys (s.frames + 1) (ieee80211RxHDefragment objects hz s.cache rx keys f) := by
  have same : ∀ i, EntryKept keys (s.frames + 1) (s.cache.fragments i) := fun i =>
    (entries i).mono (Nat.le_succ _) fun _ _ => Nat.le_refl _
  have single : OutKept keys (s.frames + 1) ⟨.cont, some (f.skb, [f]), s.cache⟩ := by
    refine ⟨same, fun out isOut => ?_⟩
    rw [← Option.mem_some.mp isOut]
    exact reassembled_single number
  rw [ieee80211RxHDefragment]
  dsimp only
  split
  · exact outKept_nothing same
  next notCtl =>
  split
  · exact single
  next unicast =>
  split
  · exact single
  next isFragment =>
  rw [Bool.not_eq_true] at notCtl unicast
  have more : ieee80211HasMorefrags f.skb.frameControl = true := by
    rw [number] at isFragment
    simpa using isFragment
  have fits := checked notCtl unicast more
  split
  · exact outKept_nothing same
  refine outKept_nothing fun i => ?_
  exact reassembleAdd_kept entries present number rfl (isSome_firstPn stored fits)
    (fun protect => firstPn_of_protected stored protect (fits protect)) i

/-- A later fragment joins the entry that waits for it, or is dropped. -/
theorem defragment_later (stored : StoredPn objects keys rx f)
    (entries : ∀ i, EntryKept keys s.frames (s.cache.fragments i)) (present : f.time = s.frames)
    (number : f.skb.frag ≠ 0)
    (fits : ieee80211IsCtl f.skb.frameControl = false → f.skb.multicast = false ∧
      f.skb.hdrlen ≤ f.skb.length ∧ (f.protect = true → f.pn.isSome = true) ∧
      ∀ first ∈ s.pendingFirst hz rx f,
        f.protect = first.arrival.protect ∧ (f.protect = true → f.key = first.arrival.key)) :
    OutKept keys (s.frames + 1) (ieee80211RxHDefragment objects hz s.cache rx keys f) := by
  have same : ∀ i, EntryKept keys (s.frames + 1) (s.cache.fragments i) := fun i =>
    (entries i).mono (Nat.le_succ _) fun _ _ => Nat.le_refl _
  rw [ieee80211RxHDefragment]
  dsimp only
  split
  · exact outKept_nothing same
  next notCtl =>
  obtain ⟨unicast, whole, checked, later⟩ := fits (Bool.not_eq_true _ ▸ notCtl)
  have isFragment : ¬ (!ieee80211HasMorefrags f.skb.frameControl && f.skb.frag == 0) = true := by
    simp [number]
  rw [if_neg (by simp [unicast]), if_neg isFragment]
  split
  · exact outKept_nothing same
  rw [pendingFirst] at later
  have spec := @reassembleFindFrom_spec hz rx.jiffies f.skb.frag f.skb.seq f.queue f.skb 4
    s.cache.fragmentNext s.cache.fragments
  have purged : ∀ i, EntryKept keys s.frames ((ieee80211ReassembleFind s.cache hz rx.jiffies
      f.skb.frag f.skb.seq f.queue f.skb).1.fragments i) := by
    intro i
    rcases spec.1 i with same | none
    · have kept' : (ieee80211ReassembleFind s.cache hz rx.jiffies f.skb.frag f.skb.seq f.queue
          f.skb).1.fragments i = s.cache.fragments i := same
      rw [kept']
      exact entries i
    · exact entryKept_nil none
  have finds : ∀ found ∈ (ieee80211ReassembleFind s.cache hz rx.jiffies f.skb.frag f.skb.seq
      f.queue f.skb).2, ((ieee80211ReassembleFind s.cache hz rx.jiffies f.skb.frag f.skb.seq
        f.queue f.skb).1.fragments found).waitsFor f.skb.frag f.skb.seq f.queue f.skb =
          true := spec.2
  generalize ieee80211ReassembleFind s.cache hz rx.jiffies f.skb.frag f.skb.seq f.queue
    f.skb = found at *
  have mono : ∀ i, EntryKept keys (s.frames + 1) (found.1.fragments i) := fun i =>
    (purged i).mono (Nat.le_succ _) fun _ _ => Nat.le_refl _
  split
  · exact outKept_nothing mono
  next idx isFound =>
  obtain ⟨head, tail, list, seq, queue, frag, type, addr1, addr2⟩ :=
    FragmentEntry.waitsFor_spec (finds idx isFound)
  have holding := purged idx head tail list
  rw [holding.firstData] at type addr1 addr2
  obtain ⟨protect, sameKey⟩ := later head (by rw [isFound, Option.bind_some, list]; rfl)
  have joins (continues : head.arrival.protect = true →
      ∀ last ∈ ((head :: tail).map (·.arrival)).getLast?, last.Continues f) :
      Joins head.arrival (tail.map (·.arrival)) f := by
    refine ⟨?_, seq.symm.trans holding.seq, addr2, addr1, type,
      queue.symm.trans holding.rxQueue, ?_, protect, continues⟩
    · rw [List.length_map, ← holding.lastFrag]
      exact frag.symm
    · intro g member
      rw [← List.map_cons (f := fun q : QueuedSkb => q.arrival)] at member
      obtain ⟨q, inList, rfl⟩ := List.mem_map.mp member
      exact (holding.past q inList).trans_eq present.symm
  split
  · next check =>
      rw [holding.check] at check
      have isProtected := protect.trans check
      obtain ⟨key, selected, hasPn, own, idx'⟩ := stored (checked isProtected)
      obtain ⟨key', selected', isLast, le⟩ := holding.lastPn check
      obtain rfl : key = key' := by
        rw [sameKey isProtected, selected'] at selected
        exact (Option.some.inj selected).symm
      have sameIdx : head.arrival.securityIdx = (ieee80211ParseQos rx.skb).2 := by
        rw [← idx', Arrival.securityIdx, Arrival.securityIdx, type, ← holding.rxQueue, queue]
      split
      · exact outKept_nothing mono
      next key' isKey =>
      obtain rfl : key = key' := by
        rw [selected, Option.filter_some, if_pos hasPn] at isKey
        exact Option.some.inj isKey
      split
      · exact outKept_nothing mono
      next next =>
      rw [not_not] at next
      rw [sameIdx] at le
      refine addToEntry_kept purged list (joins fun _ last same => ?_) present
        whole fun _ => ⟨key, selected', selected, own.trans (by rw [next]), ?_⟩
      · obtain ⟨lastKey, lastPn⟩ := isLast last same
        exact ⟨key, _, _, lastKey, selected, lastPn, own, value_next next le⟩
      · rw [next, sameIdx]
  · next noCheck =>
      rw [holding.check] at noCheck
      exact addToEntry_kept purged list (joins fun check => absurd check noCheck) present whole
        fun check => absurd check noCheck

end Defragment

theorem defragment_kept (kept : FragmentKept objects hz s rx)
    (accepted : (ieee80211RxHDecrypt objects s.keys rx).result = .cont)
    (entries : ∀ i, EntryKept (ieee80211RxHDecrypt objects s.keys rx).keys s.frames
      (s.cache.fragments i)) :
    OutKept (ieee80211RxHDecrypt objects s.keys rx).keys (s.frames + 1)
      (ieee80211RxHDefragment objects hz s.cache rx (ieee80211RxHDecrypt objects s.keys rx).keys
        (s.arrival objects rx)) := by
  have fits := kept accepted
  have stored : StoredPn objects (ieee80211RxHDecrypt objects s.keys rx).keys rx
      (s.arrival objects rx) := arrival_checked accepted
  by_cases number : (s.arrival objects rx).skb.frag = 0
  · refine defragment_first stored entries rfl number fun notCtl unicast more => ?_
    exact ((fits notCtl).2 unicast (Or.inl more)).2.1
  · refine defragment_later stored entries rfl number fun notCtl => ?_
    obtain ⟨group, fragment⟩ := fits notCtl
    have unicast : (s.arrival objects rx).skb.multicast = false :=
      Bool.eq_false_iff.mpr fun multicast => number (group multicast)
    obtain ⟨whole, checked, joined⟩ := fragment unicast (Or.inr number)
    exact ⟨unicast, whole, checked, joined number⟩

/-! ## Runs -/

/-- A frame that meets the condition keeps the invariant. -/
theorem Tracked.step (tracked : Tracked s) (kept : FragmentKept objects hz s rx) :
    Tracked (s.step objects hz rx) := by
  rw [RxInterface.step]
  split
  · next accepted =>
      obtain ⟨entries, outputs⟩ := defragment_kept kept accepted fun i =>
        (tracked.entries i).mono (Nat.le_refl _) (decrypt_rxPn_le objects s.keys rx)
      refine ⟨entries, fun out member => ?_⟩
      rcases List.mem_append.mp member with old | new
      · exact tracked.outputs out old
      · exact outputs out (Option.mem_toList.mp new)
  · refine ⟨fun i => ?_, tracked.outputs⟩
    exact (tracked.entries i).mono (Nat.le_succ _) (decrypt_rxPn_le objects s.keys rx)

def emptyEntry : FragmentEntry where
  skbList := []
  firstFragTime := 0
  seq := 0
  lastFrag := 0
  rxQueue := 0
  checkSequentialPn := false
  lastPn := .ofNat 0

/-- An interface with an empty cache. -/
def init (keys : Nat → CcmpKey) : RxInterface where
  cache := ⟨fun _ => emptyEntry, 0⟩
  keys := keys
  frames := 0
  outputs := []

/-- Every frame put out by a run whose fragments meet the condition was put together from the
fragments of one frame. -/
theorem reassembled_of_fragmentKept (objects : KeyObjects) (hz : Nat) (keys : Nat → CcmpKey)
    (frames : List RxData)
    (run : Admissible (step objects hz) (FragmentKept objects hz) (init keys) frames) :
    ∀ out ∈ (frames.foldl (step objects hz) (init keys)).outputs, Reassembled out := by
  have start : Tracked (init keys) := ⟨fun _ => entryKept_nil rfl, nofun⟩
  exact (run.invariant (fun _ _ tracked kept => tracked.step kept) start).outputs

instance (objects : KeyObjects) (hz : Nat) (s : RxInterface) (rx : RxData) :
    Decidable (FragmentKept objects hz s rx) :=
  inferInstanceAs (Decidable (_ = RxResult.cont → _ = false → (_ = true → _ = 0) ∧
    (_ = false → _ = true ∨ _ ≠ 0 → _ ≤ _ ∧ (_ = true → _ = true) ∧
      (_ ≠ 0 → ∀ first ∈ pendingFirst _ _ _ _, _ = first.arrival.protect ∧
        (_ = true → _ = first.arrival.key)))))

/-- A station with one pairwise CCMP key. -/
def ccmpObjects : KeyObjects where
  cipher _ := .ccmp
  aead _ := loggedAead []
  stack := []
  otherDecrypt _ rx := (.dropUnusable, rx.skb)

/-- A data frame of that station, decrypted by the hardware if it is protected: the high byte of
its frame control, its sequence control and what follows the header. -/
def stationFrame (fc seqCtrl : UInt8) (payload : List UInt8) : RxData where
  skb := [0x08, fc, 0, 0, 2, 0, 0, 0, 0, 1, 2, 0, 0, 0, 0, 2, 2, 0, 0, 0, 0, 1, seqCtrl, 0] ++
    payload
  status := ⟨true, false, true, false, false⟩
  sta := some ⟨0, fun keyid => if keyid = 0 then some 0 else none, fun _ => none, none, false⟩
  sdataKeys _ := none
  defaultMgmtKey := none
  tainted _ := false
  jiffies := 0
  linearizeFails := false
  trimFails := false
  expandFails := false

/-- Two protected fragments with another frame before them. -/
def stationFrames : List RxData :=
  [stationFrame 0x41 0x40 [1, 0, 0, 0x20, 0, 0, 0, 0, 0xbb],
    stationFrame 0x45 0x50 [2, 0, 0, 0x20, 0, 0, 0, 0, 0xaa],
    stationFrame 0x41 0x51 [3, 0, 0, 0x20, 0, 0, 0, 0, 0xcc]]

theorem reassembled_stationFrames :
    Admissible (step ccmpObjects 250) (FragmentKept ccmpObjects 250)
        (init fun _ => exampleRxKey) stationFrames ∧
      ∀ out ∈ (stationFrames.foldl (step ccmpObjects 250) (init fun _ => exampleRxKey)).outputs,
        Reassembled out :=
  have kept : Admissible (step ccmpObjects 250) (FragmentKept ccmpObjects 250)
      (init fun _ => exampleRxKey) stationFrames := by decide +kernel
  ⟨kept, reassembled_of_fragmentKept ccmpObjects 250 (fun _ => exampleRxKey) stationFrames kept⟩

/-- A protected first fragment with packet number 1, another protected frame with packet number
2, and an unprotected second fragment are put together: the check compares the packet number
that the other frame has stored. -/
theorem not_reassembled_mixed :
    ¬ ∀ out ∈ ([stationFrame 0x45 0x50 [1, 0, 0, 0x20, 0, 0, 0, 0, 0xaa],
        stationFrame 0x41 0x60 [2, 0, 0, 0x20, 0, 0, 0, 0, 0xbb],
        stationFrame 0x01 0x51 [0xcc]].foldl (step ccmpObjects 250)
          (init fun _ => exampleRxKey)).outputs, Reassembled out := by
  intro reassembled
  have mixed : ∃ out ∈ ([stationFrame 0x45 0x50 [1, 0, 0, 0x20, 0, 0, 0, 0, 0xaa],
        stationFrame 0x41 0x60 [2, 0, 0, 0x20, 0, 0, 0, 0, 0xbb],
        stationFrame 0x01 0x51 [0xcc]].foldl (step ccmpObjects 250)
          (init fun _ => exampleRxKey)).outputs,
      (∃ f ∈ out.2, f.protect = true) ∧ ∃ f ∈ out.2, f.protect = false := by
    decide +kernel
  obtain ⟨out, member, sealed, plain⟩ := mixed
  exact (reassembled out member).not_mixed sealed plain

end RxInterface

end Iwlwifi
