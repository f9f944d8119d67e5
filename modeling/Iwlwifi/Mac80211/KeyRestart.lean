import Iwlwifi.Mac80211.KeyTailroom

/-!
# The tailroom counters over runs with restarts

Everything but the restart keeps the counters exact (`Book.step`).  A restart counts the keys of
each interface again, in the order of `local->interfaces`; every turn writes the counter of its
interface and of its VLAN interfaces, so the last of the turns that write a counter decides what
it holds (`reconfig_spec`).
-/

namespace Iwlwifi.Keys

open Lib

variable {ι σ κ : Type*} [DecidableEq ι] [DecidableEq κ]
variable {l : Local ι} {env : Env σ κ} {s s' : State ι σ κ} {surplus : ι → Int}

/-! ## Which turn is the last -/

/-- The turn of `i` writes the counter of `j`. -/
def cleared (l : Local ι) (i j : ι) : Bool :=
  j = i || l.type i = .ap && l.master j = some i

theorem cleared_iff {i j : ι} : cleared l i j = true ↔ i = j ∨ l.master j = some i := by
  unfold cleared
  constructor
  · intro writes
    simp only [Bool.or_eq_true, Bool.and_eq_true, decide_eq_true_eq] at writes
    rcases writes with rfl | ⟨-, vlan⟩
    · exact .inl rfl
    · exact .inr vlan
  · rintro (rfl | vlan)
    · simp
    · simp [vlan, type_master vlan]

omit [DecidableEq κ] in
/-- The last of the members that meet a condition comes after the others. -/
theorem idxOf_le_of_getLast?_filter {p : ι → Bool} {is : List ι} (nodup : is.Nodup) {w i : ι}
    (last : (is.filter p).getLast? = some w) (member : i ∈ is) (meets : p i = true) :
    is.idxOf i ≤ is.idxOf w := by
  induction is using List.reverseRecOn with
  | nil => cases member
  | append_singleton is x ih =>
    have fresh : x ∉ is := by
      have := (List.nodup_append.mp nodup).2.2
      intro within
      exact this x within x (List.mem_singleton_self x) rfl
    by_cases here : p x = true
    · rw [List.filter_append, List.filter_singleton, here] at last
      obtain rfl : x = w := by simpa using last
      rw [List.idxOf_append_of_notMem fresh, List.idxOf_cons_self]
      have := List.idxOf_lt_length_of_mem member
      simp only [List.length_append, List.length_singleton] at this
      omega
    · rw [List.filter_append, List.filter_singleton] at last
      have last' : (is.filter p).getLast? = some w := by simpa [here] using last
      have member' : i ∈ is := by
        rcases List.mem_append.mp member with old | new
        · exact old
        · rw [List.mem_singleton.mp new] at meets
          exact absurd meets here
      have within : w ∈ is := List.mem_of_mem_filter (List.mem_of_getLast? last')
      rw [List.idxOf_append_of_mem member', List.idxOf_append_of_mem within]
      exact ih (List.nodup_append.mp nodup).1 last' member'

/-! ## One turn -/

/-- What a key adds to the counters at a restart. -/
def share (l : Local ι) (env : Env σ κ) (s : State ι σ κ) (k : κ) : Nat :=
  (needsAfter l env k (s.keys k)).toNat + (stale l env k (s.keys k)).toNat

theorem reenableKey_eq (l : Local ι) (env : Env σ κ) (s : State ι σ κ) (k : κ) :
    reenableKey l env s k =
      (s.setKeyAt k (offered l env k (s.keys k))).shift l (s.keys k).sdata
        (share l env s k) := by
  unfold reenableKey
  rw [increment_eq_shift, enable_eq]
  unfold State.shift
  congr 1
  funext j
  show s.neededCnt j + _ + _ = s.neededCnt j + _
  rw [Int.add_assoc, ← cover_add]
  congr 1
  refine cover_congr (fun i => ?_) j
  unfold only share
  dsimp only
  split
  · push_cast
    omega
  · rfl

/-- Some keys of one interface are counted again. -/
structure Recounted (l : Local ι) (env : Env σ κ) (s s' : State ι σ κ) (i : ι) (keys : List κ) :
    Prop where
  kept : Kept s s'
  key : ∀ k, s'.keys k = if k ∈ keys then offered l env k (s.keys k) else s.keys k
  count : ∀ j, s'.neededCnt j = s.neededCnt j + cover l (only i (weigh (share l env s) keys)) j

theorem recounted_foldl (env : Env σ κ) (i : ι) {keys : List κ} (s : State ι σ κ)
    (nodup : keys.Nodup) (home : ∀ k ∈ keys, (s.keys k).sdata = i) :
    Recounted l env s (keys.foldl (reenableKey l env) s) i keys := by
  induction keys generalizing s with
  | nil =>
    refine ⟨Kept.refl s, fun k => by simp, fun j => ?_⟩
    rw [cover_only]
    split <;> simp
  | cons k keys ih =>
    obtain ⟨fresh, nodup⟩ := List.nodup_cons.mp nodup
    have other : ∀ k' ∈ keys, k' ≠ k := by
      rintro k' within rfl
      exact fresh within
    have first := reenableKey_eq l env s k
    have same : ∀ k', k' ≠ k → (reenableKey l env s k).keys k' = s.keys k' := by
      intro k' ne
      rw [first]
      exact setKeyAt_keys_of_ne s ne _
    have rest := ih (reenableKey l env s k) nodup fun k' within => by
      rw [same k' (other k' within)]
      exact home k' (List.mem_cons_of_mem k within)
    have kept : Kept s (reenableKey l env s k) := by
      rw [first]
      exact (kept_setKeyAt s k (offered_ident k (s.keys k))).trans ⟨rfl, rfl, rfl, fun _ => rfl⟩
    refine ⟨kept.trans rest.kept, fun k' => ?_, fun j => ?_⟩
    · rw [List.foldl_cons, rest.key]
      by_cases here : k' = k
      · subst here
        rw [if_neg fresh, if_pos List.mem_cons_self, first]
        exact setKeyAt_keys_self s k' _
      · rw [same k' here]
        simp [here]
    · have shares : weigh (share l env (reenableKey l env s k)) keys =
          weigh (share l env s) keys :=
        weigh_congr fun k' within => by
          rw [share, share, same k' (other k' within)]
      have here : (reenableKey l env s k).neededCnt j =
          s.neededCnt j + cover l (only i (share l env s k)) j := by
        rw [first, home k List.mem_cons_self]
        rfl
      rw [List.foldl_cons, rest.count, shares, here, weigh_cons, Int.add_assoc, ← cover_add]
      congr 1
      refine cover_congr (fun i' => ?_) j
      unfold only
      split
      · push_cast
        rfl
      · rfl

/-- What the keys of an interface add to its counters at a restart. -/
def load (l : Local ι) (env : Env σ κ) (s : State ι σ κ) (i : ι) : Int :=
  (weigh (share l env s) (s.keyList i) : Nat)

/-- The turns of some interfaces. -/
structure Restarted (l : Local ι) (env : Env σ κ) (s s' : State ι σ κ) (is : List ι) : Prop where
  links : Links l s'
  keyList : s'.keyList = s.keyList
  key : ∀ k, s'.keys k = if ∃ i ∈ is, k ∈ s.keyList i then offered l env k (s.keys k) else s.keys k
  pending : ∀ j, (∃ i ∈ is, cleared l i j = true) → s'.pendingDec j = 0
  count : ∀ j w, (is.filter fun i => cleared l i j).getLast? = some w →
    s'.neededCnt j = load l env s w

/-- The turn of one interface. -/
structure Turn (l : Local ι) (env : Env σ κ) (s s' : State ι σ κ) (i : ι) : Prop where
  links : Links l s'
  keyList : s'.keyList = s.keyList
  key : ∀ k, s'.keys k = if k ∈ s.keyList i then offered l env k (s.keys k) else s.keys k
  pending : ∀ j, s'.pendingDec j = if cleared l i j = true then 0 else s.pendingDec j
  count : ∀ j, s'.neededCnt j = if cleared l i j = true then load l env s i else s.neededCnt j

theorem turn_reenableKeys (links : Links l s) (env : Env σ κ) (i : ι) :
    Turn l env s (reenableKeys l env s i) i := by
  have again : reenableKeys l env s i =
      (s.keyList i).foldl (reenableKey l env) (resetTailroomNeedCount l s i) := by
    unfold reenableKeys
    dsimp only
    split
    · rfl
    · rename_i off
      rw [links.running (by simpa using off)]
      rfl
  have home : ∀ k ∈ s.keyList i, ((resetTailroomNeedCount l s i).keys k).sdata = i :=
    fun k within => links.sdata within
  obtain ⟨kept, key, count⟩ := recounted_foldl env i (resetTailroomNeedCount l s i)
    (links.nodup i) home
  rw [again]
  generalize (s.keyList i).foldl (reenableKey l env) (resetTailroomNeedCount l s i) = s'
    at kept key count ⊢
  have kept' : Kept { s with pendingDec := s'.pendingDec } s' :=
    ⟨kept.keyList, kept.slot, rfl, kept.ident⟩
  have links' : Links l { s with pendingDec := s'.pendingDec } :=
    ⟨links.nodup, links.sdata, links.slot, links.op, links.running⟩
  refine ⟨links'.kept kept' fun {k} linked up => ?_, kept.keyList, key, fun j => ?_, fun j => ?_⟩
  · rw [key] at up
    split at up
    · exact op_of_offered_uploaded (links.op linked) up
    · exact links.op linked up
  · rw [kept.pendingDec]
    rfl
  · rw [count, cover_only]
    show (if cleared l i j = true then 0 else s.neededCnt j) + _ = _
    have same : weigh (share l env (resetTailroomNeedCount l s i)) (s.keyList i) =
        weigh (share l env s) (s.keyList i) := rfl
    by_cases writes : cleared l i j = true
    · have either := cleared_iff.mp writes
      rw [if_pos writes, if_pos writes, same, load]
      by_cases here : j = i
      · rw [if_pos here]
        omega
      · have vlan := either.resolve_left (Ne.symm here)
        rw [if_neg here, if_pos ⟨type_master vlan, vlan⟩]
        omega
    · have neither := not_or.mp (mt cleared_iff.mpr writes)
      rw [if_neg writes, if_neg writes, if_neg (Ne.symm neither.1),
        if_neg fun both => neither.2 both.2]
      omega

theorem restarted_foldl (links : Links l s) {is : List ι} (nodup : is.Nodup) :
    Restarted l env s (is.foldl (reenableKeys l env) s) is := by
  induction is using List.reverseRecOn with
  | nil => exact ⟨links, rfl, fun k => by simp, fun j => by simp, nofun⟩
  | append_singleton is i ih =>
    have before := ih (List.nodup_append.mp nodup).1
    have fresh : i ∉ is := by
      intro within
      exact (List.nodup_append.mp nodup).2.2 i within i (List.mem_singleton_self i) rfl
    rw [List.foldl_append, List.foldl_cons, List.foldl_nil]
    generalize is.foldl (reenableKeys l env) s = s₁ at before ⊢
    have turn := turn_reenableKeys before.links env i
    generalize reenableKeys l env s₁ i = s₂ at turn ⊢
    -- the keys of this interface have not had their turn
    have same : ∀ k ∈ s.keyList i, s₁.keys k = s.keys k := by
      intro k within
      rw [before.key, if_neg]
      rintro ⟨i', member, within'⟩
      rw [← links.sdata within, links.sdata within'] at fresh
      exact fresh member
    refine ⟨turn.links, turn.keyList.trans before.keyList, fun k => ?_, fun j some => ?_,
      fun j w last => ?_⟩
    · rw [turn.key, before.keyList]
      by_cases here : k ∈ s.keyList i
      · rw [if_pos here, if_pos ⟨i, by simp, here⟩, same k here]
      · rw [if_neg here, before.key]
        congr 1
        simp [here, or_and_right, exists_or]
    · rw [turn.pending]
      split
      · rfl
      · rename_i other
        refine before.pending j ?_
        obtain ⟨i', member, writes⟩ := some
        rcases List.mem_append.mp member with old | new
        · exact ⟨i', old, writes⟩
        · rw [List.mem_singleton.mp new] at writes
          exact absurd writes other
    · rw [turn.count]
      rw [List.filter_append, List.filter_singleton] at last
      split
      · rename_i writes
        obtain rfl : i = w := by simpa [writes] using last
        have shares :
            weigh (share l env s₁) (s.keyList i) = weigh (share l env s) (s.keyList i) :=
          weigh_congr fun k within => by
            unfold share
            rw [same k within]
        rw [load, load, before.keyList, shares]
      · rename_i other
        exact before.count j w (by simpa [other] using last)

/-! ## The whole restart -/

/-- The keys of an interface that the restart counts although they stay marked as uploaded. -/
def staleKeys (l : Local ι) (env : Env σ κ) (s : State ι σ κ) (i : ι) : Nat :=
  (s.keyList i).countP fun k => stale l env k (s.keys k)

/-- The keys of an interface that need tailroom after the restart. -/
def softwareKeys (l : Local ι) (env : Env σ κ) (s : State ι σ κ) (i : ι) : Nat :=
  (s.keyList i).countP fun k => needsAfter l env k (s.keys k)

/-- No key of an access point or a station interface is stale.  Of a VLAN interface that is up and
its access point, the one that has its turn first has no key that will need tailroom, and the other
no stale key, unless the one number makes up for the other. -/
def RestartExact (l : Local ι) (env : Env σ κ) (s : State ι σ κ) : Prop :=
  ∀ i, match l.master i with
    | some a =>
      if l.interfaces.idxOf a < l.interfaces.idxOf i then
        staleKeys l env s i = softwareKeys l env s a
      else staleKeys l env s a = softwareKeys l env s i
    | none => staleKeys l env s i = 0

omit [DecidableEq ι] [DecidableEq κ] in
theorem load_eq (l : Local ι) (env : Env σ κ) (s : State ι σ κ) (i : ι) :
    load l env s i = softwareKeys l env s i + staleKeys l env s i := by
  unfold load share softwareKeys staleKeys
  rw [weigh_add, countP_eq_weigh, countP_eq_weigh]
  push_cast
  rfl

theorem own_restarted {s' : State ι σ κ}
    (done : Restarted l env s s' l.interfaces) (i : ι) :
    own s' i = softwareKeys l env s i := by
  have none : s'.pendingDec i = 0 := done.pending i ⟨i, l.all i, by simp [cleared]⟩
  have needs : (s'.keyList i).countP (fun k => (s'.keys k).needsTailroom) =
      softwareKeys l env s i := by
    rw [done.keyList]
    refine List.countP_congr fun k within => ?_
    rw [done.key, if_pos ⟨i, l.all i, within⟩, offered_needsTailroom]
  rw [own, none, needs]
  omega

/-- The turn that decides what the counter of an interface holds. -/
def lastTurn (l : Local ι) (j : ι) : ι :=
  match l.master j with
  | some a => if l.interfaces.idxOf a < l.interfaces.idxOf j then j else a
  | none => j

theorem getLast?_cleared (l : Local ι) (j : ι) :
    (l.interfaces.filter fun i => cleared l i j).getLast? = some (lastTurn l j) := by
  have self : j ∈ l.interfaces.filter fun i => cleared l i j :=
    List.mem_filter.mpr ⟨l.all j, by simp [cleared]⟩
  have last := List.getLast?_eq_some_getLast (List.ne_nil_of_mem self)
  generalize (l.interfaces.filter fun i => cleared l i j).getLast _ = w at last
  have writes := cleared_iff.mp (List.mem_filter.mp (List.mem_of_getLast? last)).2
  have after : ∀ {i}, cleared l i j = true → l.interfaces.idxOf i ≤ l.interfaces.idxOf w :=
    fun {i} writes => idxOf_le_of_getLast?_filter l.once last (l.all i) writes
  rw [last, lastTurn]
  congr 1
  split
  · rename_i a vlan
    have master : cleared l a j = true := cleared_iff.mpr (.inr vlan)
    have here : cleared l j j = true := cleared_iff.mpr (.inl rfl)
    rcases writes with rfl | vlan'
    · split
      · rfl
      · rename_i behind
        have := after master
        exact (List.idxOf_inj (l.all w)).mp (by omega)
    · obtain rfl : a = w := Option.some.inj (vlan.symm.trans vlan')
      split
      · rename_i ahead
        have := after here
        omega
      · rfl
  · rename_i other
    exact writes.resolve_right fun vlan => nomatch other.symm.trans vlan

theorem reconfig_exact_iff (links : Links l s) (env : Env σ κ) :
    (∀ j, (reconfig l env s).neededCnt j = cover l (own (reconfig l env s)) j) ↔
      RestartExact l env s := by
  have done : Restarted l env s (reconfig l env s) l.interfaces := restarted_foldl links l.once
  have wanted : ∀ j, cover l (own (reconfig l env s)) j =
      cover l (fun i => (softwareKeys l env s i : Int)) j :=
    fun j => cover_congr (own_restarted done) j
  refine forall_congr' fun j => ?_
  rw [wanted, done.count j _ (getLast?_cleared l j), load_eq, lastTurn, cover]
  cases l.master j with
  | some a =>
    dsimp only
    split <;> omega
  | none =>
    dsimp only
    omega

/-! ## Runs -/

variable [DecidableEq σ]

/-- What a step must find for the counters to stay exact. -/
def Recounts (l : Local ι) (s : State ι σ κ) : Env σ κ × Op ι σ κ → Prop
  | (env, .reconfig) => RestartExact l env s
  | _ => True

/-- Every counter is what it should be. -/
abbrev Booked (l : Local ι) (s : State ι σ κ) : Prop := Book l s fun _ => 0

omit [DecidableEq ι] [DecidableEq κ] [DecidableEq σ] in
theorem Book.exact (book : Booked l s) (i : ι) : Exact l s i :=
  exact_of_eq ((book.count i).trans (cover_congr (fun _ => Int.add_zero _) i))

omit [DecidableEq σ] in
theorem links_reconfig (links : Links l s) (env : Env σ κ) : Links l (reconfig l env s) :=
  (restarted_foldl links l.once).links

/-- Everything but the restart keeps the counters exact. -/
theorem Book.step (book : Booked l s) (e : Env σ κ × Op ι σ κ) (recounts : Recounts l s e) :
    Booked l (step l s e) := by
  obtain ⟨env, op⟩ := e
  cases op with
  | keyLink k conf sdata sta =>
    show Booked l (if _ then _ else _)
    split
    · rename_i allowed
      exact book.keyLinked env conf sta (fun i => allowed.2 i (l.all i)) allowed.1
    · exact book
  | keyFree k delayTailroom =>
    show Booked l (if _ then _ else _)
    split
    · rename_i linked
      exact book.freed env linked delayTailroom
    · exact book
  | freeStaKeys sta => exact book.staKeysFreed env sta
  | freeKeys sdata => exact book.keysFreed env sdata
  | delayedTailroomDec sdata => exact book.decremented sdata
  | resumeDisconnect sdata => exact book.tainted sdata
  | reconfig =>
    refine ⟨links_reconfig book.links env, fun j => ?_⟩
    refine ((reconfig_exact_iff book.links env).mpr recounts j).trans ?_
    exact cover_congr (fun i => (Int.add_zero _).symm) j

theorem recounts_of_exact (book : Booked l s) (e : Env σ κ × Op ι σ κ)
    (exact : ∀ i, Exact l (Keys.step l s e) i) : Recounts l s e := by
  obtain ⟨env, op⟩ := e
  cases op with
  | reconfig => exact (reconfig_exact_iff book.links env).mp fun j => (exact j).eq
  | _ => trivial

omit [DecidableEq ι] [DecidableEq κ] [DecidableEq σ] in
theorem booked_init (l : Local ι) (keys : κ → Key ι σ) (ptkIdx : σ → Nat) :
    Booked l (State.init keys ptkIdx) where
  links := ⟨fun _ => List.nodup_nil, nofun, nofun, nofun, fun _ => rfl⟩
  count := by
    intro j
    have none : ∀ i, own (State.init keys ptkIdx) i + 0 = 0 := fun i => rfl
    rw [cover_congr none, cover]
    split <;> rfl

/-- The tailroom counters are exact in every state of a run if and only if every restart of the
run finds no key that it counts twice, or forgets, for one of the interfaces. -/
theorem tailroom_exact_iff (l : Local ι) (keys : κ → Key ι σ) (ptkIdx : σ → Nat)
    (events : List (Env σ κ × Op ι σ κ)) :
    (∀ before, before <+: events →
        ∀ i, Exact l (before.foldl (step l) (State.init keys ptkIdx)) i) ↔
      Admissible (step l) (Recounts l) (State.init keys ptkIdx) events :=
  @forall_reached_iff_of_invariant _ _ (step l) (Recounts l) (Booked l) (State.init keys ptkIdx)
    events (fun s => ∀ i, Exact l s i) (fun _ book => book.exact)
    (fun _ e book recounts => book.step e recounts)
    (fun _ e book exact => recounts_of_exact book e exact) (booked_init l keys ptkIdx)

/-- An access point and a VLAN interface of it, and hardware that takes no keys. -/
def apAndVlan : Local Bool where
  type vlan := if vlan then .apVlan false else .ap
  interfaces := [false, true]
  running _ := true
  setKeyOp := false
  supportsPerStaGtk := false
  swCryptoControl := false
  masterIsAp := by decide
  once := by decide
  all := by decide

/-- The access point gets a group key, and the hardware is restarted. -/
def groupKeyThenRestart : List (Env Unit Unit × Op Bool Unit Unit) :=
  let env : Env Unit Unit := { setKey := fun _ => (0, {}), staUploaded := fun _ => false }
  [(env, .keyLink () { keyidx := 1, pairwise := false, cipher := .ccmp, key := [1] } false none),
    (env, .reconfig)]

def noKeys : State Bool Unit Unit :=
  State.init
    (fun _ => {
      sdata := false
      sta := none
      conf := { keyidx := 0, pairwise := false, cipher := .ccmp, key := [] } })
    fun _ => 0

/-- After the restart the VLAN interface does not count the key of its access point: its counter
is zero although the key needs tailroom. -/
theorem not_tailroom_exact :
    (groupKeyThenRestart.foldl (step apAndVlan) noKeys).neededCnt true = 0 ∧
      ¬ ∀ i, Exact apAndVlan (groupKeyThenRestart.foldl (step apAndVlan) noKeys) i := by
  have zero : (groupKeyThenRestart.foldl (step apAndVlan) noKeys).neededCnt true = 0 := by
    decide +kernel
  refine ⟨zero, fun exact => ?_⟩
  have idle := (exact true).master rfl zero () (by decide +kernel)
  revert idle
  decide +kernel

end Iwlwifi.Keys
