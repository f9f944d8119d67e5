import Mathlib.Tactic.Common
import Iwlwifi.Lib.Run
import Iwlwifi.Lib.Tally
import Iwlwifi.Mac80211.Keys

/-!
# What the tailroom counters count

`neededCnt` of an interface should be the number of its keys that need tailroom, with those that
were removed but not yet discounted, and for a VLAN interface the same number for its access
point.  `Book l s surplus` says how far the counters are from that: they count what they should
and, for each interface, `surplus` keys more.  Every function moves the surplus by a known amount,
and what a user calls leaves it at zero.

Only the restart does not.  There each interface in turn clears its own counter and those of its
VLAN interfaces and counts its keys again, so that the counter of a VLAN interface ends with the
keys of one of the two only; and a key that the hardware had, but does not take again, is counted
although it stays marked as uploaded.
-/

namespace Iwlwifi.Keys

open Function (update update_eq_self update_of_ne update_self)

open Lib

variable {ι σ κ : Type*} {l : Local ι} {env : Env σ κ} {s s' : State ι σ κ} {surplus : ι → Int}

/-! ## What should be counted -/

/-- The keys of an interface that need tailroom, and those not yet discounted. -/
def own (s : State ι σ κ) (i : ι) : Int :=
  s.pendingDec i + (s.keyList i).countP fun k => (s.keys k).needsTailroom

/-- What a VLAN interface that is up counts is its own and its access point's. -/
def cover (l : Local ι) (f : ι → Int) (j : ι) : Int :=
  f j + match l.master j with
    | some master => f master
    | none => 0

/-- The counter of an interface is exact; so it is not negative, and zero only if no key needs
tailroom. -/
structure Exact (l : Local ι) (s : State ι σ κ) (i : ι) : Prop where
  eq : s.neededCnt i = cover l (own s) i
  nonneg : 0 ≤ s.neededCnt i
  none : s.neededCnt i = 0 → ∀ k ∈ s.keyList i, (s.keys k).needsTailroom = false
  master : ∀ {a}, l.master i = some a → s.neededCnt i = 0 →
    ∀ k ∈ s.keyList a, (s.keys k).needsTailroom = false

theorem type_master {v a : ι} (vlan : l.master v = some a) : l.type a = .ap := by
  unfold Local.master at vlan
  split at vlan
  · next type =>
      split at vlan
      · exact Option.some.inj vlan ▸ l.masterIsAp type
      · cases vlan
  · cases vlan

theorem cover_add (f g : ι → Int) (j : ι) :
    cover l (fun i => f i + g i) j = cover l f j + cover l g j := by
  unfold cover
  cases l.master j with
  | some master =>
    show f j + g j + (f master + g master) = f j + f master + (g j + g master)
    omega
  | none => simp only [Int.add_zero]

theorem cover_congr {f g : ι → Int} (same : ∀ i, f i = g i) (j : ι) :
    cover l f j = cover l g j := by
  rw [funext same]

theorem own_nonneg (s : State ι σ κ) (i : ι) : 0 ≤ own s i := by
  unfold own
  omega

theorem none_of_own_eq_zero {i : ι} (zero : own s i = 0) :
    ∀ k ∈ s.keyList i, (s.keys k).needsTailroom = false := by
  unfold own at zero
  have empty : (s.keyList i).countP (fun k => (s.keys k).needsTailroom) = 0 := by omega
  intro k within
  simpa using List.countP_eq_zero.mp empty k within

theorem exact_of_eq {i : ι} (eq : s.neededCnt i = cover l (own s) i) : Exact l s i := by
  have here := own_nonneg s i
  refine ⟨eq, ?_, fun zero => ?_, fun {a} vlan zero => ?_⟩
  · rw [eq]
    unfold cover
    split
    · rename_i a _
      have := own_nonneg s a
      omega
    · omega
  · rw [eq] at zero
    refine none_of_own_eq_zero ?_
    unfold cover at zero
    split at zero
    · rename_i a _
      have := own_nonneg s a
      omega
    · omega
  · rw [eq, cover, vlan] at zero
    have := own_nonneg s a
    exact none_of_own_eq_zero (by dsimp only at zero; omega)

/-! ## Links -/

/-- Every key on a list is a key of that interface, and a slot holds a key in use that belongs
there. -/
structure Links (l : Local ι) (s : State ι σ κ) : Prop where
  nodup : ∀ i, (s.keyList i).Nodup
  sdata : ∀ {i k}, k ∈ s.keyList i → (s.keys k).sdata = i
  slot : ∀ {at' k}, s.slot at' = some k → Linked s k ∧ (s.keys k).slot = at'
  op : ∀ {i k}, k ∈ s.keyList i → (s.keys k).uploaded = true → l.setKeyOp = true
  running : ∀ {i}, l.running i = false → s.keyList i = []

/-- What of a key never changes. -/
def Key.ident (key : Key ι σ) : ι × Option σ × KeyConf := (key.sdata, key.sta, key.conf)

theorem Key.slot_congr {key key' : Key ι σ} (same : key.ident = key'.ident) :
    key.slot = key'.slot := by
  obtain ⟨sdata, sta, conf, _, _, _⟩ := key
  obtain ⟨sdata', sta', conf', _, _, _⟩ := key'
  obtain ⟨rfl, rest⟩ := Prod.mk.inj same
  obtain ⟨rfl, rfl⟩ := Prod.mk.inj rest
  rfl

/-- A step that changes flags of keys and counters only. -/
structure Kept (s s' : State ι σ κ) : Prop where
  keyList : s'.keyList = s.keyList
  slot : s'.slot = s.slot
  pendingDec : s'.pendingDec = s.pendingDec
  ident : ∀ k, (s'.keys k).ident = (s.keys k).ident

theorem Kept.refl (s : State ι σ κ) : Kept s s := ⟨rfl, rfl, rfl, fun _ => rfl⟩

theorem Kept.trans {s'' : State ι σ κ} (first : Kept s s') (second : Kept s' s'') :
    Kept s s'' :=
  ⟨second.keyList.trans first.keyList, second.slot.trans first.slot,
    second.pendingDec.trans first.pendingDec, fun k => (second.ident k).trans (first.ident k)⟩

theorem Kept.sdata (kept : Kept s s') (k : κ) : (s'.keys k).sdata = (s.keys k).sdata :=
  congrArg Prod.fst (kept.ident k)

theorem Kept.linked (kept : Kept s s') (k : κ) : Linked s' k ↔ Linked s k := by
  rw [Linked, Linked, kept.keyList, kept.sdata]

variable {k : κ} {key : Key ι σ} {new : Option κ}

theorem Links.linked (links : Links l s) {i : ι} (within : k ∈ s.keyList i) : Linked s k := by
  rwa [Linked, links.sdata within]

theorem Links.kept (links : Links l s) (kept : Kept s s')
    (op : ∀ {k}, Linked s k → (s'.keys k).uploaded = true → l.setKeyOp = true) : Links l s' where
  nodup := by
    rw [kept.keyList]
    exact links.nodup
  sdata := by
    intro i k within
    rw [kept.keyList] at within
    rw [kept.sdata]
    exact links.sdata within
  slot := by
    intro at' k held
    rw [kept.slot] at held
    rw [kept.linked, Key.slot_congr (kept.ident k)]
    exact links.slot held
  op := by
    intro i k within up
    rw [kept.keyList] at within
    exact op (links.linked within) up
  running := by
    rw [kept.keyList]
    exact links.running

/-- The links are sound and every counter counts what it should, and `surplus` more. -/
structure Book (l : Local ι) (s : State ι σ κ) (surplus : ι → Int) : Prop where
  links : Links l s
  count : ∀ j, s.neededCnt j = cover l (fun i => own s i + surplus i) j

theorem Book.congr {surplus' : ι → Int} (book : Book l s surplus)
    (same : ∀ i, surplus i = surplus' i) : Book l s surplus' :=
  funext same ▸ book

/-! ## The counters -/

variable [DecidableEq ι]

/-- `n` at one interface. -/
def only (i : ι) (n : Int) (j : ι) : Int := if j = i then n else 0

@[simp] theorem only_self (i : ι) (n : Int) : only i n i = n := if_pos rfl

theorem only_of_ne {i j : ι} (other : j ≠ i) (n : Int) : only i n j = 0 := if_neg other

/-- `n` more for an interface and its VLAN interfaces. -/
def State.shift (l : Local ι) (s : State ι σ κ) (i : ι) (n : Int) : State ι σ κ :=
  { s with neededCnt := fun j => s.neededCnt j + cover l (only i n) j }

omit [DecidableEq ι] in
theorem not_master_self (i : ι) : l.master i ≠ some i := by
  intro vlan
  have ap := type_master vlan
  rw [Local.master, ap] at vlan
  cases vlan

theorem cover_only (i : ι) (n : Int) (j : ι) :
    cover l (only i n) j =
      if j = i then n else if l.type i = .ap ∧ l.master j = some i then n else 0 := by
  unfold cover only
  by_cases here : j = i
  · subst here
    rw [if_pos rfl, if_pos rfl]
    split
    · rename_i a vlan
      rw [if_neg]
      · omega
      · rintro rfl
        exact not_master_self a vlan
    · omega
  · rw [if_neg here, if_neg here]
    split
    · rename_i a vlan
      by_cases master : a = i
      · subst master
        rw [if_pos rfl, if_pos ⟨type_master vlan, vlan⟩]
        omega
      · rw [if_neg master, if_neg]
        · omega
        · rintro ⟨-, same⟩
          exact master (Option.some.inj (vlan.symm.trans same))
    · rename_i other
      rw [if_neg]
      · omega
      · exact fun both => nomatch other.symm.trans both.2

theorem shift_zero (s : State ι σ κ) (i : ι) : s.shift l i 0 = s := by
  have none : ∀ j, cover l (only i 0) j = 0 := by
    intro j
    rw [cover_only]
    split <;> simp
  simp [State.shift, none]

theorem shift_eq_update (s : State ι σ κ) (i : ι) (n : Int) :
    s.shift l i n =
      let s := updateVlanTailroomNeedCount l s i n
      { s with neededCnt := update s.neededCnt i (s.neededCnt i + n) } := by
  unfold State.shift updateVlanTailroomNeedCount
  simp only [cover_only]
  split
  · rename_i ap
    congr 1
    funext j
    by_cases here : j = i
    · subst here
      simp [not_master_self]
    · rw [update_of_ne here, if_neg here]
      split <;> simp_all
  · rename_i noAp
    congr 1
    funext j
    by_cases here : j = i
    · subst here
      simp
    · rw [update_of_ne here, if_neg here, if_neg fun both => noAp both.1]
      omega

theorem increment_eq_shift (s : State ι σ κ) (i : ι) :
    incrementTailroomNeedCount l s i = s.shift l i 1 :=
  (shift_eq_update s i 1).symm

theorem decrease_eq_shift (s : State ι σ κ) (i : ι) (n : Int) :
    decreaseTailroomNeedCount l s i n = s.shift l i (-n) :=
  (shift_eq_update s i (-n)).symm

theorem Book.shift (book : Book l s surplus) (i : ι) (n : Int) :
    Book l (s.shift l i n) fun j => surplus j + only i n j where
  links := book.links.kept ⟨rfl, rfl, rfl, fun _ => rfl⟩ fun linked => book.links.op linked
  count := by
    intro j
    have sum := cover_add (l := l) (fun i => own s i + surplus i) (only i n) j
    have regroup := cover_congr (l := l)
      (fun k => (Int.add_assoc (own s k) (surplus k) (only i n k)).symm) j
    show s.neededCnt j + cover l (only i n) j = cover l (fun k => own s k + (surplus k + _)) j
    rw [book.count, regroup, sum]

/-! ## One key -/

/-- What a key adds to the number that should be counted. -/
def Key.room (key : Key ι σ) : Int := (key.needsTailroom.toNat : Nat)

section

variable [DecidableEq κ]

omit [DecidableEq ι] in
@[simp] theorem setKeyAt_keys_self (s : State ι σ κ) (k : κ) (key : Key ι σ) :
    (s.setKeyAt k key).keys k = key :=
  update_self ..

omit [DecidableEq ι] in
theorem setKeyAt_keys_of_ne (s : State ι σ κ) {k k' : κ} (other : k' ≠ k) (key : Key ι σ) :
    (s.setKeyAt k key).keys k' = s.keys k' :=
  update_of_ne other ..

omit [DecidableEq ι] in
theorem needs_setKeyAt (s : State ι σ κ) (k : κ) (key : Key ι σ) :
    (fun k' => (((s.setKeyAt k key).keys k').needsTailroom.toNat)) =
      update (fun k' => (s.keys k').needsTailroom.toNat) k key.needsTailroom.toNat := by
  funext k'
  by_cases here : k' = k
  · subst here
    simp
  · simp [setKeyAt_keys_of_ne, here]

theorem own_setKeyAt (links : Links l s) (linked : Linked s k) (key : Key ι σ) (j : ι) :
    own (s.setKeyAt k key) j =
      own s j + only (s.keys k).sdata (key.room - (s.keys k).room) j := by
  unfold own
  simp only [countP_eq_weigh, needs_setKeyAt]
  show (s.pendingDec j : Int) + (weigh _ (s.keyList j) : Nat) = _
  by_cases here : j = (s.keys k).sdata
  · subst here
    have change := weigh_update (fun k' => (s.keys k').needsTailroom.toNat)
      (links.nodup (s.keys k).sdata) linked key.needsTailroom.toNat
    rw [only_self]
    unfold Key.room
    omega
  · have same : weigh (update (fun k' => (s.keys k').needsTailroom.toNat) k
        key.needsTailroom.toNat) (s.keyList j) =
        weigh (fun k' => (s.keys k').needsTailroom.toNat) (s.keyList j) := by
      refine weigh_congr fun k' within => ?_
      have other : k' ≠ k := by
        rintro rfl
        exact here (links.sdata within).symm
      rw [update_of_ne other]
    rw [only_of_ne here, same]
    omega

omit [DecidableEq ι] in
theorem kept_setKeyAt (s : State ι σ κ) (k : κ) (ident : key.ident = (s.keys k).ident) :
    Kept s (s.setKeyAt k key) where
  keyList := rfl
  slot := rfl
  pendingDec := rfl
  ident := by
    intro k'
    by_cases here : k' = k
    · subst here
      rw [setKeyAt_keys_self]
      exact ident
    · rw [setKeyAt_keys_of_ne s here]

/-- The flags of one key change. -/
theorem Book.setKeyAt (book : Book l s surplus) (linked : Linked s k)
    (ident : key.ident = (s.keys k).ident) (op : key.uploaded = true → l.setKeyOp = true) :
    Book l (s.setKeyAt k key) fun j =>
      surplus j - only (s.keys k).sdata (key.room - (s.keys k).room) j where
  links := by
    refine book.links.kept (kept_setKeyAt s k ident) fun {k'} linked' up => ?_
    by_cases here : k' = k
    · subst here
      rw [setKeyAt_keys_self] at up
      exact op up
    · rw [setKeyAt_keys_of_ne s here] at up
      exact book.links.op linked' up
  count := by
    intro j
    refine (book.count j).trans (cover_congr (fun i => ?_) j)
    rw [own_setKeyAt book.links linked key i]
    omega

/-- The flags of one key change, and the counters with them. -/
theorem Book.setKeyAt_shift (book : Book l s surplus) (linked : Linked s k)
    (ident : key.ident = (s.keys k).ident) (op : key.uploaded = true → l.setKeyOp = true)
    (n : Int) :
    Book l ((s.setKeyAt k key).shift l (s.keys k).sdata n) fun j =>
      surplus j + only (s.keys k).sdata (n - (key.room - (s.keys k).room)) j := by
  refine ((book.setKeyAt linked ident op).shift (s.keys k).sdata n).congr fun j => ?_
  unfold only
  split <;> omega

end

/-! ## Giving a key to the hardware and taking it back -/

section

omit [DecidableEq ι]

/-- The driver takes the key. -/
def taken (l : Local ι) (env : Env σ κ) (k : κ) (key : Key ι σ) : Bool :=
  !key.tainted && (refusal l env key).isNone && (env.setKey k).1 = 0

/-- The flags of a key after it was offered. -/
def flagsAfter (l : Local ι) (env : Env σ κ) (k : κ) (key : Key ι σ) : TailroomFlags :=
  if key.tainted || (refusal l env key).isSome then key.flags else (env.setKey k).2

/-- A key marked as uploaded, needing no tailroom, that is not taken (again). -/
def stale (l : Local ι) (env : Env σ κ) (k : κ) (key : Key ι σ) : Bool :=
  key.uploaded && !taken l env k key && !(flagsAfter l env k key).any

/-- A key that needs tailroom after it was offered. -/
def needsAfter (l : Local ι) (env : Env σ κ) (k : κ) (key : Key ι σ) : Bool :=
  key.tainted || (flagsAfter l env k key).any || !taken l env k key && !key.uploaded

/-- The key after it was offered. -/
def offered (l : Local ι) (env : Env σ κ) (k : κ) (key : Key ι σ) : Key ι σ :=
  { key with
    flags := flagsAfter l env k key
    uploaded := !key.tainted && (key.uploaded || taken l env k key) }

theorem offered_ident (k : κ) (key : Key ι σ) : (offered l env k key).ident = key.ident := rfl

theorem offered_needsTailroom (k : κ) (key : Key ι σ) :
    (offered l env k key).needsTailroom = needsAfter l env k key := by
  unfold offered needsAfter Key.needsTailroom
  dsimp only
  cases key.tainted <;> cases key.uploaded <;> cases taken l env k key <;> simp

theorem offered_of_not_taken (clean : key.tainted = false) (left : taken l env k key = false) :
    offered l env k key = { key with flags := flagsAfter l env k key } := by
  simp [offered, clean, left]

theorem needsAfter_add_stale (clean : key.tainted = false) (left : taken l env k key = false) :
    ((needsAfter l env k key).toNat + (stale l env k key).toNat - 1 : Int) = 0 := by
  unfold needsAfter stale
  rw [clean, left]
  cases key.uploaded <;> cases (flagsAfter l env k key).any <;> rfl

theorem op_of_offered_uploaded (before : key.uploaded = true → l.setKeyOp = true)
    (up : (offered l env k key).uploaded = true) : l.setKeyOp = true := by
  unfold offered at up
  simp only [Bool.and_eq_true, Bool.or_eq_true] at up
  rcases up.2 with old | new
  · exact before old
  · unfold taken refusal at new
    by_cases op : l.setKeyOp
    · exact op
    · simp [op] at new

end

variable [DecidableEq κ]

/-- A key offered to the driver is counted for what it needs then, and a stale one once more. -/
theorem enable_eq (s : State ι σ κ) (k : κ) :
    (keyEnableHwAccel l env s k).1 =
      (s.setKeyAt k (offered l env k (s.keys k))).shift l (s.keys k).sdata
        ((needsAfter l env k (s.keys k)).toNat + (stale l env k (s.keys k)).toNat - 1) := by
  unfold keyEnableHwAccel
  extract_lets key counted
  have value : counted = if (key.uploaded && !key.flags.any) = true then
      incrementTailroomNeedCount l s key.sdata else s := rfl
  by_cases tainted : key.tainted = true
  · have off : offered l env k key = { key with uploaded := false } := by
      simp [offered, flagsAfter, tainted]
    have needs : needsAfter l env k key = true := by simp [needsAfter, tainted]
    have twice : stale l env k key = (key.uploaded && !key.flags.any) := by
      simp [stale, taken, flagsAfter, tainted]
    rw [off, needs, twice, if_pos tainted, value]
    cases key.uploaded && !key.flags.any with
    | true =>
      rw [if_pos rfl, increment_eq_shift]
      rfl
    | false =>
      rw [if_neg Bool.false_ne_true]
      exact (shift_zero _ _).symm
  · rw [if_neg tainted]
    have clean : key.tainted = false := by simpa using tainted
    cases refused : refusal l env key with
    | some ret =>
      have left : taken l env k key = false := by simp [taken, refused]
      have flags : flagsAfter l env k key = key.flags := by simp [flagsAfter, refused]
      have idle : s.setKeyAt k key = s := by
        rw [State.setKeyAt, update_eq_self]
      rw [offered_of_not_taken clean left, flags, needsAfter_add_stale clean left, shift_zero]
      exact idle.symm
    | none =>
      have flags : flagsAfter l env k key = (env.setKey k).2 := by
        simp [flagsAfter, clean, refused]
      by_cases accepted : (env.setKey k).1 = 0
      · have took : taken l env k key = true := by simp [taken, clean, refused, accepted]
        have off : offered l env k key =
            { key with flags := (env.setKey k).2, uploaded := true } := by
          simp [offered, flags, took, clean]
        have needs : needsAfter l env k key = (env.setKey k).2.any := by
          simp [needsAfter, flags, took, clean]
        have fresh : stale l env k key = false := by simp [stale, took]
        simp only [if_pos accepted]
        rw [off, needs, fresh]
        cases (env.setKey k).2.any with
        | true => exact (shift_zero _ _).symm
        | false =>
          simp only [Bool.not_false, if_true, decrease_eq_shift]
          rfl
      · have left : taken l env k key = false := by simp [taken, accepted]
        simp only [if_neg accepted]
        rw [offered_of_not_taken clean left, flags, needsAfter_add_stale clean left,
          shift_zero]

theorem disable_eq (s : State ι σ κ) (k : κ)
    (op : (s.keys k).uploaded = true → l.setKeyOp = true) :
    keyDisableHwAccel l s k =
      (s.setKeyAt k { s.keys k with uploaded := false }).shift l (s.keys k).sdata
        (1 - (s.keys k).room) := by
  unfold keyDisableHwAccel
  extract_lets key counted
  have value : counted = if (!key.flags.any) = true then
      incrementTailroomNeedCount l s key.sdata else s := rfl
  by_cases up : key.uploaded = true
  · rw [if_neg (by simp [op up, up]), value]
    cases flags : key.flags.any with
    | true =>
      have zero : (1 : Int) - key.room = 0 := by simp [Key.room, Key.needsTailroom, flags]
      rw [zero, shift_zero]
      rfl
    | false =>
      have one : (1 : Int) - key.room = 1 := by simp [Key.room, Key.needsTailroom, flags, up]
      rw [one, Bool.not_false, if_pos rfl, increment_eq_shift]
      rfl
  · have down : key.uploaded = false := by simpa using up
    have zero : (1 : Int) - key.room = 0 := by simp [Key.room, Key.needsTailroom, down]
    have same : { key with uploaded := false } = key := by rw [← down]
    have idle : s.setKeyAt k key = s := by rw [State.setKeyAt, update_eq_self]
    rw [if_pos (by simp [down]), zero, shift_zero, same]
    exact idle.symm

theorem kept_enable (s : State ι σ κ) (k : κ) : Kept s (keyEnableHwAccel l env s k).1 := by
  rw [enable_eq]
  exact (kept_setKeyAt s k (offered_ident k (s.keys k))).trans ⟨rfl, rfl, rfl, fun _ => rfl⟩

theorem kept_disable (s : State ι σ κ) (k : κ) : Kept s (keyDisableHwAccel l s k) := by
  unfold keyDisableHwAccel
  extract_lets key counted
  split
  · exact Kept.refl s
  · have same : Kept s counted := by
      show Kept s (if _ then _ else _)
      split
      · rw [increment_eq_shift]
        exact ⟨rfl, rfl, rfl, fun _ => rfl⟩
      · exact Kept.refl s
    refine same.trans (kept_setKeyAt counted k ?_)
    exact (same.ident k).symm

theorem Book.enable (book : Book l s surplus) (linked : Linked s k)
    (down : (s.keys k).uploaded = false) : Book l (keyEnableHwAccel l env s k).1 surplus := by
  rw [enable_eq]
  refine (book.setKeyAt_shift linked (offered_ident k (s.keys k))
    (op_of_offered_uploaded (by simp [down])) _).congr fun j => ?_
  have before : (s.keys k).room = 1 := by simp [Key.room, Key.needsTailroom, down]
  have after : (offered l env k (s.keys k)).room = (needsAfter l env k (s.keys k)).toNat := by
    rw [Key.room, offered_needsTailroom]
  have once : stale l env k (s.keys k) = false := by simp [stale, down]
  rw [before, after, once]
  unfold only
  split <;> simp

theorem Book.disable (book : Book l s surplus) (linked : Linked s k) :
    Book l (keyDisableHwAccel l s k) surplus := by
  rw [disable_eq s k (book.links.op linked)]
  have ident : Key.ident { s.keys k with uploaded := false } = (s.keys k).ident := rfl
  have after : Key.room { s.keys k with uploaded := false } = 1 := rfl
  refine (book.setKeyAt_shift linked ident (fun up => nomatch up) _).congr fun j => ?_
  rw [after]
  unfold only
  split <;> omega

theorem uploaded_disable (links : Links l s) (linked : Linked s k) :
    ((keyDisableHwAccel l s k).keys k).uploaded = false := by
  rw [disable_eq s k (links.op linked)]
  show ((s.setKeyAt k _).keys k).uploaded = false
  rw [setKeyAt_keys_self]

theorem keys_enable_of_ne (s : State ι σ κ) {k k' : κ} (other : k' ≠ k) :
    (keyEnableHwAccel l env s k).1.keys k' = s.keys k' := by
  rw [enable_eq]
  exact setKeyAt_keys_of_ne s other _

theorem keys_disable_of_ne (links : Links l s) {k k' : κ} (linked : Linked s k)
    (other : k' ≠ k) : (keyDisableHwAccel l s k).keys k' = s.keys k' := by
  rw [disable_eq s k (links.op linked)]
  exact setKeyAt_keys_of_ne s other _

theorem Book.taint (book : Book l s surplus) (linked : Linked s k) :
    Book l (s.setKeyAt k { s.keys k with tainted := true }) surplus := by
  have ident : Key.ident { s.keys k with tainted := true } = (s.keys k).ident := rfl
  have same : Key.room { s.keys k with tainted := true } = (s.keys k).room := rfl
  refine (book.setKeyAt linked ident (book.links.op linked)).congr fun j => ?_
  rw [same]
  unfold only
  split <;> omega

/-- What a new key is when it replaces an old one. -/
structure Ready (s : State ι σ κ) (old : κ) (k : κ) : Prop where
  linked : Linked s k
  down : (s.keys k).uploaded = false
  other : k ≠ old

/-- The old key is not in the hardware afterwards. -/
theorem Book.hwReplaced (book : Book l s surplus) (env : Env σ κ) {old : κ} (linked : Linked s old)
    (ready : ∀ k, new = some k → Ready s old k) (pairwise : Bool) :
    Book l (hwKeyReplace l env s old new pairwise).1 surplus ∧
      Kept s (hwKeyReplace l env s old new pairwise).1 ∧
      ((hwKeyReplace l env s old new pairwise).1.keys old).uploaded = false := by
  unfold hwKeyReplace
  extract_lets oldKey current marked disabled
  by_cases up : oldKey.uploaded = true
  · rw [if_neg (by simp [up])]
    have mark : Book l marked surplus ∧ Kept s marked ∧
        ∀ k, k ≠ old → marked.keys k = s.keys k := by
      have either : marked = s.setKeyAt old { oldKey with tainted := true } ∨ marked = s :=
        ite_eq_or_eq ..
      rcases either with tainted | same
      · rw [tainted]
        exact ⟨book.taint linked, kept_setKeyAt s old rfl, fun k other =>
          setKeyAt_keys_of_ne s other _⟩
      · rw [same]
        exact ⟨book, Kept.refl s, fun k _ => rfl⟩
    obtain ⟨markBook, markKept, markOther⟩ := mark
    have still : Linked marked old := (markKept.linked old).mpr linked
    have off : Book l disabled surplus := markBook.disable still
    have offKept : Kept s disabled := markKept.trans (kept_disable marked old)
    have down : (disabled.keys old).uploaded = false := uploaded_disable markBook.links still
    cases new with
    | none => exact ⟨off, offKept, down⟩
    | some k =>
      have rdy := ready k rfl
      have same : disabled.keys k = s.keys k :=
        (keys_disable_of_ne markBook.links still rdy.other).trans (markOther k rdy.other)
      refine ⟨off.enable ((offKept.linked k).mpr rdy.linked) (same ▸ rdy.down),
        offKept.trans (kept_enable disabled k), ?_⟩
      dsimp only
      rw [keys_enable_of_ne disabled rdy.other.symm]
      exact down
  · rw [if_pos (by simpa using up)]
    exact ⟨book, Kept.refl s, by simpa using up⟩

/-! ## Lists and slots -/

section

omit [DecidableEq κ]

theorem keyList_listAddTail_self (s : State ι σ κ) (k : κ) (i : ι) :
    (listAddTail s k i).keyList i = s.keyList i ++ [k] :=
  update_self ..

theorem keyList_listAddTail_of_ne (s : State ι σ κ) (k : κ) {i j : ι} (other : j ≠ i) :
    (listAddTail s k i).keyList j = s.keyList j :=
  update_of_ne other ..

theorem mem_listAddTail (s : State ι σ κ) (k k' : κ) (i j : ι) :
    k' ∈ (listAddTail s k i).keyList j ↔ k' ∈ s.keyList j ∨ j = i ∧ k' = k := by
  by_cases here : j = i
  · subst here
    simp [keyList_listAddTail_self]
  · simp [keyList_listAddTail_of_ne s k here, here]

/-- A key that is not in the hardware joins the list of its interface. -/
theorem Book.added (book : Book l s surplus) {i : ι} (fresh : ∀ i, k ∉ s.keyList i)
    (home : (s.keys k).sdata = i) (down : (s.keys k).uploaded = false) (up : l.running i = true) :
    Book l (listAddTail s k i) fun j => surplus j - only i 1 j where
  links := {
    nodup := by
      intro j
      by_cases here : j = i
      · subst here
        rw [keyList_listAddTail_self]
        exact (book.links.nodup j).append (List.nodup_singleton k) (by simpa using fresh j)
      · rw [keyList_listAddTail_of_ne s k here]
        exact book.links.nodup j
    sdata := by
      intro j k' within
      rcases (mem_listAddTail s k k' i j).mp within with old | ⟨rfl, rfl⟩
      · exact book.links.sdata old
      · exact home
    slot := by
      intro at' k' held
      obtain ⟨linked, belongs⟩ := book.links.slot held
      exact ⟨(mem_listAddTail s k k' i _).mpr (.inl linked), belongs⟩
    op := by
      intro j k' within loaded
      rcases (mem_listAddTail s k k' i j).mp within with old | ⟨-, rfl⟩
      · exact book.links.op old loaded
      · rw [listAddTail, down] at loaded
        cases loaded
    running := by
      intro j off
      have here : j ≠ i := by
        rintro rfl
        rw [up] at off
        cases off
      rw [keyList_listAddTail_of_ne s k here]
      exact book.links.running off }
  count := by
    intro j
    refine (book.count j).trans (cover_congr (fun j => ?_) j)
    unfold own
    by_cases here : j = i
    · subst here
      have needs : (s.keys k).needsTailroom = true := by simp [Key.needsTailroom, down]
      rw [keyList_listAddTail_self, List.countP_append, List.countP_singleton, only_self]
      simp only [listAddTail, needs, if_true]
      omega
    · rw [keyList_listAddTail_of_ne s k here, only_of_ne here]
      simp only [listAddTail]
      omega

end

theorem keyList_listDel_self (s : State ι σ κ) (k : κ) :
    (listDel s k).keyList (s.keys k).sdata = (s.keyList (s.keys k).sdata).erase k :=
  update_self ..

theorem keyList_listDel_of_ne (s : State ι σ κ) {j : ι} (other : j ≠ (s.keys k).sdata) :
    (listDel s k).keyList j = s.keyList j :=
  update_of_ne other ..

theorem mem_listDel (links : Links l s) (k k' : κ) (j : ι) :
    k' ∈ (listDel s k).keyList j ↔ k' ∈ s.keyList j ∧ k' ≠ k := by
  by_cases here : j = (s.keys k).sdata
  · subst here
    rw [keyList_listDel_self, (links.nodup _).mem_erase_iff, and_comm]
  · rw [keyList_listDel_of_ne s here]
    refine ⟨fun within => ⟨within, ?_⟩, And.left⟩
    rintro rfl
    exact here (links.sdata within).symm

/-- A key that is not in the hardware leaves its list. -/
theorem Book.removed (book : Book l s surplus) (linked : Linked s k)
    (nowhere : ∀ at', s.slot at' ≠ some k) (down : (s.keys k).uploaded = false) :
    Book l (listDel s k) fun j => surplus j + only (s.keys k).sdata 1 j where
  links := {
    nodup := by
      intro j
      by_cases here : j = (s.keys k).sdata
      · subst here
        rw [keyList_listDel_self]
        exact (book.links.nodup _).erase k
      · rw [keyList_listDel_of_ne s here]
        exact book.links.nodup j
    sdata := fun within => book.links.sdata ((mem_listDel book.links k _ _).mp within).1
    slot := by
      intro at' k' held
      obtain ⟨linked', belongs⟩ := book.links.slot held
      have other : k' ≠ k := by
        rintro rfl
        exact nowhere at' held
      exact ⟨(mem_listDel book.links k k' _).mpr ⟨linked', other⟩, belongs⟩
    op := fun within => book.links.op ((mem_listDel book.links k _ _).mp within).1
    running := by
      intro j off
      by_cases here : j = (s.keys k).sdata
      · subst here
        rw [keyList_listDel_self, book.links.running off, List.erase_nil]
      · rw [keyList_listDel_of_ne s here]
        exact book.links.running off }
  count := by
    intro j
    refine (book.count j).trans (cover_congr (fun j => ?_) j)
    unfold own
    by_cases here : j = (s.keys k).sdata
    · subst here
      have less := weigh_erase (fun k' => (s.keys k').needsTailroom.toNat) linked
      have needs : (s.keys k).needsTailroom = true := by simp [Key.needsTailroom, down]
      simp only [needs, Bool.toNat_true] at less
      rw [keyList_listDel_self, only_self]
      simp only [countP_eq_weigh, listDel]
      omega
    · rw [keyList_listDel_of_ne s here, only_of_ne here]
      simp only [listDel]
      omega

variable [DecidableEq σ]

section

omit [DecidableEq κ]

theorem slot_setSlot_self (s : State ι σ κ) (at' : Slot ι σ) (new : Option κ) :
    (s.setSlot at' new).slot at' = new :=
  update_self ..

theorem slot_setSlot_of_ne (s : State ι σ κ) {at' other : Slot ι σ} (ne : other ≠ at')
    (new : Option κ) : (s.setSlot at' new).slot other = s.slot other :=
  update_of_ne ne ..

theorem Book.slotSet (book : Book l s surplus) {at' : Slot ι σ}
    (belongs : ∀ k, new = some k → Linked s k ∧ (s.keys k).slot = at') :
    Book l (s.setSlot at' new) surplus where
  links := {
    nodup := book.links.nodup
    sdata := book.links.sdata
    slot := by
      intro at'' k held
      by_cases here : at'' = at'
      · subst here
        rw [slot_setSlot_self] at held
        exact belongs k held
      · rw [slot_setSlot_of_ne s here] at held
        exact book.links.slot held
    op := book.links.op
    running := book.links.running }
  count := book.count

/-- Only the index of the current pairwise key moves with the slot. -/
theorem assignSlot_eq (s : State ι σ κ) (sdata : ι) (sta : Option σ) (pairwise : Bool) (idx : Nat)
    (new : Option κ) :
    ∃ ptkIdx, assignSlot s sdata sta pairwise idx new =
      { s.setSlot (slotOf sdata sta pairwise idx) new with ptkIdx := ptkIdx } := by
  unfold assignSlot
  extract_lets assigned
  split
  · split
    · exact ⟨_, rfl⟩
    · exact ⟨_, rfl⟩
  · exact ⟨_, rfl⟩

theorem Book.assigned (book : Book l s surplus) {sdata : ι} {sta : Option σ} {pairwise : Bool}
    {idx : Nat} (belongs : ∀ k, new = some k → Linked s k ∧
      (s.keys k).slot = slotOf sdata sta pairwise idx) :
    Book l (assignSlot s sdata sta pairwise idx new) surplus := by
  obtain ⟨ptkIdx, same⟩ := assignSlot_eq s sdata sta pairwise idx new
  have set := book.slotSet belongs
  rw [same]
  exact ⟨⟨set.links.nodup, set.links.sdata, set.links.slot, set.links.op, set.links.running⟩,
    set.count⟩

/-- Once another key, or none, is in its slot, a key is in no slot. -/
theorem nowhere_of_assignSlot (links : Links l s) {sdata : ι} {sta : Option σ} {pairwise : Bool}
    {idx : Nat} (belonged : (s.keys k).slot = slotOf sdata sta pairwise idx) (other : new ≠ some k)
    (at' : Slot ι σ) : (assignSlot s sdata sta pairwise idx new).slot at' ≠ some k := by
  obtain ⟨ptkIdx, same⟩ := assignSlot_eq s sdata sta pairwise idx new
  rw [same]
  show (s.setSlot _ new).slot at' ≠ some k
  by_cases here : at' = slotOf sdata sta pairwise idx
  · subst here
    rwa [slot_setSlot_self]
  · rw [slot_setSlot_of_ne s here]
    intro held
    exact here ((links.slot held).2.symm.trans belonged)

end

/-! ## Removing a key -/

/-- A key is taken off its list and out of its slot. -/
structure Unlinked (s s' : State ι σ κ) (k : κ) : Prop where
  mem : ∀ i k', k' ∈ s'.keyList i ↔ k' ∈ s.keyList i ∧ k' ≠ k
  slot : ∀ at', s'.slot at' = if at' = (s.keys k).slot then none else s.slot at'
  pendingDec : s'.pendingDec = s.pendingDec
  ident : ∀ k, (s'.keys k).ident = (s.keys k).ident

omit [DecidableEq σ] in
theorem hwKeyReplace_none (l : Local ι) (env : Env σ κ) (s : State ι σ κ) (k : κ)
    (pairwise : Bool) : (hwKeyReplace l env s k none pairwise).2 = 0 := by
  unfold hwKeyReplace
  extract_lets oldKey current marked disabled
  split <;> rfl

/-- Removal cannot fail. -/
theorem unlinkKey_eq (s : State ι σ κ) (k : κ) :
    unlinkKey l env s k =
      listDel (assignSlot (hwKeyReplace l env s k none (s.keys k).pairwise).1 (s.keys k).sdata
        (s.keys k).sta (s.keys k).pairwise (s.keys k).conf.keyidx none) k := by
  have done := hwKeyReplace_none l env s k (s.keys k).pairwise
  unfold unlinkKey keyReplace
  dsimp only
  rw [if_neg (not_not.mpr done)]

/-- A key that is removed counts once more than it should, until it is destroyed. -/
theorem Book.unlinked (book : Book l s surplus) (env : Env σ κ) (linked : Linked s k) :
    Book l (unlinkKey l env s k) (fun j => surplus j + only (s.keys k).sdata 1 j) ∧
      Unlinked s (unlinkKey l env s k) k := by
  have nothing : ∀ k', none = some k' → Ready s k k' := nofun
  obtain ⟨off, kept, down⟩ := book.hwReplaced env linked nothing (s.keys k).pairwise
  rw [unlinkKey_eq]
  generalize (hwKeyReplace l env s k none (s.keys k).pairwise).1 = s' at off kept down ⊢
  have home : (s'.keys k).slot = slotOf (s.keys k).sdata (s.keys k).sta (s.keys k).pairwise
      (s.keys k).conf.keyidx := Key.slot_congr (kept.ident k)
  have none_ne : (none : Option κ) ≠ some k := nofun
  have out := nowhere_of_assignSlot off.links home none_ne
  have cleared : Book l (assignSlot s' (s.keys k).sdata (s.keys k).sta (s.keys k).pairwise
      (s.keys k).conf.keyidx none) surplus := off.assigned (fun k' eq => nomatch eq)
  obtain ⟨ptkIdx, same⟩ := assignSlot_eq s' (s.keys k).sdata (s.keys k).sta (s.keys k).pairwise
    (s.keys k).conf.keyidx none
  rw [same] at out cleared ⊢
  have still : Linked s' k := (kept.linked k).mpr linked
  refine ⟨(cleared.removed still out down).congr fun j => ?_, ?_, ?_, kept.pendingDec,
    kept.ident⟩
  · show surplus j + only (s'.keys k).sdata 1 j = _
    rw [kept.sdata]
  · intro i k'
    rw [mem_listDel cleared.links, ← kept.keyList]
    rfl
  · intro at'
    show (s'.setSlot _ none).slot at' = _
    split
    · rename_i here
      rw [here]
      exact slot_setSlot_self s' _ none
    · rename_i other
      rw [← kept.slot]
      exact slot_setSlot_of_ne s' other none

section

omit [DecidableEq σ] [DecidableEq κ]

theorem Book.pending (book : Book l s surplus) (i : ι) (n : Nat) :
    Book l { s with pendingDec := update s.pendingDec i n } fun j =>
      surplus j - only i (n - s.pendingDec i) j where
  links := ⟨book.links.nodup, book.links.sdata, book.links.slot, book.links.op,
    book.links.running⟩
  count := by
    intro j
    refine (book.count j).trans (cover_congr (fun j => ?_) j)
    unfold own
    dsimp only
    by_cases here : j = i
    · subst here
      rw [only_self, update_self]
      omega
    · rw [only_of_ne here, update_of_ne here]
      omega

/-- A destroyed key is discounted, or waits to be. -/
theorem Book.destroyed (book : Book l s surplus) (k : κ) (delayTailroom : Bool) :
    Book l (keyDestroy l s k delayTailroom) fun j => surplus j - only (s.keys k).sdata 1 j := by
  unfold keyDestroy
  extract_lets sdata
  split
  · refine (book.pending sdata (s.pendingDec sdata + 1)).congr fun j => ?_
    show surplus j - only (s.keys k).sdata _ j = _
    unfold only
    split
    · push_cast
      omega
    · rfl
  · rw [decrease_eq_shift]
    refine (book.shift sdata (-1)).congr fun j => ?_
    show surplus j + only (s.keys k).sdata (-1) j = _
    unfold only
    split <;> omega

/-- The delayed decrement takes off what waited for it. -/
theorem Book.decremented (book : Book l s surplus) (i : ι) :
    Book l (delayedTailroomDec l s i) surplus := by
  unfold delayedTailroomDec
  rw [decrease_eq_shift]
  refine ((book.shift i (-s.pendingDec i)).pending i 0).congr fun j => ?_
  show surplus j + only i (-s.pendingDec i) j - only i ((0 : Nat) - s.pendingDec i) j = _
  unfold only
  split <;> omega

end

theorem Book.freed (book : Book l s surplus) (env : Env σ κ) (linked : Linked s k)
    (delayTailroom : Bool) : Book l (keyFree l env s k delayTailroom) surplus := by
  obtain ⟨out, unlinked⟩ := book.unlinked env linked
  refine (out.destroyed k delayTailroom).congr fun j => ?_
  have home : ((unlinkKey l env s k).keys k).sdata = (s.keys k).sdata :=
    congrArg Prod.fst (unlinked.ident k)
  rw [home]
  omega

/-! ## Installing a key -/

omit [DecidableEq ι] [DecidableEq σ] in
/-- The memory of a key that is not in use is written. -/
theorem Book.allocated (book : Book l s surplus) (fresh : ∀ i, k ∉ s.keyList i) (key : Key ι σ) :
    Book l (s.setKeyAt k key) surplus := by
  have other : ∀ {i k'}, k' ∈ s.keyList i → (s.setKeyAt k key).keys k' = s.keys k' := by
    intro i k' within
    refine setKeyAt_keys_of_ne s ?_ key
    rintro rfl
    exact fresh i within
  refine ⟨⟨book.links.nodup, ?_, ?_, ?_, book.links.running⟩, ?_⟩
  · intro i k' within
    rw [other within]
    exact book.links.sdata within
  · intro at' k' held
    obtain ⟨linked, belongs⟩ := book.links.slot held
    rw [Linked, other linked]
    exact ⟨linked, belongs⟩
  · intro i k' within
    rw [other within]
    exact book.links.op within
  · intro j
    refine (book.count j).trans (cover_congr (fun i => ?_) j)
    unfold own
    have same : (s.keyList i).countP (fun k => (s.keys k).needsTailroom) =
        (s.keyList i).countP fun k' => ((s.setKeyAt k key).keys k').needsTailroom :=
      List.countP_congr fun k' within => by rw [other within]
    rw [same]
    rfl

omit [DecidableEq ι] [DecidableEq σ] [DecidableEq κ] in
theorem idx_of_slotOf_eq {sdata sdata' : ι} {sta sta' : Option σ} {pairwise pairwise' : Bool}
    {idx idx' : Nat} (same : slotOf sdata sta pairwise idx = slotOf sdata' sta' pairwise' idx') :
    idx = idx' := by
  cases sta <;> cases sta' <;> cases pairwise <;> cases pairwise' <;> simp_all [slotOf]

theorem keyReplace_first (s : State ι σ κ) (sdata : ι) (sta : Option σ) (pairwise : Bool)
    (k : κ) :
    keyReplace l env s sdata sta pairwise none (some k) =
      let entered := if (!env.wowlan) = true then keyEnableHwAccel l env (listAddTail s k sdata) k
        else (listAddTail s k sdata, 0)
      if entered.2 ≠ 0 then entered
      else (assignSlot entered.1 sdata sta pairwise (s.keys k).conf.keyidx (some k), 0) :=
  rfl

theorem keyReplace_second (s : State ι σ κ) (sdata : ι) (sta : Option σ) (pairwise : Bool)
    (old k : κ) :
    keyReplace l env s sdata sta pairwise (some old) (some k) =
      let entered := hwKeyReplace l env (listAddTail s k sdata) old (some k) pairwise
      if entered.2 ≠ 0 then entered
      else (listDel (assignSlot entered.1 sdata sta pairwise (s.keys old).conf.keyidx (some k))
        old, 0) :=
  rfl

/-- What `keyReplace` finds when it installs a key. -/
structure Fresh (l : Local ι) (s : State ι σ κ) (k : κ) (sdata : ι) (sta : Option σ)
    (pairwise : Bool) : Prop where
  fresh : ∀ i, k ∉ s.keyList i
  home : (s.keys k).sdata = sdata
  slot : (s.keys k).slot = slotOf sdata sta pairwise (s.keys k).conf.keyidx
  down : (s.keys k).uploaded = false
  running : l.running sdata = true

/-- A key that takes an empty slot, or that the driver rejects, evens the counters; one that
takes the place of another key leaves that one to be destroyed. -/
theorem Book.replaced {sdata : ι} {sta : Option σ} {pairwise : Bool}
    (book : Book l s fun j => surplus j + only sdata 1 j) (env : Env σ κ)
    (new : Fresh l s k sdata sta pairwise) {old : Option κ}
    (held : s.slot (slotOf sdata sta pairwise (s.keys k).conf.keyidx) = old)
    (delayTailroom : Bool) :
    let r := keyReplace l env s sdata sta pairwise old (some k)
    (r.2 ≠ 0 → Book l r.1 surplus ∧ Linked r.1 k) ∧
      (r.2 = 0 → Book l
        (match old with
          | some old => keyDestroy l r.1 old delayTailroom
          | none => r.1) surplus) := by
  have added : Book l (listAddTail s k sdata) surplus :=
    (book.added new.fresh new.home new.down new.running).congr fun j => by omega
  have linked : Linked (listAddTail s k sdata) k :=
    (mem_listAddTail s k k sdata _).mpr (.inr ⟨new.home, rfl⟩)
  cases old with
  | none =>
    have enabled : Book l
        (if (!env.wowlan) = true then keyEnableHwAccel l env (listAddTail s k sdata) k
          else (listAddTail s k sdata, 0)).1 surplus ∧
        Kept (listAddTail s k sdata)
          (if (!env.wowlan) = true then keyEnableHwAccel l env (listAddTail s k sdata) k
            else (listAddTail s k sdata, 0)).1 := by
      split
      · exact ⟨added.enable linked new.down, kept_enable _ k⟩
      · exact ⟨added, Kept.refl _⟩
    rw [keyReplace_first]
    generalize (if (!env.wowlan) = true then keyEnableHwAccel l env (listAddTail s k sdata) k
      else (listAddTail s k sdata, 0)) = entered at enabled ⊢
    obtain ⟨book', kept⟩ := enabled
    have still : Linked entered.1 k := (kept.linked k).mpr linked
    by_cases refused : entered.2 ≠ 0
    · rw [if_pos refused]
      exact ⟨fun _ => ⟨book', still⟩, fun done => absurd done refused⟩
    · rw [if_neg refused]
      refine ⟨fun failed => absurd rfl failed, fun _ => book'.assigned fun k' same => ?_⟩
      obtain rfl := Option.some.inj same
      exact ⟨still, (Key.slot_congr (kept.ident k)).trans new.slot⟩
  | some o =>
    obtain ⟨inUse, belongs⟩ := book.links.slot held
    have other : k ≠ o := by
      rintro rfl
      exact new.fresh _ inUse
    have place : (s.keys o).conf.keyidx = (s.keys k).conf.keyidx := idx_of_slotOf_eq belongs
    have oldLinked : Linked (listAddTail s k sdata) o :=
      (mem_listAddTail s k o sdata _).mpr (.inl inUse)
    have ready : ∀ k', some k = some k' → Ready (listAddTail s k sdata) o k' := by
      rintro _ ⟨⟩
      exact ⟨linked, new.down, other⟩
    obtain ⟨book', kept, gone⟩ := added.hwReplaced env oldLinked ready pairwise
    rw [keyReplace_second]
    generalize hwKeyReplace l env (listAddTail s k sdata) o (some k) pairwise = entered
      at book' kept gone ⊢
    have still : Linked entered.1 k := (kept.linked k).mpr linked
    have oldStill : Linked entered.1 o := (kept.linked o).mpr oldLinked
    by_cases refused : entered.2 ≠ 0
    · rw [if_pos refused]
      exact ⟨fun _ => ⟨book', still⟩, fun done => absurd done refused⟩
    · rw [if_neg refused]
      refine ⟨fun failed => absurd rfl failed, fun _ => ?_⟩
      rw [place]
      have set : Book l (assignSlot entered.1 sdata sta pairwise (s.keys k).conf.keyidx
          (some k)) surplus := by
        refine book'.assigned fun k' same => ?_
        obtain rfl := Option.some.inj same
        exact ⟨still, (Key.slot_congr (kept.ident k)).trans new.slot⟩
      have home : (entered.1.keys o).slot =
          slotOf sdata sta pairwise (s.keys k).conf.keyidx :=
        (Key.slot_congr (kept.ident o)).trans belongs
      have out := nowhere_of_assignSlot book'.links home
        (fun same => other (Option.some.inj same))
      obtain ⟨ptkIdx, same⟩ := assignSlot_eq entered.1 sdata sta pairwise
        (s.keys k).conf.keyidx (some k)
      rw [same] at set out ⊢
      refine ((set.removed oldStill out gone).destroyed o delayTailroom).congr fun j => ?_
      show surplus j + only (entered.1.keys o).sdata 1 j - only (entered.1.keys o).sdata 1 j = _
      omega

theorem Book.keyLinked (book : Book l s surplus) (env : Env σ κ) {sdata : ι} (conf : KeyConf)
    (sta : Option σ) (fresh : ∀ i, k ∉ s.keyList i) (up : l.running sdata = true) :
    Book l (keyLink l env s k conf sdata sta).1 surplus := by
  unfold keyLink
  extract_lets delayTailroom old otherCipher clash key counted
  split
  · exact book
  split
  · exact book
  have home : (counted.keys k) = { sdata := sdata, sta := sta, conf := conf } := by
    show (incrementTailroomNeedCount l key sdata).keys k = _
    rw [increment_eq_shift]
    exact setKeyAt_keys_self s k _
  have booked : Book l counted fun j => surplus j + only sdata 1 j := by
    show Book l (incrementTailroomNeedCount l key sdata) _
    rw [increment_eq_shift]
    exact (book.allocated fresh _).shift sdata 1
  have new : Fresh l counted k sdata sta conf.pairwise := by
    refine ⟨?_, by rw [home], by rw [home]; rfl, by rw [home], up⟩
    show ∀ i, k ∉ (incrementTailroomNeedCount l key sdata).keyList i
    rw [increment_eq_shift]
    exact fresh
  have held : counted.slot (slotOf sdata sta conf.pairwise (counted.keys k).conf.keyidx) = old := by
    rw [home]
    show (incrementTailroomNeedCount l key sdata).slot _ = _
    rw [increment_eq_shift]
    rfl
  obtain ⟨failed, done⟩ := booked.replaced env new held delayTailroom
  generalize keyReplace l env counted sdata sta conf.pairwise old (some k) = r at failed done ⊢
  by_cases success : r.2 = 0
  · simp only [if_pos success]
    exact done success
  · simp only [if_neg success]
    obtain ⟨book', linked⟩ := failed success
    exact book'.freed env linked delayTailroom

/-! ## Removing groups of keys -/

theorem Book.slotFreed (book : Book l s surplus) (env : Env σ κ) (at' : Slot ι σ) :
    Book l (freeSlot l env s at') surplus := by
  unfold freeSlot
  split
  · exact book
  · rename_i k held
    have linked := (book.links.slot held).1
    obtain ⟨out, unlinked⟩ := book.unlinked env linked
    refine (out.destroyed k _).congr fun j => ?_
    have home : ((unlinkKey l env s k).keys k).sdata = (s.keys k).sdata :=
      congrArg Prod.fst (unlinked.ident k)
    rw [home]
    omega

theorem Book.staKeysFreed (book : Book l s surplus) (env : Env σ κ) (sta : σ) :
    Book l (freeStaKeys l env s sta) surplus := by
  have all : ∀ (at' : Nat → Slot ι σ) (idx : List Nat) {s : State ι σ κ}, Book l s surplus →
      Book l (idx.foldl (fun s i => freeSlot l env s (at' i)) s) surplus := by
    intro at' idx s book
    exact List.foldlRecOn idx _ (motive := fun s => Book l s surplus) book
      fun s book i _ => book.slotFreed env (at' i)
  exact all _ _ (all _ _ book)

/-- How many of some keys belong to an interface. -/
def ofIface (s : State ι σ κ) (keys : List κ) (j : ι) : Int :=
  keys.countP fun k => (s.keys k).sdata = j

omit [DecidableEq σ] [DecidableEq κ] in
theorem ofIface_cons (s : State ι σ κ) (k : κ) (keys : List κ) (j : ι) :
    ofIface s (k :: keys) j = only (s.keys k).sdata 1 j + ofIface s keys j := by
  unfold ofIface only
  rw [List.countP_cons]
  by_cases here : (s.keys k).sdata = j
  · rw [if_pos (by simpa using here), if_pos here.symm]
    push_cast
    omega
  · rw [if_neg (by simpa using here), if_neg (Ne.symm here)]
    simp

omit [DecidableEq σ] [DecidableEq κ] in
theorem ofIface_congr (same : ∀ k, (s'.keys k).ident = (s.keys k).ident) (keys : List κ) (j : ι) :
    ofIface s' keys j = ofIface s keys j := by
  have sdata : ∀ k, (s'.keys k).sdata = (s.keys k).sdata := fun k => congrArg Prod.fst (same k)
  simp only [ofIface, sdata]

omit [DecidableEq σ] [DecidableEq κ] in
theorem ofIface_append (s : State ι σ κ) (keys keys' : List κ) (j : ι) :
    ofIface s (keys ++ keys') j = ofIface s keys j + ofIface s keys' j := by
  rw [ofIface, List.countP_append, Int.natCast_add]
  rfl

theorem Book.unlinkedAll (book : Book l s surplus) (env : Env σ κ) {keys : List κ}
    (nodup : keys.Nodup) (linked : ∀ k ∈ keys, Linked s k) :
    Book l (keys.foldl (unlinkKey l env) s) (fun j => surplus j + ofIface s keys j) ∧
      ∀ k, ((keys.foldl (unlinkKey l env) s).keys k).ident = (s.keys k).ident := by
  induction keys generalizing s surplus with
  | nil => exact ⟨book.congr fun j => by simp [ofIface], fun _ => rfl⟩
  | cons k keys ih =>
    obtain ⟨fresh, nodup⟩ := List.nodup_cons.mp nodup
    obtain ⟨out, gone⟩ := book.unlinked env (linked k List.mem_cons_self)
    have rest : ∀ k' ∈ keys, Linked (unlinkKey l env s k) k' := by
      intro k' within
      have home : ((unlinkKey l env s k).keys k').sdata = (s.keys k').sdata :=
        congrArg Prod.fst (gone.ident k')
      rw [Linked, home, gone.mem]
      refine ⟨linked k' (List.mem_cons_of_mem k within), ?_⟩
      rintro rfl
      exact fresh within
    obtain ⟨done, same⟩ := ih out nodup rest
    refine ⟨done.congr fun j => ?_, fun k' => (same k').trans (gone.ident k')⟩
    rw [ofIface_congr gone.ident, ofIface_cons]
    omega

omit [DecidableEq σ] [DecidableEq κ] in
theorem Book.destroyedAll {keys : List κ} (book : Book l s fun j => surplus j + ofIface s keys j) :
    Book l (keys.foldl (fun s k => keyDestroy l s k false) s) surplus := by
  induction keys generalizing s with
  | nil => exact book.congr fun j => by simp [ofIface]
  | cons k keys ih =>
    have same : ∀ k', ((keyDestroy l s k false).keys k').ident = (s.keys k').ident := by
      intro k'
      show ((decreaseTailroomNeedCount l s (s.keys k).sdata 1).keys k').ident = _
      rw [decrease_eq_shift]
      rfl
    refine ih ((book.destroyed k false).congr fun j => ?_)
    rw [ofIface_congr same, ofIface_cons]
    omega

/-- Keys collected from interfaces still count. -/
def Collected (l : Local ι) (surplus : ι → Int) (p : State ι σ κ × List κ) : Prop :=
  Book l p.1 fun j => surplus j + ofIface p.1 p.2 j

theorem Collected.ifaceFreed {p : State ι σ κ × List κ} (collected : Collected l surplus p)
    (env : Env σ κ) (i : ι) : Collected l surplus (freeKeysIface l env p i) := by
  have less : Book l (delayedTailroomDec l p.1 i) _ := Book.decremented collected i
  have kept : ∀ k, ((delayedTailroomDec l p.1 i).keys k).ident = (p.1.keys k).ident := by
    intro k
    unfold delayedTailroomDec
    rw [decrease_eq_shift]
    rfl
  obtain ⟨done, same⟩ := less.unlinkedAll env (less.links.nodup i) fun k within =>
    less.links.linked within
  refine done.congr fun j => ?_
  show _ = surplus j + ofIface (List.foldl _ _ _) (p.2 ++ (delayedTailroomDec l p.1 i).keyList i) j
  rw [ofIface_append, ofIface_congr same, ofIface_congr same, ofIface_congr kept p.2]
  omega

theorem Book.keysFreed (book : Book l s surplus) (env : Env σ κ) (i : ι) :
    Book l (freeKeys l env s i) surplus := by
  have start : Collected l surplus (s, []) := book.congr fun j => by simp [ofIface]
  have first := start.ifaceFreed env i
  have all : Collected l surplus
      (if l.type i = .ap then
        (l.vlans i).foldl (freeKeysIface l env) (freeKeysIface l env (s, []) i)
      else freeKeysIface l env (s, []) i) := by
    split
    · exact List.foldlRecOn (l.vlans i) _ (motive := Collected l surplus) first
        fun p collected v _ => collected.ifaceFreed env v
    · exact first
  exact Book.destroyedAll all

omit [DecidableEq σ] in
/-- Only the mark of the keys changes. -/
theorem Book.tainted (book : Book l s surplus) (i : ι) :
    Book l (resumeDisconnect l s i) surplus := by
  unfold resumeDisconnect
  split
  · have same : ∀ k, (if k ∈ s.keyList i then { s.keys k with tainted := true } else
        s.keys k).ident = (s.keys k).ident ∧
        (if k ∈ s.keyList i then { s.keys k with tainted := true } else
          s.keys k).needsTailroom = (s.keys k).needsTailroom ∧
        (if k ∈ s.keyList i then { s.keys k with tainted := true } else
          s.keys k).uploaded = (s.keys k).uploaded := by
      intro k
      split <;> exact ⟨rfl, rfl, rfl⟩
    refine ⟨book.links.kept ⟨rfl, rfl, rfl, fun k => (same k).1⟩ fun {k} linked up =>
      book.links.op linked ((same k).2.2.symm.trans up), fun j => ?_⟩
    refine (book.count j).trans (cover_congr (fun i => ?_) j)
    unfold own
    simp only [same]
  · exact book

end Iwlwifi.Keys
