import Mathlib.Algebra.Ring.Int.Defs
import Iwlwifi.Mac80211.KeyTailroom

/-!
# A new key that is refused

When the hardware refuses a new key and software cannot do without it, `ieee80211_key_link` frees
the key again.  `ieee80211_key_free` replaces it with nothing at the place where it belongs, but
there is still the key that it was to replace: that one is taken out of its slot, and stays on
the list of its interface (`untouched_iff`).

The tables of the keys are those of `Keys.State` with the default keys of the interfaces.
-/

namespace Iwlwifi.KeyRefused

open Function (update update_eq_self update_idem update_self)

open Keys

/-- The keys, the slots that hold them and the default keys. -/
structure Tables (ι σ κ : Type*) extends State ι σ κ where
  defaultUnicastKey : ι → Option κ
  defaultMulticastKey : ι → Option κ
  defaultMgmtKey : ι → Option κ

variable {ι σ κ : Type*} [DecidableEq ι]

/-! ## Default keys -/

/-- `__ieee80211_set_default_key`. -/
def setDefaultKey (t : Tables ι σ κ) (sdata : ι) (idx : Int) (uni multi : Bool) :
    Tables ι σ κ :=
  let key :=
    if 0 ≤ idx ∧ idx < numDefaultKeys then t.slot (.keys sdata idx.toNat) else none
  { t with
    defaultUnicastKey :=
      if uni then update t.defaultUnicastKey sdata key else t.defaultUnicastKey
    defaultMulticastKey :=
      if multi then update t.defaultMulticastKey sdata key else t.defaultMulticastKey }

/-- `__ieee80211_set_default_mgmt_key`. -/
def setDefaultMgmtKey (t : Tables ι σ κ) (sdata : ι) (idx : Int) : Tables ι σ κ :=
  let key :=
    if numDefaultKeys ≤ idx ∧ idx < numDefaultKeys + numDefaultMgmtKeys then
      t.slot (.keys sdata idx.toNat)
    else none
  { t with defaultMgmtKey := update t.defaultMgmtKey sdata key }

variable [DecidableEq κ]

/-- The part of `ieee80211_key_replace` that goes on with the default keys, to which the old key
may belong.  With no new key, it does so before the slot is emptied, but does not look there. -/
def replaceDefaults (t : Tables ι σ κ) (sdata : ι) (old new : Option κ) : Tables ι σ κ :=
  let defunikey : Bool := old.isSome && old = t.defaultUnicastKey sdata
  let defmultikey : Bool := old.isSome && old = t.defaultMulticastKey sdata
  let defmgmtkey : Bool := old.isSome && old = t.defaultMgmtKey sdata
  let idx : Int := match new with
    | none => -1
    | some new => (t.keys new).conf.keyidx
  let t := if defunikey then setDefaultKey t sdata idx true false else t
  let t := if defmultikey then setDefaultKey t sdata idx false true else t
  if defmgmtkey then setDefaultMgmtKey t sdata idx else t

/-! ## Installing and removing keys -/

variable [DecidableEq σ]

section

variable (l : Local ι) (env : Env σ κ) (t : Tables ι σ κ)

/-- `ieee80211_key_replace`. -/
def keyReplace (sdata : ι) (sta : Option σ) (pairwise : Bool) (old new : Option κ) :
    Tables ι σ κ × Int :=
  let done := Keys.keyReplace l env t.toState sdata sta pairwise old new
  let t := { t with toState := done.1 }
  (if done.2 = 0 && sta.isNone then replaceDefaults t sdata old new else t, done.2)

/-- `ieee80211_key_free` of a key that is in use. -/
def keyFree (k : κ) (delayTailroom : Bool) : Tables ι σ κ :=
  let key := t.keys k
  let t := (keyReplace l env t key.sdata key.sta key.pairwise (some k) none).1
  { t with toState := keyDestroy l t.toState k delayTailroom }

/-- What `ieee80211_key_link` finds wrong with the cipher of a key. -/
def cipherClash (conf : KeyConf) (sdata : ι) (sta : Option σ) : Bool :=
  let old := t.slot (slotOf sdata sta conf.pairwise conf.keyidx)
  let otherCipher (other : Option κ) : Bool :=
    other.any fun other => (t.keys other).conf.cipher ≠ conf.cipher
  match sta, conf.pairwise with
  | some sta, true => otherCipher (t.slot (.ptk sta (conf.keyidx ^^^ 1))) || otherCipher old
  | none, true => false
  | _, false => otherCipher old

/-- `ieee80211_key_link` of a key just allocated at `k`. -/
def keyLink (k : κ) (conf : KeyConf) (sdata : ι) (sta : Option σ) : Tables ι σ κ × Int :=
  let delayTailroom : Bool := l.type sdata = .station
  let old := t.slot (slotOf sdata sta conf.pairwise conf.keyidx)
  if cipherClash t conf sdata sta then (t, -eOPNOTSUPP)
  else if keyIdentical l sdata (old.map t.keys) conf then (t, 0)
  else
    let s := t.toState.setKeyAt k { sdata := sdata, sta := sta, conf := conf }
    let t := { t with toState := incrementTailroomNeedCount l s sdata }
    let (t, ret) := keyReplace l env t sdata sta conf.pairwise old (some k)
    if ret = 0 then
      (match old with
        | some old => { t with toState := keyDestroy l t.toState old delayTailroom }
        | none => t, ret)
    else (keyFree l env t k delayTailroom, ret)

end

/-! ## What is asked -/

/-- The memory of the new key is not in use. -/
structure Unused (t : Tables ι σ κ) (k : κ) : Prop where
  keyList : ∀ i, k ∉ t.keyList i
  slot : ∀ at', t.slot at' ≠ some k
  unicast : ∀ i, t.defaultUnicastKey i ≠ some k
  multicast : ∀ i, t.defaultMulticastKey i ≠ some k
  mgmt : ∀ i, t.defaultMgmtKey i ≠ some k

/-- A key of the interface that one of the pointers leads to. -/
def Reachable (t : Tables ι σ κ) (i : ι) (k : κ) : Prop :=
  (t.keys k).sdata = i ∧ ((∃ at', t.slot at' = some k) ∨ t.defaultUnicastKey i = some k ∨
    t.defaultMulticastKey i = some k ∨ t.defaultMgmtKey i = some k)

/-- The key under which frames go to a station. -/
def txKey (t : Tables ι σ κ) (sta : σ) : Option κ := t.slot (.ptk sta (t.ptkIdx sta))

/-- No pointer to a key has changed; the list of an interface still holds what can be reached, and
no station is left without its key. -/
structure Untouched (before after : Tables ι σ κ) : Prop where
  slot : after.slot = before.slot
  ptkIdx : after.ptkIdx = before.ptkIdx
  unicast : after.defaultUnicastKey = before.defaultUnicastKey
  multicast : after.defaultMulticastKey = before.defaultMulticastKey
  mgmt : after.defaultMgmtKey = before.defaultMgmtKey
  listed : (∀ i k, k ∈ before.keyList i ↔ Reachable before i k) →
    ∀ i k, k ∈ after.keyList i ↔ Reachable after i k
  keyed : ∀ sta, (txKey before sta).isSome → (txKey after sta).isSome

/-- The answer to `SET_KEY`, or why the key is not offered. -/
def answer (l : Local ι) (env : Env σ κ) (k : κ) (key : Key ι σ) : Int :=
  (refusal l env key).getD (env.setKey k).1

/-- The hardware takes the key, or it can be left to software. -/
def Accepted (l : Local ι) (env : Env σ κ) (k : κ) (key : Key ι σ) : Prop :=
  answer l env k key = 0 ∨ outUnsupported l (answer l env k key) key.conf.cipher = 0

/-- The condition: a key that would take the place of one in the hardware is accepted, or turned
away before, for its cipher or as the same key. -/
def Harmless (l : Local ι) (env : Env σ κ) (t : Tables ι σ κ) (k : κ) (conf : KeyConf) (sdata : ι)
    (sta : Option σ) : Prop :=
  ∀ old, t.slot (slotOf sdata sta conf.pairwise conf.keyidx) = some old →
    (t.keys old).uploaded → cipherClash t conf sdata sta = false →
    keyIdentical l sdata (some (t.keys old)) conf = false →
    Accepted l env k { sdata := sdata, sta := sta, conf := conf }

/-! ## A replacement that fails -/

section

variable {l : Local ι} {env : Env σ κ} {s s' : State ι σ κ} {k : κ}

/-- The default keys are left alone. -/
theorem keyReplace_failed (t : Tables ι σ κ) (sdata : ι) (sta : Option σ) (pairwise : Bool)
    (old new : Option κ)
    (failed : (Keys.keyReplace l env t.toState sdata sta pairwise old new).2 ≠ 0) :
    (keyReplace l env t sdata sta pairwise old new).1 =
      { t with
        toState := (Keys.keyReplace l env t.toState sdata sta pairwise old new).1 } := by
  unfold keyReplace
  dsimp only
  rw [decide_eq_false failed, Bool.false_and, if_neg Bool.false_ne_true]

/-! ## Offering a key -/

/-- Only flags of keys and counters have changed. -/
structure Still (s s' : State ι σ κ) : Prop extends Kept s s' where
  ptkIdx : s'.ptkIdx = s.ptkIdx

omit [DecidableEq ι] [DecidableEq σ] [DecidableEq κ] in
theorem Still.trans {s'' : State ι σ κ} (first : Still s s') (second : Still s' s'') :
    Still s s'' :=
  ⟨first.toKept.trans second.toKept, second.ptkIdx.trans first.ptkIdx⟩

omit [DecidableEq σ] in
theorem still_enable (s : State ι σ κ) (k : κ) : Still s (keyEnableHwAccel l env s k).1 := by
  refine ⟨kept_enable s k, ?_⟩
  rw [enable_eq]
  rfl

omit [DecidableEq σ] in
/-- What `ieee80211_key_disable_hw_accel` does to the tables. -/
theorem still_disable (l : Local ι) (s : State ι σ κ) (k : κ) :
    Still s (keyDisableHwAccel l s k) ∧
      ∀ k', k' ≠ k → (keyDisableHwAccel l s k).keys k' = s.keys k' := by
  have rest : (keyDisableHwAccel l s k).ptkIdx = s.ptkIdx ∧
      ∀ k', k' ≠ k → (keyDisableHwAccel l s k).keys k' = s.keys k' := by
    unfold keyDisableHwAccel
    extract_lets key counted
    have same : counted.ptkIdx = s.ptkIdx ∧ counted.keys = s.keys := by
      change (if !key.flags.any then incrementTailroomNeedCount l s key.sdata else s).ptkIdx = _ ∧
        (if !key.flags.any then incrementTailroomNeedCount l s key.sdata else s).keys = _
      split
      · rw [increment_eq_shift]
        exact ⟨rfl, rfl⟩
      · exact ⟨rfl, rfl⟩
    split
    · exact ⟨rfl, fun _ _ => rfl⟩
    · refine ⟨same.1, fun k' other => ?_⟩
      rw [setKeyAt_keys_of_ne counted other, same.2]
  exact ⟨⟨kept_disable s k, rest.1⟩, rest.2⟩

omit [DecidableEq ι] [DecidableEq σ] [DecidableEq κ] in
theorem refusal_ne_zero {key : Key ι σ} {ret : Int} (refused : refusal l env key = some ret) :
    ret ≠ 0 := by
  have unsupported : -eOPNOTSUPP ≠ 0 := by decide
  unfold refusal at refused
  split at refused
  · exact Option.some.inj refused ▸ unsupported
  · split at refused
    · exact Option.some.inj refused ▸ unsupported
    · split at refused
      · exact Option.some.inj refused ▸ unsupported
      · split at refused
        · split at refused
          · exact Option.some.inj refused ▸ Int.one_ne_zero
          · exact absurd refused.symm (Option.some_ne_none ret)
        · exact absurd refused.symm (Option.some_ne_none ret)

omit [DecidableEq σ] in
theorem enable_zero_iff (l : Local ι) (env : Env σ κ) (clean : (s.keys k).tainted = false) :
    (keyEnableHwAccel l env s k).2 = 0 ↔ Accepted l env k (s.keys k) := by
  unfold keyEnableHwAccel Accepted answer
  extract_lets key counted
  rw [if_neg (by rw [clean]; exact Bool.false_ne_true)]
  cases refused : refusal l env key with
  | some ret =>
    have failed := refusal_ne_zero refused
    change outUnsupported l ret key.conf.cipher = 0 ↔
      ret = 0 ∨ outUnsupported l ret key.conf.cipher = 0
    exact ⟨Or.inr, fun either => either.resolve_left failed⟩
  | none =>
    change _ ↔ (env.setKey k).1 = 0 ∨ outUnsupported l (env.setKey k).1 key.conf.cipher = 0
    by_cases taken : (env.setKey k).1 = 0
    · simp only [if_pos taken]
      exact iff_of_true trivial (Or.inl taken)
    · simp only [if_neg taken]
      exact ⟨Or.inr, fun either => either.resolve_left taken⟩

omit [DecidableEq σ] in
/-- A key that takes the place of one in the hardware is offered, with that one disabled. -/
theorem hwKeyReplace_offers (l : Local ι) (env : Env σ κ) {old : κ}
    (up : (s.keys old).uploaded) (other : k ≠ old) (pairwise : Bool) :
    ∃ s', Still s s' ∧ s'.keys k = s.keys k ∧
      hwKeyReplace l env s old (some k) pairwise = keyEnableHwAccel l env s' k := by
  unfold hwKeyReplace
  extract_lets oldKey current marked disabled
  have mark : Still s marked ∧ marked.keys k = s.keys k := by
    have either : marked = s.setKeyAt old { oldKey with tainted := true } ∨ marked = s :=
      ite_eq_or_eq ..
    rcases either with tainted | same
    · rw [tainted]
      exact ⟨⟨kept_setKeyAt s old rfl, rfl⟩, setKeyAt_keys_of_ne s other _⟩
    · rw [same]
      exact ⟨⟨Kept.refl s, rfl⟩, rfl⟩
  obtain ⟨off, others⟩ := still_disable l marked old
  refine ⟨disabled, mark.1.trans off, (others k other).trans mark.2, if_neg ?_⟩
  simp [oldKey, up]

omit [DecidableEq σ] in
/-- A key that is not in the hardware can be replaced by any other. -/
theorem hwKeyReplace_idle (l : Local ι) (env : Env σ κ) {old : κ}
    (down : ¬ (s.keys old).uploaded = true) (new : Option κ) (pairwise : Bool) :
    hwKeyReplace l env s old new pairwise = (s, 0) :=
  if_pos (by simpa using down)

omit [DecidableEq σ] in
theorem still_hwKeyReplace_none (l : Local ι) (env : Env σ κ) (s : State ι σ κ) (k : κ)
    (pairwise : Bool) :
    Still s (hwKeyReplace l env s k none pairwise).1 := by
  unfold hwKeyReplace
  extract_lets oldKey current marked disabled
  split
  · exact ⟨Kept.refl s, rfl⟩
  · exact (still_disable l s k).1

/-! ## A refused key -/

/-- An old key is replaced by one that is refused if it is in the hardware. -/
theorem keyReplace_refused_iff (l : Local ι) (env : Env σ κ) {old : κ}
    (clean : (s.keys k).tainted = false) (other : k ≠ old) (sdata : ι) (sta : Option σ)
    (pairwise : Bool) :
    (Keys.keyReplace l env s sdata sta pairwise (some old) (some k)).2 ≠ 0 ↔
      (s.keys old).uploaded ∧ ¬ Accepted l env k (s.keys k) := by
  rw [keyReplace_second]
  by_cases up : (s.keys old).uploaded = true
  · obtain ⟨s', -, same, offers⟩ := hwKeyReplace_offers l env
      (s := listAddTail s k sdata) up other pairwise
    have zero := enable_zero_iff l env (s := s') (k := k)
      (by rw [same]; exact clean)
    rw [same] at zero
    change _ ↔ Accepted l env k (s.keys k) at zero
    rw [offers, ← zero]
    dsimp only
    split
    · next failed => exact iff_of_true failed ⟨up, failed⟩
    · next taken => exact iff_of_false (fun differs => differs rfl) fun refused => taken refused.2
  · rw [hwKeyReplace_idle l env (s := listAddTail s k sdata) up]
    exact iff_of_false (fun differs => differs rfl) fun refused => up refused.1

/-- A key that is refused has been entered in the list. -/
theorem still_of_refused {old : Option κ} (other : old ≠ some k) {sdata : ι} {sta : Option σ}
    {pairwise : Bool}
    (refused : (Keys.keyReplace l env s sdata sta pairwise old (some k)).2 ≠ 0) :
    Still (listAddTail s k sdata)
      (Keys.keyReplace l env s sdata sta pairwise old (some k)).1 := by
  cases old with
  | none =>
    have enters : Still (listAddTail s k sdata)
        (if (!env.wowlan) = true then keyEnableHwAccel l env (listAddTail s k sdata) k
          else (listAddTail s k sdata, 0)).1 := by
      split
      · exact still_enable _ k
      · exact ⟨Kept.refl _, rfl⟩
    rw [keyReplace_first] at refused ⊢
    dsimp only at refused ⊢
    generalize (if (!env.wowlan) = true then keyEnableHwAccel l env (listAddTail s k sdata) k
      else (listAddTail s k sdata, 0)) = entered at enters refused ⊢
    split at refused
    · next failed =>
        rw [if_pos failed]
        exact enters
    · exact absurd rfl refused
  | some old =>
    have differ : k ≠ old := fun same => other (congrArg some same.symm)
    rw [keyReplace_second] at refused ⊢
    dsimp only at refused ⊢
    split at refused
    · next failed =>
        rw [if_pos failed]
        by_cases up : (s.keys old).uploaded = true
        · obtain ⟨s', still, -, offers⟩ := hwKeyReplace_offers l env
            (s := listAddTail s k sdata) up differ pairwise
          rw [offers]
          exact still.trans (still_enable s' k)
        · rw [hwKeyReplace_idle l env (s := listAddTail s k sdata) up] at failed
          exact absurd rfl failed
    · exact absurd rfl refused

/-- What is left of a key that has been freed: an empty slot. -/
structure Emptied (s s' : State ι σ κ) (place : Slot ι σ) : Prop where
  slot : s'.slot = update s.slot place none
  ptkIdx : s'.ptkIdx = s.ptkIdx
  keyList : s'.keyList = s.keyList
  ident : ∀ k, (s'.keys k).ident = (s.keys k).ident

omit [DecidableEq κ] in
theorem Emptied.destroyed {place : Slot ι σ} (emptied : Emptied s s' place) (k : κ)
    (delayTailroom : Bool) : Emptied s (keyDestroy l s' k delayTailroom) place := by
  unfold keyDestroy
  dsimp only
  split
  · exact ⟨emptied.slot, emptied.ptkIdx, emptied.keyList, emptied.ident⟩
  · rw [decrease_eq_shift]
    exact ⟨emptied.slot, emptied.ptkIdx, emptied.keyList, emptied.ident⟩

omit [DecidableEq κ] in
theorem assignSlot_none (s : State ι σ κ) (sdata : ι) (sta : Option σ) (pairwise : Bool)
    (idx : Nat) : assignSlot s sdata sta pairwise idx none =
      s.setSlot (slotOf sdata sta pairwise idx) none := by
  cases sta <;> rfl

/-- A key that was entered is freed again. -/
theorem emptied_keyFree (l : Local ι) (env : Env σ κ) (fresh : ∀ i, k ∉ s.keyList i)
    {key : Key ι σ} (its : s.keys k = key)
    (still : Still (listAddTail s k key.sdata) s') (delayTailroom : Bool) :
    Emptied s (Keys.keyFree l env s' k delayTailroom) key.slot := by
  subst its
  have unlinked : Emptied s (unlinkKey l env s' k) (s.keys k).slot := by
    have quiet := still.trans
      (still_hwKeyReplace_none l env s' k (s'.keys k).pairwise)
    rw [unlinkKey_eq, assignSlot_none]
    change Emptied s (listDel ((hwKeyReplace l env s' k none (s'.keys k).pairwise).1.setSlot
      (s'.keys k).slot none) k) (s.keys k).slot
    rw [Key.slot_congr (still.ident k)]
    generalize (hwKeyReplace l env s' k none (s'.keys k).pairwise).1 = s'' at quiet ⊢
    refine ⟨?_, quiet.ptkIdx, ?_, quiet.ident⟩
    · exact congrArg (fun slot => update slot (s.keys k).slot none) quiet.slot
    · change update s''.keyList (s''.keys k).sdata
        ((s''.keyList (s''.keys k).sdata).erase k) = s.keyList
      rw [quiet.sdata, quiet.keyList]
      change update (listAddTail s k (s.keys k).sdata).keyList (s.keys k).sdata
        (((listAddTail s k (s.keys k).sdata).keyList (s.keys k).sdata).erase k) = _
      rw [keyList_listAddTail_self, List.erase_append_right _ (fresh _), List.erase_cons_head,
        List.append_nil]
      change update (update s.keyList (s.keys k).sdata _) _ _ = _
      rw [update_idem, update_eq_self]
  exact unlinked.destroyed k delayTailroom

end

/-! ## The default keys -/

section

variable {l : Local ι} {env : Env σ κ} {t : Tables ι σ κ} {k : κ}

omit [DecidableEq σ] in
theorem replaceDefaults_unused (unused : Unused t k) (s : State ι σ κ) (sdata : ι)
    (new : Option κ) :
    replaceDefaults { t with toState := s } sdata (some k) new = { t with toState := s } := by
  have unicast := Ne.symm (unused.unicast sdata)
  have multicast := Ne.symm (unused.multicast sdata)
  have mgmt := Ne.symm (unused.mgmt sdata)
  unfold replaceDefaults
  dsimp only
  rw [decide_eq_false unicast, decide_eq_false multicast, decide_eq_false mgmt]
  rfl

/-- The default keys stay as they are when a new key is freed. -/
theorem keyFree_unused (unused : Unused t k) (s : State ι σ κ) (delayTailroom : Bool) :
    keyFree l env { t with toState := s } k delayTailroom =
      { t with toState := Keys.keyFree l env s k delayTailroom } := by
  unfold keyFree Keys.keyFree keyReplace
  dsimp only
  split
  · rw [replaceDefaults_unused unused]
  · rfl

/-! ## Linking a key -/

omit [DecidableEq ι] [DecidableEq σ] [DecidableEq κ] in
theorem Untouched.refl (t : Tables ι σ κ) : Untouched t t :=
  { slot := rfl
    ptkIdx := rfl
    unicast := rfl
    multicast := rfl
    mgmt := rfl
    listed := fun listed => listed
    keyed := fun _ held => held }

/-- The tables with the new key in its memory, and counted. -/
def allocated (l : Local ι) (t : Tables ι σ κ) (k : κ) (key : Key ι σ) : State ι σ κ :=
  incrementTailroomNeedCount l (t.setKeyAt k key) key.sdata

omit [DecidableEq σ] in
theorem allocated_eq (l : Local ι) (t : Tables ι σ κ) (k : κ) (key : Key ι σ) :
    (allocated l t k key).slot = t.slot ∧ (allocated l t k key).ptkIdx = t.ptkIdx ∧
      (allocated l t k key).keyList = t.keyList ∧ (allocated l t k key).keys k = key ∧
      ∀ k', k' ≠ k → (allocated l t k key).keys k' = t.keys k' := by
  unfold allocated
  rw [increment_eq_shift]
  exact ⟨rfl, rfl, rfl, setKeyAt_keys_self _ _ _, fun k' other => setKeyAt_keys_of_ne _ other _⟩

/-- When a new key has been freed, all is as before if its slot was empty. -/
theorem untouched_emptied_iff (unused : Unused t k) {key : Key ι σ} {s' : State ι σ κ}
    (emptied : Emptied (allocated l t k key) s' key.slot) :
    Untouched t { t with toState := s' } ↔ t.slot key.slot = none := by
  obtain ⟨slot, ptkIdx, keyList, -, others⟩ := allocated_eq l t k key
  refine ⟨fun untouched => ?_, fun empty => ?_⟩
  · rw [← untouched.slot]
    change s'.slot key.slot = none
    rw [emptied.slot, update_self]
  · have slots : s'.slot = t.slot := by
      rw [emptied.slot, slot, ← empty, update_eq_self]
    have index : s'.ptkIdx = t.ptkIdx := emptied.ptkIdx.trans ptkIdx
    refine ⟨slots, index, rfl, rfl, rfl, fun listed i k' => ?_, fun sta held => ?_⟩
    · change k' ∈ s'.keyList i ↔ Reachable _ i k'
      rw [emptied.keyList, keyList, listed]
      unfold Reachable
      dsimp only
      rw [slots]
      by_cases new : k' = k
      · rw [new]
        have unheld : ¬ ((∃ at', t.slot at' = some k) ∨ t.defaultUnicastKey i = some k ∨
            t.defaultMulticastKey i = some k ∨ t.defaultMgmtKey i = some k) := by
          rintro (⟨at', held⟩ | held | held | held)
          · exact unused.slot at' held
          · exact unused.unicast i held
          · exact unused.multicast i held
          · exact unused.mgmt i held
        exact iff_of_false (fun both => unheld both.2) fun both => unheld both.2
      · have same : (s'.keys k').sdata = (t.keys k').sdata := by
          have ident := congrArg Prod.fst (emptied.ident k')
          rw [others k' new] at ident
          exact ident
        rw [same]
    · change (s'.slot (.ptk sta (s'.ptkIdx sta))).isSome
      rw [slots, index]
      exact held

/-- The memory of a new key. -/
def newKey (conf : KeyConf) (sdata : ι) (sta : Option σ) : Key ι σ :=
  { sdata := sdata, sta := sta, conf := conf }

/-- How `ieee80211_key_link` ends for a key that it has not turned away. -/
theorem keyLink_entered (l : Local ι) (env : Env σ κ) {conf : KeyConf} {sdata : ι}
    {sta : Option σ} {old : Option κ}
    (held : t.slot (slotOf sdata sta conf.pairwise conf.keyidx) = old)
    (fits : cipherClash t conf sdata sta = false)
    (differs : keyIdentical l sdata (old.map t.keys) conf = false)
    {r : State ι σ κ × Int}
    (replaced : Keys.keyReplace l env (allocated l t k (newKey conf sdata sta)) sdata sta
      conf.pairwise old (some k) = r) :
    (keyLink l env t k conf sdata sta).2 = r.2 ∧
      (r.2 ≠ 0 → (keyLink l env t k conf sdata sta).1 =
        keyFree l env { t with toState := r.1 } k (l.type sdata = .station)) := by
  subst held replaced
  unfold keyLink
  dsimp only
  rw [if_neg (by rw [fits]; exact Bool.false_ne_true),
    if_neg (by rw [differs]; exact Bool.false_ne_true)]
  split
  · next accepted => exact ⟨rfl, fun refused => absurd accepted refused⟩
  · next refused =>
      exact ⟨rfl, fun _ => congrArg (fun t => keyFree l env t k (l.type sdata = .station))
        (keyReplace_failed _ _ _ _ _ _ refused)⟩

section

variable {conf : KeyConf} {sdata : ι} {sta : Option σ} {old : Option κ}

omit [DecidableEq ι] [DecidableEq σ] [DecidableEq κ] in
/-- An old key is never the new one. -/
theorem ne_of_held (unused : Unused t k)
    (held : t.slot (slotOf sdata sta conf.pairwise conf.keyidx) = old) : old ≠ some k := by
  rw [← held]
  exact unused.slot _

theorem allocated_refused_iff (l : Local ι) (env : Env σ κ) {o : κ} (other : k ≠ o) :
    (Keys.keyReplace l env (allocated l t k (newKey conf sdata sta)) sdata sta conf.pairwise
        (some o) (some k)).2 ≠ 0 ↔
      (t.keys o).uploaded ∧ ¬ Accepted l env k (newKey conf sdata sta) := by
  obtain ⟨-, -, -, new, others⟩ := allocated_eq l t k (newKey conf sdata sta)
  have clean : ((allocated l t k (newKey conf sdata sta)).keys k).tainted = false := by
    rw [new]
    rfl
  have refused := keyReplace_refused_iff l env clean other sdata sta conf.pairwise
  rw [new, others o (Ne.symm other)] at refused
  exact refused

/-- A key that is refused after it was entered empties its slot. -/
theorem untouched_refused_iff (unused : Unused t k)
    (held : t.slot (slotOf sdata sta conf.pairwise conf.keyidx) = old)
    (fits : cipherClash t conf sdata sta = false)
    (differs : keyIdentical l sdata (old.map t.keys) conf = false)
    (refused : (Keys.keyReplace l env (allocated l t k (newKey conf sdata sta)) sdata sta
      conf.pairwise old (some k)).2 ≠ 0) :
    Untouched t (keyLink l env t k conf sdata sta).1 ↔ old = none := by
  obtain ⟨-, -, keyList, new, -⟩ := allocated_eq l t k (newKey conf sdata sta)
  have fresh : ∀ i, k ∉ (allocated l t k (newKey conf sdata sta)).keyList i := by
    rw [keyList]
    exact unused.keyList
  have still := still_of_refused (ne_of_held unused held) refused
  have emptied := emptied_keyFree l env fresh new still (l.type sdata = .station)
  have freed := (keyLink_entered l env held fits differs rfl).2 refused
  rw [freed, keyFree_unused unused]
  subst held
  exact untouched_emptied_iff unused emptied

end

/-- A refused key leaves the tables alone exactly when it does not take the place of a key in the
hardware. -/
theorem untouched_iff (l : Local ι) (env : Env σ κ) (unused : Unused t k) (conf : KeyConf)
    (sdata : ι) (sta : Option σ) :
    ((keyLink l env t k conf sdata sta).2 ≠ 0 →
        Untouched t (keyLink l env t k conf sdata sta).1) ↔
      Harmless l env t k conf sdata sta := by
  cases clash : cipherClash t conf sdata sta with
  | true =>
    have away : keyLink l env t k conf sdata sta = (t, -eOPNOTSUPP) := if_pos clash
    rw [away]
    refine iff_of_true (fun _ => Untouched.refl t) fun _ _ _ fits => ?_
    exact absurd (fits.symm.trans clash) Bool.false_ne_true
  | false =>
    generalize held : t.slot (slotOf sdata sta conf.pairwise conf.keyidx) = old
    cases same : keyIdentical l sdata (old.map t.keys) conf with
    | true =>
      have accepted : (keyLink l env t k conf sdata sta).2 = 0 := by
        unfold keyLink
        dsimp only
        rw [if_neg (by rw [clash]; exact Bool.false_ne_true), held, if_pos same]
      refine iff_of_true (fun failed => absurd accepted failed) fun o its _ _ differs => ?_
      rw [its] at held
      subst held
      exact absurd (differs.symm.trans same) Bool.false_ne_true
    | false =>
      have ret := (keyLink_entered l env (k := k) held clash same rfl).1
      have refused_iff : ∀ o, old = some o →
          ((keyLink l env t k conf sdata sta).2 ≠ 0 ↔
            (t.keys o).uploaded ∧ ¬ Accepted l env k (newKey conf sdata sta)) := by
        intro o its
        subst its
        have other : k ≠ o := fun its => ne_of_held unused held (congrArg some its.symm)
        rw [ret]
        exact allocated_refused_iff l env other
      by_cases done : (keyLink l env t k conf sdata sta).2 = 0
      · refine iff_of_true (fun failed => absurd done failed) fun o its up _ _ => ?_
        by_contra refused
        exact (refused_iff o (held.symm.trans its)).mpr ⟨up, refused⟩ done
      · have untouched := untouched_refused_iff unused held clash same
          (fun zero => done (ret.trans zero))
        cases old with
        | none =>
          refine iff_of_true (fun _ => untouched.mpr rfl) fun o its => ?_
          exact absurd (held.symm.trans its).symm (Option.some_ne_none o)
        | some o =>
          obtain ⟨up, refused⟩ := (refused_iff o rfl).mp done
          refine iff_of_false (fun kept => ?_) fun harmless => ?_
          · exact absurd (untouched.mp (kept done)) (Option.some_ne_none o)
          · exact refused (harmless o held up clash same)

end

/-! A station interface whose peer has the pairwise key at `false`; the driver has no room for
the one at `true`. -/

def oneStation : Local Unit where
  type _ := .station
  interfaces := [()]
  running _ := true
  setKeyOp := true
  supportsPerStaGtk := false
  swCryptoControl := true
  masterIsAp := fun isVlan => by cases isVlan
  once := by decide
  all := by decide

def noRoom : Env Unit Bool := { setKey := fun _ => (-28, {}), staUploaded := fun _ => true }

def ccmpKey (key : List UInt8) : KeyConf :=
  { keyidx := 0, pairwise := true, cipher := .ccmp, key }

def keyed (uploaded : Bool) : Tables Unit Unit Bool where
  keys _ := { sdata := (), sta := some (), conf := ccmpKey [1], uploaded }
  keyList _ := [false]
  slot place := if place = .ptk () 0 then some false else none
  ptkIdx _ := 0
  neededCnt _ := 0
  pendingDec _ := 0
  defaultUnicastKey _ := none
  defaultMulticastKey _ := none
  defaultMgmtKey _ := none

theorem unused_keyed (uploaded : Bool) : Unused (keyed uploaded) true := by
  refine ⟨fun _ present => ?_, fun place held => ?_, fun _ held => ?_, fun _ held => ?_,
    fun _ held => ?_⟩
  · exact Bool.false_ne_true (List.mem_singleton.mp present).symm
  · change (if place = .ptk () 0 then some false else none) = some true at held
    split at held
    · exact Bool.false_ne_true (Option.some.inj held)
    · exact absurd held.symm (Option.some_ne_none true)
  · exact absurd held.symm (Option.some_ne_none true)
  · exact absurd held.symm (Option.some_ne_none true)
  · exact absurd held.symm (Option.some_ne_none true)

/-- The key for the other index is refused too, but takes no key's place. -/
theorem untouched_other :
    let conf := { ccmpKey [2] with keyidx := 1 }
    (keyLink oneStation noRoom (keyed true) true conf () (some ())).2 = -eINVAL ∧
      Untouched (keyed true) (keyLink oneStation noRoom (keyed true) true conf () (some ())).1 := by
  intro conf
  have refused : (keyLink oneStation noRoom (keyed true) true conf () (some ())).2 = -eINVAL := by
    decide +kernel
  refine ⟨refused, (untouched_iff oneStation noRoom (unused_keyed true) conf () (some ())).mpr ?_
    (by rw [refused]; decide)⟩
  exact fun old held => nomatch held

/-- The new key is refused, and the station is left without any. -/
theorem not_untouched :
    Unused (keyed true) true ∧
      (keyLink oneStation noRoom (keyed true) true (ccmpKey [2]) () (some ())).2 = -eINVAL ∧
      ¬ Untouched (keyed true)
        (keyLink oneStation noRoom (keyed true) true (ccmpKey [2]) () (some ())).1 := by
  refine ⟨unused_keyed true, by decide +kernel, fun untouched => ?_⟩
  exact absurd (untouched.keyed () (by decide +kernel)) (by decide +kernel)

end Iwlwifi.KeyRefused
