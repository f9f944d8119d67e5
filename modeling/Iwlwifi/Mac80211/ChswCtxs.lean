import Mathlib.Data.List.Nodup
import Mathlib.Logic.Function.Basic
import Mathlib.Algebra.Ring.Nat

/-!
# Swapping channel contexts

`ieee80211_chsw_switch_ctxs` of `net/mac80211/chan.c` and what it calls there and in
`driver-ops.h`.  Each context that replaces another one is swapped with it in the driver, and where
the driver refuses one, the swaps before it are undone.  The one that was refused is half done at
that moment: the context it replaces is removed already.  The rollback adds the refused context a
second time instead of that one, so it stays removed (`switchCtxs_of_refused`).
-/

namespace Iwlwifi.ChswCtxs

/-! ## The contexts -/

variable {ι : Type*}

/-- `replace_state`, with `replace_ctx` where it is set. -/
inductive Replace (ι : Type*) where
  | none
  | willBeReplaced (by' : ι)
  | replacesOther (old : ι)

/-- What is used of `struct ieee80211_chanctx`. -/
structure Chanctx (ι : Type*) where
  replace : Replace ι
  /-- The number of interfaces on `assigned_vifs`. -/
  assignedVifs : Nat

/-- What is used of `struct ieee80211_local`.  `ieee80211_vif_reserve_chanctx` makes two contexts a
pair, in both of them. -/
structure Local (ι : Type*) where
  useChanctx : Bool
  chanctxList : List ι
  ctx : ι → Chanctx ι
  distinct : chanctxList.Nodup
  paired : ∀ c old, (ctx c).replace = .replacesOther old → (ctx old).replace = .willBeReplaced c

/-- The context that is to be replaced by `c` here, if `c` takes part. -/
def Local.replaceCtx (s : Local ι) (c : ι) : Option ι :=
  match (s.ctx c).replace with
  | .replacesOther old => if (s.ctx old).assignedVifs = 0 then some old else none
  | _ => none

/-- The driver: `driver_present` of each context, and how often one was added so far. -/
structure Driver (ι : Type*) where
  present : ι → Bool
  adds : Nat

/-! ## The functions -/

section Functions

variable [DecidableEq ι] (s : Local ι) (answers : Nat → ι → Int)

/-- `drv_add_chanctx` -/
def drvAddChanctx (d : Driver ι) (c : ι) : Driver ι × Int :=
  let ret := answers d.adds c
  (⟨if ret = 0 then Function.update d.present c true else d.present, d.adds + 1⟩, ret)

/-- `drv_remove_chanctx` -/
def drvRemoveChanctx (d : Driver ι) (c : ι) : Driver ι :=
  if d.present c then { d with present := Function.update d.present c false } else d

/-- `ieee80211_add_chanctx` -/
def addChanctx (d : Driver ι) (c : ι) : Driver ι × Int :=
  if s.useChanctx then drvAddChanctx answers d c else (d, 0)

/-- `ieee80211_del_chanctx` -/
def delChanctx (d : Driver ι) (c : ι) : Driver ι :=
  if s.useChanctx then drvRemoveChanctx d c else d

/-- Where the loop was left: the error, the context, and those before it, the last one first. -/
structure Failed (ι : Type*) where
  err : Int
  ctx : ι
  passed : List ι
  driver : Driver ι

/-- The loop over the contexts. -/
def swapLoop : List ι → List ι → Driver ι → Except (Failed ι) (Driver ι)
  | _, [], d => .ok d
  | passed, c :: rest, d =>
    match s.replaceCtx c with
    | none => swapLoop (c :: passed) rest d
    | some old =>
      let (d, err) := addChanctx s answers (delChanctx s d old) c
      if err = 0 then swapLoop (c :: passed) rest d else .error ⟨err, c, passed, d⟩

/-- The loop that goes back. -/
def rollback : List ι → Driver ι → Driver ι
  | [], d => d
  | c :: rest, d =>
    match s.replaceCtx c with
    | none => rollback rest d
    | some old => rollback rest (addChanctx s answers (delChanctx s d c) old).1

/-- `ieee80211_chsw_switch_ctxs` -/
def chswSwitchCtxs (d : Driver ι) : Driver ι × Int :=
  match swapLoop s answers [] s.chanctxList d with
  | .ok d => (d, 0)
  | .error failed =>
    let d := (addChanctx s answers failed.driver failed.ctx).1
    (rollback s answers failed.passed d, failed.err)

end Functions

/-! ## The pairs -/

section Pairs

variable {s : Local ι} {c old : ι}

theorem replaceCtx_eq_some (takes : s.replaceCtx c = some old) :
    (s.ctx c).replace = .replacesOther old := by
  rw [Local.replaceCtx] at takes
  split at takes
  · next old' replaces =>
      split at takes
      · cases takes
        exact replaces
      · cases takes
  · cases takes

/-- A context is replaced by one only. -/
theorem replaceCtx_inj {c' : ι} (takes : s.replaceCtx c = some old)
    (takes' : s.replaceCtx c' = some old) : c = c' := by
  have pair := s.paired _ _ (replaceCtx_eq_some takes)
  rw [s.paired _ _ (replaceCtx_eq_some takes')] at pair
  cases pair
  rfl

/-- A context that replaces another one is not replaced itself. -/
theorem replaceCtx_ne {c' old' : ι} (takes : s.replaceCtx c = some old)
    (takes' : s.replaceCtx c' = some old') : old ≠ c' := by
  rintro rfl
  have pair := s.paired _ _ (replaceCtx_eq_some takes)
  rw [replaceCtx_eq_some takes'] at pair
  cases pair

end Pairs

/-! ## What the driver calls change -/

section Effects

variable [DecidableEq ι] {s : Local ι} {answers : Nat → ι → Int} {d : Driver ι} {c old x : ι}

theorem addChanctx_other (other : x ≠ c) :
    (addChanctx s answers d c).1.present x = d.present x := by
  rw [addChanctx]
  split
  · rw [drvAddChanctx]
    dsimp only
    split
    · exact Function.update_of_ne other _ _
    · rfl
  · rfl

theorem delChanctx_other (other : x ≠ c) : (delChanctx s d c).present x = d.present x := by
  rw [delChanctx]
  split
  · rw [drvRemoveChanctx]
    split
    · exact Function.update_of_ne other _ _
    · rfl
  · rfl

theorem delChanctx_self (uses : s.useChanctx = true) : (delChanctx s d c).present c = false := by
  rw [delChanctx, if_pos uses, drvRemoveChanctx]
  split
  · exact Function.update_self _ _ _
  · next absent => simpa using absent

theorem delChanctx_adds : (delChanctx s d c).adds = d.adds := by
  rw [delChanctx]
  split
  · rw [drvRemoveChanctx]
    split
    · rfl
    · rfl
  · rfl

end Effects

/-! ## A switch -/

/-- The contexts that take part. -/
def Local.participants (s : Local ι) : List ι :=
  s.chanctxList.filter fun c => (s.replaceCtx c).isSome

/-- A call of the function: the state, what the driver has, and what it will answer. -/
structure Call (ι : Type*) extends Local ι where
  present : ι → Bool
  answers : Nat → ι → Int
  replacingAbsent : ∀ c old, toLocal.replaceCtx c = some old → present c = false
  replacedPresent : ∀ c old, toLocal.replaceCtx c = some old → present old = true

variable [DecidableEq ι]

def Call.result (call : Call ι) : Driver ι × Int :=
  chswSwitchCtxs call.toLocal call.answers ⟨call.present, 0⟩

/-- The driver accepts a context again that it had before the call. -/
def Call.AcceptsAgain (call : Call ι) : Prop :=
  ∀ n c, call.present c = true → call.answers n c = 0

/-- Where an error is returned, a driver that accepts again what it had has the contexts that it
had before. -/
def Call.RolledBack (call : Call ι) : Prop :=
  call.AcceptsAgain → call.result.2 ≠ 0 → call.result.1.present = call.present

/-- The driver refuses none of the replacing contexts when it is added in its turn, or the hardware
has no contexts. -/
def Call.Accepted (call : Call ι) : Prop :=
  call.useChanctx = true →
    ∀ i c, call.participants[i]? = some c → call.answers i c = 0

/-! ## The loop -/

section Loop

variable {s : Local ι} {answers : Nat → ι → Int} {d : Driver ι} {c old : ι} {passed rest : List ι}

/-- How an answer of the driver counts. -/
theorem addChanctx_result : (addChanctx s answers d c).2 = 0 ↔
    (s.useChanctx = true → answers d.adds c = 0) := by
  rw [addChanctx]
  split
  · next uses => exact ⟨fun zero _ => zero, fun zero => zero uses⟩
  · next not => exact ⟨fun _ uses => absurd uses not, fun _ => rfl⟩

theorem addChanctx_adds (uses : s.useChanctx = true) :
    (addChanctx s answers d c).1.adds = d.adds + 1 := by
  rw [addChanctx, if_pos uses]
  rfl

theorem swapLoop_cons_of_none (passes : s.replaceCtx c = none) :
    swapLoop s answers passed (c :: rest) d = swapLoop s answers (c :: passed) rest d := by
  rw [swapLoop, passes]

theorem swapLoop_cons_of_some (takes : s.replaceCtx c = some old) :
    swapLoop s answers passed (c :: rest) d =
      if (addChanctx s answers (delChanctx s d old) c).2 = 0 then
        swapLoop s answers (c :: passed) rest (addChanctx s answers (delChanctx s d old) c).1
      else
        .error ⟨(addChanctx s answers (delChanctx s d old) c).2, c, passed,
          (addChanctx s answers (delChanctx s d old) c).1⟩ := by
  rw [swapLoop, takes]

/-- The loop gets to its end if the driver refuses no context that takes part. -/
theorem swapLoop_ok_iff :
    (∃ d', swapLoop s answers passed rest d = .ok d') ↔
      (s.useChanctx = true → ∀ i c, (rest.filter fun c => (s.replaceCtx c).isSome)[i]? = some c →
        answers (d.adds + i) c = 0) := by
  induction rest generalizing passed d with
  | nil => exact ⟨fun _ _ _ _ => nofun, fun _ => ⟨d, rfl⟩⟩
  | cons c rest ih =>
    cases takes : s.replaceCtx c with
    | none =>
      rw [swapLoop_cons_of_none takes, List.filter_cons_of_neg (by simp [takes])]
      exact ih
    | some old =>
      rw [swapLoop_cons_of_some takes, List.filter_cons_of_pos (by rw [takes]; rfl)]
      by_cases accepted : (addChanctx s answers (delChanctx s d old) c).2 = 0
      · rw [if_pos accepted, ih]
        rw [addChanctx_result, delChanctx_adds] at accepted
        refine forall_congr' fun uses => ?_
        rw [addChanctx_adds uses, delChanctx_adds]
        constructor
        · intro later i c' is
          cases i with
          | zero =>
            cases is
            exact accepted uses
          | succ i =>
            have answer := later i c' is
            rwa [Nat.add_right_comm] at answer
        · intro all i c' is
          have answer := all (i + 1) c' is
          rwa [← Nat.add_assoc, Nat.add_right_comm] at answer
      · rw [if_neg accepted]
        rw [addChanctx_result, delChanctx_adds, Classical.not_imp] at accepted
        constructor
        · rintro ⟨d', ended⟩
          cases ended
        · exact fun all => absurd (all accepted.1 0 c rfl) accepted.2

/-- Where the loop is left, a context was refused that takes part, it was not passed before, and
the one it replaces is removed. -/
theorem swapLoop_failed {failed : Failed ι} (nodup : (passed.reverse ++ rest).Nodup)
    (left : swapLoop s answers passed rest d = .error failed) :
    failed.err ≠ 0 ∧ failed.ctx ∉ failed.passed ∧
      ∃ old, s.replaceCtx failed.ctx = some old ∧ failed.driver.present old = false := by
  induction rest generalizing passed d with
  | nil => cases left
  | cons c rest ih =>
    have next : ((c :: passed).reverse ++ rest).Nodup := by
      rwa [List.reverse_cons, List.append_assoc, List.singleton_append]
    cases takes : s.replaceCtx c with
    | none =>
      rw [swapLoop_cons_of_none takes] at left
      exact ih next left
    | some old =>
      rw [swapLoop_cons_of_some takes] at left
      split at left
      · exact ih next left
      · next refused =>
          cases left
          have uses : s.useChanctx = true := by
            rw [addChanctx_result, Classical.not_imp] at refused
            exact refused.1
          refine ⟨refused, fun earlier => ?_, old, takes, ?_⟩
          · have apart := (List.nodup_append.mp nodup).2.2
            exact apart c (List.mem_reverse.mpr earlier) c (.head _) rfl
          · rw [addChanctx_other (replaceCtx_ne takes takes)]
            exact delChanctx_self uses

/-- The rollback does not touch a context whose replacement it does not come across. -/
theorem rollback_other {x c : ι} (takes : s.replaceCtx c = some x) (not : c ∉ passed) :
    (rollback s answers passed d).present x = d.present x := by
  induction passed generalizing d with
  | nil => rfl
  | cons c' rest ih =>
    have later : c ∉ rest := fun in' => not (.tail _ in')
    rw [rollback]
    cases takes' : s.replaceCtx c' with
    | none => exact ih later
    | some old' =>
      have apart : x ≠ old' := by
        rintro rfl
        exact not (replaceCtx_inj takes takes' ▸ .head _)
      change (rollback s answers rest _).present x = _
      rw [ih later, addChanctx_other apart, delChanctx_other (replaceCtx_ne takes takes')]

end Loop

/-! ## The function -/

/-- Where the function fails, a context that the driver had is gone. -/
theorem switchCtxs_of_refused (call : Call ι) (failed : call.result.2 ≠ 0) :
    ∃ c old, call.replaceCtx c = some old ∧ call.present old = true ∧
      call.result.1.present old = false := by
  rw [Call.result, chswSwitchCtxs] at failed ⊢
  cases ended : swapLoop call.toLocal call.answers [] call.chanctxList ⟨call.present, 0⟩ with
  | ok d =>
    rw [ended] at failed
    exact absurd rfl failed
  | error left =>
    have nodup : (([] : List ι).reverse ++ call.chanctxList).Nodup := call.distinct
    obtain ⟨-, apart, old, takes, gone⟩ := swapLoop_failed nodup ended
    refine ⟨left.ctx, old, takes, call.replacedPresent _ _ takes, ?_⟩
    change (rollback call.toLocal call.answers left.passed _).present old = false
    rw [rollback_other takes apart, addChanctx_other (replaceCtx_ne takes takes), gone]

theorem result_eq_zero_iff (call : Call ι) : call.result.2 = 0 ↔ call.Accepted := by
  have ends : call.Accepted ↔
      ∃ d, swapLoop call.toLocal call.answers [] call.chanctxList ⟨call.present, 0⟩ = .ok d := by
    rw [swapLoop_ok_iff]
    simp only [Nat.zero_add]
    rfl
  rw [ends, Call.result, chswSwitchCtxs]
  cases ended : swapLoop call.toLocal call.answers [] call.chanctxList ⟨call.present, 0⟩ with
  | ok d => exact ⟨fun _ => ⟨d, rfl⟩, fun _ => rfl⟩
  | error left =>
    have nodup : (([] : List ι).reverse ++ call.chanctxList).Nodup := call.distinct
    refine ⟨fun zero => absurd zero (swapLoop_failed nodup ended).1, ?_⟩
    rintro ⟨d, other⟩
    cases other

/-- The contexts are as before exactly if the driver refuses none of the replacing ones in the
first place. -/
theorem rolledBack_iff (call : Call ι) :
    call.RolledBack ↔ (call.AcceptsAgain → call.Accepted) := by
  refine forall_congr' fun _ => ?_
  rw [← result_eq_zero_iff]
  constructor
  · intro back
    by_contra failed
    obtain ⟨c, old, -, before, after⟩ := switchCtxs_of_refused call failed
    rw [back failed, before] at after
    cases after
  · exact fun zero failed => absurd zero failed

/-- One context is to replace another one, and the driver refuses it. -/
def refusing : Call Bool where
  useChanctx := true
  chanctxList := [true, false]
  ctx c := ⟨if c then .replacesOther false else .willBeReplaced true, 0⟩
  distinct := by decide
  paired c old replaces := by
    cases c with
    | false => cases replaces
    | true =>
      cases replaces
      rfl
  present c := !c
  answers _ c := if c then -16 else 0
  replacingAbsent c old takes := by
    cases c with
    | false => cases takes
    | true => rfl
  replacedPresent c old takes := by
    cases c with
    | false => cases takes
    | true =>
      cases takes
      rfl

/-- The driver has neither of the two afterwards. -/
theorem not_rolledBack : ¬ refusing.RolledBack := by
  intro back
  have again : refusing.AcceptsAgain := by
    rintro n (_ | _) present
    · rfl
    · cases present
  have gone : refusing.result.1.present false = false := by decide
  rw [back again (by decide)] at gone
  cases gone

end Iwlwifi.ChswCtxs
