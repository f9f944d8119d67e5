import Iwlwifi.Lib.Run
import Iwlwifi.Mac80211.PsBuffer

/-!
# The count of buffered frames over a run

`total_ps_buffered` is to be the number of frames in all `ps_tx_buf` and `bc_buf` queues, and
never more than its limit.  Every function but the purge moves the count along with the queues
(`Settles`).  The purge counts the queues it walks over, and leaves the loop over the access
categories of a station with the first frame it drops: frames of the categories above are not
counted.  The count is right after a purge exactly when no station has frames in two
categories (`purgeOldPsBuffers_exact`), and so it is right along a run exactly when every purge
of it finds the stations so.
-/

namespace Iwlwifi.Ps

open Lib

/-! ## The queues -/

namespace PerAc

variable {α : Type}

theorem frames_set (queues : PerAc (List α)) (queue : List α) (ac : Ac) :
    (queues.set queue ac).frames + (queues.get ac).length = queues.frames + queue.length := by
  cases ac <;> simp only [set, get, frames] <;> omega

@[simp] theorem frames_replicate : (replicate ([] : List α)).frames = 0 := rfl

@[simp] theorem get_set_self (queues : PerAc α) (queue : α) (ac : Ac) :
    (queues.set queue ac).get ac = queue := by
  cases ac <;> rfl

end PerAc

/-- The number of group frames an interface holds. -/
def Vif.buffered (v : Vif) : Nat :=
  match v.ps with
  | some ps => ps.bcBuf.length
  | none => 0

/-- The number of frames in all queues. -/
def Local.buffered (l : Local) : Nat :=
  weigh (fun sdata => sdata.vif.buffered) l.interfaces +
    weigh (fun sta => sta.psTxBuf.frames) l.staList

/-- The count is that of the queues and within the limit. -/
structure Accounted (l : Local) : Prop where
  exact : l.totalPsBuffered = l.buffered
  limit : l.totalPsBuffered ≤ totalMaxTxBuffer

variable {l : Local} {ps : PsData}

theorem Vif.buffered_setPs {v : Vif} (own : v.ps = some ps) (new : PsData) :
    (v.setPs new).buffered = new.bcBuf.length := by
  cases v <;> simp_all [Vif.ps, Vif.setPs, Vif.buffered]

namespace Local

@[simp] theorem setVif_total (l : Local) (i : Nat) (v : Vif) :
    (l.setVif i v).totalPsBuffered = l.totalPsBuffered := by
  unfold setVif
  split <;> rfl

@[simp] theorem setPs_total (l : Local) (i : Nat) (ps : PsData) :
    (l.setPs i ps).totalPsBuffered = l.totalPsBuffered := setVif_total l i _

@[simp] theorem setSta_total (l : Local) (s : Nat) (sta : StaInfo) :
    (l.setSta s sta).totalPsBuffered = l.totalPsBuffered := rfl

/-- The queues do not depend on the count. -/
@[simp] theorem setTotal_buffered (l : Local) (total : Int) :
    (l.setTotal total).buffered = l.buffered := rfl

@[simp] theorem setTotal_total (l : Local) (total : Int) :
    (l.setTotal total).totalPsBuffered = total := rfl

theorem buffered_setVif (l : Local) (i : Nat) (v : Vif) (inside : i < l.interfaces.length) :
    (l.setVif i v).buffered + (l.vif i).buffered = l.buffered + v.buffered := by
  have found : l.interfaces[i]? = some l.interfaces[i] := List.getElem?_eq_getElem inside
  have moved := weigh_set (fun sdata : Sdata => sdata.vif.buffered) found
    { l.interfaces[i] with vif := v }
  simp only [setVif, vif, found, buffered] at moved ⊢
  omega

theorem inside_of_ps {i : Nat} (own : (l.vif i).ps = some ps) : i < l.interfaces.length := by
  by_contra outside
  have missing : l.interfaces[i]? = none := List.getElem?_eq_none (by omega)
  simp [vif, missing, Vif.ps] at own

theorem buffered_setPs {i : Nat} (own : (l.vif i).ps = some ps) (new : PsData) :
    (l.setPs i new).buffered + ps.bcBuf.length = l.buffered + new.bcBuf.length := by
  have moved := l.buffered_setVif i ((l.vif i).setPs new) (inside_of_ps own)
  have before : (l.vif i).buffered = ps.bcBuf.length := by
    simp only [Vif.buffered, own]
  rw [Vif.buffered_setPs own, before] at moved
  exact moved

theorem buffered_setSta {s : Nat} {sta : StaInfo} (found : l.staList[s]? = some sta)
    (new : StaInfo) :
    (l.setSta s new).buffered + sta.psTxBuf.frames = l.buffered + new.psTxBuf.frames := by
  have moved := weigh_set (fun sta : StaInfo => sta.psTxBuf.frames) found new
  simp only [setSta, buffered] at moved ⊢
  omega

end Local

/-! ## What the purge counts -/

/-- No station has frames in two access categories. -/
def SingleAc (l : Local) : Prop := ∀ sta ∈ l.staList, sta.psTxBuf.occupied ≤ 1

instance (l : Local) : Decidable (SingleAc l) :=
  inferInstanceAs (Decidable (∀ sta ∈ l.staList, sta.psTxBuf.occupied ≤ 1))

theorem purgeInterfaces_total (interfaces : List Sdata) (total : Int) :
    (purgeInterfaces interfaces total).2 =
      total + weigh (fun sdata => sdata.vif.buffered) (purgeInterfaces interfaces total).1 := by
  induction interfaces generalizing total with
  | nil => simp [purgeInterfaces]
  | cons sdata rest ih =>
    rw [purgeInterfaces]
    split
    · next none =>
        have empty : sdata.vif.buffered = 0 := by simp only [Vif.buffered, none]
        simp only [weigh_cons, empty, Nat.zero_add]
        exact ih total
    · next ps own =>
        have rest := ih (total + ps.bcBuf.tail.length)
        simp only [weigh_cons, Vif.buffered_setPs own]
        omega

theorem purgeInterfaces_weigh (interfaces : List Sdata) (total : Int) :
    weigh (fun sdata => sdata.vif.buffered) (purgeInterfaces interfaces total).1 =
      weigh (fun sdata => sdata.vif.buffered - 1) interfaces := by
  induction interfaces generalizing total with
  | nil => simp [purgeInterfaces]
  | cons sdata rest ih =>
    rw [purgeInterfaces]
    split
    · next none =>
        have empty : sdata.vif.buffered = 0 := by simp only [Vif.buffered, none]
        simp only [weigh_cons, ih, empty]
    · next ps own =>
        have before : sdata.vif.buffered = ps.bcBuf.length := by
          simp only [Vif.buffered, own]
        simp only [weigh_cons, ih, Vif.buffered_setPs own, before, List.length_tail]

/-- One frame is dropped, and the categories above that of the dropped frame are left out of
the count. -/
theorem purgeSta_spec (queues : PerAc (List TxSkb)) (total : Int) :
    (purgeSta [.bk, .be, .vi, .vo] queues total).1.frames = queues.frames - 1 ∧
      (purgeSta [.bk, .be, .vi, .vo] queues total).2 ≤ total + (queues.frames - 1 : Nat) ∧
      ((purgeSta [.bk, .be, .vi, .vo] queues total).2 = total + (queues.frames - 1 : Nat) ↔
        queues.occupied ≤ 1) := by
  obtain ⟨vo, vi, be, bk⟩ := queues
  rcases bk with _ | ⟨skb, bk⟩
  · rcases be with _ | ⟨skb, be⟩
    · rcases vi with _ | ⟨skb, vi⟩
      · rcases vo with _ | ⟨skb, vo⟩ <;>
          simp [purgeSta, PerAc.get, PerAc.set, PerAc.frames, PerAc.occupied, acs]
      · rcases vo with _ | ⟨skb, vo⟩ <;>
          simp [purgeSta, PerAc.get, PerAc.set, PerAc.frames, PerAc.occupied, acs]
        omega
    · rcases vo with _ | ⟨skb, vo⟩ <;> rcases vi with _ | ⟨skb, vi⟩ <;>
        simp [purgeSta, PerAc.get, PerAc.set, PerAc.frames, PerAc.occupied, acs] <;> omega
  · rcases vo with _ | ⟨skb, vo⟩ <;> rcases vi with _ | ⟨skb, vi⟩ <;>
      rcases be with _ | ⟨skb, be⟩ <;>
      simp [purgeSta, PerAc.get, PerAc.set, PerAc.frames, PerAc.occupied, acs] <;> omega

theorem purgeStations_weigh (staList : List StaInfo) (total : Int) :
    weigh (fun sta => sta.psTxBuf.frames) (purgeStations staList total).1 =
      weigh (fun sta => sta.psTxBuf.frames - 1) staList := by
  induction staList generalizing total with
  | nil => rfl
  | cons sta rest ih =>
    simp only [purgeStations, weigh_cons, ih, (purgeSta_spec sta.psTxBuf total).1]

theorem purgeStations_total (staList : List StaInfo) (total : Int) :
    (purgeStations staList total).2 ≤
        total + weigh (fun sta => sta.psTxBuf.frames - 1) staList ∧
      ((purgeStations staList total).2 =
          total + weigh (fun sta => sta.psTxBuf.frames - 1) staList ↔
        ∀ sta ∈ staList, sta.psTxBuf.occupied ≤ 1) := by
  induction staList generalizing total with
  | nil => simp [purgeStations]
  | cons sta rest ih =>
    obtain ⟨-, bound, exact⟩ := purgeSta_spec sta.psTxBuf total
    obtain ⟨boundRest, exactRest⟩ :=
      ih (purgeSta [.bk, .be, .vi, .vo] sta.psTxBuf total).2
    simp only [purgeStations, weigh_cons, List.forall_mem_cons, ← exact, Nat.cast_add]
    refine ⟨by omega, ⟨fun sum => ?_, fun ⟨here, others⟩ => ?_⟩⟩
    · have here : (purgeSta [.bk, .be, .vi, .vo] sta.psTxBuf total).2 =
          total + (sta.psTxBuf.frames - 1 : Nat) := by omega
      exact ⟨here, exactRest.mp (by omega)⟩
    · have := exactRest.mpr others
      omega

theorem buffered_purge (l : Local) :
    (purgeOldPsBuffers l).buffered =
      weigh (fun sdata => sdata.vif.buffered - 1) l.interfaces +
        weigh (fun sta => sta.psTxBuf.frames - 1) l.staList := by
  simp only [purgeOldPsBuffers, Local.buffered, purgeInterfaces_weigh, purgeStations_weigh]

/-- A purge never counts too many frames, and it counts all of them exactly when no station
has frames in two access categories. -/
theorem purgeOldPsBuffers_exact (l : Local) :
    (purgeOldPsBuffers l).totalPsBuffered ≤ (purgeOldPsBuffers l).buffered ∧
      ((purgeOldPsBuffers l).totalPsBuffered = (purgeOldPsBuffers l).buffered ↔
        SingleAc l) := by
  obtain ⟨bound, exact⟩ := purgeStations_total l.staList (purgeInterfaces l.interfaces 0).2
  have total : (purgeOldPsBuffers l).totalPsBuffered =
      (purgeStations l.staList (purgeInterfaces l.interfaces 0).2).2 := rfl
  have counted := purgeInterfaces_total l.interfaces 0
  rw [purgeInterfaces_weigh, zero_add] at counted
  rw [total, buffered_purge, SingleAc, ← exact, Nat.cast_add, ← counted]
  exact ⟨bound, Iff.rfl⟩

theorem buffered_purge_lt (held : 0 < l.buffered) :
    (purgeOldPsBuffers l).buffered < l.buffered := by
  have bc := weigh_le_weigh (fun sdata : Sdata => Nat.sub_le sdata.vif.buffered 1) l.interfaces
  have sta := weigh_le_weigh (fun sta : StaInfo => Nat.sub_le sta.psTxBuf.frames 1) l.staList
  rw [buffered_purge]
  rw [Local.buffered] at held ⊢
  rcases Nat.eq_zero_or_pos (weigh (fun sdata => sdata.vif.buffered) l.interfaces) with
    noGroup | group
  · have := weigh_pred_lt (fun sta : StaInfo => sta.psTxBuf.frames) (l := l.staList) (by omega)
    omega
  · have := weigh_pred_lt _ group
    omega

/-! ## The functions that move the count with the queues -/

/-- The count goes down with the queues. -/
structure Settles (l l' : Local) : Prop where
  moved : l'.totalPsBuffered + l.buffered = l.totalPsBuffered + l'.buffered
  less : l'.totalPsBuffered ≤ l.totalPsBuffered

theorem Settles.refl (l : Local) : Settles l l := ⟨rfl, le_rfl⟩

theorem Settles.trans {l l' l'' : Local} (first : Settles l l') (second : Settles l' l'') :
    Settles l l'' :=
  ⟨by have := first.moved; have := second.moved; omega, second.less.trans first.less⟩

/-- Only what the queues do not hold changes. -/
theorem Settles.of_eq {l l' : Local} (total : l'.totalPsBuffered = l.totalPsBuffered)
    (queues : l'.buffered = l.buffered) : Settles l l' :=
  ⟨by rw [total, queues], total.le⟩

theorem Settles.accounted {l l' : Local} (settles : Settles l l') (held : Accounted l) :
    Accounted l' :=
  ⟨by have := settles.moved; have := held.exact; omega, settles.less.trans held.limit⟩

theorem settles_setSta {s : Nat} {sta : StaInfo} (found : l.staList[s]? = some sta) (new : StaInfo)
    (total : Int) (moved : total + sta.psTxBuf.frames = l.totalPsBuffered + new.psTxBuf.frames)
    (less : new.psTxBuf.frames ≤ sta.psTxBuf.frames) :
    Settles l ((l.setSta s new).setTotal total) := by
  have queues := Local.buffered_setSta found new
  refine ⟨?_, ?_⟩
  · rw [Local.setTotal_buffered, Local.setTotal_total]
    omega
  · rw [Local.setTotal_total]
    omega

theorem settles_setPs {i : Nat} (own : (l.vif i).ps = some ps) (new : PsData) (total : Int)
    (moved : total + ps.bcBuf.length = l.totalPsBuffered + new.bcBuf.length)
    (less : new.bcBuf.length ≤ ps.bcBuf.length) : Settles l ((l.setPs i new).setTotal total) := by
  have queues := Local.buffered_setPs own new
  refine ⟨?_, ?_⟩
  · rw [Local.setTotal_buffered, Local.setTotal_total]
    omega
  · rw [Local.setTotal_total]
    omega

theorem settles_expireAc (l : Local) (s : Nat) (ac : Ac) :
    Settles l (staInfoCleanupExpireBufferedAc l s ac) := by
  unfold staInfoCleanupExpireBufferedAc
  split
  · exact .refl l
  · next sta found =>
      have shorter : (expireQueue l sta (sta.psTxBuf.get ac)).length ≤
          (sta.psTxBuf.get ac).length := (List.dropWhile_suffix _).length_le
      have queues := sta.psTxBuf.frames_set (expireQueue l sta (sta.psTxBuf.get ac)) ac
      apply settles_setSta found _ _
      · show _ + _ = _ + ((sta.psTxBuf.set _ ac).frames : Int)
        omega
      · show (sta.psTxBuf.set _ ac).frames ≤ _
        omega

theorem settles_expire (l : Local) (s : Nat) :
    Settles l (staInfoCleanupExpireBuffered l s) := by
  unfold staInfoCleanupExpireBuffered
  split
  · exact .refl l
  · split
    · exact .refl l
    · simp only [acs, List.foldl_cons, List.foldl_nil]
      exact ((settles_expireAc l s _).trans (settles_expireAc _ s _)).trans
        ((settles_expireAc _ s _).trans (settles_expireAc _ s _))

theorem settles_wakeup (l : Local) (s : Nat) :
    Settles l (ieee80211StaPsDeliverWakeup l s).1 := by
  unfold ieee80211StaPsDeliverWakeup
  split
  · exact .refl l
  · next sta found =>
      split
      · exact .refl l
      · next j holder =>
          split
          · exact .refl l
          · next ps own =>
              have emptied := Local.buffered_setSta found
                { sdata := sta.sdata, state := wokenState sta }
              have kept := Local.buffered_setPs
                (l := l.setSta s { sdata := sta.sdata, state := wokenState sta }) own
                { ps with numStaPs := ps.numStaPs - 1 }
              dsimp only at emptied kept ⊢
              rw [PerAc.frames_replicate] at emptied
              refine ⟨?_, ?_⟩
              · rw [Local.setTotal_buffered, Local.setTotal_total, Local.setPs_total,
                  Local.setSta_total]
                omega
              · rw [Local.setTotal_total, Local.setPs_total, Local.setSta_total]
                omega

/-- The frames taken from the second of the two queues are those the count loses. -/
theorem takeFrames_spec (n : Nat) (filtered queue frames : List TxSkb) (total : Int) :
    (takeFrames n filtered queue frames total).2.2.2.2 + queue.length =
        total + (takeFrames n filtered queue frames total).2.2.1.length ∧
      (takeFrames n filtered queue frames total).2.2.1.length ≤ queue.length := by
  induction n, filtered, queue, frames, total using takeFrames.induct with
  | case1 => simp [takeFrames]
  | case2 n skb filtered queue frames total ih =>
    rw [takeFrames]
    exact ih
  | case3 n skb queue frames total ih =>
    rw [takeFrames, List.length_cons]
    omega
  | case4 => simp [takeFrames]

/-- A release loses from the count what it takes from the counted queues. -/
structure Releases (r r' : Release) : Prop where
  moved : r'.total + r.psTxBuf.frames = r.total + r'.psTxBuf.frames
  less : r'.psTxBuf.frames ≤ r.psTxBuf.frames

theorem Releases.refl (r : Release) : Releases r r := ⟨rfl, le_rfl⟩

theorem Releases.trans {r r' r'' : Release} (first : Releases r r') (second : Releases r' r'') :
    Releases r r'' :=
  ⟨by have := first.moved; have := second.moved; omega, second.less.trans first.less⟩

theorem releases_addTids (r : Release) (sta : StaInfo.State) (ac : Ac) :
    Releases r (r.addTids sta ac) := by
  unfold Release.addTids
  split <;> exact ⟨rfl, le_rfl⟩

theorem releases_takeAc (r : Release) (ac : Ac) : Releases r (r.takeAc ac) := by
  obtain ⟨moved, less⟩ :=
    takeFrames_spec r.nFrames (r.txFiltered.get ac) (r.psTxBuf.get ac) r.frames r.total
  have queues := r.psTxBuf.frames_set
    (takeFrames r.nFrames (r.txFiltered.get ac) (r.psTxBuf.get ac) r.frames r.total).2.2.1 ac
  have left : (r.takeAc ac).psTxBuf = r.psTxBuf.set
    (takeFrames r.nFrames (r.txFiltered.get ac) (r.psTxBuf.get ac) r.frames r.total).2.2.1 ac := rfl
  have counted : (r.takeAc ac).total =
    (takeFrames r.nFrames (r.txFiltered.get ac) (r.psTxBuf.get ac) r.frames r.total).2.2.2.2 := rfl
  refine ⟨?_, ?_⟩
  · rw [counted, left]
    omega
  · rw [left]
    omega

theorem releases_getFrames (sta : StaInfo.State) (ignoredAcs : UInt8) (order : List Ac)
    (r : Release) : Releases r (getFrames sta ignoredAcs order r) := by
  induction order generalizing r with
  | nil => exact .refl r
  | cons ac rest ih =>
    rw [getFrames]
    split
    · exact ih r
    · have tids := releases_addTids r sta ac
      have taken := tids.trans (releases_takeAc _ ac)
      dsimp only
      -- the frames of the category, unless the driver has some of its own
      split
      · split
        · exact taken
        · exact taken.trans (ih _)
      · split
        · exact tids
        · exact tids.trans (ih _)

theorem settles_getFrames (l : Local) (s nFrames : Nat) (ignoredAcs : UInt8) :
    Settles l (ieee80211StaPsGetFrames l s nFrames ignoredAcs).1 := by
  unfold ieee80211StaPsGetFrames
  split
  · exact .refl l
  · next sta found =>
      have released := releases_getFrames sta.state ignoredAcs acs
        { nFrames := nFrames, txFiltered := sta.txFiltered, psTxBuf := sta.psTxBuf
          total := l.totalPsBuffered }
      exact settles_setSta found _ _ released.moved released.less

theorem settles_deliverResponse (l : Local) (s nFrames : Nat) (ignoredAcs : UInt8) :
    Settles l (ieee80211StaPsDeliverResponse l s nFrames ignoredAcs).1 := by
  unfold ieee80211StaPsDeliverResponse
  split
  · exact .refl l
  · next sta found =>
      have flagged : Settles l ((l.setSta s _).setTotal l.totalPsBuffered) :=
        settles_setSta found { sta with state := { sta.state with sp := true } } _ rfl le_rfl
      exact flagged.trans (settles_getFrames _ s nFrames ignoredAcs)

theorem settles_pollResponse (l : Local) (s : Nat) :
    Settles l (ieee80211StaPsDeliverPollResponse l s).1 := by
  unfold ieee80211StaPsDeliverPollResponse
  split
  · exact .refl l
  · exact settles_deliverResponse l s 1 _

theorem settles_uapsd (l : Local) (s : Nat) : Settles l (ieee80211StaPsDeliverUapsd l s).1 := by
  unfold ieee80211StaPsDeliverUapsd
  split
  · exact .refl l
  · dsimp only
    split
    · exact .refl l
    · exact settles_deliverResponse l s _ _

theorem takeBc_spec (prepare : TxSkb → Bool) (queue : List TxSkb) (total : Int) :
    (takeBc prepare queue total).2 + queue.length =
        total + (takeBc prepare queue total).1.length ∧
      (takeBc prepare queue total).1.length ≤ queue.length := by
  induction queue generalizing total with
  | nil => simp [takeBc]
  | cons skb rest ih =>
    have := ih (total - 1)
    rw [takeBc, List.length_cons]
    split
    · dsimp only
      omega
    · omega

theorem settles_getBufferedBc (l : Local) (i : Nat) (beaconing : Bool)
    (prepare : TxSkb → Bool) : Settles l (ieee80211GetBufferedBc l i beaconing prepare) := by
  unfold ieee80211GetBufferedBc
  split
  · exact .refl l
  · next ps own =>
      split
      · exact .refl l
      · obtain ⟨moved, less⟩ := takeBc_spec prepare ps.bcBuf l.totalPsBuffered
        exact settles_setPs own _ _ moved less

theorem settles_stop (l : Local) (i : Nat) : Settles l (stopBc l i) := by
  unfold stopBc
  split
  · exact .refl l
  · next ps own =>
      apply settles_setPs own _ _
      · simp
      · simp

theorem settles_cleanupSingleSta (l : Local) (s : Nat) : Settles l (cleanupSingleSta l s) := by
  unfold cleanupSingleSta
  split
  · exact .refl l
  · next sta found =>
      obtain ⟨inside, rfl⟩ := List.getElem?_eq_some_iff.mp found
      have queues := weigh_eraseIdx (fun sta : StaInfo => sta.psTxBuf.frames) l.staList s inside
      refine ⟨?_, ?_⟩
      · rw [Local.setTotal_buffered, Local.setTotal_total, Local.buffered, Local.buffered]
        dsimp only
        omega
      · rw [Local.setTotal_total]
        omega

/-! ## Buffering -/

/-- A frame that goes into a queue is counted unless it takes the place of another one. -/
structure Enqueues (l l' : Local) : Prop where
  moved : l'.totalPsBuffered + l.buffered = l.totalPsBuffered + l'.buffered
  bound : l'.totalPsBuffered ≤ l.totalPsBuffered + 1

theorem Settles.enqueues {l l' : Local} (settles : Settles l l') : Enqueues l l' :=
  ⟨settles.moved, by have := settles.less; omega⟩

theorem enqueues_bc (l : Local) (j : Nat) (skb : TxSkb) : Enqueues l (enqueueBc l j skb) := by
  unfold enqueueBc
  split
  · exact (Settles.refl l).enqueues
  · next ps own =>
      split
      · next full =>
          have queues := Local.buffered_setPs own { ps with bcBuf := ps.bcBuf.tail ++ [skb] }
          rw [apMaxBcBuffer] at full
          simp only [List.length_append, List.length_tail, List.length_singleton] at queues
          refine ⟨?_, ?_⟩
          · rw [Local.setPs_total]
            omega
          · rw [Local.setPs_total]
            omega
      · have queues := Local.buffered_setPs own { ps with bcBuf := ps.bcBuf ++ [skb] }
        simp only [List.length_append, List.length_singleton] at queues
        refine ⟨?_, ?_⟩
        · rw [Local.setTotal_buffered, Local.setTotal_total]
          omega
        · rw [Local.setTotal_total]

theorem enqueues_sta (l : Local) (s : Nat) (skb : TxSkb) : Enqueues l (enqueueSta l s skb) := by
  unfold enqueueSta
  split
  · exact (Settles.refl l).enqueues
  · next sta found =>
      dsimp only
      split
      · next full =>
          have queues := Local.buffered_setSta found { sta with
            psTxBuf := sta.psTxBuf.set ((sta.psTxBuf.get skb.queueMapping).tail ++ [skb])
              skb.queueMapping }
          have moved := sta.psTxBuf.frames_set
            ((sta.psTxBuf.get skb.queueMapping).tail ++ [skb]) skb.queueMapping
          rw [staMaxTxBuffer] at full
          simp only [List.length_append, List.length_tail, List.length_singleton] at moved
          dsimp only at queues
          refine ⟨?_, ?_⟩
          · rw [Local.setSta_total]
            omega
          · rw [Local.setSta_total]
            omega
      · have queues := Local.buffered_setSta found { sta with
          psTxBuf := sta.psTxBuf.set (sta.psTxBuf.get skb.queueMapping ++ [skb])
            skb.queueMapping }
        have moved := sta.psTxBuf.frames_set
          (sta.psTxBuf.get skb.queueMapping ++ [skb]) skb.queueMapping
        simp only [List.length_append, List.length_singleton] at moved
        dsimp only at queues
        refine ⟨?_, ?_⟩
        · rw [Local.setTotal_buffered, Local.setTotal_total]
          omega
        · rw [Local.setTotal_total]

/-- The handlers get to buffering the frame. -/
def buffers (l : Local) (tx : TxData) : Bool :=
  if tx.psBuffered then false
  else if tx.unicast then
    match tx.sta with
    | none => false
    | some s =>
      match l.staList[s]? with
      | none => false
      | some sta => unicastBuffers sta tx.skb
  else
    match groupHolder l tx.sdata with
    | none => false
    | some j =>
      match (l.vif j).ps with
      | none => false
      | some ps => multicastBuffers l ps tx.skb

/-- A frame that is not buffered changes nothing; before one that is, room is made. -/
inductive Buffering (l : Local) (tx : TxData) (l' : Local) : Prop
  | passed (passes : buffers l tx = false) (same : l' = l)
  | made (takes : buffers l tx = true) (enqueued : Enqueues (makeRoom l) l')

theorem buffering_unicast {tx : TxData} (fresh : tx.psBuffered = false)
    (unicast : tx.unicast = true) : Buffering l tx (ieee80211TxHUnicastPsBuf l tx).1 := by
  have decided : buffers l tx = match tx.sta with
      | none => false
      | some s =>
        match l.staList[s]? with
        | none => false
        | some sta => unicastBuffers sta tx.skb := by
    simp only [buffers, fresh, unicast, Bool.false_eq_true, if_false, if_true]
  unfold ieee80211TxHUnicastPsBuf
  split
  · next alone => exact .passed (by rw [decided, alone]) rfl
  · next s peer =>
      split
      · next missing => exact .passed (by rw [decided, peer]; simp only [missing]) rfl
      · next sta found =>
          have decided : buffers l tx = unicastBuffers sta tx.skb := by
            rw [decided, peer]
            simp only [found]
          split
          · split
            · next passes => exact .passed (by simpa [decided] using passes) rfl
            · next takes =>
                apply Buffering.made (by simpa [decided] using takes)
                dsimp only
                split
                · exact (Settles.refl _).enqueues
                · exact enqueues_sta _ s _
          · next awake =>
              refine .passed ?_ rfl
              rw [decided, unicastBuffers, Bool.not_eq_true _ |>.mp awake, Bool.false_and]

theorem buffering_multicast {tx : TxData} (fresh : tx.psBuffered = false)
    (group : tx.unicast = false) : Buffering l tx (ieee80211TxHMulticastPsBuf l tx).1 := by
  have decided : buffers l tx = match groupHolder l tx.sdata with
      | none => false
      | some j =>
        match (l.vif j).ps with
        | none => false
        | some ps => multicastBuffers l ps tx.skb := by
    simp only [buffers, fresh, group, Bool.false_eq_true, if_false]
  unfold ieee80211TxHMulticastPsBuf
  split
  · next alone => exact .passed (by rw [decided, alone]) rfl
  · next j holder =>
      split
      · next missing => exact .passed (by rw [decided, holder]; simp only [missing]) rfl
      · next ps own =>
          have decided : buffers l tx = multicastBuffers l ps tx.skb := by
            rw [decided, holder]
            simp only [own]
          dsimp only
          split
          · next passes => exact .passed (by simpa [decided] using passes) rfl
          · next takes =>
              exact .made (by simpa [decided] using takes) (enqueues_bc _ j _)

theorem buffering_txHPsBuf (l : Local) (tx : TxData) :
    Buffering l tx (ieee80211TxHPsBuf l tx).1 := by
  unfold ieee80211TxHPsBuf
  split
  · next buffered => exact .passed (by simp only [buffers, buffered, if_true]) rfl
  · next fresh =>
      split
      · next unicast => exact buffering_unicast (by simpa using fresh) unicast
      · next group => exact buffering_multicast (by simpa using fresh) (by simpa using group)

/-! ## Runs -/

/-- One call into the power save code, or a change by other code to what it reads. -/
inductive Event
  | tx (tx : TxData)
  | expire (s : Nat)
  | wakeup (s : Nat)
  | pollResponse (s : Nat)
  | uapsd (s : Nat)
  | getBufferedBc (i : Nat) (beaconing : Bool) (prepare : TxSkb → Bool)
  | stop (i : Nat)
  | insert (sdata : Nat) (state : StaInfo.State)
  | cleanup (s : Nat)
  | filtered (s : Nat) (skb : TxSkb)
  | staState (s : Nat) (state : StaInfo.State)
  | psState (i : Nat) (numStaPs : Int) (dtimCount : Nat) (dtimBcMc : Bool)
  | bss (i : Nat) (bss : Option Nat)
  | tick (jiffies : UInt64)

/-- `bss` is set when an interface goes up and cleared when it goes down. -/
def Vif.setBss (v : Vif) (bss : Option Nat) : Vif :=
  match v with
  | .ap ps _ => .ap ps bss.isSome
  | .apVlan _ => .apVlan bss
  | v => v

def step (l : Local) : Event → Local
  | .tx tx => (ieee80211TxHPsBuf l tx).1
  | .expire s => staInfoCleanupExpireBuffered l s
  | .wakeup s => (ieee80211StaPsDeliverWakeup l s).1
  | .pollResponse s => (ieee80211StaPsDeliverPollResponse l s).1
  | .uapsd s => (ieee80211StaPsDeliverUapsd l s).1
  | .getBufferedBc i beaconing prepare => ieee80211GetBufferedBc l i beaconing prepare
  | .stop i => stopBc l i
  | .insert sdata state =>
    { l with staList := l.staList ++ [{ sdata := sdata, state := state }] }
  | .cleanup s => cleanupSingleSta l s
  | .filtered s skb =>
    match l.staList[s]? with
    | none => l
    | some sta =>
      l.setSta s
        { sta with
          txFiltered := sta.txFiltered.set (sta.txFiltered.get skb.queueMapping ++ [skb])
            skb.queueMapping }
  | .staState s state =>
    match l.staList[s]? with
    | none => l
    | some sta => l.setSta s { sta with state := state }
  | .psState i numStaPs dtimCount dtimBcMc =>
    match (l.vif i).ps with
    | none => l
    | some ps =>
      l.setPs i
        { ps with numStaPs := numStaPs, dtimCount := dtimCount, dtimBcMc := dtimBcMc }
  | .bss i bss => l.setVif i ((l.vif i).setBss bss)
  | .tick jiffies => { l with jiffies := jiffies }

/-- A purge finds no station with frames in two access categories. -/
def PurgesRight (l : Local) : Event → Prop
  | .tx tx => buffers l tx → totalMaxTxBuffer ≤ l.totalPsBuffered → SingleAc l
  | _ => True

instance (l : Local) (e : Event) : Decidable (PurgesRight l e) := by
  cases e <;> unfold PurgesRight <;> infer_instance

theorem Vif.ps_setBss (v : Vif) (bss : Option Nat) : (v.setBss bss).ps = v.ps := by
  cases v <;> rfl

theorem settles_bss (l : Local) (i : Nat) (bss : Option Nat) :
    Settles l (l.setVif i ((l.vif i).setBss bss)) := by
  rcases Nat.lt_or_ge i l.interfaces.length with inside | outside
  · have moved := l.buffered_setVif i ((l.vif i).setBss bss) inside
    have same : ((l.vif i).setBss bss).buffered = (l.vif i).buffered := by
      rw [Vif.buffered, Vif.buffered, Vif.ps_setBss]
    exact .of_eq (l.setVif_total i _) (by omega)
  · have missing : l.interfaces[i]? = none := List.getElem?_eq_none outside
    have unchanged : l.setVif i ((l.vif i).setBss bss) = l := by
      simp only [Local.setVif, missing]
    rw [unchanged]
    exact .refl l

/-- Every step that buffers no frame moves the count down with the queues. -/
theorem settles_step (l : Local) (e : Event) (other : ∀ tx, e ≠ .tx tx) :
    Settles l (step l e) := by
  cases e with
  | tx tx => exact absurd rfl (other tx)
  | expire s => exact settles_expire l s
  | wakeup s => exact settles_wakeup l s
  | pollResponse s => exact settles_pollResponse l s
  | uapsd s => exact settles_uapsd l s
  | getBufferedBc i beaconing prepare => exact settles_getBufferedBc l i beaconing prepare
  | stop i => exact settles_stop l i
  | insert sdata state =>
    apply Settles.of_eq
    · rfl
    · simp [step, Local.buffered]
  | cleanup s => exact settles_cleanupSingleSta l s
  | filtered s skb =>
    simp only [step]
    split
    · exact .refl l
    · next sta found =>
        have queues := Local.buffered_setSta found { sta with
          txFiltered := sta.txFiltered.set (sta.txFiltered.get skb.queueMapping ++ [skb])
            skb.queueMapping }
        exact .of_eq rfl (by dsimp only at queues; omega)
  | staState s state =>
    simp only [step]
    split
    · exact .refl l
    · next sta found =>
        have queues := Local.buffered_setSta found { sta with state := state }
        exact .of_eq rfl (by dsimp only at queues; omega)
  | psState i numStaPs dtimCount dtimBcMc =>
    simp only [step]
    split
    · exact .refl l
    · next ps own =>
        have queues := Local.buffered_setPs own
          { ps with numStaPs := numStaPs, dtimCount := dtimCount, dtimBcMc := dtimBcMc }
        exact .of_eq (l.setPs_total i _) (by dsimp only at queues; omega)
  | bss i bss => exact settles_bss l i bss
  | tick jiffies => exact .of_eq rfl rfl

/-- Once room is made right, there is room for one more frame. -/
theorem makeRoom_spec (held : Accounted l) :
    ((makeRoom l).totalPsBuffered = (makeRoom l).buffered ↔
        (totalMaxTxBuffer ≤ l.totalPsBuffered → SingleAc l)) ∧
      (makeRoom l).totalPsBuffered < totalMaxTxBuffer := by
  obtain ⟨exact, limit⟩ := held
  unfold makeRoom
  split
  · next full =>
      obtain ⟨bound, right⟩ := purgeOldPsBuffers_exact l
      rw [totalMaxTxBuffer] at full limit ⊢
      have fewer := buffered_purge_lt (l := l) (by omega)
      exact ⟨by rw [right]; exact ⟨fun single _ => single, fun single => single full⟩, by omega⟩
  · next room => exact ⟨⟨fun _ full => absurd full room, fun _ => exact⟩, by omega⟩

theorem accounted_step_iff (held : Accounted l) (e : Event) :
    Accounted (step l e) ↔ PurgesRight l e := by
  by_cases sends : ∃ tx, e = .tx tx
  · obtain ⟨tx, rfl⟩ := sends
    obtain ⟨right, room⟩ := makeRoom_spec held
    rw [step, PurgesRight, ← right]
    rcases buffering_txHPsBuf l tx with ⟨passes, same⟩ | ⟨takes, moved, bound⟩
    · rw [same, passes]
      exact ⟨fun _ never => absurd never Bool.false_ne_true, fun _ => held⟩
    · constructor
      · intro after _
        have := after.exact
        omega
      · intro counted
        have := counted takes
        exact ⟨by omega, by omega⟩
  · have settles := settles_step l e fun tx same => sends ⟨tx, same⟩
    refine ⟨fun _ => ?_, fun _ => settles.accounted held⟩
    cases e with
    | tx tx => exact absurd ⟨tx, rfl⟩ sends
    | _ => trivial

/-- The count is that of the queues and within its limit in every state of a run exactly when
every purge of the run finds no station with frames in two access categories. -/
theorem accounted_iff_purgesRight {l : Local} (start : Accounted l) (events : List Event) :
    (∀ before, before <+: events → Accounted (before.foldl step l)) ↔
      Admissible step PurgesRight l events :=
  forall_reached_iff (fun _ e held => accounted_step_iff held e) start

/-- An access point with sleeping stations. -/
def sleepers (count : Nat) : Local where
  interfaces := [{ vif := .ap { numStaPs := count } true }]
  staList := List.replicate count { sdata := 0, state := { psSta := true } }

/-- A data frame for a station. -/
def dataTo (s : Nat) (ac : Ac) : Event :=
  .tx { sdata := 0, sta := some s, skb := { frameControl := 0x0208, queueMapping := ac, dev := 0 } }

theorem accounted_sleepers (count : Nat) : Accounted (sleepers count) := by
  have noFrames : weigh (fun sta : StaInfo => sta.psTxBuf.frames) (sleepers count).staList = 0 := by
    induction count with
    | zero => rfl
    | succ count ih =>
      simp only [sleepers, List.replicate_succ, weigh_cons] at ih ⊢
      rw [ih, PerAc.frames_replicate]
  have noGroup : weigh (fun sdata => sdata.vif.buffered) (sleepers count).interfaces = 0 := rfl
  refine ⟨?_, show (0 : Int) ≤ totalMaxTxBuffer by decide⟩
  rw [Local.buffered, noFrames, noGroup]
  rfl

/-- Frames that wait, a poll and a wake-up leave the count right. -/
theorem accounted_of_poll :
    Accounted (sleepers 1) ∧
      ∀ before, before <+: [dataTo 0 .vo, dataTo 0 .bk, .pollResponse 0, .wakeup 0] →
        Accounted (before.foldl step (sleepers 1)) :=
  ⟨accounted_sleepers 1,
    (accounted_iff_purgesRight (accounted_sleepers 1) _).mpr (by decide +kernel)⟩

/-- Four stations with 64 frames in each of two categories and one frame more: the purge
counts 252 frames where 508 are left. -/
theorem undercounts_of_two_categories :
    ¬ ∀ (l : Local) (events : List Event), l.totalPsBuffered = 0 → l.buffered = 0 →
      (events.foldl step l).totalPsBuffered = (events.foldl step l).buffered := by
  intro claimed
  have counted := claimed (sleepers 4)
    ((List.range 4).flatMap (fun s =>
        List.replicate 64 (dataTo s .vo) ++ List.replicate 64 (dataTo s .bk)) ++ [dataTo 0 .bk])
    rfl rfl
  revert counted
  decide +kernel

end Iwlwifi.Ps
