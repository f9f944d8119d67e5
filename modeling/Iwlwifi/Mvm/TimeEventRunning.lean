import Mathlib.Data.List.Nodup
import Mathlib.Tactic.Common
import Iwlwifi.Lib.Run
import Iwlwifi.Mvm.TimeEvent

/-!
# What the firmware said about a running record

An interface's record is on its list while it has an interface, and a hotspot request from the
response to its command on (`Linked`), over every run.  Whether it may be
marked as running is decided by what the firmware and the driver said last about the interface:
`report` reads off a step that an event of the interface started, or that it is over because it
ended, failed or was removed.

`running` does not follow the reports everywhere.  A session is not linked, so that the function
that clears a record does nothing when the session is over; and a start that failed is taken for a
start, of a session always and of a time event unless the failure disconnects the interface.
-/

namespace Iwlwifi.TimeEvent

open Lib

variable {ι : Type*} [DecidableEq ι] {mvm : Mvm ι} {s s' : State ι}

/-! ## Lists -/

/-- The list a record does not belong to. -/
def State.away (s : State ι) : Te ι → List (Te ι)
  | .timeEvent _ => s.auxRocTeList
  | .hotSpot _ => s.timeEventList

def Te.iface : Te ι → ι
  | .timeEvent i => i
  | .hotSpot i => i

/-- The record of an interface is on its list, once, exactly while it has an interface.  A hotspot
request has one from its command on, but only the response lists it. -/
structure Linked (s : State ι) : Prop where
  timeNodup : s.timeEventList.Nodup
  auxNodup : s.auxRocTeList.Nodup
  mem : ∀ i, .timeEvent i ∈ s.timeEventList ↔ (s.te (.timeEvent i)).vif.isSome
  auxMem : ∀ i, .hotSpot i ∈ s.auxRocTeList → (s.te (.hotSpot i)).vif.isSome
  asked : ∀ i, s.adding = some (.hotSpot i) →
    .hotSpot i ∉ s.auxRocTeList ∧ (s.te (.hotSpot i)).vif.isSome
  away : ∀ r, r ∉ s.away r
  vif : ∀ r i, (s.te r).vif = some i → i = r.iface
  id : ∀ i, (s.te (.timeEvent i)).vif.isSome ↔ (s.te (.timeEvent i)).id ≠ teMax
  hotSpot : ∀ i, (s.te (.hotSpot i)).vif.isSome ↔ (s.te (.hotSpot i)).id = hotSpotCmd

@[simp] theorem te_setTe_self (s : State ι) (r : Te ι) (te : TeData ι) :
    (s.setTe r te).te r = te :=
  Function.update_self ..

theorem te_setTe_of_ne (s : State ι) {r r' : Te ι} (other : r' ≠ r) (te : TeData ι) :
    (s.setTe r te).te r' = s.te r' :=
  Function.update_of_ne other ..

omit [DecidableEq ι] in
/-- What the lists depend on stays. -/
theorem Linked.congr (linked : Linked s) (times : s'.timeEventList = s.timeEventList)
    (auxs : s'.auxRocTeList = s.auxRocTeList) (adds : ∀ r, s'.adding = some r → s.adding = some r)
    (same : ∀ r, (s'.te r).vif = (s.te r).vif ∧ (s'.te r).id = (s.te r).id) : Linked s' where
  timeNodup := times ▸ linked.timeNodup
  auxNodup := auxs ▸ linked.auxNodup
  mem i := by
    rw [times, (same _).1]
    exact linked.mem i
  auxMem i := by
    rw [auxs, (same _).1]
    exact linked.auxMem i
  asked i adding := by
    rw [auxs, (same _).1]
    exact linked.asked i (adds _ adding)
  away r := by
    have := linked.away r
    cases r <;> simpa only [State.away, times, auxs] using this
  vif r i vif := by
    rw [(same r).1] at vif
    exact linked.vif r i vif
  id i := by
    rw [(same _).1, (same _).2]
    exact linked.id i
  hotSpot i := by
    rw [(same _).1, (same _).2]
    exact linked.hotSpot i

variable {te : TeData ι}

/-- A record changes, but not its interface or its id. -/
theorem Linked.setTe (linked : Linked s) (r : Te ι) (vif : te.vif = (s.te r).vif)
    (id : te.id = (s.te r).id) : Linked (s.setTe r te) := by
  refine linked.congr rfl rfl (fun _ same => same) fun r' => ?_
  by_cases here : r' = r
  · subst here
    rw [te_setTe_self]
    exact ⟨vif, id⟩
  · rw [te_setTe_of_ne s here]
    exact ⟨rfl, rfl⟩

/-- A record that is not being added leaves its list and forgets its interface. -/
theorem Linked.unlink (linked : Linked s) {r : Te ι}
    (idle : ∀ i, r = .hotSpot i → s.adding ≠ some r) (vif : te.vif = none) (id : te.id = teMax) :
    Linked ((s.listDel r).setTe r te) := by
  have others : ∀ r', r' ≠ r → ((s.listDel r).setTe r te).te r' = s.te r' :=
    fun r' other => te_setTe_of_ne _ other te
  have here : ((s.listDel r).setTe r te).te r = te := te_setTe_self _ r te
  refine ⟨linked.timeNodup.erase r, linked.auxNodup.erase r, fun i => ?_, fun i listed => ?_,
    fun i adding => ?_, fun r' => ?_, fun r' i => ?_, fun i => ?_, fun i => ?_⟩
  · by_cases same : .timeEvent i = r
    · subst same
      rw [here, vif]
      simpa [State.setTe, State.listDel] using linked.timeNodup.not_mem_erase
    · rw [others _ same, ← linked.mem i]
      exact List.mem_erase_of_ne same
  · by_cases same : .hotSpot i = r
    · subst same
      exact absurd listed linked.auxNodup.not_mem_erase
    · rw [others _ same]
      exact linked.auxMem i (List.mem_of_mem_erase listed)
  · have other : .hotSpot i ≠ r := by
      rintro rfl
      exact idle i rfl adding
    have asked := linked.asked i adding
    rw [others _ other]
    exact ⟨fun listed => asked.1 (List.mem_of_mem_erase listed), asked.2⟩
  · have := linked.away r'
    cases r' with
    | timeEvent i => exact fun within => this (List.mem_of_mem_erase within)
    | hotSpot i => exact fun within => this (List.mem_of_mem_erase within)
  · by_cases same : r' = r
    · subst same
      rw [here, vif]
      exact nofun
    · rw [others r' same]
      exact linked.vif r' i
  · by_cases same : .timeEvent i = r
    · subst same
      rw [here, vif, id]
      simp
    · rw [others _ same]
      exact linked.id i
  · by_cases same : .hotSpot i = r
    · subst same
      rw [here, vif, id]
      exact iff_of_false nofun (by decide)
    · rw [others _ same]
      exact linked.hotSpot i

/-- The record of an interface joins its list. -/
theorem Linked.link (linked : Linked s) {i : ι} (free : (s.te (.timeEvent i)).vif = none)
    (vif : te.vif = some i) (id : te.id ≠ teMax) :
    Linked { s.setTe (.timeEvent i) te with
      timeEventList := s.timeEventList ++ [.timeEvent i]
      adding := some (.timeEvent i) } := by
  have fresh : .timeEvent i ∉ s.timeEventList := by
    rw [linked.mem i, free]
    exact nofun
  have here : (s.setTe (.timeEvent i) te).te (.timeEvent i) = te := te_setTe_self ..
  have others : ∀ r, r ≠ .timeEvent i → (s.setTe (.timeEvent i) te).te r = s.te r :=
    fun r other => te_setTe_of_ne s other te
  refine ⟨linked.timeNodup.append (List.nodup_singleton _) (by simpa using fresh),
    linked.auxNodup, fun j => ?_, fun j => ?_, nofun, fun r => ?_, fun r j => ?_, fun j => ?_,
    fun j => ?_⟩
  · by_cases same : j = i
    · subst same
      simp [vif]
    · have other : (.timeEvent j : Te ι) ≠ .timeEvent i := by simpa using same
      simp [others _ other, linked.mem j, same]
  · simp only [others (.hotSpot j) nofun]
    exact linked.auxMem j
  · have := linked.away r
    cases r with
    | timeEvent j => exact this
    | hotSpot j => simpa [State.away] using this
  · by_cases same : r = .timeEvent i
    · subst same
      simp only [here, vif]
      exact fun eq => (Option.some.inj eq).symm
    · simp only [others r same]
      exact linked.vif r j
  · by_cases same : j = i
    · subst same
      simpa [here, vif] using id
    · have other : (.timeEvent j : Te ι) ≠ .timeEvent i := by simpa using same
      simp only [others _ other]
      exact linked.id j
  · simp only [others (.hotSpot j) nofun]
    exact linked.hotSpot j

/-- A hotspot request is sent. -/
theorem Linked.ask (linked : Linked s) {i : ι} (free : (s.te (.hotSpot i)).vif = none)
    (vif : te.vif = some i) (id : te.id = hotSpotCmd) :
    Linked { s.setTe (.hotSpot i) te with adding := some (.hotSpot i) } := by
  have fresh : .hotSpot i ∉ s.auxRocTeList := fun listed => by
    have := linked.auxMem i listed
    rw [free] at this
    cases this
  have here : (s.setTe (.hotSpot i) te).te (.hotSpot i) = te := te_setTe_self ..
  have others : ∀ r, r ≠ .hotSpot i → (s.setTe (.hotSpot i) te).te r = s.te r :=
    fun r other => te_setTe_of_ne s other te
  refine ⟨linked.timeNodup, linked.auxNodup, fun j => ?_, fun j listed => ?_, fun j adding => ?_,
    linked.away, fun r j => ?_, fun j => ?_, fun j => ?_⟩
  · simp only [others (.timeEvent j) nofun]
    exact linked.mem j
  · have other : (.hotSpot j : Te ι) ≠ .hotSpot i := by
      rintro same
      rw [same] at listed
      exact fresh listed
    simp only [others _ other]
    exact linked.auxMem j listed
  · obtain rfl : i = j := by simpa using adding
    exact ⟨fresh, by simp [vif]⟩
  · by_cases same : r = .hotSpot i
    · subst same
      simp only [here, vif]
      exact fun eq => (Option.some.inj eq).symm
    · simp only [others r same]
      exact linked.vif r j
  · simp only [others (.timeEvent j) nofun]
    exact linked.id j
  · by_cases same : (.hotSpot j : Te ι) = .hotSpot i
    · simp [same, vif, id]
    · simp only [others _ same]
      exact linked.hotSpot j

omit [DecidableEq ι] in
/-- The response lists a hotspot request. -/
theorem Linked.enlist (linked : Linked s) {i : ι} (fresh : .hotSpot i ∉ s.auxRocTeList)
    (vif : (s.te (.hotSpot i)).vif.isSome) (idle : s.adding = none) :
    Linked { s with auxRocTeList := s.auxRocTeList ++ [.hotSpot i] } where
  timeNodup := linked.timeNodup
  auxNodup := linked.auxNodup.append (List.nodup_singleton _) (by simpa using fresh)
  mem := linked.mem
  auxMem j listed := by
    obtain before | new := List.mem_append.mp listed
    · exact linked.auxMem j before
    · obtain rfl : j = i := by simpa using new
      exact vif
  asked j adding := by
    rw [show s.adding = some (.hotSpot j) from adding] at idle
    cases idle
  away r := by
    have := linked.away r
    cases r <;> simpa [State.away] using this
  vif := linked.vif
  id := linked.id
  hotSpot := linked.hotSpot

theorem Linked.clear (linked : Linked s) {r : Te ι}
    (idle : ∀ i, r = .hotSpot i → s.adding ≠ some r) : Linked (teClearData s r) := by
  unfold teClearData
  split
  · exact linked
  · rename_i some
    have cleared : (s.te r).cleared =
        { s.te r with running := false, uid := 0, id := teMax, vif := none } := if_neg some
    rw [cleared]
    exact linked.unlink idle rfl rfl

/-- The record of an interface may always be cleared. -/
theorem Linked.clearTime (linked : Linked s) (i : ι) : Linked (teClearData s (.timeEvent i)) :=
  linked.clear nofun

theorem te_clear_self (s : State ι) (r : Te ι) : (teClearData s r).te r = (s.te r).cleared := by
  unfold teClearData
  split
  · rename_i none
    exact (if_pos none).symm
  · exact te_setTe_self _ r _

theorem te_clear_of_ne (s : State ι) {r r' : Te ι} (other : r' ≠ r) :
    (teClearData s r).te r' = s.te r' := by
  unfold teClearData
  split
  · rfl
  · exact te_setTe_of_ne _ other _

/-! ## Steps keep the lists -/

theorem Linked.sendAdd (linked : Linked s) (vif : ι) (duration : UInt32) {id : UInt32}
    (known : id ≠ teMax) : Linked (timeEventSendAdd s vif duration id) := by
  unfold timeEventSendAdd
  extract_lets r te
  split
  · exact linked
  · rename_i idle
    have free : (s.te r).vif = none := by
      have := mt (linked.id vif).mp idle
      simpa using this
    exact linked.link free rfl known

theorem Linked.auxRoc (linked : Linked s) (vif : ι) (duration : UInt32) :
    Linked (sendAuxRocCmd s vif duration) := by
  unfold sendAuxRocCmd
  extract_lets r te
  split
  · exact linked
  · rename_i idle
    have free : (s.te r).vif = none := by
      have := mt (linked.hotSpot vif).mp idle
      simpa using this
    exact linked.ask free rfl rfl

theorem Linked.handleNotif (linked : Linked s) (jiffies : UInt64) (bss : ι → BssConf)
    (notif : TimeEventNotif) (i : ι) :
    Linked (teHandleNotif mvm jiffies bss notif s (.timeEvent i)) := by
  unfold teHandleNotif
  split
  · exact linked
  · split
    · exact linked.clearTime i
    split
    · exact linked.clearTime i
    split
    · have running : Linked (s.setTe (.timeEvent i) { s.te (.timeEvent i) with
          running := true
          endJiffies := mvm.tuToExpTime jiffies (s.te (.timeEvent i)).duration }) :=
        linked.setTe _ rfl rfl
      dsimp only
      split
      · exact running
      split
      · exact running.clearTime i
      · exact running
    · exact linked

theorem Linked.auxNotif (linked : Linked s) (notif : TimeEventNotif)
    (handled : auxRocTeHandleNotif s notif = some s') : Linked s' := by
  unfold auxRocTeHandleNotif at handled
  split at handled
  · cases handled
  · rename_i found
    have listed := List.mem_of_find?_eq_some found
    split at handled
    · obtain rfl := Option.some.inj handled
      refine linked.unlink (fun i same adding => ?_) rfl rfl
      subst same
      exact (linked.asked i adding).1 listed
    split at handled
    · obtain rfl := Option.some.inj handled
      exact linked.setTe _ rfl rfl
    · cases handled

theorem Linked.timeEventNotif (linked : Linked s) (jiffies : UInt64) (bss : ι → BssConf)
    (notif : TimeEventNotif) : Linked (rxTimeEventNotif mvm jiffies bss notif s) := by
  unfold rxTimeEventNotif
  split
  · rename_i handled
    exact linked.auxNotif notif handled
  · refine List.foldlRecOn s.timeEventList _ (motive := Linked) linked fun s' linked' r listed => ?_
    split
    · cases r with
      | timeEvent i => exact linked'.handleNotif jiffies bss notif i
      | hotSpot i => exact absurd listed (linked.away (.hotSpot i))
    · exact linked'

theorem Linked.sessionNotif (linked : Linked s) (jiffies : UInt64)
    (notif : SessionProtNotif ι) : Linked (rxSessionProtectNotif mvm jiffies notif s) := by
  unfold rxSessionProtectNotif
  split
  · exact linked
  · rename_i vif _
    split
    · have first : Linked (if notif.status = 0 then teClearData s (.timeEvent vif) else s) := by
        split
        · exact linked.clearTime vif
        · exact linked
      dsimp only
      split
      · exact first.setTe _ rfl rfl
      · exact first.clearTime vif
    · exact linked

theorem Linked.answer (linked : Linked s) (answer : Answer) :
    Linked (timeEventAnswer s answer) := by
  unfold timeEventAnswer
  split
  · exact linked
  · rename_i r adding
    have same : Linked { s with adding := none } :=
      linked.congr rfl rfl nofun fun _ => ⟨rfl, rfl⟩
    cases answer with
    | failed => exact same.clear fun _ _ => nofun
    | malformed => exact same
    | response uid =>
      have told : Linked (State.setTe { s with adding := none } r { s.te r with uid := uid }) :=
        same.setTe r rfl rfl
      cases r with
      | timeEvent i => exact told
      | hotSpot i =>
        have asked := linked.asked i adding
        exact told.enlist asked.1 (by simpa using asked.2) rfl

theorem Linked.stopSession (linked : Linked s) (vif : ι) :
    Linked (stopSessionProtection s vif) := by
  unfold stopSessionProtection
  split
  · exact linked
  · exact linked.clearTime vif

/-- Every step keeps the records on their lists. -/
theorem Linked.step (linked : Linked s) (e : Event ι) : Linked (step mvm s e) := by
  unfold TimeEvent.step
  split
  swap
  · exact linked
  rename_i allowed
  cases e with
  | protectSession vif jiffies duration minDuration =>
    show Linked (if _ then _ else _)
    split
    · exact linked
    · refine Linked.sendAdd ?_ vif duration (by decide)
      split
      · exact linked.stopSession vif
      · exact linked
  | stopSessionProtection vif => exact linked.stopSession vif
  | scheduleSessionProtection vif jiffies duration minDuration sent =>
    show Linked (if _ then _ else _)
    split
    · exact linked
    · have cleared : Linked ((teClearData s (.timeEvent vif)).setTe (.timeEvent vif)
          { (teClearData s (.timeEvent vif)).te (.timeEvent vif) with
            duration := msecToTu duration }) :=
        (linked.clearTime vif).setTe (.timeEvent vif) rfl rfl
      dsimp only
      split
      · exact cleared
      · exact cleared.clearTime vif
  | scheduleCsaPeriod vif duration =>
    show Linked (if _ then _ else _)
    split
    · split
      · exact linked
      · exact (linked.clearTime vif).sendAdd vif duration (by decide)
    · exact linked.sendAdd vif duration (by decide)
  | startP2pRoc vif duration type =>
    show Linked (if _ then _ else _)
    split
    · exact linked
    split
    · exact linked
    · refine linked.sendAdd vif _ ?_
      cases type <;> decide
  | stopRoc vif sent =>
    show Linked (if _ then _ else _)
    split
    · exact linked
    split
    · exact linked
    · have free : s.adding = none := by simpa [Event.allowed] using allowed
      exact linked.clear fun _ _ => by simp [free]
  | sendAuxRocCmd vif duration => exact linked.auxRoc vif duration
  | timeEventAnswer answer => exact linked.answer answer
  | timeEventNotif jiffies bss notif => exact linked.timeEventNotif jiffies bss notif
  | sessionProtectNotif jiffies notif => exact linked.sessionNotif jiffies notif

omit [DecidableEq ι] in
theorem linked_init : Linked (State.init : State ι) where
  timeNodup := List.nodup_nil
  auxNodup := List.nodup_nil
  mem i := by simp [State.init]
  auxMem i := by simp [State.init]
  asked i := nofun
  away r := by cases r <;> simp [State.away, State.init]
  vif r i := by cases r <;> simp [State.init]
  id i := by simp [State.init]
  hotSpot i := by simp [State.init, hotSpotCmd]

theorem linked_of_run (events : List (Event ι)) :
    Linked (events.foldl (step mvm) State.init) :=
  run_invariant (P := Linked) (fun _ e linked => linked.step e) linked_init events

omit [DecidableEq ι] in
theorem Linked.id_ne (linked : Linked s) {i : ι} (known : (s.te (.timeEvent i)).id ≠ teMax) :
    (s.te (.timeEvent i)).vif ≠ none := by
  have some := (linked.id i).mpr known
  intro none
  rw [none] at some
  cases some

/-! ## Reports -/

/-- What a step says about the event of an interface. -/
inductive Report
  | started
  | ended
deriving DecidableEq, Repr

/-- The record is one that the notification is for. -/
def State.hears (s : State ι) (notif : TimeEventNotif) (i : ι) : Prop :=
  auxRocTeHandleNotif s notif = none ∧ .timeEvent i ∈ s.timeEventList ∧
    notif.uniqueId = (s.te (.timeEvent i)).uid

instance (notif : TimeEventNotif) (i : ι) : Decidable (s.hears notif i) := by
  unfold State.hears
  infer_instance

/-- The firmware reports starts, ends and failures; the driver removes an event, or has the
firmware replace it by another one. -/
def report (mvm : Mvm ι) (s : State ι) (i : ι) : Event ι → Option Report
  | .protectSession vif jiffies _ minDuration =>
    let te := s.te (.timeEvent vif)
    if vif = i ∧ te.enoughTime mvm jiffies minDuration = false ∧ te.running ∧
        te.id = teBssStaAggressiveAssoc then some .ended
    else none
  | .stopSessionProtection vif =>
    if vif = i ∧ (s.te (.timeEvent vif)).id = teBssStaAggressiveAssoc then some .ended else none
  | .scheduleSessionProtection vif jiffies _ minDuration sent =>
    if vif = i ∧ (s.te (.timeEvent vif)).enoughTime mvm jiffies minDuration = false ∧ sent then
      some .ended
    else none
  | .scheduleCsaPeriod vif _ =>
    let te := s.te (.timeEvent vif)
    if vif = i ∧ te.running ∧ te.id ≠ teChannelSwitchPeriod ∧ te.id ≠ teMax then some .ended
    else none
  | .stopRoc vif sent =>
    if mvm.sessionProtCmd then if vif = i ∧ sent then some .ended else none
    else if getRocTe mvm s = some (.timeEvent i) then some .ended
    else none
  | .startP2pRoc .. | .sendAuxRocCmd .. | .timeEventAnswer _ => none
  | .timeEventNotif _ _ notif =>
    if s.hears notif i then
      if notif.status = 0 || notif.ends then some .ended
      else if notif.starts then some .started
      else none
    else none
  | .sessionProtectNotif _ notif =>
    if notif.vif = some i then
      if notif.status = 0 || notif.start = 0 then some .ended else some .started
    else none

/-- The step takes no failure for a start, and clears what is over. -/
def Follows (mvm : Mvm ι) (s : State ι) : Event ι → Prop
  | .scheduleSessionProtection vif jiffies _ minDuration sent =>
    let te := s.te (.timeEvent vif)
    s.adding = none → sent → te.enoughTime mvm jiffies minDuration = false →
      te.running → te.vif.isSome
  | .stopRoc vif sent =>
    s.adding = none → mvm.sessionProtCmd → sent → (s.te (.timeEvent vif)).running = false
  | .timeEventNotif _ bss notif =>
    ∀ i, s.hears notif i → notif.status = 0 → notif.ends = false →
      checkDisconnect mvm bss i = true ∨
        if notif.starts then
          mvm.vifType i ≠ .p2pDevice ∧ (s.te (.timeEvent i)).id = teChannelSwitchPeriod
        else (s.te (.timeEvent i)).running = false
  | .sessionProtectNotif _ notif =>
    ∀ i, notif.vif = some i → notif.status = 0 ∨ notif.start = 0 →
      if mvm.vifType i = .p2pDevice then (s.te (.timeEvent i)).running = false
      else
        notif.start = 0 ∧
          ((s.te (.timeEvent i)).vif.isSome ∨ (s.te (.timeEvent i)).running = false)
  | _ => True

omit [DecidableEq ι] in
theorem running_cleared (te : TeData ι) : te.cleared.running = true ↔
    te.running = true ∧ te.vif = none := by
  unfold TeData.cleared
  split
  · rename_i none
    simp_all
  · rename_i some
    simp_all

/-! ## What a notification does to one record -/

/-- What `teHandleNotif` makes of a record. -/
def handled (mvm : Mvm ι) (jiffies : UInt64) (bss : ι → BssConf) (notif : TimeEventNotif)
    (te : TeData ι) : TeData ι :=
  match te.vif with
  | none => te
  | some vif =>
    if notif.status = 0 && checkDisconnect mvm bss vif then te.cleared
    else if notif.ends then te.cleared
    else if notif.starts then
      let te' :=
        { te with running := true, endJiffies := mvm.tuToExpTime jiffies te.duration }
      if mvm.vifType vif = .p2pDevice then te'
      else if te.id = teChannelSwitchPeriod then te'.cleared
      else te'
    else te

theorem te_handleNotif_self (s : State ι) (jiffies : UInt64) (bss : ι → BssConf)
    (notif : TimeEventNotif) (r : Te ι) :
    (teHandleNotif mvm jiffies bss notif s r).te r =
      handled mvm jiffies bss notif (s.te r) := by
  rcases Option.eq_none_or_eq_some (s.te r).vif with none | ⟨vif, some⟩
  · simp only [teHandleNotif, handled, none]
  · simp only [teHandleNotif, handled, some]
    split
    · exact te_clear_self s r
    split
    · exact te_clear_self s r
    split
    · split
      · exact te_setTe_self s r _
      split
      · rw [teHandleNotifyCsa, te_clear_self, te_setTe_self]
      · exact te_setTe_self s r _
    · rfl

theorem te_handleNotif_of_ne (s : State ι) (jiffies : UInt64) (bss : ι → BssConf)
    (notif : TimeEventNotif) {r r' : Te ι} (other : r' ≠ r) :
    (teHandleNotif mvm jiffies bss notif s r).te r' = s.te r' := by
  unfold teHandleNotif
  split
  · rfl
  · split
    · exact te_clear_of_ne s other
    split
    · exact te_clear_of_ne s other
    split
    · dsimp only
      split
      · exact te_setTe_of_ne s other _
      split
      · rw [teHandleNotifyCsa, te_clear_of_ne _ other, te_setTe_of_ne s other]
      · exact te_setTe_of_ne s other _
    · rfl

/-- Each record on the list is handled on its own. -/
theorem te_foldl_handleNotif (jiffies : UInt64) (bss : ι → BssConf) (notif : TimeEventNotif)
    {rs : List (Te ι)} (nodup : rs.Nodup) (s : State ι) (r : Te ι) :
    (rs.foldl (fun s r =>
        if notif.uniqueId = (s.te r).uid then teHandleNotif mvm jiffies bss notif s r else s)
      s).te r =
      if r ∈ rs ∧ notif.uniqueId = (s.te r).uid then handled mvm jiffies bss notif (s.te r)
      else s.te r := by
  induction rs generalizing s with
  | nil => simp
  | cons r' rs ih =>
    obtain ⟨fresh, nodup⟩ := List.nodup_cons.mp nodup
    rw [List.foldl_cons, ih nodup]
    by_cases here : r = r'
    · subst here
      rw [if_neg fun both => fresh both.1]
      by_cases heard : notif.uniqueId = (s.te r).uid
      · rw [if_pos heard, if_pos ⟨List.mem_cons_self, heard⟩]
        exact te_handleNotif_self s jiffies bss notif r
      · rw [if_neg heard, if_neg fun both => heard both.2]
    · have same : (if notif.uniqueId = (s.te r').uid then
          teHandleNotif mvm jiffies bss notif s r' else s).te r = s.te r := by
        split
        · exact te_handleNotif_of_ne s jiffies bss notif here
        · rfl
      rw [same]
      simp [here]

theorem te_auxNotif (linked : Linked s) (notif : TimeEventNotif)
    (done : auxRocTeHandleNotif s notif = some s') (i : ι) :
    s'.te (.timeEvent i) = s.te (.timeEvent i) := by
  unfold auxRocTeHandleNotif at done
  split at done
  · cases done
  · rename_i r found
    have other : .timeEvent i ≠ r := by
      rintro rfl
      exact linked.away (.timeEvent i) (List.mem_of_find?_eq_some found)
    split at done
    · obtain rfl := Option.some.inj done
      exact te_setTe_of_ne _ other _
    split at done
    · obtain rfl := Option.some.inj done
      exact te_setTe_of_ne _ other _
    · cases done

theorem te_timeEventNotif (linked : Linked s) (jiffies : UInt64) (bss : ι → BssConf)
    (notif : TimeEventNotif) (i : ι) :
    (rxTimeEventNotif mvm jiffies bss notif s).te (.timeEvent i) =
      if s.hears notif i then handled mvm jiffies bss notif (s.te (.timeEvent i))
      else s.te (.timeEvent i) := by
  unfold rxTimeEventNotif
  cases handledAux : auxRocTeHandleNotif s notif with
  | none =>
    dsimp only
    rw [te_foldl_handleNotif jiffies bss notif linked.timeNodup s]
    simp only [State.hears, handledAux, true_and]
  | some s' =>
    dsimp only
    rw [if_neg (by simp [State.hears, handledAux])]
    exact te_auxNotif linked notif handledAux i

/-! ## What a step does to the mark -/

/-- The record of an interface is marked as running. -/
def State.runs (s : State ι) (i : ι) : Prop := (s.te (.timeEvent i)).running = true

theorem runs_clear (s : State ι) (vif i : ι) :
    (teClearData s (.timeEvent vif)).runs i ↔
      s.runs i ∧ (vif = i → (s.te (.timeEvent i)).vif = none) := by
  unfold State.runs
  by_cases here : vif = i
  · subst here
    rw [te_clear_self, running_cleared]
    simp
  · rw [te_clear_of_ne s (by simpa using Ne.symm here)]
    simp [here]

theorem runs_setTe (s : State ι) (vif : ι) (same : te.running = (s.te (.timeEvent vif)).running)
    (i : ι) : (s.setTe (.timeEvent vif) te).runs i ↔ s.runs i := by
  unfold State.runs
  by_cases here : vif = i
  · subst here
    rw [te_setTe_self, same]
  · rw [te_setTe_of_ne _ (by simpa using Ne.symm here)]

theorem runs_sendAdd (s : State ι) (vif : ι) (duration id : UInt32) (i : ι) :
    (timeEventSendAdd s vif duration id).runs i ↔ s.runs i := by
  unfold timeEventSendAdd
  extract_lets r te
  split
  · rfl
  · show (s.setTe (.timeEvent vif) _).runs i ↔ s.runs i
    exact runs_setTe s vif (by rfl) i

theorem runs_stopSession (s : State ι) (vif i : ι) :
    (stopSessionProtection s vif).runs i ↔
      s.runs i ∧ (vif = i → (s.te (.timeEvent i)).id = teBssStaAggressiveAssoc →
        (s.te (.timeEvent i)).vif = none) := by
  unfold stopSessionProtection
  by_cases other : (s.te (.timeEvent vif)).id = teBssStaAggressiveAssoc
  · rw [if_neg (not_not.mpr other)]
    refine (runs_clear s vif i).trans (and_congr_right fun _ => ?_)
    refine forall_congr' fun here => ?_
    subst here
    simp [other]
  · rw [if_pos other]
    refine (and_iff_left fun here same => ?_).symm
    subst here
    exact absurd same other

theorem runs_protectSession (s : State ι) (vif : ι) (jiffies : UInt64)
    (duration minDuration : UInt32) (i : ι) :
    (protectSession mvm s vif jiffies duration minDuration).runs i ↔
      s.runs i ∧ (vif = i → (s.te (.timeEvent i)).enoughTime mvm jiffies minDuration = false →
        (s.te (.timeEvent i)).id = teBssStaAggressiveAssoc →
        (s.te (.timeEvent i)).vif = none) := by
  unfold protectSession
  extract_lets te stopped
  split
  · rename_i enough
    refine (and_iff_left fun here short => ?_).symm
    subst here
    rw [enough] at short
    cases short
  · rename_i short
    refine (runs_sendAdd _ _ _ _ _).trans ?_
    show (if te.running then _ else _ : State ι).runs i ↔ _
    split
    · refine (runs_stopSession s vif i).trans
        (and_congr_right fun _ => forall_congr' fun here => ?_)
      subst here
      simp only [Bool.not_eq_true] at short
      simp [te, short]
    · rename_i idle
      refine (and_iff_left_of_imp fun runs here => ?_).symm
      subst here
      exact absurd runs idle

theorem runs_scheduleCsa (s : State ι) (vif : ι) (duration : UInt32) (i : ι) :
    (scheduleCsaPeriod s vif duration).runs i ↔
      s.runs i ∧ (vif = i → (s.te (.timeEvent i)).id ≠ teChannelSwitchPeriod →
        (s.te (.timeEvent i)).vif = none) := by
  unfold scheduleCsaPeriod
  extract_lets r
  split
  · split
    · rename_i same
      refine (and_iff_left fun here other => ?_).symm
      subst here
      exact absurd same other
    · rename_i other
      refine (runs_sendAdd _ _ _ _ _).trans ((runs_clear s vif i).trans ?_)
      refine and_congr_right fun _ => forall_congr' fun here => ?_
      subst here
      simp [r] at other
      simp [other]
  · rename_i idle
    refine (runs_sendAdd _ _ _ _ _).trans ?_
    refine (and_iff_left_of_imp fun runs here => ?_).symm
    subst here
    exact absurd runs idle

theorem runs_scheduleSession (s : State ι) (vif : ι) (jiffies : UInt64)
    (duration minDuration : UInt32) (sent : Bool) (i : ι) :
    (scheduleSessionProtection mvm s vif jiffies duration minDuration sent).runs i ↔
      s.runs i ∧ (vif = i → (s.te (.timeEvent i)).enoughTime mvm jiffies minDuration = false →
        (s.te (.timeEvent i)).vif = none) := by
  unfold scheduleSessionProtection
  dsimp only
  split
  · rename_i enough
    refine (and_iff_left fun here short => ?_).symm
    subst here
    rw [enough] at short
    cases short
  · rename_i short
    simp only [Bool.not_eq_true] at short
    have first : (s.runs i ∧ (vif = i → (s.te (.timeEvent i)).vif = none)) ↔
        s.runs i ∧ (vif = i → (s.te (.timeEvent i)).enoughTime mvm jiffies minDuration = false →
          (s.te (.timeEvent i)).vif = none) := by
      refine and_congr_right fun _ => forall_congr' fun here => ?_
      subst here
      simp [short]
    split
    · exact (runs_setTe _ vif (by rfl) i).trans ((runs_clear s vif i).trans first)
    · refine ((runs_clear _ vif i).trans ?_).trans first
      refine (and_congr_left' ((runs_setTe _ vif (by rfl) i).trans (runs_clear s vif i))).trans ?_
      refine and_iff_left_of_imp fun both here => ?_
      subst here
      have free := both.2 rfl
      rw [te_setTe_self, te_clear_self, TeData.cleared, free]
      exact free

theorem runs_sessionNotif (mvm : Mvm ι) (s : State ι) (jiffies : UInt64)
    (notif : SessionProtNotif ι) (i : ι) :
    (rxSessionProtectNotif mvm jiffies notif s).runs i ↔
      if notif.vif = some i ∧ mvm.vifType i ≠ .p2pDevice then
        notif.start ≠ 0 ∨ s.runs i ∧ (s.te (.timeEvent i)).vif = none
      else s.runs i := by
  unfold rxSessionProtectNotif
  cases vifIs : notif.vif with
  | none => simp
  | some vif =>
    by_cases noDevice : mvm.vifType vif ≠ .p2pDevice
    · simp only [if_pos noDevice, Option.some.injEq]
      have twice : (teClearData (if notif.status = 0 then teClearData s (.timeEvent vif) else s)
          (.timeEvent vif)).runs i ↔
          s.runs i ∧ (vif = i → (s.te (.timeEvent i)).vif = none) := by
        rw [runs_clear]
        by_cases failed : notif.status = 0
        · rw [if_pos failed, runs_clear]
          refine and_iff_left_of_imp fun both here => ?_
          subst here
          have free := both.2 rfl
          rw [te_clear_self, TeData.cleared, free]
          exact free
        · rw [if_neg failed]
      have other : ∀ te : TeData ι, vif ≠ i → (((if notif.status = 0 then
          teClearData s (.timeEvent vif) else s).setTe (.timeEvent vif) te).runs i ↔
          s.runs i) := by
        intro te ne
        rw [State.runs, te_setTe_of_ne _ (by simpa using Ne.symm ne)]
        split
        · refine (runs_clear s vif i).trans (and_iff_left fun same => absurd same ne)
        · rfl
      by_cases ended : notif.start = 0
      · rw [if_neg (not_not.mpr ended), twice]
        by_cases here : vif = i
        · subst here
          simp [noDevice, ended]
        · simp [here]
      · rw [if_pos ended]
        by_cases here : vif = i
        · subst here
          simp [noDevice, ended, State.runs]
        · simp [other _ here, here]
    · simp only [if_neg noDevice]
      rw [if_neg]
      rintro ⟨same, noDevice'⟩
      obtain rfl := Option.some.inj same
      exact noDevice noDevice'

theorem runs_answer (s : State ι) (answer : Answer) (i : ι) :
    (timeEventAnswer s answer).runs i → s.runs i := by
  unfold timeEventAnswer
  split
  · exact id
  · rename_i r _
    cases answer with
    | failed =>
      intro runs
      by_cases here : .timeEvent i = r
      · subst here
        exact ((runs_clear _ i i).mp runs).1
      · rw [State.runs, te_clear_of_ne _ here] at runs
        exact runs
    | malformed => exact id
    | response uid =>
      cases r with
      | timeEvent vif => exact (runs_setTe { s with adding := none } vif (by rfl) i).mp
      | hotSpot vif =>
        have other : (.timeEvent i : Te ι) ≠ .hotSpot vif := nofun
        have same := te_setTe_of_ne { s with adding := none } other
          { s.te (.hotSpot vif) with uid := uid }
        intro runs
        rw [State.runs, ← same]
        exact runs

theorem runs_auxRoc (s : State ι) (vif : ι) (duration : UInt32) (i : ι) :
    (sendAuxRocCmd s vif duration).runs i ↔ s.runs i := by
  unfold sendAuxRocCmd
  extract_lets r te
  split
  · rfl
  · have other : (.timeEvent i : Te ι) ≠ .hotSpot vif := nofun
    have same : ∀ te', (s.setTe (.hotSpot vif) te').runs i ↔ s.runs i := by
      intro te'
      rw [State.runs, te_setTe_of_ne s other, State.runs]
    exact same { te with vif := some vif, duration := duration, id := hotSpotCmd }

theorem runs_startP2pRoc (s : State ι) (vif : ι) (duration : UInt32) (type : RocType) (i : ι) :
    (startP2pRoc mvm s vif duration type).runs i ↔ s.runs i := by
  unfold startP2pRoc
  split
  · rfl
  split
  · rfl
  · exact runs_sendAdd s vif _ _ i

omit [DecidableEq ι] in
/-- A time event or hotspot request that is found is linked. -/
theorem linked_of_getRocTe (linked : Linked s) {i : ι}
    (found : getRocTe mvm s = some (.timeEvent i)) : (s.te (.timeEvent i)).vif.isSome := by
  unfold getRocTe at found
  split at found
  · rename_i r first
    obtain rfl := Option.some.inj found
    exact (linked.mem i).mp (List.mem_of_find?_eq_some first)
  · exact absurd (List.mem_of_head? found) (linked.away (.timeEvent i))

theorem runs_stopRoc (linked : Linked s) (i : ι) :
    (stopRoc mvm s).runs i ↔
      s.runs i ∧ (mvm.sessionProtCmd = false → getRocTe mvm s ≠ some (.timeEvent i)) := by
  unfold stopRoc
  split
  · rename_i session
    simp [session]
  · rename_i classic
    split
    · rename_i none
      simp [none]
    · rename_i r found
      rw [found]
      by_cases here : .timeEvent i = r
      · subst here
        have some := linked_of_getRocTe linked found
        rw [removeTimeEvent, runs_clear]
        refine and_congr_right fun _ => ?_
        simp only [forall_const, classic]
        cases free : (s.te (.timeEvent i)).vif with
        | none => simp [free] at some
        | some => simp
      · rw [removeTimeEvent, State.runs, te_clear_of_ne s here]
        refine (and_iff_left fun _ same => ?_).symm
        exact here (Option.some.inj same).symm

theorem runs_timeEventNotif (mvm : Mvm ι) (linked : Linked s) (jiffies : UInt64) (bss : ι → BssConf)
    (notif : TimeEventNotif) (i : ι) :
    (rxTimeEventNotif mvm jiffies bss notif s).runs i ↔
      if s.hears notif i then
        (notif.status = 0 → checkDisconnect mvm bss i = false) ∧ notif.ends = false ∧
          if notif.starts then
            mvm.vifType i = .p2pDevice ∨ (s.te (.timeEvent i)).id ≠ teChannelSwitchPeriod
          else s.runs i
      else s.runs i := by
  rw [State.runs, te_timeEventNotif linked]
  by_cases heard : s.hears notif i
  · rw [if_pos heard, if_pos heard]
    have some : (s.te (.timeEvent i)).vif = some i := by
      have := (linked.mem i).mp heard.2.1
      obtain ⟨vif, is⟩ := Option.isSome_iff_exists.mp this
      rw [is, linked.vif _ _ is]
      rfl
    have gone : (s.te (.timeEvent i)).cleared.running = false := by
      simp [TeData.cleared, some]
    simp only [handled, some]
    by_cases failed : notif.status = 0 ∧ checkDisconnect mvm bss i = true
    · rw [if_pos (by simp [failed]), gone]
      simp [failed]
    · have kept : notif.status = 0 → checkDisconnect mvm bss i = false := by
        intro status
        simpa [status] using failed
      rw [if_neg (by simpa using failed), and_iff_right kept]
      by_cases ends : notif.ends = true
      · rw [if_pos ends, gone]
        simp [ends]
      · rw [if_neg ends]
        by_cases starts : notif.starts = true
        · rw [if_pos starts, if_pos starts]
          by_cases device : mvm.vifType i = .p2pDevice
          · simp [device, ends]
          · by_cases csa : (s.te (.timeEvent i)).id = teChannelSwitchPeriod
            · simp [device, csa, TeData.cleared]
            · simp [device, csa, ends]
        · rw [if_neg starts, if_neg starts]
          simp [ends, State.runs]
  · rw [if_neg heard, if_neg heard]
    rfl

/-- What is not over may only have been marked as running before. -/
theorem quiet_step (linked : Linked s) (e : Event ι) (i : ι) (quiet : report mvm s i e = none)
    (runs : (e.run mvm s).runs i) : s.runs i := by
  cases e with
  | protectSession vif jiffies duration minDuration =>
    exact ((runs_protectSession s vif jiffies duration minDuration i).mp runs).1
  | stopSessionProtection vif => exact ((runs_stopSession s vif i).mp runs).1
  | scheduleSessionProtection vif jiffies duration minDuration sent =>
    exact ((runs_scheduleSession s vif jiffies duration minDuration sent i).mp runs).1
  | scheduleCsaPeriod vif duration => exact ((runs_scheduleCsa s vif duration i).mp runs).1
  | startP2pRoc vif duration type => exact (runs_startP2pRoc s vif duration type i).mp runs
  | stopRoc vif sent => exact ((runs_stopRoc linked i).mp runs).1
  | sendAuxRocCmd vif duration => exact (runs_auxRoc s vif duration i).mp runs
  | timeEventAnswer answer => exact runs_answer s answer i runs
  | timeEventNotif jiffies bss notif =>
    have after := (runs_timeEventNotif mvm linked jiffies bss notif i).mp runs
    by_cases heard : s.hears notif i
    · simp only [report, if_pos heard] at quiet
      rw [if_pos heard] at after
      by_cases starts : notif.starts = true
      · simp only [starts, if_true] at quiet
        split at quiet <;> cases quiet
      · rw [if_neg starts] at after
        exact after.2.2
    · rwa [if_neg heard] at after
  | sessionProtectNotif jiffies notif =>
    have after := (runs_sessionNotif mvm s jiffies notif i).mp runs
    by_cases here : notif.vif = some i
    · simp only [report, if_pos here] at quiet
      split at quiet <;> cases quiet
    · rwa [if_neg fun both => here both.1] at after

/-- What is over is not marked as running afterwards, exactly when the step follows. -/
theorem follows_iff (linked : Linked s) (e : Event ι) (allowed : e.allowed s = true) :
    Follows mvm s e ↔ ∀ i, report mvm s i e = some .ended → ¬ (e.run mvm s).runs i := by
  cases e with
  | protectSession vif jiffies duration minDuration =>
    refine iff_of_true trivial fun i isOver runs => ?_
    have after := (runs_protectSession s vif jiffies duration minDuration i).mp runs
    simp only [report] at isOver
    split at isOver
    · rename_i removed
      obtain ⟨rfl, short, -, assoc⟩ := removed
      exact linked.id_ne (by rw [assoc]; decide) (after.2 rfl short assoc)
    · cases isOver
  | stopSessionProtection vif =>
    refine iff_of_true trivial fun i isOver runs => ?_
    have after := (runs_stopSession s vif i).mp runs
    simp only [report] at isOver
    split at isOver
    · rename_i removed
      obtain ⟨rfl, assoc⟩ := removed
      exact linked.id_ne (by rw [assoc]; decide) (after.2 rfl assoc)
    · cases isOver
  | scheduleSessionProtection vif jiffies duration minDuration sent =>
    have free : s.adding = none := by simpa [Event.allowed] using allowed
    constructor
    · intro follows i isOver runs
      have after := (runs_scheduleSession s vif jiffies duration minDuration sent i).mp runs
      simp only [report] at isOver
      split at isOver
      · rename_i replaced
        obtain ⟨rfl, short, sent⟩ := replaced
        have some := follows free sent short after.1
        rw [after.2 rfl short] at some
        cases some
      · cases isOver
    · intro clears _ took short running
      have isOver : report mvm s vif (.scheduleSessionProtection vif jiffies duration minDuration
          sent) = some .ended := by
        simp [report, short, took]
      by_contra none
      refine clears vif isOver ((runs_scheduleSession s vif jiffies duration minDuration _ vif).mpr
        ⟨running, fun _ _ => by simpa using none⟩)
  | scheduleCsaPeriod vif duration =>
    refine iff_of_true trivial fun i isOver runs => ?_
    have after := (runs_scheduleCsa s vif duration i).mp runs
    simp only [report] at isOver
    split at isOver
    · rename_i removed
      obtain ⟨rfl, -, other, known⟩ := removed
      exact linked.id_ne known (after.2 rfl other)
    · cases isOver
  | startP2pRoc vif duration type => exact iff_of_true trivial nofun
  | stopRoc vif sent =>
    have free : s.adding = none := by simpa [Event.allowed] using allowed
    constructor
    · intro follows i isOver runs
      have after := (runs_stopRoc linked i).mp runs
      simp only [report] at isOver
      split at isOver
      · rename_i session
        split at isOver
        · rename_i removed
          obtain ⟨rfl, sent⟩ := removed
          rw [State.runs, follows free session sent] at after
          cases after.1
        · cases isOver
      · rename_i classic
        split at isOver
        · rename_i found
          exact after.2 (by simpa using classic) found
        · cases isOver
    · intro clears _ session took
      have isOver : report mvm s vif (.stopRoc vif sent) = some .ended := by
        simp [report, session, took]
      by_contra running
      have runs : s.runs vif := by simpa [State.runs] using running
      refine clears vif isOver ((runs_stopRoc linked vif).mpr ⟨runs, ?_⟩)
      simp [session]
  | sendAuxRocCmd vif duration => exact iff_of_true trivial nofun
  | timeEventAnswer answer => exact iff_of_true trivial nofun
  | timeEventNotif jiffies bss notif =>
    refine forall_congr' fun i => ?_
    by_cases heard : s.hears notif i
    · have after := runs_timeEventNotif mvm linked jiffies bss notif i
      rw [if_pos heard] at after
      simp only [Event.run, after, report, heard, forall_const]
      by_cases ends : notif.ends = true
      · simp [ends]
      by_cases failed : notif.status = 0
      · by_cases starts : notif.starts = true
        · simp only [ends, failed, starts]
          cases checkDisconnect mvm bss i <;> simp
        · simp only [ends, failed, starts, State.runs]
          cases checkDisconnect mvm bss i <;> simp
      · simp [ends, failed]
    · simp [report, heard]
  | sessionProtectNotif jiffies notif =>
    refine forall_congr' fun i => ?_
    have after := runs_sessionNotif mvm s jiffies notif i
    by_cases here : notif.vif = some i
    · simp only [Event.run, after, report, here, forall_const, true_and, if_true]
      by_cases isOver : notif.status = 0 ∨ notif.start = 0
      · have reported : (decide (notif.status = 0) || decide (notif.start = 0)) = true := by
          simpa using isOver
        simp only [isOver, reported, if_true, forall_const]
        by_cases device : mvm.vifType i = .p2pDevice
        · simp [device, State.runs]
        · by_cases ended : notif.start = 0
          · cases (s.te (.timeEvent i)).vif <;> simp [device, ended, State.runs]
          · simp [device, ended]
      · simp [isOver]
    · simp [report, here]

/-! ## Runs -/

/-- A state, and whether the last report about an interface was a start. -/
structure Watched (ι : Type*) where
  state : State ι
  reported : ι → Bool

def Watched.step (mvm : Mvm ι) (w : Watched ι) (e : Event ι) : Watched ι where
  state := TimeEvent.step mvm w.state e
  reported i :=
    if e.allowed w.state then
      match report mvm w.state i e with
      | some .started => true
      | some .ended => false
      | none => w.reported i
    else w.reported i

def Watched.init : Watched ι where
  state := State.init
  reported _ := false

/-- The record of an interface is on exactly one list exactly while it has an interface and an
id; and it runs, or is trusted to run for long enough, only if a start was reported last. -/
structure Right (mvm : Mvm ι) (w : Watched ι) (i : ι) : Prop where
  atMostOnce : w.state.timeEventList.count (.timeEvent i) +
    w.state.auxRocTeList.count (.timeEvent i) ≤ 1
  listed : w.state.timeEventList.count (.timeEvent i) +
    w.state.auxRocTeList.count (.timeEvent i) = 1 ↔ (w.state.te (.timeEvent i)).vif.isSome
  vif : (w.state.te (.timeEvent i)).vif.isSome ↔ (w.state.te (.timeEvent i)).id ≠ teMax
  running : (w.state.te (.timeEvent i)).running = true → w.reported i = true
  trusted : ∀ jiffies minDuration,
    (w.state.te (.timeEvent i)).enoughTime mvm jiffies minDuration = true → w.reported i = true

/-- The invariant of the runs in which every step follows the reports. -/
structure Honest (w : Watched ι) : Prop where
  linked : Linked w.state
  reported : ∀ i, w.state.runs i → w.reported i = true

theorem Honest.right {w : Watched ι} (honest : Honest w) (i : ι) : Right mvm w i := by
  have away : w.state.auxRocTeList.count (.timeEvent i) = 0 :=
    List.count_eq_zero.mpr (honest.linked.away (.timeEvent i))
  refine ⟨?_, ?_, honest.linked.id i, honest.reported i, fun jiffies minDuration enough => ?_⟩
  · rw [away, Nat.add_zero]
    exact List.nodup_iff_count_le_one.mp honest.linked.timeNodup _
  · rw [away, Nat.add_zero, ← honest.linked.mem i]
    constructor
    · intro once
      refine List.count_pos_iff.mp ?_
      show 0 < w.state.timeEventList.count (.timeEvent i)
      rw [once]
      exact Nat.one_pos
    · exact List.count_eq_one_of_mem honest.linked.timeNodup
  · unfold TeData.enoughTime at enough
    rw [Bool.and_eq_true] at enough
    exact honest.reported i enough.1

theorem follows_of_not_allowed {e : Event ι} (blocked : ¬ e.allowed s = true) :
    Follows mvm s e := by
  cases e with
  | scheduleSessionProtection vif jiffies duration minDuration sent =>
    intro free
    simp [Event.allowed, free] at blocked
  | stopRoc vif sent =>
    intro free
    simp [Event.allowed, free] at blocked
  | timeEventNotif jiffies bss notif => exact absurd rfl blocked
  | sessionProtectNotif jiffies notif => exact absurd rfl blocked
  | _ => trivial

/-- A step keeps the invariant exactly when it follows. -/
theorem honest_step_iff {w : Watched ι} (honest : Honest w) (e : Event ι) :
    (∀ i, (w.step mvm e).state.runs i → (w.step mvm e).reported i = true) ↔
      Follows mvm w.state e := by
  by_cases allowed : e.allowed w.state = true
  · have ran : (w.step mvm e).state = e.run mvm w.state := if_pos allowed
    have heard : ∀ i, (w.step mvm e).reported i =
        match report mvm w.state i e with
        | some .started => true
        | some .ended => false
        | none => w.reported i := fun i => if_pos allowed
    rw [follows_iff honest.linked e allowed, ran]
    refine forall_congr' fun i => ?_
    rw [heard]
    cases said : report mvm w.state i e with
    | none =>
      refine iff_of_true (fun runs => ?_) nofun
      exact honest.reported i (quiet_step honest.linked e i said runs)
    | some what =>
      cases what with
      | started => exact iff_of_true (fun _ => rfl) nofun
      | ended =>
        dsimp only
        simp
  · refine iff_of_true (fun i runs => ?_) (follows_of_not_allowed allowed)
    have same : (w.step mvm e).state = w.state := if_neg allowed
    have quiet : (w.step mvm e).reported i = w.reported i := if_neg allowed
    rw [same] at runs
    rw [quiet]
    exact honest.reported i runs

/-- Over every run the records are on their lists; and no record runs that is over, in every
state of the run, if and only if every step of it follows the reports. -/
theorem right_iff (mvm : Mvm ι) (events : List (Event ι)) :
    (∀ before, before <+: events →
        ∀ i, Right mvm (before.foldl (Watched.step mvm) Watched.init) i) ↔
      Admissible (Watched.step mvm) (fun w e => Follows mvm w.state e) Watched.init events :=
  @forall_reached_iff_of_invariant (Watched ι) (Event ι) (Watched.step mvm)
    (fun w e => Follows mvm w.state e) Honest Watched.init events
    (fun w => ∀ i, Right mvm w i) (fun _ honest => honest.right)
    (fun _ e honest follows =>
      ⟨honest.linked.step e, (honest_step_iff honest e).mpr follows⟩)
    (fun _ e honest right => (honest_step_iff honest e).mp fun i => (right i).running)
    ⟨linked_init, fun i runs => by cases runs⟩

/-- One station, and firmware that protects sessions. -/
def oneStation : Mvm Unit where
  vifType _ := .station
  sessionProtCmd := true
  tuToJiffies tu := tu.toUInt64

/-- A session is protected, starts and ends. -/
def sessionOver : List (Event Unit) :=
  [.scheduleSessionProtection () 0 900 100 true,
    .sessionProtectNotif 10 { vif := some (), status := 1, start := 1 },
    .sessionProtectNotif 20 { vif := some (), status := 1, start := 0 }]

/-- The record still runs after the session is over, and the next protection would be skipped. -/
theorem not_right :
    let w := sessionOver.foldl (Watched.step oneStation) Watched.init
    (w.state.te (.timeEvent ())).running = true ∧
      (w.state.te (.timeEvent ())).enoughTime oneStation 30 100 = true ∧
      ¬ ∀ i, Right oneStation w i := by
  refine ⟨by decide +kernel, by decide +kernel, fun right => ?_⟩
  have reported := (right ()).running (by decide +kernel)
  revert reported
  decide +kernel

end Iwlwifi.TimeEvent
