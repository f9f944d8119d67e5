import Iwlwifi.Mac80211.OffchannelConcluded

/-!
# Off-channel requests that are left behind

With a driver that remains on channel itself, the first request of the list is always the one
whose turn it is: it has been given to the driver, or `hw_roc_done` is queued and will give it,
unless a scan, radar detection or a reconfiguration keeps it waiting.  What may break this is the
removal of the requests of one interface, which does not start the next, the end of radar
detection, and the ends of a scan or a reconfiguration, which start the first request only if it
has not been given to the driver before.  `Passes` says on the state before a step that none of
these leaves a request behind, and the requests are served in every state of a run exactly when
every step of the run passes.
-/

namespace Iwlwifi.Offchannel

open Lib

variable {ι κ φ : Type*}

/-- The driver has been given the request and has not refused it. -/
def RocWork.inDriver (roc : RocWork ι κ φ) : Bool := roc.started && !roc.abort

/-- The first request is in the driver, or the work that starts it is queued, unless something
keeps it waiting. -/
def NotStranded (loc : Local ι κ φ) : Prop :=
  loc.scanning = false → loc.radarRequired = false → loc.inReconfig = false →
    loc.hwRocDone = false → ∀ roc ∈ loc.rocList.head?, roc.inDriver = true

/-- The first request has not been refused, or the work that ends it is queued. -/
def NotRefused (loc : Local ι κ φ) : Prop :=
  loc.scanning = false → loc.radarRequired = false → loc.inReconfig = false →
    loc.hwRocDone = false → ∀ roc ∈ loc.rocList.head?, roc.abort = false

/-- The step leaves no request behind: where nothing keeps requests waiting after it and
`hw_roc_done` is not queued, the request that then comes first is in the driver already, or, if
the step starts the first request, has not been refused. -/
def Passes [DecidableEq ι] (loc : Local ι κ φ) : Input ι κ φ → Prop
  | .rocPurge _ sdata =>
    loc.scanning = false → loc.radarRequired = false → loc.inReconfig = false →
      loc.hwRocDone = false → ∀ roc ∈ loc.rocList.find? (spared sdata), roc.inDriver = true
  | .radarRequired required =>
    loc.scanning = false → required = false → loc.inReconfig = false →
      loc.hwRocDone = false → ∀ roc ∈ loc.rocList.head?, roc.inDriver = true
  | .reconfigFailure =>
    loc.scanning = false → loc.radarRequired = false →
      loc.hwRocDone = false → ∀ roc ∈ loc.rocList.head?, roc.inDriver = true
  | .scanCompleted _ more _ =>
    more = false → loc.radarRequired = false → loc.inReconfig = false →
      loc.hwRocDone = false → ∀ roc ∈ loc.rocList.head?, roc.abort = false
  | .reconfigEnd _ _ =>
    loc.scanning = false → loc.radarRequired = false →
      loc.hwRocDone = false → ∀ roc ∈ loc.rocList.head?, roc.abort = false
  | _ => True

/-- What holds beside: only what was started is refused, and a running scan has its request. -/
structure Sound (loc : Local ι κ φ) : Prop where
  aborted : ∀ roc ∈ loc.rocList, roc.abort = true → roc.started = true
  scanning : loc.scanning = true → loc.scanReq.isSome = true

variable {roc : RocWork ι κ φ}

section

variable {loc loc' : Local ι κ φ}

theorem Sound.of_rocs (sound : Sound loc)
    (aborted : ∀ roc ∈ loc'.rocList, roc.abort = true → roc.started = true)
    (scanning : loc'.scanning = loc.scanning) (scanReq : loc'.scanReq = loc.scanReq) :
    Sound loc' :=
  ⟨aborted, by rw [scanning, scanReq]; exact sound.scanning⟩

/-- A request that has not been started has not been refused. -/
theorem Sound.abort_of_unstarted (sound : Sound loc) (member : roc ∈ loc.rocList)
    (unstarted : roc.started = false) : roc.abort = false := by
  cases abort : roc.abort with
  | false => rfl
  | true =>
    have started := sound.aborted roc member abort
    rw [unstarted] at started
    cases started

theorem NotStranded.notRefused (served : NotStranded loc) : NotRefused loc := by
  intro scanning radar reconfig done roc first
  have taken := served scanning radar reconfig done roc first
  rw [RocWork.inDriver, Bool.and_eq_true] at taken
  exact (Bool.not_eq_true' _).mp taken.2

theorem notStranded_of_done (done : loc.hwRocDone = true) : NotStranded loc := by
  intro _ _ _ idle
  rw [done] at idle
  cases idle

/-- Nothing that matters has changed. -/
theorem NotStranded.congr (served : NotStranded loc)
    (head : ∀ roc ∈ loc'.rocList.head?, ∃ old ∈ loc.rocList.head?, roc.inDriver = old.inDriver)
    (scanning : loc'.scanning = loc.scanning) (radar : loc'.radarRequired = loc.radarRequired)
    (reconfig : loc'.inReconfig = loc.inReconfig) (done : loc'.hwRocDone = loc.hwRocDone) :
    NotStranded loc' := by
  intro noScan noRadar noReconfig idle roc first
  obtain ⟨old, before, same⟩ := head roc first
  rw [same]
  exact served (scanning ▸ noScan) (radar ▸ noRadar) (reconfig ▸ noReconfig) (done ▸ idle) old
    before

end

/-! ## Requests in one function -/

theorem handleRocStarted_abort (startTime : UInt64) (roc : RocWork ι κ φ) :
    (handleRocStarted startTime roc).1.abort = roc.abort := by
  unfold handleRocStarted
  repeat' split
  all_goals rfl

theorem handleRocStarted_started (startTime : UInt64) (started : roc.started = true) :
    (handleRocStarted startTime roc).1.started = true := by
  unfold handleRocStarted
  repeat' split
  · exact started
  · rfl
  · rfl

variable {hw : Hw} {now : UInt64} {ret : Int}

/-- What is left when the finished requests have gone was not refused. -/
theorem endFinishedRocs_notRefused {loc : Local ι κ φ} (sound : Sound loc)
    (first : roc ∈ (endFinishedRocs hw now loc.rocList).1.head?) : roc.abort = false := by
  rcases head?_sweep first with ⟨a, -, -, kept⟩ | ⟨member, unstarted⟩
  · by_cases isOver : finished hw now a = true
    · rw [if_pos isOver] at kept
      cases kept
    · rw [if_neg isOver] at kept
      obtain rfl : a = roc := Option.some.inj kept
      cases abort : a.abort with
      | false => rfl
      | true => exact absurd (by rw [finished, abort, Bool.true_or, Bool.true_or]) isOver
  · exact sound.abort_of_unstarted member unstarted

section

variable [DecidableEq ι] [DecidableEq κ]

/-- A request that is added to a list that is not empty does not come first. -/
theorem head?_queueRoc (roc tmp : RocWork ι κ φ) (combineStarted : Bool)
    (rest : List (RocWork ι κ φ)) :
    (queueRoc hw now roc combineStarted (tmp :: rest)).1.1.head? = some tmp := by
  unfold queueRoc
  repeat' split
  all_goals rfl

/-- With a driver that remains on channel a request never joins a group in software. -/
theorem queueRoc_hardware (hardware : hw.remainOnChannel = true) (roc : RocWork ι κ φ)
    (combineStarted : Bool) (rocs : List (RocWork ι κ φ)) :
    (queueRoc hw now roc combineStarted rocs).2 = false := by
  fun_induction queueRoc hw now roc combineStarted rocs with
  | case1 => rfl
  | case2 combineStarted tmp rest other queued ih => exact ih
  | case3 combineStarted tmp rest same waiting => rfl
  | case4 combineStarted tmp rest same started later queued ih => exact ih
  | case5 combineStarted tmp rest same started combine software tooLong queued ih => exact ih
  | case6 combineStarted tmp rest same started combine software fits added =>
    rw [hardware] at software
    cases software
  | case7 combineStarted tmp rest same started combine hardware' added fits => rfl
  | case8 combineStarted tmp rest same started combine hardware' apart queued ih => exact ih

omit [DecidableEq ι] [DecidableEq κ] in
theorem coalesceHwStartedRoc_abort {new cur : RocWork ι κ φ}
    {added : RocWork ι κ φ × List (Event ι κ φ)}
    (fits : coalesceHwStartedRoc hw now new cur = some added) : added.1.abort = new.abort := by
  unfold coalesceHwStartedRoc at fits
  split at fits
  · cases fits
  split at fits
  · cases fits
  split at fits
  · cases fits
  split at fits
  · obtain rfl := Option.some.inj fits
    exact handleRocStarted_abort now { new with hwBegun := true }
  · obtain rfl := Option.some.inj fits
    rfl

/-- Whatever is on the list after a request was added was there before, or is the request, which
is refused no more than it was. -/
theorem mem_queueRoc {roc added : RocWork ι κ φ} {combineStarted : Bool}
    {rocs : List (RocWork ι κ φ)}
    (member : added ∈ (queueRoc hw now roc combineStarted rocs).1.1) :
    added ∈ rocs ∨ added.abort = roc.abort := by
  fun_induction queueRoc hw now roc combineStarted rocs with
  | case1 =>
    obtain rfl := List.mem_singleton.mp member
    exact .inr rfl
  | case2 combineStarted tmp rest other queued ih
  | case4 combineStarted tmp rest same started later queued ih
  | case5 combineStarted tmp rest same started combine software tooLong queued ih
  | case8 combineStarted tmp rest same started combine hardware apart queued ih =>
    rcases List.mem_cons.mp member with rfl | later
    · exact .inl List.mem_cons_self
    · exact (ih later).imp_left (List.mem_cons_of_mem tmp)
  | case3 combineStarted tmp rest same waiting =>
    rcases List.mem_cons.mp member with rfl | later
    · exact .inl List.mem_cons_self
    rcases List.mem_cons.mp later with rfl | later
    · exact .inr rfl
    · exact .inl (List.mem_cons_of_mem tmp later)
  | case6 combineStarted tmp rest same started combine software fits new =>
    rcases List.mem_cons.mp member with rfl | later
    · exact .inl List.mem_cons_self
    rcases List.mem_cons.mp later with rfl | later
    · exact .inr (handleRocStarted_abort now { roc with onChannel := tmp.onChannel })
    · exact .inl (List.mem_cons_of_mem tmp later)
  | case7 combineStarted tmp rest same started combine hardware new fits =>
    rcases List.mem_cons.mp member with rfl | later
    · exact .inl List.mem_cons_self
    rcases List.mem_cons.mp later with rfl | later
    · exact .inr (coalesceHwStartedRoc_abort fits)
    · exact .inl (List.mem_cons_of_mem tmp later)

/-! ## The next request -/

omit [DecidableEq ι] [DecidableEq κ] in
theorem runDeferredScan_spec (loc : Local ι κ φ) :
    ∃ queued, runDeferredScan loc = { loc with scanWork := queued } := by
  unfold runDeferredScan
  split
  · exact ⟨loc.scanWork, rfl⟩
  split
  · exact ⟨loc.scanWork, rfl⟩
  · exact ⟨true, rfl⟩

/-- A group that is started is refused, and `hw_roc_done` is queued, or its first request is in
the driver. -/
theorem notStranded_startNextGroup (hardware : hw.remainOnChannel = true) {loc : Local ι κ φ}
    (sound : Sound loc) (waiting : ∀ roc ∈ loc.rocList.head?, roc.started = false) :
    NotStranded (startNextGroup hw now ret loc) := by
  cases list : loc.rocList with
  | nil =>
    intro _ _ _ _ roc first
    simp only [startNextGroup, list] at first
    cases first
  | cons roc rest =>
    have unstarted : roc.started = false := waiting roc (by rw [list]; rfl)
    have unrefused : roc.abort = false :=
      sound.abort_of_unstarted (by rw [list]; exact List.mem_cons_self) unstarted
    have own : sameGroup roc roc = true := by simp [sameGroup]
    simp only [startNextGroup, list, unstarted, Bool.false_eq_true, if_false, hardware, if_true]
    split
    · exact notStranded_of_done rfl
    · intro _ _ _ _ taken first
      simp only [Local.setRocs, Local.emit, list] at first
      rw [head?_sweep_cons own rfl] at first
      obtain rfl := Option.some.inj first
      rw [RocWork.inDriver, unrefused]
      rfl

/-- What starting the first request leaves as it is. -/
structure Frame (loc loc' : Local ι κ φ) : Prop where
  sound : Sound loc → Sound loc'
  scanning : loc'.scanning = loc.scanning
  radarRequired : loc'.radarRequired = loc.radarRequired
  inReconfig : loc'.inReconfig = loc.inReconfig

theorem frame_startNextGroup (hardware : hw.remainOnChannel = true) (loc : Local ι κ φ) :
    Frame loc (startNextGroup hw now ret loc) := by
  have refl : Frame loc loc := ⟨id, rfl, rfl, rfl⟩
  cases list : loc.rocList with
  | nil =>
    simp only [startNextGroup, list]
    exact refl
  | cons roc rest =>
    simp only [startNextGroup, list, hardware, if_true]
    split
    · exact refl
    split
    all_goals
      refine ⟨fun sound => sound.of_rocs ?_ rfl rfl, rfl, rfl, rfl⟩
      refine forall_mem_sweep (fun tmp _ b kept _ => ?_) sound.aborted
      obtain rfl := Option.some.inj kept
      rfl

theorem frame_startNextRoc (hardware : hw.remainOnChannel = true) (loc : Local ι κ φ) :
    Frame loc (startNextRoc hw now ret loc) := by
  have refl : Frame loc loc := ⟨id, rfl, rfl, rfl⟩
  unfold startNextRoc
  split
  · obtain ⟨queued, same⟩ := runDeferredScan_spec loc
    rw [same]
    exact ⟨fun sound => sound.of_rocs sound.aborted rfl rfl, rfl, rfl, rfl⟩
  simp only [hardware, if_true]
  split
  · exact refl
  split
  · exact refl
  · exact frame_startNextGroup hardware loc

/-- Starting the next request serves the list, except that a refused request stays as it is. -/
theorem notStranded_startNextRoc (hardware : hw.remainOnChannel = true) {loc : Local ι κ φ}
    (sound : Sound loc) : NotStranded (startNextRoc hw now ret loc) ↔ NotRefused loc := by
  cases list : loc.rocList with
  | nil =>
    obtain ⟨queued, same⟩ := runDeferredScan_spec loc
    simp only [startNextRoc, list, same]
    refine ⟨fun _ _ _ _ _ roc first => ?_, fun _ _ _ _ _ roc first => ?_⟩
    · rw [list] at first
      cases first
    · cases first
  | cons roc rest =>
    have member : roc ∈ loc.rocList := by
      rw [list]
      exact List.mem_cons_self
    simp only [startNextRoc, list, hardware, if_true]
    by_cases reconfig : loc.inReconfig = true
    · rw [if_pos reconfig]
      constructor
      · intro _ _ _ off
        rw [reconfig] at off
        cases off
      · intro _ _ _ off
        rw [reconfig] at off
        cases off
    rw [if_neg reconfig]
    by_cases started : roc.started = true
    · rw [if_pos started]
      refine ⟨NotStranded.notRefused, fun unrefused scanning radar off idle first isFirst => ?_⟩
      have kept := unrefused scanning radar off idle first isFirst
      rw [list] at isFirst
      obtain rfl := Option.some.inj isFirst
      rw [RocWork.inDriver, started, kept]
      rfl
    · rw [if_neg started]
      have unstarted := Bool.not_eq_true _ ▸ started
      refine ⟨fun _ _ _ _ _ first isFirst => ?_, fun _ => ?_⟩
      · rw [list] at isFirst
        obtain rfl := Option.some.inj isFirst
        exact sound.abort_of_unstarted member unstarted
      · refine notStranded_startNextGroup hardware sound fun first isFirst => ?_
        rw [list] at isFirst
        obtain rfl := Option.some.inj isFirst
        exact unstarted

/-! ## The other functions -/

omit [DecidableEq ι] [DecidableEq κ] in
theorem sound_hwRocStart {loc : Local ι κ φ} (sound : Sound loc) : Sound (hwRocStart loc) := by
  refine sound.of_rocs (forall_mem_sweep (fun roc own b kept refused => ?_) sound.aborted) rfl rfl
  obtain rfl := Option.some.inj kept
  rw [handleRocStarted_abort] at refused
  exact handleRocStarted_started _ (own refused)

omit [DecidableEq ι] [DecidableEq κ] in
theorem notStranded_hwRocStart {loc : Local ι κ φ} (served : NotStranded loc) :
    NotStranded (hwRocStart loc) := by
  refine served.congr ?_ rfl rfl rfl rfl
  intro b first
  cases list : loc.rocList with
  | nil =>
    simp only [hwRocStart, Local.setRocs, list] at first
    cases first
  | cons roc rest =>
    refine ⟨roc, rfl, ?_⟩
    simp only [hwRocStart, Local.setRocs, list] at first
    cases started : roc.started with
    | false =>
      rw [sweep_cons_neg started] at first
      obtain rfl := Option.some.inj first
      rfl
    | true =>
      rw [head?_sweep_cons started rfl] at first
      obtain rfl := Option.some.inj first
      rw [RocWork.inDriver, RocWork.inDriver, handleRocStarted_abort,
        handleRocStarted_started loc.hwRocStartTime
          (show { roc with hwBegun := true }.started = true from started), started]

/-- The work that ends requests serves the list. -/
theorem notStranded_hwRocDone (hardware : hw.remainOnChannel = true) {loc : Local ι κ φ}
    (sound : Sound loc) :
    Sound (hwRocDone hw now ret loc) ∧ NotStranded (hwRocDone hw now ret loc) := by
  have ended : Sound
      ({ loc with hwRocDone := false }.setRocs (endFinishedRocs hw now loc.rocList)) := by
    refine sound.of_rocs (forall_mem_sweep (fun roc own b kept => ?_) sound.aborted) rfl rfl
    by_cases isOver : finished hw now roc = true
    · rw [if_pos isOver] at kept
      cases kept
    · rw [if_neg isOver] at kept
      obtain rfl := Option.some.inj kept
      exact own
  refine ⟨(frame_startNextRoc hardware _).sound ended, ?_⟩
  exact (notStranded_startNextRoc hardware ended).mpr fun _ _ _ _ roc first =>
    endFinishedRocs_notRefused sound first

omit [DecidableEq ι] [DecidableEq κ] in
/-- No two requests on the list have one number. -/
theorem AllAccounted.countP_le_one {loc : Local ι κ φ} (all : AllAccounted loc) (id : Nat) :
    loc.rocList.countP (·.id == id) ≤ 1 := by
  have sound := all _ _ (ledger_freed id)
  have once : (loc.accepted.map Prod.fst).count id ≤ 1 :=
    List.nodup_iff_count_le_one.mp sound.nodup id
  have held := sound.held
  rw [List.count, List.countP_map, countP_eq_weigh] at once
  rw [countP_eq_weigh]
  exact Nat.le_trans (Nat.le_trans (Nat.le_add_right _ _) (Nat.le_of_eq held)) once

omit [DecidableEq ι] [DecidableEq κ] in
/-- Taking a request off the list that has not been started leaves the list served. -/
theorem notStranded_unlink {loc : Local ι κ φ} (all : AllAccounted loc)
    (served : NotStranded loc) {found : RocWork ι κ φ} (member : found ∈ loc.rocList)
    (unstarted : found.started = false) :
    NotStranded (loc.setRocs (sweep (fun _ => true)
      (fun roc => if roc.id = found.id then destroy roc else (some roc, [])) loc.rocList)) := by
  intro scanning radar reconfig idle b first
  cases list : loc.rocList with
  | nil =>
    rw [list] at member
    cases member
  | cons roc rest =>
    have taken : roc.inDriver = true :=
      served scanning radar reconfig idle roc (by rw [list]; rfl)
    have other : roc.id ≠ found.id := by
      intro same
      rw [list] at member
      rcases List.mem_cons.mp member with rfl | later
      · rw [RocWork.inDriver, unstarted] at taken
        cases taken
      · have once := all.countP_le_one found.id
        have again : 0 < rest.countP (·.id == found.id) :=
          List.countP_pos_iff.mpr ⟨found, later, beq_self_eq_true _⟩
        rw [list, List.countP_cons, same, beq_self_eq_true, if_pos rfl] at once
        omega
    simp only [Local.setRocs, list] at first
    rw [head?_sweep_cons rfl (by rw [if_neg other])] at first
    obtain rfl := Option.some.inj first
    exact taken

theorem cancelRoc_served (hardware : hw.remainOnChannel = true) {loc : Local ι κ φ}
    (cancelRet : Int) (cookie : UInt64) (mgmtTx : Bool) (all : AllAccounted loc)
    (sound : Sound loc) (served : NotStranded loc) :
    Sound (cancelRoc hw now cancelRet ret cookie mgmtTx loc).1 ∧
      NotStranded (cancelRoc hw now cancelRet ret cookie mgmtTx loc).1 := by
  unfold cancelRoc
  split
  · exact ⟨sound, served⟩
  extract_lets flushed
  obtain ⟨all, sound, served⟩ :
      AllAccounted flushed ∧ Sound flushed ∧ NotStranded flushed := by
    show AllAccounted (if _ then _ else _) ∧ Sound (if _ then _ else _) ∧
      NotStranded (if _ then _ else _)
    split
    · exact ⟨fun u v ledger => (balanced_hwRocStart ledger loc).accounted (all u v ledger),
        sound_hwRocStart sound, notStranded_hwRocStart served⟩
    · exact ⟨all, sound, served⟩
  split
  · exact ⟨sound, served⟩
  rename_i found isFound
  have member : found ∈ flushed.rocList := List.mem_of_find?_eq_some isFound
  split
  · rename_i waits
    refine ⟨?_, notStranded_unlink all served member ((Bool.not_eq_true' _).mp waits)⟩
    refine sound.of_rocs (forall_mem_sweep (fun roc own b kept => ?_) sound.aborted) rfl rfl
    by_cases same : roc.id = found.id
    · rw [if_pos same] at kept
      cases kept
    · rw [if_neg same] at kept
      obtain rfl := Option.some.inj kept
      exact own
  extract_lets told
  have told' : Sound told := sound.of_rocs sound.aborted rfl rfl
  split
  · exact ⟨told', served.congr (fun roc first => ⟨roc, first, rfl⟩) rfl rfl rfl rfl⟩
  have ended : Sound (told.setRocs (sweep (·.started) destroy told.rocList)) :=
    told'.of_rocs (forall_mem_sweep (fun roc own b kept => nomatch kept) told'.aborted) rfl rfl
  refine ⟨(frame_startNextRoc hardware _).sound ended, ?_⟩
  refine (notStranded_startNextRoc hardware ended).mpr fun _ _ _ _ roc first => ?_
  rcases head?_sweep first with ⟨a, -, -, kept⟩ | ⟨within, unstarted⟩
  · cases kept
  · exact told'.abort_of_unstarted within unstarted

omit [DecidableEq ι] [DecidableEq κ] in
/-- A new request is not refused, and making it leaves everything else as it is. -/
theorem newRoc_frame (params : RocParams ι κ φ) (loc : Local ι κ φ) :
    (newRoc params loc).1.abort = false ∧ Frame loc (newRoc params loc).2 ∧
      (newRoc params loc).2.scanReq = loc.scanReq ∧
      (newRoc params loc).2.hwRocDone = loc.hwRocDone := by
  unfold newRoc
  extract_lets duration roc loc'
  split
  all_goals
    exact ⟨rfl, ⟨fun sound => sound.of_rocs sound.aborted rfl rfl, rfl, rfl, rfl⟩, rfl, rfl⟩

theorem startRocWork_served (hardware : hw.remainOnChannel = true) {loc : Local ι κ φ}
    (params : RocParams ι κ φ) (sound : Sound loc) (served : NotStranded loc) :
    Sound (startRocWork hw now ret params loc).1 ∧
      NotStranded (startRocWork hw now ret params loc).1 := by
  unfold startRocWork
  split
  · exact ⟨sound, served⟩
  extract_lets allocated roc taken cookie first told queued added
  obtain ⟨unrefused, frame, scanReq, done⟩ := newRoc_frame params loc
  obtain ⟨-, -, list, -, -⟩ := newRoc_spec params loc
  have sound' : Sound taken := frame.sound sound
  split
  · rename_i immediate
    rw [Bool.and_eq_true, Bool.and_eq_true] at immediate
    have empty : taken.rocList = [] := List.isEmpty_iff.mp immediate.1.1
    simp only [hardware, Bool.not_true, Bool.false_eq_true, if_false]
    split
    · refine ⟨sound'.of_rocs sound'.aborted rfl rfl, fun _ _ _ _ roc isFirst => ?_⟩
      simp only [told, Local.emit, empty] at isFirst
      cases isFirst
    · refine ⟨sound'.of_rocs (fun roc member _ => ?_) rfl rfl, fun _ _ _ _ head isFirst => ?_⟩
      · simp only [Local.accept, Local.setRocs, told, Local.emit, empty] at member
        obtain rfl := List.mem_singleton.mp member
        rfl
      · simp only [Local.accept, Local.setRocs, told, Local.emit, empty] at isFirst
        obtain rfl := Option.some.inj isFirst
        rw [RocWork.inDriver]
        show (true && !roc.abort) = true
        rw [show roc.abort = false from unrefused]
        rfl
  · rename_i waits
    have hardware' : queued.2 = false := queueRoc_hardware hardware roc true taken.rocList
    simp only [hardware', Bool.false_eq_true, if_false]
    refine ⟨sound'.of_rocs (fun member within refused => ?_) rfl rfl, ?_⟩
    · rcases mem_queueRoc within with before | same
      · exact sound'.aborted member before refused
      · rw [same, show roc.abort = false from unrefused] at refused
        cases refused
    · cases before : taken.rocList with
      | nil =>
        intro scanning radar _ _
        refine absurd ?_ waits
        rw [before, show taken.scanning = false from scanning,
          show taken.radarRequired = false from radar]
        rfl
      | cons tmp rest =>
        refine served.congr (fun head isFirst => ⟨tmp, ?_, ?_⟩) frame.scanning
          frame.radarRequired frame.inReconfig done
        · rw [← list, show (newRoc params loc).2.rocList = tmp :: rest from before]
          rfl
        · have stays : (queueRoc hw now roc true taken.rocList).1.1.head? = some tmp := by
            rw [before]
            exact head?_queueRoc roc tmp true rest
          obtain rfl : tmp = head := Option.some.inj (stays.symm.trans isFirst)
          rfl

/-- With a driver that remains on channel, purging leaves the requests of the other interfaces. -/
theorem rocPurge_hardware (hardware : hw.remainOnChannel = true) (sdata : Option ι)
    (loc : Local ι κ φ) :
    ∃ log, rocPurge hw now sdata loc =
      { loc with rocList := loc.rocList.filter (spared sdata), log } := by
  have left : (sweep (fun _ => true) (purgeVisit hw sdata) loc.rocList).1 =
      loc.rocList.filter (spared sdata) := by
    refine sweep_eq_filter (fun _ => rfl) (fun roc => ?_) loc.rocList
    unfold purgeVisit
    by_cases its : spared sdata roc = true
    · rw [if_pos its, if_pos its]
    · simp only [if_neg its, hardware, if_true]
      split <;> rfl
  simp only [rocPurge, hardware, Bool.not_true, Bool.false_and, Bool.false_eq_true, if_false,
    Local.setRocs, left]
  exact ⟨_, rfl⟩

omit [DecidableEq ι] [DecidableEq κ] in
theorem startScan_served {loc : Local ι κ φ} (sdata : ι) (sound : Sound loc)
    (served : NotStranded loc) :
    Sound (startScan ret sdata loc).1 ∧ NotStranded (startScan ret sdata loc).1 := by
  unfold startScan
  split
  · exact ⟨sound, served⟩
  split
  · exact ⟨⟨sound.aborted, fun _ => rfl⟩,
      served.congr (fun roc first => ⟨roc, first, rfl⟩) rfl rfl rfl rfl⟩
  split
  · exact ⟨sound, served⟩
  · refine ⟨⟨sound.aborted, fun _ => rfl⟩, fun off => ?_⟩
    cases off

omit [DecidableEq ι] [DecidableEq κ] in
theorem scanWork_served {loc : Local ι κ φ} (sound : Sound loc) (served : NotStranded loc) :
    Sound (scanWork ret loc) ∧ NotStranded (scanWork ret loc) := by
  unfold scanWork
  extract_lets loc'
  have sound' : Sound loc' := sound.of_rocs sound.aborted rfl rfl
  have served' : NotStranded loc' :=
    served.congr (fun roc first => ⟨roc, first, rfl⟩) rfl rfl rfl rfl
  split
  · exact ⟨sound', served'⟩
  rename_i sdata _
  split
  · exact ⟨sound', served'⟩
  rename_i idle
  extract_lets start
  have quiet : loc'.scanning = false := (Bool.not_eq_true _).mp idle
  have started : Sound start.1 ∧ NotStranded start.1 := by
    refine startScan_served sdata ⟨sound'.aborted, fun scanning => ?_⟩
      (served'.congr (fun roc first => ⟨roc, first, rfl⟩) rfl rfl rfl rfl)
    exact absurd (quiet.symm.trans scanning) Bool.false_ne_true
  split
  · rename_i failed
    refine ⟨⟨started.1.aborted, fun scanning => ?_⟩,
      started.2.congr (fun roc first => ⟨roc, first, rfl⟩) rfl rfl rfl rfl⟩
    refine absurd ?_ failed
    have scanning' : (startScan ret sdata { loc' with scanReq := none }).1.scanning = true :=
      scanning
    show (startScan ret sdata { loc' with scanReq := none }).2 = 0
    unfold startScan at scanning' ⊢
    split at scanning'
    · rw [quiet] at scanning'
      cases scanning'
    split at scanning'
    · rw [quiet] at scanning'
      cases scanning'
    split at scanning'
    · rw [quiet] at scanning'
      cases scanning'
    · rename_i free able fine
      rw [if_neg free, if_neg able, if_neg fine]
  · exact started

end

/-! ## Steps and runs -/

section

variable [DecidableEq ι] [DecidableEq κ]

/-- What is kept along a run, for a driver that remains on channel. -/
structure Served (loc : Local ι κ φ) : Prop where
  sound : Sound loc
  notStranded : NotStranded loc

section

variable {loc : Local ι κ φ} (hardware : hw.remainOnChannel = true) (sound : Sound loc)
include hardware sound

theorem sound_rocPurge (now : UInt64) (sdata : Option ι) :
    Sound (rocPurge hw now sdata loc) ∧
      (NotStranded (rocPurge hw now sdata loc) ↔ Passes loc (.rocPurge now sdata)) := by
  obtain ⟨log, purged⟩ : ∃ log, rocPurge hw now sdata loc = { loc with
      rocList := loc.rocList.filter (spared sdata), log } :=
    rocPurge_hardware hardware sdata loc
  rw [purged]
  refine ⟨sound.of_rocs (fun roc member => ?_) rfl rfl, ?_⟩
  · exact sound.aborted roc (List.mem_filter.mp member).1
  · rw [NotStranded, Passes, List.head?_filter]

variable (notStranded : NotStranded loc)
include notStranded

theorem sound_scanCompleted (now : UInt64) (more : Bool) (ret : Int) :
    Sound (scanCompleted hw now more ret loc) ∧
      (NotStranded (scanCompleted hw now more ret loc) ↔
        Passes loc (.scanCompleted now more ret)) := by
  have unrefused := notStranded.notRefused
  simp only [scanCompleted, Passes]
  split
  · rename_i noRequest
    have quiet : loc.scanning = false := by
      rw [Bool.eq_false_iff]
      intro scanning
      rw [Option.isNone_iff_eq_none] at noRequest
      have some_ := sound.scanning scanning
      rw [noRequest] at some_
      cases some_
    exact ⟨sound, fun _ _ => unrefused quiet, fun _ => notStranded⟩
  split
  · rename_i goesOn
    rw [Bool.and_eq_true] at goesOn
    refine ⟨sound, fun _ last => ?_, fun _ off => ?_⟩
    · rw [goesOn.2] at last
      cases last
    · rw [goesOn.1] at off
      cases off
  rename_i isOver
  have ended : Sound { loc with scanReq := none, scanning := false } :=
    ⟨sound.aborted, fun scanning => absurd scanning Bool.false_ne_true⟩
  split
  · rename_i scanning
    have last : more = false := by
      rw [scanning, Bool.true_and] at isOver
      exact (Bool.not_eq_true _).mp isOver
    refine ⟨(frame_startNextRoc hardware _).sound ended, ?_⟩
    rw [notStranded_startNextRoc hardware ended]
    exact ⟨fun kept _ => kept rfl, fun kept _ => kept last⟩
  · rename_i quiet
    have quiet : loc.scanning = false := (Bool.not_eq_true _).mp quiet
    exact ⟨ended, fun _ _ => unrefused quiet, fun _ _ => notStranded quiet⟩

theorem sound_reconfigEnd (now : UInt64) (ret : Int) :
    Sound (reconfigEnd hw now ret loc) ∧
      (NotStranded (reconfigEnd hw now ret loc) ↔ Passes loc (.reconfigEnd now ret)) := by
  simp only [reconfigEnd, Passes]
  split
  · have ended : Sound { loc with inReconfig := false } := sound.of_rocs sound.aborted rfl rfl
    refine ⟨(frame_startNextRoc hardware _).sound ended, ?_⟩
    rw [notStranded_startNextRoc hardware ended]
    exact ⟨fun kept scanning radar => kept scanning radar rfl,
      fun kept scanning radar _ => kept scanning radar⟩
  · rename_i off
    have off : loc.inReconfig = false := (Bool.not_eq_true _).mp off
    exact ⟨sound, fun _ scanning radar => notStranded.notRefused scanning radar off,
      fun _ => notStranded⟩

end

theorem sound_step (hardware : hw.remainOnChannel = true) {loc : Local ι κ φ}
    (all : AllAccounted loc) (served : Served loc) (input : Input ι κ φ) :
    Sound (step hw loc input) ∧ (NotStranded (step hw loc input) ↔ Passes loc input) := by
  obtain ⟨sound, notStranded⟩ := served
  have same : ∀ loc' : Local ι κ φ, Sound loc' ∧ NotStranded loc' →
      Sound loc' ∧ (NotStranded loc' ↔ True) := fun loc' both =>
    ⟨both.1, iff_true_intro both.2⟩
  cases input with
  | startRocWork now ret params =>
    exact same _ (startRocWork_served hardware params sound notStranded)
  | readyOnChannel now | connectionPoll polls | operChandef chandef =>
    exact same _ ⟨sound.of_rocs sound.aborted rfl rfl,
      notStranded.congr (fun roc first => ⟨roc, first, rfl⟩) rfl rfl rfl rfl⟩
  | hwRocStart =>
    refine same _ ?_
    simp only [step]
    split
    · exact ⟨sound_hwRocStart sound, notStranded_hwRocStart notStranded⟩
    · exact ⟨sound, notStranded⟩
  | remainOnChannelExpired =>
    exact same _ ⟨sound.of_rocs sound.aborted rfl rfl, notStranded_of_done rfl⟩
  | hwRocDone now ret =>
    refine same _ ?_
    simp only [step]
    split
    · exact notStranded_hwRocDone hardware sound
    · exact ⟨sound, notStranded⟩
  | rocWork now =>
    refine same _ ?_
    simp only [step, rocWork, rocWorkLocked, hardware, if_true]
    split
    · exact ⟨sound.of_rocs sound.aborted rfl rfl,
        notStranded.congr (fun roc first => ⟨roc, first, rfl⟩) rfl rfl rfl rfl⟩
    · exact ⟨sound, notStranded⟩
  | cancelRoc now cancelRet ret cookie mgmtTx =>
    exact same _ (cancelRoc_served hardware cancelRet cookie mgmtTx all sound notStranded)
  | rocPurge now sdata => exact sound_rocPurge hardware sound now sdata
  | startScan ret sdata => exact same _ (startScan_served sdata sound notStranded)
  | scanWork ret =>
    refine same _ ?_
    simp only [step]
    split
    · exact scanWork_served sound notStranded
    · exact ⟨sound, notStranded⟩
  | scanCompleted now more ret =>
    exact sound_scanCompleted hardware sound notStranded now more ret
  | radarRequired required => exact ⟨sound.of_rocs sound.aborted rfl rfl, Iff.rfl⟩
  | restartHw =>
    refine same _ ⟨sound.of_rocs sound.aborted rfl rfl, fun _ _ off => ?_⟩
    cases off
  | reconfigEnd now ret => exact sound_reconfigEnd hardware sound notStranded now ret
  | reconfigFailure =>
    refine ⟨sound.of_rocs sound.aborted rfl rfl, ?_⟩
    simp only [step, NotStranded, Passes, forall_true_left]

/-- Every request is concluded once and, if the driver remains on channel, none is stranded. -/
def Right [DecidableEq φ] (hw : Hw) (loc : Local ι κ φ) : Prop :=
  Concluded loc ∧ (hw.remainOnChannel = true → NotStranded loc)

/-- Of two interfaces the first has a request in the driver and the second one that waits; when
the requests of the first are purged, nothing starts the second. -/
theorem not_rocs_served :
    ¬ ∀ (hw : Hw) (operChandef : ChanDef Nat) (inputs : List (Input Bool Nat Nat)),
      hw.remainOnChannel = true →
        Right hw (inputs.foldl (step hw) (rocSetup operChandef)) := by
  intro all
  have right := all ⟨true, false, 0, fun msecs => msecs.toUInt64, fun time => time.toUInt32⟩
    ⟨0, .wider⟩
    [.startRocWork 0 0 ⟨false, 1, 100, 0, none, .normal⟩,
      .startRocWork 0 0 ⟨true, 2, 100, 0, none, .normal⟩,
      .rocPurge 0 (some false)] rfl
  have taken := right.2 rfl rfl rfl rfl rfl
  revert taken
  decide +kernel

/-- Off-channel requests are concluded once and never stranded in a run exactly when no step of
it leaves a request behind. -/
theorem rocs_served_iff [DecidableEq φ] (hw : Hw) (operChandef : ChanDef κ)
    (inputs : List (Input ι κ φ)) :
    (∀ before, before <+: inputs →
        Right hw (before.foldl (step hw) (rocSetup operChandef))) ↔
      Admissible (step hw) (fun loc input => hw.remainOnChannel = true → Passes loc input)
        (rocSetup operChandef) inputs := by
  refine forall_reached_iff_of_invariant
    (P := fun loc => AllAccounted loc ∧ (hw.remainOnChannel = true → Served loc))
    (Q := Right hw) ?_ ?_ ?_ ?_
  · rintro loc ⟨all, served⟩
    exact ⟨all.concluded, fun hardware => (served hardware).notStranded⟩
  · rintro loc input ⟨all, served⟩ passes
    refine ⟨all.step hw input, fun hardware => ?_⟩
    obtain ⟨sound, iff⟩ := sound_step hardware all (served hardware) input
    exact ⟨sound, iff.mpr (passes hardware)⟩
  · rintro loc input ⟨all, served⟩ right hardware
    exact (sound_step hardware all (served hardware) input).2.mp (right.2 hardware)
  · exact ⟨allAccounted_rocSetup operChandef, fun _ =>
      ⟨⟨nofun, fun scanning => nomatch scanning⟩, fun _ _ _ _ _ first => nomatch first⟩⟩

end

end Iwlwifi.Offchannel
