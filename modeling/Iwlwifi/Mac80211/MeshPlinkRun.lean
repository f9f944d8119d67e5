import Iwlwifi.Lib.Run
import Iwlwifi.Mac80211.MeshPlink

/-!
# Peering over a run

A peer is to become established only after an OPEN and a CONFIRM of its own that match the
local profile and agree on the link ids; its link id is to stay as long as the link lasts; and
the number of established links is to be right.  The last holds of every run
(`counted_step`).  The other two hold of the steps that keep away from three defects
(`Proper`): the verdict on a frame that does not match is overwritten, a link id of zero is
taken for none, and opening a link again changes the link id it has.
-/

namespace Iwlwifi.MeshPlink

open Lib

/-! ## Steps -/

inductive Event
  | frame (mgmt : Mgmt) (room : Bool) (random : List UInt16)
  | beacon (a : Addr) (elems : Elems) (room : Bool) (random : List UInt16)
  | timer (a : Addr) (adjusted : Bool) (random : UInt32)
  | openLink (a : Addr) (random : List UInt16)
  | block (a : Addr)
  | deactivate (a : Addr)
  | remove (a : Addr)
  | station (a : Addr) (auth : Bool) (signal : Int)
  | config (mshcfg : Mshcfg) (acceptingPlinks : Bool)

/-- One event at an interface.  A beacon reaches the peering manager if it matches; a station is
deactivated before it goes; one that the user adds or changes has its flags set. -/
def step (conf : Conf) (s : MeshIf) : Event → MeshIf
  | .frame mgmt room random => (meshProcessPlinkFrame conf s mgmt room random).1
  | .beacon a elems room random =>
    if meshMatchesLocal conf elems then (meshNeighbourUpdate conf s a elems room random).1
    else s
  | .timer a adjusted random => (meshPlinkTimer s a adjusted random).1
  | .openLink a random => (meshPlinkOpen s a random).1
  | .block a => meshPlinkBlock s a
  | .deactivate a => (meshPlinkDeactivate s a).1
  | .remove a =>
    let s := (meshPlinkDeactivate s a).1
    { s with peers := s.peers.erase a }
  | .station a auth signal =>
    let peer := (s.peers.lookup a).getD {}
    s.put a ({ peer with auth := auth, signal := signal }, 0)
  | .config mshcfg acceptingPlinks =>
    { s with mshcfg := mshcfg, acceptingPlinks := acceptingPlinks }

/-! ## What is asked of a step -/

namespace PlinkState

/-- The link is being set up or established. -/
def active : PlinkState → Bool
  | .opnSnt | .opnRcvd | .cnfRcvd | .estab => true
  | _ => false

/-- No link has been started. -/
def idle : PlinkState → Bool
  | .listen | .blocked => true
  | _ => false

end PlinkState

/-- The state of a station's link, if there is one. -/
def linkState (s : MeshIf) (a : Addr) : PlinkState :=
  match s.peers.lookup a with
  | some peer => peer.plinkState
  | none => .listen

/-- The peering frames that each address has sent since its link was last started. -/
abbrev Heard := Addr → List Mgmt

/-- The frames heard, after a step that reached `s`. -/
def Heard.next (heard : Heard) (s : MeshIf) (e : Event) : Heard := fun a =>
  if (linkState s a).idle then []
  else
    match e with
    | .frame mgmt _ _ => if mgmt.sa = a then mgmt :: heard a else heard a
    | _ => heard a

/-- An interface with the frames heard on it. -/
structure Observed where
  mesh : MeshIf
  heard : Heard

def observe (conf : Conf) (o : Observed) (e : Event) : Observed :=
  ⟨step conf o.mesh e, o.heard.next (step conf o.mesh e) e⟩

/-- A matching OPEN with the peer's link id is among the frames. -/
def OpenHeard (conf : Conf) (frames : List Mgmt) (peer : Peer) : Prop :=
  ∃ mgmt ∈ frames, mgmt.actionCode = .meshPeeringOpen ∧
    meshMatchesLocal conf mgmt.elems = true ∧ mgmt.elems.getLlid = peer.plid

/-- A matching CONFIRM with the peer's link id that names the local one is among the frames. -/
def ConfirmHeard (conf : Conf) (frames : List Mgmt) (peer : Peer) : Prop :=
  ∃ mgmt ∈ frames, mgmt.actionCode = .meshPeeringConfirm ∧
    meshMatchesLocal conf mgmt.elems = true ∧ mgmt.elems.getLlid = peer.plid ∧
    mgmt.elems.getPlid = peer.llid

/-- What the step from `o` to `o'` is to keep. -/
structure PeeringRight (conf : Conf) (o o' : Observed) : Prop where
  entered : ∀ a peer, o'.mesh.peers.lookup a = some peer → peer.plinkState = .estab →
    linkState o.mesh a ≠ .estab →
      OpenHeard conf (o'.heard a) peer ∧ ConfirmHeard conf (o'.heard a) peer
  kept : ∀ a peer peer', o.mesh.peers.lookup a = some peer →
    o'.mesh.peers.lookup a = some peer' → peer.plinkState.active = true →
    peer'.plinkState.active = true → peer'.llid = peer.llid
  counted : o'.mesh.estabPlinks =
    o'.mesh.peers.entries.countP fun entry => entry.2.plinkState = .estab

/-! ## The number of established links -/

/-- One if the link is established. -/
def Peer.estab (peer : Peer) : Nat := if peer.plinkState = .estab then 1 else 0

/-- The counter is the number of established links. -/
def Counted (s : MeshIf) : Prop := s.estabPlinks = weighTable Peer.estab s.peers

theorem weigh_estab (entries : List (Σ _ : Addr, Peer)) :
    weigh (fun entry => entry.2.estab) entries =
      entries.countP fun entry => entry.2.plinkState = .estab := by
  induction entries with
  | nil => rfl
  | cons entry rest ih =>
    rw [weigh_cons, List.countP_cons, ih, Peer.estab]
    by_cases established : entry.2.plinkState = .estab
    · simp only [established, decide_true, if_true]
      omega
    · simp only [established, decide_false, Bool.false_eq_true, if_false]
      omega

variable {s : MeshIf} {a : Addr} {e : Event} {peer : Peer} {result : Peer × Int}
  {ftype : ActionCode} {llid plid : UInt16}

/-- A peer's new state keeps the count if it is added what the state of its link changes. -/
theorem counted_put (counted : Counted s) (found : s.peers.lookup a = some peer)
    (change : (result.1.estab : Int) = peer.estab + result.2) : Counted (s.put a result) := by
  have moved := weighTable_insert Peer.estab s.peers a result.1
  have before : weighKey Peer.estab s.peers a = peer.estab := by rw [weighKey, found]
  rw [Counted] at counted ⊢
  simp only [MeshIf.put]
  omega

theorem counted_put_new (counted : Counted s) (missing : s.peers.lookup a = none)
    (change : (result.1.estab : Int) = result.2) : Counted (s.put a result) := by
  have moved := weighTable_insert Peer.estab s.peers a result.1
  have before : weighKey Peer.estab s.peers a = 0 := by rw [weighKey, missing]
  rw [Counted] at counted ⊢
  simp only [MeshIf.put]
  omega

theorem estab_deactivate (peer : Peer) :
    (peer.deactivate.1.estab : Int) = peer.estab + peer.deactivate.2 := by
  by_cases established : peer.plinkState = .estab
  · simp [Peer.deactivate, Peer.estab, established]
  · simp [Peer.deactivate, Peer.estab, established]

theorem estab_fsm (cfg : Mshcfg) (newLlid : UInt16) (peer : Peer) (event : PlinkEvent) :
    ((peer.fsm cfg newLlid event).1.1.estab : Int) =
      peer.estab + (peer.fsm cfg newLlid event).1.2 := by
  unfold Peer.fsm
  cases state : peer.plinkState <;> cases event <;>
    simp [Peer.estab, Peer.fsmRestart, Peer.close, Peer.establish, Peer.deactivate, state]

/-! ## The condition -/

/-- A frame passes every test but that of the profile: it is well formed, its sender may open
links, there is a free slot, and its link ids fit. -/
def accepts (conf : Conf) (s : MeshIf) (peer : Peer) (mgmt : Mgmt) : Bool :=
  plinkFrameFits conf mgmt && peer.auth && peer.plinkState != .blocked &&
    meshPlinkFreeCount s != 0 && (peer.plid == 0 || peer.plid == mgmt.elems.getLlid) &&
    match mgmt.actionCode with
    | .meshPeeringOpen => rssiThresholdCheck s (some peer)
    | .meshPeeringConfirm => peer.llid == mgmt.elems.getPlid
    | _ => false

/-- The second frame of a handshake does not bring the link id that the first had as zero. -/
def idsAgree (peer : Peer) (mgmt : Mgmt) : Bool :=
  match peer.plinkState, mgmt.actionCode with
  | .opnRcvd, .meshPeeringConfirm => peer.plid != 0 || mgmt.elems.getLlid == 0
  | .cnfRcvd, .meshPeeringOpen => peer.plid != 0 || mgmt.elems.getLlid == 0
  | _, _ => true

/-- A frame that passes every other test matches the profile and completes no handshake that was
begun with the link id zero, and no link of an authenticated peer is opened that is being set up
or established. -/
def Proper (conf : Conf) (s : MeshIf) : Event → Prop
  | .frame mgmt _ _ =>
    match s.peers.lookup mgmt.sa with
    | none => True
    | some peer =>
      accepts conf s peer mgmt = true →
        meshMatchesLocal conf mgmt.elems = true ∧ idsAgree peer mgmt = true
  | .openLink a _ =>
    match s.peers.lookup a with
    | none => True
    | some peer => peer.auth = true → peer.plinkState.active = false
  | _ => True

instance (conf : Conf) (s : MeshIf) (e : Event) : Decidable (Proper conf s e) := by
  cases e <;> simp only [Proper] <;> first | infer_instance | (split <;> infer_instance)

/-! ## One peer -/

/-- What has been heard of a peer whose handshake is half done. -/
structure HalfDone (conf : Conf) (frames : List Mgmt) (peer : Peer) : Prop where
  opened : peer.plinkState = .opnRcvd → OpenHeard conf frames peer
  confirmed : peer.plinkState = .cnfRcvd → ConfirmHeard conf frames peer

theorem OpenHeard.mono {conf : Conf} {frames frames' : List Mgmt} {peer peer' : Peer}
    (heard : OpenHeard conf frames peer) (more : frames ⊆ frames')
    (plid : peer'.plid = peer.plid) : OpenHeard conf frames' peer' := by
  obtain ⟨mgmt, member, code, matching, id⟩ := heard
  exact ⟨mgmt, more member, code, matching, id.trans plid.symm⟩

theorem ConfirmHeard.mono {conf : Conf} {frames frames' : List Mgmt} {peer peer' : Peer}
    (heard : ConfirmHeard conf frames peer) (more : frames ⊆ frames')
    (plid : peer'.plid = peer.plid) (llid : peer'.llid = peer.llid) :
    ConfirmHeard conf frames' peer' := by
  obtain ⟨mgmt, member, code, matching, id, named⟩ := heard
  exact ⟨mgmt, more member, code, matching, id.trans plid.symm, named.trans llid.symm⟩

/-- What a step is to do to the peer at one address, given the frames heard of it. -/
structure Moved (conf : Conf) (frames : List Mgmt) (old : Option Peer) (new : Peer) : Prop where
  half : HalfDone conf frames new
  entered : new.plinkState = .estab → (∀ peer, old = some peer → peer.plinkState ≠ .estab) →
    OpenHeard conf frames new ∧ ConfirmHeard conf frames new
  kept : ∀ peer, old = some peer → peer.plinkState.active = true →
    new.plinkState.active = true → new.llid = peer.llid

/-- A link that is neither half done nor established asks for nothing. -/
theorem moved_of_inactive {conf : Conf} {frames' : List Mgmt} {old : Option Peer} {new : Peer}
    (inactive : new.plinkState.active = false) : Moved conf frames' old new := by
  refine ⟨⟨fun opened => ?_, fun confirmed => ?_⟩, fun established _ => ?_, ?_⟩
  · simp [opened, PlinkState.active] at inactive
  · simp [confirmed, PlinkState.active] at inactive
  · simp [established, PlinkState.active] at inactive
  · intro _ _ _ active
    rw [inactive] at active
    exact absurd active Bool.false_ne_true

/-- The link stays where it is, ends, or is started. -/
inductive Quiet (old : Option Peer) (new : Peer) : Prop
  | still (peer : Peer) (was : old = some peer) (state : new.plinkState = peer.plinkState)
      (llid : new.llid = peer.llid) (plid : new.plid = peer.plid)
  | rests (inactive : new.plinkState.active = false)
  | starts (was : ∀ peer, old = some peer → peer.plinkState.active = false)
      (state : new.plinkState = .opnSnt)

theorem Quiet.moved {conf : Conf} {frames frames' : List Mgmt} {old : Option Peer} {new : Peer}
    (quiet : Quiet old new) (half : ∀ peer, old = some peer → HalfDone conf frames peer)
    (more : new.plinkState.idle = false → frames ⊆ frames') : Moved conf frames' old new := by
  rcases quiet with ⟨peer, rfl, state, llid, plid⟩ | ⟨inactive⟩ | ⟨was, state⟩
  · have half := half peer rfl
    refine ⟨⟨fun opened => ?_, fun confirmed => ?_⟩, fun established fresh => ?_, ?_⟩
    · exact (half.opened (state.symm.trans opened)).mono (more (by rw [opened]; rfl)) plid
    · exact (half.confirmed (state.symm.trans confirmed)).mono (more (by rw [confirmed]; rfl))
        plid llid
    · exact absurd (state.symm.trans established) (fresh peer rfl)
    · rintro _ ⟨rfl⟩ _ _
      exact llid
  · exact moved_of_inactive inactive
  · refine ⟨⟨fun opened => ?_, fun confirmed => ?_⟩, fun established _ => ?_, ?_⟩
    · exact absurd (state.symm.trans opened) (by decide)
    · exact absurd (state.symm.trans confirmed) (by decide)
    · exact absurd (state.symm.trans established) (by decide)
    · intro peer same active _
      rw [was peer same] at active
      exact absurd active Bool.false_ne_true

section

variable {conf : Conf} {cfg : Mshcfg} {newLlid : UInt16} {frames frames' : List Mgmt}
  {peer : Peer} {mgmt : Mgmt}

/-- An event other than an accepted OPEN or CONFIRM leaves the link where it is or ends it. -/
theorem quiet_fsm {event : PlinkEvent} (noOpen : event ≠ .opnAcpt) (noConfirm : event ≠ .cnfAcpt) :
    Quiet (some peer) (peer.fsm cfg newLlid event).1.1 := by
  unfold Peer.fsm
  cases state : peer.plinkState <;> cases event <;>
    first
    | exact absurd rfl noOpen
    | exact absurd rfl noConfirm
    | exact .still peer rfl rfl rfl rfl
    | exact .rests rfl

/-- An accepted OPEN that matches and has the peer's link id, if that is known. -/
theorem moved_open (half : HalfDone conf frames peer) (heard : mgmt ∈ frames')
    (more : frames ⊆ frames') (code : mgmt.actionCode = .meshPeeringOpen)
    (matching : meshMatchesLocal conf mgmt.elems = true)
    (id : peer.plid = 0 ∨ peer.plid = mgmt.elems.getLlid) (agree : idsAgree peer mgmt = true) :
    Moved conf frames' (some peer)
      (({ peer with plid := mgmt.elems.getLlid } : Peer).fsm cfg newLlid .opnAcpt).1.1 := by
  have opened : ∀ new : Peer, new.plid = mgmt.elems.getLlid → OpenHeard conf frames' new :=
    fun new same => ⟨mgmt, heard, code, matching, same.symm⟩
  unfold Peer.fsm
  cases state : peer.plinkState with
  | listen =>
    refine ⟨⟨fun _ => opened _ rfl, fun confirmed => ?_⟩, fun established _ => ?_, ?_⟩
    · cases confirmed
    · cases established
    · rintro _ ⟨rfl⟩ active _
      rw [state] at active
      cases active
  | opnSnt | opnRcvd =>
    refine ⟨⟨fun _ => opened _ rfl, fun confirmed => ?_⟩, fun established _ => ?_, ?_⟩
    · cases confirmed
    · cases established
    · rintro _ ⟨rfl⟩ _ _
      rfl
  | cnfRcvd =>
    -- the CONFIRM came first, with this link id
    have same : peer.plid = mgmt.elems.getLlid := by
      rcases id with unset | same
      · simp only [idsAgree, state, code, unset] at agree
        have zero : mgmt.elems.getLlid = 0 := by simpa using agree
        exact unset.trans zero.symm
      · exact same
    refine ⟨⟨fun half => ?_, fun half => ?_⟩, fun _ _ => ⟨opened _ rfl, ?_⟩, ?_⟩
    · cases half
    · cases half
    · exact (half.confirmed state).mono more same.symm rfl
    · rintro _ ⟨rfl⟩ _ _
      rfl
  | estab =>
    refine ⟨⟨fun half => ?_, fun half => ?_⟩, fun _ fresh => absurd state (fresh peer rfl), ?_⟩
    · cases half
    · cases half
    · rintro _ ⟨rfl⟩ _ _
      rfl
  | holding | blocked => exact moved_of_inactive rfl

/-- An accepted CONFIRM that matches, names the local link id and has the peer's, if that is
known. -/
theorem moved_confirm {aid : UInt16} (half : HalfDone conf frames peer) (heard : mgmt ∈ frames')
    (more : frames ⊆ frames') (code : mgmt.actionCode = .meshPeeringConfirm)
    (matching : meshMatchesLocal conf mgmt.elems = true)
    (named : peer.llid = mgmt.elems.getPlid)
    (id : peer.plid = 0 ∨ peer.plid = mgmt.elems.getLlid) (agree : idsAgree peer mgmt = true) :
    Moved conf frames' (some peer)
      (({ peer with
          plid := if peer.plid = 0 then mgmt.elems.getLlid else peer.plid
          aid := aid } : Peer).fsm cfg newLlid .cnfAcpt).1.1 := by
  have plid : (if peer.plid = 0 then mgmt.elems.getLlid else peer.plid) = mgmt.elems.getLlid := by
    split
    · rfl
    · next set => exact id.resolve_left set
  rw [plid]
  have confirmed : ∀ new : Peer, new.plid = mgmt.elems.getLlid → new.llid = peer.llid →
      ConfirmHeard conf frames' new :=
    fun new same own =>
      ⟨mgmt, heard, code, matching, same.symm, named.symm.trans own.symm⟩
  unfold Peer.fsm
  cases state : peer.plinkState with
  | listen | holding | blocked => exact moved_of_inactive rfl
  | opnSnt | cnfRcvd =>
    refine ⟨⟨fun opened => ?_, fun _ => confirmed _ rfl rfl⟩, fun established _ => ?_, ?_⟩
    · cases opened
    · cases established
    · rintro _ ⟨rfl⟩ _ _
      rfl
  | opnRcvd =>
    -- the OPEN came first, with this link id
    have same : peer.plid = mgmt.elems.getLlid := by
      rcases id with unset | same
      · simp only [idsAgree, state, code, unset] at agree
        have zero : mgmt.elems.getLlid = 0 := by simpa using agree
        exact unset.trans zero.symm
      · exact same
    refine ⟨⟨fun half => ?_, fun half => ?_⟩, fun _ _ => ⟨?_, confirmed _ rfl rfl⟩, ?_⟩
    · cases half
    · cases half
    · exact (half.opened state).mono more same.symm
    · rintro _ ⟨rfl⟩ _ _
      rfl
  | estab =>
    refine ⟨⟨fun half => ?_, fun half => ?_⟩, fun _ fresh => absurd state (fresh peer rfl), ?_⟩
    · cases half
    · cases half
    · rintro _ ⟨rfl⟩ _ _
      rfl

end

/-! ## What a received frame does -/

theorem opnAcpt_of_known {conf : Conf} {elems : Elems}
    (event : meshPlinkGetEvent conf s (some peer) elems ftype llid plid = .opnAcpt) :
    ftype = .meshPeeringOpen ∧ peer.auth = true ∧ peer.plinkState ≠ .blocked ∧
      meshPlinkFreeCount s ≠ 0 ∧ (peer.plid = 0 ∨ peer.plid = plid) := by
  unfold meshPlinkGetEvent at event
  cases ftype <;> simp only at event <;> split_ifs at event
  simp_all
  tauto

theorem cnfAcpt_of_known {conf : Conf} {elems : Elems}
    (event : meshPlinkGetEvent conf s (some peer) elems ftype llid plid = .cnfAcpt) :
    ftype = .meshPeeringConfirm ∧ peer.auth = true ∧ peer.plinkState ≠ .blocked ∧
      meshPlinkFreeCount s ≠ 0 ∧ peer.llid = llid ∧ (peer.plid = 0 ∨ peer.plid = plid) := by
  unfold meshPlinkGetEvent at event
  cases ftype <;> simp only at event <;> split_ifs at event
  simp_all
  tauto

theorem opnAcpt_of_unknown {conf : Conf} {elems : Elems}
    (event : meshPlinkGetEvent conf s none elems ftype llid plid = .opnAcpt) :
    ftype = .meshPeeringOpen ∧ meshMatchesLocal conf elems = true := by
  unfold meshPlinkGetEvent at event
  cases ftype <;> simp only at event <;> split_ifs at event <;> simp_all

/-- What a received frame does to the interface. -/
inductive FrameResult (conf : Conf) (s : MeshIf) (mgmt : Mgmt) (s' : MeshIf) : Prop
  | same (same : s' = s)
  | fresh (newLlid : UInt16) (missing : s.peers.lookup mgmt.sa = none)
      (code : mgmt.actionCode = .meshPeeringOpen)
      (matching : meshMatchesLocal conf mgmt.elems = true)
      (result : s' = s.put mgmt.sa
        (({ plid := mgmt.elems.getLlid } : Peer).fsm s.mshcfg newLlid .opnAcpt).1)
  | opened (newLlid : UInt16) (peer : Peer) (found : s.peers.lookup mgmt.sa = some peer)
      (code : mgmt.actionCode = .meshPeeringOpen) (passes : accepts conf s peer mgmt = true)
      (id : peer.plid = 0 ∨ peer.plid = mgmt.elems.getLlid)
      (result : s' = s.put mgmt.sa
        (({ peer with plid := mgmt.elems.getLlid } : Peer).fsm s.mshcfg newLlid .opnAcpt).1)
  | confirmed (newLlid : UInt16) (peer : Peer) (found : s.peers.lookup mgmt.sa = some peer)
      (code : mgmt.actionCode = .meshPeeringConfirm) (passes : accepts conf s peer mgmt = true)
      (named : peer.llid = mgmt.elems.getPlid)
      (id : peer.plid = 0 ∨ peer.plid = mgmt.elems.getLlid)
      (result : s' = s.put mgmt.sa
        (({ peer with
            plid := if peer.plid = 0 then mgmt.elems.getLlid else peer.plid
            aid := mgmt.aid } : Peer).fsm s.mshcfg newLlid .cnfAcpt).1)
  | other (newLlid : UInt16) (peer : Peer) (event : PlinkEvent)
      (found : s.peers.lookup mgmt.sa = some peer) (noOpen : event ≠ .opnAcpt)
      (noConfirm : event ≠ .cnfAcpt)
      (result : s' = s.put mgmt.sa (peer.fsm s.mshcfg newLlid event).1)

theorem frameResult (conf : Conf) (s : MeshIf) (mgmt : Mgmt) (room : Bool)
    (random : List UInt16) :
    FrameResult conf s mgmt (meshProcessPlinkFrame conf s mgmt room random).1 := by
  unfold meshProcessPlinkFrame
  split
  · exact .same rfl
  · next fits =>
      dsimp only
      split
      · exact .same rfl
      · next strong =>
          have fits : plinkFrameFits conf mgmt = true := by simpa using fits
          split
          · next event =>
              cases found : s.peers.lookup mgmt.sa with
              | none =>
                rw [found] at event
                obtain ⟨code, matching⟩ := opnAcpt_of_unknown event
                simp only [meshStaInfoGet, found, meshStaInfoAlloc]
                split
                · exact .same rfl
                · next peer new =>
                    have new : ({} : Peer) = peer := by
                      split_ifs at new
                      exact Option.some.inj new
                    subst new
                    exact .fresh _ found code matching rfl
              | some peer =>
                rw [found] at event
                obtain ⟨code, auth, unblocked, slot, id⟩ := opnAcpt_of_known event
                simp only [meshStaInfoGet, found]
                have passes : accepts conf s peer mgmt = true := by
                  simpa [accepts, fits, auth, unblocked, slot, id, code, found] using strong
                exact .opened _ peer found code passes id rfl
          · next event noOpen =>
              cases found : s.peers.lookup mgmt.sa with
              | none =>
                dsimp only
                split <;> exact .same rfl
              | some peer =>
                rw [found] at noOpen
                dsimp only
                split
                · exact .same rfl
                · split
                  · next confirms =>
                      obtain ⟨code, auth, unblocked, slot, named, id⟩ :=
                        cnfAcpt_of_known confirms
                      have named : peer.llid = mgmt.elems.getPlid := by
                        rw [named, frameLlid, code]
                        rfl
                      have passes : accepts conf s peer mgmt = true := by
                        simp [accepts, fits, auth, unblocked, slot, id, code, named]
                      rw [confirms]
                      exact .confirmed (meshGetNewLlid s random) peer found code passes named
                        id rfl
                  · next noConfirm =>
                      exact .other (meshGetNewLlid s random) peer _ found noOpen noConfirm rfl

/-! ## Every step -/

/-- Apart from received frames, a step leaves each link where it is, ends it or starts it. -/
def Calm (s s' : MeshIf) : Prop :=
  ∀ a new, s'.peers.lookup a = some new → Quiet (s.peers.lookup a) new

theorem calm_refl (s : MeshIf) : Calm s s :=
  fun _ new found => .still new found rfl rfl rfl

theorem calm_put (quiet : Quiet (s.peers.lookup a) result.1) : Calm s (s.put a result) := by
  intro b new found
  simp only [MeshIf.put] at found
  by_cases same : b = a
  · subst same
    rw [AList.lookup_insert] at found
    obtain rfl := Option.some.inj found
    exact quiet
  · rw [AList.lookup_insert_ne same] at found
    exact .still new found rfl rfl rfl

theorem calm_open {random : List UInt16} (proper : Proper conf s (.openLink a random)) :
    Calm s (meshPlinkOpen s a random).1 := by
  unfold meshPlinkOpen
  split
  · exact calm_refl s
  · next peer found =>
      split
      · exact calm_refl s
      · next authenticated =>
        have inactive : peer.plinkState.active = false := by
          rw [Proper, found] at proper
          exact proper (by simpa using authenticated)
        dsimp only
        split
        · exact calm_put (.rests inactive)
        · refine calm_put (.starts (fun old same => ?_) rfl)
          rw [found] at same
          obtain rfl := Option.some.inj same
          exact inactive

theorem calm_block (s : MeshIf) (a : Addr) : Calm s (meshPlinkBlock s a) := by
  unfold meshPlinkBlock
  split
  · exact calm_refl s
  · exact calm_put (.rests rfl)

theorem calm_deactivate (s : MeshIf) (a : Addr) : Calm s (meshPlinkDeactivate s a).1 := by
  unfold meshPlinkDeactivate
  split
  · exact calm_refl s
  · exact calm_put (.rests rfl)

theorem calm_timer (s : MeshIf) (a : Addr) (adjusted : Bool) (random : UInt32) :
    Calm s (meshPlinkTimer s a adjusted random).1 := by
  unfold meshPlinkTimer
  split
  · exact calm_refl s
  · next peer found =>
      dsimp only
      split
      · exact calm_refl s
      · split
        · split
          · exact calm_put (.still peer found rfl rfl rfl)
          · exact calm_put (.rests rfl)
        · split
          · exact calm_put (.still peer found rfl rfl rfl)
          · exact calm_put (.rests rfl)
        · exact calm_put (.rests rfl)
        · exact calm_put (.rests rfl)
        · exact calm_refl s

/-- A station found or made for a beacon: an old one as it is, or a new one that listens. -/
theorem meshStaInfoGet_cases {conf : Conf} {room : Bool}
    (got : meshStaInfoGet conf s a room = some peer) :
    s.peers.lookup a = some peer ∨ s.peers.lookup a = none ∧ peer = {} := by
  unfold meshStaInfoGet at got
  split at got
  · next old found => exact .inl (found.trans got)
  · next missing =>
      rw [meshStaInfoAlloc] at got
      split_ifs at got
      exact .inr ⟨missing, (Option.some.inj got).symm⟩

theorem Quiet.of_listen {peer new : Peer} (quiet : Quiet (some peer) new)
    (listens : peer.plinkState = .listen) : Quiet none new := by
  rcases quiet with ⟨_, ⟨rfl⟩, state, -, -⟩ | ⟨inactive⟩ | ⟨-, state⟩
  · exact .rests (by rw [state, listens]; rfl)
  · exact .rests inactive
  · exact .starts (fun _ never => nomatch never) state

theorem calm_neighbour (conf : Conf) (s : MeshIf) (a : Addr) (elems : Elems) (room : Bool)
    (random : List UInt16) : Calm s (meshNeighbourUpdate conf s a elems room random).1 := by
  unfold meshNeighbourUpdate
  split
  · exact calm_refl s
  · next peer got =>
      have here : (s.put a (peer, 0)).peers.lookup a = some peer := AList.lookup_insert _
      have first : Quiet (s.peers.lookup a) peer := by
        rcases meshStaInfoGet_cases got with found | ⟨-, rfl⟩
        · exact .still peer found rfl rfl rfl
        · exact .rests rfl
      dsimp only
      split
      · next opens =>
          have listens : peer.plinkState = .listen := by
            simp only [Bool.and_eq_true, decide_eq_true_eq] at opens
            exact opens.1.1.1.2
          have proper : Proper conf (s.put a (peer, 0)) (.openLink a random) := by
            rw [Proper, here]
            exact fun _ => by rw [listens]; rfl
          intro b new found
          have quiet := calm_open proper b new found
          by_cases same : b = a
          · subst same
            rw [here] at quiet
            rcases meshStaInfoGet_cases got with known | ⟨missing, -⟩
            · rw [known]
              exact quiet
            · rw [missing]
              exact quiet.of_listen listens
          · simp only [MeshIf.put] at quiet
            rwa [AList.lookup_insert_ne same] at quiet
      · exact calm_put first

theorem calm_erase {s s' : MeshIf} (calm : Calm s s') (a : Addr) :
    Calm s { s' with peers := s'.peers.erase a } := by
  intro b new found
  by_cases same : b = a
  · subst same
    rw [AList.lookup_erase] at found
    cases found
  · rw [AList.lookup_erase_ne same] at found
    exact calm b new found

/-- Every step but a received frame is calm, if it opens no link that is active. -/
theorem calm_step {conf : Conf} (proper : Proper conf s e)
    (local_ : ∀ mgmt room random, e ≠ .frame mgmt room random) : Calm s (step conf s e) := by
  cases e with
  | frame mgmt room random => exact absurd rfl (local_ mgmt room random)
  | beacon a elems room random =>
    rw [step]
    split
    · exact calm_neighbour conf s a elems room random
    · exact calm_refl s
  | timer a adjusted random => exact calm_timer s a adjusted random
  | openLink a random => exact calm_open proper
  | block a => exact calm_block s a
  | deactivate a => exact calm_deactivate s a
  | remove a => exact calm_erase (calm_deactivate s a) a
  | station a auth signal =>
    apply calm_put
    cases found : s.peers.lookup a with
    | none => exact .rests rfl
    | some peer => exact .still peer rfl rfl rfl rfl
  | config mshcfg acceptingPlinks => exact calm_refl s

/-! ## The count along a step -/

theorem counted_erase (counted : Counted s) (inactive : linkState s a ≠ .estab) :
    Counted { s with peers := s.peers.erase a } := by
  have moved := weighTable_erase Peer.estab s.peers a
  have none : weighKey Peer.estab s.peers a = 0 := by
    rw [weighKey]
    rw [linkState] at inactive
    split at inactive
    · next peer found => rw [found]; exact if_neg inactive
    · next missing => rw [missing]
  rw [Counted] at counted ⊢
  dsimp only
  omega

theorem counted_frame {conf : Conf} {s s' : MeshIf} {mgmt : Mgmt} (counted : Counted s)
    (result : FrameResult conf s mgmt s') : Counted s' := by
  rcases result with ⟨rfl⟩ | ⟨newLlid, missing, _, _, rfl⟩ | ⟨newLlid, peer, found, _, _, _, rfl⟩ |
    ⟨newLlid, peer, found, _, _, _, _, rfl⟩ | ⟨newLlid, peer, event, found, _, _, rfl⟩
  · exact counted
  · exact counted_put_new counted missing rfl
  · exact counted_put counted found (estab_fsm _ _ _ _)
  · exact counted_put counted found (estab_fsm _ _ _ _)
  · exact counted_put counted found (estab_fsm _ _ _ _)

theorem counted_open (counted : Counted s) (a : Addr) (random : List UInt16) :
    Counted (meshPlinkOpen s a random).1 := by
  unfold meshPlinkOpen
  split
  · exact counted
  · next peer found =>
      split
      · exact counted
      · dsimp only
        split
        · exact counted_put counted found (by simp [Peer.estab])
        · next waits =>
            refine counted_put counted found ?_
            have idle : peer.plinkState ≠ .estab := by
              intro established
              exact waits (by rw [established]; decide)
            simp [Peer.estab, idle]

theorem counted_timer (counted : Counted s) (a : Addr) (adjusted : Bool) (random : UInt32) :
    Counted (meshPlinkTimer s a adjusted random).1 := by
  unfold meshPlinkTimer
  split
  · exact counted
  · next peer found =>
      dsimp only
      split
      · exact counted
      · split
        · next state =>
            split <;> exact counted_put counted found (by simp [Peer.estab, state])
        · next state =>
            split <;> exact counted_put counted found (by simp [Peer.estab, state])
        · next state => exact counted_put counted found (by simp [Peer.estab, state])
        · next state =>
            exact counted_put counted found (by simp [Peer.estab, Peer.fsmRestart, state])
        · exact counted

theorem counted_deactivate (counted : Counted s) (a : Addr) :
    Counted (meshPlinkDeactivate s a).1 := by
  unfold meshPlinkDeactivate
  split
  · exact counted
  · next peer found => exact counted_put counted found (estab_deactivate peer)

theorem linkState_deactivate (s : MeshIf) (a : Addr) :
    linkState (meshPlinkDeactivate s a).1 a ≠ .estab := by
  unfold meshPlinkDeactivate
  split
  · next missing => simp [linkState, missing]
  · simp [linkState, MeshIf.put, AList.lookup_insert, Peer.deactivate]

/-- Every step, whatever it is, keeps the count of established links right. -/
theorem counted_step (conf : Conf) (counted : Counted s) (e : Event) : Counted (step conf s e) := by
  cases e with
  | frame mgmt room random => exact counted_frame counted (frameResult conf s mgmt room random)
  | beacon a elems room random =>
    rw [step]
    split
    · unfold meshNeighbourUpdate
      split
      · exact counted
      · next peer got =>
          have here : Counted (s.put a (peer, 0)) := by
            rcases meshStaInfoGet_cases got with found | ⟨missing, rfl⟩
            · exact counted_put counted found (by simp)
            · exact counted_put_new counted missing rfl
          dsimp only
          split
          · exact counted_open here a random
          · exact here
    · exact counted
  | timer a adjusted random => exact counted_timer counted a adjusted random
  | openLink a random => exact counted_open counted a random
  | block a =>
    simp only [step, meshPlinkBlock]
    split
    · exact counted
    · next peer found => exact counted_put counted found (estab_deactivate peer)
  | deactivate a => exact counted_deactivate counted a
  | remove a => exact counted_erase (counted_deactivate counted a) (linkState_deactivate s a)
  | station a auth signal =>
    cases found : s.peers.lookup a with
    | none => exact counted_put_new counted found (by rw [found]; rfl)
    | some peer => exact counted_put counted found (by simp [found, Peer.estab])
  | config mshcfg acceptingPlinks => exact counted

/-! ## The run -/

/-- What holds between the steps of a run. -/
structure Peering (conf : Conf) (o : Observed) : Prop where
  half : ∀ a peer, o.mesh.peers.lookup a = some peer → HalfDone conf (o.heard a) peer
  counted : Counted o.mesh

theorem idle_inactive {state : PlinkState} (idle : state.idle = true) : state.active = false := by
  cases state <;> first | rfl | cases idle

theorem heard_subset {heard : Heard} (e : Event) (started : (linkState s a).idle = false) :
    heard a ⊆ heard.next s e a := by
  unfold Heard.next
  rw [started, if_neg Bool.false_ne_true]
  split
  · split
    · exact List.subset_cons_self _ _
    · exact List.Subset.refl _
  · exact List.Subset.refl _

theorem mem_heard_frame {heard : Heard} {mgmt : Mgmt} (room : Bool) (random : List UInt16)
    (started : (linkState s mgmt.sa).idle = false) :
    mgmt ∈ heard.next s (.frame mgmt room random) mgmt.sa := by
  simp only [Heard.next, started, Bool.false_eq_true, if_false, if_true]
  exact List.mem_cons_self

section

variable {conf : Conf} {o : Observed}

theorem linkState_observe {new : Peer} (found : (observe conf o e).mesh.peers.lookup a = some new) :
    linkState (step conf o.mesh e) a = new.plinkState := by
  have found : (step conf o.mesh e).peers.lookup a = some new := found
  rw [linkState, found]

/-- A peer whose link stays where it is, ends or starts moves as it may. -/
theorem moved_of_quiet {new : Peer} (inv : Peering conf o)
    (found : (observe conf o e).mesh.peers.lookup a = some new)
    (quiet : Quiet (o.mesh.peers.lookup a) new) :
    Moved conf ((observe conf o e).heard a) (o.mesh.peers.lookup a) new :=
  quiet.moved (inv.half a) fun started =>
    heard_subset e (by rw [linkState_observe found]; exact started)

/-- Where the sender of a frame moves as it may, so does every peer: the others stay. -/
theorem moved_of_sender {mgmt : Mgmt} {room : Bool} {random : List UInt16}
    {result : Peer × Int} (inv : Peering conf o)
    (put : step conf o.mesh (.frame mgmt room random) = o.mesh.put mgmt.sa result)
    (moved : ∀ frames', mgmt ∈ frames' → o.heard mgmt.sa ⊆ frames' →
      Moved conf frames' (o.mesh.peers.lookup mgmt.sa) result.1)
    (a : Addr) (new : Peer)
    (found : (observe conf o (.frame mgmt room random)).mesh.peers.lookup a = some new) :
    Moved conf ((observe conf o (.frame mgmt room random)).heard a) (o.mesh.peers.lookup a)
      new := by
  have after : (o.mesh.put mgmt.sa result).peers.lookup a = some new := by
    rw [← put]
    exact found
  by_cases same : a = mgmt.sa
  · subst same
    have here : some result.1 = some new := by
      rw [← after, MeshIf.put, AList.lookup_insert]
    obtain rfl := Option.some.inj here
    cases started : result.1.plinkState.idle with
    | true => exact moved_of_inactive (idle_inactive started)
    | false =>
      have link := (linkState_observe found).symm ▸ started
      exact moved _ (mem_heard_frame room random link)
        (heard_subset (.frame mgmt room random) link)
  · have old : o.mesh.peers.lookup a = some new := by
      rw [← after, MeshIf.put, AList.lookup_insert_ne same]
    exact moved_of_quiet inv found (.still new old rfl rfl rfl)

/-- The step lemma: every peer moves as it may. -/
theorem moved_step (inv : Peering conf o) (proper : Proper conf o.mesh e) (a : Addr) (new : Peer)
    (found : (observe conf o e).mesh.peers.lookup a = some new) :
    Moved conf ((observe conf o e).heard a) (o.mesh.peers.lookup a) new := by
  by_cases received : ∃ mgmt room random, e = .frame mgmt room random
  · obtain ⟨mgmt, room, random, rfl⟩ := received
    have known : ∀ peer, o.mesh.peers.lookup mgmt.sa = some peer →
        accepts conf o.mesh peer mgmt = true →
          meshMatchesLocal conf mgmt.elems = true ∧ idsAgree peer mgmt = true := by
      intro peer found
      simpa only [Proper, found] using proper
    rcases frameResult conf o.mesh mgmt room random with
      same | ⟨newLlid, missing, code, matching, put⟩ |
      ⟨newLlid, peer, old, code, passes, id, put⟩ |
      ⟨newLlid, peer, old, code, passes, named, id, put⟩ |
      ⟨newLlid, peer, event, old, noOpen, noConfirm, put⟩
    · have unchanged : o.mesh.peers.lookup a = some new := by
        rw [← found, observe, step, same]
      exact moved_of_quiet inv found (.still new unchanged rfl rfl rfl)
    · apply @moved_of_sender conf o mgmt room random _ inv put ?_ a new found
      rw [missing]
      intro frames' heard _
      refine ⟨⟨fun _ => ⟨mgmt, heard, code, matching, rfl⟩, fun never => ?_⟩, fun never _ => ?_,
        fun _ never => nomatch never⟩
      · cases never
      · cases never
    · apply @moved_of_sender conf o mgmt room random _ inv put ?_ a new found
      rw [old]
      intro frames' heard more
      obtain ⟨matching, agree⟩ := known peer old passes
      exact moved_open (inv.half _ peer old) heard more code matching id agree
    · apply @moved_of_sender conf o mgmt room random _ inv put ?_ a new found
      rw [old]
      intro frames' heard more
      obtain ⟨matching, agree⟩ := known peer old passes
      exact moved_confirm (inv.half _ peer old) heard more code matching named id agree
    · apply @moved_of_sender conf o mgmt room random _ inv put ?_ a new found
      rw [old]
      intro frames' _ more
      refine (quiet_fsm noOpen noConfirm).moved ?_ fun _ => more
      rintro _ ⟨rfl⟩
      exact inv.half _ peer old
  · exact moved_of_quiet inv found (calm_step proper
      (fun mgmt room random same => received ⟨mgmt, room, random, same⟩) a new found)

theorem peering_step (inv : Peering conf o) (proper : Proper conf o.mesh e) :
    Peering conf (observe conf o e) where
  half := fun a peer found => (moved_step inv proper a peer found).half
  counted := counted_step conf inv.counted e

theorem right_step (inv : Peering conf o) (proper : Proper conf o.mesh e) :
    PeeringRight conf o (observe conf o e) where
  entered := fun a peer found established before =>
    (moved_step inv proper a peer found).entered established fun old was same =>
      before (by rw [linkState, was]; exact same)
  kept := fun a peer peer' was found active active' =>
    (moved_step inv proper a peer' found).kept peer was active active'
  counted := by
    rw [← weigh_estab]
    exact counted_step conf inv.counted e

end

/-- The count is right in every run, proper or not. -/
theorem estabPlinks_of_run (conf : Conf) (cfg : Mshcfg) (accepting : Bool)
    (events : List Event) :
    let s := events.foldl (step conf) ⟨cfg, accepting, 0, ∅⟩
    s.estabPlinks = s.peers.entries.countP fun entry => entry.2.plinkState = .estab := by
  intro s
  rw [← weigh_estab]
  have start : Counted ⟨cfg, accepting, 0, ∅⟩ := rfl
  exact run_invariant (P := Counted) (fun _ e counted => counted_step conf counted e) start events

/-- In a run whose steps are all proper, from an interface without stations, every step lets
peers in only after their OPEN and CONFIRM, keeps the link id of every link that lasts, and
leaves the number of established links right. -/
theorem peering_right_of_proper (conf : Conf) (s : MeshIf) (noStations : s.peers = ∅)
    (noLinks : s.estabPlinks = 0) (before : List Event) (e : Event)
    (run : Admissible (observe conf) (fun o e => Proper conf o.mesh e) ⟨s, fun _ => []⟩
      (before ++ [e])) :
    PeeringRight conf (before.foldl (observe conf) ⟨s, fun _ => []⟩)
      ((before ++ [e]).foldl (observe conf) ⟨s, fun _ => []⟩) := by
  have start : Peering conf ⟨s, fun _ => []⟩ := by
    refine ⟨fun a peer found => ?_, ?_⟩
    · rw [noStations] at found
      cases found
    · rw [Counted, noStations, noLinks]
      rfl
  exact run.step_of_append (fun _ _ inv proper => peering_step inv proper)
    (fun _ _ inv proper => right_step inv proper) start

/-- A mesh on a band with one basic rate. -/
def oneRateMesh : Conf where
  meshId := [0x6d]
  meshPpId := 1
  meshPmId := 1
  meshCcId := 0
  meshSpId := 1
  meshAuthId := 0
  bitrates := some [{ bitrate := 60 }]
  basicRates := 1
  chandefCompatible := fun _ _ => true

/-- The elements of a station of the mesh with an id, with its peering element. -/
def meshElems (meshId peering : List UInt8) : Elems where
  peering := some peering
  meshId := some meshId
  meshConfig := some { psel := 1, pmetric := 1, congest := 0, synch := 1, auth := 0, cap := 1 }
  suppRates := [0x8c]

/-- A neighbour is found, the local link id being 5, and sends an OPEN with the link id 7. -/
def openReceived (meshId : List UInt8) : List Event :=
  [.beacon 1 (meshElems [0x6d] []) true [5],
    .frame ⟨1, .meshPeeringOpen, 0, meshElems meshId [0, 0, 7, 0]⟩ true []]

/-- The neighbour's CONFIRM of that link. -/
def confirmReceived (meshId : List UInt8) : Event :=
  .frame ⟨1, .meshPeeringConfirm, 1, meshElems meshId [0, 0, 7, 0, 5, 0]⟩ true []

theorem peering_right_of_neighbour :
    PeeringRight oneRateMesh
      ((openReceived [0x6d]).foldl (observe oneRateMesh) ⟨{}, fun _ => []⟩)
      ((openReceived [0x6d] ++ [confirmReceived [0x6d]]).foldl (observe oneRateMesh)
        ⟨{}, fun _ => []⟩) :=
  peering_right_of_proper oneRateMesh {} rfl rfl (openReceived [0x6d]) (confirmReceived [0x6d])
    (by decide +kernel)

/-- The neighbour has gone over to another mesh, and is let in. -/
theorem foreign_mesh_let_in :
    ¬ ∀ (conf : Conf) (s : MeshIf) (before : List Event) (e : Event), s.peers = ∅ →
      s.estabPlinks = 0 →
        PeeringRight conf (before.foldl (observe conf) ⟨s, fun _ => []⟩)
          ((before ++ [e]).foldl (observe conf) ⟨s, fun _ => []⟩) := by
  intro claimed
  have right := claimed oneRateMesh {} (openReceived [0x78]) (confirmReceived [0x78]) rfl rfl
  obtain ⟨⟨mgmt, member, -, matching, -⟩, -⟩ := right.entered 1
    { plinkState := .estab, llid := 5, plid := 7, plinkTimeout := 100, aid := 1 }
    (by decide +kernel) rfl (by decide +kernel)
  have foreign : ∀ mgmt ∈ ((openReceived [0x78] ++ [confirmReceived [0x78]]).foldl
      (observe oneRateMesh) ⟨{}, fun _ => []⟩).heard 1,
      meshMatchesLocal oneRateMesh mgmt.elems = false := by
    decide +kernel
  rw [foreign mgmt member] at matching
  cases matching

end Iwlwifi.MeshPlink
