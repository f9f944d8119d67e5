import Iwlwifi.Lib.Run
import Iwlwifi.Mvm.FtmInitiator

/-!
# Who owns a ranging request

Of a request only its fate matters here: the device it belongs to, whether the driver accepted
it, whether it was put on its list, and how often it was freed.  `Owned` says that fates are as
they should be.  A step from such a state leads to one again exactly when it is `Proper`: no
request is completed before it has been put on its list, and the loop of an abort frees no
request that the driver still points to and none that has been completed meanwhile.
-/

namespace Iwlwifi.Ftm

open Function (update update_of_ne update_self)

open Lib

/-! ## Fates -/

structure Fate where
  wdev : Nat
  accepted : Bool
  inserted : Bool
  freed : Nat
deriving DecidableEq, Repr

def Req.fate (req : Req) : Fate := ⟨req.wdev, req.accepted, req.inserted, req.freed⟩

def State.fate (s : State) (r : Nat) : Option Fate := (s.reqs[r]?).map Req.fate

/-- What is asked of every reachable state. -/
structure Owned (s : State) : Prop where
  active : ∀ r, s.ftmReq = some r → ∃ f, s.fate r = some f ∧ f.freed = 0
  once : ∀ r f, s.fate r = some f → f.freed ≤ 1
  removed : ∀ r f, s.fate r = some f → f.freed ≠ 0 → f.accepted = true →
    f.inserted = true ∧ ∀ w, r ∉ s.lists w
  held : ∀ r f, s.fate r = some f → f.freed = 0 →
    r ∈ s.lists f.wdev ∨ s.starting = some r ∨ ∃ w, r ∈ s.aborting w
  reported : ∀ report ∈ s.reports, report.stale = false
  startable : (∀ r f, s.fate r = some f → f.freed ≠ 0) →
    ∀ r, (iwlMvmFtmStart s r true).2 = true

/-- What holds besides between the steps of a run. -/
structure Kept (s : State) : Prop extends Owned s where
  listed : ∀ w r, r ∈ s.lists w → ∃ f, s.fate r = some f ∧ f.wdev = w ∧
    f.inserted = true ∧ f.freed = 0
  aborted : ∀ w r, r ∈ s.aborting w → ∃ f, s.fate r = some f ∧ f.inserted = true ∧
    ∀ w', r ∉ s.lists w'
  started : ∀ r, s.starting = some r → ∃ f, s.fate r = some f ∧ f.accepted = true ∧
    f.inserted = false ∧ f.freed = 0

/-- Where the driver points to no freed request, it takes a new one when all are freed. -/
theorem startable_of_active {s : State}
    (active : ∀ r, s.ftmReq = some r → ∃ f, s.fate r = some f ∧ f.freed = 0)
    (allFreed : ∀ r f, s.fate r = some f → f.freed ≠ 0) (r : Nat) :
    (iwlMvmFtmStart s r true).2 = true := by
  cases current : s.ftmReq with
  | none => simp [iwlMvmFtmStart, current]
  | some old =>
    obtain ⟨f, known, live⟩ := active old current
    exact absurd live (allFreed old f known)

/-! ## The condition -/

/-- The driver's request is the one that is being started. -/
def halfStarted (s : State) : Bool :=
  match s.ftmReq with
  | none => false
  | some r => s.starting == some r

/-- A range response is taken for the driver's request. -/
def answers (s : State) (rsp : RangeRsp) : Bool :=
  match s.ftmReq with
  | none => false
  | some r =>
    match s.reqs[r]? with
    | none => false
    | some req => rangeRespValid req rsp

/-- No request is completed before it is on its list, and the loop of an abort frees no request
that the driver points to or that has been freed. -/
def Proper (s : State) : Event → Prop
  | .rangeResp rsp => (rsp.lastReport && answers s rsp && halfStarted s) = false
  | .restart => halfStarted s = false
  | .freeCurrent wdev =>
    match s.aborting wdev with
    | [] => True
    | r :: _ =>
      s.told wdev = true → s.ftmReq ≠ some r ∧ ∀ f ∈ s.fate r, f.freed = 0
  | _ => True

instance (s : State) (e : Event) : Decidable (Proper s e) := by
  cases e <;> simp only [Proper] <;> first | infer_instance | (split <;> infer_instance)

/-! ## Fates along the steps -/

@[simp] theorem fate_listDel (s : State) (r x : Nat) : (s.listDel r).fate x = s.fate x := rfl

theorem fate_kfree (s : State) (r x : Nat) :
    (s.kfree r).fate x =
      if r = x then (s.fate x).map fun f => { f with freed := f.freed + 1 } else s.fate x := by
  simp only [State.fate, State.kfree, List.getElem?_modify]
  split
  · cases s.reqs[x]? <;> simp [Req.fate]
  · cases s.reqs[x]? <;> simp

theorem fate_clearOwner (s : State) (wdev : Nat) (own : Req → Bool) (x : Nat) :
    (clearOwner s wdev own).fate x = s.fate x := by
  simp only [State.fate, clearOwner, List.getElem?_mapIdx, Option.map_map]
  congr 1
  funext req
  simp only [Function.comp_apply]
  split <;> rfl

/-- A step that changes neither fates nor lists nor what the driver points to. -/
structure SameOwners (s s' : State) : Prop where
  fate : ∀ r, s'.fate r = s.fate r
  lists : s'.lists = s.lists
  starting : s'.starting = s.starting
  aborting : s'.aborting = s.aborting
  ftmReq : s'.ftmReq = s.ftmReq

theorem SameOwners.refl (s : State) : SameOwners s s := ⟨fun _ => rfl, rfl, rfl, rfl, rfl⟩

theorem SameOwners.trans {s s' s'' : State} (first : SameOwners s s')
    (second : SameOwners s' s'') : SameOwners s s'' :=
  ⟨fun r => (second.fate r).trans (first.fate r), second.lists.trans first.lists,
    second.starting.trans first.starting, second.aborting.trans first.aborting,
    second.ftmReq.trans first.ftmReq⟩

theorem Kept.of_same {s s' : State} (kept : Kept s) (same : SameOwners s s')
    (reported : ∀ report ∈ s'.reports, report.stale = false) : Kept s' := by
  obtain ⟨fate, lists, starting, aborting, ftmReq⟩ := same
  have active : ∀ r, s'.ftmReq = some r → ∃ f, s'.fate r = some f ∧ f.freed = 0 := by
    simpa only [fate, ftmReq] using kept.active
  refine ⟨⟨active, ?_, ?_, ?_, reported, startable_of_active active⟩, ?_, ?_, ?_⟩
  · simpa only [fate] using kept.once
  · simpa only [fate, lists] using kept.removed
  · simpa only [fate, lists, starting, aborting] using kept.held
  · simpa only [fate, lists] using kept.listed
  · simpa only [fate, lists, aborting] using kept.aborted
  · simpa only [fate, starting] using kept.started

section

variable {s : State}

/-! ## Starting and inserting -/

theorem fate_alloc (req : Req) (cookie : UInt64) (x : Nat) :
    (s.alloc req cookie).fate x = if x = s.reqs.length then some req.fate else s.fate x := by
  simp only [State.fate, State.alloc]
  rcases Nat.lt_trichotomy x s.reqs.length with inside | rfl | outside
  · rw [List.getElem?_append_left inside, if_neg (Nat.ne_of_lt inside)]
  · rw [List.getElem?_concat_length, if_pos rfl]
    rfl
  · rw [if_neg (Nat.ne_of_gt outside), List.getElem?_eq_none (by simp; omega),
      List.getElem?_eq_none (by omega)]

theorem lt_of_fate {x : Nat} {f : Fate} (known : s.fate x = some f) : x < s.reqs.length := by
  by_contra outside
  rw [State.fate, List.getElem?_eq_none (by omega)] at known
  cases known

/-- A new request that is freed at once or that the driver points to from now on. -/
theorem Kept.of_new {s' : State} (kept : Kept s) (new : Fate)
    (fate : ∀ x, s'.fate x = if x = s.reqs.length then some new else s.fate x)
    (lists : s'.lists = s.lists) (aborting : s'.aborting = s.aborting)
    (reports : s'.reports = s.reports)
    (outcome :
      (new.freed = 1 ∧ new.accepted = false ∧ s'.starting = s.starting ∧ s'.ftmReq = s.ftmReq) ∨
      (new.freed = 0 ∧ new.accepted = true ∧ new.inserted = false ∧
        s'.starting = some s.reqs.length ∧ s.starting = none ∧
        s'.ftmReq = some s.reqs.length)) : Kept s' := by
  have old : ∀ {x f}, s.fate x = some f → s'.fate x = some f := by
    intro x f known
    rw [fate, if_neg (Nat.ne_of_lt (lt_of_fate known)), known]
  have cases : ∀ {x f}, s'.fate x = some f → x = s.reqs.length ∧ f = new ∨ s.fate x = some f := by
    intro x f known
    rw [fate] at known
    split at known
    · next same => exact .inl ⟨same, (Option.some.inj known).symm⟩
    · exact .inr known
  have active : ∀ r, s'.ftmReq = some r → ∃ f, s'.fate r = some f ∧ f.freed = 0 := by
    intro r current
    rcases outcome with ⟨-, -, -, same⟩ | ⟨live, -, -, -, -, points⟩
    · obtain ⟨f, known, live⟩ := kept.active r (same ▸ current)
      exact ⟨f, old known, live⟩
    · obtain rfl : s.reqs.length = r := Option.some.inj (points.symm.trans current)
      exact ⟨new, by rw [fate, if_pos rfl], live⟩
  refine ⟨⟨active, ?_, ?_, ?_, ?_, startable_of_active active⟩, ?_, ?_, ?_⟩
  · intro r f known
    rcases cases known with ⟨-, rfl⟩ | known
    · rcases outcome with ⟨freed, -⟩ | ⟨live, -⟩ <;> omega
    · exact kept.once r f known
  · intro r f known freed accepted
    rcases cases known with ⟨-, rfl⟩ | known
    · rcases outcome with ⟨-, refused, -⟩ | ⟨live, -⟩
      · rw [refused] at accepted
        cases accepted
      · exact absurd live freed
    · rw [lists]
      exact kept.removed r f known freed accepted
  · intro r f known live
    rcases cases known with ⟨rfl, rfl⟩ | known
    · rcases outcome with ⟨freed, -⟩ | ⟨-, -, -, starting, -⟩
      · omega
      · exact .inr (.inl starting)
    · rw [lists, aborting]
      rcases kept.held r f known live with here | here | here
      · exact .inl here
      · rcases outcome with ⟨-, -, starting, -⟩ | ⟨-, -, -, -, idle, -⟩
        · exact .inr (.inl (starting.trans here))
        · rw [idle] at here
          cases here
      · exact .inr (.inr here)
  · rw [reports]
    exact kept.reported
  · intro w r member
    rw [lists] at member
    obtain ⟨f, known, rest⟩ := kept.listed w r member
    exact ⟨f, old known, rest⟩
  · intro w r member
    rw [aborting] at member
    obtain ⟨f, known, inserted, apart⟩ := kept.aborted w r member
    exact ⟨f, old known, inserted, by rw [lists]; exact apart⟩
  · intro r current
    rcases outcome with ⟨-, -, same, -⟩ | ⟨live, accepted, fresh, starting, -⟩
    · obtain ⟨f, known, rest⟩ := kept.started r (same ▸ current)
      exact ⟨f, old known, rest⟩
    · obtain rfl : s.reqs.length = r := Option.some.inj (starting.symm.trans current)
      exact ⟨new, by rw [fate, if_pos rfl], accepted, fresh, live⟩

variable {r : Nat}

theorem ftmStart_of_true {sent : Bool} {s' : State}
    (started : iwlMvmFtmStart s r sent = (s', true)) :
    s.ftmReq = none ∧ { s with ftmReq := some r } = s' := by
  unfold iwlMvmFtmStart at started
  split at started
  · cases started
  · next free =>
      split at started
      · exact ⟨by simpa using free, congrArg Prod.fst started⟩
      · cases started

theorem ftmStart_of_false {sent : Bool} {s' : State}
    (refused : iwlMvmFtmStart s r sent = (s', false)) : s = s' := by
  unfold iwlMvmFtmStart at refused
  split at refused
  · exact congrArg Prod.fst refused
  · split at refused
    · cases refused
    · exact congrArg Prod.fst refused

theorem kept_start (kept : Kept s) (wdev : Nat) (portid : UInt32) (peers : List Addr)
    (sent : Bool) : Kept (nl80211PmsrStart s wdev portid peers sent) := by
  unfold nl80211PmsrStart
  split
  · exact kept
  · next idle =>
      have idle : s.starting = none := by simpa using idle
      dsimp only
      split
      · next s' started =>
          obtain ⟨free, rfl⟩ := ftmStart_of_true started
          refine kept.of_new ⟨wdev, true, false, 0⟩ (fun x => ?_) rfl rfl rfl ?_
          · exact @fate_alloc s ⟨_, portid, wdev, peers, true, false, 0⟩
              (assignCookie s.cookieCounter) x
          · exact .inr ⟨rfl, rfl, rfl, rfl, idle, rfl⟩
      · next s' refused =>
          obtain rfl := ftmStart_of_false refused
          refine kept.of_new ⟨wdev, false, false, 1⟩ (fun x => ?_) rfl rfl rfl ?_
          · rw [fate_kfree, fate_alloc]
            by_cases same : x = s.reqs.length
            · rw [if_pos same.symm, if_pos same, if_pos same]
              rfl
            · rw [if_neg (Ne.symm same), if_neg same, if_neg same]
          · exact .inl ⟨rfl, rfl, rfl, rfl⟩

theorem kept_insert (kept : Kept s) : Kept (pmsrInsert s) := by
  unfold pmsrInsert
  split
  · exact kept
  · next r starting =>
      split
      · exact kept
      · next req found =>
          obtain ⟨f, known, accepted, fresh, live⟩ := kept.started r starting
          have inside : r < s.reqs.length := lt_of_fate known
          obtain rfl : req.fate = f := by
            rw [State.fate, found] at known
            exact Option.some.inj known
          -- the fate of the request, now that it is on its list
          have fate : ∀ x, ({ s with
              starting := none, reqs := s.reqs.set r { req with inserted := true }
              lists := update s.lists req.wdev (s.lists req.wdev ++ [r]) } :
            State).fate x =
                if x = r then some { req.fate with inserted := true } else s.fate x := by
            intro x
            simp only [State.fate]
            by_cases same : x = r
            · subst same
              rw [List.getElem?_set_self inside, if_pos rfl]
              rfl
            · rw [List.getElem?_set_ne (Ne.symm same), if_neg same]
          have lists : ∀ w x, x ∈ update s.lists req.wdev (s.lists req.wdev ++ [r]) w ↔
              x ∈ s.lists w ∨ w = req.wdev ∧ x = r := by
            intro w x
            by_cases same : w = req.wdev
            · subst same
              simp
            · simp [same]
          have elsewhere : ∀ {x f'}, s.fate x = some f' → f'.inserted = true → x ≠ r := by
            rintro x f' known' inserted rfl
            rw [known] at known'
            obtain rfl := Option.some.inj known'
            rw [fresh] at inserted
            cases inserted
          have active : ∀ x, s.ftmReq = some x → ∃ f, (if x = r then
              some { req.fate with inserted := true } else s.fate x) = some f ∧ f.freed = 0 := by
            intro x current
            obtain ⟨f, known', live'⟩ := kept.active x current
            by_cases same : x = r
            · exact ⟨_, if_pos same, live⟩
            · exact ⟨f, (if_neg same).trans known', live'⟩
          refine ⟨⟨?_, ?_, ?_, ?_, kept.reported, startable_of_active ?_⟩, ?_, ?_, ?_⟩
          · simpa only [fate] using active
          · intro x f' known'
            rw [fate] at known'
            split at known'
            · obtain rfl := Option.some.inj known'
              exact live ▸ Nat.zero_le 1
            · exact kept.once x f' known'
          · intro x f' known' freed accepted'
            rw [fate] at known'
            split at known'
            · obtain rfl := Option.some.inj known'
              exact absurd live freed
            · next other =>
                obtain ⟨inserted, apart⟩ := kept.removed x f' known' freed accepted'
                refine ⟨inserted, fun w => ?_⟩
                rw [lists]
                rintro (member | ⟨-, same⟩)
                · exact apart w member
                · exact other same
          · intro x f' known' live'
            rw [fate] at known'
            split at known'
            · next same =>
                obtain rfl := Option.some.inj known'
                exact .inl ((lists _ x).mpr (.inr ⟨rfl, same⟩))
            · next other =>
                rcases kept.held x f' known' live' with here | here | here
                · exact .inl ((lists _ x).mpr (.inl here))
                · exact absurd (Option.some.inj (here.symm.trans starting)) other
                · exact .inr (.inr here)
          · simpa only [fate] using active
          · intro w x member
            rw [lists] at member
            rw [fate]
            rcases member with member | ⟨rfl, rfl⟩
            · obtain ⟨f', known', rest⟩ := kept.listed w x member
              exact ⟨f', (if_neg (elsewhere known' rest.2.1)).trans known', rest⟩
            · exact ⟨_, if_pos rfl, rfl, rfl, live⟩
          · intro w x member
            obtain ⟨f', known', inserted, apart⟩ := kept.aborted w x member
            have other := elsewhere known' inserted
            refine ⟨f', (fate x).trans ((if_neg other).trans known'), inserted, fun w' => ?_⟩
            rw [lists]
            rintro (member | ⟨-, same⟩)
            · exact apart w' member
            · exact other same
          · intro x never
            cases never

/-! ## Completing -/

theorem mem_of_mem_listDel {l : List Nat} {r x : Nat}
    (member : x ∈ l.take 2 ++ (l.drop 2).filter (· != r)) : x ∈ l := by
  rcases List.mem_append.mp member with first | later
  · exact List.mem_of_mem_take first
  · exact List.mem_of_mem_drop (List.mem_filter.mp later).1

theorem mem_listDel {l : List Nat} {r x : Nat} (member : x ∈ l) (other : x ≠ r) :
    x ∈ l.take 2 ++ (l.drop 2).filter (· != r) := by
  rw [← List.take_append_drop 2 l] at member
  rcases List.mem_append.mp member with first | later
  · exact List.mem_append_left _ first
  · exact List.mem_append_right _ (List.mem_filter.mpr ⟨later, by simpa using other⟩)

/-- The driver's request is completed, and it has been put on its list before. -/
theorem kept_complete (kept : Kept s) (current : s.ftmReq = some r) (waits : s.starting ≠ some r) :
    Kept (iwlMvmFtmReset (cfg80211PmsrComplete s r)) := by
  obtain ⟨f, known, live⟩ := kept.active r current
  have inserted : f.inserted = true := by
    rcases kept.held r f known live with member | starting | ⟨w, member⟩
    · obtain ⟨f', known', -, inserted, -⟩ := kept.listed _ r member
      rw [known] at known'
      obtain rfl := Option.some.inj known'
      exact inserted
    · exact absurd starting waits
    · obtain ⟨f', known', inserted, -⟩ := kept.aborted w r member
      rw [known] at known'
      obtain rfl := Option.some.inj known'
      exact inserted
  have fate : ∀ x, (iwlMvmFtmReset (cfg80211PmsrComplete s r)).fate x =
      if r = x then some { f with freed := 1 } else s.fate x := by
    intro x
    have freed := fate_kfree (s.listDel r) r x
    rw [fate_listDel] at freed
    refine freed.trans ?_
    by_cases same : r = x
    · subst same
      rw [if_pos rfl, if_pos rfl, known, Option.map_some, live]
    · rw [if_neg same, if_neg same]
  have lists : ∀ w x, x ∈ (iwlMvmFtmReset (cfg80211PmsrComplete s r)).lists w ↔
      x ∈ s.lists w ∧ x ≠ r := by
    intro w x
    simp [iwlMvmFtmReset, cfg80211PmsrComplete, State.kfree, State.listDel]
  have active : ∀ x, (iwlMvmFtmReset (cfg80211PmsrComplete s r)).ftmReq = some x →
      ∃ f, (iwlMvmFtmReset (cfg80211PmsrComplete s r)).fate x = some f ∧ f.freed = 0 :=
    fun x never => nomatch never
  refine ⟨⟨active, ?_, ?_, ?_, kept.reported, startable_of_active active⟩, ?_, ?_, ?_⟩
  · intro x f' known'
    rw [fate] at known'
    split at known'
    · obtain rfl := Option.some.inj known'
      exact Nat.le_refl 1
    · exact kept.once x f' known'
  · intro x f' known' freed accepted
    rw [fate] at known'
    simp only [lists]
    split at known'
    · next same =>
        obtain rfl := Option.some.inj known'
        exact ⟨inserted, fun w member => member.2 same.symm⟩
    · obtain ⟨inserted', apart⟩ := kept.removed x f' known' freed accepted
      exact ⟨inserted', fun w member => apart w member.1⟩
  · intro x f' known' live'
    rw [fate] at known'
    split at known'
    · obtain rfl := Option.some.inj known'
      cases live'
    · next other =>
        rcases kept.held x f' known' live' with here | here | ⟨w, here⟩
        · exact .inl ((lists _ x).mpr ⟨here, Ne.symm other⟩)
        · exact .inr (.inl here)
        · exact .inr (.inr ⟨w, mem_listDel here (Ne.symm other)⟩)
  · intro w x member
    obtain ⟨member, other⟩ := (lists w x).mp member
    obtain ⟨f', known', rest⟩ := kept.listed w x member
    exact ⟨f', (fate x).trans ((if_neg (Ne.symm other)).trans known'), rest⟩
  · intro w x member
    obtain ⟨f', known', inserted', apart⟩ := kept.aborted w x (mem_of_mem_listDel member)
    rw [fate]
    simp only [lists]
    by_cases same : r = x
    · exact ⟨_, if_pos same, inserted, fun w' member => apart w' member.1⟩
    · exact ⟨f', (if_neg same).trans known', inserted', fun w' member => apart w' member.1⟩
  · intro x starting
    obtain ⟨f', known', rest⟩ := kept.started x starting
    have other : r ≠ x := fun same => waits (same ▸ starting)
    exact ⟨f', (fate x).trans ((if_neg other).trans known'), rest⟩

/-- The results reported for a request that is not freed are not stale. -/
theorem sameOwners_reportEntries (req : Req) (r : Nat) (entries : List RespEntry) (s : State) :
    SameOwners s (reportEntries req r entries s) := by
  induction entries generalizing s with
  | nil => exact .refl s
  | cons entry rest ih =>
    rw [reportEntries]
    split
    · exact ih s
    · refine SameOwners.trans ?_ (ih _)
      exact ⟨fun _ => rfl, rfl, rfl, rfl, rfl⟩

theorem pmsrReport_fresh {addr : Addr} {status : PmsrStatus} {final : Bool} {burst : Nat}
    (fresh : ∀ report ∈ s.reports, report.stale = false)
    (live : ∃ f, s.fate r = some f ∧ f.freed = 0) :
    ∀ report ∈ (pmsrReport s r addr status final burst).reports, report.stale = false := by
  obtain ⟨f, known, live⟩ := live
  intro report member
  simp only [pmsrReport, List.mem_append, List.mem_singleton] at member
  rcases member with before | rfl
  · exact fresh report before
  · rw [State.fate] at known
    cases found : s.reqs[r]? with
    | none =>
      rw [found] at known
      cases known
    | some req =>
      rw [found] at known
      obtain rfl := Option.some.inj known
      have live : req.freed = 0 := live
      simp [live]

theorem reportEntries_fresh (req : Req) (entries : List RespEntry) {s : State}
    (fresh : ∀ report ∈ s.reports, report.stale = false)
    (live : ∃ f, s.fate r = some f ∧ f.freed = 0) :
    ∀ report ∈ (reportEntries req r entries s).reports, report.stale = false := by
  induction entries generalizing s with
  | nil => exact fresh
  | cons entry rest ih =>
    rw [reportEntries]
    split
    · exact ih fresh live
    · exact ih (pmsrReport_fresh fresh live) live

theorem kept_reportEntries (kept : Kept s) (current : s.ftmReq = some r) (req : Req)
    (entries : List RespEntry) : Kept (reportEntries req r entries s) :=
  kept.of_same (sameOwners_reportEntries req r entries s)
    (reportEntries_fresh req entries kept.reported (kept.active r current))

/-- The loop of a restart keeps what the loop of a response keeps. -/
theorem reportPeers_spec (kept : Kept s) (current : s.ftmReq = some r) (peers : List Addr) :
    Kept (reportPeers r s peers) ∧ SameOwners s (reportPeers r s peers) := by
  unfold reportPeers
  generalize peers.zipIdx = indexed
  induction indexed generalizing s with
  | nil => exact ⟨kept, .refl s⟩
  | cons peer rest ih =>
    rw [List.foldl_cons]
    have same : SameOwners s (pmsrReport s r peer.1 (.failure ftmFailureUnspecified 0) true
        (s.responses.getD peer.2 0)) := ⟨fun _ => rfl, rfl, rfl, rfl, rfl⟩
    obtain ⟨kept', same'⟩ :=
      ih (kept.of_same same (pmsrReport_fresh kept.reported (kept.active r current))) current
    exact ⟨kept', same.trans same'⟩

/-! ## Aborting -/

theorem sameOwners_clearOwner (wdev : Nat) (own : Req → Bool) :
    SameOwners s (clearOwner s wdev own) :=
  ⟨fate_clearOwner s wdev own, rfl, rfl, rfl, rfl⟩

theorem kept_processAbort (kept : Kept s) (wdev : Nat) : Kept (processAbort s wdev) := by
  unfold processAbort
  split
  · exact kept
  · next free =>
      have free : s.aborting wdev = [] := by simpa using free
      have lists : ∀ w x, x ∈ update s.lists wdev
          ((s.lists wdev).filter fun r => !ownerless s r) w →
          x ∈ s.lists w ∧ (w = wdev → ownerless s x = false) := by
        intro w x member
        by_cases same : w = wdev
        · subst same
          rw [update_self, List.mem_filter] at member
          exact ⟨member.1, fun _ => by simpa using member.2⟩
        · rw [update_of_ne same] at member
          exact ⟨member, fun here => absurd here same⟩
      refine ⟨⟨kept.active, kept.once, ?_, ?_, kept.reported, startable_of_active kept.active⟩,
        ?_, ?_, kept.started⟩
      · intro x f known freed accepted
        obtain ⟨inserted, apart⟩ := kept.removed x f known freed accepted
        exact ⟨inserted, fun w member => apart w (lists w x member).1⟩
      · intro x f known live
        rcases kept.held x f known live with here | here | ⟨w, here⟩
        · by_cases same : f.wdev = wdev
          · cases owner : ownerless s x with
            | true =>
              refine .inr (.inr ⟨wdev, ?_⟩)
              dsimp only
              rw [update_self]
              exact List.mem_filter.mpr ⟨same ▸ here, owner⟩
            | false =>
              refine .inl ?_
              dsimp only
              rw [same, update_self]
              exact List.mem_filter.mpr ⟨same ▸ here, by rw [owner]; rfl⟩
          · refine .inl ?_
            dsimp only
            rw [update_of_ne same]
            exact here
        · exact .inr (.inl here)
        · have other : w ≠ wdev := by
            rintro rfl
            rw [free] at here
            cases here
          refine .inr (.inr ⟨w, ?_⟩)
          dsimp only
          rw [update_of_ne other]
          exact here
      · intro w x member
        exact kept.listed w x (lists w x member).1
      · intro w x member
        by_cases same : w = wdev
        · subst same
          dsimp only at member
          rw [update_self, List.mem_filter] at member
          obtain ⟨f, known, device, inserted, -⟩ := kept.listed w x member.1
          refine ⟨f, known, inserted, fun w' here => ?_⟩
          obtain ⟨here, kept'⟩ := lists w' x here
          obtain ⟨f', known', device', -⟩ := kept.listed w' x here
          rw [known] at known'
          obtain rfl := Option.some.inj known'
          rw [kept' (device'.symm.trans device)] at member
          exact absurd member.2 Bool.false_ne_true
        · dsimp only at member
          rw [update_of_ne same] at member
          obtain ⟨f, known, inserted, apart⟩ := kept.aborted w x member
          exact ⟨f, known, inserted, fun w' here => apart w' (lists w' x here).1⟩

theorem kept_abortCurrent (kept : Kept s) (wdev : Nat) : Kept (abortCurrent s wdev) := by
  unfold abortCurrent
  split
  · exact kept
  · split
    · exact kept
    · unfold iwlMvmFtmAbort
      split
      · exact kept.of_same ⟨fun _ => rfl, rfl, rfl, rfl, rfl⟩ kept.reported
      · split
        · exact kept.of_same ⟨fun _ => rfl, rfl, rfl, rfl, rfl⟩ kept.reported
        · exact kept.of_same ⟨fun _ => rfl, rfl, rfl, rfl, rfl⟩ kept.reported

/-- The fates after the current request of an abort is freed. -/
theorem fate_freeCurrent {wdev r : Nat} {rest : List Nat} (current : s.aborting wdev = r :: rest)
    (told : s.told wdev = true) (x : Nat) :
    (freeCurrent s wdev).fate x =
      if r = x then (s.fate x).map fun f => { f with freed := f.freed + 1 } else s.fate x := by
  rw [← fate_kfree]
  simp only [freeCurrent, current, told]
  rfl

theorem kept_freeCurrent (kept : Kept s) {wdev r : Nat} {rest : List Nat}
    (current : s.aborting wdev = r :: rest) (told : s.told wdev = true)
    (elsewhere : s.ftmReq ≠ some r) (fresh : ∀ f ∈ s.fate r, f.freed = 0) :
    Kept (freeCurrent s wdev) := by
  obtain ⟨f, known, inserted, apart⟩ := kept.aborted wdev r (current ▸ List.mem_cons_self)
  have live : f.freed = 0 := fresh f known
  have fate : ∀ x, (freeCurrent s wdev).fate x =
      if r = x then some { f with freed := 1 } else s.fate x := by
    intro x
    rw [fate_freeCurrent current told]
    by_cases same : r = x
    · subst same
      rw [if_pos rfl, if_pos rfl, known, Option.map_some, live]
    · rw [if_neg same, if_neg same]
  have result : freeCurrent s wdev = { s.kfree r with
      aborting := update s.aborting wdev rest
      told := update s.told wdev false } := by
    simp only [freeCurrent, current, told]
    rfl
  have aborting : ∀ w x, x ∈ (freeCurrent s wdev).aborting w → x ∈ s.aborting w := by
    intro w x member
    rw [result] at member
    dsimp only at member
    by_cases same : w = wdev
    · subst same
      rw [update_self] at member
      rw [current]
      exact List.mem_cons_of_mem r member
    · rwa [update_of_ne same] at member
  have active : ∀ x, (freeCurrent s wdev).ftmReq = some x →
      ∃ f, (freeCurrent s wdev).fate x = some f ∧ f.freed = 0 := by
    intro x points
    rw [result] at points
    obtain ⟨f', known', live'⟩ := kept.active x points
    have other : r ≠ x := fun same => elsewhere (same ▸ points)
    exact ⟨f', (fate x).trans ((if_neg other).trans known'), live'⟩
  refine ⟨⟨active, ?_, ?_, ?_, ?_, startable_of_active active⟩, ?_, ?_, ?_⟩
  · intro x f' known'
    rw [fate] at known'
    split at known'
    · obtain rfl := Option.some.inj known'
      exact Nat.le_refl 1
    · exact kept.once x f' known'
  · intro x f' known' freed accepted
    rw [fate] at known'
    rw [result]
    split at known'
    · next same =>
        obtain rfl := Option.some.inj known'
        exact ⟨inserted, same ▸ apart⟩
    · exact kept.removed x f' known' freed accepted
  · intro x f' known' live'
    rw [fate] at known'
    split at known'
    · obtain rfl := Option.some.inj known'
      cases live'
    · next other =>
        rw [result]
        rcases kept.held x f' known' live' with here | here | ⟨w, here⟩
        · exact .inl here
        · exact .inr (.inl here)
        · refine .inr (.inr ⟨w, ?_⟩)
          dsimp only
          by_cases same : w = wdev
          · subst same
            rw [update_self]
            rw [current] at here
            exact (List.mem_cons.mp here).resolve_left (Ne.symm other)
          · rw [update_of_ne same]
            exact here
  · rw [result]
    exact kept.reported
  · intro w x member
    rw [result] at member
    have other : r ≠ x := fun same => apart w (same ▸ member)
    obtain ⟨f', known', rest⟩ := kept.listed w x member
    exact ⟨f', (fate x).trans ((if_neg other).trans known'), rest⟩
  · intro w x member
    obtain ⟨f', known', inserted', apart'⟩ := kept.aborted w x (aborting w x member)
    have lists : (freeCurrent s wdev).lists = s.lists := by rw [result]; rfl
    rw [fate, lists]
    by_cases same : r = x
    · exact ⟨_, if_pos same, inserted, apart'⟩
    · exact ⟨f', (if_neg same).trans known', inserted', apart'⟩
  · intro x starting
    rw [result] at starting
    obtain ⟨f', known', accepted, waits, live'⟩ := kept.started x starting
    have other : r ≠ x := by
      rintro rfl
      rw [known] at known'
      obtain rfl := Option.some.inj known'
      rw [inserted] at waits
      cases waits
    exact ⟨f', (fate x).trans ((if_neg other).trans known'), accepted, waits, live'⟩

/-! ## Every step -/

/-- A response that completes nothing, or completes a request on its list. -/
theorem kept_rangeResp (kept : Kept s) (rsp : RangeRsp)
    (proper : (rsp.lastReport && answers s rsp && halfStarted s) = false) :
    Kept (iwlMvmFtmRangeResp s rsp) := by
  unfold iwlMvmFtmRangeResp
  split
  · exact kept
  · next r current =>
      split
      · exact kept
      · next req found =>
          split
          · exact kept
          · next valid =>
              have reported := kept_reportEntries kept current req (rsp.ap.take iwlMvmTofMaxAps)
              have same := sameOwners_reportEntries req r (rsp.ap.take iwlMvmTofMaxAps) s
              dsimp only
              split
              · next final =>
                  apply kept_complete reported (same.ftmReq.trans current)
                  rw [same.starting]
                  intro starting
                  have valid : rangeRespValid req rsp = true := by simpa using valid
                  simp [final, answers, halfStarted, current, found, valid, starting] at proper
              · exact reported

theorem kept_restart (kept : Kept s) (proper : halfStarted s = false) :
    Kept (iwlMvmFtmRestart s) := by
  unfold iwlMvmFtmRestart
  split
  · exact kept
  · next r current =>
      split
      · exact kept
      · next req found =>
          obtain ⟨reported, same⟩ := reportPeers_spec kept current req.peers
          apply kept_complete reported (same.ftmReq.trans current)
          rw [same.starting]
          intro starting
          simp [halfStarted, current, starting] at proper

theorem kept_step {e : Event} (kept : Kept s) (proper : Proper s e) : Kept (step s e) := by
  cases e with
  | start wdev portid peers sent => exact kept_start kept wdev portid peers sent
  | insert => exact kept_insert kept
  | release wdev portid =>
    have cleared := kept.of_same
      (sameOwners_clearOwner wdev fun req => req.nlPortid == portid) kept.reported
    simp only [step, cfg80211ReleasePmsr]
    split
    · exact cleared.of_same ⟨fun _ => rfl, rfl, rfl, rfl, rfl⟩ cleared.reported
    · exact cleared
  | freeWk wdev =>
    simp only [step, cfg80211PmsrFreeWk]
    split
    · apply kept_processAbort
      exact kept.of_same ⟨fun _ => rfl, rfl, rfl, rfl, rfl⟩ kept.reported
    · exact kept
  | down wdev =>
    have cleared := kept.of_same (sameOwners_clearOwner wdev fun _ => true) kept.reported
    simp only [step, cfg80211PmsrWdevDown]
    split
    · exact kept
    · split
      · exact kept_processAbort cleared wdev
      · exact cleared
  | abortCurrent wdev => exact kept_abortCurrent kept wdev
  | freeCurrent wdev =>
    simp only [step]
    cases current : s.aborting wdev with
    | nil =>
      have idle : freeCurrent s wdev = s := by simp only [freeCurrent, current]
      rw [idle]
      exact kept
    | cons r rest =>
      cases told : s.told wdev with
      | false =>
        have waits : freeCurrent s wdev = s := by
          simp only [freeCurrent, current, told]
          rfl
        rw [waits]
        exact kept
      | true =>
        simp only [Proper, current] at proper
        obtain ⟨elsewhere, fresh⟩ := proper told
        exact kept_freeCurrent kept current told elsewhere fresh
  | rangeResp rsp => exact kept_rangeResp kept rsp proper
  | restart => exact kept_restart kept proper

/-- A request that is completed while it is being started is freed, and was on no list. -/
theorem not_owned_of_complete (kept : Kept s) (starting : s.starting = some r) :
    ¬ Owned (iwlMvmFtmReset (cfg80211PmsrComplete s r)) := by
  intro owned
  obtain ⟨f, known, accepted, waits, live⟩ := kept.started r starting
  have freed : (iwlMvmFtmReset (cfg80211PmsrComplete s r)).fate r =
      some { f with freed := f.freed + 1 } := by
    have freed := fate_kfree (s.listDel r) r r
    rw [if_pos rfl, fate_listDel, known] at freed
    exact freed
  obtain ⟨inserted, -⟩ := owned.removed r _ freed (Nat.succ_ne_zero _) accepted
  exact absurd (inserted.symm.trans waits) (by decide)

/-- A step after which all is as it should be was proper. -/
theorem proper_of_owned {e : Event} (kept : Kept s) (owned : Owned (step s e)) :
    Proper s e := by
  cases e with
  | rangeResp rsp =>
    by_contra improper
    simp only [Proper, Bool.not_eq_false, Bool.and_eq_true] at improper
    obtain ⟨⟨final, valid⟩, starting⟩ := improper
    cases current : s.ftmReq with
    | none => simp [halfStarted, current] at starting
    | some r =>
      have starting : s.starting = some r := by simpa [halfStarted, current] using starting
      cases found : s.reqs[r]? with
      | none => simp [answers, current, found] at valid
      | some req =>
        have valid : rangeRespValid req rsp = true := by
          simpa [answers, current, found] using valid
        have same := sameOwners_reportEntries req r (rsp.ap.take iwlMvmTofMaxAps) s
        have result : step s (.rangeResp rsp) = iwlMvmFtmReset (cfg80211PmsrComplete
            (reportEntries req r (rsp.ap.take iwlMvmTofMaxAps) s) r) := by
          simp [step, iwlMvmFtmRangeResp, current, found, valid, final]
        rw [result] at owned
        exact not_owned_of_complete (kept_reportEntries kept current req _)
          (same.starting.trans starting) owned
  | restart =>
    by_contra improper
    simp only [Proper, Bool.not_eq_false] at improper
    cases current : s.ftmReq with
    | none => simp [halfStarted, current] at improper
    | some r =>
      have starting : s.starting = some r := by simpa [halfStarted, current] using improper
      obtain ⟨f, known, -⟩ := kept.started r starting
      cases found : s.reqs[r]? with
      | none =>
        rw [State.fate, found] at known
        cases known
      | some req =>
        obtain ⟨reported, same⟩ := reportPeers_spec kept current req.peers
        have result : step s .restart =
            iwlMvmFtmReset (cfg80211PmsrComplete (reportPeers r s req.peers) r) := by
          simp only [step, iwlMvmFtmRestart, current, found]
        rw [result] at owned
        exact not_owned_of_complete reported (same.starting.trans starting) owned
  | freeCurrent wdev =>
    simp only [Proper]
    split
    · trivial
    · next r rest current =>
        intro told
        have fate := fate_freeCurrent current told r
        rw [if_pos rfl] at fate
        have ftmReq : (freeCurrent s wdev).ftmReq = s.ftmReq := by
          simp only [freeCurrent, current, told]
          rfl
        refine ⟨fun points => ?_, fun f known => ?_⟩
        · obtain ⟨f, known, live⟩ := owned.active r (ftmReq.trans points)
          obtain ⟨f', -, rfl⟩ := Option.map_eq_some_iff.mp (fate.symm.trans known)
          exact absurd live (Nat.succ_ne_zero _)
        · have known : s.fate r = some f := known
          rw [known] at fate
          have once := owned.once r _ fate
          exact Nat.le_zero.mp (Nat.le_of_succ_le_succ once)
  | _ => trivial

end

theorem kept_init : Kept {} := by
  refine ⟨⟨?_, ?_, ?_, ?_, ?_, ?_⟩, ?_, ?_, ?_⟩
  · exact fun r never => nomatch never
  · exact fun r f never => nomatch never
  · exact fun r f never => nomatch never
  · exact fun r f never => nomatch never
  · exact fun report never => nomatch never
  · exact fun _ r => rfl
  · exact fun w r never => nomatch never
  · exact fun w r never => nomatch never
  · exact fun r never => nomatch never

/-- In every state of a run all requests are as they should be exactly when every step of the
run is proper. -/
theorem owned_iff_proper (events : List Event) :
    (∀ before, before <+: events → Owned (before.foldl step {})) ↔
      Admissible step Proper {} events :=
  forall_reached_iff_of_invariant (fun _ kept => kept.toOwned)
    (fun _ _ kept proper => kept_step kept proper)
    (fun _ _ kept owned => proper_of_owned kept owned) kept_init

/-- A request is started and aborted because its socket is closed: the driver still points to
it after it is freed. -/
theorem dangling_after_abort :
    ¬ ∀ events : List Event, Owned (events.foldl step {}) := by
  intro claimed
  obtain ⟨f, known, live⟩ := (claimed [.start 0 7 [1] true, .insert, .release 0 7, .freeWk 0,
    .abortCurrent 0, .freeCurrent 0]).active 0 (by decide +kernel)
  have freed : ∀ f ∈ ([.start 0 7 [1] true, .insert, .release 0 7, .freeWk 0,
      .abortCurrent 0, .freeCurrent 0].foldl step {}).fate 0, f.freed = 1 := by
    decide +kernel
  rw [freed f known] at live
  cases live

end Iwlwifi.Ftm
