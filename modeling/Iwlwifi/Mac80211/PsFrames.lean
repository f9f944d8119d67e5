import Iwlwifi.Mac80211.PsBufferRun

/-!
# The frames taken for a response

What `ieee80211_sta_ps_get_frames` takes from the queues of a station, and which TIDs it leaves to
the driver.  The access categories that are served are visited from the highest one on, up to the
first one of which frames stay behind.  As long as no frame is taken, the TIDs of which the driver
has frames are collected, and with such TIDs no frame is taken at all (`taken_getFrames`).
-/

namespace Iwlwifi.PsDeliver

open Lib Ps

/-! ## What waits -/

def served (ignoredAcs : UInt8) (ac : Ac) : Bool := ignoredAcs &&& ac.toQosMask == 0

/-- The frames of an access category in the order in which they are taken. -/
def queue (sta : StaInfo) (ac : Ac) : List TxSkb := sta.txFiltered.get ac ++ sta.psTxBuf.get ac

/-- The TIDs of an access category of which the driver or a TXQ has frames. -/
def held (state : StaInfo.State) (ac : Ac) : Nat :=
  (state.driverBufferedTids &&& ac.tids) ||| (state.txqBufferedTids &&& ac.tids)

/-- The frames of the categories that are served. -/
def waiting (sta : StaInfo) (ignoredAcs : UInt8) (acs : List Ac) : List TxSkb :=
  (acs.filter (served ignoredAcs)).flatMap (queue sta)

/-- The TIDs that the driver is told to release, where a PS-Poll does not choose one of them: those
of the categories up to the first one that has a frame in its queues. -/
def driverTids (sta : StaInfo) (ignoredAcs : UInt8) : List Ac → Nat
  | [] => 0
  | ac :: rest =>
    if served ignoredAcs ac then
      if queue sta ac = [] then held sta.state ac ||| driverTids sta ignoredAcs rest
      else held sta.state ac
    else driverTids sta ignoredAcs rest

/-! ## One category -/

theorem takeFrames_eq (n : Nat) (filtered buffered frames : List TxSkb) (total : Int) :
    ∃ left, takeFrames n filtered buffered frames total =
      (n - (filtered ++ buffered).length, filtered.drop n, buffered.drop (n - filtered.length),
        frames ++ (filtered ++ buffered).take n, left) := by
  induction n, filtered, buffered, frames, total using takeFrames.induct with
  | case1 filtered buffered frames total => exact ⟨total, by simp [takeFrames]⟩
  | case2 n skb filtered buffered frames total ih =>
    obtain ⟨left, taken⟩ := ih
    refine ⟨left, ?_⟩
    rw [takeFrames, taken]
    simp
  | case3 n skb buffered frames total ih =>
    obtain ⟨left, taken⟩ := ih
    refine ⟨left, ?_⟩
    rw [takeFrames, taken]
    simp
  | case4 n frames total => exact ⟨total, by simp [takeFrames]⟩

/-- The station with the queues that are left. -/
def holding (sta : StaInfo) (r : Release) : StaInfo :=
  { sta with txFiltered := r.txFiltered, psTxBuf := r.psTxBuf }

theorem get_set_ne {α : Type} (queues : PerAc α) (x : α) {ac other : Ac} (ne : other ≠ ac) :
    (queues.set x ac).get other = queues.get other := by
  cases ac <;> cases other <;> first | rfl | exact absurd rfl ne

section TakeAc

variable (sta : StaInfo) (r : Release) (ac : Ac)

theorem takeAc_frames :
    (r.takeAc ac).frames = r.frames ++ (queue (holding sta r) ac).take r.nFrames := by
  obtain ⟨left, taken⟩ := takeFrames_eq r.nFrames (r.txFiltered.get ac) (r.psTxBuf.get ac) r.frames
    r.total
  rw [Release.takeAc, taken]
  rfl

theorem takeAc_nFrames :
    (r.takeAc ac).nFrames = r.nFrames - (queue (holding sta r) ac).length := by
  obtain ⟨left, taken⟩ := takeFrames_eq r.nFrames (r.txFiltered.get ac) (r.psTxBuf.get ac) r.frames
    r.total
  rw [Release.takeAc, taken]
  rfl

@[simp] theorem takeAc_tids : (r.takeAc ac).driverReleaseTids = r.driverReleaseTids := rfl

theorem takeAc_queue :
    queue (holding sta (r.takeAc ac)) ac = (queue (holding sta r) ac).drop r.nFrames := by
  obtain ⟨left, taken⟩ := takeFrames_eq r.nFrames (r.txFiltered.get ac) (r.psTxBuf.get ac) r.frames
    r.total
  rw [Release.takeAc, taken]
  simp only [queue, holding, PerAc.get_set_self, List.drop_append]

theorem takeAc_other {other : Ac} (ne : other ≠ ac) :
    queue (holding sta (r.takeAc ac)) other = queue (holding sta r) other := by
  obtain ⟨left, taken⟩ := takeFrames_eq r.nFrames (r.txFiltered.get ac) (r.psTxBuf.get ac) r.frames
    r.total
  rw [Release.takeAc, taken]
  simp only [queue, holding, get_set_ne _ _ ne]

@[simp] theorem addTids_queue : queue (holding sta (r.addTids sta.state ac)) =
    queue (holding sta r) := by
  rw [Release.addTids]
  split <;> rfl

@[simp] theorem addTids_frames : (r.addTids sta.state ac).frames = r.frames := by
  rw [Release.addTids]
  split <;> rfl

@[simp] theorem addTids_nFrames : (r.addTids sta.state ac).nFrames = r.nFrames := by
  rw [Release.addTids]
  split <;> rfl

theorem addTids_tids : (r.addTids sta.state ac).driverReleaseTids =
    if r.frames = [] then r.driverReleaseTids ||| held sta.state ac else r.driverReleaseTids := by
  cases frames : r.frames with
  | nil => simp [Release.addTids, frames, held, Nat.or_assoc]
  | cons skb rest => simp [Release.addTids, frames]

end TakeAc

theorem left_iff (sta : StaInfo) (r : Release) (ac : Ac) :
    (!(r.txFiltered.get ac).isEmpty || !(r.psTxBuf.get ac).isEmpty) = true ↔
      queue (holding sta r) ac ≠ [] := by
  simp only [queue, holding, Bool.or_eq_true, Bool.not_eq_true', List.isEmpty_eq_false_iff, ne_eq,
    List.append_eq_nil_iff, not_and_or]

/-! ## All categories -/

section Waiting

variable {sta sta' : StaInfo} {ignoredAcs : UInt8} {ac : Ac} {rest : List Ac}

theorem waiting_cons (sta : StaInfo) (inside : served ignoredAcs ac = true) (rest : List Ac) :
    waiting sta ignoredAcs (ac :: rest) = queue sta ac ++ waiting sta ignoredAcs rest := by
  rw [waiting, List.filter_cons_of_pos inside, List.flatMap_cons, waiting]

theorem waiting_cons_ignored (sta : StaInfo) (outside : served ignoredAcs ac = false)
    (rest : List Ac) : waiting sta ignoredAcs (ac :: rest) = waiting sta ignoredAcs rest := by
  rw [waiting, List.filter_cons_of_neg (by rw [outside]; exact Bool.false_ne_true), waiting]

theorem waiting_congr {acs : List Ac} (same : ∀ ac ∈ acs, queue sta ac = queue sta' ac) :
    waiting sta ignoredAcs acs = waiting sta' ignoredAcs acs := by
  simp only [waiting, List.flatMap]
  congr 1
  exact List.map_congr_left fun ac inside => same ac (List.mem_filter.mp inside).1

theorem driverTids_stop (inside : served ignoredAcs ac = true) (some' : queue sta ac ≠ []) :
    driverTids sta ignoredAcs (ac :: rest) = held sta.state ac := by
  rw [driverTids, if_pos inside, if_neg some']

theorem driverTids_next (inside : served ignoredAcs ac = true) (empty : queue sta ac = []) :
    driverTids sta ignoredAcs (ac :: rest) =
      held sta.state ac ||| driverTids sta ignoredAcs rest := by
  rw [driverTids, if_pos inside, if_pos empty]

theorem driverTids_congr {acs : List Ac} (state : held sta.state = held sta'.state)
    (same : ∀ ac ∈ acs, queue sta ac = queue sta' ac) :
    driverTids sta ignoredAcs acs = driverTids sta' ignoredAcs acs := by
  induction acs with
  | nil => rfl
  | cons ac rest ih =>
    rw [driverTids, driverTids, same ac (.head _), state,
      ih fun ac inside => same ac (.tail _ inside)]

end Waiting

/-- The categories of a list that come before a category. -/
def ahead (acs : List Ac) (ac : Ac) : List Ac := acs.takeWhile fun higher => higher != ac

@[simp] theorem ahead_head (ac : Ac) (rest : List Ac) : ahead (ac :: rest) ac = [] := by
  rw [ahead, List.takeWhile_cons, if_neg (by simp)]

theorem ahead_tail {ac other : Ac} (rest : List Ac) (ne : ac ≠ other) :
    ahead (ac :: rest) other = ac :: ahead rest other := by
  rw [ahead, List.takeWhile_cons, if_pos (bne_iff_ne.mpr ne), ahead]

/-- What stays in the queues of a category if `n` frames may be taken. -/
def staying (sta : StaInfo) (ignoredAcs : UInt8) (n : Nat) (acs : List Ac) (ac : Ac) :
    List TxSkb :=
  if ac ∈ acs ∧ served ignoredAcs ac = true then
    (queue sta ac).drop (n - (waiting sta ignoredAcs (ahead acs ac)).length)
  else queue sta ac

section Staying

variable {sta sta' : StaInfo} {ignoredAcs : UInt8} {n : Nat} {ac other : Ac} {rest : List Ac}

theorem staying_head (inside : served ignoredAcs ac = true) :
    staying sta ignoredAcs n (ac :: rest) ac = (queue sta ac).drop n := by
  rw [staying, if_pos ⟨.head _, inside⟩, ahead_head]
  rfl

theorem staying_outside (outside : ac ∉ rest) :
    staying sta ignoredAcs n rest ac = queue sta ac := if_neg fun inside => outside inside.1

theorem staying_ignored (outside : served ignoredAcs ac = false) :
    staying sta ignoredAcs n rest ac = queue sta ac :=
  if_neg fun inside => Bool.false_ne_true (outside.symm.trans inside.2)

theorem staying_tail (ne : ac ≠ other) (inside : served ignoredAcs ac = true) :
    staying sta ignoredAcs n (ac :: rest) other =
      staying sta ignoredAcs (n - (queue sta ac).length) rest other := by
  have behind : other ∈ ac :: rest ↔ other ∈ rest :=
    List.mem_cons.trans (or_iff_right fun same => ne same.symm)
  simp only [staying, behind, ahead_tail rest ne, waiting_cons sta inside, List.length_append,
    Nat.sub_add_eq]

theorem staying_tail_ignored (ne : ac ≠ other) (outside : served ignoredAcs ac = false) :
    staying sta ignoredAcs n (ac :: rest) other = staying sta ignoredAcs n rest other := by
  have behind : other ∈ ac :: rest ↔ other ∈ rest :=
    List.mem_cons.trans (or_iff_right fun same => ne same.symm)
  simp only [staying, behind, ahead_tail rest ne, waiting_cons_ignored sta outside]

theorem staying_zero : staying sta ignoredAcs 0 rest ac = queue sta ac := by
  rw [staying, Nat.zero_sub, List.drop_zero, ite_self]

theorem staying_congr (same : ∀ ac ∈ rest, queue sta ac = queue sta' ac)
    (here : queue sta other = queue sta' other) :
    staying sta ignoredAcs n rest other = staying sta' ignoredAcs n rest other := by
  have same' : waiting sta ignoredAcs (ahead rest other) =
      waiting sta' ignoredAcs (ahead rest other) :=
    waiting_congr fun ac inside => same ac ((List.takeWhile_sublist _).mem inside)
  rw [staying, staying, here, same']

end Staying

/-! ## How much is taken -/

section HowMuch

variable {sta after : StaInfo} {ignoredAcs : UInt8} {n : Nat} {ac higher : Ac} {acs : List Ac}

theorem waiting_staying (distinct : acs.Nodup)
    (stays : ∀ ac ∈ acs, queue after ac = staying sta ignoredAcs n acs ac) :
    waiting after ignoredAcs acs = (waiting sta ignoredAcs acs).drop n := by
  induction acs generalizing n with
  | nil => exact List.drop_nil.symm
  | cons ac rest ih =>
    obtain ⟨fresh, distinct⟩ := List.nodup_cons.mp distinct
    have different : ∀ other ∈ rest, ac ≠ other := fun other inside same => fresh (same ▸ inside)
    cases inside : served ignoredAcs ac with
    | true =>
      rw [waiting_cons _ inside, waiting_cons _ inside, List.drop_append, stays ac (.head _),
        staying_head inside]
      refine congrArg _ (ih distinct fun other behind => ?_)
      rw [stays other (.tail _ behind), staying_tail (different other behind) inside]
    | false =>
      rw [waiting_cons_ignored _ inside, waiting_cons_ignored _ inside]
      refine ih distinct fun other behind => ?_
      rw [stays other (.tail _ behind), staying_tail_ignored (different other behind) inside]

theorem waiting_ne_nil :
    waiting sta ignoredAcs acs ≠ [] ↔
      ∃ ac ∈ acs, served ignoredAcs ac = true ∧ queue sta ac ≠ [] := by
  simp only [waiting, ne_eq, List.flatMap_eq_nil_iff, List.mem_filter, and_imp, not_forall,
    exists_prop]

/-- The frames of a category wait with those of the categories ahead of it. -/
theorem waiting_ahead_le (inside : higher ∈ ahead acs ac)
    (serves : served ignoredAcs higher = true) :
    (waiting sta ignoredAcs (ahead acs higher)).length + (queue sta higher).length ≤
      (waiting sta ignoredAcs (ahead acs ac)).length := by
  induction acs with
  | nil => cases inside
  | cons first rest ih =>
    by_cases here : first = ac
    · subst here
      rw [ahead_head] at inside
      cases inside
    · rw [ahead_tail rest here] at inside ⊢
      by_cases first' : first = higher
      · subst first'
        rw [ahead_head, waiting_cons _ serves, List.length_append]
        exact Nat.le_trans (Nat.le_of_eq (Nat.zero_add _)) (Nat.le_add_right _ _)
      · have further := ih ((List.mem_cons.mp inside).resolve_left fun same => first' same.symm)
        rw [ahead_tail rest first']
        cases serves' : served ignoredAcs first with
        | true =>
          rw [waiting_cons _ serves', waiting_cons _ serves', List.length_append,
            List.length_append]
          omega
        | false => rwa [waiting_cons_ignored _ serves', waiting_cons_ignored _ serves']

end HowMuch

/-- The TIDs that are left to the driver, and what is taken if there are none. -/
structure Taken (sta : StaInfo) (ignoredAcs : UInt8) (acs : List Ac) (r r' : Release) : Prop where
  tids : r'.driverReleaseTids =
    if r.frames = [] then r.driverReleaseTids ||| driverTids (holding sta r) ignoredAcs acs else 0
  frames : r'.frames =
    r.frames ++ if r'.driverReleaseTids = 0 then
      (waiting (holding sta r) ignoredAcs acs).take r.nFrames else []
  queues : ∀ ac, queue (holding sta r') ac =
    if r'.driverReleaseTids = 0 then staying (holding sta r) ignoredAcs r.nFrames acs ac
    else queue (holding sta r) ac

section OneMore

variable {sta : StaInfo} {ignoredAcs : UInt8} {ac : Ac} {rest : List Ac} {r r₁ r' : Release}

/-- What `r₁` is once the TIDs of a category that is served were looked at. -/
structure Offered (sta : StaInfo) (ac : Ac) (r r₁ : Release) : Prop where
  queues : queue (holding sta r₁) = queue (holding sta r)
  frames : r₁.frames = r.frames
  nFrames : r₁.nFrames = r.nFrames
  tids : r₁.driverReleaseTids =
    if r.frames = [] then r.driverReleaseTids ||| held sta.state ac else r.driverReleaseTids

theorem offered_addTids (sta : StaInfo) (ac : Ac) (r : Release) :
    Offered sta ac r (r.addTids sta.state ac) :=
  ⟨addTids_queue sta r ac, addTids_frames sta r ac, addTids_nFrames sta r ac, addTids_tids sta r ac⟩

namespace Offered

variable (offered : Offered sta ac r r₁)
include offered

theorem takes : (r₁.takeAc ac).frames = r.frames ++ (queue (holding sta r) ac).take r.nFrames := by
  rw [takeAc_frames sta r₁ ac, offered.frames, offered.queues, offered.nFrames]

theorem fewer : (r₁.takeAc ac).nFrames = r.nFrames - (queue (holding sta r) ac).length := by
  rw [takeAc_nFrames sta r₁ ac, offered.queues, offered.nFrames]

theorem here :
    queue (holding sta (r₁.takeAc ac)) ac = (queue (holding sta r) ac).drop r.nFrames := by
  rw [takeAc_queue sta r₁ ac, offered.queues, offered.nFrames]

theorem others {other : Ac} (ne : ac ≠ other) :
    queue (holding sta (r₁.takeAc ac)) other = queue (holding sta r) other :=
  (takeAc_other sta r₁ ac ne.symm).trans (congrFun offered.queues other)

/-- Frames stay behind in the category that frames are taken from. -/
theorem stopsTaking (inside : served ignoredAcs ac = true) (none' : r₁.driverReleaseTids = 0)
    (left : queue (holding sta (r₁.takeAc ac)) ac ≠ []) :
    Taken sta ignoredAcs (ac :: rest) r (r₁.takeAc ac) := by
  rw [offered.here] at left
  have some' : queue (holding sta r) ac ≠ [] := fun empty => left (by rw [empty, List.drop_nil])
  have short : r.nFrames ≤ (queue (holding sta r) ac).length :=
    Nat.le_of_not_le fun all => left (List.drop_of_length_le all)
  refine ⟨?_, ?_, fun other => ?_⟩
  · rw [takeAc_tids, none', driverTids_stop inside some']
    split
    · next start =>
        have collected := offered.tids
        rw [if_pos start, none'] at collected
        exact collected
    · rfl
  · rw [takeAc_tids, if_pos none', offered.takes, waiting_cons _ inside,
      List.take_append_of_le_length short]
  · rw [takeAc_tids, if_pos none']
    by_cases same : ac = other
    · subst same
      rw [offered.here, staying_head inside]
    · rw [offered.others same, staying_tail same inside, Nat.sub_eq_zero_of_le short, staying_zero]

/-- All frames of the category are taken. -/
theorem goesOnTaking (inside : served ignoredAcs ac = true) (fresh : ac ∉ rest)
    (none' : r₁.driverReleaseTids = 0) (left : queue (holding sta (r₁.takeAc ac)) ac = [])
    (further : Taken sta ignoredAcs rest (r₁.takeAc ac) r') :
    Taken sta ignoredAcs (ac :: rest) r r' := by
  obtain ⟨tids, frames, queues⟩ := further
  rw [offered.here] at left
  have all : (queue (holding sta r) ac).length ≤ r.nFrames := List.drop_eq_nil_iff.mp left
  have takes := offered.takes
  rw [List.take_of_length_le all] at takes
  have same : ∀ other ∈ rest,
      queue (holding sta (r₁.takeAc ac)) other = queue (holding sta r) other :=
    fun other behind => offered.others fun equal => fresh (equal ▸ behind)
  -- with frames there are no TIDs
  have nothing : r'.driverReleaseTids ≠ 0 → queue (holding sta r) ac = [] := by
    intro some'
    refine not_imp_comm.mp (fun filled => ?_) some'
    rw [tids, takes, if_neg fun none' => filled (List.append_eq_nil_iff.mp none').2]
  refine ⟨?_, ?_, fun other => ?_⟩
  · rw [tids, takeAc_tids, none', Nat.zero_or, takes]
    by_cases start : r.frames = []
    · have collected := offered.tids
      rw [if_pos start, none'] at collected
      rw [start, List.nil_append, if_pos rfl]
      by_cases empty : queue (holding sta r) ac = []
      · obtain ⟨zero, zero'⟩ := Nat.or_eq_zero_iff.mp collected.symm
        rw [if_pos empty, driverTids_next inside empty, zero, Nat.zero_or,
          show held (holding sta r).state ac = 0 from zero', Nat.zero_or]
        exact driverTids_congr rfl same
      · rw [if_neg empty, driverTids_stop inside empty]
        exact collected
    · rw [if_neg start, if_neg fun none' => start (List.append_eq_nil_iff.mp none').1]
  · rw [frames, takes, offered.fewer, List.append_assoc]
    split
    · rw [waiting_cons _ inside, List.take_append, List.take_of_length_le all, waiting_congr same]
    · next some' => rw [nothing some', List.nil_append]
  · rw [queues other]
    split
    · by_cases here' : ac = other
      · subst here'
        rw [staying_outside fresh, staying_head inside, offered.here]
      · rw [staying_tail here' inside, offered.fewer, staying_congr same (offered.others here')]
    · next some' =>
        by_cases here' : ac = other
        · subst here'
          rw [offered.here, nothing some', List.drop_nil]
        · exact offered.others here'

/-- The driver has frames, so none are taken, and frames stay behind in the category. -/
theorem stopsCollecting (inside : served ignoredAcs ac = true) (start : r.frames = [])
    (some' : r₁.driverReleaseTids ≠ 0) (left : queue (holding sta r₁) ac ≠ []) :
    Taken sta ignoredAcs (ac :: rest) r r₁ := by
  rw [offered.queues] at left
  refine ⟨?_, ?_, fun other => ?_⟩
  · rw [offered.tids, if_pos start, if_pos start, driverTids_stop inside left]
    rfl
  · rw [if_neg some', offered.frames, List.append_nil]
  · rw [if_neg some', offered.queues]

/-- The driver has frames, and there are none in the queues of the category. -/
theorem goesOnCollecting (inside : served ignoredAcs ac = true) (start : r.frames = [])
    (some' : r₁.driverReleaseTids ≠ 0) (left : queue (holding sta r₁) ac = [])
    (further : Taken sta ignoredAcs rest r₁ r') : Taken sta ignoredAcs (ac :: rest) r r' := by
  obtain ⟨tids, frames, queues⟩ := further
  have collected := offered.tids
  rw [offered.queues] at left
  rw [if_pos start] at collected
  rw [if_pos (offered.frames.trans start)] at tids
  have more : r'.driverReleaseTids ≠ 0 := by
    rw [tids]
    exact fun zero => some' (Nat.or_eq_zero_iff.mp zero).1
  refine ⟨?_, ?_, fun other => ?_⟩
  · rw [tids, if_pos start, driverTids_next inside left, ← Nat.or_assoc, collected]
    exact congrArg _ (driverTids_congr rfl fun other _ => congrFun offered.queues other)
  · rw [frames, if_neg more, if_neg more, offered.frames]
  · rw [queues other, if_neg more, if_neg more, offered.queues]

end Offered

end OneMore

theorem taken_getFrames (sta : StaInfo) (ignoredAcs : UInt8) {acs : List Ac} (distinct : acs.Nodup)
    {r : Release} (mode : r.frames ≠ [] → r.driverReleaseTids = 0) :
    Taken sta ignoredAcs acs r (getFrames sta.state ignoredAcs acs r) := by
  induction acs generalizing r with
  | nil =>
    rw [getFrames]
    refine ⟨?_, ?_, fun ac => ?_⟩
    · split
      · exact (Nat.or_zero _).symm
      · next some' => exact mode some'
    · rw [waiting, List.filter_nil, List.flatMap_nil, List.take_nil, ite_self, List.append_nil]
    · simp [staying]
  | cons ac rest ih =>
    obtain ⟨fresh, distinct⟩ := List.nodup_cons.mp distinct
    rw [getFrames]
    cases inside : served ignoredAcs ac with
    | false =>
      obtain ⟨tids, frames, queues⟩ := ih distinct mode
      rw [if_pos (by simpa [served] using inside)]
      refine ⟨?_, ?_, fun other => ?_⟩
      · rw [tids, driverTids, inside]
        rfl
      · rw [frames, waiting_cons_ignored _ inside]
      · rw [queues other]
        by_cases same : ac = other
        · subst same
          rw [staying_ignored inside, staying_ignored inside]
        · rw [staying_tail_ignored same inside]
    | true =>
      rw [if_neg (by simpa [served] using inside)]
      have offered := offered_addTids sta ac r
      dsimp only
      generalize r.addTids sta.state ac = r₁ at offered ⊢
      by_cases none' : r₁.driverReleaseTids = 0
      · rw [if_pos (beq_iff_eq.mpr none')]
        by_cases left : queue (holding sta (r₁.takeAc ac)) ac = []
        · rw [if_neg (fun more => (left_iff sta _ ac).mp more left)]
          exact offered.goesOnTaking inside fresh none' left (ih distinct fun _ => none')
        · rw [if_pos ((left_iff sta _ ac).mpr left)]
          exact offered.stopsTaking inside none' left
      · have start : r.frames = [] := by
          refine not_imp_comm.mp (fun some' => ?_) none'
          rw [offered.tids, if_neg some', mode some']
        rw [if_neg (show ¬ (r₁.driverReleaseTids == 0) = true from
          fun zero => none' (beq_iff_eq.mp zero))]
        by_cases left : queue (holding sta r₁) ac = []
        · rw [if_neg (fun more => (left_iff sta _ ac).mp more left)]
          exact offered.goesOnCollecting inside start none' left
            (ih distinct fun some' => absurd (offered.frames.trans start) some')
        · rw [if_pos ((left_iff sta _ ac).mpr left)]
          exact offered.stopsCollecting inside start none' left

/-! ## The TIDs of the driver -/

section Tids

variable {sta : StaInfo} {ignoredAcs : UInt8} {ac : Ac}

theorem tids_apart {ac other : Ac} (ne : ac ≠ other) : ac.tids &&& other.tids = 0 := by
  cases ac <;> cases other <;> first | rfl | exact absurd rfl ne

theorem held_land (state : StaInfo.State) (ac : Ac) :
    held state ac &&& ac.tids = held state ac := by
  rw [held, Nat.and_or_distrib_right, Nat.land_assoc, Nat.land_assoc, Nat.and_self]

theorem held_land_other (state : StaInfo.State) {ac other : Ac} (ne : ac ≠ other) :
    held state ac &&& other.tids = 0 := by
  rw [held, Nat.and_or_distrib_right, Nat.land_assoc, Nat.land_assoc, tids_apart ne, Nat.and_zero,
    Nat.and_zero, Nat.or_zero]

theorem held_lt (state : StaInfo.State) (ac : Ac) : held state ac < 2 ^ 8 := by
  have small : ac.tids < 2 ^ 8 := by cases ac <;> decide
  rw [← held_land]
  exact Nat.lt_of_le_of_lt Nat.and_le_right small

theorem driverTids_lt (sta : StaInfo) (ignoredAcs : UInt8) (acs : List Ac) :
    driverTids sta ignoredAcs acs < 2 ^ 8 := by
  induction acs with
  | nil => exact Nat.two_pow_pos 8
  | cons ac rest ih =>
    rw [driverTids]
    split
    · split
      · exact Nat.or_lt_two_pow (held_lt _ _) ih
      · exact held_lt _ _
    · exact ih

/-- Nothing is in the queues of the categories ahead. -/
def Reached (sta : StaInfo) (ignoredAcs : UInt8) (acs : List Ac) (ac : Ac) : Prop :=
  ∀ higher ∈ ahead acs ac, served ignoredAcs higher = true → queue sta higher = []

theorem driverTids_outside {acs : List Ac} (outside : ac ∉ acs ∨ served ignoredAcs ac = false) :
    driverTids sta ignoredAcs acs &&& ac.tids = 0 := by
  induction acs with
  | nil => exact Nat.zero_and _
  | cons other rest ih =>
    have further := ih (outside.imp_left fun fresh inside => fresh (.tail _ inside))
    rw [driverTids]
    split
    · next inside =>
        have ne : other ≠ ac := by
          rintro rfl
          rcases outside with fresh | ignored
          · exact fresh (.head _)
          · exact Bool.false_ne_true (ignored.symm.trans inside)
        split
        · rw [Nat.and_or_distrib_right, further, held_land_other _ ne, Nat.or_zero]
        · exact held_land_other _ ne
    · exact further

/-- The TIDs of a category are released if nothing is in the queues ahead. -/
theorem driverTids_reached {acs : List Ac} (distinct : acs.Nodup) (inside : ac ∈ acs)
    (serves : served ignoredAcs ac = true) (reached : Reached sta ignoredAcs acs ac) :
    driverTids sta ignoredAcs acs &&& ac.tids = held sta.state ac := by
  induction acs with
  | nil => cases inside
  | cons other rest ih =>
    obtain ⟨fresh, distinct⟩ := List.nodup_cons.mp distinct
    by_cases same : other = ac
    · subst same
      rw [driverTids, if_pos serves]
      split
      · rw [Nat.and_or_distrib_right, driverTids_outside (.inl fresh), held_land, Nat.or_zero]
      · exact held_land _ _
    · have behind := (List.mem_cons.mp inside).resolve_left fun equal => same equal.symm
      have further := ih distinct behind fun higher before =>
        reached higher (by rw [ahead_tail rest same]; exact .tail _ before)
      rw [driverTids]
      split
      · next serves' =>
          rw [if_pos (reached other (by rw [ahead_tail rest same]; exact .head _) serves'),
            Nat.and_or_distrib_right, further, held_land_other _ same, Nat.zero_or]
      · exact further

/-- TIDs of no other category are released. -/
theorem reached_of_driverTids {acs : List Ac}
    (some' : driverTids sta ignoredAcs acs &&& ac.tids ≠ 0) :
    Reached sta ignoredAcs acs ac := by
  induction acs with
  | nil => exact absurd (Nat.zero_and _) some'
  | cons other rest ih =>
    intro higher before serves
    by_cases same : other = ac
    · subst same
      rw [ahead_head] at before
      cases before
    · rw [ahead_tail rest same] at before
      rw [driverTids] at some'
      split at some'
      · next serves' =>
          split at some'
          · next empty =>
              rw [Nat.and_or_distrib_right, held_land_other _ same, Nat.zero_or] at some'
              rcases List.mem_cons.mp before with rfl | later
              · exact empty
              · exact ih some' higher later serves
          · exact absurd (held_land_other _ same) some'
      · next ignored =>
          rcases List.mem_cons.mp before with rfl | later
          · exact absurd serves ignored
          · exact ih some' higher later serves

end Tids

end Iwlwifi.PsDeliver
