import Iwlwifi.Wireless.AmsduSubframe

/-!
# De-aggregation is exact

The whole loop makes the frames of the sub-frames one after the other (`makeFrames`,
`amsduLoop_eq`).  They are determined by the sub-frames alone, unless a payload may begin an
LLC/SNAP header, a linear skb that becomes the last frame keeps bytes behind the payload, or the
array of the fragments of a frame overflows (`Clean`).
-/

namespace Iwlwifi

open Lib

/-! ## The loop -/

/-- What is left behind the last sub-frame. -/
def Ending.slack? : Ending → Option (List UInt8)
  | .complete slack => some slack
  | .broken => none

/-- The frame that is made of a sub-frame; `behind` is what is left behind the last one. -/
def makeFrame (env : AmsduEnv) (skb : AggregateSkb) (n offset : Nat) (sf : Subframe)
    (behind : Option (List UInt8)) : BoundedRead Unit (List UInt8) :=
  if skb.reusesSkb && behind.isSome then
    .ok (sf.made (sf.payload ++ behind.getD []) (env.tail n))
  else if !env.allocated n then .error (.ret ())
  else if FragsFit env.maxSkbFrags skb offset sf then .ok (sf.made sf.payload (env.tail n))
  else .error .outOfBounds

/-- What is behind a sub-frame that is followed by others, or by none. -/
def behindFirst (ending : Ending) : List Subframe → Option (List UInt8)
  | [] => ending.slack?
  | _ :: _ => none

/-- The frames of the sub-frames from an offset on. -/
def makeFrames (env : AmsduEnv) (skb : AggregateSkb) (ending : Ending) :
    Nat → List (List UInt8) → List Subframe → BoundedRead Unit (List (List UInt8))
  | _, list, [] => if ending.slack?.isSome then .ok list else .error (.ret ())
  | offset, list, sf :: sfs =>
    let next := offset + 14 + sf.payload.length + sf.padding
    if passesFilter env sf.eth then
      makeFrame env skb list.length (offset + 14) sf (behindFirst ending sfs) >>= fun frame =>
        makeFrames env skb ending next (list ++ [frame]) sfs
    else makeFrames env skb ending next list sfs

section Loop

variable {env : AmsduEnv} {skb : AggregateSkb} {sf : Subframe} {more : List UInt8} {offset : Nat}

theorem inside_of_drop (here : skb.bytes.drop offset = sf.bytes ++ more) :
    offset + 14 ≤ skb.len := by
  have length := length_of_drop here bytes_ne_nil
  rw [List.length_append, sf.bytes_length] at length
  omega

/-- The frame that a turn makes, `behind` being what is left if the sub-frame is the last. -/
theorem subframeFrame_eq (here : skb.bytes.drop offset = sf.bytes ++ more) (n : Nat)
    {behind : Option (List UInt8)} (left : ∀ slack, behind = some slack → slack = more) :
    (∃ eth frame, makeFrame env skb n (offset + 14) sf behind = .ok frame ∧
      subframeFrame env skb n (offset + 14) sf.eth behind.isSome = .ok (eth, frame)) ∨
    ∃ stop, makeFrame env skb n (offset + 14) sf behind = .error stop ∧
      subframeFrame env skb n (offset + 14) sf.eth behind.isSome = .error stop := by
  have payload := drop_payload here
  have inside := inside_of_drop here
  rw [makeFrame]
  cases reuses : skb.reusesSkb && behind.isSome with
  | true =>
    obtain ⟨reuse, last⟩ := Bool.and_eq_true_iff.mp reuses
    obtain ⟨slack, same⟩ := Option.isSome_iff_exists.mp last
    obtain rfl := left slack same
    obtain ⟨eth, made⟩ := @subframeFrame_reused env skb sf n _ _ payload reuse
    rw [last, same]
    exact Or.inl ⟨eth, _, rfl, made⟩
  | false =>
    obtain ⟨fails, succeeds, overflows⟩ := @subframeFrame_copied env skb sf n _ _ payload
      inside _ reuses
    simp only [Bool.false_eq_true, if_false]
    cases allocated : env.allocated n with
    | false => exact Or.inr ⟨_, rfl, fails allocated⟩
    | true =>
      simp only [Bool.not_true, Bool.false_eq_true, if_false]
      split
      · next fit =>
          obtain ⟨eth, made⟩ := succeeds allocated fit
          exact Or.inl ⟨eth, _, rfl, made⟩
      · next overflow => exact Or.inr ⟨_, rfl, overflows allocated overflow⟩

/-- One sub-frame, after which the loop ends or goes on. -/
theorem amsduLoop_cons (here : skb.bytes.drop offset = sf.bytes ++ more) {ending : Ending}
    {sfs : List Subframe} {isLast : Bool}
    (last : (behindFirst ending sfs).isSome = isLast)
    (short : decide (more.length ≤ sf.padding) = isLast)
    (left : ∀ slack, behindFirst ending sfs = some slack → slack = more)
    (after : ∀ (eth : Ethhdr) (list : List (List UInt8)), ∃ fuel,
      (if isLast then some (.ok list) else amsduLoop env skb fuel
          ⟨offset + 14 + sf.payload.length + sf.padding, eth, isLast, list⟩) =
        some (makeFrames env skb ending (offset + 14 + sf.payload.length + sf.padding) list sfs))
    (eth : Ethhdr) (list : List (List UInt8)) :
    ∃ fuel, amsduLoop env skb fuel ⟨offset, eth, false, list⟩ =
      some (makeFrames env skb ending offset list (sf :: sfs)) := by
  have turn := @amsduTurn_of_drop env skb sf offset more here eth false list
  rw [short] at turn
  rw [makeFrames]
  cases passes : passesFilter env sf.eth with
  | false =>
    rw [passes, if_neg (by decide)] at turn
    obtain ⟨fuel, goesOn⟩ := after sf.eth list
    refine ⟨fuel + 1, ?_⟩
    rw [amsduLoop, turn]
    exact goesOn
  | true =>
    rw [passes, if_pos rfl] at turn
    have frames := @subframeFrame_eq env skb sf more offset here list.length
      (behindFirst ending sfs) left
    rw [last] at frames
    rcases frames with ⟨eth', frame, makes, made⟩ | ⟨stop, makes, made⟩
    · rw [made] at turn
      obtain ⟨fuel, goesOn⟩ := after eth' (list ++ [frame])
      refine ⟨fuel + 1, ?_⟩
      rw [amsduLoop, turn, if_pos rfl, makes]
      exact goesOn
    · rw [made] at turn
      refine ⟨1, ?_⟩
      rw [amsduLoop, turn, if_pos rfl, makes]
      rfl

end Loop

theorem LaidOut.broken_of_nil {bytes : List UInt8} {ending : Ending}
    (laid : LaidOut bytes [] ending) : ending = .broken := by
  cases laid
  rfl

theorem amsduLoop_eq {env : AmsduEnv} {skb : AggregateSkb} {rest : List UInt8}
    {sfs : List Subframe} {ending : Ending} (laid : LaidOut rest sfs ending) {offset : Nat}
    (here : skb.bytes.drop offset = rest) (eth : Ethhdr) (list : List (List UInt8)) :
    ∃ fuel, amsduLoop env skb fuel ⟨offset, eth, false, list⟩ =
      some (makeFrames env skb ending offset list sfs) := by
  induction laid generalizing offset eth list with
  | broken none =>
    refine ⟨1, ?_⟩
    rw [amsduLoop, amsduTurn_broken here none]
    rfl
  | @last sf slack short =>
    refine @amsduLoop_cons env skb sf slack offset here _ [] true rfl (decide_eq_true short) ?_
      (fun eth list => ⟨0, rfl⟩) eth list
    exact fun other same => (Option.some.inj same).symm
  | @cons sf pad rest sfs ending padded left laid ih =>
    have none : behindFirst ending sfs = none := by
      cases sfs with
      | nil => rw [laid.broken_of_nil]; rfl
      | cons sf sfs => rfl
    have long : decide ((pad ++ rest).length ≤ sf.padding) = false := by
      have positive := List.length_pos_iff.mpr left
      rw [decide_eq_false_iff_not, List.length_append]
      omega
    have next : skb.bytes.drop (offset + 14 + sf.payload.length + sf.padding) = rest := by
      rw [show offset + 14 + sf.payload.length + sf.padding =
        offset + (sf.bytes.length + pad.length) by rw [sf.bytes_length]; omega,
        ← List.drop_drop, here, ← List.drop_drop, List.drop_left, List.drop_left]
    refine @amsduLoop_cons env skb sf (pad ++ rest) offset here ending sfs false ?_ long ?_
      (fun eth list => ih next eth list) eth list
    · rw [none]
      rfl
    · intro slack same
      rw [none] at same
      cases same

/-! ## When the frames are those of the sub-frames -/

/-- The sub-frames with the offsets of their payloads. -/
def placedPayloads : Nat → List Subframe → List (Nat × Subframe)
  | _, [] => []
  | offset, sf :: sfs =>
    (offset + 14, sf) :: placedPayloads (offset + 14 + sf.payload.length + sf.padding) sfs

/-- The sub-frames that pass the filter. -/
def passing (env : AmsduEnv) (sfs : List Subframe) : List Subframe :=
  sfs.filter fun sf => passesFilter env sf.eth

theorem passing_cons_of_pos {env : AmsduEnv} {sf : Subframe} (sfs : List Subframe)
    (passes : passesFilter env sf.eth = true) :
    passing env (sf :: sfs) = sf :: passing env sfs := List.filter_cons_of_pos passes

theorem passing_cons_of_neg {env : AmsduEnv} {sf : Subframe} (sfs : List Subframe)
    (fails : passesFilter env sf.eth = false) : passing env (sf :: sfs) = passing env sfs :=
  List.filter_cons_of_neg (by rw [fails]; decide)

/-- Nothing of what makes a frame depend on more than its sub-frame. -/
structure Clean (env : AmsduEnv) (skb : AggregateSkb) (offset : Nat) (sfs : List Subframe)
    (ending : Ending) : Prop where
  /-- Of a string that ends with a sub-frame, no payload may begin an LLC/SNAP header. -/
  whole : ending.slack?.isSome = true → ∀ sf ∈ passing env sfs, ¬sf.MayBegin
  /-- A skb that becomes a frame ends with the payload. -/
  tight : skb.reusesSkb = true → ∀ slack, ending.slack? = some slack → slack ≠ [] →
    ∀ sf, sfs.getLast? = some sf → passesFilter env sf.eth = false
  fits : ∀ placed ∈ placedPayloads offset sfs, passesFilter env placed.2.eth = true →
    FragsFit env.maxSkbFrags skb placed.1 placed.2

variable {sfs : List Subframe}

theorem Clean.rest {env : AmsduEnv} {skb : AggregateSkb} {offset : Nat} {sf : Subframe}
    {ending : Ending} (clean : Clean env skb offset (sf :: sfs) ending) :
    Clean env skb (offset + 14 + sf.payload.length + sf.padding) sfs ending := by
  refine ⟨fun complete other member => clean.whole complete other ?_,
    fun reuses slack same some other last => clean.tight reuses slack same some other ?_,
    fun placed member => clean.fits placed (List.mem_cons_of_mem _ member)⟩
  · rw [passing, List.mem_filter] at member ⊢
    exact ⟨List.mem_cons_of_mem _ member.1, member.2⟩
  · cases sfs with
    | nil => cases last
    | cons next sfs => rwa [List.getLast?_cons_cons]

theorem LaidOut.slack?_le {bytes slack : List UInt8} {ending : Ending}
    (laid : LaidOut bytes sfs ending) (same : ending.slack? = some slack) :
    ∀ sf, sfs.getLast? = some sf → slack.length ≤ sf.padding := by
  induction laid with
  | broken => cases same
  | last short =>
    cases same
    intro sf last
    rw [List.getLast?_singleton] at last
    cases last
    exact short
  | @cons sf pad rest sfs ending padded left laid ih =>
    intro other last
    cases sfs with
    | nil =>
      rw [laid.broken_of_nil] at same
      cases same
    | cons next sfs =>
      rw [List.getLast?_cons_cons] at last
      exact ih same other last

section Frames

variable {env : AmsduEnv} {skb : AggregateSkb} {ending : Ending} {offset : Nat}
  {list : List (List UInt8)} {sfs : List Subframe}

/-- What is done to a clean string. -/
theorem makeFrames_of_clean (clean : Clean env skb offset sfs ending) :
    (ending.slack?.isSome = true →
      makeFrames env skb ending offset list sfs =
          .ok (list ++ (passing env sfs).map Subframe.ethernetFrame) ∨
        makeFrames env skb ending offset list sfs = .error (.ret ()) ∧
          ∃ n, env.allocated n = false) ∧
    (ending.slack?.isSome = false →
      makeFrames env skb ending offset list sfs = .error (.ret ())) := by
  induction sfs generalizing offset list with
  | nil =>
    rw [makeFrames]
    refine ⟨fun complete => Or.inl ?_, fun broken => ?_⟩
    · rw [if_pos complete]
      simp [passing]
    · rw [broken]
      rfl
  | cons sf sfs ih =>
    rw [makeFrames]
    cases passes : passesFilter env sf.eth with
    | false =>
      rw [passing_cons_of_neg sfs passes]
      exact ih clean.rest
    | true =>
      have taken := passing_cons_of_pos sfs passes
      have fit : FragsFit env.maxSkbFrags skb (offset + 14) sf :=
        clean.fits (offset + 14, sf) List.mem_cons_self passes
      rw [if_pos rfl]
      -- the frame is made and is the right one, unless memory is short
      have frame : (ending.slack?.isSome = true → ¬sf.MayBegin) →
          makeFrame env skb list.length (offset + 14) sf (behindFirst ending sfs) =
            .error (.ret ()) ∧ (∃ n, env.allocated n = false) ∨
          ∃ made, makeFrame env skb list.length (offset + 14) sf (behindFirst ending sfs) =
            .ok made ∧ (ending.slack?.isSome = true → made = sf.ethernetFrame) := by
        intro whole
        rw [makeFrame]
        split
        · next reuses =>
            obtain ⟨reuse, last⟩ := Bool.and_eq_true_iff.mp reuses
            refine Or.inr ⟨_, rfl, fun complete => ?_⟩
            cases sfs with
            | cons next sfs => cases last
            | nil =>
              obtain ⟨slack, same⟩ := Option.isSome_iff_exists.mp complete
              have none : slack = [] := by
                by_contra some
                have fails := clean.tight reuse slack same some sf rfl
                rw [passes] at fails
                cases fails
              rw [behindFirst, same, none, Option.getD_some, List.append_nil]
              exact Subframe.made_of_not_mayBegin (whole complete) _
        · cases allocated : env.allocated list.length with
          | false => exact Or.inl ⟨rfl, _, allocated⟩
          | true =>
            refine Or.inr ⟨sf.made sf.payload (env.tail list.length), ?_, fun complete => ?_⟩
            · simp only [Bool.not_true, Bool.false_eq_true, if_false]
            · exact Subframe.made_of_not_mayBegin (whole complete) _
      rcases frame fun complete => clean.whole complete sf (by rw [taken]; exact
        List.mem_cons_self) with ⟨fails, short⟩ | ⟨made, makes, right⟩
      · rw [fails]
        exact ⟨fun _ => Or.inr ⟨rfl, short⟩, fun _ => rfl⟩
      · rw [makes]
        obtain ⟨complete, broken⟩ := @ih _ (list ++ [made]) clean.rest
        refine ⟨fun isComplete => ?_, broken⟩
        have step := complete isComplete
        rw [right isComplete, List.append_assoc] at step
        rw [right isComplete, taken]
        exact step

theorem fits_of_makeFrames (enough : ∀ n, env.allocated n = true)
    (inBounds : makeFrames env skb ending offset list sfs ≠ .error .outOfBounds) :
    ∀ placed ∈ placedPayloads offset sfs, passesFilter env placed.2.eth = true →
      FragsFit env.maxSkbFrags skb placed.1 placed.2 := by
  induction sfs generalizing offset list with
  | nil => exact nofun
  | cons sf sfs ih =>
    rw [makeFrames] at inBounds
    cases passes : passesFilter env sf.eth with
    | false =>
      rw [passes] at inBounds
      intro placed member passing
      rcases List.mem_cons.mp member with rfl | member
      · rw [passes] at passing
        cases passing
      · exact ih inBounds placed member passing
    | true =>
      rw [passes, if_pos rfl, makeFrame] at inBounds
      intro placed member passing
      by_cases reuses : (skb.reusesSkb && (behindFirst ending sfs).isSome) = true
      · rw [if_pos reuses] at inBounds
        obtain ⟨reuse, -⟩ := Bool.and_eq_true_iff.mp reuses
        rcases List.mem_cons.mp member with rfl | member
        · intro pages
          rw [AggregateSkb.reusesSkb, pages, Bool.not_true, Bool.and_false] at reuse
          cases reuse
        · exact ih inBounds placed member passing
      · rw [if_neg reuses, enough, if_neg (by decide)] at inBounds
        by_cases fit : FragsFit env.maxSkbFrags skb (offset + 14) sf
        · rw [if_pos fit] at inBounds
          rcases List.mem_cons.mp member with rfl | member
          · exact fit
          · exact ih inBounds placed member passing
        · rw [if_neg fit] at inBounds
          exact absurd rfl inBounds

/-- With memory for every frame a string that ends with a sub-frame is not given up. -/
theorem makeFrames_ne_ret (enough : ∀ n, env.allocated n = true)
    (complete : ending.slack?.isSome = true) :
    makeFrames env skb ending offset list sfs ≠ .error (.ret ()) := by
  induction sfs generalizing offset list with
  | nil =>
    rw [makeFrames, if_pos complete]
    exact nofun
  | cons sf sfs ih =>
    rw [makeFrames]
    split
    · rw [makeFrame]
      split
      · exact ih
      rw [enough, if_neg (by decide)]
      split
      · exact ih
      · exact nofun
    · exact ih

theorem prefix_of_makeFrames {out : List (List UInt8)}
    (makes : makeFrames env skb ending offset list sfs = .ok out) : list <+: out := by
  induction sfs generalizing offset list with
  | nil =>
    rw [makeFrames] at makes
    split at makes
    · cases makes
      exact List.prefix_refl _
    · cases makes
  | cons sf sfs ih =>
    rw [makeFrames] at makes
    split at makes
    · obtain ⟨frame, -, rest⟩ : ∃ frame, makeFrame env skb list.length (offset + 14) sf
          (behindFirst ending sfs) = .ok frame ∧
          makeFrames env skb ending (offset + 14 + sf.payload.length + sf.padding)
            (list ++ [frame]) sfs = .ok out := by
        cases first : makeFrame env skb list.length (offset + 14) sf (behindFirst ending sfs) with
        | error stop =>
          rw [first] at makes
          cases makes
        | ok frame =>
          rw [first] at makes
          exact ⟨frame, rfl, makes⟩
      exact (List.prefix_append list [frame]).trans (ih rest)
    · exact ih makes

/-- If the frames are right in some memory, they are determined by their sub-frames there. -/
theorem made_of_makeFrames {slack : List UInt8} (complete : ending.slack? = some slack)
    (short : ∀ sf, sfs.getLast? = some sf → slack.length ≤ sf.padding)
    (makes : makeFrames env skb ending offset list sfs =
      .ok (list ++ (passing env sfs).map Subframe.ethernetFrame)) :
    (∀ sf ∈ passing env sfs, ∃ n, sf.made sf.payload (env.tail n) = sf.ethernetFrame) ∧
      (skb.reusesSkb = true → slack ≠ [] → ∀ sf, sfs.getLast? = some sf →
        passesFilter env sf.eth = false) := by
  induction sfs generalizing offset list with
  | nil => exact ⟨nofun, fun _ _ => nofun⟩
  | cons sf sfs ih =>
    have shortRest : ∀ other, sfs.getLast? = some other → slack.length ≤ other.padding := by
      intro other last
      cases sfs with
      | nil => cases last
      | cons next sfs => exact short other (by rwa [List.getLast?_cons_cons])
    rw [makeFrames] at makes
    cases passes : passesFilter env sf.eth with
    | false =>
      rw [passes, if_neg (by decide), passing_cons_of_neg sfs passes] at makes
      obtain ⟨right, tight⟩ := ih shortRest makes
      rw [passing_cons_of_neg sfs passes]
      refine ⟨right, fun reuses some other last => ?_⟩
      cases sfs with
      | nil =>
        cases last
        exact passes
      | cons next sfs =>
        rw [List.getLast?_cons_cons] at last
        exact tight reuses some other last
    | true =>
      rw [passes, if_pos rfl, passing_cons_of_pos sfs passes, List.map_cons] at makes
      cases first : makeFrame env skb list.length (offset + 14) sf (behindFirst ending sfs) with
      | error stop =>
        rw [first] at makes
        cases makes
      | ok frame =>
        rw [first] at makes
        have same : frame = sf.ethernetFrame := by
          obtain ⟨more, whole⟩ := prefix_of_makeFrames makes
          rw [List.append_assoc] at whole
          exact (List.cons.inj (List.append_cancel_left whole)).1
        have rest : makeFrames env skb ending (offset + 14 + sf.payload.length + sf.padding)
            (list ++ [frame]) sfs =
          .ok (list ++ [frame] ++ (passing env sfs).map Subframe.ethernetFrame) := by
          rw [List.append_assoc]
          simp only [List.singleton_append]
          rw [same] at makes ⊢
          exact makes
        obtain ⟨right, tight⟩ := ih shortRest rest
        rw [makeFrame] at first
        have here : sf.made sf.payload (env.tail list.length) = sf.ethernetFrame ∧
            (skb.reusesSkb = true → sfs = [] → slack = []) := by
          split at first
          · next reuses =>
              obtain ⟨-, last⟩ := Bool.and_eq_true_iff.mp reuses
              cases sfs with
              | cons next sfs => cases last
              | nil =>
                rw [behindFirst, complete, Option.getD_some] at first
                have none : slack = [] := by
                  by_contra some
                  exact Subframe.made_ne_of_slack _ some (short sf rfl)
                    ((Except.ok.inj first).trans same)
                rw [none, List.append_nil] at first
                exact ⟨(Except.ok.inj first).trans same, fun _ _ => none⟩
          · next copies =>
              split at first
              · cases first
              split at first
              · refine ⟨(Except.ok.inj first).trans same, fun reuse none => ?_⟩
                rw [reuse, none, behindFirst, complete] at copies
                exact absurd rfl copies
              · cases first
        rw [passing_cons_of_pos sfs passes]
        constructor
        · intro other member
          rcases List.mem_cons.mp member with rfl | member
          · exact ⟨_, here.1⟩
          · exact right other member
        · intro reuses some other last
          cases sfs with
          | nil => exact absurd (here.2 reuses rfl) some
          | cons next sfs =>
            rw [List.getLast?_cons_cons] at last
            exact tight reuses some other last

end Frames

/-! ## Any skb -/

theorem amsduLoop_fuel {env : AmsduEnv} {skb : AggregateSkb} {fuel fuel' : Nat} {st : AmsduState}
    {outcome outcome' : BoundedRead Unit (List (List UInt8))}
    (returns : amsduLoop env skb fuel st = some outcome)
    (returns' : amsduLoop env skb fuel' st = some outcome') : outcome = outcome' := by
  induction fuel generalizing fuel' st with
  | zero => cases returns
  | succ fuel ih =>
    cases fuel' with
    | zero => cases returns'
    | succ fuel' =>
      rw [amsduLoop] at returns returns'
      cases turn : amsduTurn env skb st with
      | error stop =>
        rw [turn] at returns returns'
        exact Option.some.inj (returns.symm.trans returns')
      | ok next =>
        simp only [turn] at returns returns'
        split at returns
        · next last =>
            rw [if_pos last] at returns'
            exact Option.some.inj (returns.symm.trans returns')
        · next goesOn =>
            rw [if_neg goesOn] at returns'
            exact ih returns returns'

/-- De-aggregation of an skb is exact, whether memory is short or not and whatever lies in
memory.  Every byte string is laid out in some way (`exists_laidOut`); `.complete []` is the
ending of a list of sub-frames that is padded but for the last. -/
def Deaggregates (env : AmsduEnv) (skb : AggregateSkb) : Prop :=
  ∀ (allocated : Nat → Bool) (tail : Nat → Nat → UInt8) (junk : Ethhdr) (sfs : List Subframe)
    (ending : Ending), LaidOut skb.bytes sfs ending → ∃ fuel delivered,
      amsduTo8023s { env with allocated := allocated, tail := tail } skb junk fuel =
        some (.ok delivered) ∧
      (ending.slack?.isSome = true → delivered = (passing env sfs).map Subframe.ethernetFrame ∨
        delivered = [] ∧ ∃ n, allocated n = false) ∧
      (ending.slack?.isSome = false → delivered = [])

/-- The result of the run on a string that is laid out. -/
theorem amsduTo8023s_eq {env : AmsduEnv} {skb : AggregateSkb} {sfs : List Subframe}
    {ending : Ending} (laid : LaidOut skb.bytes sfs ending) (junk : Ethhdr) :
    ∃ fuel, amsduTo8023s env skb junk fuel =
      match makeFrames env skb ending 0 [] sfs with
      | .error (.ret ()) => some (.ok [])
      | outcome => some outcome := by
  obtain ⟨fuel, run⟩ := @amsduLoop_eq env skb _ sfs ending laid 0 rfl junk []
  refine ⟨fuel, ?_⟩
  rw [amsduTo8023s, run]
  cases makeFrames env skb ending 0 [] sfs with
  | ok frames => rfl
  | error stop =>
    cases stop with
    | outOfBounds => rfl
    | ret code => rfl

theorem amsduTo8023s_fuel {env : AmsduEnv} {skb : AggregateSkb} {junk : Ethhdr}
    {fuel fuel' : Nat} {outcome outcome' : BoundedRead Unit (List (List UInt8))}
    (returns : amsduTo8023s env skb junk fuel = some outcome)
    (returns' : amsduTo8023s env skb junk fuel' = some outcome') : outcome = outcome' := by
  rw [amsduTo8023s] at returns returns'
  cases run : amsduLoop env skb fuel ⟨0, junk, false, []⟩ with
  | none =>
    rw [run] at returns
    cases returns
  | some ran =>
    cases run' : amsduLoop env skb fuel' ⟨0, junk, false, []⟩ with
    | none =>
      rw [run'] at returns'
      cases returns'
    | some ran' =>
      rw [amsduLoop_fuel run run'] at run
      rw [run] at returns
      rw [run'] at returns'
      exact Option.some.inj (returns.symm.trans returns')

theorem deaggregates_of_clean {env : AmsduEnv} {skb : AggregateSkb}
    (clean : ∀ sfs ending, LaidOut skb.bytes sfs ending → Clean env skb 0 sfs ending) :
    Deaggregates env skb := by
  intro allocated tail junk sfs ending laid
  obtain ⟨whole, tight, fits⟩ := clean sfs ending laid
  obtain ⟨complete, broken⟩ := @makeFrames_of_clean
    { env with allocated := allocated, tail := tail } skb ending 0 [] sfs ⟨whole, tight, fits⟩
  obtain ⟨fuel, run⟩ := @amsduTo8023s_eq { env with allocated := allocated, tail := tail } skb sfs
    ending laid junk
  cases ends : ending.slack?.isSome with
  | true =>
    rcases complete ends with made | ⟨purged, short⟩
    · rw [made] at run
      exact ⟨fuel, _, run, fun _ => Or.inl rfl, nofun⟩
    · rw [purged] at run
      exact ⟨fuel, _, run, fun _ => Or.inr ⟨rfl, short⟩, nofun⟩
  | false =>
    rw [broken ends] at run
    exact ⟨fuel, _, run, nofun, fun _ => rfl⟩

theorem clean_of_deaggregates {env : AmsduEnv} {skb : AggregateSkb}
    (deaggregates : Deaggregates env skb) {ending : Ending} (laid : LaidOut skb.bytes sfs ending) :
    Clean env skb 0 sfs ending := by
  -- with memory for every frame the run makes all frames, in any memory behind them
  have run : ∀ tail : Nat → UInt8,
      makeFrames { env with allocated := fun _ => true, tail := fun _ => tail } skb ending 0 []
          sfs ≠ .error .outOfBounds ∧
        (ending.slack?.isSome = true →
          makeFrames { env with allocated := fun _ => true, tail := fun _ => tail } skb ending 0 []
            sfs = .ok ([] ++ (passing env sfs).map Subframe.ethernetFrame)) := by
    intro tail
    obtain ⟨fuel, delivered, returns, complete, -⟩ :=
      deaggregates (fun _ => true) (fun _ => tail) ⟨[], [], 0⟩ sfs ending laid
    obtain ⟨fuel', run⟩ := @amsduTo8023s_eq
      { env with allocated := fun _ => true, tail := fun _ => tail } skb sfs ending laid ⟨[], [], 0⟩
    cases made : makeFrames { env with allocated := fun _ => true, tail := fun _ => tail } skb
        ending 0 [] sfs with
    | ok frames =>
      rw [made] at run
      have same := Except.ok.inj (amsduTo8023s_fuel returns run)
      refine ⟨nofun, fun ends => ?_⟩
      rcases complete ends with all | ⟨-, n, short⟩
      · rw [← same, all, List.nil_append]
      · cases short
    | error stop =>
      rw [made] at run
      cases stop with
      | outOfBounds => cases amsduTo8023s_fuel returns run
      | ret code =>
        refine ⟨nofun, fun ends => ?_⟩
        exact absurd made (makeFrames_ne_ret (fun _ => rfl) ends)
  have fits := @fits_of_makeFrames
    { env with allocated := fun _ => true, tail := fun _ _ => 0 } skb ending 0 [] sfs
    (fun _ => rfl) (run fun _ => 0).1
  refine ⟨fun ends sf member begins => ?_, fun reuses slack same left => ?_, fits⟩
  · obtain ⟨slack, same⟩ := Option.isSome_iff_exists.mp ends
    have short := laid.slack?_le same
    obtain ⟨length, header⟩ := begins
    rcases header with begins | begins
    · obtain ⟨n, right⟩ :=
        (made_of_makeFrames same short ((run (Subframe.tailAfter rfc1042Header)).2 ends)).1 sf
          member
      exact Subframe.made_ne_of_begins rfl (Or.inl rfl) length begins right
    · obtain ⟨n, right⟩ :=
        (made_of_makeFrames same short ((run (Subframe.tailAfter bridgeTunnelHeader)).2 ends)).1 sf
          member
      exact Subframe.made_ne_of_begins rfl (Or.inr rfl) length begins right
  · have ends : ending.slack?.isSome = true := by
      rw [same]
      rfl
    exact (made_of_makeFrames same (laid.slack?_le same) ((run fun _ => 0).2 ends)).2 reuses left

theorem deaggregates_iff (env : AmsduEnv) (skb : AggregateSkb) : Deaggregates env skb ↔
    ∀ sfs ending, LaidOut skb.bytes sfs ending → Clean env skb 0 sfs ending :=
  ⟨fun deaggregates _ _ laid => clean_of_deaggregates deaggregates laid, deaggregates_of_clean⟩

/-- No filter, and memory for every frame. -/
def plainEnv : AmsduEnv := ⟨none, none, 17, fun _ => true, fun _ _ => 0⟩

/-- A single sub-frame without a payload, in a linear skb. -/
def emptySubframe : Subframe :=
  ⟨[2, 0, 0, 0, 0, 1], [2, 0, 0, 0, 0, 2], [], rfl, rfl, by decide⟩

theorem not_deaggregates : ¬∀ env skb, Deaggregates env skb := by
  intro deaggregates
  have laid : LaidOut (⟨emptySubframe.bytes, [], [], false⟩ : AggregateSkb).bytes
      [emptySubframe] (.complete []) :=
    @LaidOut.last emptySubframe [] (Nat.zero_le _)
  have clean := clean_of_deaggregates
    (deaggregates plainEnv ⟨emptySubframe.bytes, [], [], false⟩) laid
  exact clean.whole rfl emptySubframe (List.mem_filter.mpr ⟨List.mem_cons_self, rfl⟩) (by decide)

end Iwlwifi
