import Iwlwifi.Wireless.Chan

/-!
# Writers and readers of the DFS state

The writer walks a segment from `center - bandwidth / 2 + 10` to `center + bandwidth / 2 - 10`,
the readers between `cfg80211_get_start_freq` and `cfg80211_get_end_freq`.  From 20 MHz on these
are the same frequencies.  For 5 and 10 MHz the readers look at the control channel, which the
writer never comes to.
-/

namespace Iwlwifi

open Lib

/-! ## What the writer leaves -/

theorem find_setChannel {channels : List Channel} {freq other : UInt32} {write : Channel → Channel}
    (keeps : ∀ c, (write c).centerFreq = c.centerFreq) :
    (setChannel freq write channels).find? (fun c => c.centerFreq == other) =
      (channels.find? fun c => c.centerFreq == other).map
        fun c => if other = freq then write c else c := by
  induction channels with
  | nil => rfl
  | cons c rest ih =>
      rw [setChannel]
      by_cases here : c.centerFreq = freq
      · rw [if_pos (beq_iff_eq.mpr here), List.find?_cons, List.find?_cons, keeps, here]
        by_cases same : other = freq
        · simp [same]
        · have unlike : (freq == other) = false := beq_eq_false_iff_ne.mpr fun eq => same eq.symm
          simp only [unlike, if_neg same, Option.map_id']
      · rw [if_neg (by simpa using here), List.find?_cons, List.find?_cons]
        cases found : c.centerFreq == other with
        | false => exact ih
        | true =>
            have apart : other ≠ freq := fun eq => here ((beq_iff_eq.mp found).trans eq)
            simp [apart]

/-- The channel after the loop over a list of frequencies. -/
def Channel.marked (jiffies : Nat) (dfsState : Nl80211DfsState) (values : List UInt32)
    (freq : UInt32) (c : Channel) : Channel :=
  if freq ∈ values ∧ c.has ieee80211ChanRadar
  then { c with dfsState := dfsState, dfsStateEntered := jiffies } else c

theorem Channel.marked_nil {jiffies : Nat} {dfsState : Nl80211DfsState} {freq : UInt32} :
    Channel.marked jiffies dfsState [] freq = id := by
  funext c
  simp [Channel.marked]

theorem Channel.marked_of_ne {jiffies : Nat} {dfsState : Nl80211DfsState} {freq other : UInt32}
    (apart : other ≠ freq) : Channel.marked jiffies dfsState [freq] other = id := by
  funext c
  simp [Channel.marked, apart]

theorem Channel.marked_cons {jiffies : Nat} {dfsState : Nl80211DfsState} {i freq : UInt32}
    {rest : List UInt32} :
    Channel.marked jiffies dfsState rest freq ∘ Channel.marked jiffies dfsState [i] freq =
      Channel.marked jiffies dfsState (i :: rest) freq := by
  funext c
  simp only [Function.comp_apply]
  rcases eq_or_ne freq i with rfl | apart
  · by_cases radar : c.has ieee80211ChanRadar = true
    · simp only [Channel.marked, List.mem_cons, true_or, radar, and_self, if_true]
      split <;> rfl
    · simp [Channel.marked, radar]
  · rw [Channel.marked_of_ne apart, id_eq]
    simp [Channel.marked, apart]

section Writer

variable {jiffies : Nat} {dfsState : Nl80211DfsState} {wiphy : Wiphy} {values : List UInt32}
  {freq : UInt32}

/-- One turn of the loop. -/
theorem setDfsStateAt_spec (freq : UInt32) (wiphy : Wiphy) :
    ∃ after, setDfsStateAt jiffies dfsState freq wiphy = .ok after ∧
      ∀ other, after.getChannel other =
        (wiphy.getChannel other).map (Channel.marked jiffies dfsState [freq] other) := by
  rw [setDfsStateAt]
  cases found : wiphy.getChannel freq with
  | none =>
      refine ⟨wiphy, rfl, fun other => ?_⟩
      rcases eq_or_ne other freq with rfl | apart
      · rw [found, Option.map_none]
      · rw [Channel.marked_of_ne apart, Option.map_id_fun, id_eq]
  | some c =>
      simp only
      split
      · next radar =>
          refine ⟨_, rfl, fun other => ?_⟩
          have set := @find_setChannel wiphy.channels freq other
            (fun c => { c with dfsState := dfsState, dfsStateEntered := jiffies }) fun _ => rfl
          rcases eq_or_ne other freq with rfl | apart
          · have same : wiphy.channels.find? (fun c => c.centerFreq == other) = some c := found
            rw [same] at set
            rw [found]
            refine Eq.trans set ?_
            simp [Channel.marked, radar]
          · rw [Channel.marked_of_ne apart, Option.map_id_fun, id_eq]
            refine Eq.trans set ?_
            simp only [apart, if_false, Option.map_id_fun', id_eq, Wiphy.getChannel]
      · next plain =>
          refine ⟨wiphy, rfl, fun other => ?_⟩
          rcases eq_or_ne other freq with rfl | apart
          · rw [found]
            simp [Channel.marked, plain]
          · rw [Channel.marked_of_ne apart, Option.map_id_fun, id_eq]

theorem getChannel_runOver :
    (runOver (setDfsStateAt jiffies dfsState) values wiphy).2.getChannel freq =
      (wiphy.getChannel freq).map (Channel.marked jiffies dfsState values freq) := by
  induction values generalizing wiphy with
  | nil => rw [Channel.marked_nil, Option.map_id_fun, id_eq, runOver]
  | cons i rest ih =>
      obtain ⟨after, turn, marked⟩ := @setDfsStateAt_spec jiffies dfsState i wiphy
      simp only [runOver, turn]
      rw [ih, marked, Option.map_map, Channel.marked_cons]

end Writer

/-! ## What the readers see -/

/-- The existing radar channels among some frequencies are in a state. -/
def Wiphy.RadarIn (wiphy : Wiphy) (dfsState : Nl80211DfsState) (freqs : List UInt32) : Prop :=
  ∀ freq ∈ freqs, ∀ c, wiphy.getChannel freq = some c → c.has ieee80211ChanRadar →
    c.dfsState = dfsState

/-- A radar channel is among some frequencies. -/
def Wiphy.HasRadar (wiphy : Wiphy) (freqs : List UInt32) : Prop :=
  ∃ freq ∈ freqs, ∃ c, wiphy.getChannel freq = some c ∧ c.has ieee80211ChanRadar = true

section RadarIn

variable {wiphy : Wiphy} {dfsState : Nl80211DfsState} {freqs more : List UInt32}

theorem Wiphy.RadarIn.subset (radar : wiphy.RadarIn dfsState more) (sub : freqs ⊆ more) :
    wiphy.RadarIn dfsState freqs :=
  fun freq member => radar freq (sub member)

theorem Wiphy.RadarIn.append (left : wiphy.RadarIn dfsState freqs)
    (right : wiphy.RadarIn dfsState more) : wiphy.RadarIn dfsState (freqs ++ more) := by
  intro freq member
  rcases List.mem_append.mp member with before | after
  · exact left freq before
  · exact right freq after

end RadarIn

/-- The walks of the readers over the segments of a channel definition. -/
structure ReadersWalk (fuel : Nat) (chandef : ChanDef) (first second : List UInt32) : Prop where
  first : walk 20 (cfg80211GetEndFreq chandef.centerFreq1 chandef.getWidth) fuel
    (cfg80211GetStartFreq chandef.centerFreq1 chandef.getWidth) = some first
  second : chandef.centerFreq2 ≠ 0 →
    walk 20 (cfg80211GetEndFreq chandef.centerFreq2 chandef.getWidth) fuel
      (cfg80211GetStartFreq chandef.centerFreq2 chandef.getWidth) = some second

section Segment

variable {β : Type} {wiphy : Wiphy} {missing acc : β} {body : Channel → β → Except β β}
  {fuel : Nat} {center bandwidth : UInt32} {values : List UInt32}

/-- Over a walk that ends, a reader looks at frequencies of the walk. -/
theorem forChannels_visited
    (ends : walk 20 (cfg80211GetEndFreq center bandwidth) fuel
      (cfg80211GetStartFreq center bandwidth) = some values) :
    ∃ visited result,
      forChannels wiphy missing body fuel center bandwidth acc = some (visited, result) ∧
      visited ⊆ values :=
  ⟨_, _, forUpTo_of_walk ends, runOver_subset⟩

/-- Where a reader gives up at a channel of the walk, its result is one it gives up with. -/
theorem forChannels_leaves {P : β → Prop}
    (ends : walk 20 (cfg80211GetEndFreq center bandwidth) fuel
      (cfg80211GetStartFreq center bandwidth) = some values)
    (absent : P missing) (leaves : ∀ c acc result, body c acc = .error result → P result)
    (here : ∃ freq ∈ values, ∃ c, wiphy.getChannel freq = some c ∧
      ∀ acc, ∃ result, body c acc = .error result) :
    ∃ visited result,
      forChannels wiphy missing body fuel center bandwidth acc = some (visited, result) ∧
      P result := by
  obtain ⟨freq, member, c, found, here⟩ := here
  refine ⟨_, _, forUpTo_of_walk ends, runOver_leaves ?_ member ?_⟩
  · intro i acc result left
    rw [channelAt] at left
    split at left
    · cases left
      exact absent
    · next c _ => exact leaves c acc result left
  · intro acc
    simp only [channelAt, found]
    exact here acc

/-- A reader's result is what its body keeps, or one it gives up with at a channel of the
walk. -/
theorem forChannels_result {Q : β → Prop} {visited : List UInt32} {result : β}
    (ends : walk 20 (cfg80211GetEndFreq center bandwidth) fuel
      (cfg80211GetStartFreq center bandwidth) = some values)
    (start : Q acc) (keep : ∀ c acc acc', Q acc → body c acc = .ok acc' → Q acc')
    (run : forChannels wiphy missing body fuel center bandwidth acc = some (visited, result)) :
    Q result ∨ result = missing ∨ ∃ freq ∈ values, ∃ c acc',
      wiphy.getChannel freq = some c ∧ body c acc' = .error result := by
  have same := (forUpTo_of_walk ends).symm.trans run
  have kept := @runOver_result β (channelAt wiphy missing body) values acc Q ?_ start
  · rw [Option.some.inj same] at kept
    rcases kept with kept | ⟨i, member, acc', left⟩
    · exact Or.inl kept
    · rw [channelAt] at left
      split at left
      · exact Or.inr (Or.inl (Except.error.inj left).symm)
      · next c looked => exact Or.inr (Or.inr ⟨i, member, c, acc', looked, left⟩)
  · intro i acc acc' kept turn
    rw [channelAt] at turn
    split at turn
    · cases turn
    · next c _ => exact keep c acc acc' kept turn

end Segment

theorem centerFreq2_of_valid {chandef : ChanDef} (valid : cfg80211ChandefValid chandef = true) :
    chandef.width = .w80p80 ↔ chandef.centerFreq2 ≠ 0 := by
  obtain ⟨chan, width, center1, center2⟩ := chandef
  cases chan with
  | none => simp [cfg80211ChandefValid] at valid
  | some chan => cases width <;> simp_all [cfg80211ChandefValid]

/-- A reader returns, and every radar channel it has looked at is in a state. -/
def Wiphy.Reads {β : Type} (wiphy : Wiphy) (dfsState : Nl80211DfsState)
    (out : Option (List UInt32 × β)) : Prop :=
  ∃ visited result, out = some (visited, result) ∧ wiphy.RadarIn dfsState visited

section Readers

variable {wiphy : Wiphy} {chandef : ChanDef} {dfsState : Nl80211DfsState} {fuel : Nat}
  {first second : List UInt32}

variable (valid : cfg80211ChandefValid chandef = true)
  (walks : ReadersWalk fuel chandef first second) (inFirst : wiphy.RadarIn dfsState first)
  (inSecond : chandef.centerFreq2 ≠ 0 → wiphy.RadarIn dfsState second)

include valid walks inFirst inSecond

theorem dfsRequired_reads (iftype : Nl80211Iftype) :
    wiphy.Reads dfsState (cfg80211ChandefDfsRequired fuel wiphy chandef iftype) := by
  rw [cfg80211ChandefDfsRequired, valid]
  simp only [Bool.not_true, Bool.false_eq_true, if_false]
  split
  · exact ⟨[], 0, rfl, fun _ member => by cases member⟩
  · obtain ⟨visited, r1, run1, sub1⟩ :=
      @forChannels_visited Int wiphy (-22) 0 dfsRequiredAt _ _ _ _ walks.first
    simp only [getChansDfsRequired, run1, Option.bind_some]
    split
    · exact ⟨visited, _, rfl, inFirst.subset sub1⟩
    split
    · exact ⟨visited, _, rfl, inFirst.subset sub1⟩
    split
    · exact ⟨visited, _, rfl, inFirst.subset sub1⟩
    · next segment =>
        obtain ⟨more, r2, run2, sub2⟩ :=
          @forChannels_visited Int wiphy (-22) 0 dfsRequiredAt _ _ _ _ (walks.second segment)
        rw [run2]
        exact ⟨_, _, rfl, (inFirst.subset sub1).append ((inSecond segment).subset sub2)⟩

theorem dfsUsable_reads :
    wiphy.Reads dfsState (cfg80211ChandefDfsUsable fuel wiphy chandef) := by
  obtain ⟨visited, r1, run1, sub1⟩ :=
    @forChannels_visited Int wiphy (-22) 0 dfsUsableAt _ _ _ _ walks.first
  rw [cfg80211ChandefDfsUsable, valid]
  simp only [getChansDfsUsable, run1, Option.bind_some, Bool.not_true, Bool.false_eq_true,
    if_false]
  split
  · exact ⟨visited, _, rfl, inFirst.subset sub1⟩
  split
  · next pair =>
      have segment := (centerFreq2_of_valid valid).mp pair
      obtain ⟨more, r2, run2, sub2⟩ :=
        @forChannels_visited Int wiphy (-22) 0 dfsUsableAt _ _ _ _ (walks.second segment)
      rw [run2]
      exact ⟨_, _, rfl, (inFirst.subset sub1).append ((inSecond segment).subset sub2)⟩
  · exact ⟨visited, _, rfl, inFirst.subset sub1⟩

theorem dfsAvailable_reads :
    wiphy.Reads dfsState (cfg80211ChandefDfsAvailable fuel wiphy chandef) := by
  obtain ⟨visited, r1, run1, sub1⟩ :=
    @forChannels_visited Bool wiphy false true (dfsAvailableAt wiphy.dfsOffload) _ _ _ _ walks.first
  rw [cfg80211ChandefDfsAvailable, valid]
  simp only [getChansDfsAvailable, run1, Option.bind_some, Bool.not_true, Bool.false_eq_true,
    if_false]
  split
  · exact ⟨visited, _, rfl, inFirst.subset sub1⟩
  split
  · next pair =>
      have segment := (centerFreq2_of_valid valid).mp pair
      obtain ⟨more, r2, run2, sub2⟩ := @forChannels_visited Bool wiphy false true
        (dfsAvailableAt wiphy.dfsOffload) _ _ _ _ (walks.second segment)
      rw [run2]
      exact ⟨_, _, rfl, (inFirst.subset sub1).append ((inSecond segment).subset sub2)⟩
  · exact ⟨visited, _, rfl, inFirst.subset sub1⟩

theorem dfsCacTime_reads :
    wiphy.Reads dfsState (cfg80211ChandefDfsCacTime fuel wiphy chandef) := by
  obtain ⟨visited, r1, run1, sub1⟩ :=
    @forChannels_visited Nat wiphy 0 0 dfsCacTimeAt _ _ _ _ walks.first
  rw [cfg80211ChandefDfsCacTime, valid]
  simp only [getChansDfsCacTime, run1, Option.bind_some, Bool.not_true, Bool.false_eq_true,
    if_false]
  split
  · exact ⟨visited, _, rfl, inFirst.subset sub1⟩
  · next segment =>
      obtain ⟨more, r2, run2, sub2⟩ :=
        @forChannels_visited Nat wiphy 0 0 dfsCacTimeAt _ _ _ _ (walks.second segment)
      rw [run2]
      exact ⟨_, _, rfl, (inFirst.subset sub1).append ((inSecond segment).subset sub2)⟩

end Readers

/-! ## After a radar -/

section Blocked

variable {wiphy : Wiphy} {chandef : ChanDef} {fuel : Nat} {first second values : List UInt32}
  {center bandwidth prohibitedFlags : UInt32}

/-- What makes a reader give up at a radar channel of the walk. -/
theorem radar_leaves {β : Type} {body : Channel → β → Except β β}
    (radar : wiphy.HasRadar values) (state : wiphy.RadarIn .unavailable values)
    (gives : ∀ c acc, c.has ieee80211ChanRadar = true → c.dfsState = .unavailable →
      ∃ result, body c acc = .error result) :
    ∃ freq ∈ values, ∃ c, wiphy.getChannel freq = some c ∧
      ∀ acc, ∃ result, body c acc = .error result := by
  obtain ⟨freq, member, c, found, isRadar⟩ := radar
  exact ⟨freq, member, c, found, fun acc => gives c acc isRadar (state freq member c found isRadar)⟩

variable
  (ends : walk 20 (cfg80211GetEndFreq center bandwidth) fuel
    (cfg80211GetStartFreq center bandwidth) = some values)
  (radar : wiphy.HasRadar values) (state : wiphy.RadarIn .unavailable values)

include ends radar state

theorem getChansDfsUsable_blocked :
    ∃ visited r, getChansDfsUsable fuel wiphy center bandwidth = some (visited, r) ∧ r < 0 := by
  refine forChannels_leaves ends (by omega) ?_ (radar_leaves radar state ?_)
  · intro c acc result left
    rw [dfsUsableAt] at left
    split at left
    · cases left
      decide
    split at left
    · split at left
      · cases left
        decide
      · split at left <;> cases left
    · cases left
  · intro c acc isRadar unavailable
    rw [dfsUsableAt, if_pos isRadar, if_pos unavailable]
    exact ⟨-22, ite_self _⟩

theorem getChansDfsAvailable_blocked :
    ∃ visited, getChansDfsAvailable fuel wiphy center bandwidth = some (visited, false) := by
  have leaves : ∀ c acc result,
      dfsAvailableAt wiphy.dfsOffload c acc = .error result → result = false := by
    intro c acc result left
    rw [dfsAvailableAt] at left
    split at left
    · exact (Except.error.inj left).symm
    split at left
    · exact (Except.error.inj left).symm
    · cases left
  have gives : ∀ c acc, c.has ieee80211ChanRadar = true → c.dfsState = .unavailable →
      ∃ result, dfsAvailableAt wiphy.dfsOffload c acc = .error result := by
    intro c acc isRadar unavailable
    refine ⟨false, ?_⟩
    rw [dfsAvailableAt, isRadar, unavailable]
    exact ite_self _
  obtain ⟨visited, r, run, isFalse⟩ :=
    @forChannels_leaves Bool wiphy false true _ fuel center bandwidth values (· = false) ends rfl
      leaves (radar_leaves radar state gives)
  exact ⟨visited, isFalse ▸ run⟩

theorem secondaryChansOk_blocked
    (prohibited : ∀ c : Channel, c.has ieee80211ChanRadar = true → c.has prohibitedFlags = true) :
    cfg80211SecondaryChansOk fuel wiphy center bandwidth prohibitedFlags = some false := by
  have leaves : ∀ c acc result,
      secondaryChanOk prohibitedFlags c acc = .error result → result = false := by
    intro c acc result left
    rw [secondaryChanOk] at left
    split at left
    · exact (Except.error.inj left).symm
    · cases left
  have gives : ∀ c acc, c.has ieee80211ChanRadar = true → c.dfsState = .unavailable →
      ∃ result, secondaryChanOk prohibitedFlags c acc = .error result :=
    fun c acc isRadar _ => ⟨false, if_pos (prohibited c isRadar)⟩
  obtain ⟨visited, r, run, isFalse⟩ :=
    @forChannels_leaves Bool wiphy false true _ fuel center bandwidth values (· = false) ends rfl
      leaves (radar_leaves radar state gives)
  rw [cfg80211SecondaryChansOk, run, isFalse, Option.map_some]

end Blocked

/-! ## Flags -/

theorem Channel.has_or {c : Channel} {mask more : UInt32} (has : c.has mask = true) :
    c.has (mask ||| more) = true := by
  simp only [Channel.has, bne_iff_ne, ne_eq] at has ⊢
  intro zero
  apply has
  have distrib : c.flags &&& (mask ||| more) = c.flags &&& mask ||| c.flags &&& more :=
    UInt32.toBitVec_inj.mp (by simp [BitVec.and_or_distrib_left])
  rw [distrib, UInt32.or_eq_zero_iff] at zero
  exact zero.1

/-- The flags of a usable channel definition include the given ones. -/
theorem chandefUsableFlags_has {wiphy : Wiphy} {chandef : ChanDef} {chan c : Channel}
    {given flags : UInt32} (usable : chandefUsableFlags wiphy chandef chan given = some flags)
    (has : c.has given = true) : c.has flags = true := by
  have grows : flags = given ∨ ∃ more, flags = given ||| more := by
    rw [chandefUsableFlags] at usable
    split at usable <;> grind
  rcases grows with rfl | ⟨more, rfl⟩
  · exact has
  · exact Channel.has_or has

/-! ## A channel definition after a radar -/

/-- A segment of the channel definition has a radar channel. -/
def ChanDef.Radar (wiphy : Wiphy) (chandef : ChanDef) (first second : List UInt32) : Prop :=
  wiphy.HasRadar first ∨ (chandef.centerFreq2 ≠ 0 ∧ wiphy.HasRadar second)

section Radar

variable {wiphy : Wiphy} {chandef : ChanDef} {fuel : Nat} {first second : List UInt32}

theorem getChansDfsRequired_radar {center bandwidth : UInt32} {values visited : List UInt32}
    {ret : Int}
    (ends : walk 20 (cfg80211GetEndFreq center bandwidth) fuel
      (cfg80211GetStartFreq center bandwidth) = some values)
    (run : getChansDfsRequired fuel wiphy center bandwidth = some (visited, ret))
    (required : 0 < ret) : wiphy.HasRadar values := by
  have result := @forChannels_result Int wiphy (-22) 0 dfsRequiredAt _ _ _ _ (· = 0) _ _ ends rfl
    (fun c acc acc' zero turn => by
      rw [dfsRequiredAt] at turn
      split at turn
      · cases turn
      · exact (Except.ok.inj turn).symm.trans zero) run
  rcases result with zero | missing | ⟨freq, member, c, acc', found, left⟩
  · omega
  · omega
  · refine ⟨freq, member, c, found, ?_⟩
    rw [dfsRequiredAt] at left
    split at left
    · next isRadar => exact isRadar
    · cases left

variable (valid : cfg80211ChandefValid chandef = true)
  (walks : ReadersWalk fuel chandef first second)

include valid walks

/-- Only a channel definition with a radar channel requires DFS. -/
theorem radar_of_dfsRequired {iftype : Nl80211Iftype} {visited : List UInt32} {ret : Int}
    (run : cfg80211ChandefDfsRequired fuel wiphy chandef iftype = some (visited, ret))
    (required : 0 < ret) : chandef.Radar wiphy first second := by
  obtain ⟨visited1, r1, run1, -⟩ :=
    @forChannels_visited Int wiphy (-22) 0 dfsRequiredAt _ _ _ _ walks.first
  rw [cfg80211ChandefDfsRequired, valid] at run
  simp only [Bool.not_true, Bool.false_eq_true, if_false] at run
  split at run
  · cases run
    omega
  simp only [getChansDfsRequired, run1, Option.bind_some] at run
  split at run
  · cases run
    omega
  split at run
  · next positive => exact Or.inl (getChansDfsRequired_radar walks.first run1 positive)
  split at run
  · cases run
    omega
  · next segment =>
      obtain ⟨visited2, r2, run2, -⟩ :=
        @forChannels_visited Int wiphy (-22) 0 dfsRequiredAt _ _ _ _ (walks.second segment)
      rw [run2] at run
      simp only [Option.map_some, Option.some.injEq, Prod.mk.injEq] at run
      refine Or.inr ⟨segment, getChansDfsRequired_radar (walks.second segment) run2 ?_⟩
      split at run
      · omega
      · split at run <;> omega

variable (radar : chandef.Radar wiphy first second) (inFirst : wiphy.RadarIn .unavailable first)
  (inSecond : chandef.centerFreq2 ≠ 0 → wiphy.RadarIn .unavailable second)

include radar inFirst inSecond

theorem dfsUsable_blocked :
    ∃ visited, cfg80211ChandefDfsUsable fuel wiphy chandef = some (visited, false) := by
  obtain ⟨visited, r1, run1, -⟩ :=
    @forChannels_visited Int wiphy (-22) 0 dfsUsableAt _ _ _ _ walks.first
  rw [cfg80211ChandefDfsUsable, valid]
  simp only [Bool.not_true, Bool.false_eq_true, if_false]
  rcases radar with here | ⟨segment, there⟩
  · obtain ⟨visited, r, run, negative⟩ := getChansDfsUsable_blocked walks.first here inFirst
    refine ⟨visited, ?_⟩
    rw [run, Option.bind_some]
    exact if_pos negative
  · obtain ⟨more, r2, run2, negative⟩ :=
      getChansDfsUsable_blocked (walks.second segment) there (inSecond segment)
    simp only [getChansDfsUsable] at run2 ⊢
    simp only [run1, Option.bind_some, (centerFreq2_of_valid valid).mpr segment, if_true, run2,
      Option.map_some, if_pos negative]
    split
    · exact ⟨_, rfl⟩
    · exact ⟨_, rfl⟩

theorem dfsAvailable_blocked :
    ∃ visited, cfg80211ChandefDfsAvailable fuel wiphy chandef = some (visited, false) := by
  obtain ⟨visited, r1, run1, -⟩ :=
    @forChannels_visited Bool wiphy false true (dfsAvailableAt wiphy.dfsOffload) _ _ _ _ walks.first
  rw [cfg80211ChandefDfsAvailable, valid]
  simp only [Bool.not_true, Bool.false_eq_true, if_false]
  rcases radar with here | ⟨segment, there⟩
  · obtain ⟨visited, run⟩ := getChansDfsAvailable_blocked walks.first here inFirst
    refine ⟨visited, ?_⟩
    rw [run]
    rfl
  · obtain ⟨more, run2⟩ :=
      getChansDfsAvailable_blocked (walks.second segment) there (inSecond segment)
    simp only [getChansDfsAvailable] at run2 ⊢
    simp only [run1, Option.bind_some, (centerFreq2_of_valid valid).mpr segment, if_true, run2,
      Option.map_some]
    split
    · next no => exact ⟨visited, by rw [Bool.not_eq_true'] at no; rw [no]⟩
    · exact ⟨_, rfl⟩

theorem chandefUsable_blocked {prohibitedFlags : UInt32}
    (prohibited : ∀ c : Channel, c.has ieee80211ChanRadar = true → c.has prohibitedFlags = true) :
    cfg80211ChandefUsable fuel wiphy chandef prohibitedFlags = some false := by
  rw [cfg80211ChandefUsable, valid]
  simp only [Bool.not_true, Bool.false_eq_true, if_false]
  split
  · rfl
  · next flags usable =>
      obtain ⟨chan, -, usable⟩ := Option.bind_eq_some_iff.mp usable
      generalize wide : (if 20 < chandef.getWidth ∨ chandef.getWidth < 20
        then flags ||| ieee80211ChanNoOfdm else flags) = all
      have hits : ∀ c : Channel, c.has ieee80211ChanRadar = true → c.has all = true := by
        intro c isRadar
        have has := chandefUsableFlags_has usable (prohibited c isRadar)
        rw [← wide]
        split
        · exact Channel.has_or has
        · exact has
      rcases radar with here | ⟨segment, there⟩
      · rw [secondaryChansOk_blocked walks.first here inFirst hits]
        rfl
      · obtain ⟨visited, ok, run, -⟩ :=
          @forChannels_visited Bool wiphy false true (secondaryChanOk all) _ _ _ _ walks.first
        have first := congrArg (Option.map Prod.snd) run
        rw [Option.map_some] at first
        rw [cfg80211SecondaryChansOk, first, Option.bind_some, if_neg segment,
          secondaryChansOk_blocked (walks.second segment) there (inSecond segment) hits]
        exact ite_self _

theorem regCanBeacon_blocked (iftype : Nl80211Iftype) :
    cfg80211RegCanBeacon fuel wiphy chandef iftype = some false := by
  have prohibited : ∀ c : Channel, c.has ieee80211ChanRadar = true →
      c.has (ieee80211ChanDisabled ||| ieee80211ChanRadar ||| ieee80211ChanNoIr) = true := by
    intro c isRadar
    rw [UInt32.or_comm ieee80211ChanDisabled]
    exact Channel.has_or (Channel.has_or isRadar)
  have unusable := chandefUsable_blocked valid walks radar inFirst inSecond prohibited
  obtain ⟨visited, unavailable⟩ := dfsAvailable_blocked valid walks radar inFirst inSecond
  obtain ⟨_, required, run, -⟩ := @dfsRequired_reads wiphy chandef .unavailable fuel first second
    valid walks inFirst inSecond iftype
  simp only [cfg80211RegCanBeacon, run, unavailable, Option.bind_some, Bool.false_eq_true, if_false,
    unusable, ite_self]

end Radar

/-! ## The walks -/

/-- The counter of the writer's loop over a segment comes to a value beyond the last one. -/
def ChanDef.WriterEnds (chandef : ChanDef) (center : UInt32) : Prop :=
  ∃ turns, center + chandef.getWidth / 2 - 10 <
    counter 20 (center - chandef.getWidth / 2 + 10) turns

/-- The counter comes to a frequency before it is beyond the last one. -/
def ChanDef.WriterComesTo (chandef : ChanDef) (center freq : UInt32) : Prop :=
  ∃ turns, freq = counter 20 (center - chandef.getWidth / 2 + 10) turns ∧
    ∀ before ≤ turns, counter 20 (center - chandef.getWidth / 2 + 10) before ≤
      center + chandef.getWidth / 2 - 10

def ChanDef.Narrow (chandef : ChanDef) : Prop := chandef.width = .w5 ∨ chandef.width = .w10

instance (chandef : ChanDef) : Decidable chandef.Narrow := inferInstanceAs (Decidable (_ ∨ _))

section Walks

variable {chandef : ChanDef} {center : UInt32} {fuel : Nat} {values : List UInt32}

/-- From 20 MHz on the writer and the readers walk the same frequencies. -/
theorem bounds_of_wide (wide : ¬chandef.Narrow) :
    center - chandef.getWidth / 2 + 10 = cfg80211GetStartFreq center chandef.getWidth ∧
      center + chandef.getWidth / 2 - 10 = cfg80211GetEndFreq center chandef.getWidth := by
  have twenty : ∀ x : UInt32, x - 20 / 2 + 10 = x ∧ x + 20 / 2 - 10 = x := fun x => by
    constructor <;> apply UInt32.toNat_inj.mp <;> simp
  obtain ⟨chan, width, center1, center2⟩ := chandef
  cases width with
  | w5 => exact absurd (Or.inl rfl) wide
  | w10 => exact absurd (Or.inr rfl) wide
  | w20NoHt => exact twenty center
  | w20 => exact twenty center
  | w40 => exact ⟨rfl, rfl⟩
  | w80 => exact ⟨rfl, rfl⟩
  | w80p80 => exact ⟨rfl, rfl⟩
  | w160 => exact ⟨rfl, rfl⟩

theorem centerFreq2_of_narrow (valid : cfg80211ChandefValid chandef = true)
    (narrow : chandef.Narrow) : chandef.centerFreq2 = 0 := by
  by_contra segment
  have pair := (centerFreq2_of_valid valid).mpr segment
  rcases narrow with five | ten
  · cases five.symm.trans pair
  · cases ten.symm.trans pair

theorem getWidth_of_narrow (narrow : chandef.Narrow) : chandef.getWidth ≤ 20 := by
  rcases narrow with five | ten
  · rw [ChanDef.getWidth, five]
    decide
  · rw [ChanDef.getWidth, ten]
    decide

/-- The readers walk a narrow channel at its center, as long as the counter does not wrap. -/
theorem walk_of_narrow (narrow : chandef.Narrow) (low : center.toNat + 20 < 2 ^ 32) :
    walk 20 (cfg80211GetEndFreq center chandef.getWidth) 2
      (cfg80211GetStartFreq center chandef.getWidth) = some [center] := by
  have small := getWidth_of_narrow narrow
  have beyond : ¬center + 20 ≤ center := by
    rw [UInt32.le_iff_toNat_le, UInt32.toNat_add]
    have twenty : (20 : UInt32).toNat = 20 := rfl
    omega
  simp only [cfg80211GetEndFreq, cfg80211GetStartFreq, if_pos small, walk, UInt32.le_refl, if_true,
    if_neg beyond, Option.map_some]

end Walks

/-! ## Writer and readers -/

/-- The writer returns.  Afterwards the readers return, every existing radar channel they look at
is in the state that was written, and after a radar on a channel definition that requires DFS it
is neither usable nor available and no interface may beacon on it. -/
def DfsStateCovered (jiffies : Nat) (wiphy : Wiphy) (chandef : ChanDef)
    (dfsState : Nl80211DfsState) : Prop :=
  ∃ fuel after, cfg80211SetDfsState fuel jiffies wiphy chandef dfsState = some after ∧
    (∀ iftype, after.Reads dfsState (cfg80211ChandefDfsRequired fuel after chandef iftype)) ∧
    after.Reads dfsState (cfg80211ChandefDfsUsable fuel after chandef) ∧
    after.Reads dfsState (cfg80211ChandefDfsAvailable fuel after chandef) ∧
    after.Reads dfsState (cfg80211ChandefDfsCacTime fuel after chandef) ∧
    (dfsState = .unavailable → ∀ iftype visited required,
      cfg80211ChandefDfsRequired fuel after chandef iftype = some (visited, required) →
      0 < required →
      (∃ visited, cfg80211ChandefDfsUsable fuel after chandef = some (visited, false)) ∧
      (∃ visited, cfg80211ChandefDfsAvailable fuel after chandef = some (visited, false)) ∧
      ∀ iftype, iftype.beacons = true →
        cfg80211RegCanBeacon fuel after chandef iftype = some false)

section Covered

variable {jiffies fuel : Nat} {wiphy after : Wiphy} {chandef : ChanDef}
  {dfsState : Nl80211DfsState} {center : UInt32} {values first second : List UInt32}

/-- Once the readers' walks end in states that were written, everything follows. -/
theorem DfsStateCovered.of_walks (valid : cfg80211ChandefValid chandef = true)
    (run : cfg80211SetDfsState fuel jiffies wiphy chandef dfsState = some after)
    (walks : ReadersWalk fuel chandef first second) (inFirst : after.RadarIn dfsState first)
    (inSecond : chandef.centerFreq2 ≠ 0 → after.RadarIn dfsState second) :
    DfsStateCovered jiffies wiphy chandef dfsState := by
  refine ⟨fuel, after, run, dfsRequired_reads valid walks inFirst inSecond,
    dfsUsable_reads valid walks inFirst inSecond, dfsAvailable_reads valid walks inFirst inSecond,
    dfsCacTime_reads valid walks inFirst inSecond, ?_⟩
  rintro rfl iftype visited required runRequired positive
  have radar := radar_of_dfsRequired valid walks runRequired positive
  exact ⟨dfsUsable_blocked valid walks radar inFirst inSecond,
    dfsAvailable_blocked valid walks radar inFirst inSecond,
    fun iftype _ => regCanBeacon_blocked valid walks radar inFirst inSecond iftype⟩

theorem setChansDfsState_of_walk {bandwidth : UInt32}
    (ends : walk 20 (center + bandwidth / 2 - 10) fuel (center - bandwidth / 2 + 10) =
      some values) :
    setChansDfsState fuel jiffies center bandwidth dfsState wiphy =
      some (runOver (setDfsStateAt jiffies dfsState) values wiphy).2 := by
  rw [setChansDfsState, forUpTo_of_walk ends, Option.map_some]

theorem walk_of_setChansDfsState {bandwidth : UInt32}
    (run : setChansDfsState fuel jiffies center bandwidth dfsState wiphy = some after) :
    ∃ values, walk 20 (center + bandwidth / 2 - 10) fuel (center - bandwidth / 2 + 10) =
      some values := by
  obtain ⟨out, loop, -⟩ := Option.map_eq_some_iff.mp run
  refine walk_of_forUpTo (fun i acc => ?_) loop
  obtain ⟨next, turn, -⟩ := @setDfsStateAt_spec jiffies dfsState i acc
  exact ⟨next, turn⟩

/-- Frequencies that the writer has come to hold radar channels in its state only. -/
theorem radarIn_runOver {values : List UInt32} :
    (runOver (setDfsStateAt jiffies dfsState) values wiphy).2.RadarIn dfsState values := by
  intro freq member c found radar
  rw [getChannel_runOver] at found
  obtain ⟨before, -, rfl⟩ := Option.map_eq_some_iff.mp found
  rw [Channel.marked] at radar ⊢
  split
  · rfl
  · next unmarked =>
      rw [if_neg unmarked] at radar
      exact absurd ⟨member, radar⟩ unmarked

/-- The writer does not take radar channels out of its state. -/
theorem Wiphy.RadarIn.runOver (held : wiphy.RadarIn dfsState first) :
    (Lib.runOver (setDfsStateAt jiffies dfsState) values wiphy).2.RadarIn dfsState first := by
  intro freq member c found radar
  rw [getChannel_runOver] at found
  obtain ⟨before, foundBefore, rfl⟩ := Option.map_eq_some_iff.mp found
  rw [Channel.marked] at radar ⊢
  split
  · rfl
  · next unmarked =>
      rw [if_neg unmarked] at radar
      exact held freq member before foundBefore radar

/-- From 20 MHz on the readers look where the writer has written. -/
theorem dfsStateCovered_of_wide (valid : cfg80211ChandefValid chandef = true)
    (wide : ¬chandef.Narrow) (ends1 : chandef.WriterEnds chandef.centerFreq1)
    (ends2 : chandef.centerFreq2 ≠ 0 → chandef.WriterEnds chandef.centerFreq2) :
    DfsStateCovered jiffies wiphy chandef dfsState := by
  obtain ⟨fuel1, first, walk1⟩ := walk_ends_iff.mpr ends1
  have readers1 := walk1
  rw [(bounds_of_wide wide).1, (bounds_of_wide wide).2] at readers1
  by_cases segment : chandef.centerFreq2 = 0
  · have run : cfg80211SetDfsState fuel1 jiffies wiphy chandef dfsState =
        some (runOver (setDfsStateAt jiffies dfsState) first wiphy).2 := by
      simp only [cfg80211SetDfsState, valid, setChansDfsState_of_walk walk1, segment,
        Bool.not_true, Bool.false_eq_true, if_false, if_true, Option.bind_some]
    have walks : ReadersWalk fuel1 chandef first [] :=
      ⟨readers1, fun present => absurd segment present⟩
    exact .of_walks valid run walks radarIn_runOver fun present => absurd segment present
  · obtain ⟨fuel2, second, walk2⟩ := walk_ends_iff.mpr (ends2 segment)
    have readers2 := walk2
    rw [(bounds_of_wide wide).1, (bounds_of_wide wide).2] at readers2
    have more1 : fuel1 ≤ fuel1 + fuel2 := by omega
    have more2 : fuel2 ≤ fuel1 + fuel2 := by omega
    have run : cfg80211SetDfsState (fuel1 + fuel2) jiffies wiphy chandef dfsState =
        some (runOver (setDfsStateAt jiffies dfsState) second
          (runOver (setDfsStateAt jiffies dfsState) first wiphy).2).2 := by
      simp only [cfg80211SetDfsState, valid, setChansDfsState_of_walk (walk_mono walk1 more1),
        setChansDfsState_of_walk (walk_mono walk2 more2), segment, Bool.not_true,
        Bool.false_eq_true, if_false, Option.bind_some]
    have walks : ReadersWalk (fuel1 + fuel2) chandef first second :=
      ⟨walk_mono readers1 more1, fun _ => walk_mono readers2 more2⟩
    exact .of_walks valid run walks (Wiphy.RadarIn.runOver radarIn_runOver) fun _ => radarIn_runOver

/-- The first frequency that a reader looks at in a narrow channel is its center. -/
theorem dfsRequired_narrow (valid : cfg80211ChandefValid chandef = true)
    (narrow : chandef.Narrow) (more : 1 ≤ fuel) {c : Channel}
    (found : wiphy.getChannel chandef.centerFreq1 = some c)
    (radar : c.has ieee80211ChanRadar = true) :
    cfg80211ChandefDfsRequired fuel wiphy chandef .ap =
      some ([chandef.centerFreq1], chandef.width.bit) := by
  obtain ⟨fuel, rfl⟩ : ∃ n, fuel = n + 1 := ⟨fuel - 1, by omega⟩
  have run : getChansDfsRequired (fuel + 1) wiphy chandef.centerFreq1 chandef.getWidth =
      some ([chandef.centerFreq1], 1) := by
    simp only [getChansDfsRequired, forChannels, forUpTo, cfg80211GetStartFreq, cfg80211GetEndFreq,
      if_pos (getWidth_of_narrow narrow), UInt32.le_refl, if_true, channelAt, found, dfsRequiredAt,
      radar]
  simp [cfg80211ChandefDfsRequired, valid, Nl80211Iftype.beacons, run]

/-- For one segment the writer is one loop. -/
theorem cfg80211SetDfsState_single (valid : cfg80211ChandefValid chandef = true)
    (single : chandef.centerFreq2 = 0)
    (ends : walk 20 (chandef.centerFreq1 + chandef.getWidth / 2 - 10) fuel
      (chandef.centerFreq1 - chandef.getWidth / 2 + 10) = some values) :
    cfg80211SetDfsState fuel jiffies wiphy chandef dfsState =
      some (runOver (setDfsStateAt jiffies dfsState) values wiphy).2 := by
  simp only [cfg80211SetDfsState, valid, setChansDfsState_of_walk ends, single, Bool.not_true,
    Bool.false_eq_true, if_false, if_true, Option.bind_some]

/-- The control channel of a narrow channel definition is marked, or was in the state before. -/
theorem DfsStateCovered.control (covered : DfsStateCovered jiffies wiphy chandef dfsState)
    (valid : cfg80211ChandefValid chandef = true) (narrow : chandef.Narrow) {c : Channel}
    (found : wiphy.getChannel chandef.centerFreq1 = some c)
    (radar : c.has ieee80211ChanRadar = true) :
    chandef.WriterComesTo chandef.centerFreq1 chandef.centerFreq1 ∨ c.dfsState = dfsState := by
  obtain ⟨fuel, after, run, required, -⟩ := covered
  have single := centerFreq2_of_narrow valid narrow
  obtain ⟨values, ends⟩ : ∃ values, walk 20 (chandef.centerFreq1 + chandef.getWidth / 2 - 10) fuel
      (chandef.centerFreq1 - chandef.getWidth / 2 + 10) = some values := by
    rw [cfg80211SetDfsState, valid] at run
    obtain ⟨middle, run, -⟩ := Option.bind_eq_some_iff.mp run
    exact walk_of_setChansDfsState run
  have more : 1 ≤ fuel := by
    by_contra none
    obtain rfl : fuel = 0 := by omega
    cases ends
  obtain rfl := Option.some.inj ((cfg80211SetDfsState_single valid single ends).symm.trans run)
  by_cases come : chandef.centerFreq1 ∈ values
  · exact .inl (counter_of_mem_walk ends come)
  · -- the channel is as it was
    have kept : (runOver (setDfsStateAt jiffies dfsState) values wiphy).2.getChannel
        chandef.centerFreq1 = some c := by
      rw [getChannel_runOver, found, Option.map_some, Channel.marked,
        if_neg fun both => come both.1]
    obtain ⟨visited, result, reads, inState⟩ := required .ap
    rw [dfsRequired_narrow valid narrow more kept radar] at reads
    cases reads
    exact .inr (inState _ (List.mem_singleton_self _) c kept radar)

/-- A narrow channel definition is covered if its control channel is. -/
theorem dfsStateCovered_of_narrow (valid : cfg80211ChandefValid chandef = true)
    (narrow : chandef.Narrow) (low : chandef.centerFreq1.toNat + 20 < 2 ^ 32)
    (ends : chandef.WriterEnds chandef.centerFreq1)
    (marked : ∀ c, wiphy.getChannel chandef.centerFreq1 = some c → c.has ieee80211ChanRadar →
      chandef.WriterComesTo chandef.centerFreq1 chandef.centerFreq1 ∨ c.dfsState = dfsState) :
    DfsStateCovered jiffies wiphy chandef dfsState := by
  obtain ⟨fuel, values, ends⟩ := walk_ends_iff.mpr ends
  have single := centerFreq2_of_narrow valid narrow
  have walks : ReadersWalk (fuel + 2) chandef [chandef.centerFreq1] [] :=
    ⟨walk_mono (walk_of_narrow narrow low) (Nat.le_add_left 2 fuel),
      fun present => absurd single present⟩
  refine .of_walks valid
    (cfg80211SetDfsState_single valid single (walk_mono ends (Nat.le_add_right fuel 2)))
    walks ?_ fun present => absurd single present
  intro freq member c found radar
  rw [List.mem_singleton.mp member, getChannel_runOver] at found
  obtain ⟨before, was, rfl⟩ := Option.map_eq_some_iff.mp found
  rw [Channel.marked] at radar ⊢
  split
  · rfl
  · next unmarked =>
      rw [if_neg unmarked] at radar
      obtain ⟨turns, is, inside⟩ | state := marked before was radar
      · exact absurd ⟨is ▸ mem_walk_of_counter ends inside, radar⟩ unmarked
      · exact state

end Covered

/-- The writer covers what the readers look at exactly if its loops end and, for 5 and 10 MHz,
the control channel is no radar channel, in the state already, or come to by a counter that wraps
around.  For these two widths the readers' counter is taken not to wrap. -/
theorem dfsStateCovered_iff (jiffies : Nat) (wiphy : Wiphy) (chandef : ChanDef)
    (dfsState : Nl80211DfsState) (valid : cfg80211ChandefValid chandef = true)
    (control : chandef.Narrow → chandef.centerFreq1.toNat + 20 < 2 ^ 32) :
    DfsStateCovered jiffies wiphy chandef dfsState ↔
      chandef.WriterEnds chandef.centerFreq1 ∧
      (chandef.centerFreq2 ≠ 0 → chandef.WriterEnds chandef.centerFreq2) ∧
      (chandef.Narrow → ∀ c, wiphy.getChannel chandef.centerFreq1 = some c →
        c.has ieee80211ChanRadar →
          chandef.WriterComesTo chandef.centerFreq1 chandef.centerFreq1 ∨
            c.dfsState = dfsState) := by
  constructor
  · intro covered
    obtain ⟨fuel, after, run, -⟩ := id covered
    rw [cfg80211SetDfsState, valid] at run
    simp only [Bool.not_true, Bool.false_eq_true, if_false] at run
    obtain ⟨middle, run1, run2⟩ := Option.bind_eq_some_iff.mp run
    obtain ⟨first, walk1⟩ := walk_of_setChansDfsState run1
    refine ⟨walk_ends_iff.mp ⟨fuel, first, walk1⟩, ?_, ?_⟩
    · intro segment
      rw [if_neg segment] at run2
      obtain ⟨second, walk2⟩ := walk_of_setChansDfsState run2
      exact walk_ends_iff.mp ⟨fuel, second, walk2⟩
    · intro narrow c found radar
      exact covered.control valid narrow found radar
  · rintro ⟨ends1, ends2, marked⟩
    by_cases narrow : chandef.Narrow
    · exact dfsStateCovered_of_narrow valid narrow (control narrow) ends1 (marked narrow)
    · exact dfsStateCovered_of_wide valid narrow ends1 ends2

/-- Two segments of 80 MHz, and the first channel of each. -/
def pairWiphy : Wiphy :=
  ⟨[⟨1, 5260, ieee80211ChanRadar, .available, 0, 60000⟩,
    ⟨1, 5500, ieee80211ChanRadar, .available, 0, 60000⟩], fun _ => ⟨true, 0, true, 8⟩, false⟩

def pairChandef : ChanDef :=
  ⟨some ⟨1, 5260, ieee80211ChanRadar, .available, 0, 60000⟩, .w80p80, 5290, 5530⟩

theorem dfsStateCovered_iff_pair :
    DfsStateCovered 0 pairWiphy pairChandef .unavailable ↔
      pairChandef.WriterEnds 5290 ∧ ((5530 : UInt32) ≠ 0 → pairChandef.WriterEnds 5530) ∧
      (pairChandef.Narrow → ∀ c, pairWiphy.getChannel 5290 = some c →
        c.has ieee80211ChanRadar →
          pairChandef.WriterComesTo 5290 5290 ∨ c.dfsState = .unavailable) :=
  dfsStateCovered_iff 0 pairWiphy pairChandef .unavailable (by decide)
    fun narrow => absurd narrow (by decide)

/-! ## A 5 MHz channel after a radar -/

def dfsChannel : Channel := ⟨1, 5260, ieee80211ChanRadar, .available, 0, 60000⟩

def dfsWiphy : Wiphy := ⟨[dfsChannel], fun _ => ⟨true, 0, true, 0⟩, false⟩

def fiveMhzChandef : ChanDef := ⟨some dfsChannel, .w5, 5260, 0⟩

/-- The writer has returned and the channel is as available as before. -/
theorem not_dfsStateCovered : ¬DfsStateCovered 0 dfsWiphy fiveMhzChandef .unavailable := by
  intro covered
  have found : dfsWiphy.getChannel 5260 = some dfsChannel := by decide
  obtain ⟨turns, -, inside⟩ | unwritten :=
    covered.control (by decide) (Or.inl rfl) found (by decide)
  · exact absurd (inside 0 (Nat.zero_le turns)) (by decide)
  · cases unwritten

end Iwlwifi
