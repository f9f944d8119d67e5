import Mathlib.Data.List.Dedup
import Iwlwifi.Lib.Run
import Iwlwifi.Fw.PhyDb

/-!
# What is sent of the PHY database

After a run of `iwl_phy_db_set_section` the database holds the last result of each section (`Kept`).
The number of groups is an `int` that starts at -1, and is handed on as one byte: if there is no
group of a type, 255 groups are asked for and the first one fails, and of more than 255 groups some
are left out.
-/

namespace Iwlwifi.PhyCalib

open Lib

/-! ## Sections -/

/-- What one call sets: a section, and of which group. -/
structure Section where
  type : SectionType
  chgId : Nat
deriving DecidableEq, Repr

namespace SetCall

variable (call : SetCall)

def sect : Option Section :=
  (SectionType.ofCode call.notif.type).map fun type =>
    ⟨type, if type.isGroup then call.notif.chgId else 0⟩

def entry : Entry := ⟨call.notif.length, some call.notif.payload⟩

end SetCall

/-- The sections that were set. -/
def storedSections (calls : List SetCall) : List Section := (calls.filterMap SetCall.sect).dedup

/-- What the last call set a section to. -/
def lastEntry (calls : List SetCall) (sec : Section) : Entry :=
  ((calls.reverse.find? fun call => call.sect = some sec).map SetCall.entry).getD {}

/-- The command that sends a section with the data of its last call. -/
def lastCmd (calls : List SetCall) (sec : Section) : PhyDbCmd :=
  (lastEntry calls sec).cmd sec.type

def setStep (phyDb : PhyDb) (call : SetCall) : PhyDb := (iwlPhyDbSetSection phyDb call).2

def SetSucceeds (phyDb : PhyDb) (call : SetCall) : Prop := (iwlPhyDbSetSection phyDb call).1 = 0

instance (phyDb : PhyDb) : DecidablePred (SetSucceeds phyDb) :=
  fun _ => inferInstanceAs (Decidable (_ = _))

/-- Sending succeeds, and every section is sent once with the data of its last call. -/
structure SendsAll (send : PhyDbCmd → Int) (calls : List SetCall) (phyDb : PhyDb) : Prop where
  returns : (iwlSendPhyDbData send phyDb).1 = 0
  once : (iwlSendPhyDbData send phyDb).2.Perm ((storedSections calls).map (lastCmd calls))

/-- There are groups of the type, all with data, and their number fits into a byte. -/
structure GroupsFit (calls : List SetCall) (type : SectionType) : Prop where
  present : ∃ sec ∈ storedSections calls, sec.type = type
  few : ∀ sec ∈ storedSections calls, sec.type = type → sec.chgId < 255
  filled : ∀ sec ∈ storedSections calls, sec.type = type → (lastEntry calls sec).size ≠ 0

instance (calls : List SetCall) : DecidablePred (GroupsFit calls) := fun type =>
  decidable_of_iff
    ((∃ sec ∈ storedSections calls, sec.type = type) ∧
      (∀ sec ∈ storedSections calls, sec.type = type → sec.chgId < 255) ∧
      ∀ sec ∈ storedSections calls, sec.type = type → (lastEntry calls sec).size ≠ 0)
    ⟨fun all => ⟨all.1, all.2.1, all.2.2⟩, fun fit => ⟨fit.present, fit.few, fit.filled⟩⟩

/-! ## One more call -/

variable {calls : List SetCall} {call : SetCall} {sec : Section} {type : SectionType}

theorem mem_storedSections :
    sec ∈ storedSections calls ↔ ∃ call ∈ calls, call.sect = some sec := by
  rw [storedSections, List.mem_dedup, List.mem_filterMap]

theorem mem_storedSections_append :
    sec ∈ storedSections (calls ++ [call]) ↔
      sec ∈ storedSections calls ∨ call.sect = some sec := by
  simp only [mem_storedSections, List.mem_append, List.mem_singleton, or_and_right, exists_or,
    exists_eq_left]

theorem lastEntry_of_not_mem (absent : sec ∉ storedSections calls) :
    lastEntry calls sec = {} := by
  have none : calls.reverse.find? (fun call => call.sect = some sec) = none := by
    refine List.find?_eq_none.mpr fun call member own => absent ?_
    exact mem_storedSections.mpr ⟨call, List.mem_reverse.mp member, of_decide_eq_true own⟩
  rw [lastEntry, none]
  rfl

theorem lastEntry_append_self (own : call.sect = some sec) :
    lastEntry (calls ++ [call]) sec = call.entry := by
  rw [lastEntry, List.reverse_concat, List.find?_cons_of_pos (by simpa using own)]
  rfl

theorem lastEntry_append_other (other : call.sect ≠ some sec) :
    lastEntry (calls ++ [call]) sec = lastEntry calls sec := by
  rw [lastEntry, List.reverse_concat, List.find?_cons_of_neg (by simpa using other)]
  rfl

/-! ## What the database holds -/

/-- The array of a type goes up to its largest group, and holds the last entry of each. -/
inductive GroupsKept (calls : List SetCall) (type : SectionType) : Groups → Prop
  | unset (absent : ∀ chgId, ⟨type, chgId⟩ ∉ storedSections calls) : GroupsKept calls type {}
  | upTo (largest : Nat) (entries : List Entry) (length : entries.length = largest + 1)
      (holds : ∀ i ≤ largest, entries[i]? = some (lastEntry calls ⟨type, i⟩))
      (stored : ⟨type, largest⟩ ∈ storedSections calls)
      (bound : ∀ chgId, ⟨type, chgId⟩ ∈ storedSections calls → chgId ≤ largest) :
      GroupsKept calls type ⟨largest + 1, some entries⟩

structure Kept (calls : List SetCall) (phyDb : PhyDb) : Prop where
  cfg : phyDb.cfg = lastEntry calls ⟨.cfg, 0⟩
  calibNch : phyDb.calibNch = lastEntry calls ⟨.calibNch, 0⟩
  papd : GroupsKept calls .calibChgPapd phyDb.papd
  txp : GroupsKept calls .calibChgTxp phyDb.txp
  proper : ∀ sec ∈ storedSections calls,
    sec.type ≠ .unused ∧ (sec.type.isGroup = false → sec.chgId = 0)

variable {groups groups' : Groups} {chgId : Nat}

/-- A call for another type leaves the groups of a type as they are. -/
theorem GroupsKept.other (kept : GroupsKept calls type groups)
    (other : ∀ chgId, call.sect ≠ some ⟨type, chgId⟩) :
    GroupsKept (calls ++ [call]) type groups := by
  have stored : ∀ chgId, ⟨type, chgId⟩ ∈ storedSections (calls ++ [call]) ↔
      ⟨type, chgId⟩ ∈ storedSections calls := fun chgId => by
    rw [mem_storedSections_append, or_iff_left (other chgId)]
  cases kept with
  | unset absent => exact .unset fun chgId member => absent chgId ((stored chgId).mp member)
  | upTo largest entries length holds last bound =>
    refine .upTo largest entries length (fun i within => ?_) ((stored largest).mpr last)
      fun chgId member => bound chgId ((stored chgId).mp member)
    rw [lastEntry_append_other (other i)]
    exact holds i within

/-- A call for a group writes its entry; it succeeds only up to the largest group. -/
theorem GroupsKept.put {memory : Bool} {was : Entry} (kept : GroupsKept calls type groups)
    (own : call.sect = some ⟨type, chgId⟩) (alloc : groups.alloc chgId memory = some groups')
    (got : groups'.get chgId = some was) :
    GroupsKept (calls ++ [call]) type (groups'.set chgId call.entry) := by
  have entry : ∀ i, lastEntry (calls ++ [call]) ⟨type, i⟩ =
      if i = chgId then call.entry else lastEntry calls ⟨type, i⟩ := by
    intro i
    split
    · next same => exact lastEntry_append_self (same ▸ own)
    · next other =>
        refine lastEntry_append_other fun same => other ?_
        exact congrArg Section.chgId (Option.some.inj (same.symm.trans own))
  have stored : ∀ i, ⟨type, i⟩ ∈ storedSections (calls ++ [call]) →
      ⟨type, i⟩ ∈ storedSections calls ∨ i = chgId := by
    intro i member
    refine (mem_storedSections_append.mp member).imp_right fun same => ?_
    exact congrArg Section.chgId (Option.some.inj (same.symm.trans own))
  cases kept with
  | unset absent =>
    have first : groups' = ⟨chgId + 1, some (List.replicate (chgId + 1) {})⟩ := by
      simp only [Groups.alloc, Option.isSome_none, Bool.false_eq_true, if_false] at alloc
      split at alloc
      · exact (Option.some.inj alloc).symm
      · cases alloc
    rw [first]
    refine .upTo chgId _ ?_ (fun i within => ?_)
      (mem_storedSections_append.mpr (.inr own)) fun i member => ?_
    · rw [List.length_set, List.length_replicate]
    · rw [entry, List.getElem?_set, List.length_replicate]
      by_cases same : i = chgId
      · rw [if_pos same.symm, if_pos (by omega), if_pos same]
      · rw [if_neg (Ne.symm same), if_neg same, lastEntry_of_not_mem (absent i),
          List.getElem?_replicate, if_pos (by omega)]
    · rcases stored i member with before | same
      · exact absurd before (absent i)
      · exact Nat.le_of_eq same
  | upTo largest entries length holds last bound =>
    have same : groups' = ⟨largest + 1, some entries⟩ := by
      simp only [Groups.alloc, Option.isSome_some, if_true] at alloc
      exact (Option.some.inj alloc).symm
    rw [same] at got ⊢
    have inside : chgId ≤ largest := by
      by_contra beyond
      have beyond : (chgId : Int) ≥ (largest : Int) + 1 := by omega
      rw [Groups.get, if_pos beyond] at got
      cases got
    refine .upTo largest _ ?_ (fun i within => ?_)
      (mem_storedSections_append.mpr (.inl last)) fun i member => ?_
    · rw [List.length_set, length]
    · rw [entry, List.getElem?_set, length]
      by_cases same : i = chgId
      · rw [if_pos same.symm, if_pos (by omega), if_pos same]
      · rw [if_neg (Ne.symm same), if_neg same, holds i within]
    · rcases stored i member with before | same
      · exact bound i before
      · exact same ▸ inside

theorem kept_init : Kept [] {} :=
  ⟨rfl, rfl, .unset fun _ => List.not_mem_nil, .unset fun _ => List.not_mem_nil,
    List.forall_mem_nil _⟩

/-- What a call that succeeds does. -/
theorem set_of_succeeds {phyDb : PhyDb} (succeeds : SetSucceeds phyDb call) :
    ∃ type chgId between was,
      call.sect = some ⟨type, chgId⟩ ∧ (type.isGroup = false → chgId = 0) ∧
      phyDb.allocGroups type chgId call.groupMemory = some between ∧
      between.getSection type chgId = some was ∧
      setStep phyDb call = between.putSection type chgId call.entry := by
  unfold SetSucceeds setStep iwlPhyDbSetSection at *
  cases known : SectionType.ofCode call.notif.type with
  | none =>
    rw [known] at succeeds
    cases succeeds
  | some type =>
    rw [known] at succeeds
    dsimp only at succeeds ⊢
    generalize group : (if type.isGroup then call.notif.chgId else 0) = chgId at succeeds ⊢
    cases alloc : phyDb.allocGroups type chgId call.groupMemory with
    | none =>
      rw [alloc] at succeeds
      cases succeeds
    | some between =>
      rw [alloc] at succeeds
      dsimp only at succeeds ⊢
      cases got : between.getSection type chgId with
      | none =>
        rw [got] at succeeds
        cases succeeds
      | some was =>
        rw [got] at succeeds
        dsimp only at succeeds ⊢
        split at succeeds
        · next memory =>
            refine ⟨type, chgId, between, was, ?_, fun single => ?_, alloc, got, ?_⟩
            · rw [SetCall.sect, known, ← group]
              rfl
            · rw [← group, single]
              rfl
            · rw [if_pos memory]
              rfl
        · cases succeeds

theorem Kept.step {phyDb : PhyDb} (kept : Kept calls phyDb) (succeeds : SetSucceeds phyDb call) :
    Kept (calls ++ [call]) (setStep phyDb call) := by
  obtain ⟨type, chgId, between, was, own, single, alloc, got, result⟩ := set_of_succeeds succeeds
  have other : ∀ type', type' ≠ type → ∀ i, call.sect ≠ some ⟨type', i⟩ := by
    intro type' differs i same
    exact differs (congrArg Section.type (Option.some.inj (same.symm.trans own)))
  have entry : ∀ type', type' ≠ type → ∀ i,
      lastEntry (calls ++ [call]) ⟨type', i⟩ = lastEntry calls ⟨type', i⟩ :=
    fun type' differs i => lastEntry_append_other (other type' differs i)
  have proper : ∀ sec ∈ storedSections (calls ++ [call]),
      sec.type ≠ .unused ∧ (sec.type.isGroup = false → sec.chgId = 0) := by
    intro sec member
    rcases mem_storedSections_append.mp member with before | same
    · exact kept.proper sec before
    · obtain rfl := Option.some.inj (own.symm.trans same)
      refine ⟨fun unused => ?_, single⟩
      obtain rfl : type = .unused := unused
      cases got
  rw [result]
  cases type with
  | cfg =>
    obtain rfl := Option.some.inj alloc
    obtain rfl := single rfl
    refine ⟨(lastEntry_append_self own).symm, ?_, ?_, ?_, proper⟩
    · exact kept.calibNch.trans (entry .calibNch (by decide) 0).symm
    · exact kept.papd.other (other .calibChgPapd (by decide))
    · exact kept.txp.other (other .calibChgTxp (by decide))
  | calibNch =>
    obtain rfl := Option.some.inj alloc
    obtain rfl := single rfl
    refine ⟨?_, (lastEntry_append_self own).symm, ?_, ?_, proper⟩
    · exact kept.cfg.trans (entry .cfg (by decide) 0).symm
    · exact kept.papd.other (other .calibChgPapd (by decide))
    · exact kept.txp.other (other .calibChgTxp (by decide))
  | unused => cases got
  | calibChgPapd =>
    obtain ⟨papd, allocPapd, rfl⟩ := Option.map_eq_some_iff.mp alloc
    refine ⟨?_, ?_, kept.papd.put own allocPapd got, ?_, proper⟩
    · exact kept.cfg.trans (entry .cfg (by decide) 0).symm
    · exact kept.calibNch.trans (entry .calibNch (by decide) 0).symm
    · exact kept.txp.other (other .calibChgTxp (by decide))
  | calibChgTxp =>
    obtain ⟨txp, allocTxp, rfl⟩ := Option.map_eq_some_iff.mp alloc
    refine ⟨?_, ?_, ?_, kept.txp.put own allocTxp got, proper⟩
    · exact kept.cfg.trans (entry .cfg (by decide) 0).symm
    · exact kept.calibNch.trans (entry .calibNch (by decide) 0).symm
    · exact kept.papd.other (other .calibChgPapd (by decide))

/-- After calls that all succeed the database holds the last entry of each section. -/
theorem kept_run (succeed : Admissible setStep SetSucceeds {} calls) :
    Kept calls (calls.foldl setStep {}) := by
  have all : ∀ (before more : List SetCall) (phyDb : PhyDb), Kept before phyDb →
      Admissible setStep SetSucceeds phyDb more →
        Kept (before ++ more) (more.foldl setStep phyDb) := by
    intro before more
    induction more generalizing before with
    | nil =>
      intro phyDb kept _
      rwa [List.append_nil]
    | cons call rest ih =>
      intro phyDb kept succeed
      have := ih (before ++ [call]) (setStep phyDb call) (kept.step succeed.1) succeed.2
      rwa [List.append_assoc, List.singleton_append] at this
  exact all [] calls {} kept_init succeed

/-! ## Sending -/

/-- The groups among these that have data. -/
def filledGroups (calls : List SetCall) (type : SectionType) (groups : List Nat) : List Nat :=
  groups.filter fun i => (lastEntry calls ⟨type, i⟩).size ≠ 0

/-- The groups among these that were set. -/
def setGroups (calls : List SetCall) (type : SectionType) (groups : List Nat) : List Nat :=
  groups.filter fun i => ⟨type, i⟩ ∈ storedSections calls

variable {send : PhyDbCmd → Int} {phyDb : PhyDb}

/-- The loop sends the groups that have data. -/
theorem sendGroups_eq (succeeds : ∀ cmd, send cmd = 0) {indices : List Nat}
    (got : ∀ i ∈ indices, phyDb.getSection type i = some (lastEntry calls ⟨type, i⟩))
    (sent : List PhyDbCmd) :
    sendGroups send phyDb type indices sent =
      (0, sent ++ (filledGroups calls type indices).map fun i => lastCmd calls ⟨type, i⟩) := by
  induction indices generalizing sent with
  | nil => rw [filledGroups, List.filter_nil, List.map_nil, List.append_nil, sendGroups]
  | cons i rest ih =>
    have ih := ih fun j member => got j (List.mem_cons_of_mem i member)
    rw [sendGroups, got i List.mem_cons_self]
    by_cases empty : (lastEntry calls ⟨type, i⟩).size = 0
    · simp only [empty, if_true, ih, filledGroups, ne_eq, not_true_eq_false, decide_false,
        Bool.false_eq_true, not_false_eq_true, List.filter_cons_of_neg]
    · simp only [empty, if_false, succeeds, ne_eq, not_true_eq_false, ih, filledGroups,
        not_false_eq_true, decide_true, List.filter_cons_of_pos, List.map_cons, List.append_assoc,
        List.singleton_append, lastCmd]

theorem toNat_nGroup (largest : Nat) :
    (UInt8.ofInt ((largest : Int) + 1)).toNat = (largest + 1) % 2 ^ 8 := by
  rw [← Int.natCast_add_one]
  exact UInt8.toNat_ofNat'.trans (by omega)

/-- The groups that are sent, and all that were set. -/
theorem filledGroups_sublist (calls : List SetCall) (type : SectionType) (largest : Nat) :
    (filledGroups calls type (List.range ((largest + 1) % 2 ^ 8))).Sublist
      (setGroups calls type (List.range (largest + 1))) := by
  have fewer : (List.range ((largest + 1) % 2 ^ 8)).Sublist (List.range (largest + 1)) :=
    List.range_sublist.mpr (Nat.mod_le _ _)
  refine (fewer.filter _).trans (List.monotone_filter_right _ fun i filled => ?_)
  by_contra absent
  rw [lastEntry_of_not_mem fun member => absent (decide_eq_true member)] at filled
  exact absurd filled (by decide)

/-- All groups that were set are sent exactly if they fit. -/
theorem groupsFit_iff {largest : Nat} (stored : ⟨type, largest⟩ ∈ storedSections calls)
    (bound : ∀ chgId, ⟨type, chgId⟩ ∈ storedSections calls → chgId ≤ largest) :
    GroupsFit calls type ↔
      (setGroups calls type (List.range (largest + 1))).length ≤
        (filledGroups calls type (List.range ((largest + 1) % 2 ^ 8))).length := by
  have member : ∀ chgId, ⟨type, chgId⟩ ∈ storedSections calls →
      chgId ∈ setGroups calls type (List.range (largest + 1)) := fun chgId here =>
    List.mem_filter.mpr ⟨List.mem_range.mpr (Nat.lt_succ_of_le (bound chgId here)),
      decide_eq_true here⟩
  constructor
  · intro fit
    have few : largest < 255 := fit.few _ stored rfl
    have count : (largest + 1) % 2 ^ 8 = largest + 1 := Nat.mod_eq_of_lt (by omega)
    rw [count]
    refine Nat.le_of_eq (congrArg List.length (List.filter_congr fun i _ => ?_))
    refine decide_eq_decide.mpr ⟨fun here => fit.filled _ here rfl, fun filled => ?_⟩
    by_contra absent
    rw [lastEntry_of_not_mem absent] at filled
    exact filled rfl
  · intro all
    have same := (filledGroups_sublist calls type largest).eq_of_length_le all
    have sent : ∀ chgId, ⟨type, chgId⟩ ∈ storedSections calls →
        chgId < (largest + 1) % 2 ^ 8 ∧ (lastEntry calls ⟨type, chgId⟩).size ≠ 0 := by
      intro chgId here
      have here := member chgId here
      rw [← same] at here
      obtain ⟨inside, filled⟩ := List.mem_filter.mp here
      exact ⟨List.mem_range.mp inside, of_decide_eq_true filled⟩
    refine ⟨⟨_, stored, rfl⟩, ?_, ?_⟩
    · rintro ⟨_, chgId⟩ here rfl
      have first := (sent largest stored).1
      have := bound chgId here
      change chgId < 255
      omega
    · rintro ⟨_, chgId⟩ here rfl
      exact (sent chgId here).2

/-- The groups of a type that were set, up to some index, as sections. -/
def groupSections (calls : List SetCall) (type : SectionType) (largest : Nat) : List Section :=
  (setGroups calls type (List.range (largest + 1))).map (Section.mk type)

theorem nodup_groupSections (type : SectionType) (largest : Nat) :
    (groupSections calls type largest).Nodup :=
  (List.nodup_range.filter _).map fun _ _ same => congrArg Section.chgId same

theorem mem_groupSections {type : SectionType} {largest : Nat} {sec : Section} :
    sec ∈ groupSections calls type largest ↔
      sec.type = type ∧ sec.chgId ≤ largest ∧ sec ∈ storedSections calls := by
  rw [groupSections, List.mem_map]
  constructor
  · rintro ⟨i, here, rfl⟩
    obtain ⟨inside, stored⟩ := List.mem_filter.mp here
    exact ⟨rfl, Nat.le_of_lt_succ (List.mem_range.mp inside), of_decide_eq_true stored⟩
  · rintro ⟨rfl, inside, stored⟩
    exact ⟨sec.chgId, List.mem_filter.mpr
      ⟨List.mem_range.mpr (Nat.lt_succ_of_le inside), decide_eq_true stored⟩, rfl⟩

/-- One section of each of the two other types, and the groups of both types, are no section
twice. -/
theorem nodup_sections (papd txp : Nat) :
    (⟨.cfg, 0⟩ :: ⟨.calibNch, 0⟩ :: (groupSections calls .calibChgPapd papd ++
      groupSections calls .calibChgTxp txp)).Nodup := by
  have both : ∀ sec ∈ groupSections calls .calibChgPapd papd ++
      groupSections calls .calibChgTxp txp, sec.type.isGroup = true := by
    intro sec here
    rcases List.mem_append.mp here with here | here
    · rw [(mem_groupSections.mp here).1]
      rfl
    · rw [(mem_groupSections.mp here).1]
      rfl
  refine List.nodup_cons.mpr ⟨fun here => ?_, List.nodup_cons.mpr ⟨fun here => ?_, ?_⟩⟩
  · rcases List.mem_cons.mp here with same | here
    · cases same
    · cases both _ here
  · cases both _ here
  · refine List.nodup_append.mpr ⟨nodup_groupSections _ _, nodup_groupSections _ _, ?_⟩
    rintro sec here _ there rfl
    exact absurd ((mem_groupSections.mp here).1.symm.trans (mem_groupSections.mp there).1)
      (by decide)

/-- The sections that were set, by type. -/
theorem storedSections_perm {phyDb : PhyDb} (kept : Kept calls phyDb)
    (cfg : ⟨.cfg, 0⟩ ∈ storedSections calls) (calibNch : ⟨.calibNch, 0⟩ ∈ storedSections calls)
    {papd txp : Nat} (papdBound : ∀ i, ⟨.calibChgPapd, i⟩ ∈ storedSections calls → i ≤ papd)
    (txpBound : ∀ i, ⟨.calibChgTxp, i⟩ ∈ storedSections calls → i ≤ txp) :
    (storedSections calls).Perm
      (⟨.cfg, 0⟩ :: ⟨.calibNch, 0⟩ :: (groupSections calls .calibChgPapd papd ++
        groupSections calls .calibChgTxp txp)) := by
  apply (List.perm_ext_iff_of_nodup (List.nodup_dedup _) (nodup_sections papd txp)).mpr
  intro sec
  rw [List.mem_cons, List.mem_cons, List.mem_append, mem_groupSections, mem_groupSections]
  constructor
  · intro here
    obtain ⟨used, single⟩ := kept.proper sec here
    obtain ⟨type, chgId⟩ := sec
    cases type with
    | cfg =>
      obtain rfl : chgId = 0 := single rfl
      exact .inl rfl
    | calibNch =>
      obtain rfl : chgId = 0 := single rfl
      exact .inr (.inl rfl)
    | unused => exact absurd rfl used
    | calibChgPapd => exact .inr (.inr (.inl ⟨rfl, papdBound chgId here, here⟩))
    | calibChgTxp => exact .inr (.inr (.inr ⟨rfl, txpBound chgId here, here⟩))
  · rintro (rfl | rfl | ⟨-, -, here⟩ | ⟨-, -, here⟩)
    · exact cfg
    · exact calibNch
    · exact here
    · exact here

theorem iwlSendPhyDbData_eq (succeeds : ∀ cmd, send cmd = 0) (phyDb : PhyDb) :
    iwlSendPhyDbData send phyDb =
      let papd := iwlPhyDbSendAllChannelGroups send phyDb .calibChgPapd
        (.ofInt phyDb.papd.nGroup) [phyDb.cfg.cmd .cfg, phyDb.calibNch.cmd .calibNch]
      if papd.1 ≠ 0 then papd
      else
        iwlPhyDbSendAllChannelGroups send phyDb .calibChgTxp (.ofInt phyDb.txp.nGroup)
          papd.2 := by
  simp only [iwlSendPhyDbData, succeeds, ne_eq, not_true_eq_false, if_false]

/-- The groups of a type are sent up to the number that is asked for; without any the first one
fails. -/
theorem send_of_kept (succeeds : ∀ cmd, send cmd = 0) (phyDb : PhyDb)
    (kept : GroupsKept calls type groups)
    (got : ∀ i, phyDb.getSection type i = groups.get i) (sent : List PhyDbCmd) :
    (∀ chgId, ⟨type, chgId⟩ ∉ storedSections calls) ∧
        (iwlPhyDbSendAllChannelGroups send phyDb type (.ofInt groups.nGroup) sent).1 = einval ∨
      ∃ largest, ⟨type, largest⟩ ∈ storedSections calls ∧
        (∀ chgId, ⟨type, chgId⟩ ∈ storedSections calls → chgId ≤ largest) ∧
        iwlPhyDbSendAllChannelGroups send phyDb type (.ofInt groups.nGroup) sent =
          (0, sent ++ (filledGroups calls type (List.range ((largest + 1) % 2 ^ 8))).map
            fun i => lastCmd calls ⟨type, i⟩) := by
  cases kept with
  | unset absent =>
    refine .inl ⟨absent, ?_⟩
    have count : (UInt8.ofInt (-1)).toNat = 254 + 1 := by decide
    have none : phyDb.getSection type 0 = none := got 0
    rw [iwlPhyDbSendAllChannelGroups, count, List.range_succ_eq_map, sendGroups, none]
  | upTo largest entries length holds stored bound =>
    refine .inr ⟨largest, stored, bound, ?_⟩
    rw [iwlPhyDbSendAllChannelGroups, toNat_nGroup]
    refine sendGroups_eq succeeds (fun i member => ?_) sent
    have inside : i ≤ largest := by
      have := List.mem_range.mp member
      have := Nat.mod_le (largest + 1) (2 ^ 8)
      omega
    have within : ¬ (i : Int) ≥ (largest : Int) + 1 := by omega
    rw [got, Groups.get, if_neg within]
    exact holds i inside

theorem not_fit_of_absent (absent : ∀ chgId, ⟨type, chgId⟩ ∉ storedSections calls) :
    ¬ GroupsFit calls type := by
  intro fit
  obtain ⟨⟨_, chgId⟩, member, rfl⟩ := fit.present
  exact absent chgId member

/-- After calls that all succeed, and so of each type the one for the largest group first,
everything is sent exactly if the groups of both types fit. -/
theorem sends_all_iff (send : PhyDbCmd → Int) (succeeds : ∀ cmd, send cmd = 0)
    (calls : List SetCall) (set : Admissible setStep SetSucceeds {} calls)
    (cfg : ⟨.cfg, 0⟩ ∈ storedSections calls)
    (calibNch : ⟨.calibNch, 0⟩ ∈ storedSections calls) :
    SendsAll send calls (calls.foldl setStep {}) ↔
      GroupsFit calls .calibChgPapd ∧ GroupsFit calls .calibChgTxp := by
  have kept := kept_run set
  generalize calls.foldl setStep {} = phyDb at kept ⊢
  have whole := iwlSendPhyDbData_eq succeeds phyDb
  have failed : einval ≠ 0 := by decide
  rcases send_of_kept succeeds phyDb kept.papd (fun _ => rfl)
      [phyDb.cfg.cmd .cfg, phyDb.calibNch.cmd .calibNch] with
    ⟨absent, fails⟩ | ⟨papd, papdStored, papdBound, papdSent⟩
  · refine iff_of_false (fun sends => ?_) fun fit => not_fit_of_absent absent fit.1
    have returns := sends.returns
    rw [whole] at returns
    simp only [fails, ne_eq, failed, not_false_eq_true, if_true] at returns
  simp only [papdSent, ne_eq, not_true_eq_false, if_false] at whole
  rcases send_of_kept succeeds phyDb kept.txp (fun _ => rfl)
      ([phyDb.cfg.cmd .cfg, phyDb.calibNch.cmd .calibNch] ++
        (filledGroups calls .calibChgPapd (List.range ((papd + 1) % 2 ^ 8))).map
          fun i => lastCmd calls ⟨.calibChgPapd, i⟩) with
    ⟨absent, fails⟩ | ⟨txp, txpStored, txpBound, txpSent⟩
  · refine iff_of_false (fun sends => ?_) fun fit => not_fit_of_absent absent fit.2
    have returns := sends.returns
    rw [whole, fails] at returns
    exact failed returns
  rw [txpSent] at whole
  have sections := (storedSections_perm kept cfg calibNch papdBound txpBound).map (lastCmd calls)
  simp only [groupSections, List.map_cons, List.map_append, List.map_map] at sections
  rw [groupsFit_iff papdStored papdBound, groupsFit_iff txpStored txpBound]
  have papdSub := filledGroups_sublist calls .calibChgPapd papd
  have txpSub := filledGroups_sublist calls .calibChgTxp txp
  constructor
  · intro sends
    have counted := (sends.once.trans sections).length_eq
    rw [whole] at counted
    simp only [List.length_append, List.length_cons, List.length_nil, List.length_map] at counted
    have := papdSub.length_le
    have := txpSub.length_le
    omega
  · rintro ⟨papdAll, txpAll⟩
    refine ⟨by rw [whole], ?_⟩
    rw [whole, papdSub.eq_of_length_le papdAll, txpSub.eq_of_length_le txpAll, kept.cfg,
      kept.calibNch, List.append_assoc]
    exact sections.symm

/-- The report of a section of this type whose data are the number of a group. -/
def groupCall (type : UInt16) (chgId : UInt8) : SetCall :=
  ⟨⟨type, 2, fun k => if k = 0 then chgId else 0⟩, true, true⟩

/-- Two TX power groups and a PAPD group, which comes twice. -/
theorem sends_all_groups :
    SendsAll (fun _ => 0) [groupCall 1 0, groupCall 2 0, groupCall 4 0, groupCall 5 1,
        groupCall 5 0, groupCall 4 0]
      ([groupCall 1 0, groupCall 2 0, groupCall 4 0, groupCall 5 1, groupCall 5 0,
        groupCall 4 0].foldl setStep {}) := by
  exact (sends_all_iff (fun _ => 0) (fun _ => rfl) _ (by decide) (by decide) (by decide)).mpr
    (by decide)

/-- Without channel groups nothing is left to send, but the sending fails. -/
theorem not_sends_all :
    ¬ ∀ (send : PhyDbCmd → Int) (calls : List SetCall), (∀ cmd, send cmd = 0) →
      Admissible setStep SetSucceeds {} calls → ⟨.cfg, 0⟩ ∈ storedSections calls →
      ⟨.calibNch, 0⟩ ∈ storedSections calls → SendsAll send calls (calls.foldl setStep {}) := by
  intro all
  have sends := all (fun _ => 0) [groupCall 1 0, groupCall 2 0] (fun _ => rfl) (by decide)
    (by decide) (by decide)
  exact absurd sends.returns (by decide)

end Iwlwifi.PhyCalib
