import Iwlwifi.Fw.ParseBounds

/-!
# A whole firmware file

The loop of `iwl_parse_tlv_firmware` keeps `data + len` equal to the size of the file until a
record without its padding ends the file; then `len` wraps around, and the next record is looked
for behind the end.  `parsesInBounds_iff` says when the parser stays in the file and records
only sections of it: exactly when that does not happen, no section record is too short for its
offset word or too long for an `int`, and what the debug records leave unchecked is there.
-/

namespace Iwlwifi

open Lib

/-- The record the loop stands at. -/
def TlvLoop.tlv (raw : Firmware) (loop : TlvLoop) : UcodeTlv where
  type := .ofCode (le32At raw.data loop.data)
  len := le32At raw.data (loop.data + 4)
  data := loop.data + 8

/-- The states of the loop in a call of `iwl_parse_tlv_firmware`. -/
inductive ParseReaches (cfg : DrvConfig) (raw : Firmware) (drv : Drv) : TlvLoop → Prop
  | start {loop : TlvLoop} :
    parseHeader cfg raw { drv with usnifferReq := false } = .ok loop →
    ParseReaches cfg raw drv loop
  | next {loop after : TlvLoop} :
    ParseReaches cfg raw drv loop → 8 ≤ loop.len → parseTlv cfg raw loop = .ok after →
    ParseReaches cfg raw drv after

/-- Every section that was not there before the call lies in the file. -/
def SectionsInFile (raw : Firmware) (drv after : Drv) : Prop :=
  ∀ (type : UcodeType) (i : Nat) (sec : FwSec), (after.pieces.img type)[i]? = some (some sec) →
    (drv.pieces.img type)[i]? = some (some sec) ∨ sec.data + sec.size ≤ raw.size

/-- The parser terminates, reads inside the file, and records sections of the file. -/
structure ParsesInBounds (cfg : DrvConfig) (raw : Firmware) (drv : Drv) : Prop where
  returns : ∃ fuel outcome,
    iwlParseTlvFirmware cfg raw drv fuel = some outcome ∧ InBounds outcome
  sections : ∀ loop, ParseReaches cfg raw drv loop → SectionsInFile raw drv loop.drv

/-- What has to hold where the loop takes up a record. -/
structure TlvInBounds (cfg : DrvConfig) (raw : Firmware) (loop : TlvLoop) : Prop where
  /-- The padding of the record before has not made `len` wrap. -/
  remaining : loop.len ≤ raw.size
  reads : (loop.tlv raw).len ≤ loop.len - 8 → TlvReads cfg raw loop.drv (loop.tlv raw)
  sectionLen : (loop.tlv raw).len ≤ loop.len - 8 → (loop.tlv raw).type.sectionOf ≠ none →
    4 ≤ (loop.tlv raw).len ∧ (loop.tlv raw).len < 2 ^ 31

/-- The condition of a whole call. -/
structure FileInBounds (cfg : DrvConfig) (raw : Firmware) (drv : Drv) : Prop where
  /-- Debug overrides look at the magic number first. -/
  magic : cfg.supportDebugOverrides = true → 8 ≤ raw.size
  records : ∀ loop, ParseReaches cfg raw drv loop → 8 ≤ loop.len → TlvInBounds cfg raw loop

variable {cfg : DrvConfig} {raw : Firmware} {drv : Drv} {loop after : TlvLoop}

/-! ## Where the loop stands -/

/-- `len` is what is left of the file, or has wrapped to that modulo 2^64. -/
def LenAgrees (raw : Firmware) (loop : TlvLoop) : Prop :=
  loop.data + loop.len = raw.size ∨
    (raw.size < loop.data ∧ loop.data + loop.len = raw.size + 2 ^ 64 ∧ 2 ^ 63 ≤ loop.len)

theorem LenAgrees.data_add_len (placed : LenAgrees raw loop) (remaining : loop.len ≤ raw.size) :
    loop.data + loop.len = raw.size := by
  have := raw.size_lt
  rcases placed with inside | ⟨_, _, wrapped⟩
  · exact inside
  · simp only [Firmware.size] at remaining
    omega

theorem placed_parseUcodeHeader {drv : Drv} (start : parseUcodeHeader raw drv = .ok loop) :
    loop.data + loop.len = raw.size ∧ loop.drv = drv := by
  rw [parseUcodeHeader] at start
  split at start
  · cases start
  · next size =>
      have long : 88 ≤ raw.data.length := Nat.le_of_not_lt size
      rw [readLe32_of_le (by omega)] at start
      dsimp only [bind, Except.bind] at start
      split at start
      · cases start
      · rw [touch_of_le (by omega)] at start
        cases start
        exact ⟨by simp only [Firmware.size]; omega, rfl⟩

theorem placed_parseHeader {drv : Drv} (start : parseHeader cfg raw drv = .ok loop) :
    loop.data + loop.len = raw.size ∧ loop.drv = drv := by
  rw [parseHeader] at start
  split at start
  · by_cases size : 8 ≤ raw.data.length
    · rw [readLe32_of_le (by omega)] at start
      dsimp only [bind, Except.bind] at start
      split at start
      · cases start
        exact ⟨by simp only [Firmware.size]; omega, rfl⟩
      · exact placed_parseUcodeHeader start
    · rw [readLe32, touch, if_neg (by omega)] at start
      cases start
  · exact placed_parseUcodeHeader start

/-! ## One record -/

/-- The record's header is in the file. -/
theorem parseTlv_eq (header : loop.data + 8 ≤ raw.size) :
    parseTlv cfg raw loop =
      if loop.len - 8 < (loop.tlv raw).len then .error (.ret parseEinval)
      else do
        let drv ← handleTlv cfg raw loop.drv (loop.tlv raw)
        return { data := loop.data + 8 + align4 (loop.tlv raw).len
                 len := (loop.len - 8 + 2 ^ 64 - align4 (loop.tlv raw).len) % 2 ^ 64
                 drv := drv } := by
  rw [parseTlv, readLe32_of_le (by simp only [Firmware.size] at header; omega),
    readLe32_of_le (by simp only [Firmware.size] at header; omega)]
  rfl

theorem parseTlv_outOfBounds (header : raw.size < loop.data) :
    ¬ InBounds (parseTlv cfg raw loop) := by
  rw [parseTlv, inBounds_readLe32_bind]
  rintro ⟨read, -⟩
  simp only [Firmware.size] at header
  omega

/-- Taking up a record that has its header in the file. -/
theorem inBounds_parseTlv (placed : loop.data + loop.len = raw.size) (more : 8 ≤ loop.len) :
    InBounds (parseTlv cfg raw loop) ↔
      ((loop.tlv raw).len ≤ loop.len - 8 → TlvReads cfg raw loop.drv (loop.tlv raw)) := by
  rw [parseTlv_eq (by omega)]
  split
  · next long => exact ⟨fun _ fits => by omega, fun _ => inBounds_ret _⟩
  · next fits =>
      have header : 8 ≤ (loop.tlv raw).data := Nat.le_add_left _ _
      have inside : (loop.tlv raw).data + (loop.tlv raw).len ≤ raw.size := by
        change loop.data + 8 + _ ≤ _
        omega
      rw [inBounds_bind, (handleTlv_handles header inside).inBounds]
      constructor
      · exact fun stays _ => stays.1
      · exact fun reads => ⟨reads (Nat.le_of_not_lt fits), fun _ _ => inBounds_pure _⟩

/-- What a record that was taken leaves behind. -/
theorem parseTlv_ok (placed : loop.data + loop.len = raw.size) (more : 8 ≤ loop.len)
    (parsed : parseTlv cfg raw loop = .ok after) :
    (loop.tlv raw).len ≤ loop.len - 8 ∧ loop.data + 8 ≤ after.data ∧ LenAgrees raw after ∧
      after.drv.pieces.img = (recordSections raw loop.drv.pieces (loop.tlv raw)).img := by
  rw [parseTlv_eq (by omega)] at parsed
  split at parsed
  · cases parsed
  next fits =>
  have header : 8 ≤ (loop.tlv raw).data := Nat.le_add_left _ _
  have inside : (loop.tlv raw).data + (loop.tlv raw).len ≤ raw.size := by
    change loop.data + 8 + _ ≤ _
    omega
  have handled := (@handleTlv_handles cfg raw loop.drv _ header inside).sections
  cases result : handleTlv cfg raw loop.drv (loop.tlv raw) with
  | error stop => rw [result] at parsed; cases parsed
  | ok drv =>
    rw [result] at parsed
    cases parsed
    refine ⟨Nat.le_of_not_lt fits, Nat.le_add_right _ _, ?_, handled drv result⟩
    have small := raw.size_lt
    have padded : align4 (loop.tlv raw).len ≤ (loop.tlv raw).len + 3 := by
      rw [align4]
      omega
    change loop.data + 8 + align4 _ + _ = _ ∨ _
    dsimp only
    simp only [Firmware.size] at placed ⊢
    generalize align4 (loop.tlv raw).len = padding at padded ⊢
    by_cases room : padding ≤ loop.len - 8
    · left
      have left : loop.len - 8 + 2 ^ 64 - padding = loop.len - 8 - padding + 2 ^ 64 := by omega
      rw [left, Nat.add_mod_right, Nat.mod_eq_of_lt (by omega)]
      omega
    · right
      rw [Nat.mod_eq_of_lt (by omega)]
      omega

/-! ## The sections -/

theorem length_le_allocSecData (secs : List (Option FwSec)) (sec : Nat) :
    secs.length ≤ (allocSecData secs sec).length := by
  rw [allocSecData]
  split
  · exact Nat.le_refl _
  · rw [List.length_append]
    exact Nat.le_add_right _ _

/-- The slots an image is grown by hold nothing. -/
theorem allocSecData_getElem? {secs : List (Option FwSec)} {sec i : Nat} {found : FwSec}
    (slot : (allocSecData secs sec)[i]? = some (some found)) :
    secs[i]? = some (some found) := by
  rw [allocSecData] at slot
  split at slot
  · exact slot
  · rcases Nat.lt_or_ge i secs.length with old | new
    · rwa [List.getElem?_append_left old] at slot
    · rw [List.getElem?_append_right new] at slot
      have empty := List.eq_of_mem_replicate (List.mem_of_getElem? slot)
      cases empty

theorem length_le_recordSections (pieces : FirmwarePieces) (tlv : UcodeTlv) (type : UcodeType) :
    (pieces.img type).length ≤ ((recordSections raw pieces tlv).img type).length := by
  rw [recordSections]
  split
  · rw [storeUcodeSec]
    dsimp only
    split
    · rw [List.length_append]
      exact Nat.le_add_right _ _
    · exact Nat.le_refl _
  · rw [setSec]
    dsimp only
    split
    · rw [List.length_set]
      exact length_le_allocSecData _ _
    · exact Nat.le_refl _
  · exact Nat.le_refl _

/-- The section a record is stored as. -/
def StoredAs (tlv : UcodeTlv) (sec : FwSec) : Prop :=
  (tlv.type.sectionOf ≠ none ∧ sec.data = tlv.data + 4 ∧ sec.size = ucodeSecSize tlv.len) ∨
    (sec.data = tlv.data ∧ sec.size = tlv.len)

theorem recordSections_getElem? {pieces : FirmwarePieces} {tlv : UcodeTlv} {type : UcodeType}
    {i : Nat} {found : FwSec}
    (slot : ((recordSections raw pieces tlv).img type)[i]? = some (some found)) :
    (pieces.img type)[i]? = some (some found) ∨ StoredAs tlv found := by
  rw [recordSections] at slot
  split at slot
  · next stored =>
      rw [storeUcodeSec] at slot
      dsimp only at slot
      split at slot
      · rcases Nat.lt_or_ge i (pieces.img type).length with old | new
        · rw [List.getElem?_append_left old] at slot
          exact .inl slot
        · rw [List.getElem?_append_right new] at slot
          have only := List.mem_singleton.mp (List.mem_of_getElem? slot)
          cases only
          exact .inr (.inl ⟨by rw [stored]; nofun, rfl, rfl⟩)
      · exact .inl slot
  · rw [setSec] at slot
    dsimp only at slot
    split at slot
    · rw [List.getElem?_set] at slot
      split at slot
      · split at slot
        · cases slot
          exact .inr (.inr ⟨rfl, rfl⟩)
        · cases slot
      · exact .inl (allocSecData_getElem? slot)
    · exact .inl slot
  · exact .inl slot

/-- A section stored behind its offset word is in the file exactly if the record is long enough
for that word and short enough for an `int`. -/
theorem ucodeSecSize_inside {data len : Nat} (inside : data + len ≤ raw.size)
    (word : len < 2 ^ 32) :
    data + 4 + ucodeSecSize len ≤ raw.size ↔ 4 ≤ len ∧ len < 2 ^ 31 := by
  have small := raw.size_lt
  simp only [Firmware.size] at inside ⊢
  rw [ucodeSecSize]
  by_cases short : len < 4
  · rw [if_pos (by omega), Nat.mod_eq_of_lt (by omega)]
    omega
  · split
    · next int =>
        have size : len + 2 ^ 64 - 4 = len - 4 + 2 ^ 64 := by omega
        rw [size, Nat.add_mod_right, Nat.mod_eq_of_lt (by omega)]
        omega
    · next negative =>
        have size : len + 2 ^ 64 - 2 ^ 32 + 2 ^ 64 - 4 = len + 2 ^ 64 - 2 ^ 32 - 4 + 2 ^ 64 := by
          omega
        rw [size, Nat.add_mod_right, Nat.mod_eq_of_lt (by omega)]
        omega

theorem sectionsInFile_next {drv : Drv} (placed : loop.data + loop.len = raw.size)
    (more : 8 ≤ loop.len) (parsed : parseTlv cfg raw loop = .ok after)
    (bounds : TlvInBounds cfg raw loop) (before : SectionsInFile raw drv loop.drv) :
    SectionsInFile raw drv after.drv := by
  obtain ⟨fits, -, -, sections⟩ := parseTlv_ok placed more parsed
  have inside : loop.data + 8 + (loop.tlv raw).len ≤ raw.size := by omega
  intro type i sec slot
  rw [sections] at slot
  rcases recordSections_getElem? slot with old | ⟨section', data, size⟩ | ⟨data, size⟩
  · exact before type i sec old
  · right
    rw [data, size]
    exact (ucodeSecSize_inside inside (le32At_lt _ _)).mpr (bounds.sectionLen fits section')
  · right
    rw [data, size]
    exact inside

/-- A section record whose offset word is there is stored, in a slot of its own. -/
theorem parseTlv_section {type : UcodeType} (placed : loop.data + loop.len = raw.size)
    (more : 8 ≤ loop.len) (fits : (loop.tlv raw).len ≤ loop.len - 8)
    (isSection : (loop.tlv raw).type.sectionOf = some type)
    (stays : InBounds (parseTlv cfg raw loop)) :
    ∃ after, parseTlv cfg raw loop = .ok after ∧
      (after.drv.pieces.img type)[(loop.drv.pieces.img type).length]? =
        some (some { data := (loop.tlv raw).data + 4
                     size := ucodeSecSize (loop.tlv raw).len
                     offset := le32At raw.data (loop.tlv raw).data }) := by
  have word : (loop.tlv raw).data + 4 ≤ raw.data.length := by
    have reads := (inBounds_parseTlv placed more).mp stays fits
    revert isSection reads
    rw [TlvReads]
    cases (loop.tlv raw).type <;> intro isSection reads <;>
      first | exact reads | cases isSection
  have stored : ∃ drv, handleTlv cfg raw loop.drv (loop.tlv raw) = .ok drv := by
    revert isSection
    rw [handleTlv]
    cases (loop.tlv raw).type <;> intro isSection <;> cases isSection <;> dsimp only <;>
      simp only [storeMvmSec, storeSec, readLe32_of_le word] <;> exact ⟨_, rfl⟩
  obtain ⟨drv, stored⟩ := stored
  have parsed := @parseTlv_eq cfg raw loop (by omega)
  rw [if_neg (by omega), stored] at parsed
  refine ⟨_, parsed, ?_⟩
  have sections := (parseTlv_ok placed more parsed).2.2.2
  rw [sections, recordSections, isSection]
  change (if type = type then _ else _)[_]? = _
  rw [if_pos rfl, List.getElem?_append_right (Nat.le_refl _), Nat.sub_self]
  rfl

/-! ## The run -/

theorem parseTlv_advances (parsed : parseTlv cfg raw loop = .ok after) :
    loop.data + 8 ≤ raw.size ∧ loop.data + 8 ≤ after.data := by
  have stays : InBounds (parseTlv cfg raw loop) := by
    rw [parsed]
    exact inBounds_ok after
  have header : loop.data + 8 ≤ raw.size := (inBounds_readLe32_bind.mp stays).1
  refine ⟨header, ?_⟩
  rw [parseTlv_eq header] at parsed
  split at parsed
  · cases parsed
  · cases handled : handleTlv cfg raw loop.drv (loop.tlv raw) with
    | error stop => rw [handled] at parsed; cases parsed
    | ok drv =>
      rw [handled] at parsed
      cases parsed
      exact Nat.le_add_right _ _

/-- The loop moves on by at least a header for every record, so it comes to an end. -/
theorem parseTlvs_returns (fuel : Nat) (loop : TlvLoop) (enough : raw.size ≤ loop.data + fuel) :
    ∃ outcome, parseTlvs cfg raw (fuel + 1) loop = some outcome := by
  induction fuel generalizing loop with
  | zero =>
    rw [parseTlvs]
    split
    · exact ⟨_, rfl⟩
    · cases parsed : parseTlv cfg raw loop with
      | error stop => exact ⟨_, rfl⟩
      | ok after =>
        have := (parseTlv_advances parsed).1
        omega
  | succ fuel ih =>
    rw [parseTlvs]
    split
    · exact ⟨_, rfl⟩
    · cases parsed : parseTlv cfg raw loop with
      | error stop => exact ⟨_, rfl⟩
      | ok after =>
        have := (parseTlv_advances parsed).2
        exact ih after (by omega)

theorem ParseReaches.placed (reached : ParseReaches cfg raw drv loop) : LenAgrees raw loop := by
  induction reached with
  | start start => exact .inl (placed_parseHeader start).1
  | next _ more parsed ih =>
    rcases ih with inside | ⟨behind, -, -⟩
    · exact (parseTlv_ok inside more parsed).2.2.1
    · have := (parseTlv_advances parsed).1
      omega

/-- A record that was taken lies in the file. -/
theorem ParseReaches.data_add_len (reached : ParseReaches cfg raw drv loop)
    (stays : InBounds (parseTlv cfg raw loop)) : loop.data + loop.len = raw.size := by
  rcases reached.placed with inside | ⟨behind, -, -⟩
  · exact inside
  · exact absurd stays (parseTlv_outOfBounds behind)

/-- No image loses slots. -/
theorem ParseReaches.length_le (reached : ParseReaches cfg raw drv loop) (type : UcodeType) :
    (drv.pieces.img type).length ≤ (loop.drv.pieces.img type).length := by
  induction reached with
  | start start =>
    refine Nat.le_of_eq ?_
    rw [(placed_parseHeader start).2]
  | @next loop after reached more parsed ih =>
    have stays : InBounds (parseTlv cfg raw loop) := by
      rw [parsed]
      exact inBounds_ok after
    rw [(parseTlv_ok (reached.data_add_len stays) more parsed).2.2.2]
    exact Nat.le_trans ih (length_le_recordSections _ _ _)

/-- What is left of a run that returns, from a state it reaches on. -/
theorem ParseReaches.rest {fuel : Nat} {outcome : FwReading Drv}
    (reached : ParseReaches cfg raw drv loop)
    (returns : iwlParseTlvFirmware cfg raw drv fuel = some outcome) :
    ∃ fuel' rest, parseTlvs cfg raw fuel' loop = some rest ∧
      outcome = rest >>= parseDone cfg raw := by
  induction reached with
  | start start =>
    rw [iwlParseTlvFirmware, start] at returns
    obtain ⟨rest, run, rfl⟩ := Option.map_eq_some_iff.mp returns
    exact ⟨fuel, rest, run, rfl⟩
  | next _ more parsed ih =>
    obtain ⟨fuel', rest, run, done⟩ := ih
    cases fuel' with
    | zero =>
      rw [parseTlvs, if_neg (by omega)] at run
      cases run
    | succ fuel' =>
      rw [parseTlvs, if_neg (by omega), parsed] at run
      exact ⟨fuel', rest, run, done⟩

/-- A read outside the file at any record is what the run ends with. -/
theorem ParseReaches.inBounds (reached : ParseReaches cfg raw drv loop) (more : 8 ≤ loop.len)
    (bounded : ParsesInBounds cfg raw drv) : InBounds (parseTlv cfg raw loop) := by
  obtain ⟨fuel, outcome, returns, stays⟩ := bounded.returns
  obtain ⟨fuel', rest, run, done⟩ := reached.rest returns
  intro left
  cases fuel' with
  | zero =>
    rw [parseTlvs, if_neg (by omega)] at run
    cases run
  | succ fuel' =>
    rw [parseTlvs, if_neg (by omega), left] at run
    cases run
    exact stays done

/-- A run all of whose records are read inside the file is read inside the file. -/
theorem parseTlvs_inBounds {fuel : Nat} {outcome : FwReading TlvLoop}
    (records : ∀ loop, ParseReaches cfg raw drv loop → 8 ≤ loop.len →
      InBounds (parseTlv cfg raw loop))
    (reached : ParseReaches cfg raw drv loop)
    (run : parseTlvs cfg raw fuel loop = some outcome) :
    InBounds outcome ∧
      ∀ last, outcome = .ok last → ParseReaches cfg raw drv last ∧ last.len < 8 := by
  induction fuel generalizing loop with
  | zero =>
    rw [parseTlvs] at run
    split at run
    · next done =>
        cases run
        refine ⟨inBounds_ok loop, ?_⟩
        rintro last ⟨⟩
        exact ⟨reached, done⟩
    · cases run
  | succ fuel ih =>
    rw [parseTlvs] at run
    split at run
    · next done =>
        cases run
        refine ⟨inBounds_ok loop, ?_⟩
        rintro last ⟨⟩
        exact ⟨reached, done⟩
    · next more =>
        have stays := records loop reached (by omega)
        cases parsed : parseTlv cfg raw loop with
        | error stop =>
          rw [parsed] at run stays
          cases run
          exact ⟨fun left => stays (by cases left; rfl), nofun⟩
        | ok after =>
          rw [parsed] at run
          exact ih (.next reached (by omega) parsed) run

theorem inBounds_parseDone (placed : LenAgrees raw loop) (done : loop.len < 8) :
    InBounds (parseDone cfg raw loop) := by
  have inside : loop.data + loop.len = raw.size := by
    rcases placed with inside | ⟨-, -, wrapped⟩
    · exact inside
    · omega
  rw [parseDone]
  split
  · exact inBounds_ret _
  split
  · split
    · rw [inBounds_touch_bind]
      exact ⟨Nat.le_of_eq inside, inBounds_ret _⟩
    · exact inBounds_ret _
  split
  · exact inBounds_pure _
  · exact inBounds_pure _

/-- The header is read inside the file, unless debug overrides read a file too short for one. -/
theorem inBounds_parseHeader {drv : Drv} :
    InBounds (parseHeader cfg raw drv) ↔ (cfg.supportDebugOverrides = true → 8 ≤ raw.size) := by
  have plain : InBounds (parseUcodeHeader raw drv) := by
    rw [parseUcodeHeader]
    split
    · exact inBounds_ret _
    · next size =>
        simp only [Firmware.size] at size
        rw [inBounds_readLe32_bind]
        refine ⟨by omega, ?_⟩
        split
        · exact inBounds_ret _
        · exact inBounds_touch_bind.mpr ⟨by omega, inBounds_pure _⟩
  rw [parseHeader]
  split
  · next debug =>
      rw [inBounds_readLe32_bind]
      constructor
      · exact fun reads _ => reads.1
      · refine fun size => ⟨size debug, ?_⟩
        split
        · exact inBounds_pure _
        · exact plain
  · next debug => exact ⟨fun _ same => absurd same debug, fun _ => plain⟩

/-- The parser stays in the file exactly under `FileInBounds`. -/
theorem parsesInBounds_iff (cfg : DrvConfig) (raw : Firmware) (drv : Drv) :
    ParsesInBounds cfg raw drv ↔ FileInBounds cfg raw drv := by
  have header := @inBounds_parseHeader cfg raw { drv with usnifferReq := false }
  constructor
  · intro bounded
    refine ⟨?_, ?_⟩
    · obtain ⟨fuel, outcome, returns, stays⟩ := bounded.returns
      refine header.mp fun left => stays ?_
      rw [iwlParseTlvFirmware, left] at returns
      exact (Option.some.inj returns).symm
    · intro loop reached more
      have stays := reached.inBounds more bounded
      have placed := reached.data_add_len stays
      refine ⟨by omega, (inBounds_parseTlv placed more).mp stays, ?_⟩
      intro fits isSection
      obtain ⟨type, isSection⟩ := Option.ne_none_iff_exists'.mp isSection
      obtain ⟨after, parsed, slot⟩ := parseTlv_section placed more fits isSection stays
      have inside : (loop.tlv raw).data + (loop.tlv raw).len ≤ raw.size := by
        change loop.data + 8 + _ ≤ _
        omega
      rcases bounded.sections after (.next reached more parsed) type _ _ slot with old | new
      · rw [List.getElem?_eq_none (reached.length_le type)] at old
        cases old
      · exact (ucodeSecSize_inside inside (le32At_lt _ _)).mp new
  · intro bounds
    have placed {loop : TlvLoop} (reached : ParseReaches cfg raw drv loop)
        (more : 8 ≤ loop.len) : loop.data + loop.len = raw.size :=
      reached.placed.data_add_len (bounds.records loop reached more).remaining
    refine ⟨?_, ?_⟩
    · have started := header.mpr bounds.magic
      cases start : parseHeader cfg raw { drv with usnifferReq := false } with
      | error stop =>
        rw [start] at started
        refine ⟨0, .error stop, ?_, fun left => started (by cases left; rfl)⟩
        rw [iwlParseTlvFirmware, start]
      | ok first =>
        obtain ⟨rest, run⟩ : ∃ rest, parseTlvs cfg raw (raw.size + 1) first = some rest :=
          parseTlvs_returns raw.size first (Nat.le_add_left _ _)
        obtain ⟨stays, ends⟩ := parseTlvs_inBounds (fun loop reached more =>
          (inBounds_parseTlv (placed reached more) more).mpr
            (bounds.records loop reached more).reads) (.start start) run
        refine ⟨raw.size + 1, rest >>= parseDone cfg raw, ?_, ?_⟩
        · rw [iwlParseTlvFirmware, start]
          dsimp only
          rw [run]
          rfl
        · rw [inBounds_bind]
          refine ⟨stays, fun last done => ?_⟩
          exact inBounds_parseDone (ends last done).1.placed (ends last done).2
    · intro loop reached
      induction reached with
      | start start =>
        rw [(placed_parseHeader start).2]
        exact fun type i sec slot => .inl slot
      | @next loop after reached more parsed ih =>
        exact sectionsInFile_next (placed reached more) more parsed
          (bounds.records loop reached more) ih

/-! ## Two files the parser leaves -/

/-- Nothing parsed yet. -/
def freshDrv : Drv where
  pieces :=
    { img := fun _ => []
      initEvtlogPtr := 0, initEvtlogSize := 0, initErrlogPtr := 0
      instEvtlogPtr := 0, instEvtlogSize := 0, instErrlogPtr := 0
      dbgDestTlvInit := false, dbgDestVer := none, dbgDestTlv := none
      dbgConfTlv := fun _ => none, dbgTriggerTlv := fun _ => none, dbgMemTlv := [] }
  capa :=
    { maxProbeLength := 200, nScanChannels := 40, standardPhyCalibrationSize := 18, flags := 0
      errorLogAddr := 0, errorLogSize := 0
      fmacApiVersion := 0, fmacErrorLogAddr := 0, fmacErrorLogSize := 0
      api := fun _ => false, capa := fun _ => false, cmdVersions := none, nCmdVersions := 0 }
  fw :=
    { isDualCpus := fun _ => false, pagingMemSize := fun _ => 0, iml := []
      enhanceSensitivityTable := false, defaultCalib := fun _ => (0, 0)
      phyConfig := 0, validTxAnt := 0, validRxAnt := 0, type := .dvm, cs := []
      nDestReg := 0, dumpMask := 0xffffffff, umacErrorEventTable := 0, lmacErrorEventTable := 0 }
  usnifferReq := false
  usnifferImages := false

/-- A release build. -/
def releaseConfig : DrvConfig where
  supportDebugOverrides := false
  deviceTestmode := false
  iwlfmac := false
  debugFw := false
  enableIni := false
  dbmDestinationPath := false
  validAnts := 0
  family22000 := true

def sampleHeader : List UInt8 :=
  [0, 0, 0, 0, 0x49, 0x57, 0x4c, 0x0a] ++ List.replicate 80 0

/-- One ignored record (`IWL_UCODE_TLV_FW_GSCAN_CAPA`) of one byte, without its padding. -/
def unpaddedFile : Firmware where
  data := sampleHeader ++ [50, 0, 0, 0, 1, 0, 0, 0, 7]
  size_lt := by decide

/-- A section record (`IWL_UCODE_TLV_SEC_RT`) with nothing in it, and an ignored record. -/
def shortSectionFile : Firmware where
  data := sampleHeader ++ [19, 0, 0, 0, 0, 0, 0, 0] ++ [50, 0, 0, 0, 0, 0, 0, 0]
  size_lt := by decide

/-- The first file makes the parser read behind it, the second one makes it record a section of
nearly 2^64 bytes. -/
theorem not_parsesInBounds :
    ¬ ParsesInBounds releaseConfig unpaddedFile freshDrv ∧
      ¬ ParsesInBounds releaseConfig shortSectionFile freshDrv := by
  constructor
  · intro bounded
    have first : ParseReaches releaseConfig unpaddedFile freshDrv
        { data := 88, len := 9, drv := freshDrv } := .start rfl
    have second : ParseReaches releaseConfig unpaddedFile freshDrv
        { data := 100, len := 2 ^ 64 - 3, drv := freshDrv } := .next first (by decide) rfl
    exact second.inBounds (by decide) bounded rfl
  · intro bounded
    have first : ParseReaches releaseConfig shortSectionFile freshDrv
        { data := 88, len := 16, drv := freshDrv } := .start rfl
    have second := ParseReaches.next first (by decide) rfl
    rcases bounded.sections _ second .regular 0
        { data := 100, size := 2 ^ 64 - 4, offset := 50 } rfl with old | new
    · cases old
    · revert new
      decide

end Iwlwifi
