import Mathlib.Logic.Function.Basic
import Iwlwifi.Lib.Elements
import Iwlwifi.Fw.NvmMccInfo

/-!
# External NVM files

`iwl_read_external_nvm` reads the sections of an NVM file into `nvm_sections`.  Each section has a
header of two words, from which its size and its id are taken, in one way for the extended format
and in another for all others; a header of zeros ends the file.  A header of the file itself is
skipped.

A pointer into the file is an offset, and a read outside the file stops the model.
-/

namespace Iwlwifi.ExternalNvm

open Lib

/-! ## The format -/

def nvmWord1Len (x : Nat) : Nat := 8 * (x &&& 0x03ff)

def nvmWord2Id (x : Nat) : Nat := x >>> 12

def extNvmWord2Len (x : Nat) : Nat := 2 * ((x &&& 0xff) <<< 8 ||| x >>> 8)

def extNvmWord1Id (x : Nat) : Nat := x >>> 4

def nvmHeader0 : Nat := 0x2a504c54

def nvmHeader1 : Nat := 0x4e564d2a

def nvmHeaderSize : Nat := 16

def iwlMaxNvmSectionSize : Nat := 0x1b58

def iwlMaxExtNvmSectionSize : Nat := 0x1ffc

def maxNvmFileLen : Nat := 16384

abbrev nvmMaxNumSections : Nat := 13

def nvmSectionTypePhySku : Nat := 12

/-- What is read of the device: its NVM format, whether it is of the 8000 family, and its
revision and id. -/
structure NvmTrans where
  nvmType : IwlNvmType
  family8000 : Bool
  hwRev : UInt32
  hwId : UInt32

/-- `struct iwl_nvm_section` -/
structure NvmSection where
  length : UInt16 := 0
  data : Option (List UInt8) := none
deriving DecidableEq

abbrev NvmSections : Type := Fin nvmMaxNumSections → NvmSection

def einval : Int := -22

def enomem : Int := -12

def efault : Int := -14

def le16At (bytes : List UInt8) (ofs : Nat) : Nat := u8At bytes ofs + 2 ^ 8 * u8At bytes (ofs + 1)

/-- A read that can only fail by leaving the file. -/
abbrev Reading (α : Type) : Type := BoundedRead Empty α

def readLe16 (bytes : List UInt8) (ofs : Nat) : Reading Nat := do
  touch bytes ofs 2
  return le16At bytes ofs

/-! ## Reading -/

/-- `iwl_nvm_fixups` -/
def iwlNvmFixups (hwId : UInt32) (sectionId : Nat) (data : List UInt8) : List UInt8 :=
  if sectionId = nvmSectionTypePhySku ∧ hwId = 0x5501 ∧ 5 ≤ data.length ∧
      data.getD 4 0 &&& 0x20 ≠ 0 then
    -- a device of one antenna, B
    data.set 3 0x22
  else data

section

variable (trans : NvmTrans) (file : List UInt8)

def maxSectionSize : Nat :=
  if trans.nvmType ≠ .ext then iwlMaxNvmSectionSize else iwlMaxExtNvmSectionSize

def sectionSize (word1 word2 : Nat) : Nat :=
  if trans.nvmType ≠ .ext then 2 * nvmWord1Len word1 else 2 * extNvmWord2Len word2

def sectionId (word1 word2 : Nat) : Nat :=
  if trans.nvmType ≠ .ext then nvmWord2Id word2 else extNvmWord1Id word1

/-- Where the sections start, behind the header of the file if it has one; none if the device needs
a newer file. -/
def readHeader : Reading (Option Nat) :=
  if nvmHeaderSize < file.length then do
    let dword0 ← readLe32 file 0
    let dword1 ← readLe32 file 4
    if dword0 = nvmHeader0 ∧ dword1 = nvmHeader1 then do
      let version ← readLe32 file 8
      let _date ← readLe32 file 12
      if trans.family8000 ∧ (trans.hwRev &&& 0xc) >>> 2 = 2 ∧ version < 0xe4a then return none
      else return some nvmHeaderSize
    else return some 0
  else return some 0

/-- How a turn of the loop ends. -/
inductive SectionTurn
  | done (ret : Int)
  | next (fileSec : Nat) (nvmSections : NvmSections)

/-- The body of the loop, and whether there is memory for a copy of the section. -/
def readSection (memory : Bool) (fileSec : Nat) (nvmSections : NvmSections) :
    Reading SectionTurn :=
  if file.length < fileSec + 4 then return .done einval
  else do
    let word1 ← readLe16 file fileSec
    let word2 ← readLe16 file (fileSec + 2)
    let size := sectionSize trans word1 word2
    let id := sectionId trans word1 word2
    if word1 = 0 ∧ word2 = 0 then return .done 0
    else if maxSectionSize trans < size then return .done einval
    else if size = 0 then return .done einval
    else if file.length < fileSec + 4 + size then return .done einval
    else if inside : id < nvmMaxNumSections then
      if memory = false then return .done enomem
      else do
        let temp ← readBytes file (fileSec + 4) size
        let data := iwlNvmFixups trans.hwId id temp.val
        return .next (fileSec + 4 + size)
          (Function.update nvmSections ⟨id, inside⟩ ⟨size.toUInt16, some data⟩)
    else return .done einval

/-- The loop, and whether there is memory for a copy of the section at a place; `none` is out of
turns. -/
def readSections (memory : Nat → Bool) :
    (turns fileSec : Nat) → NvmSections → Option (Reading (Int × NvmSections))
  | 0, _, _ => none
  | turns + 1, fileSec, nvmSections =>
      match readSection trans file (memory fileSec) fileSec nvmSections with
      | .error stop => some (.error stop)
      | .ok (.done ret) => some (.ok (ret, nvmSections))
      | .ok (.next fileSec nvmSections) => readSections memory turns fileSec nvmSections

end

/-- `iwl_read_external_nvm`, with what `request_firmware` gives. -/
def iwlReadExternalNvm (trans : NvmTrans) (fwEntry : Except Int (List UInt8))
    (memory : Nat → Bool) (turns : Nat) (nvmSections : NvmSections) :
    Option (Reading (Int × NvmSections)) :=
  match fwEntry with
  | .error ret => some (.ok (ret, nvmSections))
  | .ok file =>
      if maxNvmFileLen < file.length then some (.ok (einval, nvmSections))
      else
        match readHeader trans file with
        | .error stop => some (.error stop)
        | .ok none => some (.ok (efault, nvmSections))
        | .ok (some fileSec) => readSections trans file memory turns fileSec nvmSections

/-! ## What a file holds -/

/-- A section of a file. -/
structure FileSection where
  id : Fin nvmMaxNumSections
  data : List UInt8

/-- The header of a section says its size in units of 16 bytes and its id, or, in the extended
format, its size in units of 4 bytes, most significant byte first, and its id. -/
def Heads (nvmType : IwlNvmType) (file : List UInt8) (pos : Nat) (sec : FileSection) : Prop :=
  match nvmType with
  | .ext => sec.data.length = 4 * be16At file (pos + 2) ∧ sec.id.val = le16At file pos / 2 ^ 4
  | _ =>
      sec.data.length = 16 * (le16At file pos % 2 ^ 10) ∧
        sec.id.val = le16At file (pos + 2) / 2 ^ 12

/-- At this place of the file is the section, in full. -/
structure SectionAt (trans : NvmTrans) (file : List UInt8) (pos : Nat) (sec : FileSection) :
    Prop where
  heads : Heads trans.nvmType file pos sec
  inside : pos + 4 + sec.data.length ≤ file.length
  data : window file (pos + 4) sec.data.length = sec.data
  nonempty : sec.data ≠ []
  small : sec.data.length ≤ maxSectionSize trans

/-- At this place the sections end. -/
structure MarkerAt (file : List UInt8) (pos : Nat) : Prop where
  inside : pos + 4 ≤ file.length
  zero : ∀ k < 4, u8At file (pos + k) = 0

/-- The sections from a place on, for which there is memory, and where they stop. -/
inductive SectionsFrom (trans : NvmTrans) (file : List UInt8) (memory : Nat → Bool) :
    Nat → List FileSection → Nat → Prop
  | stop {pos : Nat} : SectionsFrom trans file memory pos [] pos
  | next {pos stop : Nat} {sec : FileSection} {rest : List FileSection}
      (here : SectionAt trans file pos sec) (copied : memory pos = true)
      (behind : SectionsFrom trans file memory (pos + 4 + sec.data.length) rest stop) :
      SectionsFrom trans file memory pos (sec :: rest) stop

/-- At this place is neither a section for which there is memory, nor the end. -/
structure FaultyAt (trans : NvmTrans) (file : List UInt8) (memory : Nat → Bool) (pos : Nat) :
    Prop where
  noSection : memory pos = true → ∀ sec, ¬ SectionAt trans file pos sec
  noMarker : ¬ MarkerAt file pos

/-- The file has a header. -/
def HasHeader (file : List UInt8) : Prop :=
  nvmHeaderSize < file.length ∧ le32At file 0 = nvmHeader0 ∧ le32At file 4 = nvmHeader1

instance (file : List UInt8) : Decidable (HasHeader file) :=
  inferInstanceAs (Decidable (_ ∧ _ ∧ _))

def firstSection (file : List UInt8) : Nat := if HasHeader file then nvmHeaderSize else 0

/-- The file is too long, or too old for the device. -/
def Refused (trans : NvmTrans) (file : List UInt8) : Prop :=
  maxNvmFileLen < file.length ∨
    HasHeader file ∧ trans.family8000 ∧ (trans.hwRev &&& 0xc) >>> 2 = 2 ∧ le32At file 8 < 0xe4a

/-- An entry holds the bytes and the length of a section. -/
structure Holds (trans : NvmTrans) (entry : NvmSection) (sec : FileSection) : Prop where
  length : entry.length.toNat = sec.data.length
  data : entry.data = some (iwlNvmFixups trans.hwId sec.id sec.data)

/-- The last section with an id. -/
def lastSection (sections : List FileSection) (id : Fin nvmMaxNumSections) : Option FileSection :=
  sections.reverse.find? fun sec => sec.id = id

/-- Every entry holds the last of the sections with its id, or is as before. -/
def Stored (trans : NvmTrans) (before : NvmSections) (sections : List FileSection)
    (after : NvmSections) : Prop :=
  ∀ id,
    match lastSection sections id with
    | some sec => Holds trans (after id) sec
    | none => after id = before id

/-- What was read before the end of the sections, or before what stopped the reading. -/
def ReadExactly (trans : NvmTrans) (file : List UInt8) (memory : Nat → Bool)
    (before : NvmSections) (ret : Int) (after : NvmSections) : Prop :=
  (Refused trans file ∧ ret < 0 ∧ after = before) ∨
    ∃ sections stop, SectionsFrom trans file memory (firstSection file) sections stop ∧
      Stored trans before sections after ∧
      (ret = 0 ∧ MarkerAt file stop ∨ ret < 0 ∧ FaultyAt trans file memory stop)

/-! ## Headers -/

theorem readLe16_of_le {bytes : List UInt8} {ofs : Nat} (inside : ofs + 2 ≤ bytes.length) :
    readLe16 bytes ofs = .ok (le16At bytes ofs) := by
  rw [readLe16, touch_of_le inside]
  rfl

variable {trans : NvmTrans} {file : List UInt8} {memory : Nat → Bool} {pos : Nat}
  {sec : FileSection} {before : NvmSections}

/-- The bytes of a word the other way around. -/
theorem swapped_le16At (bytes : List UInt8) (ofs : Nat) :
    (le16At bytes ofs &&& 0xff) <<< 8 ||| le16At bytes ofs >>> 8 = be16At bytes ofs := by
  have low := u8At_lt bytes ofs
  have high := u8At_lt bytes (ofs + 1)
  have lowByte : le16At bytes ofs &&& 0xff = u8At bytes ofs := by
    rw [Nat.and_two_pow_sub_one_eq_mod _ 8, le16At]
    omega
  have highByte : le16At bytes ofs >>> 8 = u8At bytes (ofs + 1) := by
    rw [Nat.shiftRight_eq_div_pow, le16At]
    omega
  rw [lowByte, highByte, ← Nat.shiftLeft_add_eq_or_of_lt high, Nat.shiftLeft_eq, be16At,
    Nat.mul_comm]

theorem heads_iff :
    Heads trans.nvmType file pos sec ↔
      sec.data.length = sectionSize trans (le16At file pos) (le16At file (pos + 2)) ∧
        sec.id.val = sectionId trans (le16At file pos) (le16At file (pos + 2)) := by
  have size : nvmWord1Len (le16At file pos) = 8 * (le16At file pos % 2 ^ 10) := by
    rw [nvmWord1Len, Nat.and_two_pow_sub_one_eq_mod _ 10]
  have extSize : extNvmWord2Len (le16At file (pos + 2)) = 2 * be16At file (pos + 2) := by
    rw [extNvmWord2Len, swapped_le16At]
  rw [sectionSize, sectionId, size, extSize, nvmWord2Id, extNvmWord1Id,
    Nat.shiftRight_eq_div_pow, Nat.shiftRight_eq_div_pow, ← Nat.mul_assoc, ← Nat.mul_assoc]
  cases trans.nvmType <;> exact Iff.rfl

theorem marker_iff (inside : pos + 4 ≤ file.length) :
    MarkerAt file pos ↔ le16At file pos = 0 ∧ le16At file (pos + 2) = 0 := by
  constructor
  · intro marker
    have b0 := marker.zero 0 (by decide)
    have b1 := marker.zero 1 (by decide)
    have b2 := marker.zero 2 (by decide)
    have b3 := marker.zero 3 (by decide)
    rw [Nat.add_zero] at b0
    simp only [le16At, b0, b1, b2, b3, Nat.add_assoc, Nat.reduceAdd]
    exact ⟨rfl, rfl⟩
  · rintro ⟨first, second⟩
    simp only [le16At, Nat.add_assoc, Nat.reduceAdd] at first second
    refine ⟨inside, fun k small => ?_⟩
    obtain rfl | rfl | rfl | rfl : k = 0 ∨ k = 1 ∨ k = 2 ∨ k = 3 := by omega
    · rw [Nat.add_zero]
      omega
    all_goals omega

/-! ## A turn of the loop -/

/-- What a turn of the loop found at its place. -/
inductive Found (trans : NvmTrans) (file : List UInt8) (memory : Nat → Bool) (pos : Nat)
    (before : NvmSections) : SectionTurn → Prop
  | whole (sec : FileSection) (entry : NvmSection) (here : SectionAt trans file pos sec)
      (copied : memory pos = true) (holds : Holds trans entry sec) :
      Found trans file memory pos before
        (.next (pos + 4 + sec.data.length) (Function.update before sec.id entry))
  | marker (here : MarkerAt file pos) : Found trans file memory pos before (.done 0)
  | faulty (ret : Int) (negative : ret < 0) (here : FaultyAt trans file memory pos) :
      Found trans file memory pos before (.done ret)

theorem maxSectionSize_lt (trans : NvmTrans) : maxSectionSize trans < 2 ^ 16 := by
  rw [maxSectionSize]
  split <;> decide

/-- The bytes behind a header that gives their size and a known id are a section. -/
theorem section_whole {size id : Nat} (known : id < nvmMaxNumSections)
    (sizeEq : sectionSize trans (le16At file pos) (le16At file (pos + 2)) = size)
    (idEq : sectionId trans (le16At file pos) (le16At file (pos + 2)) = id)
    (inside : pos + 4 + size ≤ file.length) (nonempty : size ≠ 0)
    (small : size ≤ maxSectionSize trans) :
    SectionAt trans file pos ⟨⟨id, known⟩, window file (pos + 4) size⟩ ∧
      Holds trans
        ⟨size.toUInt16, some (iwlNvmFixups trans.hwId id (window file (pos + 4) size))⟩
        ⟨⟨id, known⟩, window file (pos + 4) size⟩ := by
  have length : (window file (pos + 4) size).length = size := window_length inside
  have fits : size < 2 ^ 16 := Nat.lt_of_le_of_lt small (maxSectionSize_lt trans)
  refine ⟨?_, (UInt16.toNat_ofNat_of_lt fits).trans length.symm, rfl⟩
  exact
    { heads := heads_iff.mpr ⟨length.trans sizeEq.symm, idEq.symm⟩
      inside := by rwa [length]
      data := by rw [length]
      nonempty := fun none => nonempty (length.symm.trans (congrArg List.length none))
      small := by rwa [length] }

/-- The body of the loop stays inside the file and says what is there. -/
theorem readSection_found (trans : NvmTrans) (file : List UInt8) (memory : Nat → Bool) (pos : Nat)
    (before : NvmSections) :
    ∃ turn, readSection trans file (memory pos) pos before = .ok turn ∧
      Found trans file memory pos before turn := by
  unfold readSection
  by_cases short : file.length < pos + 4
  · rw [if_pos short]
    refine ⟨_, rfl, .faulty einval (by decide) ⟨fun _ sec here => ?_, fun marker => ?_⟩⟩
    · have := here.inside
      omega
    · have := marker.inside
      omega
  rw [if_neg short, readLe16_of_le (by omega), readLe16_of_le (by omega)]
  simp only [bind, Except.bind]
  have headed : ∀ sec, SectionAt trans file pos sec → _ := fun sec here =>
    heads_iff.mp here.heads
  generalize sizeEq : sectionSize trans (le16At file pos) (le16At file (pos + 2)) = size at headed ⊢
  generalize idEq : sectionId trans (le16At file pos) (le16At file (pos + 2)) = id at headed ⊢
  split
  · next zero => exact ⟨_, rfl, .marker ((marker_iff (by omega)).mpr zero)⟩
  next nonzero =>
  have faulty : (memory pos = true → ∀ sec, ¬ SectionAt trans file pos sec) →
      FaultyAt trans file memory pos := fun noSection =>
    ⟨noSection, fun marker => nonzero ((marker_iff (by omega)).mp marker)⟩
  split
  · next large =>
      refine ⟨_, rfl, .faulty einval (by decide) (faulty fun _ sec here => ?_)⟩
      have := here.small
      have := (headed sec here).1
      omega
  next small =>
  split
  · next empty =>
      refine ⟨_, rfl, .faulty einval (by decide) (faulty fun _ sec here => ?_)⟩
      exact here.nonempty (List.eq_nil_of_length_eq_zero ((headed sec here).1.trans empty))
  next nonempty =>
  split
  · next cut =>
      refine ⟨_, rfl, .faulty einval (by decide) (faulty fun _ sec here => ?_)⟩
      have := here.inside
      have := (headed sec here).1
      omega
  next whole =>
  split
  · next known =>
      split
      · next noMemory =>
          refine ⟨_, rfl, .faulty enomem (by decide) (faulty fun copied => ?_)⟩
          exact absurd (copied.symm.trans noMemory) (by decide)
      · next copied =>
          have inside : pos + 4 + size ≤ file.length := by omega
          rw [readBytes_of_le inside]
          have copied : memory pos = true := (Bool.not_eq_false _).mp copied
          obtain ⟨here, holds⟩ := section_whole known sizeEq idEq inside nonempty (by omega)
          have found : Found trans file memory pos before _ := .whole _ _ here copied holds
          rw [window_length inside] at found
          exact ⟨_, rfl, found⟩
  · next unknown =>
      refine ⟨_, rfl, .faulty einval (by decide) (faulty fun _ sec here => ?_)⟩
      have := (headed sec here).2
      exact unknown (this ▸ sec.id.isLt)

/-! ## The loop -/

theorem stored_nil : Stored trans before [] before := fun _ => rfl

/-- A section is stored before the sections behind it. -/
theorem Stored.cons {entry : NvmSection} {rest : List FileSection} {after : NvmSections}
    (holds : Holds trans entry sec)
    (behind : Stored trans (Function.update before sec.id entry) rest after) :
    Stored trans before (sec :: rest) after := by
  intro id
  have later := behind id
  rw [lastSection] at later ⊢
  rw [List.reverse_cons, List.find?_append]
  cases found : rest.reverse.find? fun sec => sec.id = id with
  | some last =>
      rw [found] at later
      exact later
  | none =>
      rw [found] at later
      by_cases own : sec.id = id
      · simp only [Option.none_or, List.find?_singleton, own, decide_true, if_true]
        rw [later, ← own, Function.update_self]
        exact holds
      · simp only [Option.none_or, List.find?_singleton, own, decide_false, Bool.false_eq_true,
          if_false]
        exact later.trans (Function.update_of_ne (Ne.symm own) ..)

/-- The sections that the loop reads from a place of the file on. -/
theorem readSections_from (trans : NvmTrans) (file : List UInt8) (memory : Nat → Bool)
    {turns pos : Nat} (inside : pos ≤ file.length) (enough : file.length < pos + turns)
    (before : NvmSections) :
    ∃ ret after sections stop,
      readSections trans file memory turns pos before = some (.ok (ret, after)) ∧
      SectionsFrom trans file memory pos sections stop ∧ Stored trans before sections after ∧
      (ret = 0 ∧ MarkerAt file stop ∨ ret < 0 ∧ FaultyAt trans file memory stop) := by
  induction turns generalizing pos before with
  | zero => omega
  | succ turns ih =>
      rw [readSections]
      obtain ⟨turn, taken, found⟩ := readSection_found trans file memory pos before
      rw [taken]
      cases found with
      | whole sec entry here copied holds =>
          obtain ⟨ret, after, rest, stop, run, behind, stored, ending⟩ :=
            ih here.inside (by omega) (Function.update before sec.id entry)
          exact ⟨ret, after, sec :: rest, stop, run, .next here copied behind,
            stored.cons holds, ending⟩
      | marker here => exact ⟨0, before, [], pos, rfl, .stop, stored_nil, .inl ⟨rfl, here⟩⟩
      | faulty ret negative here =>
          exact ⟨ret, before, [], pos, rfl, .stop, stored_nil, .inr ⟨negative, here⟩⟩

/-! ## The file -/

theorem readHeader_eq (trans : NvmTrans) (file : List UInt8) :
    readHeader trans file =
      .ok (if HasHeader file ∧ trans.family8000 ∧ (trans.hwRev &&& 0xc) >>> 2 = 2 ∧
        le32At file 8 < 0xe4a then none else some (firstSection file)) := by
  unfold readHeader firstSection
  by_cases long : nvmHeaderSize < file.length
  · have long' : 16 < file.length := long
    rw [if_pos long, readLe32_of_le (by omega), readLe32_of_le (by omega),
      readLe32_of_le (by omega), readLe32_of_le (by omega)]
    simp only [bind, Except.bind]
    by_cases header : le32At file 0 = nvmHeader0 ∧ le32At file 4 = nvmHeader1
    · have has : HasHeader file := ⟨long, header⟩
      rw [if_pos header, if_pos has]
      simp only [has, true_and]
      split <;> rfl
    · have hasNone : ¬ HasHeader file := fun has => header has.2
      rw [if_neg header, if_neg hasNone, if_neg fun has => hasNone has.1]
      rfl
  · have hasNone : ¬ HasHeader file := fun has => long has.1
    rw [if_neg long, if_neg hasNone, if_neg fun has => hasNone has.1]
    rfl

/-- The reading of a file ends, stays inside the file, and fills the entries with what it read. -/
theorem external_nvm_exact (trans : NvmTrans) (file : List UInt8) (memory : Nat → Bool)
    (before : NvmSections) :
    ∃ ret after,
      iwlReadExternalNvm trans (.ok file) memory (file.length + 1) before =
        some (.ok (ret, after)) ∧
      ReadExactly trans file memory before ret after := by
  unfold iwlReadExternalNvm
  dsimp only
  split
  · next long => exact ⟨einval, before, rfl, .inl ⟨.inl long, by decide, rfl⟩⟩
  rw [readHeader_eq]
  by_cases old : HasHeader file ∧ trans.family8000 ∧ (trans.hwRev &&& 0xc) >>> 2 = 2 ∧
      le32At file 8 < 0xe4a
  · rw [if_pos old]
    exact ⟨efault, before, rfl, .inl ⟨.inr old, by decide, rfl⟩⟩
  · rw [if_neg old]
    have inside : firstSection file ≤ file.length := by
      rw [firstSection]
      split
      · next has => exact Nat.le_of_lt has.1
      · exact Nat.zero_le _
    have enough : file.length < firstSection file + (file.length + 1) := by omega
    obtain ⟨ret, after, sections, stop, run, laid, stored, ending⟩ :=
      readSections_from trans file memory inside enough before
    exact ⟨ret, after, run, .inr ⟨sections, stop, laid, stored, ending⟩⟩

end Iwlwifi.ExternalNvm
