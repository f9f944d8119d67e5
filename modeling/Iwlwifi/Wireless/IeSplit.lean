import Iwlwifi.Lib.ElementList

/-!
# Splitting element buffers

`ieee80211_ie_split_ric` of `net/wireless/util.c`.  It walks over the elements of a buffer as long
as their ids are in a list, and says where it stopped.  Behind a RIC data element the walk goes on
up to an element of a second list.  An element with an extended id is looked up by the byte behind
its length, and the functions here note which byte of the buffer each test looked at.
-/

namespace Iwlwifi.IeSplit

open Lib

/-! ## The functions -/

def eidRicData : Nat := 57
def eidFragment : Nat := 242
def eidExtension : Nat := 255

def idLoop (ids : List UInt8) (id : Nat) (idExt : Bool) (i : Nat) : BoundedRead Empty Bool :=
  if i < ids.length then do
    let entry ← readU8 ids i
    if entry = eidExtension then
      if idExt then do
        let ext ← readU8 ids (i + 1)
        if ext = id then return true else idLoop ids id idExt (i + 2)
      else idLoop ids id idExt (i + 2)
    else if entry = id ∧ idExt = false then return true
    else idLoop ids id idExt (i + 1)
  else return false
termination_by ids.length - i

/-- `ieee80211_id_in_list`. -/
def ieee80211IdInList (ids : List UInt8) (id : Nat) (idExt : Bool) : BoundedRead Empty Bool := do
  let last ← readU8 ids (ids.length - 1)
  if last = eidExtension then return false else idLoop ids id idExt 0

/-- The fragments behind an element of 255 bytes. -/
def skipFragments (ies : List UInt8) (pos : Nat) : BoundedRead Empty { next : Nat // pos ≤ next } :=
  if pos < ies.length then do
    let id ← readU8 ies pos
    if id = eidFragment then do
      let len ← readU8 ies (pos + 1)
      let ⟨next, behind⟩ ← skipFragments ies (pos + (2 + len))
      return ⟨next, Nat.le_trans (Nat.le_add_right _ _) behind⟩
    else return ⟨pos, Nat.le_refl pos⟩
  else return ⟨pos, Nat.le_refl pos⟩
termination_by ies.length - pos

/-- `skip_ie`. -/
def skipIe (ies : List UInt8) (pos : Nat) : BoundedRead Empty { next : Nat // pos < next } := do
  let len ← readU8 ies (pos + 1)
  if len < 255 then return ⟨pos + (2 + len), by omega⟩
  else do
    let ⟨next, behind⟩ ← skipFragments ies (pos + (2 + len))
    return ⟨next, by omega⟩

/-- The test of the element at `pos` looked at the byte `ofs`. -/
structure Look where
  pos : Nat
  ofs : Nat
  deriving DecidableEq

/-- Whether the element at `pos` is in the list, unless the byte that says so would lie behind the
buffer. -/
def testElement (ies ids : List UInt8) (pos : Nat) (looks : List Look) :
    BoundedRead Empty (Option Bool × List Look) := do
  let id ← readU8 ies pos
  let looks := ⟨pos, pos⟩ :: looks
  let ext := if id = eidExtension then 2 else 0
  if ies.length ≤ pos + ext then return (none, looks)
  else do
    let own ← readU8 ies (pos + ext)
    let inList ← ieee80211IdInList ids own (id == eidExtension)
    return (some inList, ⟨pos, pos + ext⟩ :: looks)

/-- The elements that belong to a RIC data element. -/
def ricLoop (ies afterRic : List UInt8) (pos : Nat) (looks : List Look) :
    BoundedRead Empty ({ next : Nat // pos ≤ next } × List Look) :=
  if pos < ies.length then do
    let (inList, looks) ← testElement ies afterRic pos looks
    if inList = some false then do
      let ⟨next, _behind⟩ ← skipIe ies pos
      let (⟨stop, behind'⟩, looks) ← ricLoop ies afterRic next looks
      return (⟨stop, by omega⟩, looks)
    else return (⟨pos, Nat.le_refl pos⟩, looks)
  else return (⟨pos, Nat.le_refl pos⟩, looks)
termination_by ies.length - pos

/-- `ieee80211_ie_split_ric`, with what the tests looked at. -/
def ieee80211IeSplitRic (ies ids afterRic : List UInt8) (pos : Nat) (looks : List Look) :
    BoundedRead Empty (Nat × List Look) :=
  if pos < ies.length then do
    let (inList, looks) ← testElement ies ids pos looks
    if inList = some true then do
      let id ← readU8 ies pos
      let ⟨next, _behind⟩ ← skipIe ies pos
      if id = eidRicData ∧ afterRic ≠ [] then do
        let (⟨stop, _behind'⟩, looks) ← ricLoop ies afterRic next looks
        ieee80211IeSplitRic ies ids afterRic stop looks
      else ieee80211IeSplitRic ies ids afterRic next looks
    else return (pos, looks)
  else return (pos, looks)
termination_by ies.length - pos

/-! ## What the walk is to do -/

/-- The ids of a list, each with whether it is an extended one. -/
def entries : List UInt8 → List (Bool × Nat)
  | [] => []
  | [id] => [(false, id.toNat)]
  | id :: ext :: ids =>
    if id.toNat = eidExtension then (true, ext.toNat) :: entries ids
    else (false, id.toNat) :: entries (ext :: ids)

/-- A list that may be passed: it does not end inside an extended id. -/
structure Legal (ids : List UInt8) : Prop where
  some' : ids ≠ []
  last : ∀ id ∈ ids.getLast?, id.toNat ≠ eidExtension

/-- The element's own id, or own extended id, is in the list. -/
def listed (ids : List UInt8) (e : Ie) : Bool :=
  if e.id.toNat = eidExtension then e.data.head?.any fun ext => (true, ext.toNat) ∈ entries ids
  else (false, e.id.toNat) ∈ entries ids

/-- What comes behind an element and its fragments. -/
def behindElement (e : Ie) (rest : List Ie) : List Ie :=
  if e.data.length < 255 then rest else rest.dropWhile fun f => f.id.toNat == eidFragment

theorem behindElement_length (e : Ie) (rest : List Ie) :
    (behindElement e rest).length ≤ rest.length := by
  rw [behindElement]
  split
  · exact Nat.le_refl _
  · exact (List.dropWhile_sublist _).length_le

theorem behindElement_nil (e : Ie) : behindElement e [] = [] :=
  List.eq_nil_of_length_eq_zero (Nat.le_zero.mp (behindElement_length e []))

/-- From some elements on, elements that are not in the list `afterRic` are passed over. -/
inductive InRic (afterRic : List UInt8) : List Ie → List Ie → Prop
  | done (es : List Ie) : InRic afterRic es es
  | member {e : Ie} {rest stop : List Ie} (inside : listed afterRic e = false)
      (further : InRic afterRic (behindElement e rest) stop) : InRic afterRic (e :: rest) stop

/-- From some elements on, elements that are in the list `ids` are passed over with their
fragments, and RIC data elements with what belongs to them. -/
inductive Passes (ids afterRic : List UInt8) : List Ie → List Ie → Prop
  | done (es : List Ie) : Passes ids afterRic es es
  | element {e : Ie} {rest stop : List Ie} (inList : listed ids e = true)
      (further : Passes ids afterRic (behindElement e rest) stop) :
      Passes ids afterRic (e :: rest) stop
  | ric {e : Ie} {rest mid stop : List Ie} (inList : listed ids e = true)
      (data : e.id.toNat = eidRicData) (group : InRic afterRic (behindElement e rest) mid)
      (further : Passes ids afterRic mid stop) : Passes ids afterRic (e :: rest) stop

/-- `pos` is where the elements `es` begin, which are the last ones of the buffer. -/
def Boundary (ies : List UInt8) (es : List Ie) (pos : Nat) : Prop :=
  ∃ front, ies = front ++ bytesOf es ∧ pos = front.length

/-- A test looked at the element that was tested. -/
def Look.Own (ies : List UInt8) (look : Look) : Prop :=
  look.pos ≤ look.ofs ∧ look.ofs < (elemAt ies look.pos).after

/-! ## Where the walk goes wrong -/

/-- The elements begin with an extension element that has no extended id, and go on. -/
def emptyExtension : List Ie → Bool
  | e :: _ :: _ => e.id.toNat == eidExtension && e.data == []
  | _ => false

/-- The elements from the first one in the list on. -/
def ricRest (afterRic : List UInt8) : List Ie → List Ie
  | [] => []
  | e :: rest =>
    if listed afterRic e then e :: rest else ricRest afterRic (behindElement e rest)
termination_by es => es.length
decreasing_by exact Nat.lt_succ_of_le (behindElement_length e rest)

/-- The elements that are tested behind a RIC data element, each with what follows it. -/
def testedRic (afterRic : List UInt8) : List Ie → List (List Ie)
  | [] => []
  | e :: rest => (e :: rest) ::
      if listed afterRic e then [] else testedRic afterRic (behindElement e rest)
termination_by es => es.length
decreasing_by exact Nat.lt_succ_of_le (behindElement_length e rest)

theorem ricRest_length (afterRic : List UInt8) (es : List Ie) :
    (ricRest afterRic es).length ≤ es.length := by
  fun_induction ricRest afterRic es with
  | case1 => exact Nat.le_refl _
  | case2 => exact Nat.le_refl _
  | case3 e rest not next =>
    exact Nat.le_trans next (Nat.le_succ_of_le (behindElement_length e rest))

/-- The elements that are tested, each with what follows it. -/
def tested (ids afterRic : List UInt8) : List Ie → List (List Ie)
  | [] => []
  | e :: rest => (e :: rest) ::
      if listed ids e then
        if e.id.toNat = eidRicData ∧ afterRic ≠ [] then
          testedRic afterRic (behindElement e rest) ++
            tested ids afterRic (ricRest afterRic (behindElement e rest))
        else tested ids afterRic (behindElement e rest)
      else []
termination_by es => es.length
decreasing_by
  · exact Nat.lt_succ_of_le (Nat.le_trans (ricRest_length _ _) (behindElement_length e rest))
  · exact Nat.lt_succ_of_le (behindElement_length e rest)

/-- No element that is tested is an extension element without an extended id that another element
follows. -/
def Fine (tests : List (List Ie)) : Prop := ∀ t ∈ tests, emptyExtension t = false

instance {tests : List (List Ie)} : Decidable (Fine tests) :=
  inferInstanceAs (Decidable (∀ t ∈ tests, emptyExtension t = false))

theorem fine_cons {t : List Ie} {tests : List (List Ie)} :
    Fine (t :: tests) ↔ emptyExtension t = false ∧ Fine tests := List.forall_mem_cons

theorem fine_append {tests tests' : List (List Ie)} :
    Fine (tests ++ tests') ↔ Fine tests ∧ Fine tests' := List.forall_mem_append

theorem fine_nil : Fine [] := nofun

/-! ## The list -/

section InList

variable {ids : List UInt8} {id : Nat} {idExt : Bool}

theorem idLoop_end (ids : List UInt8) (id : Nat) (idExt : Bool) :
    idLoop ids id idExt ids.length = .ok false := by
  rw [idLoop, if_neg (Nat.lt_irrefl _)]
  rfl

/-- An entry of one byte. -/
theorem idLoop_plain (front : List UInt8) {entry : UInt8} (rest : List UInt8)
    (plain : entry.toNat ≠ eidExtension) :
    idLoop (front ++ entry :: rest) id idExt front.length =
      if entry.toNat = id ∧ idExt = false then .ok true
      else idLoop (front ++ entry :: rest) id idExt (front.length + 1) := by
  have inside : front.length + 1 ≤ (front ++ entry :: rest).length := by simp
  have value : u8At (front ++ entry :: rest) front.length = entry.toNat :=
    u8At_append_right front (entry :: rest) 0
  rw [idLoop, if_pos (by omega), readU8_of_le inside, value]
  simp only [bind, Except.bind, pure, Except.pure]
  rw [if_neg plain]

/-- An entry of two bytes. -/
theorem idLoop_extended (front : List UInt8) {entry : UInt8} (ext : UInt8) (rest : List UInt8)
    (extended : entry.toNat = eidExtension) :
    idLoop (front ++ entry :: ext :: rest) id idExt front.length =
      if ext.toNat = id ∧ idExt = true then .ok true
      else idLoop (front ++ entry :: ext :: rest) id idExt (front.length + 2) := by
  have inside : front.length + 1 + 1 ≤ (front ++ entry :: ext :: rest).length := by
    simp only [List.length_append, List.length_cons]
    omega
  have value : u8At (front ++ entry :: ext :: rest) front.length = entry.toNat :=
    u8At_append_right front (entry :: ext :: rest) 0
  have value' : u8At (front ++ entry :: ext :: rest) (front.length + 1) = ext.toNat :=
    u8At_append_right front (entry :: ext :: rest) 1
  rw [idLoop, if_pos (by omega), readU8_of_le (by omega), readU8_of_le inside, value, value']
  simp only [bind, Except.bind, pure, Except.pure]
  rw [if_pos extended]
  cases idExt with
  | false => simp only [Bool.false_eq_true, if_false, and_false]
  | true => simp only [if_true, and_true]

theorem idLoop_eq (front : List UInt8) (last : ∀ id ∈ ids.getLast?, id.toNat ≠ eidExtension) :
    idLoop (front ++ ids) id idExt front.length = .ok (decide ((idExt, id) ∈ entries ids)) := by
  fun_induction entries ids generalizing front with
  | case1 =>
    rw [List.append_nil, idLoop_end]
    rfl
  | case2 entry =>
    have behind : front.length + 1 = (front ++ [entry]).length := by simp
    rw [idLoop_plain front [] (last entry rfl), behind, idLoop_end]
    simp only [List.mem_singleton, Prod.mk.injEq]
    split
    · next found => rw [decide_eq_true ⟨found.2, found.1.symm⟩]
    · next other => rw [decide_eq_false fun same => other ⟨same.2.symm, same.1⟩]
  | case3 entry ext ids extended ih =>
    have rest := ih (front ++ [entry, ext]) fun id found => last id (by
      rw [List.getLast?_cons_cons, List.getLast?_cons, found, Option.getD_some]; rfl)
    have behind : (front ++ [entry, ext]).length = front.length + 2 := by simp
    rw [List.append_assoc, behind, List.cons_append, List.singleton_append] at rest
    rw [idLoop_extended front ext ids extended, rest]
    simp only [List.mem_cons, Prod.mk.injEq]
    split
    · next found => rw [decide_eq_true (.inl ⟨found.2, found.1.symm⟩)]
    · next other =>
        refine congrArg _ (decide_eq_decide.mpr (or_iff_right ?_).symm)
        exact fun same => other ⟨same.2.symm, same.1⟩
  | case4 entry ext ids plain ih =>
    have rest := ih (front ++ [entry]) fun id found => last id (by
      rwa [List.getLast?_cons_cons])
    have behind : (front ++ [entry]).length = front.length + 1 := by simp
    rw [List.append_assoc, behind, List.singleton_append] at rest
    rw [idLoop_plain front (ext :: ids) plain, rest]
    simp only [List.mem_cons, Prod.mk.injEq]
    split
    · next found => rw [decide_eq_true (.inl ⟨found.2, found.1.symm⟩)]
    · next other =>
        refine congrArg _ (decide_eq_decide.mpr (or_iff_right ?_).symm)
        exact fun same => other ⟨same.2.symm, same.1⟩

theorem ieee80211IdInList_eq (legal : Legal ids) :
    ieee80211IdInList ids id idExt = .ok (decide ((idExt, id) ∈ entries ids)) := by
  have some' := List.length_pos_of_ne_nil legal.some'
  have final : u8At ids (ids.length - 1) ≠ eidExtension := by
    refine legal.last (ids.getD (ids.length - 1) 0) ?_
    rw [List.getLast?_eq_getElem?, List.getD_eq_getElem?_getD,
      List.getElem?_eq_getElem (by omega)]
    rfl
  rw [ieee80211IdInList, readU8_of_le (by omega)]
  simp only [bind, Except.bind]
  rw [if_neg final]
  exact idLoop_eq [] legal.last

end InList

/-! ## From boundary to boundary -/

section Boundaries

variable {ies ids afterRic : List UInt8} {e : Ie} {es rest : List Ie} {pos : Nat}

theorem Boundary.begin (front : List UInt8) (es : List Ie) :
    Boundary (front ++ bytesOf es) es front.length := ⟨front, rfl, rfl⟩

theorem Boundary.end (boundary : Boundary ies [] pos) : pos = ies.length := by
  obtain ⟨front, rfl, rfl⟩ := boundary
  rw [bytesOf_nil, List.append_nil]

theorem Boundary.length (boundary : Boundary ies (e :: rest) pos) :
    ies.length = pos + (2 + e.data.length) + (bytesOf rest).length := by
  obtain ⟨front, rfl, rfl⟩ := boundary
  rw [bytesOf_cons, List.length_append, List.length_append, e.bytes_length]
  omega

theorem Boundary.id (boundary : Boundary ies (e :: rest) pos) : u8At ies pos = e.id.toNat := by
  obtain ⟨front, rfl, rfl⟩ := boundary
  exact u8At_id front e (bytesOf rest)

theorem Boundary.len (boundary : Boundary ies (e :: rest) pos) :
    u8At ies (pos + 1) = e.data.length := by
  obtain ⟨front, rfl, rfl⟩ := boundary
  exact u8At_len front e (bytesOf rest)

theorem Boundary.next (boundary : Boundary ies (e :: rest) pos) :
    Boundary ies rest (pos + (2 + e.data.length)) := by
  obtain ⟨front, rfl, rfl⟩ := boundary
  refine ⟨front ++ e.bytes, ?_, ?_⟩
  · rw [List.append_assoc, bytesOf_cons]
  · rw [List.length_append, e.bytes_length]
    omega

theorem Boundary.after (boundary : Boundary ies (e :: rest) pos) :
    (elemAt ies pos).after = pos + (2 + e.data.length) := by
  rw [elemAt, boundary.len]
  change pos + 2 + e.data.length = _
  omega

theorem skipFragments_boundary (boundary : Boundary ies es pos) :
    ∃ next, skipFragments ies pos = .ok next ∧
      Boundary ies (es.dropWhile fun f => f.id.toNat == eidFragment) next := by
  induction es generalizing pos with
  | nil =>
    rw [skipFragments, if_neg (by rw [boundary.end]; exact Nat.lt_irrefl _)]
    exact ⟨_, rfl, boundary⟩
  | cons e rest ih =>
    have length := boundary.length
    rw [skipFragments, if_pos (by omega), readU8_of_le (by omega), boundary.id]
    simp only [bind, Except.bind]
    by_cases fragment : e.id.toNat = eidFragment
    · obtain ⟨next, skipped, there⟩ := ih boundary.next
      rw [if_pos fragment, readU8_of_le (by omega), boundary.len,
        List.dropWhile_cons, if_pos (beq_iff_eq.mpr fragment)]
      simp only [skipped]
      exact ⟨_, rfl, there⟩
    · rw [if_neg fragment, List.dropWhile_cons, if_neg (by simpa using fragment)]
      exact ⟨_, rfl, boundary⟩

theorem skipIe_boundary (boundary : Boundary ies (e :: rest) pos) :
    ∃ next, skipIe ies pos = .ok next ∧ Boundary ies (behindElement e rest) next := by
  have length := boundary.length
  rw [skipIe, readU8_of_le (by omega), boundary.len]
  simp only [bind, Except.bind]
  by_cases short : e.data.length < 255
  · rw [if_pos short, behindElement, if_pos short]
    exact ⟨_, rfl, boundary.next⟩
  · obtain ⟨next, skipped, there⟩ := skipFragments_boundary boundary.next
    rw [if_neg short, behindElement, if_neg short, skipped]
    exact ⟨_, rfl, there⟩

/-- What a test answers, and whether it looked at the element only. -/
theorem testElement_boundary (legal : Legal ids) (boundary : Boundary ies (e :: rest) pos)
    (looks : List Look) :
    ∃ answer new, testElement ies ids pos looks = .ok (answer, new ++ looks) ∧
      (emptyExtension (e :: rest) = false ↔ ∀ look ∈ new, look.Own ies) ∧
      (emptyExtension (e :: rest) = false → answer = some (listed ids e) ∨
        answer = none ∧ rest = [] ∧ e.id.toNat = eidExtension ∧ e.data = []) := by
  have length := boundary.length
  have inside : pos < (elemAt ies pos).after := by
    rw [boundary.after]
    omega
  have first : Look.Own ies ⟨pos, pos⟩ := ⟨Nat.le_refl _, inside⟩
  rw [testElement, readU8_of_le (by omega), boundary.id]
  simp only [bind, Except.bind]
  by_cases extended : e.id.toNat = eidExtension
  · rw [if_pos extended, beq_iff_eq.mpr extended]
    cases data : e.data with
    | nil =>
      rw [data, List.length_nil] at length
      cases rest with
      | nil =>
        rw [bytesOf_nil, List.length_nil] at length
        rw [if_pos (by omega)]
        exact ⟨none, [⟨pos, pos⟩], rfl, iff_of_true rfl (by simpa using first),
          fun _ => .inr ⟨rfl, rfl, extended, rfl⟩⟩
      | cons f rest =>
        rw [bytesOf_cons, List.length_append, f.bytes_length] at length
        rw [if_neg (by omega), readU8_of_le (by omega)]
        simp only [ieee80211IdInList_eq legal]
        have empty : emptyExtension (e :: f :: rest) = true := by
          rw [emptyExtension, data, beq_iff_eq.mpr extended]
          rfl
        refine ⟨_, [⟨pos, pos + 2⟩, ⟨pos, pos⟩], rfl, iff_of_false ?_ ?_, ?_⟩
        · rw [empty]
          nofun
        · intro own
          have beyond := (own _ (.head _)).2
          rw [boundary.after, data] at beyond
          exact absurd beyond (Nat.lt_irrefl _)
        · rw [empty]
          nofun
    | cons ext data' =>
      rw [data, List.length_cons] at length
      have own : u8At ies (pos + 2) = ext.toNat := by
        obtain ⟨front, rfl, rfl⟩ := boundary
        have filled : 0 < e.data.length := by
          rw [data]
          exact Nat.succ_pos _
        have read := u8At_data front e (bytesOf rest) filled
        rwa [data] at read
      have inside' : pos + 2 < (elemAt ies pos).after := by
        rw [boundary.after, data, List.length_cons]
        omega
      have filled : emptyExtension (e :: rest) = false := by
        cases rest with
        | nil => rfl
        | cons f rest =>
          rw [emptyExtension, data]
          exact Bool.and_false _
      rw [if_neg (by omega), readU8_of_le (by omega), own]
      simp only [ieee80211IdInList_eq legal]
      refine ⟨_, [⟨pos, pos + 2⟩, ⟨pos, pos⟩], rfl, iff_of_true filled ?_, fun _ => .inl ?_⟩
      · simp only [List.forall_mem_cons]
        exact ⟨⟨Nat.le_add_right _ _, inside'⟩, first, nofun⟩
      · rw [listed, if_pos extended, data]
        rfl
  · have filled : emptyExtension (e :: rest) = false := by
      cases rest with
      | nil => rfl
      | cons f rest =>
        rw [emptyExtension, beq_eq_false_iff_ne.mpr extended]
        rfl
    rw [if_neg extended, Nat.add_zero, if_neg (by omega), readU8_of_le (by omega), boundary.id,
      beq_eq_false_iff_ne.mpr extended]
    simp only [ieee80211IdInList_eq legal]
    refine ⟨_, [⟨pos, pos⟩, ⟨pos, pos⟩], rfl, iff_of_true filled ?_, fun _ => .inl ?_⟩
    · simp only [List.forall_mem_cons]
      exact ⟨first, first, nofun⟩
    · rw [listed, if_neg extended]

/-- A last extension element without an extended id is in no list. -/
theorem listed_of_empty (ids : List UInt8) (extended : e.id.toNat = eidExtension)
    (empty : e.data = []) : listed ids e = false := by
  rw [listed, if_pos extended, empty]
  rfl

theorem fine_last (extended : e.id.toNat = eidExtension) (empty : e.data = []) :
    Fine (tested ids afterRic [e]) := by
  rw [tested, listed_of_empty ids extended empty]
  exact fine_cons.mpr ⟨rfl, fine_nil⟩

theorem ricLoop_boundary (legal : Legal afterRic) (boundary : Boundary ies es pos)
    (looks : List Look) :
    ∃ stop rest new, ricLoop ies afterRic pos looks = .ok (stop, new ++ looks) ∧
      Boundary ies rest stop ∧ rest.length ≤ es.length ∧
      (Fine (testedRic afterRic es) ↔ ∀ look ∈ new, look.Own ies) ∧
      (Fine (testedRic afterRic es) → InRic afterRic es rest ∧ ∀ ids,
        Fine (tested ids afterRic rest) ↔ Fine (tested ids afterRic (ricRest afterRic es))) := by
  generalize size : es.length = n
  induction n using Nat.strong_induction_on generalizing es pos looks with
  | _ n ih =>
    cases es with
    | nil =>
      rw [ricLoop, if_neg (by rw [boundary.end]; exact Nat.lt_irrefl _), testedRic]
      exact ⟨_, [], [], rfl, boundary, Nat.zero_le _, iff_of_true fine_nil nofun,
        fun _ => ⟨.done _, fun ids => by rw [ricRest]⟩⟩
    | cons e rest =>
      have length := boundary.length
      obtain ⟨answer, new, test, fine, decided⟩ := testElement_boundary legal boundary looks
      rw [ricLoop, if_pos (by omega), test, testedRic, fine_cons, fine]
      simp only [bind, Except.bind]
      by_cases outside : answer = some false
      · obtain ⟨next, skipped, there⟩ := skipIe_boundary boundary
        have shorter := behindElement_length e rest
        rw [List.length_cons] at size
        obtain ⟨stop, last, new', walked, there', fewer, fine', decided'⟩ :=
          ih _ (by omega) there (new ++ looks) rfl
        rw [if_pos outside, skipped]
        simp only [walked]
        refine ⟨_, last, new' ++ new, by rw [List.append_assoc]; rfl, there', by omega, ?_⟩
        have notListed : (∀ look ∈ new, look.Own ies) → listed afterRic e = false := by
          intro own
          rcases decided (fine.mpr own) with same | ⟨none', -⟩
          · exact (Option.some.inj (outside.symm.trans same)).symm
          · rw [none'] at outside
            cases outside
        constructor
        · rw [List.forall_mem_append]
          constructor
          · rintro ⟨own, further⟩
            rw [notListed own] at further
            exact ⟨fine'.mp further, own⟩
          · rintro ⟨own', own⟩
            rw [notListed own]
            exact ⟨own, fine'.mpr own'⟩
        · rintro ⟨own, further⟩
          rw [notListed own] at further
          obtain ⟨group, same⟩ := decided' further
          refine ⟨.member (notListed own) group, fun ids => ?_⟩
          rw [ricRest, notListed own]
          exact same ids
      · rw [if_neg outside]
        refine ⟨_, e :: rest, new, rfl, boundary, Nat.le_of_eq size, ?_⟩
        have ends : (∀ look ∈ new, look.Own ies) → listed afterRic e = true ∨
            rest = [] ∧ e.id.toNat = eidExtension ∧ e.data = [] := by
          intro own
          rcases decided (fine.mpr own) with same | ⟨-, last⟩
          · refine .inl (Bool.of_not_eq_false fun no => outside ?_)
            rw [same, no]
          · exact .inr last
        constructor
        · refine and_iff_left_of_imp fun own => ?_
          rcases ends own with inList | ⟨rfl, -⟩
          · rw [inList]
            exact fine_nil
          · rw [behindElement_nil, testedRic]
            split <;> exact fine_nil
        · rintro ⟨own, -⟩
          refine ⟨.done _, fun ids => ?_⟩
          rcases ends own with inList | ⟨rfl, extended, empty⟩
          · rw [ricRest, inList]
            exact Iff.rfl
          · rw [ricRest, listed_of_empty afterRic extended empty, behindElement_nil]
            refine iff_of_true (fine_last extended empty) ?_
            rw [if_neg Bool.false_ne_true, ricRest, tested]
            exact fine_nil

/-- A call from the start of an element on. -/
theorem ieSplit_boundary (legal : Legal ids) (legal' : afterRic ≠ [] → Legal afterRic)
    (boundary : Boundary ies es pos) (looks : List Look) :
    ∃ stop rest new, ieee80211IeSplitRic ies ids afterRic pos looks = .ok (stop, new ++ looks) ∧
      Boundary ies rest stop ∧
      (Fine (tested ids afterRic es) ↔ ∀ look ∈ new, look.Own ies) ∧
      (Fine (tested ids afterRic es) →
        Passes ids afterRic es rest ∧ ∀ e ∈ rest.head?, listed ids e = false) := by
  generalize size : es.length = n
  induction n using Nat.strong_induction_on generalizing es pos looks with
  | _ n ih =>
    cases es with
    | nil =>
      rw [ieee80211IeSplitRic, if_neg (by rw [boundary.end]; exact Nat.lt_irrefl _), tested]
      exact ⟨_, [], [], rfl, boundary, iff_of_true fine_nil nofun,
        fun _ => ⟨.done _, nofun⟩⟩
    | cons e rest =>
      have length := boundary.length
      obtain ⟨answer, new, test, fine, decided⟩ := testElement_boundary legal boundary looks
      rw [ieee80211IeSplitRic, if_pos (by omega), test, tested, fine_cons, fine]
      simp only [bind, Except.bind]
      by_cases inside : answer = some true
      · obtain ⟨next, skipped, there⟩ := skipIe_boundary boundary
        have shorter := behindElement_length e rest
        rw [List.length_cons] at size
        rw [if_pos inside, readU8_of_le (by omega), boundary.id, skipped]
        simp only
        have isListed : (∀ look ∈ new, look.Own ies) → listed ids e = true := by
          intro own
          rcases decided (fine.mpr own) with same | ⟨none', -⟩
          · exact (Option.some.inj (inside.symm.trans same)).symm
          · rw [none'] at inside
            cases inside
        by_cases ric : e.id.toNat = eidRicData ∧ afterRic ≠ []
        · obtain ⟨mid, between, new', walked, there', fewer, fine', grouped⟩ :=
            ricLoop_boundary (legal' ric.2) there (new ++ looks)
          obtain ⟨stop, last, new'', walked', there'', fine'', passed⟩ :=
            ih between.length (by omega) there' (new' ++ (new ++ looks)) rfl
          rw [if_pos ric]
          simp only [walked, walked']
          refine ⟨_, last, new'' ++ (new' ++ new), ?_, there'', ?_⟩
          · rw [List.append_assoc, List.append_assoc]
          constructor
          · simp only [List.forall_mem_append]
            constructor
            · rintro ⟨own, further⟩
              rw [if_pos (isListed own), if_pos ric, fine_append] at further
              exact ⟨fine''.mp (((grouped further.1).2 ids).mpr further.2),
                fine'.mp further.1, own⟩
            · rintro ⟨own'', own', own⟩
              rw [if_pos (isListed own), if_pos ric, fine_append]
              have group := fine'.mpr own'
              exact ⟨own, group, ((grouped group).2 ids).mp (fine''.mpr own'')⟩
          · rintro ⟨own, further⟩
            rw [if_pos (isListed own), if_pos ric, fine_append] at further
            obtain ⟨group, same⟩ := grouped further.1
            obtain ⟨passes, stops⟩ := passed ((same ids).mpr further.2)
            exact ⟨.ric (isListed own) ric.1 group passes, stops⟩
        · obtain ⟨stop, last, new', walked, there', fine', passed⟩ :=
            ih _ (by omega) there (new ++ looks) rfl
          rw [if_neg ric]
          simp only [walked]
          refine ⟨_, last, new' ++ new, by rw [List.append_assoc], there', ?_⟩
          constructor
          · rw [List.forall_mem_append]
            constructor
            · rintro ⟨own, further⟩
              rw [if_pos (isListed own), if_neg ric] at further
              exact ⟨fine'.mp further, own⟩
            · rintro ⟨own', own⟩
              rw [if_pos (isListed own), if_neg ric]
              exact ⟨own, fine'.mpr own'⟩
          · rintro ⟨own, further⟩
            rw [if_pos (isListed own), if_neg ric] at further
            obtain ⟨passes, stops⟩ := passed further
            exact ⟨.element (isListed own) passes, stops⟩
      · rw [if_neg inside]
        refine ⟨_, e :: rest, new, rfl, boundary, ?_⟩
        have notListed : (∀ look ∈ new, look.Own ies) → listed ids e = false := by
          intro own
          rcases decided (fine.mpr own) with same | ⟨-, -, extended, empty⟩
          · refine Bool.of_not_eq_true fun yes => inside ?_
            rw [same, yes]
          · exact listed_of_empty ids extended empty
        constructor
        · refine and_iff_left_of_imp fun own => ?_
          rw [notListed own]
          exact fine_nil
        · rintro ⟨own, -⟩
          refine ⟨.done _, fun f head => ?_⟩
          cases head
          exact notListed own

end Boundaries

/-! ## The function -/

/-- A call that starts behind the elements `done` stops where another element begins, or at the
end.  It has passed over what it may pass over and nothing more, and no test looked at another
element than the one that it was about. -/
def CutsRightly (done es : List Ie) (ids afterRic : List UInt8) : Prop :=
  ∃ stop looks, ieee80211IeSplitRic (bytesOf (done ++ es)) ids afterRic (bytesOf done).length [] =
      .ok (stop, looks) ∧
    (∀ look ∈ looks, look.Own (bytesOf (done ++ es))) ∧
    ∃ rest, Boundary (bytesOf (done ++ es)) rest stop ∧ Passes ids afterRic es rest ∧
      ∀ e ∈ rest.head?, listed ids e = false

/-- The function does so unless it tests an extension element without an extended id that another
element follows. -/
theorem cutsRightly_iff (done es : List Ie) {ids afterRic : List UInt8} (legal : Legal ids)
    (legal' : afterRic ≠ [] → Legal afterRic) :
    CutsRightly done es ids afterRic ↔ Fine (tested ids afterRic es) := by
  have start : Boundary (bytesOf (done ++ es)) es (bytesOf done).length := by
    rw [bytesOf_append]
    exact .begin _ _
  obtain ⟨stop, rest, new, split, there, fine, passes⟩ := ieSplit_boundary legal legal' start []
  rw [List.append_nil] at split
  constructor
  · rintro ⟨stop', looks, split', own, -⟩
    rw [split] at split'
    cases split'
    exact fine.mpr own
  · exact fun holds => ⟨stop, new, split, fine.mp holds, rest, there, passes holds⟩

/-- A RIC data element with one element that belongs to it, and an element with an extended id. -/
def ricElements : List Ie :=
  [⟨57, [1, 1, 0, 0], by decide⟩, ⟨4, [9], by decide⟩, ⟨255, [35, 7], by decide⟩,
    ⟨221, [], by decide⟩]

theorem cutsRightly_iff_ric :
    CutsRightly [⟨0, [8], by decide⟩] ricElements [57, 255, 35] [221, 255, 35] := by
  have legal : Legal [57, 255, 35] := ⟨nofun, by rintro id ⟨⟩; decide⟩
  have legal' : Legal [221, 255, 35] := ⟨nofun, by rintro id ⟨⟩; decide⟩
  have fine : Fine (tested [57, 255, 35] [221, 255, 35] ricElements) := by decide +kernel
  exact (cutsRightly_iff _ _ legal fun _ => legal').mpr fine

/-- An extension element without an extended id is passed over because of the id of the element
behind it. -/
theorem not_cutsRightly :
    ¬ CutsRightly [] [⟨255, [], by decide⟩, ⟨35, [7], by decide⟩] [255, 35] [] := by
  rintro ⟨stop, looks, split, own, -⟩
  have run : ieee80211IeSplitRic [255, 0, 35, 1, 7] [255, 35] [] 0 [] =
      .ok (2, [⟨2, 2⟩, ⟨2, 2⟩, ⟨0, 2⟩, ⟨0, 0⟩]) := by decide +kernel
  cases run.symm.trans split
  exact absurd (own ⟨0, 2⟩ (by decide)).2 (by decide)

end Iwlwifi.IeSplit
