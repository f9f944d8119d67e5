import Iwlwifi.Lib.BoundedRead
import Iwlwifi.Lib.Overwrite

/-!
# Elements of a buffer

A buffer that holds elements: a byte that says what the element is, a byte that says how long its
data are, and the data.  A walk visits the elements one after another as long as the next one is
there in full, and it may be left early.  `elements` lists what such a walk visits, and
`forEachElement_eq` reduces the walk to a recursion over that list, so that nothing has to be
proved about offsets again.
-/

namespace Iwlwifi.Lib

/-- An element: where it starts, what it is and how long its data are. -/
structure Elem where
  ofs : Nat
  id : Nat
  len : Nat
  deriving DecidableEq

namespace Elem

def data (e : Elem) : Nat := e.ofs + 2

/-- The first offset behind the element. -/
def after (e : Elem) : Nat := e.ofs + 2 + e.len

theorem after_eq (e : Elem) : e.after = e.data + e.len := rfl

end Elem

/-- The element whose first byte lies at `ofs`. -/
def elemAt (bytes : List UInt8) (ofs : Nat) : Elem := ⟨ofs, u8At bytes ofs, u8At bytes (ofs + 1)⟩

/-- The elements from `ofs` on that end before `stop`. -/
def elements (bytes : List UInt8) (stop ofs : Nat) : List Elem :=
  if ofs + 2 ≤ stop then
    if (elemAt bytes ofs).after ≤ stop then
      elemAt bytes ofs :: elements bytes stop (elemAt bytes ofs).after
    else []
  else []
termination_by stop - ofs
decreasing_by
  simp only [Elem.after, elemAt]
  omega

variable {ε σ α : Type}

/-- Visit the elements from `ofs` on that end before `stop`.  The result says where the walk
stopped. -/
def forEachElement (bytes : List UInt8) (stop : Nat) (body : Elem → σ → BoundedRead ε (ForInStep σ))
    (ofs : Nat) (s : σ) : BoundedRead ε (Nat × σ) :=
  if ofs + 2 ≤ stop then do
    let len ← readU8 bytes (ofs + 1)
    if ofs + 2 + len ≤ stop then do
      let id ← readU8 bytes ofs
      match ← body ⟨ofs, id, len⟩ s with
      | .done s => return (ofs, s)
      | .yield s => forEachElement bytes stop body (ofs + 2 + len) s
    else return (ofs, s)
  else return (ofs, s)
termination_by stop - ofs
decreasing_by omega

/-- The walk over a list of elements. -/
def visit (body : Elem → σ → BoundedRead ε (ForInStep σ)) : List Elem → σ → BoundedRead ε σ
  | [], s => .ok s
  | e :: rest, s => do
      match ← body e s with
      | .done s => return s
      | .yield s => visit body rest s

/-- The bytes of a part of the buffer. -/
def readBytes (bytes : List UInt8) (ofs n : Nat) :
    BoundedRead ε { part : List UInt8 // part.length = n } :=
  if inside : ofs + n ≤ bytes.length then .ok ⟨window bytes ofs n, window_length inside⟩
  else .error .outOfBounds

variable {bytes : List UInt8} {stop ofs n : Nat} {e : Elem} {s : σ}
  {body : Elem → σ → BoundedRead ε (ForInStep σ)}

theorem readBytes_of_le (inside : ofs + n ≤ bytes.length) :
    (readBytes bytes ofs n : BoundedRead ε _) = .ok ⟨window bytes ofs n, window_length inside⟩ :=
  dif_pos inside

/-! ## The elements -/

theorem elements_of_end (atEnd : ¬ ofs + 2 ≤ stop) : elements bytes stop ofs = [] := by
  rw [elements, if_neg atEnd]

/-- An element that is visited lies between the offsets, and is what its two bytes say. -/
theorem mem_elements (visited : e ∈ elements bytes stop ofs) :
    ofs ≤ e.ofs ∧ e.after ≤ stop ∧ e = elemAt bytes e.ofs := by
  fun_induction elements bytes stop ofs with
  | case1 ofs room whole next =>
    rcases List.mem_cons.mp visited with rfl | further
    · exact ⟨Nat.le_refl _, whole, rfl⟩
    · obtain ⟨behind, inside, same⟩ := next further
      refine ⟨Nat.le_trans ?_ behind, inside, same⟩
      simp only [Elem.after, elemAt]
      omega
  | case2 => cases visited
  | case3 => cases visited

/-- Every element begins behind the one before it. -/
theorem elements_pairwise (bytes : List UInt8) (stop ofs : Nat) :
    (elements bytes stop ofs).Pairwise fun a b => a.after ≤ b.ofs := by
  fun_induction elements bytes stop ofs with
  | case1 ofs room whole next =>
    exact List.pairwise_cons.mpr ⟨fun b later => (mem_elements later).1, next⟩
  | case2 => exact .nil
  | case3 => exact .nil

/-- Two elements do not overlap. -/
theorem elements_apart {a b : Elem} (listed : a ∈ elements bytes stop ofs)
    (listed' : b ∈ elements bytes stop ofs) : a = b ∨ a.after ≤ b.ofs ∨ b.after ≤ a.ofs := by
  have before := List.pairwise_iff_getElem.mp (elements_pairwise bytes stop ofs)
  obtain ⟨i, insideI, rfl⟩ := List.getElem_of_mem listed
  obtain ⟨j, insideJ, rfl⟩ := List.getElem_of_mem listed'
  rcases Nat.lt_trichotomy i j with less | rfl | more
  · exact .inr (.inl (before i j insideI insideJ less))
  · exact .inl rfl
  · exact .inr (.inr (before j i insideJ insideI more))

/-! ## A walk -/

/-- A walk inside the buffer is the walk over the elements. -/
theorem forEachElement_eq (inside : stop ≤ bytes.length) :
    Prod.snd <$> forEachElement bytes stop body ofs s = visit body (elements bytes stop ofs) s := by
  fun_induction elements bytes stop ofs generalizing s with
  | case1 ofs room whole next =>
    rw [forEachElement, if_pos room, readU8_of_le (by omega)]
    change Prod.snd <$> (if (elemAt bytes ofs).after ≤ stop then _ else _ : BoundedRead ε _) = _
    rw [if_pos whole, readU8_of_le (by omega)]
    change Prod.snd <$> (body (elemAt bytes ofs) s >>= _) = body (elemAt bytes ofs) s >>= _
    cases body (elemAt bytes ofs) s with
    | error stopped => rfl
    | ok step =>
      cases step with
      | done s => rfl
      | yield s => exact next
  | case2 ofs room cut =>
    rw [forEachElement, if_pos room, readU8_of_le (by omega)]
    change Prod.snd <$> (if (elemAt bytes ofs).after ≤ stop then _ else _ : BoundedRead ε _) = _
    rw [if_neg cut]
    rfl
  | case3 ofs atEnd =>
    rw [forEachElement, if_neg atEnd]
    rfl

theorem forEachElement_of_visit {s' : σ} (inside : stop ≤ bytes.length)
    (walked : visit body (elements bytes stop ofs) s = .ok s') :
    ∃ last, forEachElement bytes stop body ofs s = .ok (last, s') := by
  rw [← forEachElement_eq inside] at walked
  cases result : forEachElement bytes stop body ofs s with
  | error stopped =>
    rw [result] at walked
    cases walked
  | ok pair =>
    rw [result] at walked
    cases walked
    exact ⟨pair.1, rfl⟩

/-- A walk that is not left early, over elements that each either can be visited or cannot. -/
theorem visit_iff {list : List Elem} {B : Elem → Prop}
    (goesOn : ∀ e ∈ list, B e → ∀ s, ∃ s', body e s = .ok (.yield s'))
    (fails : ∀ e ∈ list, ¬ B e → ∀ s, body e s = .error .outOfBounds) :
    (∃ s', visit body list s = .ok s') ↔ ∀ e ∈ list, B e := by
  induction list generalizing s with
  | nil => exact ⟨fun _ => nofun, fun _ => ⟨s, rfl⟩⟩
  | cons e rest ih =>
    by_cases visited : B e
    · obtain ⟨s', next⟩ := goesOn e (.head _) visited s
      rw [visit, next, List.forall_mem_cons]
      refine Iff.trans ?_ (and_iff_right visited).symm
      exact ih (fun e later => goesOn e (.tail _ later)) fun e later => fails e (.tail _ later)
    · rw [visit, fails e (.head _) visited s]
      refine ⟨?_, fun all => absurd (all e (.head _)) visited⟩
      rintro ⟨s', walked⟩
      cases walked

/-- What every step keeps, a walk keeps. -/
theorem visit_invariant {list : List Elem} {s' : σ} {I : σ → Prop}
    (walked : visit body list s = .ok s') (start : I s)
    (step : ∀ e ∈ list, ∀ s s', I s → (body e s = .ok (.yield s') ∨ body e s = .ok (.done s')) →
      I s') : I s' := by
  induction list generalizing s with
  | nil =>
    cases walked
    exact start
  | cons e rest ih =>
    rw [visit] at walked
    cases first : body e s with
    | error stopped =>
      rw [first] at walked
      cases walked
    | ok t =>
      rw [first] at walked
      cases t with
      | done t =>
        cases walked
        exact step e (.head _) s _ start (.inr first)
      | yield t =>
        exact ih walked (step e (.head _) s t start (.inl first)) fun e later =>
          step e (.tail _ later)

/-- The same for a walk over the buffer, where a step says what its result has. -/
theorem forEachElement_yields {I : σ → Prop} (inside : stop ≤ bytes.length) (start : I s)
    (step : ∀ e ∈ elements bytes stop ofs, ∀ s, I s →
      Yields (fun next => I next.value) (body e s)) :
    Yields (fun result => I result.2) (forEachElement bytes stop body ofs s) := by
  intro result run
  have walked : visit body (elements bytes stop ofs) s = .ok result.2 := by
    rw [← forEachElement_eq inside, run]
    rfl
  refine visit_invariant walked start fun e listed s s' before next => ?_
  rcases next with goesOn | leaves
  · exact step e listed s before _ goesOn
  · exact step e listed s before _ leaves

/-- A walk that looks for an element: `D` says which one it is, `F` that it was found and `N` that
none was so far. -/
theorem visit_finds {list : List Elem} {D : Elem → Prop} {F N : σ → Prop}
    (finds : ∀ e ∈ list, D e → ∀ s, ∃ s', F s' ∧ (body e s = .ok (.yield s') ∨
      body e s = .ok (.done s')))
    (passes : ∀ e ∈ list, ¬ D e → ∀ s, ∃ s', body e s = .ok (.yield s') ∧ (F s → F s') ∧
      (N s → N s')) :
    ∃ s', visit body list s = .ok s' ∧ ((∃ e ∈ list, D e) → F s') ∧
      ((¬ ∃ e ∈ list, D e) → N s → N s') ∧ (F s → F s') := by
  induction list generalizing s with
  | nil => exact ⟨s, rfl, nofun, fun _ => id, id⟩
  | cons e rest ih =>
    by_cases found : D e
    · have somewhere : ∃ other ∈ e :: rest, D other := ⟨e, .head _, found⟩
      obtain ⟨s', here, goesOn | leaves⟩ := finds e (.head _) found s
      · obtain ⟨last, walked, -, -, stays⟩ := ih (s := s')
          (fun e later => finds e (.tail _ later)) fun e later => passes e (.tail _ later)
        rw [visit, goesOn]
        exact ⟨last, walked, fun _ => stays here, fun nowhere => absurd somewhere nowhere,
          fun _ => stays here⟩
      · rw [visit, leaves]
        exact ⟨s', rfl, fun _ => here, fun nowhere => absurd somewhere nowhere, fun _ => here⟩
    · obtain ⟨s', goesOn, still, stillNot⟩ := passes e (.head _) found s
      obtain ⟨last, walked, finds, not, stays⟩ := ih (s := s')
        (fun e later => finds e (.tail _ later)) fun e later => passes e (.tail _ later)
      rw [visit, goesOn]
      refine ⟨last, walked, ?_, fun nowhere start => ?_, fun before => stays (still before)⟩
      · rintro ⟨other, listed, found'⟩
        rcases List.mem_cons.mp listed with rfl | later
        · exact absurd found' found
        · exact finds ⟨other, later, found'⟩
      · exact not (fun ⟨other, later, found'⟩ => nowhere ⟨other, .tail _ later, found'⟩)
          (stillNot start)

/-- What the last element that counts leaves behind.  `view` looks at the state, an element that
counts puts `value` there and the others leave it alone. -/
theorem visit_view {list : List Elem} {s' : σ} {view : σ → α} {counts : Elem → Bool}
    {value : Elem → α} (walked : visit body list s = .ok s')
    (step : ∀ e ∈ list, ∀ s t, body e s = .ok t → ∃ s', t = .yield s' ∧
      view s' = if counts e then value e else view s) :
    view s' = ((list.filter counts).getLast?.map value).getD (view s) := by
  induction list generalizing s with
  | nil =>
    cases walked
    rfl
  | cons e rest ih =>
    rw [visit] at walked
    cases first : body e s with
    | error stopped =>
      rw [first] at walked
      cases walked
    | ok t =>
      obtain ⟨next, rfl, seen⟩ := step e (.head _) s t first
      rw [first] at walked
      rw [ih walked fun e later => step e (.tail _ later), seen, List.filter_cons]
      cases counts e with
      | false => rfl
      | true =>
        simp only [if_true, List.getLast?_cons]
        cases (rest.filter counts).getLast? <;> rfl

/-! ## Searching -/

/-- The first element of a kind. -/
def findElement (bytes : List UInt8) (p : Elem → BoundedRead ε Bool) (stop ofs : Nat) :
    BoundedRead ε (Option Elem) := do
  let (_, found) ← forEachElement bytes stop
    (fun e _ => do if ← p e then return .done (some e) else return .yield none) ofs none
  return found

theorem findElement_eq {p : Elem → BoundedRead ε Bool} {q : Elem → Bool}
    (inside : stop ≤ bytes.length)
    (decides : ∀ e ∈ elements bytes stop ofs, p e = .ok (q e)) :
    findElement bytes p stop ofs = .ok ((elements bytes stop ofs).find? q) := by
  have walked : ∀ list : List Elem, (∀ e ∈ list, p e = .ok (q e)) →
      visit (fun e (_ : Option Elem) => do
        if ← p e then return .done (some e) else return .yield none) list none =
        .ok (list.find? q) := by
    intro list decides
    induction list with
    | nil => rfl
    | cons e rest ih =>
      simp only [visit, decides e (.head _), List.find?_cons]
      cases q e with
      | true => rfl
      | false => exact ih fun e later => decides e (.tail _ later)
  obtain ⟨last, result⟩ := forEachElement_of_visit inside (walked _ decides)
  rw [findElement, result]
  rfl

end Iwlwifi.Lib
