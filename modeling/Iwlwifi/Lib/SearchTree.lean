import Mathlib.Algebra.Order.Ring.Int
import Mathlib.Data.List.Basic

/-!
# Search trees

A binary tree that is searched with a probe: an integer for each entry, which is zero at an
entry that is looked for, and whose sign says on which side of an entry to go on.  `Guides` says
that the probe does not turn back along the entries, in terms of their order alone, so that it
survives every rebalancing.  Rebalancing and erasing are those of another library; of these only
what they do to the order of the entries is used.
-/

namespace Iwlwifi.Lib

variable {α : Type}

inductive SearchTree (α : Type)
  | leaf
  | node (left : SearchTree α) (entry : α) (right : SearchTree α)

namespace SearchTree

/-- The entries from left to right. -/
def toList : SearchTree α → List α
  | leaf => []
  | node left entry right => left.toList ++ entry :: right.toList

/-- Look for an entry at which the probe is zero. -/
def find (probe : α → Int) : SearchTree α → Option α
  | leaf => none
  | node left entry right =>
      if probe entry = 0 then some entry
      else if probe entry < 0 then left.find probe
      else right.find probe

/-- Link an entry where the search for it ends; none if the search meets an entry at which the
probe is zero. -/
def link (probe : α → Int) (new : α) : SearchTree α → Option (SearchTree α)
  | leaf => some (node leaf new leaf)
  | node left entry right =>
      if probe entry = 0 then none
      else if probe entry < 0 then
        (left.link probe new).map fun left => node left entry right
      else (right.link probe new).map fun right => node left entry right

/-- The entries in this order, all to the right. -/
def ofList : List α → SearchTree α
  | [] => leaf
  | entry :: rest => node leaf entry (ofList rest)

@[simp] theorem toList_ofList (entries : List α) : (ofList entries).toList = entries := by
  induction entries with
  | nil => rfl
  | cons entry rest ih => rw [ofList, toList, ih, toList, List.nil_append]

end SearchTree

/-- A library of balanced trees: what is linked is rebalanced, and entries are erased. -/
structure Balancer (α : Type) [DecidableEq α] where
  insertColor : SearchTree α → SearchTree α
  erase : α → SearchTree α → SearchTree α
  toList_insertColor : ∀ t, (insertColor t).toList = t.toList
  toList_erase : ∀ entry t, entry ∈ t.toList → (erase entry t).toList = t.toList.erase entry

/-- Behind an entry before which to look, and before one behind which to look, the probe says the
same. -/
def Guides (probe : α → Int) (entries : List α) : Prop :=
  entries.Pairwise fun x y => (probe x < 0 → probe y < 0) ∧ (0 < probe y → 0 < probe x)

variable {probe : α → Int} {t : SearchTree α} {entry : α}

namespace SearchTree

theorem find_zero (found : t.find probe = some entry) : entry ∈ t.toList ∧ probe entry = 0 := by
  induction t with
  | leaf => exact absurd found.symm (Option.some_ne_none entry)
  | node left root right ihLeft ihRight =>
      rw [find] at found
      rw [toList, List.mem_append, List.mem_cons]
      split at found
      · next here =>
          obtain rfl := Option.some.inj found
          exact ⟨.inr (.inl rfl), here⟩
      · split at found
        · exact ⟨.inl (ihLeft found).1, (ihLeft found).2⟩
        · exact ⟨.inr (.inr (ihRight found).1), (ihRight found).2⟩

/-- A probe that guides finds an entry whenever there is one. -/
theorem exists_find (guides : Guides probe t.toList) (there : entry ∈ t.toList)
    (zero : probe entry = 0) : ∃ found, t.find probe = some found := by
  induction t with
  | leaf => exact absurd there List.not_mem_nil
  | node left root right ihLeft ihRight =>
      obtain ⟨inLeft, inRight, across⟩ := List.pairwise_append.mp guides
      obtain ⟨behind, inRight⟩ := List.pairwise_cons.mp inRight
      rw [toList, List.mem_append, List.mem_cons] at there
      rw [find]
      split
      · exact ⟨root, rfl⟩
      · next other =>
          split
          · next before =>
              rcases there with there | rfl | there
              · exact ihLeft inLeft there
              · exact absurd zero other
              · have := (behind entry there).1 before
                omega
          · next notBefore =>
              rcases there with there | rfl | there
              · have := (across entry there root List.mem_cons_self).2
                omega
              · exact absurd zero other
              · exact ihRight inRight there

/-- Linking puts the entry between those behind which and those before which to look. -/
theorem exists_link (guides : Guides probe t.toList) (nowhere : ∀ x ∈ t.toList, probe x ≠ 0)
    (new : α) :
    ∃ t' before behind, t.link probe new = some t' ∧ t.toList = before ++ behind ∧
      t'.toList = before ++ new :: behind ∧ (∀ x ∈ before, 0 < probe x) ∧
      ∀ x ∈ behind, probe x < 0 := by
  induction t with
  | leaf => exact ⟨_, [], [], rfl, rfl, rfl, List.forall_mem_nil _, List.forall_mem_nil _⟩
  | node left root right ihLeft ihRight =>
      obtain ⟨inLeft, inRight, across⟩ := List.pairwise_append.mp guides
      obtain ⟨after, inRight⟩ := List.pairwise_cons.mp inRight
      obtain ⟨nowhereLeft, nowhereRight⟩ := List.forall_mem_append.mp nowhere
      obtain ⟨other, nowhereRight⟩ := List.forall_mem_cons.mp nowhereRight
      rw [link, if_neg other]
      split
      · next goLeft =>
          obtain ⟨t', before, behind, linked, here, there, positive, negative⟩ :=
            ihLeft inLeft nowhereLeft
          refine ⟨node t' root right, before, behind ++ root :: right.toList, by rw [linked]; rfl,
            by rw [toList, here, List.append_assoc], ?_, positive, ?_⟩
          · rw [toList, there, List.append_assoc, List.cons_append]
          · refine List.forall_mem_append.mpr ⟨negative, List.forall_mem_cons.mpr ⟨goLeft, ?_⟩⟩
            exact fun x member => (after x member).1 goLeft
      · next goRight =>
          obtain ⟨t', before, behind, linked, here, there, positive, negative⟩ :=
            ihRight inRight nowhereRight
          have behindRoot : 0 < probe root := by omega
          refine ⟨node left root t', left.toList ++ root :: before, behind, by rw [linked]; rfl,
            by rw [toList, here, List.append_assoc, List.cons_append], ?_, ?_, negative⟩
          · rw [toList, there, List.append_assoc, List.cons_append]
          · refine List.forall_mem_append.mpr ⟨?_, List.forall_mem_cons.mpr ⟨behindRoot, positive⟩⟩
            exact fun x member => (across x member root List.mem_cons_self).2 behindRoot

end SearchTree

end Iwlwifi.Lib
