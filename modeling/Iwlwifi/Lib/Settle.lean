import Mathlib.Data.List.Nodup

/-!
# A list kept in order

When the key of one member of an ordered list changes, the member moves past its neighbours until
it is in its place.  `settle` moves it towards the end; moving it towards the front is `settle` on
the reversed list.  `Listing` is a list of all that have a key, in falling order, and what becomes
of it when one key is lowered or raised.
-/

namespace Iwlwifi.Lib

variable {α : Type*} [DecidableEq α]

/-- Puts `f` before the first that it does not pass. -/
def sink (passes : α → Bool) (f : α) : List α → List α
  | [] => [f]
  | g :: rest => if passes g then g :: sink passes f rest else f :: g :: rest

/-- Moves `f` behind the members after it up to the first that it does not pass. -/
def settle (passes : α → Bool) (f : α) : List α → List α
  | [] => []
  | g :: rest => if g = f then sink passes f rest else g :: settle passes f rest

variable {passes : α → Bool} {f : α} {l : List α} {R : α → α → Prop}

omit [DecidableEq α] in
theorem sink_perm : (sink passes f l).Perm (f :: l) := by
  induction l with
  | nil => exact .refl _
  | cons g rest ih =>
      rw [sink]
      split
      · exact (ih.cons g).trans (.swap f g rest)
      · exact .refl _

theorem settle_perm : (settle passes f l).Perm l := by
  induction l with
  | nil => exact .nil
  | cons g rest ih =>
      rw [settle]
      split
      · next same => exact same ▸ sink_perm
      · exact ih.cons g

/-- Where all are in order but `f` to those behind it, `f` settles in its place. -/
theorem settle_pairwise (trans : ∀ a b c, R a b → R b c → R a c)
    (passed : ∀ g, passes g = true → R g f) (stays : ∀ g, passes g = false → R f g)
    (nodup : l.Nodup) (sorted : l.Pairwise fun g h => g ≠ f → R g h) :
    (settle passes f l).Pairwise R := by
  have sinks {l : List α} (sorted : l.Pairwise R) : (sink passes f l).Pairwise R := by
    induction l with
    | nil => exact List.pairwise_singleton R f
    | cons g rest ih =>
        obtain ⟨first, later⟩ := List.pairwise_cons.mp sorted
        rw [sink]
        split
        · next pass =>
            refine List.pairwise_cons.mpr ⟨fun h member => ?_, ih later⟩
            rcases List.mem_cons.mp (sink_perm.mem_iff.mp member) with rfl | member
            · exact passed g pass
            · exact first h member
        · next stop =>
            have here := stays g (eq_false_of_ne_true stop)
            refine List.pairwise_cons.mpr ⟨fun h member => ?_, sorted⟩
            rcases List.mem_cons.mp member with rfl | member
            · exact here
            · exact trans _ _ _ here (first h member)
  induction l with
  | nil => exact .nil
  | cons g rest ih =>
      obtain ⟨fresh, nodup⟩ := List.nodup_cons.mp nodup
      obtain ⟨first, later⟩ := List.pairwise_cons.mp sorted
      rw [settle]
      split
      · next same =>
          subst same
          exact sinks (later.imp_of_mem fun member _ apply =>
            apply fun here => fresh (here ▸ member))
      · next other =>
          refine List.pairwise_cons.mpr ⟨fun h member => ?_, ih nodup later⟩
          exact first h (settle_perm.mem_iff.mp member) other

/-- All that have a key, in falling order. -/
structure Listing (key : α → Nat) (l : List α) : Prop where
  once : l.Nodup
  listed : ∀ f, f ∈ l ↔ key f ≠ 0
  falling : l.Pairwise fun f g => key g ≤ key f

variable {key key' : α → Nat}

/-- A member whose key is lowered moves back, or goes. -/
theorem Listing.lower (listing : Listing key l) (others : ∀ g, g ≠ f → key' g = key g)
    (le : key' f ≤ key f) :
    Listing key' (if key' f = 0 then l.erase f
      else settle (fun i => key' f ≤ key' i) f l) := by
  obtain ⟨once, listed, falling⟩ := listing
  have sorted : l.Pairwise fun g h => g ≠ f → key' h ≤ key' g := by
    refine falling.imp fun {g h} below other => ?_
    by_cases same : h = f <;> grind
  split
  · next gone =>
      refine ⟨once.erase f, fun g => ?_, (sorted.sublist List.erase_sublist).imp_of_mem
        fun member _ below => below (once.mem_erase_iff.mp member).1⟩
      rw [once.mem_erase_iff]
      by_cases same : g = f
      · simp [same, gone]
      · rw [others g same, listed, and_iff_right same]
  · next stays =>
      refine ⟨settle_perm.nodup_iff.mpr once, fun g => ?_, settle_pairwise
        (fun _ _ _ first second => Nat.le_trans second first) (fun g passed => of_decide_eq_true passed)
        (fun g stops => Nat.le_of_not_le (of_decide_eq_false stops)) once sorted⟩
      rw [settle_perm.mem_iff, listed]
      grind

/-- One whose key is raised joins at the end and moves to the front. -/
theorem Listing.raise (listing : Listing key l) (others : ∀ g, g ≠ f → key' g = key g)
    (le : key f ≤ key' f) (pos : key' f ≠ 0) :
    Listing key' (settle (fun i => key' i ≤ key' f) f
      (if f ∈ l then l else l ++ [f]).reverse).reverse := by
  obtain ⟨once, listed, falling⟩ := listing
  have sorted : l.Pairwise fun g h => h ≠ f → key' h ≤ key' g := by
    refine falling.imp fun {g h} below other => ?_
    by_cases same : g = f <;> grind
  have joined : (if f ∈ l then l else l ++ [f]).Nodup ∧
      (if f ∈ l then l else l ++ [f]).Pairwise fun g h => h ≠ f → key' h ≤ key' g := by
    split
    · exact ⟨once, sorted⟩
    · exact ⟨by grind, List.pairwise_append.mpr ⟨sorted, List.pairwise_singleton _ _,
        fun g _ h last other => absurd (List.mem_singleton.mp last) other⟩⟩
  refine ⟨?_, fun g => ?_, List.pairwise_reverse.mpr (settle_pairwise
    (fun _ _ _ first second => Nat.le_trans first second) (fun g passed => of_decide_eq_true passed)
    (fun g stops => Nat.le_of_not_le (of_decide_eq_false stops))
    (List.nodup_reverse.mpr joined.1) (List.pairwise_reverse.mpr joined.2))⟩
  · rw [List.nodup_reverse, settle_perm.nodup_iff, List.nodup_reverse]
    exact joined.1
  · rw [List.mem_reverse, settle_perm.mem_iff, List.mem_reverse]
    grind

end Iwlwifi.Lib
