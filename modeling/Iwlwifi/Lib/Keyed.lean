import Mathlib.Data.List.AList
import Iwlwifi.Lib.Tally

/-!
# Counting over a table

A table holds one value for each of finitely many keys.  A quantity that is additive over its
values is followed through a change of the table by what the value of the changed key weighed
before and weighs after.
-/

namespace Iwlwifi.Lib

variable {κ β : Type*} [DecidableEq κ]

/-- The weights of the values of a table. -/
def weighTable (w : β → Nat) (t : AList fun _ : κ => β) : Nat := weigh (fun e => w e.2) t.entries

/-- The weight of the value of a key, if it has one. -/
def weighKey (w : β → Nat) (t : AList fun _ : κ => β) (k : κ) : Nat :=
  match t.lookup k with
  | some b => w b
  | none => 0

variable (w : β → Nat)

theorem weigh_kerase (l : List (Σ _ : κ, β)) (k : κ) :
    weigh (fun e => w e.2) (l.kerase k) + (match l.dlookup k with | some b => w b | none => 0) =
      weigh (fun e => w e.2) l := by
  induction l with
  | nil => rfl
  | cons e l ih =>
      by_cases same : k = e.1
      · have rest : (e :: l).kerase k = l := List.kerase_cons_eq same
        have found : (e :: l).dlookup k = some e.2 := by
          rw [same]
          exact List.dlookup_cons_eq l e.1 e.2
        rw [rest, found, weigh_cons, Nat.add_comm]
      · have rest : (e :: l).kerase k = e :: l.kerase k := List.kerase_cons_ne same
        have found : (e :: l).dlookup k = l.dlookup k := List.dlookup_cons_ne l e same
        rw [rest, found, weigh_cons, weigh_cons, Nat.add_assoc, ih]

theorem weighTable_erase (t : AList fun _ : κ => β) (k : κ) :
    weighTable w (t.erase k) + weighKey w t k = weighTable w t :=
  weigh_kerase w t.entries k

theorem weighTable_insert (t : AList fun _ : κ => β) (k : κ) (b : β) :
    weighTable w (t.insert k b) + weighKey w t k = weighTable w t + w b := by
  have rest := weighTable_erase w t k
  have cons : weighTable w (t.insert k b) = w b + weighTable w (t.erase k) := by
    rw [weighTable, AList.entries_insert, weigh_cons]
    rfl
  omega

end Iwlwifi.Lib
