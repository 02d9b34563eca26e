import Mathlib.Data.Finset.Basic
import Mathlib.Data.List.Infix

namespace TrustChain
namespace Spec

universe u

/-!
# Membership as an auditor replays it

Nothing here knows about tables, nodes or hashes.  A repository has admins and
writers, each entry of its history names a signer and a change, and whoever
holds the history can replay it.  A history is in order when every signer was
entitled to its entry by the entries in front of it.
-/

/-- Who may do what, as two sets. -/
@[ext] structure Members (Key : Type u) where
  admins : Finset Key
  writers : Finset Key

inductive Change (Key : Type u)
  | addAdmin (key : Key)
  | addWriter (key : Key)
  | deleteAdmin (key : Key)
  | deleteWriter (key : Key)
  | nothing
  deriving DecidableEq

/-- A signer with the change it asks for.  Some entries need an admin, for the
others a writer will do. -/
structure Entry (Key : Type u) where
  signer : Key
  needsAdmin : Bool
  change : Change Key

variable {Key : Type u} [DecidableEq Key]

namespace Members

def founded (founder : Key) : Members Key := ⟨{founder}, ∅⟩

/-- An admin is never a writer as well: becoming one ends being the other. -/
def apply (members : Members Key) : Change Key → Members Key
  | .addAdmin key => ⟨insert key members.admins, members.writers.erase key⟩
  | .addWriter key => ⟨members.admins, insert key members.writers⟩
  | .deleteAdmin key => ⟨members.admins.erase key, members.writers⟩
  | .deleteWriter key => ⟨members.admins, members.writers.erase key⟩
  | .nothing => members

omit [DecidableEq Key] in
/-- The signer of the entry may make it. -/
def Entitles (members : Members Key) (entry : Entry Key) : Prop :=
  if entry.needsAdmin then entry.signer ∈ members.admins
  else entry.signer ∈ members.admins ∨ entry.signer ∈ members.writers

end Members

/-- The members after some entries, oldest first. -/
def replay (founder : Key) (entries : List (Entry Key)) : Members Key :=
  entries.foldl (fun members entry => members.apply entry.change) (.founded founder)

@[simp] theorem replay_nil (founder : Key) : replay founder [] = .founded founder := rfl

theorem replay_snoc (founder : Key) (entries : List (Entry Key)) (entry : Entry Key) :
    replay founder (entries ++ [entry]) = (replay founder entries).apply entry.change := by
  unfold replay
  rw [List.foldl_append, List.foldl_cons, List.foldl_nil]

/-- Every entry was made by somebody whom the entries before it entitle. -/
def InOrder (founder : Key) (entries : List (Entry Key)) : Prop :=
  ∀ earlier entry later, entries = earlier ++ entry :: later →
    (replay founder earlier).Entitles entry

theorem inOrder_nil (founder : Key) : InOrder founder [] := by
  intro earlier entry later split
  exact absurd split.symm (List.append_ne_nil_of_right_ne_nil earlier (List.cons_ne_nil entry later))

theorem InOrder.snoc {founder : Key} {entries : List (Entry Key)} {newest : Entry Key}
    (inOrder : InOrder founder entries) (entitled : (replay founder entries).Entitles newest) :
    InOrder founder (entries ++ [newest]) := by
  intro earlier entry later split
  rcases List.eq_nil_or_concat' later with rfl | ⟨between, last, rfl⟩
  · rcases List.append_inj' split rfl with ⟨same, newestIs⟩
    rw [← same, ← (List.cons.inj newestIs).1]
    exact entitled
  · rw [← List.cons_append, ← List.append_assoc] at split
    exact inOrder earlier entry between (List.append_inj' split rfl).1

end Spec
end TrustChain
