/-!
# Fresh names

A name that is not taken yet: the preferred one, or the preferred one followed by the least number
from two on that makes it free. The search strikes each taken candidate from the list, so it ends
after at most one more attempt than there are taken names.
-/

namespace TypeGraph

/-- A name followed by a number. -/
def numbered (preferred : String) (n : Nat) : String := preferred ++ toString n

/-- The first numbered name from `n` on that is not taken. -/
def freshFrom (preferred : String) (n : Nat) (taken : List String) : String :=
  if h : numbered preferred n ∈ taken then
    have : (taken.erase (numbered preferred n)).length < taken.length := by
      rw [List.length_erase_of_mem h]
      exact Nat.sub_lt (List.length_pos_of_mem h) Nat.one_pos
    freshFrom preferred (n + 1) (taken.erase (numbered preferred n))
  else numbered preferred n
termination_by taken.length

/-- The preferred name, or the first numbered one that is not taken. -/
def freshName (preferred : String) (taken : List String) : String :=
  if preferred ∈ taken then freshFrom preferred 2 taken else preferred

theorem freshName_of_not_mem {preferred : String} {taken : List String} (h : preferred ∉ taken) :
    freshName preferred taken = preferred := by
  simp [freshName, h]

end TypeGraph
