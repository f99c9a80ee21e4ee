import TypeGraph.Names
import TypeGraph.Source.Index

/-!
# Closure over references

The names that can be reached from some names when every known type that is admitted leads on to
others. Each name is taken up once, so references may run in circles: the search ends because the
number of known names that were not seen yet shrinks (`unseen_insert_lt`).
-/

namespace TypeGraph.Index

/-- The known types whose names are not in a set. -/
def unseen (index : Index) (seen : Names) : List Descriptor :=
  index.types.filter fun d => d.name ∉ seen

/-- Taking up a known name leaves fewer of them. -/
theorem unseen_insert_lt {index : Index} {seen : Names} {name : String} {d : Descriptor}
    (hfind : index.find? name = some d) (hnew : name ∉ seen) :
    (index.unseen (seen.insert name)).length < (index.unseen seen).length := by
  have hname := name_of_find? hfind
  refine length_filter_lt (fun y hy => ?_) (mem_of_find? hfind) ?_ ?_
  · simp only [decide_eq_true_eq, Names.mem_insert, not_or] at hy ⊢
    exact hy.2
  · simpa [hname] using hnew
  · simp [hname]

/-- The names in `seen`, and those reached from a list of names when each admitted type leads on to
the names that `next` gives. -/
def closure (index : Index) (admits : Descriptor → Bool) (next : Descriptor → List String)
    (names : List String) (seen : Names) : Names :=
  match names with
  | [] => seen
  | name :: rest =>
    if _ : name ∈ seen then index.closure admits next rest seen
    else
      match _ : index.find? name with
      | none => index.closure admits next rest seen
      | some d =>
        if admits d then index.closure admits next (next d ++ rest) (seen.insert name)
        else index.closure admits next rest seen
termination_by ((index.unseen seen).length, names.length)
decreasing_by
  · exact Prod.Lex.right _ (by simp)
  · exact Prod.Lex.right _ (by simp)
  · exact Prod.Lex.left _ _ (unseen_insert_lt (by assumption) (by assumption))
  · exact Prod.Lex.right _ (by simp)

end TypeGraph.Index
