import TypeGraph.Classification.Exploration

/-!
# Exploration in turns

Exploration as it goes from one type to the next. Types with endpoints wait for their turn, and so do the
names that they mention; whoever is found on the way queues at the end. Names have their turn when no type
with endpoints waits any more. What a name becomes is decided in its turn, by the classification as far as
it has grown. Both queues come to an end because whoever joins one gets a role and has none before
(`load_meet_le`).
-/

namespace TypeGraph

/-- An exploration under way: the classification so far, and who waits for a turn. -/
structure Worklists where
  classification : Classification
  /-- Types with endpoints. -/
  bases : List Descriptor
  /-- Names that types with endpoints mention. -/
  queue : List String := []

namespace Worklists

variable (s : Surroundings)

/-! ## Types with endpoints -/

/-- Looks at a supertype of a type with endpoints. Its first identity joins them, if it has no role and
can be given this one; the others are mentioned. -/
def meet (w : Worklists) (supertype : TypeRef) : Worklists :=
  match supertype.identities with
  | [] => w
  | base :: arguments =>
    let w := { w with queue := w.queue ++ arguments }
    if s.custom.isMapped base || w.classification.contains base then w
    else
      match s.index.find? base with
      | none => w
      | some d =>
        if d.isEnum || d.kind == .annotationType then w
        else
          { w with
            classification :=
              { w.classification with rests := w.classification.rests.insert base }
            bases := w.bases ++ [d] }

/-- The turn of a type with endpoints. -/
def visit (w : Worklists) (rest : Descriptor) : Worklists :=
  rest.supertypes.foldl (meet s) { w with queue := w.queue ++ rest.endpointReferences }

/-- How many types may still join those with endpoints, and how many of them wait. -/
def load (w : Worklists) : Nat :=
  (s.index.unseen w.classification.rests).length + w.bases.length

/-- A type that joins is taken from those that may still join. -/
theorem load_meet_le (w : Worklists) (supertype : TypeRef) :
    (w.meet s supertype).load s ≤ w.load s := by
  unfold meet
  split
  · exact Nat.le_refl _
  · rename_i base arguments _
    simp only
    split
    · exact Nat.le_refl _
    · rename_i hfree
      split
      · exact Nat.le_refl _
      · rename_i d hfind
        split
        · exact Nat.le_refl _
        · have hnew : base ∉ w.classification.rests := by
            simp only [Classification.contains, Bool.or_eq_true, decide_eq_true_eq, not_or] at hfree
            exact hfree.2.2
          have hlt := Index.unseen_insert_lt hfind hnew
          simp only [load, List.length_append, List.length_singleton]
          omega

theorem load_foldl_meet_le (supertypes : List TypeRef) (w : Worklists) :
    (supertypes.foldl (meet s) w).load s ≤ w.load s := by
  induction supertypes generalizing w with
  | nil => exact Nat.le_refl _
  | cons t rest ih => exact Nat.le_trans (ih (w.meet s t)) (load_meet_le s w t)

/-- Gives every type with endpoints its turn, in the order in which they wait. -/
def visitAll (w : Worklists) : Worklists :=
  match h : w.bases with
  | [] => w
  | rest :: others =>
    have : (visit s { w with bases := others } rest).load s < w.load s := by
      refine Nat.lt_of_le_of_lt (load_foldl_meet_le s _ _) ?_
      simp [load, h]
    visitAll (visit s { w with bases := others } rest)
termination_by w.load s

/-! ## Names that are mentioned -/

/-- The known types without a role. -/
def unclassified (c : Classification) : List Descriptor :=
  s.index.types.filter fun d => !c.contains d.name

/-- A name that gets a role leaves fewer types without one. -/
theorem unclassified_lt {c c' : Classification} {name : String} {d : Descriptor}
    (hfind : s.index.find? name = some d) (hfree : c.contains name = false)
    (h : ∀ x, c'.contains x = (x == name || c.contains x)) :
    (unclassified s c').length < (unclassified s c).length := by
  have hname := Index.name_of_find? hfind
  refine length_filter_lt (fun y hy => ?_) (Index.mem_of_find? hfind) ?_ ?_
  · simp only [h, Bool.not_or, Bool.and_eq_true] at hy
    exact hy.2
  · simp [hname, hfree]
  · simp [hname, h]

theorem contains_insert_enum (c : Classification) (name x : String) :
    { c with enums := c.enums.insert name }.contains x = (x == name || c.contains x) := by
  simp [Classification.contains, Bool.or_assoc, Bool.beq_eq_decide_eq]

theorem contains_insert_model (c : Classification) (name x : String) :
    { c with models := c.models.insert name }.contains x = (x == name || c.contains x) := by
  simp [Classification.contains, Bool.or_assoc, Bool.or_left_comm, Bool.beq_eq_decide_eq]

/-- Gives every name its turn, in the order in which they wait. An enum and a type without endpoints get
their role, and what the latter mentions waits as well. -/
def takeUp (c : Classification) (queue : List String) : Classification :=
  match queue with
  | [] => c
  | name :: rest =>
    if _ : s.custom.isMapped name || c.contains name then takeUp c rest
    else
      match _ : s.index.find? name with
      | none => takeUp c rest
      | some d =>
        if d.kind == .annotationType then takeUp c rest
        else if d.isEnum then takeUp { c with enums := c.enums.insert name } rest
        else if d.hasEndpoints then takeUp c rest
        else takeUp { c with models := c.models.insert name } (rest ++ d.modelReferences)
termination_by ((unclassified s c).length, queue.length)
decreasing_by
  · exact Prod.Lex.right _ (by simp)
  · exact Prod.Lex.right _ (by simp)
  · exact Prod.Lex.right _ (by simp)
  · exact Prod.Lex.left _ _ (unclassified_lt s (by assumption) (by simp_all) (contains_insert_enum c name))
  · exact Prod.Lex.right _ (by simp)
  · exact Prod.Lex.left _ _ (unclassified_lt s (by assumption) (by simp_all) (contains_insert_model c name))

/-- Exploration in turns: first the types with endpoints, then what they mention. -/
def explore (c : Classification) : Classification :=
  let w := visitAll s { classification := c, bases := s.known c.rests }
  takeUp s w.classification w.queue

end Worklists

end TypeGraph
