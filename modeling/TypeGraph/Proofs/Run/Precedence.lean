import TypeGraph.Proofs.Run.Resolution

/-!
# Chosen targets come first

A target that was chosen for an identity stands for it everywhere. The identity never gets a
declaration, a name in a module or a place among those that wait, whatever is done and in whatever
order; exploration gives it no role; and each reference to it is resolved to the chosen target, also
inside other references (`Conversion.Overrides`, `overrides_of_chosen`). Nothing is asked of the
identity: it may be that of a candidate, of an enum, of a supertype or of a library type.
-/

namespace TypeGraph

variable {env : Env} {name x : String} {chosen : TypeExpr}

theorem Env.contains_of_get? (h : env.custom.get? name = some chosen) :
    env.custom.contains name = true := by
  rw [NameMap.contains_eq_isSome, h]
  rfl

/-! ## References inside references -/

namespace Env

variable {declared : String → Bool} {r t : TypeRef}

/-- A reference stands inside another where it takes part in the target: as the element of an array, as
the argument that a library type is made of, or as an argument of a type that is declared. -/
inductive Within (env : Env) (declared : String → Bool) (r : TypeRef) : TypeRef → Prop
  | self : Within env declared r r
  | element {t : TypeRef} (h : Within env declared r t) : Within env declared r (.array t)
  | builtin {head : String} {args : List TypeRef} {b : Builtin} {n : Nat} {t : TypeRef}
      (hcustom : env.custom.get? head = none) (hbuiltin : Builtin.of? head = some b)
      (hposition : b.argument? = some n) (hargument : args[n]? = some t)
      (h : Within env declared r t) : Within env declared r (.named head args)
  | argument {head : String} {args : List TypeRef} {t : TypeRef}
      (hcustom : env.custom.get? head = none) (hbuiltin : Builtin.of? head = none)
      (hdeclared : declared head = true) (hargument : t ∈ args)
      (h : Within env declared r t) : Within env declared r (.named head args)

theorem targetAt_of_getElem? {n : Nat} {args : List TypeRef} (h : args[n]? = some t) :
    env.targetAt declared (some n) args = env.target declared t := by
  induction args generalizing n with
  | nil => simp at h
  | cons first rest ih =>
      cases n with
      | zero =>
          obtain rfl : first = t := by simpa using h
          rw [targetAt]
      | succ n =>
          rw [targetAt]
          exact ih (by simpa using h)

/-- The target of a library type that is made of an argument shows the target of the argument. -/
theorem partOf_builtin {u argument : TypeExpr} {b : Builtin} {n : Nat} (hposition : b.argument? = some n)
    (h : u.PartOf argument) : u.PartOf (b.target argument) := by
  cases b with
  | keyword k => simp [Builtin.argument?] at hposition
  | global key => simp [Builtin.argument?] at hposition
  | optional => exact h
  | collection => exact .array h
  | map => exact .dictionary h

theorem partOf_apply {u base arg : TypeExpr} {args : List TypeExpr} (hmem : arg ∈ args)
    (h : u.PartOf arg) : u.PartOf (.apply base args) := by
  cases args with
  | nil => exact absurd hmem List.not_mem_nil
  | cons first rest => exact .argument hmem h

/-- The target of a reference shows the targets of all references that stand inside it. -/
theorem partOf_target (h : env.Within declared r t) :
    (env.target declared r).PartOf (env.target declared t) := by
  induction h with
  | self => exact .self
  | element _ ih =>
      rw [target]
      exact .array ih
  | builtin hcustom hbuiltin hposition hargument _ ih =>
      simp only [target, hcustom, hbuiltin, hposition, targetAt_of_getElem? hargument]
      exact partOf_builtin hposition ih
  | @argument head args t hcustom hbuiltin hdeclared hargument _ ih =>
      simp only [target, hcustom, hbuiltin, hdeclared, if_true, targets_eq_map]
      exact partOf_apply (List.mem_append_left _ (List.mem_map_of_mem hargument)) ih

end Env

namespace Conversion

variable {s t : Conversion} {d : Descriptor}

/-! ## What waits -/

theorem mem_pending_need (h : d ∈ (s.need env name).pending) :
    d ∈ s.pending ∨ env.isDeclarable d.name = true := by
  rcases need_cases env s name with ⟨_, heq⟩ | ⟨_, _, heq⟩ | ⟨o, _, rfl, hdecl, _, heq⟩
  · rw [heq] at h
    exact Or.inl h
  · rw [heq] at h
    exact Or.inl h
  · have hpending : (s.demand env o).pending = s.pending ++ [o] := by
      rw [demand, pending_register]
    rw [heq, hpending] at h
    rcases List.mem_append.mp h with hold | hlast
    · exact Or.inl hold
    · obtain rfl := List.mem_singleton.mp hlast
      exact Or.inr hdecl

theorem mem_pending_needAll {names : List String} (h : d ∈ (s.needAll env names).pending) :
    d ∈ s.pending ∨ env.isDeclarable d.name = true := by
  induction names generalizing s with
  | nil => exact Or.inl h
  | cons first rest ih =>
      rcases ih (s := s.need env first) h with hfirst | hdecl
      · exact mem_pending_need hfirst
      · exact Or.inr hdecl

/-- An operation lets only types wait that can be declared. -/
theorem mem_pending_perform {op : Operation} (h : d ∈ (s.perform env op).pending) :
    d ∈ s.pending ∨ env.isDeclarable d.name = true := by
  cases op with
  | place o => exact Or.inl h
  | register o shell =>
      rw [perform, pending_register] at h
      exact Or.inl h
  | resolve r => exact mem_pending_needAll h
  | take =>
      rw [perform] at h
      split at h
      · -- the first of those that wait is gone, and the others stay
        rename_i o t htake
        left
        rw [(takePending?_eq_some htake).1]
        exact List.mem_cons_of_mem _ h
      · exact Or.inl h
  | prepare c o =>
      rw [perform, prepare, pending_register] at h
      exact Or.inl h
  | convert strategy c o =>
      rw [perform] at h
      rcases convert_cases env strategy s c o with ⟨_, _, heq⟩ | ⟨_, heq⟩
      · rw [heq] at h
        exact mem_pending_needAll h
      · rw [heq] at h
        exact Or.inl h

theorem mem_pending_performs {ops : List Operation} (h : d ∈ (ops.foldl (perform env) s).pending) :
    d ∈ s.pending ∨ env.isDeclarable d.name = true := by
  induction ops generalizing s with
  | nil => exact Or.inl h
  | cons op rest ih =>
      rcases ih h with hfirst | hdecl
      · exact mem_pending_perform hfirst
      · exact Or.inr hdecl

/-! ## Identities with a chosen target -/

/-- In a state the target that was chosen for an identity stands for it. -/
structure Overrides (env : Env) (s : Conversion) (name : String) (chosen : TypeExpr) : Prop where
  declaration : ∀ e ∈ s.table.declarations, e.source ≠ name
  entry : ∀ m ∈ s.modules.modules, ∀ key source, (key, source) ∈ m.names.entries → source ≠ name
  waiting : ∀ d ∈ s.pending, d.name ≠ name
  /-- A reference to the identity is resolved to the chosen target, and nothing else happens. -/
  resolves : ∀ args, s.resolve env (.named name args) = (chosen, s)
  /-- So it is inside other references, -/
  within : ∀ args r, env.Within (s.isDeclared env) (.named name args) r →
    chosen.PartOf (s.resolve env r).1
  /-- and no reference is resolved to a declaration for the identity. -/
  nowhere : ∀ r, (TypeExpr.declared name).PartOf (s.resolve env r).1 → env.custom.Mentions name

theorem resolve_of_chosen (h : env.custom.get? name = some chosen) (s : Conversion)
    (args : List TypeRef) : s.resolve env (.named name args) = (chosen, s) := by
  have hneeds : env.needs (.named name args) = [] := by
    simp only [Env.needs, h]
  have htarget : s.target env (.named name args) = chosen := by
    simp only [target, Env.target, h]
  rw [resolve, hneeds, htarget]
  rfl

/-- A state in which nothing stands for an identity with a chosen target is one in which the chosen
target does. -/
theorem overrides_of_free (h : env.custom.get? name = some chosen)
    (howned : s.graph.Owned) (htable : s.table.contains name = false)
    (hpending : ∀ d ∈ s.pending, d.name ≠ name) : s.Overrides env name chosen where
  declaration := Table.contains_eq_false_iff.mp htable
  entry := by
    intro m hm key source hentry
    obtain ⟨e, he, rfl, _⟩ := howned.entry m hm key source hentry
    exact Table.contains_eq_false_iff.mp htable e he
  waiting := hpending
  resolves := resolve_of_chosen h s
  within := by
    intro args r hwithin
    have hpart := Env.partOf_target hwithin
    simp only [Env.target, h] at hpart
    exact hpart
  nowhere := by
    intro r hpart
    rcases Env.needs_of_mem_sources r (TypeExpr.mem_sources_iff.mpr hpart) with hmentions | ⟨_, hyes⟩
    · exact hmentions
    · -- it would have a declaration or could get one
      rcases Bool.or_eq_true_iff.mp hyes with hthere | hdecl
      · exact absurd (htable.symm.trans hthere) Bool.false_ne_true
      · have hno := not_custom_of_isDeclarable hdecl
        rw [Env.contains_of_get? h] at hno
        exact Bool.noConfusion hno

theorem not_custom_after {ops : List Operation} (h : (after env ops).table.contains x = true) :
    env.custom.contains x = false := by
  rcases contains_of_performs h with hempty | hdecl | ⟨_, hcustom⟩
  · exact absurd hempty (by simp [Table.contains])
  · exact not_custom_of_isDeclarable hdecl
  · exact hcustom

theorem not_custom_of_waiting {ops : List Operation} (h : d ∈ (after env ops).pending) :
    env.custom.contains d.name = false := by
  rcases mem_pending_performs h with hempty | hdecl
  · exact absurd hempty List.not_mem_nil
  · exact not_custom_of_isDeclarable hdecl

/-- Whatever was done, chosen targets stand for their identities. -/
theorem overrides_after (h : env.custom.get? name = some chosen) (ops : List Operation) :
    (after env ops).Overrides env name chosen := by
  have hcustom := Env.contains_of_get? h
  refine overrides_of_free h (owned_of_moves (moves_performs ops {}) owned_empty) ?_ ?_
  · cases hcontains : (after env ops).table.contains name with
    | false => rfl
    | true => exact absurd ((not_custom_after hcontains).symm.trans hcustom) Bool.false_ne_true
  · rintro d hd rfl
    exact absurd ((not_custom_of_waiting hd).symm.trans hcustom) Bool.false_ne_true

end Conversion

/-! ## Exploration -/

/-- Exploration adds an identity with a chosen target to no role. -/
theorem Classification.mem_explore_of_custom {s : Surroundings} (c : Classification)
    (h : s.custom.contains x = true) (role : Role) :
    x ∈ (c.explore s).ofRole role ↔ x ∈ c.ofRole role := by
  have hunusable : ∀ d, ¬ s.Usable x d := fun d husable =>
    absurd (husable.free.symm.trans h) Bool.false_ne_true
  have hnotFound : x ∉ c.found s := by
    intro hfound
    obtain ⟨d, husable, _⟩ := found_spec hfound
    exact hunusable d husable
  cases role with
  | enum => exact mem_explore_enums.trans (or_iff_left fun hnew => hnotFound hnew.1)
  | model => exact mem_explore_models.trans (or_iff_left fun hnew => hnotFound hnew.1)
  | rest =>
      refine ⟨fun hmem => ?_, Index.mem_closure_of_seen⟩
      rcases Index.mem_closure hmem with hold | hadmitted
      · exact hold
      · obtain ⟨d, husable, _⟩ := admitted_base_iff.mp hadmitted
        exact absurd husable (hunusable d)

/-! ## Runs -/

open Conversion (Operation after)

/-- A chosen target stands for its identity after any operations and after any draining of those that
wait. Exploration adds the identity to no role. At every moment of a run the chosen target stands for
it, and in the output no declaration is made for it and no name of a module belongs to it. -/
theorem overrides_of_chosen :
    (∀ (env : Env) (name : String) (chosen : TypeExpr), env.custom.get? name = some chosen →
      ∀ ops : List Operation, (after env ops).Overrides env name chosen ∧
        ∀ strategy converters drained,
          (after env ops).drain env strategy converters = .ok drained →
            drained.Overrides env name chosen) ∧
    (∀ (s : Surroundings) (c : Classification) (name : String), s.custom.contains name = true →
      ∀ role, name ∈ (c.explore s).ofRole role ↔ name ∈ c.ofRole role) ∧
    ∀ (s : Setup) (discovery : Discovery) (outcome : Outcome) (name : String) (chosen : TypeExpr),
      s.run discovery = .ok outcome → s.custom.get? name = some chosen →
        (∀ e ∈ outcome.graph.table.declarations, e.source ≠ name) ∧
        (∀ m ∈ outcome.graph.modules.modules, ∀ key source,
          (key, source) ∈ m.names.entries → source ≠ name) ∧
        (∀ role, name ∈ (s.classified discovery).ofRole role ↔
          name ∈ (s.filtered discovery).ofRole role) ∧
        ∃ ops, outcome.graph = (after (s.env (Setup.index discovery)) ops).graph ∧
          ∀ n, (after (s.env (Setup.index discovery)) (ops.take n)).Overrides
            (s.env (Setup.index discovery)) name chosen := by
  refine ⟨?_, ?_, ?_⟩
  · intro env name chosen h ops
    refine ⟨Conversion.overrides_after h ops, ?_⟩
    intro strategy converters drained hdrain
    -- draining performs operations too, after those before it
    obtain ⟨more, _, rfl⟩ := Conversion.becomes_drain hdrain
    rw [after, ← List.foldl_append]
    exact Conversion.overrides_after h (ops ++ more)
  · exact fun s c name h role => c.mem_explore_of_custom h role
  · intro s discovery outcome name chosen hrun h
    have hchosen : (s.env (Setup.index discovery)).custom.get? name = some chosen := h
    obtain ⟨ops, _, hgraph⟩ := Setup.exists_operations_of_run hrun
    have hend := Conversion.overrides_after hchosen ops
    refine ⟨?_, ?_, ?_, ops, hgraph, fun n => Conversion.overrides_after hchosen (ops.take n)⟩
    · rw [hgraph]
      exact hend.declaration
    · rw [hgraph]
      exact hend.entry
    · exact Classification.mem_explore_of_custom _ (Env.contains_of_get? hchosen)

/-- An enum that orders mention is left to a type of the surroundings. -/
theorem overrides_shop : ∃ outcome,
    { shopSetup with custom := .ofList [("shop.stock.Order", .global "Status")] }.run shopInput =
      .ok outcome ∧
      (∀ e ∈ outcome.graph.table.declarations, e.source ≠ "shop.stock.Order") ∧
        outcome.graph.table.contains "shop.Order" = true := by
  set chosen : Setup :=
    { shopSetup with custom := .ofList [("shop.stock.Order", .global "Status")] }
  have hclassified : chosen.classified shopInput = chosen.filtered shopInput :=
    Setup.classified_eq_classify (by decide +kernel) (by decide +kernel)
  obtain ⟨outcome, hrun, horder⟩ : ∃ outcome, chosen.run shopInput = .ok outcome ∧
      outcome.graph.table.contains "shop.Order" = true := by
    refine exists_outcome_of_view ?_
    rw [Setup.run_eq, hclassified]
    decide +kernel
  have hget : chosen.custom.get? "shop.stock.Order" = some (.global "Status") := rfl
  obtain ⟨hdeclarations, _⟩ := overrides_of_chosen.2.2 chosen shopInput outcome _ _ hrun hget
  exact ⟨outcome, hrun, hdeclarations, horder⟩

end TypeGraph
