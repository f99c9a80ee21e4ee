import TypeGraph.Proofs.Discovery.Partition
import TypeGraph.Proofs.Run.Complete
import TypeGraph.Proofs.Run.Operations

/-!
# Resolution does not depend on history

A resolver that goes through a reference step by step registers types on demand in the middle of it, and
answers from the table as it is by then. It gives the same answer, and ends in the same state, as the
one that tells targets and needs apart (`visit_eq_resolve`): although more and more gets a declaration,
what has one or can get one never changes (`isDeclared_needAll`). So when the table holds only types
that the index offers, a target is a function of the index, the chosen targets and the reference alone
(`TypeRef.expr`), at every moment and in every run (`resolve_eq_expr`).
-/

namespace TypeGraph

/-- Whether an identity is known and is no annotation. -/
def Index.offers (index : Index) (name : String) : Bool :=
  (index.find? name).any (·.kind != .annotationType)

theorem NameMap.contains_eq_isSome {α : Type} (m : NameMap α) (name : String) :
    m.contains name = (m.get? name).isSome := by
  rw [Bool.eq_iff_iff, contains, get?, Option.isSome_map, List.find?_isSome, List.any_eq_true]

theorem Env.isDeclarable_eq (env : Env) (name : String) :
    env.isDeclarable name = (env.index.offers name && !env.custom.contains name) := by
  unfold Env.isDeclarable Index.offers
  cases env.index.find? name with
  | none => rfl
  | some d => rfl

/-- Without a chosen target a declaration can be made for all that the index offers. -/
theorem Env.isDeclarable_of_free {env : Env} {name : String} (h : env.custom.get? name = none) :
    env.isDeclarable name = env.index.offers name := by
  have hno : env.custom.contains name = false := by
    rw [NameMap.contains_eq_isSome, h]
    rfl
  rw [isDeclarable_eq, hno, Bool.not_false, Bool.and_true]

/-! ## Targets without a state -/

namespace TypeRef

mutual

/-- The type expression that a reference stands for, by the index and the chosen targets alone. A
chosen target comes first, then that of a library type. A known type stands for itself unless it is an
annotation, with `any` for each argument that is missing. Everything else is `any`. -/
def expr (index : Index) (custom : CustomTypes) : TypeRef → TypeExpr
  | .primitive p => .keyword p.keyword
  | .typeVar name => .parameter name
  | .array element => .array (element.expr index custom)
  | .named name args =>
    match custom.get? name, Builtin.of? name, index.find? name with
    | some chosen, _, _ => chosen
    | none, some builtin, _ =>
      builtin.target ((builtin.argument?.bind fun n => (exprs index custom args)[n]?).getD .any)
    | none, none, some d =>
      if d.kind = .annotationType then .any
      else .apply (.declared name) (Env.fillUp d.typeParams.length (exprs index custom args))
    | none, none, none => .any

/-- The type expressions of some references. -/
def exprs (index : Index) (custom : CustomTypes) : List TypeRef → List TypeExpr
  | [] => []
  | t :: rest => t.expr index custom :: exprs index custom rest

end

end TypeRef

namespace Env

variable {env : Env} {declared : String → Bool}

/-- Without a chosen target an identity counts as declared when the index offers it. -/
def CountsOffered (env : Env) (declared : String → Bool) : Prop :=
  ∀ x, env.custom.get? x = none → declared x = env.index.offers x

mutual

/-- When the identities that the index offers count as declared, the index and the chosen targets tell
all targets. -/
theorem target_eq_expr (h : env.CountsOffered declared) :
    ∀ t : TypeRef, env.target declared t = t.expr env.index env.custom
  | .primitive _ | .typeVar _ => by simp only [target, TypeRef.expr]
  | .array element => by simp only [target, TypeRef.expr, target_eq_expr h element]
  | .named name args => by
      simp only [target, TypeRef.expr]
      cases hcustom : env.custom.get? name with
      | some chosen => rfl
      | none =>
          cases hbuiltin : Builtin.of? name with
          | some builtin => simp only [targetAt_eq_getD h builtin.argument? args]
          | none =>
              simp only [targets_eq_exprs h args, h name hcustom, Index.offers, arity]
              cases env.index.find? name with
              | none => rfl
              | some d => by_cases hkind : d.kind = .annotationType <;> simp [hkind]

theorem targets_eq_exprs (h : env.CountsOffered declared) :
    ∀ ts : List TypeRef, env.targets declared ts = TypeRef.exprs env.index env.custom ts
  | [] => by simp only [targets, TypeRef.exprs]
  | t :: rest => by
      simp only [targets, TypeRef.exprs, target_eq_expr h t, targets_eq_exprs h rest]

theorem targetAt_eq_getD (h : env.CountsOffered declared) :
    ∀ (position : Option Nat) (ts : List TypeRef), env.targetAt declared position ts =
      (position.bind fun n => (TypeRef.exprs env.index env.custom ts)[n]?).getD .any
  | none, _ => by simp [targetAt]
  | some n, [] => by simp [targetAt, TypeRef.exprs]
  | some 0, t :: _ => by simp [targetAt, TypeRef.exprs, target_eq_expr h t]
  | some (n + 1), _ :: rest => by simp [targetAt, TypeRef.exprs, targetAt_eq_getD h (some n) rest]

end

end Env

namespace Conversion

variable {env : Env} {s t : Conversion} {name x : String} {d : Descriptor}

/-! ## What gets a declaration -/

theorem contains_register_iff (shell : Body) :
    (s.register env d shell).table.contains x = true ↔
      s.table.contains x = true ∨ (d.name = x ∧ env.custom.contains x = false) := by
  cases hacc : s.accepts env d with
  | true =>
      have hcustom := (accepts_iff.mp hacc).1
      have hcontains : (s.register env d shell).table.contains x =
          (s.table.contains x || d.name == x) := by
        simp only [register, hacc, if_true, contains_register]
      rw [hcontains, Bool.or_eq_true, beq_iff_eq]
      constructor
      · exact Or.imp_right fun heq => ⟨heq, heq ▸ hcustom⟩
      · exact Or.imp_right And.left
  | false =>
      rw [register_of_not_accepts shell hacc]
      refine ⟨Or.inl, ?_⟩
      rintro (hold | ⟨rfl, hcustom⟩)
      · exact hold
      · -- without a chosen target it is refused only because it has a declaration
        simpa [accepts, hcustom] using hacc

theorem contains_need_iff :
    (s.need env name).table.contains x = true ↔
      s.table.contains x = true ∨ (x = name ∧ env.isDeclarable x = true) := by
  rcases need_cases env s name with ⟨hcontains, heq⟩ | ⟨_, hnot, heq⟩ | ⟨d, _, rfl, hdecl, _, heq⟩
  · rw [heq]
    refine ⟨Or.inl, ?_⟩
    rintro (hold | ⟨rfl, _⟩)
    · exact hold
    · exact hcontains
  · rw [heq]
    refine ⟨Or.inl, ?_⟩
    rintro (hold | ⟨rfl, hdecl⟩)
    · exact hold
    · exact absurd (hnot.symm.trans hdecl) Bool.false_ne_true
  · rw [heq]
    refine (contains_register_iff (demandShell d)).trans (or_congr_right ?_)
    constructor
    · rintro ⟨rfl, _⟩
      exact ⟨rfl, hdecl⟩
    · rintro ⟨rfl, _⟩
      exact ⟨rfl, not_custom_of_isDeclarable hdecl⟩

theorem contains_needAll_iff {names : List String} :
    (s.needAll env names).table.contains x = true ↔
      s.table.contains x = true ∨ (x ∈ names ∧ env.isDeclarable x = true) := by
  induction names generalizing s with
  | nil => simp [needAll]
  | cons first rest ih =>
      have hstep : s.needAll env (first :: rest) = (s.need env first).needAll env rest := rfl
      rw [hstep, ih, contains_need_iff, List.mem_cons, or_and_right, or_assoc]

/-- All that an operation can give a declaration: what it is told to register, unless a target was
chosen for it, and what it finds on the way. -/
theorem contains_of_perform {op : Operation} (h : (s.perform env op).table.contains x = true) :
    s.table.contains x = true ∨ env.isDeclarable x = true ∨
      ((∃ d ∈ op.registers, d.name = x) ∧ env.custom.contains x = false) := by
  cases op with
  | place d => exact Or.inl h
  | register d shell =>
      refine ((contains_register_iff shell).mp h).imp_right fun ⟨hname, hcustom⟩ => Or.inr ?_
      exact ⟨⟨d, List.mem_singleton.mpr rfl, hname⟩, hcustom⟩
  | resolve t => exact (contains_needAll_iff.mp h).imp_right fun hneeded => Or.inl hneeded.2
  | take =>
      rw [perform] at h
      split at h
      · rename_i htake
        rw [(takePending?_eq_some htake).2] at h
        exact Or.inl h
      · exact Or.inl h
  | prepare c d =>
      refine ((contains_register_iff c.shell).mp h).imp_right fun ⟨hname, hcustom⟩ => Or.inr ?_
      exact ⟨⟨d, List.mem_singleton.mpr rfl, hname⟩, hcustom⟩
  | convert strategy c d =>
      rw [perform] at h
      rcases convert_cases env strategy s c d with ⟨_, _, heq⟩ | ⟨_, heq⟩
      · rw [heq, contains_populate] at h
        exact (contains_needAll_iff.mp h).imp_right fun hneeded => Or.inl hneeded.2
      · rw [heq] at h
        exact Or.inl h

/-- Whatever has a declaration after some operations was found on the way or is among the types that
they were told to register, and then no target was chosen for it. -/
theorem contains_of_performs {ops : List Operation}
    (h : (ops.foldl (perform env) s).table.contains x = true) :
    s.table.contains x = true ∨ env.isDeclarable x = true ∨
      ((∃ op ∈ ops, ∃ d ∈ op.registers, d.name = x) ∧ env.custom.contains x = false) := by
  induction ops generalizing s with
  | nil => exact Or.inl h
  | cons op rest ih =>
      rcases ih h with hfirst | hdecl | ⟨⟨o, ho, hrest⟩, hcustom⟩
      · refine (contains_of_perform hfirst).imp_right (Or.imp_right ?_)
        exact fun ⟨hnamed, hcustom⟩ => ⟨⟨op, List.mem_cons_self, hnamed⟩, hcustom⟩
      · exact Or.inr (Or.inl hdecl)
      · exact Or.inr (Or.inr ⟨⟨o, List.mem_cons_of_mem _ ho, hrest⟩, hcustom⟩)

/-! ## What counts as declared -/

/-- Seeing to an identity changes what has a declaration, but not what has one or can get one. -/
theorem isDeclared_needAll (s : Conversion) (names : List String) :
    (s.needAll env names).isDeclared env = s.isDeclared env := by
  funext x
  -- what was added could get a declaration before, and still can
  rw [Bool.eq_iff_iff, isDeclared, isDeclared, Bool.or_eq_true, Bool.or_eq_true,
    contains_needAll_iff, or_assoc, or_iff_right_of_imp And.right]

/-- An identity has a declaration after it was seen to if it had one or could get one. -/
theorem contains_need_self (s : Conversion) (name : String) :
    (s.need env name).table.contains name = s.isDeclared env name := by
  rw [Bool.eq_iff_iff, contains_need_iff, isDeclared, Bool.or_eq_true]
  simp only [true_and]

/-! ## Step by step -/

mutual

/-- Resolves a reference step by step: arguments before the type that they are applied to, which is
registered by then if it can be. -/
def visit (env : Env) (s : Conversion) : TypeRef → TypeExpr × Conversion
  | .primitive p => (.keyword p.keyword, s)
  | .typeVar name => (.parameter name, s)
  | .array element =>
    let (inner, s) := visit env s element
    (.array inner, s)
  | .named name args =>
    match env.custom.get? name with
    | some chosen => (chosen, s)
    | none =>
      match Builtin.of? name with
      | some builtin =>
        let (argument, s) := visitAt env s builtin.argument? args
        (builtin.target argument, s)
      | none =>
        let (given, s) := visitAll env s args
        let s := s.need env name
        (if s.table.contains name then .apply (.declared name) (Env.fillUp (env.arity name) given)
          else .any, s)

/-- Resolves some references, one after the other. -/
def visitAll (env : Env) (s : Conversion) : List TypeRef → List TypeExpr × Conversion
  | [] => ([], s)
  | t :: rest =>
    let (first, s) := visit env s t
    let (others, s) := visitAll env s rest
    (first :: others, s)

/-- Resolves the reference at a position; `any` where there is none. -/
def visitAt (env : Env) (s : Conversion) : Option Nat → List TypeRef → TypeExpr × Conversion
  | none, _ => (.any, s)
  | some _, [] => (.any, s)
  | some 0, t :: _ => visit env s t
  | some (n + 1), _ :: rest => visitAt env s (some n) rest

end

mutual

/-- Going step by step comes to the target and to the state of the resolution that looks at what counts
as declared only once, in any state. -/
theorem visit_eq_resolve :
    ∀ (r : TypeRef) (s : Conversion), s.visit env r = s.resolve env r
  | .primitive _, s | .typeVar _, s => by
      simp only [visit, resolve, target, Env.target, Env.needs]
      rfl
  | .array element, s => by
      simp only [visit, visit_eq_resolve element s]
      simp only [resolve, target, Env.target, Env.needs]
  | .named name args, s => by
      simp only [visit, resolve, target, Env.target, Env.needs]
      cases hcustom : env.custom.get? name with
      | some chosen => rfl
      | none =>
          cases hbuiltin : Builtin.of? name with
          | some builtin => simp only [visitAt_eq builtin.argument? args s]
          | none =>
              -- the type itself comes last, when all that its arguments need is declared
              simp only [visitAll_eq args s, contains_need_self, isDeclared_needAll]
              simp only [needAll, List.foldl_append, List.foldl_cons, List.foldl_nil]

theorem visitAll_eq :
    ∀ (refs : List TypeRef) (s : Conversion), s.visitAll env refs =
      (env.targets (s.isDeclared env) refs, s.needAll env (env.needsOf refs))
  | [], s => by
      simp only [visitAll, Env.targets, Env.needsOf]
      rfl
  | t :: rest, s => by
      simp only [visitAll, visit_eq_resolve t s, resolve, visitAll_eq rest, isDeclared_needAll]
      simp only [target, Env.targets, Env.needsOf, needAll, List.foldl_append]

theorem visitAt_eq :
    ∀ (position : Option Nat) (refs : List TypeRef) (s : Conversion), s.visitAt env position refs =
      (env.targetAt (s.isDeclared env) position refs, s.needAll env (env.needsAt position refs))
  | none, _, s | some _, [], s => by
      simp only [visitAt, Env.targetAt, Env.needsAt]
      rfl
  | some 0, t :: _, s => by
      simp only [visitAt, visit_eq_resolve t s, resolve, target, Env.targetAt, Env.needsAt]
  | some (n + 1), _ :: rest, s => by
      simp only [visitAt, visitAt_eq (some n) rest s, Env.targetAt, Env.needsAt]

end

/-! ## Offered types -/

/-- Every declared identity is offered by the index. -/
def Offered (env : Env) (s : Conversion) : Prop :=
  ∀ x, s.table.contains x = true → env.index.offers x = true

theorem Offered.isDeclared (h : s.Offered env) (hcustom : env.custom.get? x = none) :
    s.isDeclared env x = env.index.offers x := by
  rw [Conversion.isDeclared, Env.isDeclarable_of_free hcustom, Bool.or_eq_right_iff_imp]
  exact h x

theorem Offered.target_eq (h : s.Offered env) (r : TypeRef) :
    s.target env r = r.expr env.index env.custom :=
  Env.target_eq_expr (fun _ => h.isDeclared) r

theorem Offered.needAll (h : s.Offered env) (names : List String) :
    (s.needAll env names).Offered env := by
  intro x hx
  rcases contains_needAll_iff.mp hx with hold | ⟨_, hdecl⟩
  · exact h x hold
  · rw [Env.isDeclarable_eq, Bool.and_eq_true] at hdecl
    exact hdecl.1

/-- Operations on known types declare nothing but what the index offers, if it holds no annotation. -/
theorem offered_after {ops : List Operation} (hknown : Known env.index ops)
    (hindex : ∀ x d, env.index.find? x = some d → d.kind ≠ .annotationType) :
    (after env ops).Offered env := by
  intro x hx
  rcases contains_of_performs hx with hempty | hdecl | ⟨⟨op, hop, d, hd, rfl⟩, _⟩
  · exact absurd hempty (by simp [Table.contains])
  · rw [Env.isDeclarable_eq, Bool.and_eq_true] at hdecl
    exact hdecl.1
  · -- it was to be registered, so it comes from the index
    have hfind := hknown op hop d hd
    simp [Index.offers, hfind, hindex d.name d hfind]

/-- The states before some operations declare no more than the one after them. -/
theorem Offered.before {ops more : List Operation} (h : (after env (ops ++ more)).Offered env) :
    (after env ops).Offered env := by
  intro x hx
  refine h x ?_
  rw [after, List.foldl_append]
  exact Pass.contains_of_moves (moves_performs more _) hx

/-- A state resolves a reference to what the index and the chosen targets tell, whether it looks at the
table only once or at every step, and so it does when the reference is resolved again. -/
structure Resolves (env : Env) (s : Conversion) (r : TypeRef) : Prop where
  target : (s.resolve env r).1 = r.expr env.index env.custom
  steps : s.visit env r = s.resolve env r
  again : ((s.resolve env r).2.resolve env r).1 = (s.resolve env r).1

theorem Offered.resolves (h : s.Offered env) (r : TypeRef) : s.Resolves env r where
  target := h.target_eq r
  steps := visit_eq_resolve r s
  again := ((h.needAll _).target_eq r).trans (h.target_eq r).symm

end Conversion

/-! ## Runs -/

/-- No annotation is among the types of a discovery. -/
def Discovery.WithoutAnnotations (discovery : Discovery) : Prop :=
  ∀ d ∈ discovery.candidates ++ discovery.references, d.kind ≠ .annotationType

namespace Discovery

theorem withoutAnnotations_ofTypes (types : List Descriptor) (packages : List String) :
    (ofTypes types packages).WithoutAnnotations := by
  intro d hd
  have hknown : d ∈ (flatten types).filter (·.kind != .annotationType) := by
    rcases List.mem_append.mp hd with hmem | hmem
    · exact (List.mem_filter.mp hmem).1
    · exact (List.mem_filter.mp hmem).1
  simpa using (List.mem_filter.mp hknown).2

theorem withoutAnnotations_ofManifests {files : Files} {paths packages : List String}
    {discovery : Discovery} (h : ofManifests files paths packages = .ok discovery) :
    discovery.WithoutAnnotations := by
  unfold ofManifests at h
  split at h
  · simp at h
  · simp only [bind, Except.bind] at h
    split at h
    · simp at h
    · obtain rfl := Except.ok.inj h
      exact withoutAnnotations_ofTypes _ packages

theorem WithoutAnnotations.kind_ne {discovery : Discovery} (h : discovery.WithoutAnnotations)
    {x : String} {d : Descriptor} (hfind : (Setup.index discovery).find? x = some d) :
    d.kind ≠ .annotationType := by
  rw [Setup.index, Index.find?_ofList] at hfind
  exact h d (List.mem_of_find?_eq_some hfind)

end Discovery

section Resolution

open Conversion (Operation after)

/-- At every moment of a run over a discovery without annotations the index offers all that is
declared. -/
theorem Setup.offered_of_run {s : Setup} {discovery : Discovery} {outcome : Outcome}
    (hplain : discovery.WithoutAnnotations) (h : s.run discovery = .ok outcome) :
    ∃ ops, outcome.graph = (after (s.env (index discovery)) ops).graph ∧
      ∀ n, (after (s.env (index discovery)) (ops.take n)).Offered (s.env (index discovery)) := by
  obtain ⟨ops, hknown, hgraph⟩ := exists_operations_of_run h
  refine ⟨ops, hgraph, fun n => ?_⟩
  refine Conversion.offered_after (fun op hop => hknown op (List.mem_of_mem_take hop)) ?_
  exact fun _ _ => hplain.kind_ne

/-- At every moment of a run over manifests every reference resolves to what the index and the chosen
targets tell, since no annotation comes through a discovery. -/
theorem Setup.resolves_of_manifests {s : Setup} {files : Files} {paths packages : List String}
    {discovery : Discovery} {outcome : Outcome}
    (hdiscovery : Discovery.ofManifests files paths packages = .ok discovery)
    (h : s.run discovery = .ok outcome) :
    ∃ ops, outcome.graph = (after (s.env (index discovery)) ops).graph ∧
      ∀ n r, (after (s.env (index discovery)) (ops.take n)).Resolves (s.env (index discovery)) r := by
  obtain ⟨ops, hgraph, hoffered⟩ :=
    s.offered_of_run (Discovery.withoutAnnotations_ofManifests hdiscovery) h
  exact ⟨ops, hgraph, fun n r => (hoffered n).resolves r⟩

/-- Whatever operations have led to a state, if it declares only what the index offers, it resolves
every reference to what the index and the chosen targets tell, as does every state before. All states
of a run over a discovery without annotations are such. -/
theorem resolve_eq_expr :
    (∀ (env : Env) (ops more : List Operation), (after env (ops ++ more)).Offered env →
      ∀ r : TypeRef, (after env ops).Resolves env r ∧ (after env (ops ++ more)).Resolves env r ∧
        ((after env ops).resolve env r).1 = ((after env (ops ++ more)).resolve env r).1) ∧
    ∀ (s : Setup) (discovery : Discovery) (outcome : Outcome), discovery.WithoutAnnotations →
      s.run discovery = .ok outcome →
        ∃ ops, outcome.graph = (after (s.env (Setup.index discovery)) ops).graph ∧
          ∀ n, (after (s.env (Setup.index discovery)) (ops.take n)).Offered
            (s.env (Setup.index discovery)) := by
  refine ⟨?_, fun s discovery outcome => Setup.offered_of_run⟩
  intro env ops more h r
  have hbefore : (after env ops).Resolves env r := h.before.resolves r
  have hlater : (after env (ops ++ more)).Resolves env r := h.resolves r
  exact ⟨hbefore, hlater, hbefore.target.trans hlater.target.symm⟩

/-- In the shop a list of orders is an array of them from the beginning to the end. -/
theorem resolve_shop : ∃ outcome ops, shopSetup.run shopInput = .ok outcome ∧
    outcome.graph = (after (shopSetup.env (Setup.index shopInput)) ops).graph ∧
      ∀ n, ((after (shopSetup.env (Setup.index shopInput)) (ops.take n)).resolve
        (shopSetup.env (Setup.index shopInput))
          (.named "java.util.List" [.named "shop.Order" []])).1 = .array (.declared "shop.Order") := by
  obtain ⟨outcome, hrun⟩ := run_shop
  obtain ⟨ops, hgraph, hoffered⟩ := resolve_eq_expr.2 shopSetup shopInput outcome
    (Discovery.withoutAnnotations_ofTypes shopTypes ["shop"]) hrun
  refine ⟨outcome, ops, hrun, hgraph, fun n => ?_⟩
  have h := resolve_eq_expr.1 (shopSetup.env (Setup.index shopInput)) (ops.take n) []
    (by rw [List.append_nil]; exact hoffered n) (.named "java.util.List" [.named "shop.Order" []])
  have horder : ((Setup.index shopInput).find? "shop.Order").map
      (fun d => (d.kind, d.typeParams.length)) = some (.classType, 0) := by
    decide +kernel
  obtain ⟨d, hfind, hclass⟩ := Option.map_eq_some_iff.mp horder
  have hlist : Builtin.of? "java.util.List" = some .collection := by decide
  have hno : Builtin.of? "shop.Order" = none := by decide
  have hcustom : ∀ x, shopSetup.custom.get? x = none := fun _ => rfl
  obtain ⟨hkind, harity⟩ := Prod.mk.inj hclass
  rw [h.1.target]
  simp [TypeRef.expr, TypeRef.exprs, Setup.env, hcustom, hlist, hno, hfind, hkind, harity,
    Builtin.argument?, Builtin.target, Env.fillUp, TypeExpr.apply]

end Resolution

end TypeGraph
