import TypeGraph.Conversion.Converter

/-!
# Conversion

The state of a conversion is the output so far, the types that were declared on demand and still wait
for their bodies, and the warnings. Types are registered first and filled in later, so types may refer
to each other in any way. A type on demand is registered when a reference needs it; `drain` fills in
those that wait, which may bring up more. It ends because every type that starts to wait is no longer
undeclared (`load_needAll_le`).
-/

namespace TypeGraph

/-- The state of a conversion. -/
structure Conversion where
  modules : ModuleTree := {}
  table : Table := {}
  pending : List Descriptor := []
  warnings : List Warning := []

namespace Conversion

variable (env : Env)

/-! ## Registration -/

/-- Sees to it that the module of a type is there. -/
def place (s : Conversion) (d : Descriptor) : Conversion :=
  { s with modules := s.modules.ensure (env.placement.path d) }

/-- The name of the declaration for a simple name: the mark of nested types is not allowed there. -/
def declarationName (simpleName : String) : String := Text.replaceChar '$' '_' simpleName

/-- Whether a type has no declaration yet and can be given one. -/
def accepts (s : Conversion) (d : Descriptor) : Bool :=
  !env.custom.contains d.name && !s.table.contains d.name

/-- Registers a shell for a type in its module, under a name that is free there. A type with a custom
target is never registered, and one that has a declaration keeps it. -/
def register (s : Conversion) (d : Descriptor) (shell : Body) : Conversion :=
  if s.accepts env d then
    let path := env.placement.path d
    let preferred := declarationName d.simpleName
    let (name, modules) := (s.modules.ensure path).reserve path preferred d.name
    { s with
      modules
      table := s.table.register { name, source := d.name, module := path, body := shell }
      warnings :=
        if name = preferred then s.warnings
        else s.warnings ++ [.renamed d.name preferred name] }
  else s

/-- What registering a type answers: nothing if a target was chosen for the type, and else the place of
its declaration and whether that is new. -/
def registered? (s : Conversion) (d : Descriptor) (shell : Body) : Option (Nat × Bool) :=
  if env.custom.contains d.name then none
  else ((s.register env d shell).table.idOf? d.name).map fun id => (id, s.accepts env d)

/-- The shell of a type that is registered on demand. -/
def demandShell (d : Descriptor) : Body := if d.isEnum then .emptyEnum else .emptyInterface

/-- Registers a type on demand, and lets it wait for its body. -/
def demand (s : Conversion) (d : Descriptor) : Conversion :=
  let s := s.register env d (demandShell d)
  { s with pending := s.pending ++ [d] }

/-- Sees to it that an identity has a declaration, if it can have one. -/
def need (s : Conversion) (name : String) : Conversion :=
  if s.table.contains name then s
  else
    match env.index.find? name with
    | some d =>
      if env.isDeclarable name then s.demand env d
      else { s with warnings := s.warnings ++ [.unresolved name] }
    | none => { s with warnings := s.warnings ++ [.unresolved name] }

/-- Sees to several identities in order. -/
def needAll (s : Conversion) (names : List String) : Conversion := names.foldl (need env) s

/-- Takes the type that waits longest. -/
def takePending? (s : Conversion) : Option (Descriptor × Conversion) :=
  match s.pending with
  | [] => none
  | d :: rest => some (d, { s with pending := rest })

/-! ## Resolution and bodies -/

/-- Whether an identity has a declaration or can get one. -/
def isDeclared (s : Conversion) (name : String) : Bool :=
  s.table.contains name || env.isDeclarable name

/-- The target of a reference at this point of the conversion. -/
def target (s : Conversion) (t : TypeRef) : TypeExpr := env.target (s.isDeclared env) t

/-- Resolves a reference: its target, and the state in which everything it needs is declared. -/
def resolve (s : Conversion) (t : TypeRef) : TypeExpr × Conversion :=
  (s.target env t, s.needAll env (env.needs t))

/-- Registers a type for a converter. -/
def prepare (s : Conversion) (c : Converter) (d : Descriptor) : Conversion :=
  s.register env d c.shell

/-- Fills in the declaration of a type. Without a declaration, or when it is filled in already,
nothing changes. -/
def convert (strategy : Nullability) (s : Conversion) (c : Converter) (d : Descriptor) :
    Conversion :=
  if s.table.contains d.name && !s.table.isPopulated d.name then
    let body := c.body (s.target env) strategy d
    let s := s.needAll env ((c.references d).flatMap env.needs)
    { s with table := s.table.populate d.name body }
  else s

/-! ## The measure of a conversion -/

/-- The known types without a declaration. -/
def undeclared (s : Conversion) : List Descriptor :=
  env.index.types.filter fun d => !s.table.contains d.name

/-- How much may still come to wait, and how much waits. -/
def load (s : Conversion) : Nat := (s.undeclared env).length + s.pending.length

theorem contains_register (t : Table) (shell : Declaration) (name : String) :
    (t.register shell).contains name = (t.contains name || shell.source == name) := by
  unfold Table.register
  split
  · rename_i h
    by_cases e : shell.source = name
    · subst e
      simp [h]
    · simp [e]
  · simp [Table.contains]

theorem contains_populate (t : Table) (source name : String) (body : Body) :
    (t.populate source body).contains name = t.contains name := by
  simp only [Table.populate, Table.modify, Table.contains, List.any_map]
  congr 1
  funext d
  simp only [Function.comp]
  split
  · split <;> rfl
  · rfl

/-- Registration on demand takes a type from those without a declaration to those that wait. -/
theorem load_demand_le {s : Conversion} {d : Descriptor} (hmem : d ∈ env.index.types)
    (hacc : s.accepts env d = true) : (s.demand env d).load env ≤ s.load env := by
  have htable : (s.demand env d).table.contains = fun name =>
      s.table.contains name || d.name == name := by
    funext name
    simp only [demand, register, hacc, if_true, contains_register]
  have hpending : (s.demand env d).pending = s.pending ++ [d] := by
    simp only [demand, register, hacc, if_true]
  have hnot : s.table.contains d.name = false := by
    simpa [accepts] using (Bool.and_eq_true_iff.mp hacc).2
  have hlt : ((s.demand env d).undeclared env).length < (s.undeclared env).length := by
    refine length_filter_lt (fun y hy => ?_) hmem (by simp [hnot]) (by simp [htable])
    rw [htable] at hy
    simp only [Bool.not_or, Bool.and_eq_true] at hy
    exact hy.1
  simp only [load, hpending, List.length_append, List.length_singleton]
  omega

theorem load_need_le (s : Conversion) (name : String) : (s.need env name).load env ≤ s.load env := by
  unfold need
  split
  · exact Nat.le_refl _
  · rename_i hnot
    split
    · rename_i d hfind
      split
      · rename_i hdecl
        refine load_demand_le env (Index.mem_of_find? hfind) ?_
        have hname := Index.name_of_find? hfind
        simp only [Env.isDeclarable, hfind, Bool.and_eq_true] at hdecl
        simp only [accepts, hname, Bool.and_eq_true]
        exact ⟨hdecl.2, by simpa using hnot⟩
      · exact Nat.le_refl _
    · exact Nat.le_refl _

theorem load_needAll_le (s : Conversion) (names : List String) :
    (s.needAll env names).load env ≤ s.load env := by
  induction names generalizing s with
  | nil => exact Nat.le_refl _
  | cons name rest ih =>
    exact Nat.le_trans (ih (s.need env name)) (load_need_le env s name)

theorem load_convert_le (strategy : Nullability) (s : Conversion) (c : Converter)
    (d : Descriptor) : (s.convert env strategy c d).load env ≤ s.load env := by
  unfold convert
  split
  · refine Nat.le_trans (Nat.le_of_eq ?_)
      (load_needAll_le env s ((c.references d).flatMap env.needs))
    simp only [load, undeclared, contains_populate]
  · exact Nat.le_refl _

theorem takePending?_eq_some {s t : Conversion} {d : Descriptor}
    (h : s.takePending? = some (d, t)) :
    s.pending = d :: t.pending ∧ t = { s with pending := t.pending } := by
  unfold takePending? at h
  split at h
  · simp at h
  · rename_i next rest hpending
    obtain ⟨rfl, rfl⟩ := Prod.mk.inj (Option.some.inj h)
    exact ⟨hpending, rfl⟩

/-- Taking a type leaves less to wait for. -/
theorem load_takePending_lt {s t : Conversion} {d : Descriptor}
    (h : s.takePending? = some (d, t)) : t.load env < s.load env := by
  obtain ⟨hpending, ht⟩ := takePending?_eq_some h
  rw [ht]
  simp [load, undeclared, hpending]

/-! ## Whole roles -/

/-- Fills in the types that wait, until none does. -/
def drain (strategy : Nullability) (converters : Converters) (s : Conversion) :
    Except Error Conversion :=
  match h : s.takePending? with
  | none => .ok s
  | some (d, t) =>
    match converters.for? d with
    | .error e => .error e
    | .ok c =>
      have : (t.convert env strategy c d).load env < s.load env :=
        Nat.lt_of_le_of_lt (load_convert_le env strategy t c d) (load_takePending_lt env h)
      drain strategy converters (t.convert env strategy c d)
termination_by s.load env

/-- Registers the types of a role, leaving out those that have a declaration or cannot have one:
the types registered, and the state afterwards. -/
def prepareAll (c : Converter) : List Descriptor → Conversion → List Descriptor × Conversion
  | [], s => ([], s)
  | d :: rest, s =>
    let isNew := s.accepts env d
    let (registered, after) := prepareAll c rest (s.prepare env c d)
    (if isNew then d :: registered else registered, after)

/-- Converts the types of a role: registers all of them, fills them in, and then fills in whatever
was registered on demand. -/
def convertRole (strategy : Nullability) (converters : Converters) (c : Converter)
    (types : List Descriptor) (s : Conversion) : Except Error Conversion :=
  let (registered, s) := s.prepareAll env c types
  (registered.foldl (fun s d => s.convert env strategy c d) s).drain env strategy converters

end Conversion

end TypeGraph
