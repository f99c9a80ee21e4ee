import Mathlib.Tactic.Set
import TypeGraph.Proofs.Conversion.Moves

/-!
# The progress of a pass

A pass converts the types of one role and whatever they lead to. While it is under way every
declaration that it made is filled in by the converter of its type, or its type still waits; whatever
waits is declared, waits once, and was reached from the types the pass began with
(`Pass.Underway`). The operations of a pass keep this, each taking the type that it converts from those
that wait. At the end nothing waits, so everything is filled in and all that it needs is declared.
-/

namespace TypeGraph

open Relation (ReflTransGen)

/-! ## What leads to what -/

/-- One identity leads to another: a converter of the first resolves a reference that needs the
second, and a declaration can be made for the second. -/
def Env.Leads (env : Env) (assigned : Descriptor → Converter → Prop) (x y : String) : Prop :=
  ∃ d c, env.index.find? x = some d ∧ assigned d c ∧
    y ∈ (c.references d).flatMap env.needs ∧ env.isDeclarable y = true

/-- An identity can be reached from some identities, each leading to the next. -/
def Env.Reaches (env : Env) (assigned : Descriptor → Converter → Prop) (roots : String → Prop)
    (y : String) : Prop :=
  ∃ x, roots x ∧ ReflTransGen (env.Leads assigned) x y

/-- A declaration says what a converter makes of a type, and everything that the converter needs is
declared. What counts as declared when references are resolved is what can be declared, and possibly
more that is. -/
structure Filled (env : Env) (strategy : Nullability) (t : Table) (d : Descriptor) (c : Converter)
    (e : Declaration) : Prop where
  known : env.index.find? e.source = some d
  body : ∃ declared : String → Bool,
    (∀ x, env.isDeclarable x = true → declared x = true) ∧
      (∀ x, declared x = true → env.isDeclarable x = true ∨ t.contains x = true) ∧
      e.body = c.body (env.target declared) strategy d
  closed : ∀ y ∈ (c.references d).flatMap env.needs, env.isDeclarable y = true →
    t.contains y = true

/-- What is filled in stays so when more is declared. -/
theorem Filled.mono {env : Env} {strategy : Nullability} {t t' : Table} {d : Descriptor}
    {c : Converter} {e : Declaration} (h : Filled env strategy t d c e)
    (hmore : ∀ x, t.contains x = true → t'.contains x = true) : Filled env strategy t' d c e where
  known := h.known
  body := by
    obtain ⟨declared, hdecl, honly, hbody⟩ := h.body
    exact ⟨declared, hdecl, fun x hx => (honly x hx).imp_right (hmore x), hbody⟩
  closed := fun y hy hdecl => hmore y (h.closed y hy hdecl)

/-! ## The invariant -/

/-- What is fixed during a pass: how types go to converters, the table at its beginning, and the
identities that it began with. -/
structure Pass where
  env : Env
  strategy : Nullability
  assigned : Descriptor → Converter → Prop
  before : Table
  roots : String → Prop

namespace Pass

open Conversion

variable {p : Pass} {s t : Conversion} {d : Descriptor} {c : Converter} {todo : List Descriptor}
  {names : List String} {name : String}

/-- The identities that the pass can come to. -/
abbrev Reaches (p : Pass) (x : String) : Prop := p.env.Reaches p.assigned p.roots x

/-- The state of a pass that has yet to convert some types besides those that wait in the state. -/
structure Underway (p : Pass) (todo : List Descriptor) (s : Conversion) : Prop where
  sources : s.table.sources.Nodup
  kept : ∀ e ∈ p.before.declarations, e ∈ s.table.declarations
  rooted : ∀ x, p.roots x → s.table.contains x = true
  /-- Nothing waits twice. -/
  jobs : ((todo ++ s.pending).map (·.name)).Nodup
  /-- What waits is known and has an empty declaration made by this pass. -/
  job : ∀ d ∈ todo ++ s.pending, p.env.index.find? d.name = some d ∧
    p.before.contains d.name = false ∧
    ∃ e ∈ s.table.declarations, e.source = d.name ∧ e.progress = .registered
  demanded : ∀ d ∈ s.pending, p.env.isDeclarable d.name = true ∧ ¬ p.roots d.name
  reached : ∀ e ∈ s.table.declarations, p.before.contains e.source = false → p.Reaches e.source
  /-- An empty declaration made by this pass is of a type that waits. -/
  waits : ∀ e ∈ s.table.declarations, p.before.contains e.source = false →
    e.progress = .registered → e.source ∈ (todo ++ s.pending).map (·.name)
  filled : ∀ e ∈ s.table.declarations, p.before.contains e.source = false →
    e.progress = .populated → ∃ d c, p.assigned d c ∧ Filled p.env p.strategy s.table d c e

/-! ## Declarations stay -/

theorem contains_of_move {env : Env} {x : String} (h : Move env s t)
    (hs : s.table.contains x = true) : t.table.contains x = true := by
  cases h with
  | register d shell hacc =>
      obtain ⟨e, he, hsource⟩ := Table.contains_iff.mp hs
      refine Table.contains_iff.mpr ⟨e, ?_, hsource⟩
      rw [register_of_accepts shell hacc]
      exact List.mem_append_left _ he
  | fill source body =>
      show (s.table.populate source body).contains x = true
      rw [contains_populate]
      exact hs
  | place d => exact hs
  | wait d => exact hs
  | take => exact hs
  | warn w => exact hs

/-- A type that has a declaration keeps having one. -/
theorem contains_of_moves {env : Env} {x : String} (h : Moves env s t)
    (hs : s.table.contains x = true) : t.table.contains x = true :=
  keep_of_moves (I := fun u => u.table.contains x = true) (fun _ _ => contains_of_move) h hs

theorem contains_register_self {env : Env} (shell : Body) (hacc : s.accepts env d = true) :
    (s.register env d shell).table.contains d.name = true := by
  obtain ⟨new, hsource, _, hdecls⟩ := exists_registered shell hacc
  refine Table.contains_iff.mpr ⟨new, ?_, hsource⟩
  rw [hdecls]
  exact List.mem_append_right _ (List.mem_singleton.mpr rfl)

/-- Seeing to an identity declares it, if it can be declared. -/
theorem contains_need {env : Env} (s : Conversion) (hdecl : env.isDeclarable name = true) :
    (s.need env name).table.contains name = true := by
  rcases need_cases env s name with ⟨hcontains, heq⟩ | ⟨_, hnot, _⟩ | ⟨d, _, rfl, _, hacc, heq⟩
  · rw [heq]
    exact hcontains
  · exact absurd (hnot.symm.trans hdecl) Bool.false_ne_true
  · rw [heq]
    exact contains_register_self (demandShell d) hacc

theorem contains_needAll {env : Env} (s : Conversion) (hmem : name ∈ names)
    (hdecl : env.isDeclarable name = true) : (s.needAll env names).table.contains name = true := by
  induction names generalizing s with
  | nil => exact absurd hmem List.not_mem_nil
  | cons first rest ih =>
      rcases List.mem_cons.mp hmem with rfl | hrest
      · exact contains_of_moves (moves_needAll (s.need env name) rest) (contains_need s hdecl)
      · exact ih (s.need env first) hrest

/-! ## Needs -/

/-- A type that is registered on demand joins those that wait. -/
theorem Underway.demand (h : p.Underway todo s) (hfind : p.env.index.find? d.name = some d)
    (hdecl : p.env.isDeclarable d.name = true) (hacc : s.accepts p.env d = true)
    (hreach : p.Reaches d.name) : p.Underway todo (s.demand p.env d) := by
  obtain ⟨new, hsource, hregistered, hregister⟩ := exists_registered (demandShell d) hacc
  have hdecls : (s.demand p.env d).table.declarations = s.table.declarations ++ [new] := hregister
  have hpending : (s.demand p.env d).pending = s.pending ++ [d] := by
    simp only [Conversion.demand, pending_register]
  have hnot : s.table.contains d.name = false := (accepts_iff.mp hacc).2
  have hmore : ∀ x, s.table.contains x = true → (s.demand p.env d).table.contains x = true :=
    fun x => contains_of_moves (moves_demand s d)
  have hold : ∀ e ∈ s.table.declarations, e ∈ (s.demand p.env d).table.declarations := by
    intro e he
    rw [hdecls]
    exact List.mem_append_left _ he
  have hnew : new ∈ (s.demand p.env d).table.declarations := by
    rw [hdecls]
    exact List.mem_append_right _ (List.mem_singleton.mpr rfl)
  have hcases : ∀ e ∈ (s.demand p.env d).table.declarations,
      e ∈ s.table.declarations ∨ e = new := by
    intro e he
    rw [hdecls] at he
    rcases List.mem_append.mp he with hmem | hlast
    · exact Or.inl hmem
    · exact Or.inr (List.mem_singleton.mp hlast)
  -- nothing changes but that the type is declared last and waits last
  refine ⟨?_, ?_, ?_, ?_, ?_, ?_, ?_, ?_, ?_⟩
  · exact nodup_sources_register _ hacc h.sources
  · exact fun e he => hold e (h.kept e he)
  · exact fun x hx => hmore x (h.rooted x hx)
  · -- all that waits already has a declaration, and the new type had none
    rw [hpending, ← List.append_assoc, List.map_append, List.nodup_append]
    refine ⟨h.jobs, by simp, ?_⟩
    intro x hx y hy
    obtain ⟨w, hw, rfl⟩ := List.mem_map.mp hx
    obtain rfl : y = d.name := by simpa using hy
    obtain ⟨_, _, e, he, hesource, _⟩ := h.job w hw
    intro heq
    exact Table.contains_eq_false_iff.mp hnot e he (hesource.trans heq)
  · rw [hpending, ← List.append_assoc]
    intro w hw
    rcases List.mem_append.mp hw with hmem | hlast
    · obtain ⟨hknown, hbefore, e, he, hrest⟩ := h.job w hmem
      exact ⟨hknown, hbefore, e, hold e he, hrest⟩
    · obtain rfl := List.mem_singleton.mp hlast
      refine ⟨hfind, ?_, new, hnew, hsource, hregistered⟩
      rw [Table.contains_eq_false_iff]
      exact fun e he => Table.contains_eq_false_iff.mp hnot e (h.kept e he)
  · rw [hpending]
    intro w hw
    rcases List.mem_append.mp hw with hmem | hlast
    · exact h.demanded w hmem
    · obtain rfl := List.mem_singleton.mp hlast
      refine ⟨hdecl, fun hroot => ?_⟩
      have hcontains := h.rooted _ hroot
      rw [hnot] at hcontains
      exact Bool.false_ne_true hcontains
  · intro e he hbefore
    rcases hcases e he with hmem | rfl
    · exact h.reached e hmem hbefore
    · rw [hsource]
      exact hreach
  · rw [hpending, ← List.append_assoc, List.map_append]
    intro e he hbefore hprogress
    rcases hcases e he with hmem | rfl
    · exact List.mem_append_left _ (h.waits e hmem hbefore hprogress)
    · exact List.mem_append_right _ (by simp [hsource])
  · intro e he hbefore hprogress
    rcases hcases e he with hmem | rfl
    · obtain ⟨o, k, hassigned, hfilled⟩ := h.filled e hmem hbefore hprogress
      exact ⟨o, k, hassigned, hfilled.mono hmore⟩
    · rw [hregistered] at hprogress
      exact Progress.noConfusion hprogress

theorem Underway.need (h : p.Underway todo s)
    (hreach : p.env.isDeclarable name = true → p.Reaches name) :
    p.Underway todo (s.need p.env name) := by
  rcases need_cases p.env s name with ⟨_, heq⟩ | ⟨_, _, heq⟩ | ⟨d, hfind, rfl, hdecl, hacc, heq⟩
  · rw [heq]
    exact h
  · -- a warning is no part of what the pass keeps
    rw [heq]
    exact ⟨h.sources, h.kept, h.rooted, h.jobs, h.job, h.demanded, h.reached, h.waits, h.filled⟩
  · rw [heq]
    exact h.demand hfind hdecl hacc (hreach hdecl)

theorem Underway.needAll (h : p.Underway todo s)
    (hreach : ∀ x ∈ names, p.env.isDeclarable x = true → p.Reaches x) :
    p.Underway todo (s.needAll p.env names) := by
  induction names generalizing s with
  | nil => exact h
  | cons name rest ih =>
      exact ih (h.need (hreach name (by simp))) fun x hx => hreach x (List.mem_cons_of_mem _ hx)

/-! ## Bodies -/

/-- Filling in a type takes it from those still to be converted. -/
theorem Underway.fill {body : Body} (h : p.Underway (d :: todo) s)
    (hfilled : ∀ e ∈ s.table.declarations, e.source = d.name →
      ∃ o k, p.assigned o k ∧
        Filled p.env p.strategy s.table o k { e with body, progress := .populated }) :
    p.Underway todo { s with table := s.table.populate d.name body } := by
  obtain ⟨_, hbefore, own, hown, hsource, hregistered⟩ := h.job d (by simp)
  have hjobs : (d.name :: (todo ++ s.pending).map (·.name)).Nodup := h.jobs
  have hmore : ∀ x, s.table.contains x = true →
      (s.table.populate d.name body).contains x = true := by
    intro x hx
    rw [contains_populate]
    exact hx
  have hcases : ∀ e ∈ (s.table.populate d.name body).declarations,
      e = { own with body, progress := .populated } ∨
        (e ∈ s.table.declarations ∧ e.source ≠ d.name) := by
    rw [← hsource]
    exact fun e he => Table.mem_populate_cases h.sources hown hregistered he
  -- nothing changes but that the first of those to be converted has its body
  refine ⟨?_, ?_, ?_, ?_, ?_, h.demanded, ?_, ?_, ?_⟩
  · show (s.table.populate d.name body).sources.Nodup
    rw [Table.sources_populate]
    exact h.sources
  · intro e he
    exact Table.mem_populate_of_ne (h.kept e he) (Table.contains_eq_false_iff.mp hbefore e he)
  · exact fun x hx => hmore x (h.rooted x hx)
  · exact (List.nodup_cons.mp hjobs).2
  · intro w hw
    obtain ⟨hknown, hwbefore, e, he, hesource, hprogress⟩ := h.job w (List.mem_cons_of_mem _ hw)
    refine ⟨hknown, hwbefore, e, Table.mem_populate_of_ne he ?_, hesource, hprogress⟩
    rw [hesource]
    rintro heq
    exact (List.nodup_cons.mp hjobs).1 (heq ▸ List.mem_map_of_mem hw)
  · intro e he hebefore
    rcases hcases e he with rfl | ⟨hmem, _⟩
    · exact h.reached own hown hebefore
    · exact h.reached e hmem hebefore
  · intro e he hebefore hprogress
    rcases hcases e he with rfl | ⟨hmem, hne⟩
    · exact Progress.noConfusion hprogress
    · rcases List.mem_cons.mp (h.waits e hmem hebefore hprogress) with heq | hrest
      · exact absurd heq hne
      · exact hrest
  · intro e he hebefore hprogress
    rcases hcases e he with rfl | ⟨hmem, _⟩
    · obtain ⟨o, k, hassigned, hfill⟩ := hfilled own hown hsource
      exact ⟨o, k, hassigned, hfill.mono hmore⟩
    · obtain ⟨o, k, hassigned, hfill⟩ := h.filled e hmem hebefore hprogress
      exact ⟨o, k, hassigned, hfill.mono hmore⟩

/-- Converting a type by the converter that it goes to takes it from those still to be converted. -/
theorem Underway.convert (h : p.Underway (d :: todo) s) (hassigned : p.assigned d c) :
    p.Underway todo (s.convert p.env p.strategy c d) := by
  obtain ⟨hknown, hbefore, own, hown, hsource, hregistered⟩ := h.job d (by simp)
  have hcontains : s.table.contains d.name = true := Table.contains_iff.mpr ⟨own, hown, hsource⟩
  have hempty : s.table.isPopulated d.name = false := by
    rw [← hsource]
    exact Table.isPopulated_eq_false h.sources hown hregistered
  rcases convert_cases p.env p.strategy s c d with ⟨_, _, heq⟩ | ⟨hno, _⟩
  · have hreach : p.Reaches d.name := by
      rw [← hsource]
      exact h.reached own hown (by rw [hsource]; exact hbefore)
    -- whatever the converter needs is one step further than the type itself
    have hneeds : ∀ y ∈ (c.references d).flatMap p.env.needs, p.env.isDeclarable y = true →
        p.Reaches y := by
      intro y hy hdecl
      obtain ⟨x, hx, hpath⟩ := hreach
      exact ⟨x, hx, hpath.tail ⟨d, c, hknown, hassigned, hy, hdecl⟩⟩
    rw [heq]
    refine (h.needAll hneeds).fill ?_
    -- the body was made before the needs were seen to, when less was declared
    intro e _ hesource
    refine ⟨d, c, hassigned, ?_, ⟨s.isDeclared p.env, ?_, ?_, rfl⟩,
      fun _ hy hdecl => contains_needAll s hy hdecl⟩
    · show p.env.index.find? e.source = some d
      rw [hesource]
      exact hknown
    · intro x hx
      simp [isDeclared, hx]
    · intro x hx
      rcases Bool.or_eq_true_iff.mp hx with hold | hdecl
      · exact Or.inr (contains_of_moves (moves_needAll s _) hold)
      · exact Or.inl hdecl
  · rcases hno with habsent | hpop
    · rw [hcontains] at habsent
      exact absurd habsent.symm Bool.false_ne_true
    · rw [hempty] at hpop
      exact absurd hpop Bool.false_ne_true

/-- Taking the type that waits longest makes it the one to be converted. -/
theorem Underway.take (h : p.Underway [] s) (htake : s.takePending? = some (d, t)) :
    p.Underway [d] t := by
  obtain ⟨hpending, ht⟩ := takePending?_eq_some htake
  have hwaiting : [d] ++ t.pending = [] ++ s.pending := hpending.symm
  have htable : t.table = s.table := by rw [ht]
  -- the same types are yet to be converted, and the table is the same
  refine ⟨?_, ?_, ?_, ?_, ?_, ?_, ?_, ?_, ?_⟩
  · rw [htable]
    exact h.sources
  · rw [htable]
    exact h.kept
  · rw [htable]
    exact h.rooted
  · rw [hwaiting]
    exact h.jobs
  · rw [hwaiting, htable]
    exact h.job
  · exact fun w hw => h.demanded w (hpending ▸ List.mem_cons_of_mem _ hw)
  · rw [htable]
    exact h.reached
  · rw [hwaiting, htable]
    exact h.waits
  · rw [htable]
    exact h.filled

theorem Underway.converts (h : p.Underway todo s) (hassigned : ∀ d ∈ todo, p.assigned d c) :
    p.Underway [] (todo.foldl (fun s d => s.convert p.env p.strategy c d) s) := by
  induction todo generalizing s with
  | nil => exact h
  | cons d rest ih =>
      exact ih (h.convert (hassigned d (by simp))) fun w hw => hassigned w (List.mem_cons_of_mem _ hw)

/-- The type that waits longest is known, was found on the way, and can be reached. -/
theorem Underway.of_takePending (h : p.Underway [] s) (htake : s.takePending? = some (d, t)) :
    p.env.index.find? d.name = some d ∧ p.before.contains d.name = false ∧
      p.env.isDeclarable d.name = true ∧ ¬ p.roots d.name ∧ p.Reaches d.name := by
  have hmem : d ∈ s.pending := by
    rw [(takePending?_eq_some htake).1]
    exact List.mem_cons_self
  obtain ⟨hknown, hbefore, e, he, hsource, _⟩ := h.job d hmem
  obtain ⟨hdecl, hroot⟩ := h.demanded d hmem
  have hreach : p.Reaches d.name := by
    rw [← hsource]
    exact h.reached e he (by rw [hsource]; exact hbefore)
  exact ⟨hknown, hbefore, hdecl, hroot, hreach⟩

/-- A type found on the way goes to the converter that the run has for it. -/
def FoundAssigned (p : Pass) (converters : Converters) : Prop :=
  ∀ d c, p.env.index.find? d.name = some d → p.env.isDeclarable d.name = true →
    p.before.contains d.name = false → ¬ p.roots d.name → p.Reaches d.name →
    converters.for? d = .ok c → p.assigned d c

/-- One turn of the queue converts the type that waits longest. -/
theorem Underway.turn {converters : Converters} (hfound : p.FoundAssigned converters)
    (h : p.Underway [] s) (htake : s.takePending? = some (d, t))
    (hconv : converters.for? d = .ok c) : p.Underway [] (t.convert p.env p.strategy c d) := by
  obtain ⟨hknown, hbefore, hdecl, hroot, hreach⟩ := h.of_takePending htake
  exact (h.take htake).convert (hfound d c hknown hdecl hbefore hroot hreach hconv)

/-- After the queue is drained nothing waits. -/
theorem Underway.drain {converters : Converters} (h : p.Underway [] s)
    (hfound : p.FoundAssigned converters) (hdrain : s.drain p.env p.strategy converters = .ok t) :
    p.Underway [] t ∧ t.pending = [] :=
  drain_keeps (I := p.Underway []) (fun _ _ _ _ hs htake hconv => hs.turn hfound htake hconv) hdrain h

/-- When nothing is left to convert, every declaration made by the pass is filled in by the
converter that its type goes to. -/
theorem Underway.finished (h : p.Underway [] s) (hpending : s.pending = []) :
    ∀ e ∈ s.table.declarations, p.before.contains e.source = false → e.progress = .populated ∧
      ∃ d c, p.assigned d c ∧ Filled p.env p.strategy s.table d c e := by
  intro e he hbefore
  have hpopulated : e.progress = .populated := by
    cases hprogress : e.progress with
    | populated => rfl
    | registered =>
        -- its type would wait
        have hwaits := h.waits e he hbefore hprogress
        rw [hpending] at hwaits
        exact absurd hwaits List.not_mem_nil
  exact ⟨hpopulated, h.filled e he hbefore hpopulated⟩

end Pass

/-! ## Whole passes -/

namespace Conversion

variable {env : Env} {strategy : Nullability} {converters : Converters} {c : Converter}
  {types : List Descriptor} {s t : Conversion}

theorem accepts_of_moves {d : Descriptor} (h : Moves env s t) (hacc : t.accepts env d = true) :
    s.accepts env d = true := by
  rw [accepts_iff] at hacc ⊢
  refine ⟨hacc.1, ?_⟩
  cases hcontains : s.table.contains d.name with
  | false => rfl
  | true =>
      have hlater := Pass.contains_of_moves h hcontains
      rw [hacc.2] at hlater
      exact hlater.symm

/-- What the first phase of a pass does: it adds an empty declaration for every type that is accepted
by then, in order, and queues nothing. -/
structure Prepared (env : Env) (s : Conversion) (types registered : List Descriptor)
    (after : Conversion) : Prop where
  pending : after.pending = s.pending
  shells : ∃ shells : List Declaration,
    after.table.declarations = s.table.declarations ++ shells ∧
      shells.map (·.source) = registered.map (·.name) ∧ ∀ e ∈ shells, e.progress = .registered
  accepted : ∀ d ∈ registered, d ∈ types ∧ s.accepts env d = true
  complete : ∀ d ∈ types, s.accepts env d = true → after.table.contains d.name = true

theorem prepareAll_spec (env : Env) (c : Converter) (types : List Descriptor) (s : Conversion) :
    Prepared env s types (s.prepareAll env c types).1 (s.prepareAll env c types).2 := by
  induction types generalizing s with
  | nil => exact ⟨rfl, ⟨[], by simp [prepareAll]⟩, by simp [prepareAll], by simp⟩
  | cons d rest ih =>
      obtain ⟨hpending, ⟨shells, hdecls, hsources, hregistered⟩, haccepted, hcomplete⟩ :=
        ih (s.prepare env c d)
      have hmove : Moves env s (s.prepare env c d) := moves_register s d c.shell
      have hafter : (s.prepareAll env c (d :: rest)).2 =
          ((s.prepare env c d).prepareAll env c rest).2 := rfl
      have hlater : ∀ x ∈ ((s.prepare env c d).prepareAll env c rest).1,
          x ∈ d :: rest ∧ s.accepts env x = true := by
        intro x hx
        obtain ⟨hmem, hacc⟩ := haccepted x hx
        exact ⟨List.mem_cons_of_mem _ hmem, accepts_of_moves hmove hacc⟩
      refine ⟨?_, ?_, ?_, ?_⟩
      · rw [hafter, hpending]
        exact pending_register s d c.shell
      · cases hacc : s.accepts env d with
        | true =>
            obtain ⟨new, hsource, hnew, hregister⟩ := exists_registered c.shell hacc
            have hfirst : (s.prepareAll env c (d :: rest)).1 =
                d :: ((s.prepare env c d).prepareAll env c rest).1 := by
              simp [prepareAll, hacc]
            refine ⟨new :: shells, ?_, ?_, ?_⟩
            · rw [hafter, hdecls]
              show (s.register env d c.shell).table.declarations ++ shells = _
              rw [hregister, List.append_assoc, List.singleton_append]
            · rw [hfirst, List.map_cons, List.map_cons, hsource, hsources]
            · intro e he
              rcases List.mem_cons.mp he with rfl | hmem
              · exact hnew
              · exact hregistered e hmem
        | false =>
            have hfirst : (s.prepareAll env c (d :: rest)).1 =
                ((s.prepare env c d).prepareAll env c rest).1 := by
              simp [prepareAll, hacc]
            refine ⟨shells, ?_, ?_, hregistered⟩
            · rw [hafter, hdecls]
              show (s.register env d c.shell).table.declarations ++ shells = _
              rw [register_of_not_accepts c.shell hacc]
            · rw [hfirst, hsources]
      · intro x hx
        cases hacc : s.accepts env d with
        | true =>
            have hmem : x ∈ d :: ((s.prepare env c d).prepareAll env c rest).1 := by
              simpa [prepareAll, hacc] using hx
            rcases List.mem_cons.mp hmem with rfl | hmem
            · exact ⟨List.mem_cons_self, hacc⟩
            · exact hlater x hmem
        | false => exact hlater x (by simpa [prepareAll, hacc] using hx)
      · intro x hx hacc
        have hrest : Moves env (s.prepare env c d) ((s.prepare env c d).prepareAll env c rest).2 :=
          moves_prepareAll c rest _
        rw [hafter]
        rcases List.mem_cons.mp hx with rfl | hmem
        · exact Pass.contains_of_moves hrest (Pass.contains_register_self c.shell hacc)
        · cases hagain : (s.prepare env c d).accepts env x with
          | true => exact hcomplete x hmem hagain
          | false =>
              -- it was accepted before and is not now, so it has become declared
              refine Pass.contains_of_moves hrest ?_
              have hcustom := (accepts_iff.mp hacc).1
              simpa [accepts, hcustom] using hagain

/-- The pass that converts some types from a state. -/
def passOf (env : Env) (strategy : Nullability) (assigned : Descriptor → Converter → Prop)
    (s : Conversion) (types : List Descriptor) : Pass where
  env := env
  strategy := strategy
  assigned := assigned
  before := s.table
  roots := fun x => ∃ d ∈ types, d.name = x ∧ s.accepts env d = true

/-- After the first phase of a pass all types that it registered are still to be converted. -/
theorem underway_prepareAll (assigned : Descriptor → Converter → Prop)
    (hn : s.table.sources.Nodup) (hpending : s.pending = [])
    (hknown : ∀ d ∈ types, env.index.find? d.name = some d) :
    (passOf env strategy assigned s types).Underway (s.prepareAll env c types).1
      (s.prepareAll env c types).2 := by
  obtain ⟨hafter, ⟨shells, hdecls, hsources, hregistered⟩, haccepted, hcomplete⟩ :=
    prepareAll_spec env c types s
  set after := (s.prepareAll env c types).2
  set registered := (s.prepareAll env c types).1
  rw [hpending] at hafter
  have hnodup : after.table.sources.Nodup := nodup_sources_of_moves (moves_prepareAll c types s) hn
  -- what was not there before is an empty declaration of a registered type
  have hcases : ∀ e ∈ after.table.declarations, s.table.contains e.source = false →
      e.source ∈ registered.map (·.name) ∧ e.progress = .registered := by
    intro e he hbefore
    rw [hdecls] at he
    rcases List.mem_append.mp he with hold | hnew
    · exact absurd rfl (Table.contains_eq_false_iff.mp hbefore e hold)
    · exact ⟨hsources ▸ List.mem_map_of_mem hnew, hregistered e hnew⟩
  refine ⟨hnodup, ?_, ?_, ?_, ?_, ?_, ?_, ?_, ?_⟩
  · intro e he
    rw [hdecls]
    exact List.mem_append_left _ he
  · rintro x ⟨d, hd, rfl, hacc⟩
    exact hcomplete d hd hacc
  · rw [hafter, List.append_nil, ← hsources]
    have hall : (s.table.declarations.map (·.source) ++ shells.map (·.source)).Nodup := by
      rw [← List.map_append, ← hdecls]
      exact hnodup
    exact (List.nodup_append.mp hall).2.1
  · rw [hafter, List.append_nil]
    intro d hd
    obtain ⟨hmem, hacc⟩ := haccepted d hd
    obtain ⟨e, he, hsource⟩ := List.mem_map.mp (hsources ▸ List.mem_map_of_mem hd)
    refine ⟨hknown d hmem, (accepts_iff.mp hacc).2, e, ?_, hsource, hregistered e he⟩
    rw [hdecls]
    exact List.mem_append_right _ he
  · rw [hafter]
    simp
  · intro e he hbefore
    obtain ⟨d, hd, hname⟩ := List.mem_map.mp (hcases e he hbefore).1
    obtain ⟨hmem, hacc⟩ := haccepted d hd
    exact ⟨e.source, ⟨d, hmem, hname, hacc⟩, .refl⟩
  · rw [hafter, List.append_nil]
    exact fun e he hbefore _ => (hcases e he hbefore).1
  · intro e he hbefore hpopulated
    rw [(hcases e he hbefore).2] at hpopulated
    exact Progress.noConfusion hpopulated

section

variable {assigned : Descriptor → Converter → Prop} (hn : s.table.sources.Nodup)
  (hpending : s.pending = []) (hknown : ∀ d ∈ types, env.index.find? d.name = some d)
  (hroots : ∀ d ∈ types, s.accepts env d = true → assigned d c)
include hn hpending hknown hroots

/-- When a pass comes to its queue, the types that it registered at first are filled in. -/
theorem underway_converted : (passOf env strategy assigned s types).Underway []
    ((s.prepareAll env c types).1.foldl (fun s d => s.convert env strategy c d)
      (s.prepareAll env c types).2) := by
  have hprepared : (passOf env strategy assigned s types).Underway (s.prepareAll env c types).1
      (s.prepareAll env c types).2 := underway_prepareAll assigned hn hpending hknown
  have haccepted := (prepareAll_spec env c types s).accepted
  exact hprepared.converts (c := c) fun d hd => hroots d (haccepted d hd).1 (haccepted d hd).2

variable (hfound : (passOf env strategy assigned s types).FoundAssigned converters)
include hfound

/-- A pass that succeeds leaves nothing to convert. -/
theorem convertRole_spec (h : s.convertRole env strategy converters c types = .ok t) :
    (passOf env strategy assigned s types).Underway [] t ∧ t.pending = [] :=
  (underway_converted hn hpending hknown hroots).drain hfound h

/-- A pass fails only at a type that waits and has no converter. -/
theorem convertRole_fails {e : Error}
    (h : s.convertRole env strategy converters c types = .error e) :
    ∃ u d u', (passOf env strategy assigned s types).Underway [] u ∧
      u.takePending? = some (d, u') ∧ converters.for? d = .error e :=
  drain_fails (fun _ _ _ _ hu htake hconv => hu.turn hfound htake hconv) h
    (underway_converted hn hpending hknown hroots)

end

end Conversion

end TypeGraph
