import TypeGraph.Proofs.Discovery.Partition
import TypeGraph.Proofs.Printed.Imports
import TypeGraph.Proofs.Target.Specifiers

/-!
# The printed files link

An import that a file has because of a reference to a declaration leads, by its specifier, to another
file of the same output, and that file exports the declaration under the imported name (`Links`). It
takes all of what came before: the declaration is in the module that its type belongs to, under the name
that is entered there; a module with names has a file; and specifiers lead to files when the names of
types hold no slash.
-/

namespace TypeGraph

/-! ## Which module a declaration is in -/

namespace Conversion

variable {env : Env} {s t : Conversion}

/-- Every declaration is in the module that its type belongs to. -/
def Placed (env : Env) (s : Conversion) : Prop :=
  ∀ e ∈ s.table.declarations, ∃ d : Descriptor, d.name = e.source ∧ e.module = env.placement.path d

theorem placed_of_move (h : Move env s t) (hs : s.Placed env) : t.Placed env := by
  cases h with
  | register d shell hacc =>
      intro e he
      rw [register_of_accepts shell hacc] at he
      rcases List.mem_append.mp he with hold | hnew
      · exact hs e hold
      · obtain rfl := List.mem_singleton.mp hnew
        exact ⟨d, rfl, rfl⟩
  | fill source body =>
      intro e he
      obtain ⟨o, ho, hsource, _, hmodule⟩ := Table.exists_of_mem_populate he
      obtain ⟨d, hname, hpath⟩ := hs o ho
      exact ⟨d, hname.trans hsource, hmodule.symm.trans hpath⟩
  | place d => exact hs
  | wait d => exact hs
  | take => exact hs
  | warn w => exact hs

end Conversion

/-- The module of a type is told by its name. -/
theorem Placement.path_congr (p : Placement) {d d' : Descriptor} (h : d.name = d'.name) :
    p.path d = p.path d' := by
  cases p with
  | byDepth depth => simp only [path, Descriptor.package, h]
  | single name => rfl

namespace Setup

variable {s : Setup} {discovery : Discovery} {outcome : Outcome} {e e' : Declaration}

/-- A declaration of a run is that of a type of its input, in the module of that type. -/
theorem exists_type_of_run (h : s.run discovery = .ok outcome)
    (he : e ∈ outcome.graph.table.declarations) :
    ∃ d ∈ discovery.candidates ++ discovery.references, d.name = e.source ∧
      e.module = s.placement.path d := by
  obtain ⟨_, _, _, final, hpasses, hgraph⟩ := exists_passes h
  obtain ⟨final', hgraph', hsettled, _⟩ := settled_of_run h
  have hplaced : final.Placed (s.env (index discovery)) :=
    Conversion.keep_of_moves (I := Conversion.Placed (s.env (index discovery)))
      (fun _ _ => Conversion.placed_of_move) hpasses.moves fun _ he => absurd he List.not_mem_nil
  obtain ⟨o, hname, hpath⟩ := hplaced e (by rw [hgraph] at he; exact he)
  obtain ⟨d, _, _, hfilled⟩ := hsettled.filled e (by rw [hgraph'] at he; exact he)
  have hfind : (index discovery).find? e.source = some d := hfilled.known
  have hd : d.name = e.source := Index.name_of_find? hfind
  rw [index, Index.find?_ofList] at hfind
  refine ⟨d, List.mem_of_find?_eq_some hfind, hd, ?_⟩
  rw [hpath]
  exact s.placement.path_congr (hname.trans hd.symm)

/-- As soon as declarations are in different modules, all modules of declarations have files of their
own. -/
theorem clean_of_run (hnames : ∀ d ∈ discovery.candidates ++ discovery.references, '/' ∉ d.name.toList)
    (h : s.run discovery = .ok outcome) (he : e ∈ outcome.graph.table.declarations)
    (he' : e' ∈ outcome.graph.table.declarations) (hne : e'.module ≠ e.module) :
    ∀ o ∈ outcome.graph.table.declarations, ModulePath.Clean o.module := by
  intro o ho
  cases hplacement : s.placement with
  | byDepth depth =>
      obtain ⟨d, hd, _, hpath⟩ := exists_type_of_run h ho
      rw [hpath, hplacement]
      exact Placement.clean_path (hnames d hd)
  | single name =>
      -- all declarations are in the one module
      have hsingle : ∀ o ∈ outcome.graph.table.declarations, o.module = [name] := by
        intro o ho
        obtain ⟨d, _, _, hpath⟩ := exists_type_of_run h ho
        rw [hpath, hplacement]
        rfl
      exact absurd ((hsingle e' he').trans (hsingle e he).symm) hne

end Setup

namespace Printed

variable {g : Graph} {m : Module} {f : File} {d : Declaration}

/-! ## Links -/

/-- An import of a file links to a declaration in another file. -/
structure Links (g : Graph) (f : File) (i : Import) (f' : File) (target : Declaration) : Prop where
  /-- The file states the import in a statement for its specifier, -/
  stated : ∃ names text, i ∈ names ∧ Statement i.specifier names text ∧ Inside text f.content
  /-- which leads to another file of the output, -/
  listed : f' ∈ files g
  resolved : Path.linked? f.path i.specifier = some f'.path
  other : f'.path ≠ f.path
  /-- and to no other one than that. -/
  unique : ∀ o ∈ files g, o.path = f'.path → o = f'
  /-- That file is the text of a module which exports the declaration under the imported name. -/
  exported : ∃ m ∈ g.modules.modules, f' = ⟨m.path.file, moduleText g m⟩ ∧
    g.find? m.path i.name = some target ∧ ∃ text, Exports i.name text ∧
      text = declaration (namingOf g m) target ∧ Inside ("\n" ++ text) f'.content

theorem inside_moduleText_declaration (hd : d ∈ g.declarationsOf m) :
    Inside ("\n" ++ declaration (namingOf g m) d) (moduleText g m) := by
  rw [moduleText_eq]
  exact (Inside.join (List.mem_map.mpr ⟨d, hd, rfl⟩)).append_left _

/-- A reference to a declaration that is imported is to one of another module. -/
theorem Refers.of_exported {path : ModulePath} {source specifier name : String}
    (h : Refers g path (.declared source) (.exported specifier name)) :
    ∃ d, g.table.find? source = some d ∧ d.module ≠ path ∧ specifier = path.specifier d.module ∧
      name = d.name := by
  cases h with
  | other hfind hmodule => exact ⟨_, hfind, hmodule, rfl, rfl⟩

/-- A declaration has a file, which prints it under the name that its module exports. -/
theorem exists_file (h : g.Owned) (hd : d ∈ g.table.declarations) :
    ∃ m ∈ g.modules.modules, m.path = d.module ∧ ⟨m.path.file, moduleText g m⟩ ∈ files g ∧
      d ∈ g.declarationsOf m ∧ g.find? m.path d.name = some d := by
  obtain ⟨m, hm, hpath, hentry⟩ := h.owner d hd
  refine ⟨m, hm, hpath, mem_files_iff.mpr ⟨m, hm, NameMap.isEmpty_eq_false_of_mem hentry, rfl⟩,
    (h.mem_declarationsOf_iff hm).mpr ⟨hd, hpath.symm⟩, ?_⟩
  rw [Graph.find?, ModuleTree.find?_of_mem h.paths hm]
  simp only [Option.bind_eq_bind, Option.bind_some, NameMap.get?_eq_some_iff.mpr hentry]
  exact Table.find?_of_mem h.sources hd

/-- A module with names is that of a declaration. -/
theorem exists_declaration_of_names (h : g.Owned) (hm : m ∈ g.modules.modules)
    (hnames : m.names.isEmpty = false) : ∃ d ∈ g.table.declarations, d.module = m.path := by
  cases hentries : m.names.entries with
  | nil => simp [NameMap.isEmpty, hentries] at hnames
  | cons entry rest =>
      obtain ⟨d, hd, _, _, hmodule⟩ := h.entry m hm entry.1 entry.2 (by simp [hentries])
      exact ⟨d, hd, hmodule⟩

/-- A file is that of a module with a declaration. -/
theorem exists_declaration_of_file (h : g.Owned) (hf : f ∈ files g) :
    ∃ m ∈ g.modules.modules, f = ⟨m.path.file, moduleText g m⟩ ∧
      ∃ d ∈ g.table.declarations, d.module = m.path := by
  obtain ⟨m, hm, hnames, heq⟩ := mem_files_iff.mp hf
  exact ⟨m, hm, heq, exists_declaration_of_names h hm hnames⟩

/-- When modules of declarations have files of their own, an import because of a reference to a
declaration links to it. -/
theorem links_of_clean (h : g.Owned) (hm : m ∈ g.modules.modules)
    (hclean : ∀ o ∈ g.table.declarations, ModulePath.Clean o.module) {i : Import}
    (hi : i ∈ boundIn g m) (hd : d ∈ g.declarationsOf m) {e : Declaration}
    (he : e ∈ g.table.declarations) (hne : e.module ≠ m.path)
    (hspecifier : i.specifier = m.path.specifier e.module) (hname : i.name = e.name) :
    ∃ f', Links g ⟨m.path.file, moduleText g m⟩ i f' e := by
  obtain ⟨hdeclared, hmodule⟩ := (h.mem_declarationsOf_iff hm).mp hd
  have hpath : m.path.Clean := hmodule ▸ hclean d hdeclared
  obtain ⟨m', hm', hpath', hlisted, he', hfind⟩ := exists_file h he
  have hclean' : m'.path.Clean := hpath' ▸ hclean e he
  refine ⟨⟨m'.path.file, moduleText g m'⟩, inside_statement hi, hlisted, ?_, ?_, ?_, m', hm', rfl,
    ?_, _, ?_, rfl, inside_moduleText_declaration he'⟩
  · show Path.linked? m.path.file i.specifier = some m'.path.file
    rw [hspecifier, ← hpath']
    exact ModulePath.linked?_specifier hpath hclean'
  · intro hfile
    exact hne (hpath'.symm.trans (ModulePath.file_injective hclean' hpath hfile))
  · intro o ho hsame
    -- a file with the same path is that of the same module
    obtain ⟨m'', hm'', rfl, d'', hd'', hmodule''⟩ := exists_declaration_of_file h ho
    have hpaths : m''.path = m'.path :=
      ModulePath.file_injective (hmodule'' ▸ hclean d'' hd'') hclean' hsame
    rw [List.inj_on_of_nodup_map h.paths hm'' hm' hpaths]
  · rw [hname]
    exact hfind
  · rw [hname]
    exact exports_declaration _ e

/-- The files that are printed after a run link: an import that a file has because of a reference to a
declaration links to that declaration, when the names of types hold no slash. -/
theorem links_of_run {s : Setup} {discovery : Discovery} {outcome : Outcome} {f : File}
    (hnames : ∀ d ∈ discovery.candidates ++ discovery.references, '/' ∉ d.name.toList)
    (h : s.run discovery = .ok outcome) (hf : f ∈ files outcome.graph) :
    ∃ m ∈ outcome.graph.modules.modules, f = ⟨m.path.file, moduleText outcome.graph m⟩ ∧
      ∀ i ∈ boundIn outcome.graph m, ∀ source, Mentions outcome.graph m (.declared source) →
        Refers outcome.graph m.path (.declared source) (.exported i.specifier i.name) →
          ∃ f' target, outcome.graph.table.find? source = some target ∧
            Links outcome.graph f i f' target := by
  have howned := Setup.owned_of_run h
  obtain ⟨m, hm, _, rfl⟩ := mem_files_iff.mp hf
  refine ⟨m, hm, rfl, ?_⟩
  rintro i hi source ⟨d, hd, _⟩ hrefers
  obtain ⟨e, hfind, hne, hspecifier, hname⟩ := hrefers.of_exported
  obtain ⟨he, _⟩ := Table.mem_of_find? hfind
  obtain ⟨hdeclared, hmodule⟩ := (howned.mem_declarationsOf_iff hm).mp hd
  have hclean := Setup.clean_of_run hnames h hdeclared he (hmodule ▸ hne)
  obtain ⟨f', hlinks⟩ := links_of_clean howned hm hclean hi hd he hne hspecifier hname
  exact ⟨f', e, hfind, hlinks⟩

/-- The shop has two modules. That of the desk mentions the orders of the stock, and that of the stock
does not. -/
theorem modules_shop : ∃ outcome e, shopSetup.run shopInput = .ok outcome ∧
    (outcome.graph.modules.modules.map fun m => (m.path, m.names.isEmpty,
      (outcome.graph.declarationsOf m).any fun d => d.body.types.any fun t =>
        t.sources.contains "shop.stock.Order")) =
      [(["shop.stock"], false, false), (["shop"], false, true)] ∧
    outcome.graph.table.find? "shop.stock.Order" = some e ∧ e.module = ["shop.stock"] ∧
      e.name = "Order" := by
  obtain ⟨outcome, hrun, hview⟩ : ∃ outcome, shopSetup.run shopInput = .ok outcome ∧
      ((outcome.graph.modules.modules.map fun m => (m.path, m.names.isEmpty,
          (outcome.graph.declarationsOf m).any fun d => d.body.types.any fun t =>
            t.sources.contains "shop.stock.Order")),
        (outcome.graph.table.find? "shop.stock.Order").map fun d => (d.module, d.name)) =
        ([(["shop.stock"], false, false), (["shop"], false, true)], some (["shop.stock"], "Order")) := by
    refine exists_outcome_of_view ?_
    rw [Setup.run_eq, Setup.classified_eq_classify (by decide +kernel) (by decide +kernel)]
    decide +kernel
  obtain ⟨hmodules, htarget⟩ := Prod.mk.inj hview
  obtain ⟨e, hfind, he⟩ := Option.map_eq_some_iff.mp htarget
  obtain ⟨hmodule, hname⟩ := Prod.mk.inj he
  exact ⟨outcome, e, hrun, hmodules, hfind, hmodule, hname⟩

/-- In the shop, the module of the desk imports the orders of the stock from the file of their module. -/
theorem links_shop : ∃ outcome f i f' target, shopSetup.run shopInput = .ok outcome ∧
    f ∈ files outcome.graph ∧ f.path = "shop.ts" ∧ i.specifier = "./shop.stock" ∧ i.name = "Order" ∧
      f'.path = "shop.stock.ts" ∧ target.source = "shop.stock.Order" ∧
        Links outcome.graph f i f' target := by
  obtain ⟨outcome, e, hrun, hmodules, hfind, hmodule, hname⟩ := modules_shop
  -- the file of the desk is printed
  have hdesk := List.mem_map.mp (hmodules ▸ List.mem_cons_of_mem _ (List.mem_singleton.mpr rfl))
  obtain ⟨m₀, hm₀, heq₀⟩ := hdesk
  obtain ⟨hpath₀, hnames₀, _⟩ : m₀.path = ["shop"] ∧ m₀.names.isEmpty = false ∧ _ := by
    simpa only [Prod.mk.injEq] using heq₀
  have hf : (⟨m₀.path.file, moduleText outcome.graph m₀⟩ : File) ∈ files outcome.graph :=
    mem_files_iff.mpr ⟨m₀, hm₀, hnames₀, rfl⟩
  have hfile₀ : m₀.path.file = "shop.ts" := by
    rw [hpath₀]
    decide +kernel
  obtain ⟨m, hm, hfile, hlinks⟩ := links_of_run (by decide +kernel) hrun hf
  have hpaths : m.path.file = "shop.ts" := (File.mk.inj hfile).1.symm.trans hfile₀
  -- the other module has another file
  have hfacts := hmodules ▸ List.mem_map_of_mem hm
  simp only [List.mem_cons, List.not_mem_nil, or_false, Prod.mk.injEq] at hfacts
  obtain ⟨hstock, _⟩ | ⟨hpath, _, hrefers⟩ := hfacts
  · rw [hstock] at hpaths
    exact absurd hpaths (by decide +kernel)
  obtain ⟨d, hd, hbody⟩ := List.any_eq_true.mp hrefers
  obtain ⟨t, ht, hsource⟩ := List.any_eq_true.mp hbody
  have hmention : Mentions outcome.graph m (.declared "shop.stock.Order") :=
    ⟨d, hd, t, ht, TypeExpr.mem_sources_iff.mp (by simpa using hsource)⟩
  have hreference : Refers outcome.graph m.path (.declared "shop.stock.Order")
      (.exported "./shop.stock" "Order") := by
    have hspecifier : m.path.specifier e.module = "./shop.stock" := by
      rw [hpath, hmodule]
      decide +kernel
    have hother : Refers outcome.graph m.path (.declared "shop.stock.Order")
        (.exported (m.path.specifier e.module) e.name) :=
      .other hfind (by rw [hpath, hmodule]; decide)
    rwa [hspecifier, hname] at hother
  obtain ⟨i, hi, hspecifier, himported⟩ := exists_import_iff.mpr ⟨_, hmention, hreference⟩
  obtain ⟨f', target, hfind', hlink⟩ := hlinks i hi _ hmention (by rwa [hspecifier, himported])
  have hpath' : f'.path = "shop.stock.ts" := by
    have hresolved : Path.linked? m₀.path.file i.specifier = some f'.path := hlink.resolved
    have hstep : Path.linked? "shop.ts" "./shop.stock" = some "shop.stock.ts" := by decide +kernel
    rw [hfile₀, hspecifier, hstep] at hresolved
    exact (Option.some.inj hresolved).symm
  exact ⟨outcome, _, i, f', target, hrun, hf, hfile₀, hspecifier, himported, hpath',
    (Table.mem_of_find? hfind').2, hlink⟩

end Printed

end TypeGraph
