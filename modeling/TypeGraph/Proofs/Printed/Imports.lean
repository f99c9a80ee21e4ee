import TypeGraph.Proofs.Conversion.Ownership
import TypeGraph.Proofs.Printed.ImportText
import TypeGraph.Proofs.Run.Complete

/-!
# Imports are hygienic

The imports of a module are collected from its bodies, bound to local names, and used when its types are
printed. The three agree (`Hygienic`): all names that are bound in a file are distinct, every reference
to something outside the module is printed as the local name of its own import, references that are
printed alike refer to the same, and nothing is imported that no reference uses. The file states just
these imports, and they can be read from it. It is a property of any graph whose modules list their own
declarations, so it holds after every run.
-/

namespace TypeGraph.Printed

variable {g : Graph} {m : Module} {path : ModulePath} {bound : List Import} {specifier name : String}
  {declarations : List Declaration} {taken : List String} {demands : List (String × String)}

/-! ## Binding -/

/-- The local name of an import is not taken. -/
theorem localNameFor_not_mem (name specifier : String) (taken : List String) :
    localNameFor name specifier taken ∉ taken := by
  unfold localNameFor
  split
  · exact freshName_not_mem _ taken
  · assumption

/-- Names bound one after the other are distinct from each other and from those that were taken. -/
theorem nodup_bindAll (demands : List (String × String)) (h : taken.Nodup) :
    (taken ++ (bindAll demands taken).map (·.localName)).Nodup := by
  induction demands generalizing taken with
  | nil => simpa [bindAll] using h
  | cons demand rest ih =>
      obtain ⟨specifier, name⟩ := demand
      have hnew := localNameFor_not_mem name specifier taken
      have hrest := ih (List.nodup_cons.mpr ⟨hnew, h⟩)
      rw [bindAll, List.map_cons, List.nodup_middle]
      exact hrest

theorem exists_bound_iff :
    (∃ i ∈ bindAll demands taken, i.specifier = specifier ∧ i.name = name) ↔
      (specifier, name) ∈ demands := by
  conv_rhs => rw [← map_bindAll demands taken, List.mem_map]
  simp only [Prod.mk.injEq]

/-- What is imported is called by the local name of its import. -/
theorem exists_localNameOf (h : ∃ i ∈ bound, i.specifier = specifier ∧ i.name = name) :
    ∃ i ∈ bound, i.specifier = specifier ∧ i.name = name ∧
      localNameOf bound specifier name = i.localName := by
  obtain ⟨o, ho, hspecifier, hname⟩ := h
  unfold localNameOf
  split
  · rename_i i hfind
    have hsame : i.specifier = specifier ∧ i.name = name := by simpa using List.find?_some hfind
    exact ⟨i, List.mem_of_find?_eq_some hfind, hsame.1, hsame.2, rfl⟩
  · rename_i hnone
    have habsent := List.find?_eq_none.mp hnone o ho
    simp [hspecifier, hname] at habsent

/-! ## Demands -/

namespace Demand

theorem mem_toList_iff {demand : Demand} :
    (specifier, name) ∈ demand.toList ↔
      ∃ names, (specifier, names) ∈ demand.entries ∧ name ∈ names := by
  simp only [toList, List.mem_flatMap, List.mem_map, Prod.mk.injEq]
  constructor
  · rintro ⟨⟨key, names⟩, hentry, x, hx, rfl, rfl⟩
    exact ⟨names, hentry, hx⟩
  · rintro ⟨names, hentry, hname⟩
    exact ⟨(specifier, names), hentry, name, hname, rfl, rfl⟩

theorem mem_add_iff {demand : Demand} {key x : String} :
    (specifier, name) ∈ (demand.add key x).toList ↔
      (specifier = key ∧ name = x) ∨ (specifier, name) ∈ demand.toList := by
  rw [mem_toList_iff, mem_toList_iff]
  simp only [add, NameMap.mem_entries_insert_iff]
  by_cases hkey : specifier = key
  · -- the entry of the specifier is replaced by one with the name added
    subst hkey
    cases hold : demand.get? specifier with
    | none =>
        have habsent : ∀ names, (specifier, names) ∉ demand.entries := by
          intro names hentry
          rw [← NameMap.get?_eq_some_iff, hold] at hentry
          exact absurd hentry (by simp)
        simp [habsent]
    | some old =>
        have hentry : ∀ names, (specifier, names) ∈ demand.entries ↔ names = old := by
          intro names
          rw [← NameMap.get?_eq_some_iff, hold, Option.some.injEq, eq_comm]
        simp [hentry]
  · simp [hkey]

theorem mem_foldl_add_iff {wanted : List (String × String)} {demand : Demand} :
    (specifier, name) ∈ Demand.toList
        (wanted.foldl (fun demand (specifier, name) => demand.add specifier name) demand) ↔
      (specifier, name) ∈ wanted ∨ (specifier, name) ∈ demand.toList := by
  induction wanted generalizing demand with
  | nil => simp
  | cons first rest ih =>
      obtain ⟨key, x⟩ := first
      rw [List.foldl_cons, ih, mem_add_iff, List.mem_cons, Prod.mk.injEq]
      constructor
      · rintro (hrest | hfirst | hold)
        · exact Or.inl (Or.inr hrest)
        · exact Or.inl (Or.inl hfirst)
        · exact Or.inr hold
      · rintro ((hfirst | hrest) | hold)
        · exact Or.inr (Or.inl hfirst)
        · exact Or.inl hrest
        · exact Or.inr (Or.inr hold)

end Demand

/-- A module demands what its bodies make it import, and nothing else. -/
theorem mem_demandOf_iff :
    (specifier, name) ∈ (demandOf g path declarations).toList ↔
      ∃ d ∈ declarations, (specifier, name) ∈ importsOfBody g path d.body := by
  rw [demandOf, Demand.mem_foldl_add_iff, List.mem_flatMap]
  simp [Demand.toList, EmptyCollection.emptyCollection]

/-! ## References -/

/-- What a reference in a module is to. -/
inductive Referent where
  /-- A declaration of the module itself. -/
  | own (d : Declaration)
  /-- Something that another module exports, by the specifier of that module and the exported name. -/
  | exported (specifier name : String)

/-- A reference in the module at a path is to something. -/
inductive Refers (g : Graph) (path : ModulePath) : TypeExpr → Referent → Prop
  | own {source : String} {d : Declaration} (hfind : g.table.find? source = some d)
      (hmodule : d.module = path) : Refers g path (.declared source) (.own d)
  | other {source : String} {d : Declaration} (hfind : g.table.find? source = some d)
      (hmodule : d.module ≠ path) :
      Refers g path (.declared source) (.exported (path.specifier d.module) d.name)
  | external (name module : String) : Refers g path (.external name module) (.exported module name)

/-- A type stands in a body of a module, at any depth. -/
def Mentions (g : Graph) (m : Module) (r : TypeExpr) : Prop :=
  ∃ d ∈ g.declarationsOf m, ∃ t ∈ d.body.types, r.PartOf t

/-- What the bodies of a module make it import are the exports that it refers to. -/
theorem mem_importsOfBody_iff :
    (∃ d ∈ g.declarationsOf m, (specifier, name) ∈ importsOfBody g m.path d.body) ↔
      ∃ r, Mentions g m r ∧ Refers g m.path r (.exported specifier name) := by
  constructor
  · rintro ⟨d, hd, hmem⟩
    obtain ⟨t, ht, hcases⟩ := List.mem_flatMap.mp hmem
    rcases List.mem_append.mp hcases with hsource | hexternal
    · obtain ⟨source, hsource, himport⟩ := List.mem_filterMap.mp hsource
      refine ⟨.declared source, ⟨d, hd, t, ht, TypeExpr.mem_sources_iff.mp hsource⟩, ?_⟩
      unfold importOf? at himport
      split at himport
      · rename_i e hfind
        split at himport
        · simp at himport
        · rename_i hmodule
          obtain ⟨rfl, rfl⟩ := Prod.mk.inj (Option.some.inj himport)
          exact .other hfind hmodule
      · simp at himport
    · exact ⟨.external name specifier, ⟨d, hd, t, ht, TypeExpr.mem_externals_iff.mp hexternal⟩,
        .external name specifier⟩
  · rintro ⟨r, ⟨d, hd, t, ht, hpart⟩, hrefers⟩
    refine ⟨d, hd, List.mem_flatMap.mpr ⟨t, ht, ?_⟩⟩
    cases hrefers with
    | @other source e hfind hmodule =>
        refine List.mem_append_left _ (List.mem_filterMap.mpr ⟨source, ?_, ?_⟩)
        · exact TypeExpr.mem_sources_iff.mpr hpart
        · simp [importOf?, hfind, hmodule]
    | external => exact List.mem_append_right _ (TypeExpr.mem_externals_iff.mpr hpart)

/-- A module imports exactly the exports that it refers to. -/
theorem exists_import_iff :
    (∃ i ∈ boundIn g m, i.specifier = specifier ∧ i.name = name) ↔
      ∃ r, Mentions g m r ∧ Refers g m.path r (.exported specifier name) := by
  rw [boundIn, imports, exists_bound_iff, mem_demandOf_iff, mem_importsOfBody_iff]

/-- A reference to a declaration of the module is printed as its name. -/
theorem type_of_own {r : TypeExpr} {d : Declaration} (h : Refers g m.path r (.own d)) :
    type (namingOf g m) r = d.name := by
  cases h with
  | own hfind hmodule =>
      rw [type_declared]
      simp [namingOf, namingIn, hfind, hmodule]

/-- A reference to an export is printed as the local name that the module has for it. -/
theorem type_of_exported {r : TypeExpr} (h : Refers g m.path r (.exported specifier name)) :
    type (namingOf g m) r = localNameOf (boundIn g m) specifier name := by
  cases h with
  | other hfind hmodule =>
      rw [type_declared]
      simp [namingOf, namingIn, hfind, hmodule]
  | external => rfl

/-! ## Hygiene -/

/-- The imports of a printed module are hygienic. -/
structure Hygienic (g : Graph) (m : Module) : Prop where
  /-- The names of its declarations and the local names of its imports are distinct. -/
  distinct : ((g.declarationsOf m).map (·.name) ++ (boundIn g m).map (·.localName)).Nodup
  /-- A reference to a declaration of the module is printed as the name of that declaration. -/
  own : ∀ d ∈ g.declarationsOf m, ∀ t ∈ d.body.types, ∀ r, r.PartOf t → ∀ e,
    Refers g m.path r (.own e) → e ∈ g.declarationsOf m ∧ type (namingOf g m) r = e.name ∧
      Inside e.name (type (namingOf g m) t)
  /-- A reference to anything else is printed as the local name of an import of just that. -/
  imported : ∀ d ∈ g.declarationsOf m, ∀ t ∈ d.body.types, ∀ r, r.PartOf t → ∀ specifier name,
    Refers g m.path r (.exported specifier name) →
      ∃ i ∈ boundIn g m, i.specifier = specifier ∧ i.name = name ∧
        type (namingOf g m) r = i.localName ∧ Inside i.localName (type (namingOf g m) t)
  /-- References that are printed alike are to the same. -/
  told : ∀ r r' a a', Mentions g m r → Mentions g m r' → Refers g m.path r a → Refers g m.path r' a' →
    type (namingOf g m) r = type (namingOf g m) r' → a = a'
  /-- Every import is that of some reference. -/
  used : ∀ i ∈ boundIn g m, ∃ r, Mentions g m r ∧ Refers g m.path r (.exported i.specifier i.name)
  /-- Between its first line and its declarations the text of the module states these imports, each with
  its specifier, its name and its local name, and nothing else. -/
  stated : ∃ block, ImportBlock (boundIn g m) block ∧
    moduleText g m = "// Generated by tsbridge. Do not edit.\n" ++ block ++
      String.join ((g.declarationsOf m).map fun d => "\n" ++ declaration (namingOf g m) d)
  /-- They are read back from it when names end at a blank or a comma, and specifiers at a quote. -/
  read : (∀ i ∈ boundIn g m, Legible i.name ∧ '\'' ∉ i.specifier.toList) →
    readImports (moduleText g m) = boundIn g m
  /-- The text holds the printed types. -/
  written : ∀ d ∈ g.declarationsOf m, ∀ t ∈ d.body.types,
    Inside (type (namingOf g m) t) (moduleText g m)

/-- The declaration that a module refers to as its own is one of its declarations. -/
theorem Refers.mem_declarationsOf (h : g.Owned) (hm : m ∈ g.modules.modules) {r : TypeExpr}
    {d : Declaration} (hrefers : Refers g m.path r (.own d)) : d ∈ g.declarationsOf m := by
  cases hrefers with
  | own hfind hmodule =>
      exact (h.mem_declarationsOf_iff hm).mpr ⟨(Table.mem_of_find? hfind).1, hmodule⟩

/-- The imports of every module of a graph are hygienic when modules list their own declarations. -/
theorem hygienic_of_owned (h : g.Owned) (hm : m ∈ g.modules.modules) : Hygienic g m := by
  have hdistinct : ((g.declarationsOf m).map (·.name) ++ (boundIn g m).map (·.localName)).Nodup :=
    nodup_bindAll _ (h.nodup_names hm)
  obtain ⟨hnames, hlocals, hapart⟩ := List.nodup_append.mp hdistinct
  have himport : ∀ r specifier name, Mentions g m r → Refers g m.path r (.exported specifier name) →
      ∃ i ∈ boundIn g m, i.specifier = specifier ∧ i.name = name ∧
        type (namingOf g m) r = i.localName := by
    intro r specifier name hmention hrefers
    rw [type_of_exported hrefers]
    exact exists_localNameOf (exists_import_iff.mpr ⟨r, hmention, hrefers⟩)
  refine ⟨hdistinct, ?_, ?_, ?_, ?_, ⟨_, importBlock_boundIn g m, moduleText_eq g m⟩,
    readImports_moduleText, ?_⟩
  · intro d hd t ht r hpart e hrefers
    have hprinted := type_of_own hrefers
    refine ⟨hrefers.mem_declarationsOf h hm, hprinted, ?_⟩
    rw [← hprinted]
    exact inside_type hpart
  · intro d hd t ht r hpart specifier name hrefers
    obtain ⟨i, hi, hspecifier, hname, hprinted⟩ :=
      himport r specifier name ⟨d, hd, t, ht, hpart⟩ hrefers
    refine ⟨i, hi, hspecifier, hname, hprinted, ?_⟩
    rw [← hprinted]
    exact inside_type hpart
  · intro r r' a a' hmention hmention' hrefers hrefers' hsame
    -- an own name is never a local name of an import, and among either kind names are distinct
    have hcross : ∀ e i, e ∈ g.declarationsOf m → i ∈ boundIn g m → e.name ≠ i.localName :=
      fun e i he hi => hapart e.name (List.mem_map_of_mem he) i.localName (List.mem_map_of_mem hi)
    cases a with
    | own e =>
        have he := hrefers.mem_declarationsOf h hm
        cases a' with
        | own e' =>
            have he' := hrefers'.mem_declarationsOf h hm
            rw [type_of_own hrefers, type_of_own hrefers'] at hsame
            rw [List.inj_on_of_nodup_map hnames he he' hsame]
        | exported specifier' name' =>
            obtain ⟨i, hi, _, _, hprinted⟩ := himport r' specifier' name' hmention' hrefers'
            rw [type_of_own hrefers, hprinted] at hsame
            exact absurd hsame (hcross e i he hi)
    | exported specifier name =>
        obtain ⟨i, hi, rfl, rfl, hprinted⟩ := himport r specifier name hmention hrefers
        cases a' with
        | own e' =>
            have he' := hrefers'.mem_declarationsOf h hm
            rw [type_of_own hrefers', hprinted] at hsame
            exact absurd hsame.symm (hcross e' i he' hi)
        | exported specifier' name' =>
            obtain ⟨i', hi', rfl, rfl, hprinted'⟩ := himport r' specifier' name' hmention' hrefers'
            rw [hprinted, hprinted'] at hsame
            rw [List.inj_on_of_nodup_map hlocals hi hi' hsame]
  · intro i hi
    exact exists_import_iff.mp ⟨i, hi, rfl, rfl⟩
  · intro d hd t ht
    exact inside_moduleText hd ht

/-! ## Files -/

/-- There is one file for each module that exports something. -/
theorem mem_files_iff {f : File} :
    f ∈ files g ↔ ∃ m ∈ g.modules.modules, m.names.isEmpty = false ∧
      f = ⟨m.path.file, moduleText g m⟩ := by
  simp only [files, List.mem_map, List.mem_filter, ModuleTree.sorted, List.mem_mergeSort,
    Bool.not_eq_true', and_assoc, eq_comm (a := f)]

/-- Every file that is printed after a run is the text of a module with hygienic imports. With the
targets and converters of a configuration, every reference in it to a declaration is to one that there
is. -/
theorem hygienic_of_run {s : Setup} {discovery : Discovery} {outcome : Outcome} {f : File}
    (h : s.run discovery = .ok outcome) (hf : f ∈ files outcome.graph) :
    ∃ m ∈ outcome.graph.modules.modules, f = ⟨m.path.file, moduleText outcome.graph m⟩ ∧
      Hygienic outcome.graph m ∧
        ∀ c : Configuration, c.setup = .ok s → ∀ source, Mentions outcome.graph m (.declared source) →
          ∃ a, Refers outcome.graph m.path (.declared source) a := by
  obtain ⟨m, hm, _, heq⟩ := mem_files_iff.mp hf
  have howned := Setup.owned_of_run h
  refine ⟨m, hm, heq, hygienic_of_owned howned hm, ?_⟩
  rintro c hsetup source ⟨d, hd, t, ht, hpart⟩
  have hdeclared := ((howned.mem_declarationsOf_iff hm).mp hd).1
  obtain ⟨e, he⟩ := Table.exists_find? (Setup.contains_of_part hsetup h hdeclared ht hpart)
  by_cases hmodule : e.module = m.path
  · exact ⟨_, .own he hmodule⟩
  · exact ⟨_, .other he hmodule⟩

/-- The file of the desk and of its orders, which import the lines and the orders of the stock. -/
def shopFile : File :=
  { path := "shop.ts"
    content := "// Generated by tsbridge. Do not edit.\n\n" ++
      "import \x7b Line, Order as Order_stock \x7d from './shop.stock';\n\n" ++
      "export interface Desk \x7b\n    /**\n     * ANY /orders\n     */\n" ++
      "    count(): Promise<number>;\n\x7d\n\n" ++
      "export interface Order \x7b\n    lines: Line[];\n    state: Order_stock;\n\x7d\n" }

/-- The imports that are printed in the file of the desk. -/
def shopImports : List Import :=
  [{ specifier := "./shop.stock", name := "Line", localName := "Line" },
    { specifier := "./shop.stock", name := "Order", localName := "Order_stock" }]

theorem modules_of_shop : ∃ outcome, shopSetup.run shopInput = .ok outcome ∧
    (outcome.graph.modules.modules.map fun m => (m.path, m.names.isEmpty, boundIn outcome.graph m,
      decide (shopFile = ⟨m.path.file, moduleText outcome.graph m⟩))) =
    [(["shop.stock"], false, [⟨"./shop", "Order", "Order_shop"⟩], false),
      (["shop"], false, shopImports, true)] := by
  refine exists_outcome_of_view ?_
  rw [Setup.run_eq, Setup.classified_eq_classify (by decide +kernel) (by decide +kernel)]
  decide +kernel

/-- The file of the desk states and uses two imports, one of them under another name. -/
theorem hygienic_shop : ∃ outcome m, shopSetup.run shopInput = .ok outcome ∧
    shopFile ∈ files outcome.graph ∧ m ∈ outcome.graph.modules.modules ∧
      shopFile = ⟨m.path.file, moduleText outcome.graph m⟩ ∧ Hygienic outcome.graph m ∧
        boundIn outcome.graph m = shopImports ∧ readImports shopFile.content = shopImports := by
  obtain ⟨outcome, hrun, hmodules⟩ := modules_of_shop
  have hdesk : (["shop"], false, shopImports, true) ∈ outcome.graph.modules.modules.map fun m =>
      (m.path, m.names.isEmpty, boundIn outcome.graph m,
        decide (shopFile = ⟨m.path.file, moduleText outcome.graph m⟩)) := by
    rw [hmodules]
    simp
  obtain ⟨desk, hdesk, hview⟩ := List.mem_map.mp hdesk
  simp only [Prod.mk.injEq, decide_eq_true_eq] at hview
  obtain ⟨_, hnames, _, htext⟩ := hview
  have hf : shopFile ∈ files outcome.graph := mem_files_iff.mpr ⟨desk, hdesk, hnames, htext⟩
  obtain ⟨m, hm, hfile, hhygienic, _⟩ := hygienic_of_run hrun hf
  have hbound : boundIn outcome.graph m = shopImports := by
    have hmem := hmodules ▸ List.mem_map_of_mem hm
    simp only [← hfile, decide_true, List.mem_cons, List.not_mem_nil, or_false, Prod.mk.injEq] at hmem
    obtain ⟨_, _, _, hother⟩ | ⟨_, _, hbound, _⟩ := hmem
    · exact absurd hother (by decide)
    · exact hbound
  refine ⟨outcome, m, hrun, hf, hm, hfile, hhygienic, hbound, ?_⟩
  have hcontent : shopFile.content = moduleText outcome.graph m := congrArg File.content hfile
  have hread := hhygienic.read
  rw [hbound, ← hcontent] at hread
  exact hread (by simp [shopImports, Legible, isNameChar])

end TypeGraph.Printed
