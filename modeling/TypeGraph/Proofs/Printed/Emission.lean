import TypeGraph.Proofs.Conversion.Ownership
import TypeGraph.Proofs.Printed.Parts

/-!
# Every declaration is printed once

The files of a graph are those of the modules that export something. When the names in the modules are
those of the declarations in them, the printed modules list every declaration just once, each in its own
module (`printed_perm`), so its text is in one file.
-/

namespace TypeGraph.Printed

variable {g : Graph} {m : Module} {d : Declaration}

/-- The modules that are printed, in the order of their files. -/
def printedModules (g : Graph) : List Module := g.modules.sorted.filter fun m => !m.names.isEmpty

theorem mem_printedModules_iff :
    m ∈ printedModules g ↔ m ∈ g.modules.modules ∧ m.names.isEmpty = false := by
  simp [printedModules, ModuleTree.sorted]

theorem nodup_paths_printedModules (h : g.Owned) : ((printedModules g).map (·.path)).Nodup := by
  have hsorted : (g.modules.sorted.map (·.path)).Nodup :=
    ((List.mergeSort_perm _ _).map Module.path).nodup_iff.mpr h.paths
  exact hsorted.sublist (List.filter_sublist.map _)

theorem nodup_declarationsOf (h : g.Owned) (hm : m ∈ g.modules.modules) :
    (g.declarationsOf m).Nodup :=
  (h.nodup_names hm).of_map

/-- Every declaration is listed by a printed module. -/
theorem mem_flatMap_declarationsOf_iff (h : g.Owned) :
    d ∈ (printedModules g).flatMap g.declarationsOf ↔ d ∈ g.table.declarations := by
  rw [List.mem_flatMap]
  constructor
  · rintro ⟨m, hm, hd⟩
    exact ((h.mem_declarationsOf_iff (mem_printedModules_iff.mp hm).1).mp hd).1
  · intro hd
    obtain ⟨m, hm, hpath, hentry⟩ := h.owner d hd
    exact ⟨m, mem_printedModules_iff.mpr ⟨hm, NameMap.isEmpty_eq_false_of_mem hentry⟩,
      (h.mem_declarationsOf_iff hm).mpr ⟨hd, hpath.symm⟩⟩

/-- The printed modules list every declaration once. -/
theorem printed_perm (h : g.Owned) :
    ((printedModules g).flatMap g.declarationsOf).Perm g.table.declarations := by
  refine (List.perm_ext_iff_of_nodup ?_ h.sources.of_map).mpr fun d =>
    mem_flatMap_declarationsOf_iff h
  rw [List.nodup_flatMap]
  refine ⟨fun m hm => nodup_declarationsOf h (mem_printedModules_iff.mp hm).1, ?_⟩
  -- a declaration tells the path of its module, and paths are distinct
  have hpaths : (printedModules g).Pairwise fun m m' => m.path ≠ m'.path :=
    List.pairwise_map.mp (nodup_paths_printedModules h)
  refine hpaths.imp_of_mem ?_
  intro m m' hm hm' hne d hd hd'
  have hpath := ((h.mem_declarationsOf_iff (mem_printedModules_iff.mp hm).1).mp hd).2
  have hpath' := ((h.mem_declarationsOf_iff (mem_printedModules_iff.mp hm').1).mp hd').2
  exact hne (hpath.symm.trans hpath')

end TypeGraph.Printed
