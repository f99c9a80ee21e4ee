import Mathlib.Data.List.Lex
import Mathlib.Data.List.Sort
import Mathlib.Data.String.Basic
import TypeGraph.Proofs.Target.Modules

/-!
# Beginnings and the order of paths

Paths are ordered segment by segment, and the beginnings of a path come before it. When a path comes
before another one and is no beginning of it, all that goes on from the first comes before all that goes
on from the second (`Apart.lt_of_prefix`). A tree adds the beginnings of a path that are missing
(`modules_ensure`), and there is only one way to list its modules in the order of their paths
(`eq_mergeSort_of_ascending`).
-/

namespace TypeGraph

namespace ModulePath

variable {p q x y : ModulePath} {s s' : String}

theorem before_iff_lt : p.before q = true ↔ p < q := by
  fun_induction before p q with
  | case1 => simp
  | case2 => simp
  | case3 => simp
  | case4 a p b q ih => simp [List.cons_lt_cons_iff, ih]

/-- A beginning comes first. -/
theorem lt_append (p : ModulePath) (s : String) (rest : List String) : p < p ++ s :: rest := by
  induction p with
  | nil => exact List.nil_lt_cons s rest
  | cons a p ih => exact List.cons_lt_cons_iff.mpr (Or.inr ⟨rfl, ih⟩)

theorem le_of_prefix (h : p <+: q) : p ≤ q := by
  obtain ⟨rest, rfl⟩ := h
  cases rest with
  | nil => rw [List.append_nil]
  | cons s rest => exact le_of_lt (lt_append p s rest)

/-! ## Apart paths -/

/-- A path comes before another one and is no beginning of it. -/
def Apart (p q : ModulePath) : Prop := p < q ∧ ¬ p <+: q

/-- Apart paths differ in a segment that they both have, so their continuations differ there too. -/
theorem Apart.lt_of_prefix (h : Apart p q) (hx : p <+: x) (hy : q <+: y) : x < y := by
  induction p generalizing q x y with
  | nil => exact absurd List.nil_prefix h.2
  | cons a p ih =>
      cases q with
      | nil => exact absurd h.1 (List.not_lt_nil _)
      | cons b q =>
          obtain ⟨x', rfl, hpx⟩ := List.cons_prefix_iff.mp hx
          obtain ⟨y', rfl, hqy⟩ := List.cons_prefix_iff.mp hy
          rw [List.cons_lt_cons_iff]
          rcases List.cons_lt_cons_iff.mp h.1 with hlt | ⟨rfl, hlt⟩
          · exact Or.inl hlt
          · have hno : ¬ p <+: q := fun hpq => h.2 (List.cons_prefix_cons.mpr ⟨rfl, hpq⟩)
            exact Or.inr ⟨rfl, ih ⟨hlt, hno⟩ hpx hqy⟩

/-- What begins with the first of two apart paths is apart from the second. -/
theorem Apart.append (h : Apart p q) (s : String) : Apart (p ++ [s]) q := by
  refine ⟨h.lt_of_prefix (List.prefix_append p [s]) List.prefix_rfl, fun hq => ?_⟩
  exact h.2 ((List.prefix_append p [s]).trans hq)

/-- Neighbours are apart when their last segments are in order. -/
theorem apart_append (p : ModulePath) (h : s < s') : Apart (p ++ [s]) (p ++ [s']) := by
  constructor
  · induction p with
    | nil => exact List.cons_lt_cons_iff.mpr (Or.inl h)
    | cons a p ih => exact List.cons_lt_cons_iff.mpr (Or.inr ⟨rfl, ih⟩)
  · intro hbegins
    have heq : s = s' := by simpa using hbegins
    exact lt_irrefl s (heq ▸ h)

/-! ## Beginnings -/

theorem mem_beginnings_iff : q ∈ p.beginnings ↔ q ≠ [] ∧ q <+: p := by
  induction p generalizing q with
  | nil =>
      simp only [beginnings, List.not_mem_nil, List.prefix_nil, false_iff]
      exact fun h => h.1 h.2
  | cons a p ih =>
      rw [beginnings, List.mem_cons, List.mem_map]
      cases q with
      | nil => simp
      | cons b q =>
          simp only [List.cons_prefix_cons, List.cons.injEq, ne_eq, reduceCtorEq, not_false_eq_true,
            true_and]
          constructor
          · rintro (⟨rfl, rfl⟩ | ⟨r, hr, rfl, rfl⟩)
            · exact ⟨rfl, List.nil_prefix⟩
            · exact ⟨rfl, (ih.mp hr).2⟩
          · rintro ⟨rfl, hq⟩
            cases q with
            | nil => exact Or.inl ⟨rfl, rfl⟩
            | cons c q => exact Or.inr ⟨_, ih.mpr ⟨List.cons_ne_nil _ _, hq⟩, rfl, rfl⟩

theorem nodup_beginnings (p : ModulePath) : p.beginnings.Nodup := by
  induction p with
  | nil => exact List.nodup_nil
  | cons a p ih =>
      rw [beginnings, List.nodup_cons]
      refine ⟨fun h => ?_, ih.map fun _ _ h => (List.cons.inj h).2⟩
      obtain ⟨q, hq, heq⟩ := List.mem_map.mp h
      exact (mem_beginnings_iff.mp hq).1 (List.cons.inj heq).2

end ModulePath

namespace ModuleTree

variable {t : ModuleTree} {ms listed : List Module} {p q : ModulePath}

/-! ## Missing modules -/

theorem contains_iff_mem_paths : t.contains p = true ↔ p ∈ t.paths := by
  rw [contains_iff, paths, List.mem_map]

theorem modules_foldl_add (ps : List ModulePath) (hn : ps.Nodup) (t : ModuleTree) :
    (ps.foldl add t).modules =
      t.modules ++ (ps.filter fun p => p ∉ t.paths).map fun p => { path := p } := by
  induction ps generalizing t with
  | nil => simp
  | cons p rest ih =>
      obtain ⟨hp, hrest⟩ := List.nodup_cons.mp hn
      rw [List.foldl_cons, ih hrest, List.filter_cons]
      by_cases hold : p ∈ t.paths
      · rw [add, if_pos (contains_iff_mem_paths.mpr hold)]
        simp [hold]
      · have hadd : t.add p = ⟨t.modules ++ [{ path := p }]⟩ := by
          rw [add, if_neg fun h => hold (contains_iff_mem_paths.mp h)]
        -- the paths after it are different ones
        have hsame : (rest.filter fun q => q ∉ (t.add p).paths) = rest.filter fun q => q ∉ t.paths := by
          refine List.filter_congr fun q hq => ?_
          have hne : q ≠ p := fun heq => hp (heq ▸ hq)
          simp [hadd, paths, hne]
        rw [hsame, hadd]
        simp [hold]

/-- A path adds its missing beginnings, shortest first, and modules that are there stay as they are. -/
theorem modules_ensure (t : ModuleTree) (path : ModulePath) : (t.ensure path).modules =
    t.modules ++ ((resolve path).beginnings.filter fun p => p ∉ t.paths).map fun p => { path := p } :=
  modules_foldl_add _ (ModulePath.nodup_beginnings _) t

theorem mem_paths_ensure_iff :
    p ∈ (t.ensure q).paths ↔ p ∈ t.paths ∨ (p ≠ [] ∧ p <+: resolve q) := by
  have hpaths : (t.ensure q).paths =
      t.paths ++ (resolve q).beginnings.filter fun p => p ∉ t.paths := by
    rw [paths, modules_ensure]
    simp [paths, Function.comp_def]
  rw [← ModulePath.mem_beginnings_iff, hpaths, List.mem_append, List.mem_filter]
  by_cases h : p ∈ t.paths <;> simp [h]

/-! ## Modules in order -/

/-- The only list of some modules in ascending order of distinct paths is the sorted one. -/
theorem eq_mergeSort_of_ascending (hn : (ms.map (·.path)).Nodup)
    (hascending : listed.Pairwise fun a b => a.path < b.path) (hmem : ∀ m, m ∈ listed ↔ m ∈ ms) :
    listed = ms.mergeSort fun a b => !b.path.before a.path := by
  have hle : ∀ a b : Module, (!b.path.before a.path) = true ↔ a.path ≤ b.path := by
    intro a b
    rw [Bool.not_eq_true', Bool.eq_false_iff, ne_eq, ModulePath.before_iff_lt, not_lt]
  have hsorted : (ms.mergeSort fun a b => !b.path.before a.path).Pairwise
      fun a b => (!b.path.before a.path) = true := by
    refine List.pairwise_mergeSort ?_ ?_ ms
    · intro a b c hab hbc
      exact (hle a c).mpr (((hle a b).mp hab).trans ((hle b c).mp hbc))
    · intro a b
      rw [Bool.or_eq_true, hle, hle]
      exact le_total _ _
  have hlisted : listed.Nodup := by
    refine hascending.imp ?_
    rintro a _ hlt rfl
    exact lt_irrefl a.path hlt
  have hperm : listed.Perm (ms.mergeSort fun a b => !b.path.before a.path) :=
    ((List.perm_ext_iff_of_nodup hlisted hn.of_map).mpr hmem).trans (List.mergeSort_perm _ _).symm
  refine hperm.eq_of_pairwise ?_ (hascending.imp le_of_lt) (hsorted.imp fun h => (hle _ _).mp h)
  intro a b ha hb hab hba
  exact List.inj_on_of_nodup_map hn ((hmem a).mp ha) (List.mem_mergeSort.mp hb) (le_antisymm hab hba)

end ModuleTree

end TypeGraph
