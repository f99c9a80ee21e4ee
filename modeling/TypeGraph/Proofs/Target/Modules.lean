import Mathlib.Data.List.Nodup
import TypeGraph.Proofs.Target.FreshNames
import TypeGraph.Target.ModuleTree

/-!
# Laws of modules and their names

A map from names is told by its entries, a tree of modules by its paths and by the names in each
module. Creating modules adds modules without names and keeps all others (`mem_ensure`); entering a
name changes one module (`mem_enter_iff`). A fresh name is not taken (`freshName_not_mem`), so what is
reserved in a module never replaces an entry.
-/

namespace TypeGraph

/-! ## Maps from names -/

namespace NameMap

variable {α : Type} {m : NameMap α} {name key : String} {value v : α}

/-- Names are distinct in a map. -/
theorem nodup_keys (m : NameMap α) : m.keys.Nodup := by
  refine List.Pairwise.imp ?_ m.ascending
  rintro a b hlt rfl
  exact String.lt_irrefl a hlt

theorem eq_of_mem_entries (h : (name, value) ∈ m.entries) (h' : (name, v) ∈ m.entries) :
    value = v := by
  have heq := List.inj_on_of_nodup_map m.nodup_keys h h' rfl
  exact (Prod.mk.inj heq).2

theorem get?_eq_some_iff : m.get? name = some value ↔ (name, value) ∈ m.entries := by
  unfold get?
  constructor
  · intro h
    obtain ⟨entry, hfind, rfl⟩ := Option.map_eq_some_iff.mp h
    have hmem := List.mem_of_find?_eq_some hfind
    have hname : entry.1 = name := by simpa using List.find?_some hfind
    exact hname ▸ hmem
  · intro h
    cases hfind : m.entries.find? (·.1 == name) with
    | none =>
        have habsent := List.find?_eq_none.mp hfind _ h
        simp at habsent
    | some entry =>
        obtain ⟨key, v⟩ := entry
        have hmem := List.mem_of_find?_eq_some hfind
        have hname : key = name := by simpa using List.find?_some hfind
        subst hname
        rw [Option.map_some, eq_of_mem_entries h hmem]

theorem isEmpty_eq_false_of_mem {entry : String × α} (h : entry ∈ m.entries) : m.isEmpty = false := by
  cases hentries : m.entries with
  | nil => exact absurd (hentries ▸ h) List.not_mem_nil
  | cons => simp [isEmpty, hentries]

theorem mem_keys_iff : name ∈ m.keys ↔ ∃ value, (name, value) ∈ m.entries := by
  simp [keys]

theorem mem_values_iff : value ∈ m.values ↔ ∃ name, (name, value) ∈ m.entries := by
  simp [values]

theorem mem_insertList_iff {entries : List (String × α)}
    (h : (entries.map (·.1)).Pairwise (· < ·)) :
    (key, v) ∈ insertList name value entries ↔
      (key = name ∧ v = value) ∨ (key ≠ name ∧ (key, v) ∈ entries) := by
  induction entries with
  | nil => simp [insertList]
  | cons entry rest ih =>
      obtain ⟨k, w⟩ := entry
      rw [List.map_cons, List.pairwise_cons] at h
      have hlater : ∀ x, (key, x) ∈ rest → k < key := fun x hx =>
        h.1 key (List.mem_map.mpr ⟨(key, x), hx, rfl⟩)
      rw [insertList]
      split
      · -- the new name comes before all others, so none of them is equal to it
        rename_i hlt
        have hne : (key, v) ∈ (k, w) :: rest → key ≠ name := by
          rintro hmem rfl
          rcases List.mem_cons.mp hmem with heq | hrest
          · obtain ⟨rfl, rfl⟩ := Prod.mk.inj heq
            exact String.lt_irrefl _ hlt
          · exact String.lt_irrefl _ (String.lt_trans hlt (hlater v hrest))
        rw [List.mem_cons, Prod.mk.injEq]
        constructor
        · rintro (hnew | hold)
          · exact Or.inl hnew
          · exact Or.inr ⟨hne hold, hold⟩
        · rintro (hnew | ⟨_, hold⟩)
          · exact Or.inl hnew
          · exact Or.inr hold
      · split
        · rename_i _ heq
          subst heq
          have hne : (key, v) ∈ rest → key ≠ name := by
            rintro hmem rfl
            exact String.lt_irrefl _ (hlater v hmem)
          rw [List.mem_cons, List.mem_cons, Prod.mk.injEq, Prod.mk.injEq]
          constructor
          · rintro (hnew | hold)
            · exact Or.inl hnew
            · exact Or.inr ⟨hne hold, Or.inr hold⟩
          · rintro (hnew | ⟨hkey, hsame | hold⟩)
            · exact Or.inl hnew
            · exact absurd hsame.1 hkey
            · exact Or.inr hold
        · rename_i _ hne
          rw [List.mem_cons, List.mem_cons, ih h.2, Prod.mk.injEq]
          constructor
          · rintro (⟨rfl, rfl⟩ | hnew | ⟨hkey, hold⟩)
            · exact Or.inr ⟨fun heq => hne heq.symm, Or.inl ⟨rfl, rfl⟩⟩
            · exact Or.inl hnew
            · exact Or.inr ⟨hkey, Or.inr hold⟩
          · rintro (hnew | ⟨hkey, hsame | hold⟩)
            · exact Or.inr (Or.inl hnew)
            · exact Or.inl hsame
            · exact Or.inr (Or.inr ⟨hkey, hold⟩)

theorem mem_entries_insert_iff :
    (key, v) ∈ (m.insert name value).entries ↔
      (key = name ∧ v = value) ∨ (key ≠ name ∧ (key, v) ∈ m.entries) :=
  mem_insertList_iff m.ascending

theorem get?_insert (m : NameMap α) (name key : String) (value : α) :
    (m.insert name value).get? key = if key = name then some value else m.get? key := by
  refine Option.ext fun v => ?_
  rw [get?_eq_some_iff, mem_entries_insert_iff]
  by_cases h : key = name
  · simp [h, eq_comm]
  · simp [h, get?_eq_some_iff]

end NameMap

/-! ## Trees of modules -/

namespace ModuleTree

variable {t : ModuleTree} {path : ModulePath} {m m' : Module} {name source : String}

/-- The paths of all modules in the order of their creation. -/
def paths (t : ModuleTree) : List ModulePath := t.modules.map (·.path)

theorem contains_iff : t.contains path = true ↔ ∃ m ∈ t.modules, m.path = path := by
  simp [contains]

theorem mem_of_find? (h : t.find? path = some m) : m ∈ t.modules ∧ m.path = path := by
  refine ⟨List.mem_of_find?_eq_some h, ?_⟩
  simpa using List.find?_some h

theorem find?_of_mem (hn : t.paths.Nodup) (hm : m ∈ t.modules) : t.find? m.path = some m := by
  cases hf : t.find? m.path with
  | none =>
      have habsent := List.find?_eq_none.mp hf m hm
      simp at habsent
  | some m' =>
      obtain ⟨hm', hpath⟩ := mem_of_find? hf
      rw [List.inj_on_of_nodup_map hn hm' hm hpath]

/-! ### Creating modules -/

theorem mem_add (h : m ∈ (t.add path).modules) : m ∈ t.modules ∨ m = { path := path } := by
  unfold add at h
  split at h
  · exact Or.inl h
  · simpa using h

theorem mem_add_of_mem (path : ModulePath) (h : m ∈ t.modules) : m ∈ (t.add path).modules := by
  unfold add
  split
  · exact h
  · exact List.mem_append_left _ h

theorem contains_add (t : ModuleTree) (path : ModulePath) : (t.add path).contains path = true := by
  unfold add
  split
  · assumption
  · exact contains_iff.mpr ⟨{ path := path }, by simp, rfl⟩

theorem nodup_add (path : ModulePath) (hn : t.paths.Nodup) : (t.add path).paths.Nodup := by
  unfold add
  split
  · exact hn
  · rename_i hnot
    have hnew : path ∉ t.paths := by
      intro hmem
      obtain ⟨m, hm, hpath⟩ := List.mem_map.mp hmem
      exact hnot (contains_iff.mpr ⟨m, hm, hpath⟩)
    simp only [paths, List.map_append, List.map_cons, List.map_nil]
    rw [List.nodup_append]
    refine ⟨hn, by simp, ?_⟩
    intro p hp q hq
    have hq' : q = path := by simpa using hq
    rintro rfl
    exact hnew (hq' ▸ hp)

theorem mem_foldl_add (ps : List ModulePath) (h : m ∈ (ps.foldl add t).modules) :
    m ∈ t.modules ∨ m.names = ∅ := by
  induction ps generalizing t with
  | nil => exact Or.inl h
  | cons p rest ih =>
      rcases ih h with hmem | hnew
      · rcases mem_add hmem with hold | rfl
        · exact Or.inl hold
        · exact Or.inr rfl
      · exact Or.inr hnew

theorem mem_foldl_add_of_mem (ps : List ModulePath) (h : m ∈ t.modules) :
    m ∈ (ps.foldl add t).modules := by
  induction ps generalizing t with
  | nil => exact h
  | cons p rest ih => exact ih (mem_add_of_mem p h)

theorem nodup_foldl_add (ps : List ModulePath) (hn : t.paths.Nodup) :
    (ps.foldl add t).paths.Nodup := by
  induction ps generalizing t with
  | nil => exact hn
  | cons p rest ih => exact ih (nodup_add p hn)

theorem contains_foldl_add (ps : List ModulePath) (h : path ∈ ps ∨ t.contains path = true) :
    (ps.foldl add t).contains path = true := by
  induction ps generalizing t with
  | nil => simpa using h
  | cons p rest ih =>
      refine ih ?_
      rcases h with hmem | hold
      · rcases List.mem_cons.mp hmem with rfl | hrest
        · exact Or.inr (contains_add t path)
        · exact Or.inl hrest
      · obtain ⟨m, hm, hpath⟩ := contains_iff.mp hold
        exact Or.inr (contains_iff.mpr ⟨m, mem_add_of_mem p hm, hpath⟩)

/-- A path is its own longest beginning. -/
theorem mem_beginnings (h : path ≠ []) : path ∈ path.beginnings := by
  induction path with
  | nil => exact absurd rfl h
  | cons s rest ih =>
      rw [ModulePath.beginnings, List.mem_cons]
      cases rest with
      | nil => exact Or.inl rfl
      | cons s' rest' => exact Or.inr (List.mem_map_of_mem (ih (by simp)))

/-- Creating modules adds only modules without names. -/
theorem mem_ensure (h : m ∈ (t.ensure path).modules) : m ∈ t.modules ∨ m.names = ∅ :=
  mem_foldl_add _ h

theorem mem_ensure_of_mem (path : ModulePath) (h : m ∈ t.modules) : m ∈ (t.ensure path).modules :=
  mem_foldl_add_of_mem _ h

theorem nodup_ensure (path : ModulePath) (hn : t.paths.Nodup) : (t.ensure path).paths.Nodup :=
  nodup_foldl_add _ hn

theorem contains_ensure (t : ModuleTree) (h : path ≠ []) : (t.ensure path).contains path = true := by
  have hresolve : resolve path = path := by simp [resolve, h]
  rw [ensure, hresolve]
  exact contains_foldl_add _ (Or.inl (mem_beginnings h))

/-! ### Names in modules -/

theorem namesAt_of_mem (hn : t.paths.Nodup) (hm : m ∈ t.modules) :
    t.namesAt m.path = m.names.keys := by
  rw [namesAt, find?_of_mem hn hm]

theorem freeName_not_mem (hn : t.paths.Nodup) (hm : m ∈ t.modules) (preferred : String) :
    t.freeName m.path preferred ∉ m.names.keys := by
  rw [← namesAt_of_mem hn hm]
  exact freshName_not_mem preferred _

theorem mem_enter_iff :
    m ∈ (t.enter path name source).modules ↔
      ∃ o ∈ t.modules, m =
        if o.path = path then { o with names := o.names.insert name source } else o := by
  simp only [enter, List.mem_map]
  constructor
  · rintro ⟨o, ho, rfl⟩
    exact ⟨o, ho, rfl⟩
  · rintro ⟨o, ho, rfl⟩
    exact ⟨o, ho, rfl⟩

@[simp] theorem paths_enter (t : ModuleTree) (path : ModulePath) (name source : String) :
    (t.enter path name source).paths = t.paths := by
  simp only [paths, enter, List.map_map]
  refine List.map_congr_left ?_
  intro m _
  simp only [Function.comp]
  split <;> rfl

end ModuleTree

/-! ## Placement -/

/-- Every type belongs to a module with a path. -/
theorem Placement.path_ne_nil (p : Placement) (d : Descriptor) : p.path d ≠ [] := by
  cases p with
  | byDepth depth =>
      simp only [path, packagePath]
      split
      · simp [ModulePath.global]
      · simp
  | single name => simp [path]

end TypeGraph
