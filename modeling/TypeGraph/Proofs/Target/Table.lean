import Mathlib.Data.List.Nodup
import TypeGraph.Target.Declaration

/-!
# Laws of the declaration table

A table whose sources are distinct is a partial function from source identities to declarations.
Registration extends it at the end, and filling in changes one declaration without touching its
source, its name or its module. Everything later about a conversion is told through these laws, so no
later proof opens the table.
-/

namespace TypeGraph.Table

variable {t : Table} {source name : String} {d e : Declaration} {body : Body} {id : Nat}

/-! ## Lookups -/

theorem mem_sources_iff : source ∈ t.sources ↔ ∃ d ∈ t.declarations, d.source = source := by
  simp [sources]

theorem contains_iff : t.contains source = true ↔ ∃ d ∈ t.declarations, d.source = source := by
  simp [contains]

theorem contains_of_mem (hd : d ∈ t.declarations) : t.contains d.source = true :=
  contains_iff.mpr ⟨d, hd, rfl⟩

theorem contains_eq_false_iff :
    t.contains source = false ↔ ∀ d ∈ t.declarations, d.source ≠ source := by
  simp [contains]

theorem mem_of_find? (h : t.find? source = some d) : d ∈ t.declarations ∧ d.source = source := by
  refine ⟨List.mem_of_find?_eq_some h, ?_⟩
  simpa using List.find?_some h

/-- Distinct sources make a declaration known by its source. -/
theorem eq_of_source_eq (hn : t.sources.Nodup) (hd : d ∈ t.declarations)
    (he : e ∈ t.declarations) (h : d.source = e.source) : d = e :=
  List.inj_on_of_nodup_map hn hd he h

theorem find?_of_mem (hn : t.sources.Nodup) (hd : d ∈ t.declarations) :
    t.find? d.source = some d := by
  cases hf : t.find? d.source with
  | none =>
      have habsent := List.find?_eq_none.mp hf d hd
      simp at habsent
  | some e =>
      obtain ⟨he, hsource⟩ := mem_of_find? hf
      rw [eq_of_source_eq hn he hd hsource]

theorem exists_find? (h : t.contains source = true) : ∃ d, t.find? source = some d := by
  obtain ⟨d, hd, hsource⟩ := contains_iff.mp h
  cases hf : t.find? source with
  | none =>
      have habsent := List.find?_eq_none.mp hf d hd
      simp [hsource] at habsent
  | some e => exact ⟨e, rfl⟩

theorem isPopulated_eq_false (hn : t.sources.Nodup) (hd : d ∈ t.declarations)
    (hp : d.progress = .registered) : t.isPopulated d.source = false := by
  rw [isPopulated, List.any_eq_false]
  intro e he hboth
  simp only [Bool.and_eq_true, beq_iff_eq] at hboth
  have heq : e = d := eq_of_source_eq hn he hd hboth.1
  rw [heq, hp] at hboth
  simp at hboth

/-- The declaration at the place of a source is the one for that source. -/
theorem idOf?_eq_some_iff (hn : t.sources.Nodup) :
    t.idOf? source = some id ↔ ∃ d, t.declarations[id]? = some d ∧ d.source = source := by
  have hplace : t.idOf? source = some id ↔ t.sources[id]? = some source := by
    rw [idOf?, List.idxOf?_eq_some_iff, List.getElem?_eq_some_iff]
    constructor
    · rintro ⟨hlt, heq, _⟩
      exact ⟨hlt, by simpa using heq⟩
    · rintro ⟨hlt, heq⟩
      refine ⟨hlt, by simpa using heq, ?_⟩
      -- an earlier place of the same source would be a second one
      intro j hj hsame
      have hsame' : t.sources[j] = t.sources[id] := by simpa [heq] using hsame
      have := (hn.getElem_inj_iff).mp hsame'
      omega
  rw [hplace, sources, List.getElem?_map, Option.map_eq_some_iff]

theorem isPopulated_eq_true (hd : d ∈ t.declarations) (hp : d.progress = .populated) :
    t.isPopulated d.source = true :=
  List.any_eq_true.mpr ⟨d, hd, by simp [hp]⟩

/-! ## Registration -/

theorem declarations_register (h : t.contains e.source = false) :
    (t.register e).declarations = t.declarations ++ [e] := by
  simp [register, h]

theorem nodup_register (hn : t.sources.Nodup) (h : t.contains e.source = false) :
    (t.register e).sources.Nodup := by
  have hnew : e.source ∉ t.sources := by
    rw [mem_sources_iff]
    rintro ⟨d, hd, heq⟩
    exact contains_eq_false_iff.mp h d hd heq
  rw [sources, declarations_register h, List.map_append, List.nodup_append]
  refine ⟨hn, by simp, ?_⟩
  intro x hx y hy
  have : y = e.source := by simpa using hy
  rintro rfl
  exact hnew (this ▸ hx)

/-- Other sources keep their places. -/
theorem idOf?_register (h : t.contains e.source = false) (hne : source ≠ e.source) :
    (t.register e).idOf? source = t.idOf? source := by
  have hlast : (e.source == source) = false := by simpa using Ne.symm hne
  unfold idOf? sources
  rw [declarations_register h, List.map_append]
  simp [List.idxOf?, List.findIdx?_append, hlast]

/-! ## Filling in -/

/-- A declaration with its body, unless it has one already. -/
def filled (d : Declaration) (body : Body) : Declaration :=
  match d.progress with
  | .registered => { d with body, progress := .populated }
  | .populated => d

theorem mem_populate_iff :
    e ∈ (t.populate source body).declarations ↔
      ∃ d ∈ t.declarations, e = if d.source = source then filled d body else d := by
  simp only [populate, modify, List.mem_map, filled]
  constructor
  · rintro ⟨d, hd, rfl⟩
    exact ⟨d, hd, rfl⟩
  · rintro ⟨d, hd, rfl⟩
    exact ⟨d, hd, rfl⟩

@[simp] theorem filled_source : (filled d body).source = d.source := by
  unfold filled
  split <;> rfl

@[simp] theorem filled_name : (filled d body).name = d.name := by
  unfold filled
  split <;> rfl

@[simp] theorem filled_module : (filled d body).module = d.module := by
  unfold filled
  split <;> rfl

/-- Filling in changes neither what a declaration is called nor what it stands for. -/
theorem exists_of_mem_populate (h : e ∈ (t.populate source body).declarations) :
    ∃ d ∈ t.declarations, d.source = e.source ∧ d.name = e.name ∧ d.module = e.module := by
  obtain ⟨d, hd, rfl⟩ := mem_populate_iff.mp h
  refine ⟨d, hd, ?_⟩
  split <;> simp

theorem exists_mem_populate (source : String) (body : Body) (hd : d ∈ t.declarations) :
    ∃ e ∈ (t.populate source body).declarations,
      e.source = d.source ∧ e.name = d.name ∧ e.module = d.module := by
  refine ⟨_, mem_populate_iff.mpr ⟨d, hd, rfl⟩, ?_⟩
  split <;> simp

/-- A change that keeps the source of a declaration keeps all sources. -/
theorem sources_modify {f : Declaration → Declaration} (h : ∀ d, (f d).source = d.source) :
    (t.modify source f).sources = t.sources := by
  simp only [sources, modify, List.map_map]
  refine List.map_congr_left ?_
  intro d _
  simp only [Function.comp]
  split
  · exact h d
  · rfl

/-- Without a declaration for a source there is nothing to change. -/
theorem modify_of_not_contains (h : t.contains source = false) (f : Declaration → Declaration) :
    t.modify source f = t := by
  have hsame : t.declarations.map (fun d => if d.source = source then f d else d) =
      t.declarations.map id :=
    List.map_congr_left fun d hd => if_neg (contains_eq_false_iff.mp h d hd)
  rw [modify, hsame, List.map_id]

@[simp] theorem sources_populate : (t.populate source body).sources = t.sources := by
  refine sources_modify fun d => ?_
  split <;> rfl

/-- After filling in, every declaration is the one that was filled in or an old one. -/
theorem mem_populate_cases (hn : t.sources.Nodup) (hd : d ∈ t.declarations)
    (hp : d.progress = .registered) (he : e ∈ (t.populate d.source body).declarations) :
    e = { d with body, progress := .populated } ∨ (e ∈ t.declarations ∧ e.source ≠ d.source) := by
  obtain ⟨o, ho, rfl⟩ := mem_populate_iff.mp he
  by_cases h : o.source = d.source
  · left
    have heq : o = d := eq_of_source_eq hn ho hd h
    simp [heq, filled, hp]
  · right
    simpa [h] using ho

/-- Filling in leaves the declarations of other sources as they are. -/
theorem mem_populate_of_ne (he : e ∈ t.declarations) (h : e.source ≠ source) :
    e ∈ (t.populate source body).declarations := by
  refine mem_populate_iff.mpr ⟨e, he, ?_⟩
  simp [h]

end TypeGraph.Table
