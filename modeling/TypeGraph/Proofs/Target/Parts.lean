import TypeGraph.Target.TypeExpr

/-!
# Parts of a type

A type stands inside another at any depth of arrays, dictionaries and applications (`PartOf`). The two
collections of what a type refers to are exact for it: they hold the declarations and exports that are
parts of the type, and nothing else. So is the list of all parts (`mem_parts_iff`).
-/

namespace TypeGraph.TypeExpr

/-- A type is a part of another: it is that type, or stands somewhere inside it. -/
inductive PartOf (r : TypeExpr) : TypeExpr → Prop
  | self : PartOf r r
  | array {t : TypeExpr} (h : PartOf r t) : PartOf r (.array t)
  | dictionary {t : TypeExpr} (h : PartOf r t) : PartOf r (.dictionary t)
  | base {t : TypeExpr} {args : List TypeExpr} (h : PartOf r t) : PartOf r (.generic t args)
  | argument {t base : TypeExpr} {args : List TypeExpr} (hmem : t ∈ args) (h : PartOf r t) :
      PartOf r (.generic base args)

variable {r t : TypeExpr} {source : String} {key : String × String}

theorem sourcesOf_eq_flatMap (ts : List TypeExpr) : sourcesOf ts = ts.flatMap sources := by
  induction ts with
  | nil => rfl
  | cons t rest ih => simp [sourcesOf, ih]

theorem externalsOf_eq_flatMap (ts : List TypeExpr) : externalsOf ts = ts.flatMap externals := by
  induction ts with
  | nil => rfl
  | cons t rest ih => simp [externalsOf, ih]

/-- A type refers to everything that its parts refer to. -/
theorem PartOf.refers (h : PartOf r t) : r.sources ⊆ t.sources ∧ r.externals ⊆ t.externals := by
  induction h with
  | self => exact ⟨fun _ hx => hx, fun _ hx => hx⟩
  | array _ ih =>
      simp only [sources, externals]
      exact ih
  | dictionary _ ih =>
      simp only [sources, externals]
      exact ih
  | base _ ih =>
      simp only [sources, externals]
      exact ⟨fun x hx => List.mem_append_left _ (ih.1 hx), fun x hx => List.mem_append_left _ (ih.2 hx)⟩
  | argument hmem _ ih =>
      simp only [sources, externals, sourcesOf_eq_flatMap, externalsOf_eq_flatMap]
      exact ⟨fun x hx => List.mem_append_right _ (List.mem_flatMap.mpr ⟨_, hmem, ih.1 hx⟩),
        fun x hx => List.mem_append_right _ (List.mem_flatMap.mpr ⟨_, hmem, ih.2 hx⟩)⟩

mutual

theorem partOf_of_mem_sources : ∀ t : TypeExpr, source ∈ t.sources → PartOf (.declared source) t
  | .declared name, h => by
      obtain rfl : source = name := by simpa [sources] using h
      exact .self
  | .array t, h => .array (partOf_of_mem_sources t (by simpa only [sources] using h))
  | .dictionary t, h => .dictionary (partOf_of_mem_sources t (by simpa only [sources] using h))
  | .generic base args, h => by
      simp only [sources] at h
      rcases List.mem_append.mp h with hbase | hargs
      · exact .base (partOf_of_mem_sources base hbase)
      · obtain ⟨t, hmem, hpart⟩ := partOf_of_mem_sourcesOf args hargs
        exact .argument hmem hpart
  | .keyword _, h | .global _, h | .external _ _, h | .parameter _, h => by simp [sources] at h

theorem partOf_of_mem_sourcesOf :
    ∀ ts : List TypeExpr, source ∈ sourcesOf ts → ∃ t ∈ ts, PartOf (.declared source) t
  | [], h => by simp [sourcesOf] at h
  | t :: rest, h => by
      rcases List.mem_append.mp h with hfirst | hrest
      · exact ⟨t, List.mem_cons_self, partOf_of_mem_sources t hfirst⟩
      · obtain ⟨u, hmem, hpart⟩ := partOf_of_mem_sourcesOf rest hrest
        exact ⟨u, List.mem_cons_of_mem _ hmem, hpart⟩

end

mutual

theorem partOf_of_mem_externals :
    ∀ t : TypeExpr, key ∈ t.externals → PartOf (.external key.2 key.1) t
  | .external name module, h => by
      obtain rfl : key = (module, name) := by simpa [externals] using h
      exact .self
  | .array t, h => .array (partOf_of_mem_externals t (by simpa only [externals] using h))
  | .dictionary t, h => .dictionary (partOf_of_mem_externals t (by simpa only [externals] using h))
  | .generic base args, h => by
      simp only [externals] at h
      rcases List.mem_append.mp h with hbase | hargs
      · exact .base (partOf_of_mem_externals base hbase)
      · obtain ⟨t, hmem, hpart⟩ := partOf_of_mem_externalsOf args hargs
        exact .argument hmem hpart
  | .keyword _, h | .global _, h | .declared _, h | .parameter _, h => by simp [externals] at h

theorem partOf_of_mem_externalsOf :
    ∀ ts : List TypeExpr, key ∈ externalsOf ts → ∃ t ∈ ts, PartOf (.external key.2 key.1) t
  | [], h => by simp [externalsOf] at h
  | t :: rest, h => by
      rcases List.mem_append.mp h with hfirst | hrest
      · exact ⟨t, List.mem_cons_self, partOf_of_mem_externals t hfirst⟩
      · obtain ⟨u, hmem, hpart⟩ := partOf_of_mem_externalsOf rest hrest
        exact ⟨u, List.mem_cons_of_mem _ hmem, hpart⟩

end

/-- The sources of a type are those of the declarations that are parts of it. -/
theorem mem_sources_iff : source ∈ t.sources ↔ PartOf (.declared source) t :=
  ⟨partOf_of_mem_sources t, fun h => h.refers.1 (by simp [sources])⟩

/-- The exports of a type are those that are parts of it. -/
theorem mem_externals_iff : key ∈ t.externals ↔ PartOf (.external key.2 key.1) t :=
  ⟨partOf_of_mem_externals t, fun h => h.refers.2 (by simp [externals])⟩

/-! ## All parts -/

mutual

/-- All parts of a type, itself first. -/
def parts : TypeExpr → List TypeExpr
  | .array t => .array t :: parts t
  | .dictionary t => .dictionary t :: parts t
  | .generic base args => .generic base args :: (parts base ++ partsOf args)
  | .keyword k => [.keyword k]
  | .global name => [.global name]
  | .declared source => [.declared source]
  | .external name module => [.external name module]
  | .parameter name => [.parameter name]

/-- All parts of some types, in order. -/
def partsOf : List TypeExpr → List TypeExpr
  | [] => []
  | t :: rest => parts t ++ partsOf rest

end

theorem partsOf_eq_flatMap (ts : List TypeExpr) : partsOf ts = ts.flatMap parts := by
  induction ts with
  | nil => rfl
  | cons t rest ih => simp [partsOf, ih]

theorem mem_parts_self (t : TypeExpr) : t ∈ t.parts := by
  cases t <;> simp [parts]

mutual

theorem partOf_of_mem_parts : ∀ t : TypeExpr, r ∈ t.parts → PartOf r t
  | .array t, h => by
      rcases List.mem_cons.mp (by simpa only [parts] using h) with rfl | hinner
      · exact .self
      · exact .array (partOf_of_mem_parts t hinner)
  | .dictionary t, h => by
      rcases List.mem_cons.mp (by simpa only [parts] using h) with rfl | hinner
      · exact .self
      · exact .dictionary (partOf_of_mem_parts t hinner)
  | .generic base args, h => by
      simp only [parts] at h
      rcases List.mem_cons.mp h with rfl | hinner
      · exact .self
      · rcases List.mem_append.mp hinner with hbase | hargs
        · exact .base (partOf_of_mem_parts base hbase)
        · obtain ⟨t, hmem, hpart⟩ := partOf_of_mem_partsOf args hargs
          exact .argument hmem hpart
  | .keyword _, h | .global _, h | .declared _, h | .external _ _, h | .parameter _, h => by
      obtain rfl := List.mem_singleton.mp (by simpa only [parts] using h)
      exact .self

theorem partOf_of_mem_partsOf : ∀ ts : List TypeExpr, r ∈ partsOf ts → ∃ t ∈ ts, PartOf r t
  | [], h => by simp [partsOf] at h
  | t :: rest, h => by
      rcases List.mem_append.mp h with hfirst | hrest
      · exact ⟨t, List.mem_cons_self, partOf_of_mem_parts t hfirst⟩
      · obtain ⟨u, hmem, hpart⟩ := partOf_of_mem_partsOf rest hrest
        exact ⟨u, List.mem_cons_of_mem _ hmem, hpart⟩

end

theorem mem_parts_iff : r ∈ t.parts ↔ PartOf r t := by
  refine ⟨partOf_of_mem_parts t, fun h => ?_⟩
  induction h with
  | self => exact mem_parts_self r
  | array _ ih =>
      rw [parts]
      exact List.mem_cons_of_mem _ ih
  | dictionary _ ih =>
      rw [parts]
      exact List.mem_cons_of_mem _ ih
  | base _ ih =>
      rw [parts]
      exact List.mem_cons_of_mem _ (List.mem_append_left _ ih)
  | argument hmem _ ih =>
      rw [parts, partsOf_eq_flatMap]
      exact List.mem_cons_of_mem _ (List.mem_append_right _ (List.mem_flatMap.mpr ⟨_, hmem, ih⟩))

/-! ## Types without declarations -/

theorem sources_ofText (name : String) (module : Option String) :
    (ofText name module).sources = [] := by
  unfold ofText
  fun_induction ofReversed module name.toList.reverse with
  | case1 rest ih => simpa only [sources] using ih
  | case2 reversed _ =>
      unfold ofAtom
      split <;> rfl

theorem sources_apply (base : TypeExpr) (args : List TypeExpr) :
    (apply base args).sources = base.sources ++ args.flatMap sources := by
  cases args with
  | nil => simp [apply]
  | cons t rest => simp only [apply, sources, sourcesOf_eq_flatMap]

end TypeGraph.TypeExpr
