import TypeGraph.Configuration.Setup
import TypeGraph.Proofs.Conversion.Bodies

/-!
# What a setup takes from its configuration

A setup that is made from a configuration has the converters and targets of that configuration. Models
go to a converter of models, types with endpoints to a converter of theirs, and none of the targets that
a configuration names is a declaration.
-/

namespace TypeGraph

namespace Configuration

variable {c : Configuration} {s : Setup}

/-- A setup has its filters made ready and the rest as its configuration has it. -/
theorem setup_eq_ok (h : c.setup = .ok s) :
    ∃ model rest, c.modelFilter.ready = .ok model ∧ c.restFilter.ready = .ok rest ∧
      s = { modelFilter := model, restFilter := rest, nullability := c.nullability
            placement := c.placement, converters := c.converters, custom := c.custom } := by
  simp only [setup, bind, Except.bind, pure, Except.pure] at h
  split at h
  · simp at h
  split at h
  · simp at h
  rename_i model hmodel
  split at h
  · simp at h
  rename_i rest hrest
  exact ⟨model, rest, hmodel, hrest, (Except.ok.inj h).symm⟩

theorem of_setup (h : c.setup = .ok s) :
    s.nullability = c.nullability ∧ s.converters = c.converters ∧ s.custom = c.custom := by
  obtain ⟨_, _, _, _, rfl⟩ := setup_eq_ok h
  exact ⟨rfl, rfl, rfl⟩

/-- The filters of a setup are those of its configuration, made ready. -/
theorem filters_of_setup (h : c.setup = .ok s) :
    c.modelFilter.ready = .ok s.modelFilter ∧ c.restFilter.ready = .ok s.restFilter := by
  obtain ⟨_, _, hmodel, hrest, rfl⟩ := setup_eq_ok h
  exact ⟨hmodel, hrest⟩

/-- The converters of a configuration are the ones made for their roles. -/
theorem converters_of_setup (h : c.setup = .ok s) :
    (∀ k, s.converters.model = some k → ∃ o, c.model = some o ∧ k = .model o.includeIgnored) ∧
      (∀ k, s.converters.rest = some k →
        ∃ o, c.rest = some o ∧ k = .rest (.ofText o.wrapper o.wrapperModule)) := by
  obtain ⟨_, hconverters, _⟩ := of_setup h
  rw [hconverters]
  constructor
  · intro k hk
    obtain ⟨o, ho, rfl⟩ := Option.map_eq_some_iff.mp hk
    exact ⟨o, ho, rfl⟩
  · intro k hk
    obtain ⟨o, ho, rfl⟩ := Option.map_eq_some_iff.mp hk
    exact ⟨o, ho, rfl⟩

/-- The targets that a configuration names are given by texts. -/
theorem chosen_eq_ofText (h : c.setup = .ok s) {name : String} {t : TypeExpr}
    (hget : s.custom.get? name = some t) : ∃ text module, t = .ofText text module := by
  obtain ⟨_, _, hcustom⟩ := of_setup h
  rw [hcustom] at hget
  obtain ⟨entry, hentry, rfl⟩ := Option.map_eq_some_iff.mp hget
  obtain ⟨⟨key, target⟩, _, rfl⟩ := List.mem_map.mp (List.mem_of_find?_eq_some hentry)
  exact ⟨target.name, target.module, rfl⟩

/-- The targets that a configuration names are no declarations. -/
theorem plain_of_setup (h : c.setup = .ok s) : s.custom.Plain := by
  intro name t hget
  obtain ⟨text, module, rfl⟩ := chosen_eq_ofText h hget
  exact TypeExpr.sources_ofText text module

/-- What the converters of a setup wrap results in is given by a text. -/
theorem wrapper_eq_ofText (h : c.setup = .ok s) {k : Converter} {w : TypeExpr}
    (hk : k = .enum ∨ s.converters.model = some k ∨ s.converters.rest = some k)
    (hw : k.wrapper? = some w) : ∃ text module, w = .ofText text module := by
  obtain ⟨hmodel, hrest⟩ := converters_of_setup h
  rcases hk with rfl | hk | hk
  · simp [Converter.wrapper?] at hw
  · obtain ⟨o, _, rfl⟩ := hmodel k hk
    simp [Converter.wrapper?] at hw
  · obtain ⟨o, _, rfl⟩ := hrest k hk
    exact ⟨o.wrapper, o.wrapperModule, by simpa [Converter.wrapper?] using hw.symm⟩

/-- None of the converters of a setup wraps results in a declaration. -/
theorem wrapper_of_setup (h : c.setup = .ok s) {k : Converter} {w : TypeExpr}
    (hk : k = .enum ∨ s.converters.model = some k ∨ s.converters.rest = some k)
    (hw : k.wrapper? = some w) : w.sources = [] := by
  obtain ⟨text, module, rfl⟩ := wrapper_eq_ofText h hk hw
  exact TypeExpr.sources_ofText text module

end Configuration

end TypeGraph
