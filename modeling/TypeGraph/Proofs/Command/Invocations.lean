import TypeGraph.Proofs.Command.Writing
import TypeGraph.Proofs.Configuration.Spelling

/-!
# What invocations work with and leave

The configuration that an invocation works with comes from a text, so its depth is a number of machine size,
and it can be written and read again (`Invocation.reread_of_load`). A generation that gets as far as writing
leaves the files of its run, or those of them that come before the first that something is in the way of
(`exists_of_generate`).
-/

namespace TypeGraph.Command

variable {files : Files} {c : Configuration}

theorem eq_ok_of_doing {α : Type} {what : String} {step : Except Error α} {a : α}
    (h : doing what step = .ok a) : step = .ok a := by
  cases step with
  | error e => cases h
  | ok a' => exact congrArg Except.ok (Except.ok.inj h)

/-! ## Configurations -/

theorem depth_of_ofText {text : String} (h : Configuration.ofText text = .ok c) :
    c.packageDepth < Nat.pow 2 64 := by
  rw [Configuration.ofText] at h
  split at h
  · rename_i hread
    obtain rfl := Except.ok.inj h
    obtain ⟨document, _, hdocument⟩ := Option.bind_eq_some_iff.mp hread
    cases hjson : Configuration.ofJson .withoutNull document with
    | error fault => simp [hjson, Except.toOption] at hdocument
    | ok c' =>
        obtain rfl : c' = _ := by simpa [hjson, Except.toOption] using hdocument
        exact Configuration.depth_of_ofJson hjson
  · cases h

namespace Invocation

variable {i : Invocation}

/-- The depth of a configuration that was loaded is a number of machine size. -/
theorem depth_of_load (h : i.load files = .ok c) : c.packageDepth < Nat.pow 2 64 := by
  have hloaded := eq_ok_of_doing h
  split at hloaded
  · cases hloaded
  · obtain ⟨c', htext, hloaded⟩ := exists_of_bind hloaded
    obtain rfl := Except.ok.inj hloaded
    -- other paths do not make another depth
    have hdepth := depth_of_ofText htext
    split <;> exact hdepth

/-- What an action works with can be written and is read back. -/
theorem reread_of_load (h : i.load files = .ok c) :
    Configuration.ofJson .plain (i.action.configure c).toJson = .ok (i.action.configure c) := by
  refine Configuration.ofJson_of_spelt ?_ (Configuration.spelt_toJson _)
  have hdepth : (i.action.configure c).packageDepth = c.packageDepth := by
    cases i.action <;> rfl
  rw [hdepth]
  exact depth_of_load h

end Invocation

/-! ## Generations -/

/-- What a generation leaves when it gets as far as writing: all files of its run, or those before the
first that something is in the way of by then, which it reports. -/
theorem exists_of_generate {r : Result} (h : generate files c = .ok r) :
    ∃ setup discovery outcome, c.setup = .ok setup ∧
      Discovery.ofManifests files c.inputs c.packages = .ok discovery ∧
      setup.run discovery = .ok outcome ∧
      let modules := (Printed.files outcome.graph).map (inDirectory c.outputDirectory)
      (r.failure = none ∧ r.written = modules) ∨
        ∃ f rest path obstacle, modules = r.written ++ f :: rest ∧
          r.failure = some (.unwritten c.outputDirectory path obstacle) ∧
          (r.written.foldl (fun there f => there.write f.path f.content) files).obstructed? f.path =
            some (path, obstacle) := by
  obtain ⟨setup, hsetup, h⟩ := exists_of_bind h
  obtain ⟨outcome, houtcome, h⟩ := exists_of_bind h
  obtain ⟨discovery, hdiscovery, hrun⟩ := exists_of_bind (eq_ok_of_doing houtcome)
  refine ⟨setup, discovery, outcome, eq_ok_of_doing hsetup, hdiscovery, hrun, ?_⟩
  dsimp only at h ⊢
  split at h
  · rename_i written hwritten
    obtain rfl := Except.ok.inj h
    exact Or.inl ⟨rfl, eq_of_writeAll hwritten⟩
  · rename_i written path obstacle hwritten
    obtain rfl := Except.ok.inj h
    obtain ⟨f, rest, hmodules, hfound⟩ := exists_of_writeAll hwritten
    exact Or.inr ⟨f, rest, path, obstacle, hmodules, rfl, hfound⟩

end TypeGraph.Command
