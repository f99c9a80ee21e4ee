import Mathlib.Data.List.Pairwise
import TypeGraph.Command.Execution
import TypeGraph.Proofs.Target.Specifiers

/-!
# Files that can be written together

A file makes directories of the places on the way to it, so no other file may be there. Two paths clash
when one of them leads to a place on the way of the other (`Path.Clash`). Where steps are names, something
is in the way of a file just when its path clashes with that of a file which is there
(`Files.obstructed?_eq_none_iff`), and files can be written one after the other just when no two of them
clash, nor one of them with what was there (`Command.writeAll_eq_iff`). The order does not matter.
-/

namespace TypeGraph

/-! ## Paths -/

namespace Path

variable {p q s : String} {steps steps' dirs begun : List String}

/-- The places on the way to a file are the beginnings of its directory. -/
theorem begins_concat_iff : begun <+: dirs ↔ begun <+: dirs ++ [s] ∧ begun ≠ dirs ++ [s] := by
  rw [List.prefix_concat_iff]
  constructor
  · intro hbegun
    refine ⟨Or.inr hbegun, ?_⟩
    rintro rfl
    simpa using hbegun.length_le
  · rintro ⟨rfl | hbegun, hne⟩
    · exact absurd rfl hne
    · exact hbegun

/-- A path leads to a place on the way of another: a file there is in place of a directory. -/
def Above (p q : String) : Prop :=
  ∃ s t, steps? p = some s ∧ steps? q = some t ∧ s <+: t ∧ s ≠ t

/-- One of two paths leads to a place on the way of the other. -/
def Clash (p q : String) : Prop := Above p q ∨ Above q p

theorem Clash.symm (h : Clash p q) : Clash q p := Or.symm h

theorem not_above_self (p : String) : ¬ Above p p := by
  rintro ⟨s, t, hs, ht, _, hne⟩
  exact hne (Option.some.inj (hs.symm.trans ht))

/-- A path that is made of names of steps, and of one at least. -/
structure Plain (path : String) (steps : List String) : Prop where
  nonempty : steps ≠ []
  names : ∀ s ∈ steps, IsStep s
  joined : path = Text.joined '/' steps

theorem Plain.steps?_eq (h : Plain p steps) : steps? p = some steps := by
  have habsolute : isAbsolute p = false := by
    rw [h.joined]
    exact isAbsolute_joined h.nonempty fun s hs => ⟨(h.names s hs).nonempty, (h.names s hs).whole⟩
  have hsegments : Text.segments '/' p = steps := by
    rw [h.joined]
    exact Text.segments_joined h.nonempty fun s hs => (h.names s hs).whole
  rw [steps?, habsolute, hsegments]
  exact walk_to_end h.names

theorem Plain.above_iff (hp : Plain p steps) (hq : Plain q steps') :
    Above p q ↔ steps <+: steps' ∧ steps ≠ steps' := by
  rw [Above, hp.steps?_eq, hq.steps?_eq]
  simp

/-- A plain path seen from a directory. -/
theorem Plain.join (hdirs : ∀ s ∈ dirs, IsStep s) (h : Plain p steps) :
    Plain (join (Text.joined '/' dirs) p) (dirs ++ steps) where
  nonempty := List.append_ne_nil_of_right_ne_nil _ h.nonempty
  names s hs := (List.mem_append.mp hs).elim (hdirs s) (h.names s)
  joined := by
    have hrelative := isAbsolute_joined h.nonempty fun s hs =>
      ⟨(h.names s hs).nonempty, (h.names s hs).whole⟩
    rw [h.joined]
    exact join_joined hdirs h.nonempty hrelative

/-- Seen from one directory, paths are on each other's ways as before. -/
theorem above_join_iff (hdirs : ∀ s ∈ dirs, IsStep s) (hp : Plain p steps)
    (hq : Plain q steps') : Above (Path.join (Text.joined '/' dirs) p)
      (Path.join (Text.joined '/' dirs) q) ↔ Above p q := by
  rw [(hp.join hdirs).above_iff (hq.join hdirs), hp.above_iff hq]
  simp

end Path

/-! ## Obstacles -/

namespace Files

variable {files : Files} {path text p q : String} {done steps dirs parts : List String}

theorem holds_iff :
    files.holds steps = true ↔ ∃ e ∈ files.entries, Path.steps? e.1 = some steps := by
  simp [holds]

theorem length_lt_iff_ne (h : steps <+: parts) : steps.length < parts.length ↔ steps ≠ parts := by
  constructor
  · rintro hlt rfl
    exact absurd hlt (lt_irrefl _)
  · exact fun hne => lt_of_le_of_ne h.length_le fun heq => hne (h.eq_of_length heq)

theorem isDirectory_iff (hne : steps ≠ []) : files.isDirectory steps = true ↔
    ∃ e ∈ files.entries, ∃ t, Path.steps? e.1 = some t ∧ steps <+: t ∧ steps ≠ t := by
  have hbelow : ∀ e : String × String, ((Path.steps? e.1).any fun t =>
      steps.isPrefixOf t && steps.length < t.length) = true ↔
        ∃ t, Path.steps? e.1 = some t ∧ steps <+: t ∧ steps ≠ t := by
    intro e
    rw [Option.any_eq_true]
    refine exists_congr fun t => and_congr_right fun _ => ?_
    rw [Bool.and_eq_true, List.isPrefixOf_iff_prefix, decide_eq_true_eq]
    exact and_congr_right length_lt_iff_ne
  have hsome : steps.isEmpty = false := by simpa using hne
  simp only [isDirectory, hsome, Bool.false_or, List.any_eq_true, hbelow]

/-- Nothing is in the way of a directory just when no beginning of the way leads to a file. -/
theorem walk_eq_none_iff (h : ∀ s ∈ dirs, Path.IsStep s) : blocked?.walk files done dirs = none ↔
    ∀ begun, begun <+: dirs → files.holds (done.reverse ++ begun) = false := by
  induction dirs generalizing done with
  | nil => simp [blocked?.walk]
  | cons s rest ih =>
      have hs : Path.IsStep s := h s List.mem_cons_self
      have hrest : blocked?.walk files (s :: done) rest = none ↔ ∀ later, later <+: rest →
          files.holds ((s :: done).reverse ++ later) = false :=
        ih fun x hx => h x (List.mem_cons_of_mem _ hx)
      rw [blocked?.walk.eq_def]
      simp only [hs.isIdle_eq_false, beq_eq_false_iff_ne.mpr hs.up, Bool.false_eq_true, if_false]
      constructor
      · intro hwalk begun hbegun
        split at hwalk
        · exact absurd hwalk (by simp)
        rename_i hhere
        rcases List.prefix_cons_iff.mp hbegun with rfl | ⟨later, rfl, hlater⟩
        · simpa using hhere
        · simpa using hrest.mp hwalk later hlater
      · intro hfree
        have hhere : files.holds done.reverse = false := by simpa using hfree [] List.nil_prefix
        rw [hhere, if_neg Bool.false_ne_true, hrest]
        intro later hlater
        simpa using hfree (s :: later) (List.cons_prefix_cons.mpr ⟨rfl, hlater⟩)

theorem blocked?_joined (h : ∀ s ∈ dirs, Path.IsStep s) :
    files.blocked? (Text.joined '/' dirs) = none ↔
      ∀ begun, begun <+: dirs → files.holds begun = false := by
  cases dirs with
  | nil =>
      -- the directory itself has an empty path
      have hempty : Text.joined '/' [] = "" := rfl
      have hsegments : Text.segments '/' "" = [""] := rfl
      have habsolute : Path.isAbsolute "" = false := rfl
      rw [hempty, blocked?, habsolute, hsegments, blocked?.walk.eq_def]
      cases hhere : files.holds [] <;> simp [Path.isIdle, blocked?.walk, hhere]
  | cons s rest =>
      have habsolute := Path.isAbsolute_joined (List.cons_ne_nil s rest) fun x hx =>
        ⟨(h x hx).nonempty, (h x hx).whole⟩
      rw [blocked?, habsolute, Text.segments_joined (List.cons_ne_nil s rest) fun x hx => (h x hx).whole]
      exact walk_eq_none_iff h

/-- Something is in the way of a file when it is in the way of its directory, or when there is a
directory in its place. -/
theorem obstructed?_eq_none_of_parent {directory : String} (hparent : Path.parent? path = some directory)
    (hsteps : Path.steps? path = some steps) : files.obstructed? path = none ↔
      files.blocked? directory = none ∧ files.isDirectory steps = false := by
  rw [obstructed?, hparent, hsteps, Option.bind_some]
  cases files.blocked? directory <;> simp

/-- Nothing is in the way of a file just when its path clashes with none of those that are there. -/
theorem obstructed?_eq_none_iff (h : Path.Plain path steps) :
    files.obstructed? path = none ↔ ∀ e ∈ files.entries, ¬ Path.Clash e.1 path := by
  have hsteps : Path.steps? path = some steps := h.steps?_eq
  rcases List.eq_nil_or_concat' steps with hnil | ⟨dirs, s, rfl⟩
  · exact absurd hnil h.nonempty
  have hdirs : ∀ x ∈ dirs, Path.IsStep x := fun x hx => h.names x (by simp [hx])
  have hparent : Path.parent? path = some (Text.joined '/' dirs) := by
    rw [h.joined]
    exact Path.parent?_joined hdirs (h.names s (by simp))
  rw [obstructed?_eq_none_of_parent hparent hsteps, blocked?_joined hdirs]
  constructor
  · rintro ⟨hfree, hdirectory⟩ e he hclash
    rcases hclash with ⟨begun, whole, hbegun, hwhole, hbegins⟩ |
      ⟨whole, below, hwhole, hbelow, hbegins⟩
    · obtain rfl : dirs ++ [s] = whole := Option.some.inj (hsteps.symm.trans hwhole)
      have hheld := hfree begun (Path.begins_concat_iff.mpr hbegins)
      rw [holds_iff.mpr ⟨e, he, hbegun⟩] at hheld
      exact absurd hheld (by simp)
    · obtain rfl : dirs ++ [s] = whole := Option.some.inj (hsteps.symm.trans hwhole)
      rw [(isDirectory_iff h.nonempty).mpr ⟨e, he, below, hbelow, hbegins⟩] at hdirectory
      exact absurd hdirectory (by simp)
  · intro hno
    constructor
    · intro begun hbegun
      rw [← Bool.not_eq_true, holds_iff]
      rintro ⟨e, he, hplace⟩
      exact hno e he (Or.inl ⟨begun, _, hplace, hsteps, Path.begins_concat_iff.mp hbegun⟩)
    · rw [← Bool.not_eq_true, isDirectory_iff h.nonempty]
      rintro ⟨e, he, below, hbelow, hbegins⟩
      exact hno e he (Or.inr ⟨_, below, hsteps, hbelow, hbegins⟩)

/-! ## Writing -/

/-- Paths that name the same place clash with the same paths. -/
theorem clash_congr (h : samePlace p path = true) : Path.Clash p q ↔ Path.Clash path q := by
  rw [samePlace, Bool.or_eq_true, beq_iff_eq, Option.any_eq_true] at h
  rcases h with rfl | ⟨steps, hp, hpath⟩
  · exact Iff.rfl
  · rw [beq_iff_eq] at hpath
    rw [Path.Clash, Path.Clash, Path.Above, Path.Above, Path.Above, Path.Above, hp, hpath]

/-- After a file is written, a path clashes with it or with one of those that were there. -/
theorem clash_write_iff (files : Files) (path text q : String) :
    (∃ e ∈ (files.write path text).entries, Path.Clash e.1 q) ↔
      Path.Clash path q ∨ ∃ e ∈ files.entries, Path.Clash e.1 q := by
  rw [write]
  split
  · -- the file replaces those in its place
    rename_i hsame
    obtain ⟨o, ho, hplace⟩ := List.any_eq_true.mp hsame
    have hkept : ∀ e : String × String, (if samePlace e.1 path then (e.1, text) else e).1 = e.1 := by
      intro e
      split <;> rfl
    simp only [List.mem_map, exists_exists_and_eq_and, hkept]
    refine (or_iff_right_of_imp fun hclash => ?_).symm
    exact ⟨o, ho, (clash_congr hplace).mpr hclash⟩
  · simp only [List.mem_append, List.mem_singleton]
    constructor
    · rintro ⟨e, he | rfl, hclash⟩
      · exact Or.inr ⟨e, he, hclash⟩
      · exact Or.inl hclash
    · rintro (hclash | ⟨e, he, hclash⟩)
      · exact ⟨_, Or.inr rfl, hclash⟩
      · exact ⟨e, Or.inl he, hclash⟩

end Files

namespace Command

variable {files : Files} {f : Printed.File} {fs rest : List Printed.File}

/-- All files are written when nothing is in the way of the first, and then nothing of the others. -/
theorem writeAll_cons_eq_iff : writeAll files (f :: rest) = (f :: rest, none) ↔
    files.obstructed? f.path = none ∧ writeAll (files.write f.path f.content) rest = (rest, none) := by
  rw [writeAll]
  cases files.obstructed? f.path with
  | some found => simp
  | none => simp [Prod.ext_iff]

theorem eq_of_writeAll {written : List Printed.File} (h : writeAll files fs = (written, none)) :
    written = fs := by
  induction fs generalizing files written with
  | nil => exact (Prod.mk.inj h).1.symm
  | cons f rest ih =>
      rw [writeAll] at h
      split at h
      · simp at h
      · obtain ⟨rfl, hrest⟩ := Prod.mk.inj h
        exact congrArg (f :: ·) (ih (Prod.ext rfl hrest))

/-- Where writing stops, all files before are written, and something is in the way of the next one. -/
theorem exists_of_writeAll {written : List Printed.File} {found : String × Files.Obstacle}
    (h : writeAll files fs = (written, some found)) : ∃ f rest, fs = written ++ f :: rest ∧
      (written.foldl (fun there f => there.write f.path f.content) files).obstructed? f.path =
        some found := by
  induction fs generalizing files written with
  | nil => simp [writeAll] at h
  | cons f rest ih =>
      rw [writeAll] at h
      cases hfound : files.obstructed? f.path with
      | some o =>
          rw [hfound] at h
          obtain ⟨rfl, rfl⟩ : [] = written ∧ o = found := by simpa using h
          exact ⟨f, rest, rfl, hfound⟩
      | none =>
          rw [hfound] at h
          obtain ⟨rfl, hrest⟩ := Prod.mk.inj h
          obtain ⟨f', later, heq, hstop⟩ := ih (Prod.ext rfl hrest)
          exact ⟨f', later, congrArg (f :: ·) heq, hstop⟩

/-- Files can be written one after the other when none clashes with a later one, nor with what was there.
The induction is on the files, with what is there by then. -/
theorem writeAll_eq_iff_pairwise (h : ∀ f ∈ fs, ∃ steps, Path.Plain f.path steps) :
    writeAll files fs = (fs, none) ↔ (∀ f ∈ fs, ∀ e ∈ files.entries, ¬ Path.Clash e.1 f.path) ∧
      fs.Pairwise fun f f' => ¬ Path.Clash f.path f'.path := by
  induction fs generalizing files with
  | nil => simp [writeAll]
  | cons f rest ih =>
      obtain ⟨steps, hplain⟩ := h f List.mem_cons_self
      have hwritten : ∀ f' : Printed.File,
          (∀ e ∈ (files.write f.path f.content).entries, ¬ Path.Clash e.1 f'.path) ↔
            ¬ Path.Clash f.path f'.path ∧ ∀ e ∈ files.entries, ¬ Path.Clash e.1 f'.path := by
        intro f'
        simpa [not_or] using not_congr (Files.clash_write_iff files f.path f.content f'.path)
      rw [writeAll_cons_eq_iff, ih fun f' hf' => h f' (List.mem_cons_of_mem _ hf'),
        Files.obstructed?_eq_none_iff hplain, List.forall_mem_cons, List.pairwise_cons]
      simp only [hwritten]
      constructor
      · rintro ⟨hfirst, hothers, hpairs⟩
        exact ⟨⟨hfirst, fun f' hf' => (hothers f' hf').2⟩, fun f' hf' => (hothers f' hf').1, hpairs⟩
      · rintro ⟨⟨hfirst, hfree⟩, hclear, hpairs⟩
        exact ⟨hfirst, fun f' hf' => ⟨hclear f' hf', hfree f' hf'⟩, hpairs⟩

theorem pairwise_not_clash_iff : (fs.Pairwise fun f f' => ¬ Path.Clash f.path f'.path) ↔
    ∀ f ∈ fs, ∀ f' ∈ fs, ¬ Path.Above f.path f'.path := by
  have hsymm : Std.Symm fun f f' : Printed.File => ¬ Path.Clash f.path f'.path :=
    ⟨fun _ _ hno hclash => hno hclash.symm⟩
  constructor
  · intro hpairs f hf f' hf' habove
    have hself : ∀ o ∈ fs, ¬ Path.Clash o.path o.path := fun o _ hclash =>
      hclash.elim (Path.not_above_self _) (Path.not_above_self _)
    exact hpairs.forall_of_forall hself hf hf' (Or.inl habove)
  · intro hno
    refine List.pairwise_of_forall_mem_list fun f hf f' hf' hclash => ?_
    exact hclash.elim (hno f hf f' hf') (hno f' hf' f hf)

/-- Files can be written one after the other, and all of them are, just when none is in the place of a
directory of another, and none clashes with what was there. -/
theorem writeAll_eq_iff (h : ∀ f ∈ fs, ∃ steps, Path.Plain f.path steps) :
    writeAll files fs = (fs, none) ↔ (∀ f ∈ fs, ∀ e ∈ files.entries, ¬ Path.Clash e.1 f.path) ∧
      ∀ f ∈ fs, ∀ f' ∈ fs, ¬ Path.Above f.path f'.path := by
  rw [writeAll_eq_iff_pairwise h, pairwise_not_clash_iff]

end Command

end TypeGraph
