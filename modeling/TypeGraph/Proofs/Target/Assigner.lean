import TypeGraph.Proofs.Target.Walk
import TypeGraph.Proofs.Text.Segments
import TypeGraph.Target.Assigner

/-!
# Every package has one module

The path of a package tells its segments, except that a package without segments belongs to the module of
the package `global` (`packagePath_eq_iff`). What an assigner remembers is what following the path would
find (`Assigner.Sound`): creating modules and entering names moves no module that is there. So after any
history a type is given the module of its path, and two types get the same one just when their packages are
alike (`assigned_after`).
-/

namespace TypeGraph

/-! ## Paths of packages -/

namespace Placement

variable {depth : Nat} {x y : String}

/-- The segments of a package. Empty ones do not count. -/
def parts (package : String) : List String := (Text.segments '.' package).filter (· ≠ "")

theorem mem_parts {s : String} (h : s ∈ parts x) : s ≠ "" ∧ '.' ∉ s.toList := by
  obtain ⟨hmem, hne⟩ := List.mem_filter.mp h
  refine ⟨by simpa using hne, fun hdot => ?_⟩
  exact (Text.mem_of_mem_segments hmem hdot).2 rfl

theorem packagePath_of_parts_nil (h : parts x = []) : packagePath depth x = ModulePath.global := by
  rw [packagePath, ← parts, h]
  rfl

theorem packagePath_of_parts (h : parts x ≠ []) : packagePath depth x =
    Text.joined '.' ((parts x).take (max depth 1)) :: (parts x).drop (max depth 1) := by
  rw [packagePath, ← parts]
  exact if_neg (by simpa using h)

/-- Joining the path of a package gives the joined segments of the package. -/
theorem joined_packagePath (h : parts x ≠ []) :
    Text.joined '.' (packagePath depth x) = Text.joined '.' (parts x) := by
  rw [packagePath_of_parts h]
  by_cases hrest : (parts x).drop (max depth 1) = []
  · rw [hrest, Text.joined_singleton, List.take_of_length_le (List.drop_eq_nil_iff.mp hrest)]
  · have hfirst : (parts x).take (max depth 1) ≠ [] := by
      have hdepth : max depth 1 ≠ 0 := by omega
      simp [hdepth, h]
    rw [Text.joined_cons '.' _ hrest, ← Text.joined_append hfirst hrest, List.take_append_drop]

/-- The path of a package tells its segments. -/
theorem parts_of_packagePath (depth : Nat) (h : parts x ≠ []) :
    Text.segments '.' (Text.joined '.' (packagePath depth x)) = parts x := by
  rw [joined_packagePath h]
  exact Text.segments_joined h fun s hs => (mem_parts hs).2

/-- Whether two packages belong to the same module: their segments are the same, or they are the package
without segments and the package `global`. -/
def Alike (x y : String) : Prop :=
  parts x = parts y ∨
    ((parts x = [] ∨ parts x = ["global"]) ∧ (parts y = [] ∨ parts y = ["global"]))

/-- Only the package without segments and the package `global` have the global path. -/
theorem packagePath_eq_global_iff :
    packagePath depth x = ModulePath.global ↔ parts x = [] ∨ parts x = ["global"] := by
  constructor
  · intro h
    by_cases hnil : parts x = []
    · exact Or.inl hnil
    · right
      rw [← parts_of_packagePath depth hnil, h]
      decide +kernel
  · rintro (hnil | hglobal)
    · exact packagePath_of_parts_nil hnil
    · have hdepth : 1 ≤ max depth 1 := Nat.le_max_right depth 1
      rw [packagePath_of_parts (by simp [hglobal]), hglobal, List.take_of_length_le (by simp),
        List.drop_of_length_le (by simp), Text.joined_singleton]
      rfl

/-- Packages have the same path just when they are alike. -/
theorem packagePath_eq_iff : packagePath depth x = packagePath depth y ↔ Alike x y := by
  constructor
  · intro h
    by_cases hx : parts x = [] ∨ parts x = ["global"]
    · exact Or.inr ⟨hx, packagePath_eq_global_iff.mp (h ▸ packagePath_eq_global_iff.mpr hx)⟩
    · have hy : ¬ (parts y = [] ∨ parts y = ["global"]) := fun hy =>
        hx (packagePath_eq_global_iff.mp (h.trans (packagePath_eq_global_iff.mpr hy)))
      left
      rw [← parts_of_packagePath depth fun hnil => hx (Or.inl hnil), h,
        parts_of_packagePath depth fun hnil => hy (Or.inl hnil)]
  · rintro (hsame | ⟨hx, hy⟩)
    · rw [packagePath, packagePath, ← parts, ← parts, hsame]
    · rw [packagePath_eq_global_iff.mpr hx, packagePath_eq_global_iff.mpr hy]

end Placement

/-! ## Modules that are there -/

namespace LinkedTree

variable {t : LinkedTree} {p path : ModulePath} {id : Nat}

/-- The way down to a module that is there changes nothing. -/
theorem descend_of_path? (h : t.Linked) (rest : List String) : ∀ {n : Option Nat} {p : ModulePath}
    (s : String), t.pathAt? n = some p → t.path? id = some (p ++ s :: rest) →
      t.descend n p s rest = (id, t) := by
  induction rest with
  | nil =>
      intro n p s hn hid
      rw [descend, step, (h.below n p hn s id).mpr hid]
  | cons next rest ih =>
      intro n p s hn hid
      -- the module above it is there as well
      obtain ⟨above, habove⟩ : ∃ n, t.path? n = some (p ++ [s]) := by
        refine mem_paths_iff.mp (h.mem_of_prefix (mem_paths_iff.mpr ⟨id, hid⟩) (by simp) ?_)
        exact ⟨next :: rest, by simp⟩
      rw [descend, step, (h.below n p hn s above).mpr habove]
      refine ih next (n := some above) (p := p ++ [s]) habove ?_
      rw [hid, List.append_assoc, List.singleton_append]

theorem ensure_of_path? (h : t.Linked) (hid : t.path? id = some path) : t.ensure path = (id, t) := by
  cases path with
  | nil => exact absurd rfl (h.path_ne_nil hid)
  | cons s rest => exact descend_of_path? h rest s (n := none) (p := []) rfl hid

/-- Creating modules moves none that is there. -/
theorem path?_ensure (h : t.Linked) (path : ModulePath) (hid : t.path? id = some p) :
    (t.ensure path).2.path? id = some p := by
  obtain ⟨m, hm, rfl⟩ := path?_eq_some_iff.mp hid
  obtain ⟨o, ho, hpath, _⟩ := (h.ensured path).kept id m hm
  exact path?_eq_some_iff.mpr ⟨o, ho, hpath⟩

theorem path?_claim (t : LinkedTree) (n : Nat) (preferred source : String) :
    (t.claim n preferred source).2.path? = t.path? := by
  have hpaths : (t.claim n preferred source).2.paths = t.paths :=
    map_modify_of_same LinkedModule.path (·.enter _ source) (fun _ => rfl) _ _
  funext id
  rw [path?_eq, path?_eq, hpaths]

end LinkedTree

/-! ## Histories -/

namespace Assigner

variable {a b : Assigner} {d e : Descriptor} {id depth : Nat}

/-- What is done with an assigner and its tree. -/
inductive Operation where
  | assign (d : Descriptor)
  /-- Creates modules or enters a name, past the assigner. -/
  | change (op : TreeOperation)

/-- The assigner after an operation. -/
def perform (a : Assigner) : Operation → Assigner
  | .assign d => (a.assign d).2
  | .change op => { a with tree := a.tree.perform op }

/-- The assigner after some more operations. -/
def after (a : Assigner) (ops : List Operation) : Assigner := ops.foldl perform a

/-- The tree is linked, and what is remembered for a package is the module of its path. -/
structure Sound (a : Assigner) : Prop where
  linked : a.tree.Linked
  known : ∀ package id, a.known.get? package = some id →
    a.tree.path? id = some (Placement.packagePath a.depth package)

theorem sound_ofDepth (depth : Nat) : (ofDepth depth).Sound where
  linked := LinkedTree.linked_empty
  known := fun _ _ h => absurd h (by simp [ofDepth, NameMap.get?, EmptyCollection.emptyCollection])

theorem assign_of_known (h : a.known.get? d.package = some id) : a.assign d = (id, a) := by
  simp only [assign, h]

theorem assign_of_unknown (h : a.known.get? d.package = none) : a.assign d =
    ((a.tree.ensure (Placement.packagePath a.depth d.package)).1,
      { a with
        tree := (a.tree.ensure (Placement.packagePath a.depth d.package)).2
        known := a.known.insert d.package
          (a.tree.ensure (Placement.packagePath a.depth d.package)).1 }) := by
  simp only [assign, h]

/-- A type is given the number and the tree that following the path of its package gives. -/
theorem assign_eq (h : a.Sound) (d : Descriptor) :
    ((a.assign d).1, (a.assign d).2.tree) =
      a.tree.ensure (Placement.packagePath a.depth d.package) := by
  cases hknown : a.known.get? d.package with
  | none => rw [assign_of_unknown hknown]
  | some id =>
      rw [assign_of_known hknown, LinkedTree.ensure_of_path? h.linked (h.known _ _ hknown)]

theorem id_assign (h : a.Sound) (d : Descriptor) :
    (a.assign d).1 = (a.tree.ensure (Placement.packagePath a.depth d.package)).1 := by
  rw [← assign_eq h d]

theorem tree_assign (h : a.Sound) (d : Descriptor) :
    (a.assign d).2.tree = (a.tree.ensure (Placement.packagePath a.depth d.package)).2 := by
  rw [← assign_eq h d]

theorem depth_assign (a : Assigner) (d : Descriptor) : (a.assign d).2.depth = a.depth := by
  rw [assign]
  split <;> rfl

/-- The module that a type is given is remembered. -/
theorem known_assign (a : Assigner) (d : Descriptor) (package : String) :
    (a.assign d).2.known.get? package =
      if package = d.package then some (a.assign d).1 else a.known.get? package := by
  cases hknown : a.known.get? d.package with
  | none => rw [assign_of_unknown hknown, NameMap.get?_insert]
  | some id =>
      rw [assign_of_known hknown]
      by_cases h : package = d.package
      · rw [if_pos h, h, hknown]
      · rw [if_neg h]

/-- Whatever is remembered stays remembered. -/
theorem known_perform (op : Operation) {package : String} (h : a.known.get? package = some id) :
    (a.perform op).known.get? package = some id := by
  cases op with
  | change op => exact h
  | assign d =>
      rw [perform, known_assign]
      split
      · rename_i heq
        rw [assign_of_known (heq ▸ h)]
      · exact h

/-- Modules that are there stay where they are. -/
theorem path?_perform (h : a.Sound) (op : Operation) {p : ModulePath} (hid : a.tree.path? id = some p) :
    (a.perform op).tree.path? id = some p := by
  cases op with
  | assign d =>
      rw [perform, tree_assign h d]
      exact LinkedTree.path?_ensure h.linked _ hid
  | change op =>
      cases op with
      | ensure path => exact LinkedTree.path?_ensure h.linked path hid
      | claim n preferred source =>
          rw [perform, LinkedTree.perform, LinkedTree.path?_claim]
          exact hid

theorem path?_assign (h : a.Sound) (d : Descriptor) :
    (a.assign d).2.tree.path? (a.assign d).1 = some (Placement.packagePath a.depth d.package) := by
  have hpath := (h.linked.ensured (Placement.packagePath a.depth d.package)).returned
  have hne : Placement.packagePath a.depth d.package ≠ [] := Placement.path_ne_nil (.byDepth a.depth) d
  rw [id_assign h d, tree_assign h d, hpath, ModuleTree.resolve, if_neg (by simpa using hne)]

theorem Sound.perform (h : a.Sound) (op : Operation) : (a.perform op).Sound := by
  have hlinked : (a.perform op).tree.Linked := by
    cases op with
    | assign d =>
        rw [Assigner.perform, tree_assign h d]
        exact (LinkedTree.ensure_spec h.linked _).1
    | change op =>
        cases op with
        | ensure path => exact (LinkedTree.ensure_spec h.linked path).1
        | claim n preferred source => exact h.linked.claim n preferred source
  refine ⟨hlinked, fun package id hknown => ?_⟩
  cases op with
  | change op => exact path?_perform h (.change op) (h.known package id hknown)
  | assign d =>
      have hdepth : (a.perform (.assign d)).depth = a.depth := depth_assign a d
      rw [Assigner.perform, known_assign] at hknown
      rw [hdepth]
      split at hknown
      · rename_i hpackage
        obtain rfl := Option.some.inj hknown
        rw [hpackage]
        exact path?_assign h d
      · exact path?_perform h (.assign d) (h.known package id hknown)

/-! ### Whole histories -/

theorem sound_after (h : a.Sound) (ops : List Operation) : (a.after ops).Sound := by
  induction ops generalizing a with
  | nil => exact h
  | cons op rest ih => exact ih (h.perform op)

theorem depth_after (a : Assigner) (ops : List Operation) : (a.after ops).depth = a.depth := by
  induction ops generalizing a with
  | nil => rfl
  | cons op rest ih =>
      refine (ih (a.perform op)).trans ?_
      cases op with
      | assign d => exact depth_assign a d
      | change op => rfl

theorem known_after (ops : List Operation) {package : String} (h : a.known.get? package = some id) :
    (a.after ops).known.get? package = some id := by
  induction ops generalizing a with
  | nil => exact h
  | cons op rest ih => exact ih (known_perform op h)

theorem path?_after (h : a.Sound) (ops : List Operation) {p : ModulePath}
    (hid : a.tree.path? id = some p) : (a.after ops).tree.path? id = some p := by
  induction ops generalizing a with
  | nil => exact hid
  | cons op rest ih => exact ih (h.perform op) (path?_perform h op hid)

/-- However often it is asked, and whatever happens in between, a type keeps its module, and asking again
changes nothing. -/
theorem assign_again (a : Assigner) (d : Descriptor) (ops : List Operation) :
    ((a.assign d).2.after ops).assign d = ((a.assign d).1, (a.assign d).2.after ops) := by
  have hknown : (a.assign d).2.known.get? d.package = some (a.assign d).1 := by
    rw [known_assign, if_pos rfl]
  exact assign_of_known (known_after ops hknown)

/-- Types that are asked for one after the other get the same module just when their packages are alike. -/
theorem assign_eq_iff (h : a.Sound) (d e : Descriptor) (ops : List Operation) :
    (((a.assign d).2.after ops).assign e).1 = (a.assign d).1 ↔ Placement.Alike d.package e.package := by
  have hsound : ((a.assign d).2.after ops).Sound := sound_after (h.perform (.assign d)) ops
  have hdepth : ((a.assign d).2.after ops).depth = a.depth :=
    (depth_after _ ops).trans (depth_assign a d)
  have hfirst := path?_perform hsound (.assign e)
    (path?_after (h.perform (.assign d)) ops (path?_assign h d))
  have hsecond := path?_assign hsound e
  rw [hdepth] at hsecond
  rw [← @Placement.packagePath_eq_iff a.depth]
  constructor
  · intro hsame
    rw [hsame] at hsecond
    exact Option.some.inj (hfirst.symm.trans hsecond)
  · intro hpath
    exact (hsound.perform (.assign e)).linked.id_unique hsecond (hpath ▸ hfirst)

/-- After any history a type is given the only module with the path of its package, as it would be without
memory, and as a run places it; asking again, at any time, gives the same and changes nothing; another type
is given the same module just when the packages are alike; and the path spells the segments of the
package. -/
theorem assigned_after (depth : Nat) (history : List Operation) (d : Descriptor) :
    let before := (ofDepth depth).after history
    let id := (before.assign d).1
    let now := (before.assign d).2
    (∀ n, now.tree.path? n = some (Placement.packagePath depth d.package) ↔ n = id) ∧
      (id, now.tree) = before.tree.ensure (Placement.packagePath depth d.package) ∧
      now.tree.tree = before.tree.tree.ensure ((Placement.byDepth depth).path d) ∧
      (∀ more, (now.after more).assign d = (id, now.after more)) ∧
      (∀ more e, ((now.after more).assign e).1 = id ↔ Placement.Alike d.package e.package) ∧
      (Placement.parts d.package ≠ [] →
        Text.joined '.' (Placement.packagePath depth d.package) =
          Text.joined '.' (Placement.parts d.package)) := by
  intro before id now
  have hsound : before.Sound := sound_after (sound_ofDepth depth) history
  have hpath : Placement.packagePath before.depth d.package = Placement.packagePath depth d.package := by
    rw [depth_after, ofDepth, Placement.packagePath, Placement.packagePath, Nat.max_assoc, Nat.max_self]
  have hid : now.tree.path? id = some (Placement.packagePath depth d.package) :=
    hpath ▸ path?_assign hsound d
  have hensure : (id, now.tree) = before.tree.ensure (Placement.packagePath depth d.package) :=
    hpath ▸ assign_eq hsound d
  refine ⟨fun n => ⟨fun hn => ?_, fun hn => hn ▸ hid⟩, hensure, ?_, assign_again before d,
    fun more e => assign_eq_iff hsound d e more, Placement.joined_packagePath⟩
  · exact (hsound.perform (.assign d)).linked.id_unique hn hid
  · have htree : now.tree = (before.tree.ensure (Placement.packagePath depth d.package)).2 :=
      congrArg Prod.snd hensure
    rw [htree]
    exact (LinkedTree.ensure_spec hsound.linked _).2.1

end Assigner

end TypeGraph
