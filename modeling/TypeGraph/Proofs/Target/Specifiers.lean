import TypeGraph.Proofs.Text.Segments
import TypeGraph.Target.ModuleTree

/-!
# Specifiers lead to files

How one module names another in an import, and where that leads. A module path whose segments are names of
steps (`ModulePath.Clean`) has a file of its own (`file_injective`), and a specifier, followed from the
directory of the importing file, is the way to the file of the imported module (`linked?_specifier`). The
paths of the modules of types are such paths when the names of the types hold no slash.
-/

namespace TypeGraph

namespace Path

variable {s path : String} {dirs parts rest done names : List String} {n : Nat}

/-- The path of the file that an import means: the specifier leads on from the directory of the
importing file, and leaves out the extension. -/
def linked? (file specifier : String) : Option String := do
  let directory ← parent? file
  let steps ← steps? (join directory (specifier ++ ".ts"))
  return Text.joined '/' steps

/-! ## Steps -/

/-- A name that leads one step down: it is not empty, leads neither nowhere nor up, and is one segment. -/
structure IsStep (s : String) : Prop where
  nonempty : s ≠ ""
  here : s ≠ "."
  up : s ≠ ".."
  whole : '/' ∉ s.toList

instance (s : String) : Decidable (IsStep s) :=
  decidable_of_iff (s ≠ "" ∧ s ≠ "." ∧ s ≠ ".." ∧ '/' ∉ s.toList)
    ⟨fun ⟨nonempty, here, up, whole⟩ => ⟨nonempty, here, up, whole⟩,
      fun h => ⟨h.nonempty, h.here, h.up, h.whole⟩⟩

theorem IsStep.toList_ne_nil (h : IsStep s) : s.toList ≠ [] := by
  simpa using h.nonempty

theorem IsStep.isIdle_eq_false (h : IsStep s) : isIdle s = false := by
  simp [isIdle, h.nonempty, h.here]

/-- A name with an extension is a name as well. -/
theorem IsStep.append_ts (h : IsStep s) : IsStep (s ++ ".ts") := by
  have hlength : 4 ≤ (s ++ ".ts").length := by
    have hpos : 0 < s.length := by
      rw [← String.length_toList]
      exact List.length_pos_iff.mpr h.toList_ne_nil
    have hts : ".ts".length = 3 := rfl
    rw [String.length_append]
    omega
  refine ⟨?_, ?_, ?_, ?_⟩
  · exact fun heq => absurd (heq ▸ hlength) (by decide)
  · exact fun heq => absurd (heq ▸ hlength) (by decide)
  · exact fun heq => absurd (heq ▸ hlength) (by decide)
  · simpa using h.whole

/-- The parts at the end of a path all count when they are names of steps. -/
theorem dropIdleEnd_of_steps (h : ∀ s ∈ parts, IsStep s) : dropIdleEnd parts = parts := by
  unfold dropIdleEnd
  cases hparts : parts.reverse with
  | nil => simp [List.reverse_eq_nil_iff.mp hparts]
  | cons last others =>
      have hlast : IsStep last := h last (by rw [← List.mem_reverse, hparts]; simp)
      rw [List.dropWhile_cons_of_neg (by simp [hlast.isIdle_eq_false]), ← hparts,
        List.reverse_reverse]

/-- The directory of a file. -/
theorem parent?_joined (hdirs : ∀ s ∈ dirs, IsStep s) (hs : IsStep s) :
    parent? (Text.joined '/' (dirs ++ [s])) = some (Text.joined '/' dirs) := by
  have hall : ∀ x ∈ dirs ++ [s], IsStep x := by
    intro x hx
    rcases List.mem_append.mp hx with hdir | hlast
    · exact hdirs x hdir
    · exact List.mem_singleton.mp hlast ▸ hs
  rw [parent?, Text.segments_joined (by simp) fun x hx => (hall x hx).whole]
  cases dirs with
  | nil => simp [dropIdleEnd, hs.nonempty, Text.joined]
  | cons first others =>
      have hend : dropIdleEnd (others ++ [s]) = others ++ [s] :=
        dropIdleEnd_of_steps fun x hx => hall x (List.mem_cons_of_mem _ hx)
      have hothers : dropIdleEnd others = others :=
        dropIdleEnd_of_steps fun x hx => hdirs x (List.mem_cons_of_mem _ hx)
      have hbefore : (others ++ [s]).dropLast = others := List.dropLast_concat
      simp only [List.cons_append, hend, hbefore]
      cases others with
      | nil => simp [dropIdleEnd, (hdirs first List.mem_cons_self).nonempty, Text.joined_singleton]
      | cons second later =>
          simp only [List.cons_append, hothers]

/-! ## Joining -/

/-- A path that begins with a segment is relative. -/
theorem isAbsolute_joined (hne : parts ≠ []) (h : ∀ s ∈ parts, s ≠ "" ∧ '/' ∉ s.toList) :
    isAbsolute (Text.joined '/' parts) = false := by
  obtain ⟨s, rest, rfl⟩ := List.exists_cons_of_ne_nil hne
  obtain ⟨hs, hwhole⟩ := h s List.mem_cons_self
  obtain ⟨c, hc, hhead⟩ := Text.head?_joined '/' rest hs
  have hslash : c ≠ '/' := by
    rintro rfl
    exact hwhole hc
  simp [isAbsolute, hhead, hslash]

/-- A path of directories ends with the last of them. -/
theorem getLast?_joined (dirs : List String) (hs : IsStep s) :
    ∃ c, c ≠ '/' ∧ (Text.joined '/' (dirs ++ [s])).toList.getLast? = some c := by
  have hlast : (Text.joined '/' (dirs ++ [s])).toList.getLast? = s.toList.getLast? := by
    by_cases hdirs : dirs = []
    · rw [hdirs, List.nil_append, Text.joined_singleton]
    · rw [Text.joined_append hdirs (by simp), Text.joined_singleton, String.toList_append]
      exact List.getLast?_append_of_ne_nil _ hs.toList_ne_nil
  rw [hlast, List.getLast?_eq_some_getLast hs.toList_ne_nil]
  refine ⟨_, ?_, rfl⟩
  intro hslash
  exact hs.whole (hslash ▸ List.getLast_mem hs.toList_ne_nil)

/-- A relative path below some directories. -/
theorem join_joined (hdirs : ∀ s ∈ dirs, IsStep s) (hne : parts ≠ [])
    (hrelative : isAbsolute (Text.joined '/' parts) = false) :
    join (Text.joined '/' dirs) (Text.joined '/' parts) = Text.joined '/' (dirs ++ parts) := by
  rcases List.eq_nil_or_concat dirs with rfl | ⟨init, last, rfl⟩
  · simp [join, Text.joined]
  · obtain ⟨c, hc, hlast⟩ := getLast?_joined init (hdirs last (by simp))
    have hsome : (Text.joined '/' (init ++ [last])).toList.isEmpty = false := by
      cases hchars : (Text.joined '/' (init ++ [last])).toList with
      | nil => simp [hchars] at hlast
      | cons => rfl
    rw [Text.joined_append (by simp) hne]
    simp [join, hrelative, hsome, hlast, hc]

theorem join_step (hdirs : ∀ s ∈ dirs, IsStep s) (hs : IsStep s) :
    join (Text.joined '/' dirs) s = Text.joined '/' (dirs ++ [s]) := by
  have hrelative : isAbsolute (Text.joined '/' [s]) = false := by
    refine isAbsolute_joined (by simp) fun x hx => ?_
    obtain rfl := List.mem_singleton.mp hx
    exact ⟨hs.nonempty, hs.whole⟩
  have hjoin := join_joined hdirs (List.cons_ne_nil s []) hrelative
  rwa [Text.joined_singleton] at hjoin

/-! ## Walking -/

theorem walk_here : steps?.walk done ("." :: rest) = steps?.walk done rest := by
  rw [steps?.walk.eq_def]
  simp [isIdle]

theorem walk_step (h : IsStep s) : steps?.walk done (s :: rest) = steps?.walk (s :: done) rest := by
  rw [steps?.walk.eq_def]
  simp [h.isIdle_eq_false, h.up]

theorem walk_steps (h : ∀ s ∈ names, IsStep s) :
    steps?.walk done (names ++ rest) = steps?.walk (names.reverse ++ done) rest := by
  induction names generalizing done with
  | nil => rfl
  | cons s others ih =>
      rw [List.cons_append, walk_step (h s List.mem_cons_self),
        ih fun x hx => h x (List.mem_cons_of_mem _ hx), List.reverse_cons, List.append_assoc,
        List.singleton_append]

theorem walk_to_end (h : ∀ s ∈ names, IsStep s) :
    steps?.walk done names = some (done.reverse ++ names) := by
  have hwalk : steps?.walk done (names ++ []) = steps?.walk (names.reverse ++ done) [] :=
    walk_steps h
  rw [List.append_nil] at hwalk
  rw [hwalk, steps?.walk, List.reverse_append, List.reverse_reverse]

theorem walk_up (h : n ≤ done.length) :
    steps?.walk done (List.replicate n ".." ++ rest) = steps?.walk (done.drop n) rest := by
  induction n generalizing done with
  | zero => rfl
  | succ n ih =>
      cases done with
      | nil => simp at h
      | cons last before =>
          rw [List.replicate_succ, List.cons_append, steps?.walk.eq_def]
          simp only [isIdle]
          exact ih (by simpa using h)

/-- The steps that a specifier begins with: some steps up, or one that leads nowhere. -/
def hops (n : Nat) : List String := if n = 0 then ["."] else List.replicate n ".."

theorem mem_hops {s : String} (h : s ∈ hops n) : s ≠ "" ∧ '/' ∉ s.toList := by
  unfold hops at h
  split at h
  · obtain rfl := List.mem_singleton.mp h
    decide
  · obtain rfl := List.eq_of_mem_replicate h
    decide

theorem walk_hops (h : n ≤ done.length) :
    steps?.walk done (hops n ++ rest) = steps?.walk (done.drop n) rest := by
  unfold hops
  split
  · rename_i hzero
    rw [hzero, List.singleton_append, walk_here, List.drop_zero]
  · exact walk_up h

end Path

namespace ModulePath

variable {p q source target : ModulePath} {n : Nat}

/-! ## Files of modules -/

/-- A path with segments that are all names of steps. -/
structure Clean (p : ModulePath) : Prop where
  nonempty : p ≠ []
  steps : ∀ s ∈ p, Path.IsStep s

theorem Clean.dropLast (h : p.Clean) : ∀ s ∈ p.dropLast, Path.IsStep s :=
  fun s hs => h.steps s (List.dropLast_subset p hs)

/-- The segments of the file of a module: its last one gets an extension. -/
def fileSteps (p : ModulePath) : List String := p.dropLast ++ [p.getLast?.getD "" ++ ".ts"]

theorem Clean.fileSteps (h : p.Clean) : ∀ s ∈ p.fileSteps, Path.IsStep s := by
  intro s hs
  rcases List.mem_append.mp hs with hdir | hfile
  · exact h.dropLast s hdir
  · obtain rfl := List.mem_singleton.mp hfile
    rw [List.getLast?_eq_some_getLast h.nonempty]
    exact (h.steps _ (List.getLast_mem h.nonempty)).append_ts

theorem Clean.clean_fileSteps (h : p.Clean) : ModulePath.Clean p.fileSteps where
  nonempty := by simp [ModulePath.fileSteps]
  steps := h.fileSteps

@[simp] theorem dropLast_fileSteps (p : ModulePath) : p.fileSteps.dropLast = p.dropLast :=
  List.dropLast_concat

theorem foldl_join {dirs names : List String} (hdirs : ∀ s ∈ dirs, Path.IsStep s)
    (hnames : ∀ s ∈ names, Path.IsStep s) :
    names.foldl Path.join (Text.joined '/' dirs) = Text.joined '/' (dirs ++ names) := by
  induction names generalizing dirs with
  | nil => simp
  | cons s rest ih =>
      have hs : Path.IsStep s := hnames s List.mem_cons_self
      rw [List.foldl_cons, Path.join_step hdirs hs,
        ih ?_ fun x hx => hnames x (List.mem_cons_of_mem _ hx)]
      · rw [List.append_assoc, List.singleton_append]
      · intro x hx
        rcases List.mem_append.mp hx with hold | hnew
        · exact hdirs x hold
        · exact List.mem_singleton.mp hnew ▸ hs

/-- The file of a module is at its segments. -/
theorem file_eq_joined (h : p.Clean) : p.file = Text.joined '/' p.fileSteps := by
  have hlast := List.getLast?_eq_some_getLast h.nonempty
  have hname : Path.IsStep (p.getLast h.nonempty ++ ".ts") :=
    (h.steps _ (List.getLast_mem h.nonempty)).append_ts
  have hdirs : p.dropLast.foldl Path.join "" = Text.joined '/' p.dropLast :=
    foldl_join (fun s hs => absurd hs List.not_mem_nil) h.dropLast
  simp only [file, hlast, hdirs, Path.join_step h.dropLast hname, fileSteps, Option.getD_some]

theorem segments_file (h : p.Clean) : Text.segments '/' p.file = p.fileSteps := by
  rw [file_eq_joined h]
  exact Text.segments_joined (by simp [ModulePath.fileSteps]) fun s hs => (h.fileSteps s hs).whole

/-- Modules have files of their own. -/
theorem file_injective (hp : p.Clean) (hq : q.Clean) (h : p.file = q.file) : p = q := by
  have hsteps : p.fileSteps = q.fileSteps := by rw [← segments_file hp, ← segments_file hq, h]
  obtain ⟨hdirs, hlast⟩ := List.append_inj' hsteps rfl
  have hname : p.getLast?.getD "" = q.getLast?.getD "" := by simpa using hlast
  rw [List.getLast?_eq_some_getLast hp.nonempty, List.getLast?_eq_some_getLast hq.nonempty,
    Option.getD_some, Option.getD_some] at hname
  rw [← List.dropLast_append_getLast hp.nonempty, hdirs, hname,
    List.dropLast_append_getLast hq.nonempty]

/-! ## Specifiers -/

theorem commonLength_le (p q : ModulePath) :
    commonLength p q ≤ p.length ∧ commonLength p q ≤ q.length := by
  fun_induction commonLength p q with
  | case1 a p q ih => simp only [List.length_cons]; omega
  | case2 a p b q h => simp
  | case3 p q h => simp

/-- The common steps of two paths are the same. -/
theorem take_commonLength (p q : ModulePath) :
    p.take (commonLength p q) = q.take (commonLength p q) := by
  fun_induction commonLength p q with
  | case1 a p q ih => rw [List.take_succ_cons, List.take_succ_cons, ih]
  | case2 a p b q h => rfl
  | case3 p q h => rfl

theorem joined_append_ts (parts : List String) (s : String) :
    Text.joined '/' (parts ++ [s]) ++ ".ts" = Text.joined '/' (parts ++ [s ++ ".ts"]) := by
  by_cases hparts : parts = []
  · simp [hparts, Text.joined_singleton]
  · rw [Text.joined_append hparts (by simp), Text.joined_append hparts (by simp),
      Text.joined_singleton, Text.joined_singleton, String.append_assoc]

theorem joined_replicate_up {parts : List String} (hne : parts ≠ []) (n : Nat) :
    String.join (List.replicate n "../") ++ Text.joined '/' parts =
      Text.joined '/' (List.replicate n ".." ++ parts) := by
  induction n with
  | zero => simp [String.join]
  | succ n ih =>
      rw [List.replicate_succ, List.replicate_succ, List.cons_append, String.join_cons,
        String.append_assoc, ih, Text.joined_cons '/' ".." (by simp [hne])]
      rfl

/-- The segments from the directory of one module to a place: up to the last common directory, and down
from there. -/
def way (source target : ModulePath) : List String :=
  Path.hops (source.dropLast.length - commonLength source.dropLast target.dropLast) ++
    target.drop (commonLength source.dropLast target.dropLast)

theorem commonLength_dropLast_lt (source : ModulePath) (ht : target ≠ []) :
    commonLength source.dropLast target.dropLast < target.length := by
  have hle : commonLength source.dropLast target.dropLast ≤ target.dropLast.length :=
    (commonLength_le _ _).2
  have hpos : 0 < target.length := List.length_pos_iff.mpr ht
  rw [List.length_dropLast] at hle
  omega

theorem way_ne_nil (source : ModulePath) (ht : target ≠ []) : way source target ≠ [] :=
  List.append_ne_nil_of_right_ne_nil _ (by simpa using commonLength_dropLast_lt source ht)

theorem mem_way (ht : target.Clean) {s : String} (h : s ∈ way source target) :
    s ≠ "" ∧ '/' ∉ s.toList := by
  rcases List.mem_append.mp h with hhop | hdown
  · exact Path.mem_hops hhop
  · have hstep := ht.steps s (List.mem_of_mem_drop hdown)
    exact ⟨hstep.nonempty, hstep.whole⟩

/-- Whoever follows the way from the directory of a module ends at the place. -/
theorem walk_way (hs : source.Clean) (ht : target.Clean) :
    Path.steps?.walk [] (source.dropLast ++ way source target) = some target := by
  set common := commonLength source.dropLast target.dropLast with hcommon
  obtain ⟨hle, hle'⟩ := commonLength_le source.dropLast target.dropLast
  have hback : source.dropLast.length - (source.dropLast.length - common) = common := by omega
  -- the directories that are left after the steps up are the first ones of the place as well
  have hshared : source.dropLast.take common = target.take common := by
    have hcut : (target.dropLast ++ [target.getLast ht.nonempty]).take common =
        target.dropLast.take common := List.take_append_of_le_length hle'
    rw [List.dropLast_append_getLast] at hcut
    rw [hcut]
    exact take_commonLength _ _
  have hdown : ∀ s ∈ target.drop common, Path.IsStep s :=
    fun s hs => ht.steps s (List.mem_of_mem_drop hs)
  rw [Path.walk_steps hs.dropLast, way, ← hcommon, Path.walk_hops (by simp), List.append_nil,
    List.drop_reverse, hback, hshared, Path.walk_to_end hdown, List.reverse_reverse,
    List.take_append_drop]

/-- A specifier is the way to a place. -/
theorem specifier_eq_joined (source : ModulePath) (ht : target ≠ []) :
    source.specifier target = Text.joined '/' (way source target) := by
  have hdown : target.drop (commonLength source.dropLast target.dropLast) ≠ [] := by
    simpa using commonLength_dropLast_lt source ht
  unfold specifier way Path.hops
  dsimp only
  split
  · rw [List.singleton_append, Text.joined_cons '/' "." hdown]
    rfl
  · exact joined_replicate_up hdown _

/-- With the extension it is the specifier of the file. -/
theorem specifier_append_ts (source : ModulePath) (ht : target ≠ []) :
    source.specifier target ++ ".ts" = source.specifier target.fileSteps := by
  have hle : commonLength source.dropLast target.dropLast ≤ target.dropLast.length :=
    (commonLength_le _ _).2
  have hdown : target.drop (commonLength source.dropLast target.dropLast) =
      target.dropLast.drop (commonLength source.dropLast target.dropLast) ++ [target.getLast ht] := by
    rw [← List.drop_append_of_le_length hle, List.dropLast_append_getLast ht]
  have hfile : target.fileSteps = target.dropLast ++ [target.getLast ht ++ ".ts"] := by
    rw [fileSteps, List.getLast?_eq_some_getLast ht, Option.getD_some]
  unfold specifier
  dsimp only
  rw [dropLast_fileSteps, hfile, List.drop_append_of_le_length hle, hdown]
  split <;> rw [String.append_assoc, joined_append_ts]

/-- The directory of the file of a module. -/
theorem parent?_file (h : p.Clean) : Path.parent? p.file = some (Text.joined '/' p.dropLast) := by
  rw [file_eq_joined h, ModulePath.fileSteps]
  refine Path.parent?_joined h.dropLast (h.fileSteps _ ?_)
  exact List.mem_append_right _ (List.mem_singleton.mpr rfl)

/-- A specifier, followed from the directory of a module, leads to its target. -/
theorem steps?_specifier (hs : source.Clean) (ht : target.Clean) :
    Path.steps? (Path.join (Text.joined '/' source.dropLast) (source.specifier target)) =
      some target := by
  have hway : way source target ≠ [] := way_ne_nil source ht.nonempty
  have hne : source.dropLast ++ way source target ≠ [] := by simp [hway]
  have hsegments : ∀ s ∈ source.dropLast ++ way source target, s ≠ "" ∧ '/' ∉ s.toList := by
    intro s hmem
    rcases List.mem_append.mp hmem with hdir | hway
    · exact ⟨(hs.dropLast s hdir).nonempty, (hs.dropLast s hdir).whole⟩
    · exact mem_way ht hway
  rw [specifier_eq_joined source ht.nonempty, Path.join_joined hs.dropLast hway
      (Path.isAbsolute_joined hway fun s => mem_way ht), Path.steps?,
    Path.isAbsolute_joined hne hsegments, Text.segments_joined hne fun s hmem => (hsegments s hmem).2]
  exact walk_way hs ht

/-- A specifier leads from the file of one module to that of the other. -/
theorem linked?_specifier (hs : source.Clean) (ht : target.Clean) :
    Path.linked? source.file (source.specifier target) = some target.file := by
  rw [Path.linked?, parent?_file hs, specifier_append_ts source ht.nonempty]
  simp only [Option.bind_eq_bind, Option.bind_some]
  rw [steps?_specifier hs ht.clean_fileSteps, file_eq_joined ht]
  rfl

example : Path.linked? "a.b/c.ts" "../d.e/f" = some "d.e/f.ts" := by decide +kernel

end ModulePath

/-! ## The modules of types -/

variable {d : Descriptor} {package s : String} {depth : Nat}

/-- Joined segments of a package are a name of a step: they do not begin with a dot. -/
theorem Path.isStep_joined {parts : List String} (hne : parts ≠ [])
    (h : ∀ s ∈ parts, s ≠ "" ∧ '.' ∉ s.toList ∧ '/' ∉ s.toList) :
    Path.IsStep (Text.joined '.' parts) := by
  obtain ⟨s, rest, rfl⟩ := List.exists_cons_of_ne_nil hne
  obtain ⟨hs, hdot, _⟩ := h s List.mem_cons_self
  obtain ⟨c, hc, hhead⟩ := Text.head?_joined '.' rest hs
  have hfirst : (Text.joined '.' (s :: rest)).toList.head? ≠ some '.' := by
    rw [hhead]
    rintro heq
    exact hdot (Option.some.inj heq ▸ hc)
  refine ⟨?_, ?_, ?_, ?_⟩
  · intro heq
    simp [heq] at hhead
  · intro heq
    simp [heq] at hfirst
  · intro heq
    simp [heq] at hfirst
  · intro hslash
    rcases Text.mem_joined hslash with heq | ⟨x, hx, hmem⟩
    · exact absurd heq (by decide)
    · exact (h x hx).2.2 hmem

/-- A package whose name holds no slash becomes a module with a file of its own. -/
theorem Placement.clean_packagePath (h : '/' ∉ package.toList) :
    (packagePath depth package).Clean := by
  have hsegments : ∀ s ∈ (Text.segments '.' package).filter (· ≠ ""),
      s ≠ "" ∧ '.' ∉ s.toList ∧ '/' ∉ s.toList := by
    intro s hs
    obtain ⟨hmem, hne⟩ := List.mem_filter.mp hs
    refine ⟨by simpa using hne, ?_, ?_⟩
    · exact fun hdot => (Text.mem_of_mem_segments hmem hdot).2 rfl
    · exact fun hslash => h (Text.mem_of_mem_segments hmem hslash).1
  simp only [packagePath]
  split
  · refine ⟨by simp [ModulePath.global], ?_⟩
    intro s hs
    obtain rfl := List.mem_singleton.mp hs
    exact ⟨by decide, by decide, by decide, by decide⟩
  · rename_i hsome
    refine ⟨List.cons_ne_nil _ _, ?_⟩
    intro s hs
    rcases List.mem_cons.mp hs with rfl | hlater
    · refine Path.isStep_joined ?_ fun x hx => hsegments x (List.mem_of_mem_take hx)
      simpa using hsome
    · obtain ⟨hne, hdot, hslash⟩ := hsegments s (List.mem_of_mem_drop hlater)
      refine ⟨hne, ?_, ?_, hslash⟩
      · rintro rfl
        exact hdot (by decide)
      · rintro rfl
        exact hdot (by decide)

/-- The characters of a package are those of the name of the type. -/
theorem Descriptor.mem_of_mem_package {c : Char} (hc : c ∈ d.package.toList) :
    c = '.' ∨ c ∈ d.name.toList := by
  rcases Text.mem_joined hc with hdot | ⟨s, hs, hmem⟩
  · exact Or.inl hdot
  · exact Or.inr (Text.mem_of_mem_segments (List.dropLast_subset _ hs) hmem).1

/-- When modules are made of packages, a type whose name holds no slash belongs to a module with a file
of its own. -/
theorem Placement.clean_path (h : '/' ∉ d.name.toList) : ((byDepth depth).path d).Clean := by
  refine clean_packagePath fun hslash => ?_
  rcases Descriptor.mem_of_mem_package hslash with heq | hmem
  · exact absurd heq (by decide)
  · exact h hmem

end TypeGraph
