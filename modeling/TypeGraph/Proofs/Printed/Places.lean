import TypeGraph.Proofs.Command.Writing
import TypeGraph.Proofs.Printed.Emission
import TypeGraph.Proofs.Printed.Links
import TypeGraph.Proofs.Target.Assigner

/-!
# Where files go

Modules have files of their own, but a file may be in the place of a directory: the first segments of a
package are joined to one, which may end in `.ts` and look like the file of another module. That happens
for two packages just when the first has one segment less than are joined, and the second goes on from it
with the segment `ts` and more (`Placement.Covers`). So the files of a run can be written, in any order,
just when no package with declarations covers another one.
-/

namespace TypeGraph

/-! ## Packages -/

namespace Placement

variable {depth : Nat} {x y : String}

/-- The segments of a package, where one without segments is called `global`. -/
def named (package : String) : List String :=
  if parts package = [] then ["global"] else parts package

theorem named_ne_nil (package : String) : named package ≠ [] := by
  rw [named]
  split
  · simp
  · assumption

theorem not_mem_of_mem_named {s : String} (h : s ∈ named x) : '.' ∉ s.toList := by
  rw [named] at h
  split at h
  · obtain rfl := List.mem_singleton.mp h
    decide
  · exact (mem_parts h).2

/-- The path of a package: its first segments in one, and the others. -/
theorem packagePath_eq (depth : Nat) (package : String) : packagePath depth package =
    Text.joined '.' ((named package).take (max depth 1)) :: (named package).drop (max depth 1) := by
  by_cases hnil : parts package = []
  · have hdepth : 1 ≤ max depth 1 := Nat.le_max_right depth 1
    rw [packagePath_of_parts_nil hnil, named, if_pos hnil, List.take_of_length_le hdepth,
      List.drop_of_length_le hdepth, Text.joined_singleton]
    rfl
  · rw [packagePath_of_parts hnil, named, if_neg hnil]

/-- The file of one package is where another one needs a directory: the first has one segment less than
are joined, and the second goes on from it with `ts` and at least one more. -/
def Covers (depth : Nat) (x y : String) : Prop :=
  (named x).length + 1 = max depth 1 ∧ named x ++ ["ts"] <+: named y ∧ named x ++ ["ts"] ≠ named y

instance (depth : Nat) (x y : String) : Decidable (Covers depth x y) :=
  inferInstanceAs (Decidable (_ ∧ _))

/-- When the first segment is a module of its own, no package covers another. -/
theorem not_covers_of_le_one (h : depth ≤ 1) : ¬ Covers depth x y := by
  rintro ⟨hlength, _⟩
  have hpos : 0 < (named x).length := List.length_pos_iff.mpr (named_ne_nil x)
  omega

theorem joined_append_ts (parts : List String) (hne : parts ≠ []) :
    Text.joined '.' parts ++ ".ts" = Text.joined '.' (parts ++ ["ts"]) := by
  rw [Text.joined_append hne (by simp), Text.joined_singleton, String.append_assoc]
  rfl

/-- Joined segments tell the segments. -/
theorem eq_of_joined_eq {ss ts : List String} (hss : ss ≠ []) (hts : ts ≠ [])
    (hdots : ∀ s ∈ ss, '.' ∉ s.toList) (hdots' : ∀ s ∈ ts, '.' ∉ s.toList)
    (h : Text.joined '.' ss = Text.joined '.' ts) : ss = ts := by
  rw [← Text.segments_joined hss hdots, h, Text.segments_joined hts hdots']

/-- Covering, told by the paths of the packages. -/
theorem covers_iff : Covers depth x y ↔
    ∃ s rest, packagePath depth x = [s] ∧ packagePath depth y = (s ++ ".ts") :: rest ∧ rest ≠ [] := by
  have hjoined := joined_append_ts (named x) (named_ne_nil x)
  rw [packagePath_eq, packagePath_eq, Covers]
  generalize max depth 1 = n at *
  simp only [List.cons.injEq]
  constructor
  · rintro ⟨hlength, ⟨rest, hrest⟩, hne⟩
    have hlength' : (named x ++ ["ts"]).length = n := by simpa using hlength
    refine ⟨Text.joined '.' (named x), rest, ⟨?_, ?_⟩, ⟨?_, ?_⟩, ?_⟩
    · rw [List.take_of_length_le (by omega)]
    · exact List.drop_of_length_le (by omega)
    · rw [← hrest, List.take_left' hlength', hjoined]
    · rw [← hrest, List.drop_left' hlength']
    · rintro rfl
      exact hne (by simpa using hrest)
  · rintro ⟨s, rest, ⟨rfl, hend⟩, ⟨hfirst, rfl⟩, hne⟩
    have hle : (named x).length ≤ n := List.drop_eq_nil_iff.mp hend
    have hlt : n < (named y).length := by simpa using hne
    have hpos : 0 < n := (List.length_pos_iff.mpr (named_ne_nil x)).trans_le hle
    rw [List.take_of_length_le hle, hjoined] at hfirst
    -- the joined segments of the second package are those of the first one and `ts`
    have hsegments : (named y).take n = named x ++ ["ts"] := by
      refine eq_of_joined_eq ?_ (by simp) (fun s hs => not_mem_of_mem_named (List.mem_of_mem_take hs))
        ?_ hfirst
      · simp [named_ne_nil, hpos.ne']
      · intro s hs
        rcases List.mem_append.mp hs with hs | hts
        · exact not_mem_of_mem_named hs
        · obtain rfl := List.mem_singleton.mp hts
          decide
    have hlength : (named x ++ ["ts"]).length = n := by
      rw [← hsegments, List.length_take]
      omega
    refine ⟨by simpa using hlength, hsegments ▸ List.take_prefix n _, fun heq => ?_⟩
    rw [heq] at hlength
    omega

end Placement

/-! ## Files of modules -/

namespace ModulePath

variable {p q : ModulePath}

theorem Clean.plain_file (h : p.Clean) : Path.Plain p.file p.fileSteps where
  nonempty := h.clean_fileSteps.nonempty
  names := h.fileSteps
  joined := file_eq_joined h

theorem fileSteps_cons_cons (s s' : String) (rest : List String) :
    fileSteps (s :: s' :: rest) = s :: fileSteps (s' :: rest) := by
  simp [fileSteps]

/-- When a file is in the place of a directory of another, its name is among the segments above that. -/
theorem mem_dropLast_of_prefix (h : p.fileSteps <+: q.fileSteps) (hne : p.fileSteps ≠ q.fileSteps) :
    p.getLast?.getD "" ++ ".ts" ∈ q.dropLast := by
  have hdirs : p.fileSteps <+: q.dropLast := Path.begins_concat_iff.mpr ⟨h, hne⟩
  exact hdirs.subset (by simp [fileSteps])

theorem dot_mem_append_ts (s : String) : '.' ∈ (s ++ ".ts").toList := by
  simp

/-- A file is in the place of a directory of another just when it is at the top, and the other module is
below a directory with the name of the file. Segments below the first hold no dot. -/
theorem above_file_iff (hp : p.Clean) (hq : q.Clean) (hdots : ∀ s ∈ q.tail, '.' ∉ s.toList) :
    Path.Above p.file q.file ↔ ∃ s rest, p = [s] ∧ q = (s ++ ".ts") :: rest ∧ rest ≠ [] := by
  rw [hp.plain_file.above_iff hq.plain_file]
  constructor
  · rintro ⟨hbegins, hne⟩
    match p, q, hp.nonempty, hq.nonempty with
    | [s], [s'], _, _ => exact absurd (hbegins.eq_of_length rfl) hne
    | [s], s' :: next :: rest, _, _ =>
        rw [fileSteps_cons_cons] at hbegins
        obtain ⟨hsame, _⟩ := List.cons_prefix_cons.mp hbegins
        have hfirst : s ++ ".ts" = s' := hsame
        exact ⟨s, next :: rest, rfl, by rw [hfirst], by simp⟩
    | s :: next :: rest, [s'], _, _ =>
        have hle := hbegins.length_le
        simp [fileSteps] at hle
    | s :: next :: rest, s' :: next' :: rest', _, _ =>
        -- below the first segment there is none with an extension
        rw [fileSteps_cons_cons, fileSteps_cons_cons] at hbegins hne
        obtain ⟨rfl, hlater⟩ := List.cons_prefix_cons.mp hbegins
        have hmem := mem_dropLast_of_prefix hlater fun heq => hne (by rw [heq])
        exact absurd (dot_mem_append_ts _) (hdots _ (List.dropLast_subset _ hmem))
  · rintro ⟨s, rest, rfl, rfl, hrest⟩
    obtain ⟨next, later, rfl⟩ := List.exists_cons_of_ne_nil hrest
    rw [fileSteps_cons_cons]
    refine ⟨⟨fileSteps (next :: later), rfl⟩, fun heq => ?_⟩
    have hlater : [] = fileSteps (next :: later) := (List.cons.inj heq).2
    simp [fileSteps] at hlater

end ModulePath

/-- The file of one type is in the place of a directory of that of another just when its package covers
that of the other. -/
theorem Placement.above_path_iff {depth : Nat} {d d' : Descriptor} (hd : '/' ∉ d.name.toList)
    (hd' : '/' ∉ d'.name.toList) :
    Path.Above ((byDepth depth).path d).file ((byDepth depth).path d').file ↔
      Covers depth d.package d'.package := by
  rw [covers_iff]
  refine ModulePath.above_file_iff (clean_path hd) (clean_path hd') fun s hs => ?_
  have htail : ((byDepth depth).path d').tail = (named d'.package).drop (max depth 1) := by
    rw [path, packagePath_eq, List.tail_cons]
  rw [htail] at hs
  exact not_mem_of_mem_named (List.mem_of_mem_drop hs)

/-- The package of the type that a declaration is of. -/
def Declaration.package (e : Declaration) : String := Text.beforeLastSegment '.' e.source

namespace Printed

open Command (inDirectory writeAll)

variable {s : Setup} {discovery : Discovery} {outcome : Outcome} {depth : Nat} {f f' : File}
  {e e' : Declaration}

/-! ## Files of a run -/

/-- A file is at the path of the module of a declaration. -/
theorem exists_declaration_at {g : Graph} (h : g.Owned) (hf : f ∈ files g) :
    ∃ e ∈ g.table.declarations, f.path = ModulePath.file e.module := by
  obtain ⟨m, _, rfl, e, he, hmodule⟩ := exists_declaration_of_file h hf
  exact ⟨e, he, by rw [hmodule]⟩

section

variable (hplacement : s.placement = .byDepth depth)
  (hnames : ∀ d ∈ discovery.candidates ++ discovery.references, '/' ∉ d.name.toList)
  (h : s.run discovery = .ok outcome)

include hplacement hnames h

theorem exists_type_of_declaration (he : e ∈ outcome.graph.table.declarations) :
    ∃ d : Descriptor, '/' ∉ d.name.toList ∧ d.package = e.package ∧
      e.module = (Placement.byDepth depth).path d := by
  obtain ⟨d, hd, hname, hmodule⟩ := Setup.exists_type_of_run h he
  refine ⟨d, hnames d hd, ?_, hplacement ▸ hmodule⟩
  rw [Descriptor.package, hname, Declaration.package]

/-- Every module of a declaration has a file of its own. -/
theorem clean_module_of_run (he : e ∈ outcome.graph.table.declarations) :
    ModulePath.Clean e.module := by
  obtain ⟨d, hslash, _, hmodule⟩ := exists_type_of_declaration hplacement hnames h he
  exact hmodule ▸ Placement.clean_path hslash

theorem above_module_iff (he : e ∈ outcome.graph.table.declarations)
    (he' : e' ∈ outcome.graph.table.declarations) :
    Path.Above (ModulePath.file e.module) (ModulePath.file e'.module) ↔
      Placement.Covers depth e.package e'.package := by
  obtain ⟨d, hslash, hpackage, hmodule⟩ := exists_type_of_declaration hplacement hnames h he
  obtain ⟨d', hslash', hpackage', hmodule'⟩ := exists_type_of_declaration hplacement hnames h he'
  rw [hmodule, hmodule', ← hpackage, ← hpackage']
  exact Placement.above_path_iff hslash hslash'

theorem plain_of_run (hf : f ∈ files outcome.graph) : ∃ steps, Path.Plain f.path steps := by
  obtain ⟨e, he, hpath⟩ := exists_declaration_at (Setup.owned_of_run h) hf
  exact ⟨_, hpath ▸ (clean_module_of_run hplacement hnames h he).plain_file⟩

/-- Files have different paths. -/
theorem nodup_paths_of_run : ((files outcome.graph).map (·.path)).Nodup := by
  have howned := Setup.owned_of_run h
  have hfiles : (files outcome.graph).map (·.path) =
      ((printedModules outcome.graph).map (·.path)).map ModulePath.file := by
    rw [files, List.map_map, List.map_map]
    rfl
  have hclean : ∀ p ∈ (printedModules outcome.graph).map (·.path), ModulePath.Clean p := by
    intro p hp
    obtain ⟨m, hm, rfl⟩ := List.mem_map.mp hp
    obtain ⟨hm, hexports⟩ := mem_printedModules_iff.mp hm
    obtain ⟨e, he, hmodule⟩ := exists_declaration_of_names howned hm hexports
    exact hmodule ▸ clean_module_of_run hplacement hnames h he
  rw [hfiles]
  exact (nodup_paths_printedModules howned).map_on fun p hp q hq =>
    ModulePath.file_injective (hclean p hp) (hclean q hq)

/-- Some file is in the place of a directory of another one just when the package of some declaration
covers that of another one. -/
theorem above_of_run_iff : (∃ f ∈ files outcome.graph, ∃ f' ∈ files outcome.graph,
      Path.Above f.path f'.path) ↔
    ∃ e ∈ outcome.graph.table.declarations, ∃ e' ∈ outcome.graph.table.declarations,
      Placement.Covers depth e.package e'.package := by
  have howned := Setup.owned_of_run h
  constructor
  · rintro ⟨f, hf, f', hf', habove⟩
    obtain ⟨e, he, hpath⟩ := exists_declaration_at howned hf
    obtain ⟨e', he', hpath'⟩ := exists_declaration_at howned hf'
    rw [hpath, hpath'] at habove
    exact ⟨e, he, e', he', (above_module_iff hplacement hnames h he he').mp habove⟩
  · rintro ⟨e, he, e', he', hcovers⟩
    obtain ⟨m, _, hmodule, hf, _⟩ := exists_file howned he
    obtain ⟨m', _, hmodule', hf', _⟩ := exists_file howned he'
    refine ⟨_, hf, _, hf', ?_⟩
    show Path.Above m.path.file m'.path.file
    rw [hmodule, hmodule']
    exact (above_module_iff hplacement hnames h he he').mpr hcovers

/-- Where nothing is in the way before, the files of a run can be written, in any order, just when no
package with declarations covers another one. -/
theorem writeAll_of_run_iff {dirs : List String} {there : Files} {order : List File}
    (hdirs : ∀ step ∈ dirs, Path.IsStep step) (horder : order.Perm (files outcome.graph))
    (hfree : ∀ f ∈ files outcome.graph, ∀ e ∈ there.entries,
      ¬ Path.Clash e.1 (Path.join (Text.joined '/' dirs) f.path)) :
    writeAll there (order.map (inDirectory (Text.joined '/' dirs))) =
        (order.map (inDirectory (Text.joined '/' dirs)), none) ↔
      ∀ e ∈ outcome.graph.table.declarations, ∀ e' ∈ outcome.graph.table.declarations,
        ¬ Placement.Covers depth e.package e'.package := by
  have hplain : ∀ f ∈ order, ∃ steps, Path.Plain f.path steps :=
    fun f hf => plain_of_run hplacement hnames h (horder.mem_iff.mp hf)
  have hjoined : ∀ f ∈ order.map (inDirectory (Text.joined '/' dirs)),
      ∃ steps, Path.Plain f.path steps := by
    intro f hf
    obtain ⟨o, ho, rfl⟩ := List.mem_map.mp hf
    obtain ⟨_, hsteps⟩ := hplain o ho
    exact ⟨_, hsteps.join hdirs⟩
  -- the output directory is on all ways, and changes nothing between the files
  have habove : ∀ f ∈ order, ∀ f' ∈ order, (Path.Above (inDirectory (Text.joined '/' dirs) f).path
      (inDirectory (Text.joined '/' dirs) f').path ↔ Path.Above f.path f'.path) := by
    intro f hf f' hf'
    obtain ⟨_, hsteps⟩ := hplain f hf
    obtain ⟨_, hsteps'⟩ := hplain f' hf'
    exact Path.above_join_iff hdirs hsteps hsteps'
  have hcovers := not_congr (above_of_run_iff hplacement hnames h)
  simp only [not_exists, not_and] at hcovers
  rw [Command.writeAll_eq_iff hjoined, ← hcovers]
  simp only [List.forall_mem_map]
  constructor
  · rintro ⟨_, hno⟩ f hf f' hf' hf''
    have hf := horder.mem_iff.mpr hf
    have hf' := horder.mem_iff.mpr hf'
    exact hno f hf f' hf' ((habove f hf f' hf').mpr hf'')
  · intro hno
    refine ⟨fun f hf => hfree f (horder.mem_iff.mp hf), fun f hf f' hf' hf'' => ?_⟩
    exact hno f (horder.mem_iff.mp hf) f' (horder.mem_iff.mp hf') ((habove f hf f' hf').mp hf'')

/-- When the first segment of a package is a module of its own, the files of a run can always be written
where nothing is in the way before. -/
theorem writeAll_of_run_of_le_one (hdepth : depth ≤ 1) {dirs : List String} {there : Files}
    {order : List File} (hdirs : ∀ step ∈ dirs, Path.IsStep step)
    (horder : order.Perm (files outcome.graph))
    (hfree : ∀ f ∈ files outcome.graph, ∀ e ∈ there.entries,
      ¬ Path.Clash e.1 (Path.join (Text.joined '/' dirs) f.path)) :
    writeAll there (order.map (inDirectory (Text.joined '/' dirs))) =
      (order.map (inDirectory (Text.joined '/' dirs)), none) :=
  (writeAll_of_run_iff hplacement hnames h hdirs horder hfree).mpr fun _ _ _ _ =>
    Placement.not_covers_of_le_one hdepth

end

/-- When modules are made of packages, types of different modules have different files, and the file of one
is in the place of a directory of the other just when its package covers that of the other. So the files of
a run can all be written below any directory, in any order, just when no package with declarations covers
another one. Names of types hold no slash. -/
theorem writable_of_depth (depth : Nat) :
    (∀ d d' : Descriptor, '/' ∉ d.name.toList → '/' ∉ d'.name.toList →
      let p := (Placement.byDepth depth).path d
      let q := (Placement.byDepth depth).path d'
      (p.file = q.file ↔ p = q) ∧
        (Path.Above p.file q.file ↔ Placement.Covers depth d.package d'.package)) ∧
    ∀ (s : Setup) (discovery : Discovery) (outcome : Outcome), s.placement = .byDepth depth →
      (∀ d ∈ discovery.candidates ++ discovery.references, '/' ∉ d.name.toList) →
      s.run discovery = .ok outcome →
        ((files outcome.graph).map (·.path)).Nodup ∧
        ∀ (dirs : List String) (there : Files) (order : List File),
          (∀ step ∈ dirs, Path.IsStep step) → order.Perm (files outcome.graph) →
          (∀ f ∈ files outcome.graph, ∀ e ∈ there.entries,
            ¬ Path.Clash e.1 (Path.join (Text.joined '/' dirs) f.path)) →
          (writeAll there (order.map (inDirectory (Text.joined '/' dirs))) =
              (order.map (inDirectory (Text.joined '/' dirs)), none) ↔
            ∀ e ∈ outcome.graph.table.declarations, ∀ e' ∈ outcome.graph.table.declarations,
              ¬ Placement.Covers depth e.package e'.package) := by
  constructor
  · intro d d' hd hd'
    refine ⟨⟨fun hfile => ?_, fun hpath => by rw [hpath]⟩, Placement.above_path_iff hd hd'⟩
    exact ModulePath.file_injective (Placement.clean_path hd) (Placement.clean_path hd') hfile
  · intro s discovery outcome hplacement hnames h
    refine ⟨nodup_paths_of_run hplacement hnames h, fun dirs there order hdirs horder hfree => ?_⟩
    exact writeAll_of_run_iff hplacement hnames h hdirs horder hfree

/-- The files of the shop can be written below a new directory. A package `shop.ts.stock` would need a
directory in the place of one of them. -/
theorem writable_shop :
    (∃ outcome, shopSetup.run shopInput = .ok outcome ∧
      writeAll {} ((files outcome.graph).map (inDirectory "generated")) =
        ((files outcome.graph).map (inDirectory "generated"), none)) ∧
    (Path.Above "shop.ts" "shop.ts/stock.ts" ↔ Placement.Covers 2 "shop" "shop.ts.stock") := by
  constructor
  · obtain ⟨outcome, hrun, hno⟩ : ∃ outcome, shopSetup.run shopInput = .ok outcome ∧
        decide (∀ e ∈ outcome.graph.table.declarations, ∀ e' ∈ outcome.graph.table.declarations,
          ¬ Placement.Covers 2 e.package e'.package) = true := by
      refine exists_outcome_of_view ?_
      rw [Setup.run_eq, Setup.classified_eq_classify (by decide +kernel) (by decide +kernel)]
      decide +kernel
    rw [decide_eq_true_eq] at hno
    obtain ⟨_, hwrite⟩ := (writable_of_depth 2).2 shopSetup shopInput outcome rfl (by decide +kernel) hrun
    have hgenerated := hwrite ["generated"] {} (files outcome.graph) (by decide +kernel) (.refl _)
      (by simp)
    exact ⟨outcome, hrun, hgenerated.mpr hno⟩
  · exact ((writable_of_depth 2).1 { name := "shop.Order", kind := .classType }
      { name := "shop.ts.stock.Line", kind := .classType } (by decide +kernel) (by decide +kernel)).2

/-- When modules are created in the order of their paths, they are printed as they are. -/
theorem files_of_ascending {g : Graph}
    (h : g.modules.modules.Pairwise fun m m' => (!m'.path.before m.path) = true) :
    files g = (g.modules.modules.filter fun m => !m.names.isEmpty).map fun m =>
      ⟨m.path.file, moduleText g m⟩ := by
  rw [files, ModuleTree.sorted, List.mergeSort_of_pairwise h]

/-- Orders of a shop, and lines in a package that goes on with the segment `ts`. -/
def linesInput : Discovery := .ofTypes
  [{ name := "shop.Order", kind := .classType
     fields := [{ name := "id", type := .primitive .long }] },
   { name := "shop.ts.stock.Line", kind := .classType
     fields := [{ name := "count", type := .primitive .int }] }] ["shop"]

/-- Everything is a model. -/
def linesSetup : Setup :=
  { modelFilter := .acceptAll, restFilter := .rejectAll, nullability := .standard
    placement := .byDepth 2, converters := { model := some (.model false), rest := none }, custom := ∅ }

/-- The file of the orders is where the lines need a directory: it is written, and then the file of the
lines cannot be. -/
theorem not_writable_lines : ∃ outcome written, linesSetup.run linesInput = .ok outcome ∧
    (files outcome.graph).map (·.path) = ["shop.ts", "shop.ts/stock.ts"] ∧
    Path.Above "shop.ts" "shop.ts/stock.ts" ∧
    writeAll {} ((files outcome.graph).map (inDirectory "generated")) =
      (written, some ("generated/shop.ts", .file)) ∧
    written.map (·.path) = ["generated/shop.ts"] := by
  obtain ⟨outcome, hrun, hfacts⟩ : ∃ outcome, linesSetup.run linesInput = .ok outcome ∧
      (let printed := (outcome.graph.modules.modules.filter fun m => !m.names.isEmpty).map fun m =>
          (⟨m.path.file, moduleText outcome.graph m⟩ : File)
        let left := writeAll {} (printed.map (inDirectory "generated"))
        (decide (outcome.graph.modules.modules.Pairwise fun m m' => (!m'.path.before m.path) = true),
          printed.map (·.path), left.2, left.1.map (·.path))) =
        (true, ["shop.ts", "shop.ts/stock.ts"], some ("generated/shop.ts", .file),
          ["generated/shop.ts"]) := by
    refine exists_outcome_of_view ?_
    rw [Setup.run_eq, Setup.classified_eq_classify (by decide +kernel) (by decide +kernel)]
    decide +kernel
  simp only [Prod.mk.injEq, decide_eq_true_eq] at hfacts
  obtain ⟨hascending, hpaths, hobstacle, hwritten⟩ := hfacts
  rw [← files_of_ascending hascending] at hpaths hobstacle hwritten
  exact ⟨outcome, _, hrun, hpaths, ⟨["shop.ts"], ["shop.ts", "stock.ts"], by decide +kernel⟩,
    Prod.ext rfl hobstacle, hwritten⟩

end Printed

end TypeGraph
