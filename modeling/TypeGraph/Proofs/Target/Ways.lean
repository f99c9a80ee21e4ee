import TypeGraph.Proofs.Target.LinkedTree
import TypeGraph.Proofs.Target.Specifiers

/-!
# Ways between the files of a tree

From any module of a tree to any other there is a specifier: the steps up are never more than the
directories that there are, and the way down begins within the path (`specifier?_eq`). When the segments
of paths are names of steps, the specifier leads from the directory of the one file to the other file, and
it tells the module that it leads to (`specifiers_after`).
-/

namespace TypeGraph

/-- Where a relative path leads from the directory of a file; steps that lead nowhere or up are taken. -/
def Path.follow? (file relative : String) : Option String := do
  let directory ← parent? file
  let steps ← steps? (join directory relative)
  return Text.joined '/' steps

namespace ModulePath

variable {p q r : ModulePath}

theorem length_takeWhile_zip (p q : ModulePath) :
    ((p.zip q).takeWhile fun (a, b) => a == b).length = commonLength p q := by
  fun_induction commonLength p q with
  | case1 a p q ih => simp [ih]
  | case2 a p b q h => simp [h]
  | case3 p q h =>
      cases p with
      | nil => rfl
      | cons a p =>
          cases q with
          | nil => rfl
          | cons b q => exact absurd rfl (h a p b q rfl)

/-- A specifier leads to the file of its target, up to the extension. -/
theorem follow?_specifier (hp : p.Clean) (hq : q.Clean) :
    (Path.follow? p.file (p.specifier q)).map (· ++ ".ts") = some q.file := by
  have hfile : Text.joined '/' q ++ ".ts" = q.file := by
    rw [file_eq_joined hq, fileSteps, List.getLast?_eq_some_getLast hq.nonempty, Option.getD_some,
      ← joined_append_ts, List.dropLast_append_getLast]
  rw [Path.follow?, parent?_file hp]
  simp only [Option.bind_eq_bind, Option.bind_some]
  rw [steps?_specifier hp hq]
  exact congrArg some hfile

/-- From one module, specifiers are told apart by where they lead. -/
theorem specifier_inj (hp : p.Clean) (hq : q.Clean) (hr : r.Clean)
    (h : p.specifier q = p.specifier r) : q = r := by
  have hsteps := steps?_specifier hp hq
  rw [h, steps?_specifier hp hr] at hsteps
  exact (Option.some.inj hsteps).symm

end ModulePath

namespace LinkedTree

variable {t : LinkedTree} {p q : ModulePath} {i j : Nat}

/-- Between any two modules counts and slices are in range. -/
theorem specifier?_eq (hi : t.path? i = some p) (hj : t.path? j = some q) :
    t.specifier? i j = some (p.specifier q) := by
  obtain ⟨hups, hdown⟩ := ModulePath.commonLength_le p.dropLast q.dropLast
  have hdown' : ModulePath.commonLength p.dropLast q.dropLast ≤ q.length :=
    hdown.trans (by rw [List.length_dropLast]; omega)
  simp only [specifier?, hi, hj, Option.bind_eq_bind, Option.bind_some, take?, Nat.sub_le, if_true,
    ← List.dropLast_eq_take, ModulePath.length_takeWhile_zip, minus?, hups, drop?, hdown']
  rfl

/-- Between any two modules of a tree there is a specifier, whatever was done to the tree. When the
segments of their paths are names of steps, it leads from the directory of the one file to the other file,
up to the extension, and to a module with another number leads another specifier. -/
theorem specifiers_after (ops : List TreeOperation) (hi : (after ops).path? i = some p)
    (hj : (after ops).path? j = some q) :
    (after ops).specifier? i j = some (p.specifier q) ∧
      ((∀ s ∈ p, Path.IsStep s) → (∀ s ∈ q, Path.IsStep s) →
        (Path.follow? p.file (p.specifier q)).map (· ++ ".ts") = some q.file ∧
        ∀ k r, (after ops).path? k = some r → (∀ s ∈ r, Path.IsStep s) →
          ((after ops).specifier? i k = (after ops).specifier? i j ↔ k = j)) := by
  obtain ⟨hlinked, _⟩ := linked_after ops
  refine ⟨specifier?_eq hi hj, fun hp hq => ?_⟩
  have hclean : p.Clean := ⟨hlinked.path_ne_nil hi, hp⟩
  have hclean' : q.Clean := ⟨hlinked.path_ne_nil hj, hq⟩
  refine ⟨ModulePath.follow?_specifier hclean hclean', fun k r hk hr => ?_⟩
  have hclean'' : r.Clean := ⟨hlinked.path_ne_nil hk, hr⟩
  rw [specifier?_eq hi hj, specifier?_eq hi hk, Option.some.injEq]
  constructor
  · intro hsame
    obtain rfl := ModulePath.specifier_inj hclean hclean'' hclean' hsame
    exact hlinked.id_unique hk hj
  · rintro rfl
    rw [Option.some.inj (hk.symm.trans hj)]

/-- Two modules below one directory and one at the top: the way from the lowest to the top goes up twice,
and no other module is named in that way. -/
theorem specifiers_shop :
    let t := after [.ensure ["shop.web", "desk", "front"], .claim 2 "Clerk" "shop.web.desk.front.Clerk",
      .ensure ["shop.stock"]]
    t.path? 2 = some ["shop.web", "desk", "front"] ∧ t.path? 3 = some ["shop.stock"] ∧
      t.specifier? 2 3 = some "../../shop.stock" ∧
      (Path.follow? "shop.web/desk/front.ts" "../../shop.stock").map (· ++ ".ts") =
        some "shop.stock.ts" ∧
      (t.specifier? 2 1 = t.specifier? 2 3 ↔ 1 = 3) := by
  obtain ⟨hspecifier, hway⟩ := specifiers_after
    [.ensure ["shop.web", "desk", "front"], .claim 2 "Clerk" "shop.web.desk.front.Clerk",
      .ensure ["shop.stock"]] (i := 2) (j := 3) (p := ["shop.web", "desk", "front"])
    (q := ["shop.stock"]) (by decide +kernel) (by decide +kernel)
  obtain ⟨hfollow, hother⟩ := hway (by decide +kernel) (by decide +kernel)
  have hname : ModulePath.specifier ["shop.web", "desk", "front"] ["shop.stock"] = "../../shop.stock" := by
    decide +kernel
  have hfile : ModulePath.file ["shop.web", "desk", "front"] = "shop.web/desk/front.ts" := by
    decide +kernel
  have hfile' : ModulePath.file ["shop.stock"] = "shop.stock.ts" := by decide +kernel
  rw [hname] at hspecifier
  rw [hname, hfile, hfile'] at hfollow
  exact ⟨by decide +kernel, by decide +kernel, hspecifier, hfollow,
    hother 1 ["shop.web", "desk"] (by decide +kernel) (by decide +kernel)⟩

end LinkedTree

end TypeGraph
