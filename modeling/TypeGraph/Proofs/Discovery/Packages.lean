import TypeGraph.Discovery.Partition
import TypeGraph.Proofs.Text.Segments

/-!
# Names in packages

A name lies in a package when it goes on behind it with a dot. That is so exactly when the segments of the
package come first among those of the name and are not all of them (`inPackage_iff`), whatever dots there
are: a package is never part of a segment, and what lies in a package lies in all packages around it.
-/

namespace TypeGraph

open Text (segments joined)

variable {name package inner outer text : String} {types : List Descriptor}
  {packages packages' : List String}

/-! ## Names in packages -/

theorem inPackage_iff_exists : inPackage name package = true ↔ ∃ rest, name = package ++ "." ++ rest := by
  unfold inPackage
  rw [List.isPrefixOf_iff_prefix]
  constructor
  · rintro ⟨rest, hrest⟩
    refine ⟨String.ofList rest, ?_⟩
    rw [← String.toList_inj, ← hrest]
    simp
  · rintro ⟨rest, rfl⟩
    refine ⟨rest.toList, ?_⟩
    simp

/-- A name lies in a package when its segments begin with those of the package and there are more. -/
theorem inPackage_iff : inPackage name package = true ↔
    segments '.' package <+: segments '.' name ∧ segments '.' package ≠ segments '.' name := by
  rw [inPackage_iff_exists]
  constructor
  · rintro ⟨rest, rfl⟩
    have hsplit : segments '.' (package ++ "." ++ rest) = segments '.' package ++ segments '.' rest :=
      Text.segments_append '.' package rest
    rw [hsplit]
    refine ⟨List.prefix_append _ _, ?_⟩
    intro hsame
    exact Text.segments_ne_nil '.' rest (List.self_eq_append_right.mp hsame)
  · rintro ⟨⟨more, hmore⟩, hne⟩
    have hmorene : more ≠ [] := by
      rintro rfl
      rw [List.append_nil] at hmore
      exact hne hmore
    refine ⟨joined '.' more, ?_⟩
    -- both are joined from their segments
    rw [← Text.joined_segments '.' name, ← hmore,
      Text.joined_append (Text.segments_ne_nil '.' package) hmorene, Text.joined_segments]
    rfl

theorem inPackages_iff : inPackages name packages = true ↔ ∃ package ∈ packages,
    segments '.' package <+: segments '.' name ∧ segments '.' package ≠ segments '.' name := by
  unfold inPackages
  rw [List.any_eq_true]
  constructor
  · rintro ⟨package, hmem, hin⟩
    exact ⟨package, hmem, inPackage_iff.mp hin⟩
  · rintro ⟨package, hmem, hsegments⟩
    exact ⟨package, hmem, inPackage_iff.mpr hsegments⟩

/-- A name that goes on behind a package without a dot does not lie in it. -/
theorem inPackage_append_of_ne (h : text.toList.head? ≠ some '.') :
    inPackage (package ++ text) package = false := by
  rw [Bool.eq_false_iff]
  intro hin
  obtain ⟨rest, hrest⟩ := inPackage_iff_exists.mp hin
  rw [String.append_assoc, String.append_right_inj] at hrest
  apply h
  rw [hrest]
  simp

/-- What lies in a package lies in every package around it. -/
theorem inPackage_of_around (h : segments '.' outer <+: segments '.' inner)
    (hin : inPackage name inner = true) : inPackage name outer = true := by
  obtain ⟨hbegins, hne⟩ := inPackage_iff.mp hin
  apply inPackage_iff.mpr
  refine ⟨h.trans hbegins, ?_⟩
  intro hsame
  apply hne
  apply hbegins.eq_of_length_le
  rw [← hsame]
  exact h.length_le

/-- A name lies in one of some packages when its segments begin with those of one of them and there are
more. A package is never part of a segment, and what lies in it lies in all packages around it. -/
theorem inPackages_segmentwise (name : String) (packages : List String) :
    (inPackages name packages = true ↔ ∃ package ∈ packages,
      segments '.' package <+: segments '.' name ∧ segments '.' package ≠ segments '.' name) ∧
      (∀ package text : String, text.toList.head? ≠ some '.' →
        inPackages (package ++ text) [package] = false) ∧
      ∀ inner outer : String, segments '.' outer <+: segments '.' inner →
        inPackages name [inner] = true → inPackages name [outer] = true := by
  have hsingle : ∀ name package : String, inPackages name [package] = inPackage name package := by
    intro name package
    unfold inPackages
    rw [List.any_cons, List.any_nil, Bool.or_false]
  refine ⟨inPackages_iff, ?_, ?_⟩
  · intro package text h
    rw [hsingle]
    exact inPackage_append_of_ne h
  · intro inner outer h hin
    rw [hsingle] at hin ⊢
    exact inPackage_of_around h hin

/-- Segments may be empty, also those of a package. -/
example : inPackages ".shop.Order" [""] = true ∧ inPackages "shop.Order" [""] = false ∧
    inPackages "shop..Order" ["shop."] = true ∧ inPackages "shop.Order" ["shop."] = false := by decide

/-! ## Candidates -/

/-- Packages around those that were asked for have the same candidates and maybe more, in the same order. -/
theorem candidates_sublist_of_around
    (h : ∀ inner ∈ packages, ∃ outer ∈ packages', segments '.' outer <+: segments '.' inner) :
    (Discovery.ofTypes types packages).candidates.Sublist (Discovery.ofTypes types packages').candidates := by
  apply List.monotone_filter_right
  intro d hd
  obtain ⟨inner, hinner, hin⟩ := List.any_eq_true.mp hd
  obtain ⟨outer, houter, haround⟩ := h inner hinner
  exact List.any_eq_true.mpr ⟨outer, houter, inPackage_of_around haround hin⟩

end TypeGraph
