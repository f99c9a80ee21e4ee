import TypeGraph.Printed.File
import TypeGraph.Proofs.Target.Parts

/-!
# What stands inside a printed text

The printed form of a part of a type stands inside that of the type, that of every type of a body inside
the printed declaration, and that of every declaration inside the text of its module. So what is said
about the printed form of a reference is said about the file.
-/

namespace TypeGraph.Printed

/-! ## Texts inside texts -/

/-- One text stands somewhere inside another. -/
def Inside (part whole : String) : Prop := ∃ before after, whole = before ++ part ++ after

namespace Inside

variable {a b c part whole sep : String} {parts : List String}

theorem refl (a : String) : Inside a a := ⟨"", "", by simp⟩

theorem append_left (h : Inside part whole) (a : String) : Inside part (a ++ whole) := by
  obtain ⟨before, after, rfl⟩ := h
  exact ⟨a ++ before, after, by simp only [String.append_assoc]⟩

theorem append_right (h : Inside part whole) (a : String) : Inside part (whole ++ a) := by
  obtain ⟨before, after, rfl⟩ := h
  exact ⟨before, after ++ a, by simp only [String.append_assoc]⟩

theorem trans (h : Inside a b) (h' : Inside b c) : Inside a c := by
  obtain ⟨before, after, rfl⟩ := h'
  exact (h.append_left before).append_right after

theorem join (h : part ∈ parts) : Inside part (String.join parts) := by
  induction parts with
  | nil => simp at h
  | cons first rest ih =>
      rw [String.join_cons]
      rcases List.mem_cons.mp h with rfl | hrest
      · exact (refl part).append_right _
      · exact (ih hrest).append_left first

theorem intercalate (h : part ∈ parts) : Inside part (sep.intercalate parts) := by
  induction parts with
  | nil => simp at h
  | cons first rest ih =>
      cases rest with
      | nil =>
          obtain rfl : part = first := by simpa using h
          rw [String.intercalate_singleton]
          exact refl part
      | cons second others =>
          rw [String.intercalate_cons_cons]
          rcases List.mem_cons.mp h with rfl | hrest
          · exact ((refl part).append_right sep).append_right _
          · exact (ih hrest).append_left _

end Inside

/-! ## Types and declarations -/

variable {naming : Naming} {r t : TypeExpr} {d : Declaration} {g : Graph} {m : Module}

theorem type_declared (source : String) :
    type naming (.declared source) = naming.declared source := rfl

theorem type_array (t : TypeExpr) : type naming (.array t) = type naming t ++ "[]" := rfl

theorem type_dictionary (t : TypeExpr) :
    type naming (.dictionary t) = "\x7b [key: string]: " ++ type naming t ++ " \x7d" := rfl

theorem type_generic (base : TypeExpr) (args : List TypeExpr) :
    type naming (.generic base args) =
      type naming base ++ "<" ++ String.intercalate ", " (args.map (type naming)) ++ ">" := by
  rw [← types_eq_map]
  rfl

/-- The printed form of a part stands inside that of the whole. -/
theorem inside_type (h : r.PartOf t) : Inside (type naming r) (type naming t) := by
  induction h with
  | self => exact .refl _
  | array _ ih =>
      rw [type_array]
      exact ih.append_right _
  | dictionary _ ih =>
      rw [type_dictionary]
      exact (ih.append_left _).append_right _
  | base _ ih =>
      rw [type_generic]
      exact ((ih.append_right _).append_right _).append_right _
  | @argument t base args hmem _ ih =>
      rw [type_generic]
      have harg : Inside (type naming r) (String.intercalate ", " (args.map (type naming))) :=
        ih.trans (Inside.intercalate (List.mem_map_of_mem hmem))
      exact (harg.append_left _).append_right _

theorem inside_param (p : Property) (form : ParamForm) :
    Inside (type naming p.type) (param naming p form) := by
  cases form with
  | optional => exact (Inside.refl _).append_left _
  | orUndefined => exact ((Inside.refl _).append_left _).append_right _
  | required => exact (Inside.refl _).append_left _

theorem inside_params {p : Property} {ps : List Property} (h : p ∈ ps) :
    Inside (type naming p.type) (params naming ps) := by
  obtain ⟨n, hn, rfl⟩ := List.getElem_of_mem h
  refine (inside_param ps[n] (paramForm (optionalFrom ps) n ps[n])).trans (Inside.intercalate ?_)
  refine List.mem_map.mpr ⟨(ps[n], paramForm (optionalFrom ps) n ps[n]), ?_, rfl⟩
  refine List.mem_map.mpr ⟨(ps[n], n), ?_, rfl⟩
  rw [List.mk_mem_zipIdx_iff_getElem?]
  exact List.getElem?_eq_getElem hn

theorem inside_property (p : Property) : Inside (type naming p.type) (property naming p) :=
  (((Inside.refl _).append_left _).append_right _).append_right _

theorem inside_method {s : Signature} (h : t ∈ s.params.map (·.type) ++ [s.returns]) :
    Inside (type naming t) (method naming s) := by
  rw [method, line]
  refine (Inside.append_right ?_ "\n").append_left _
  rcases List.mem_append.mp h with hparam | hreturns
  · obtain ⟨p, hp, rfl⟩ := List.mem_map.mp hparam
    exact ((((inside_params hp).append_left _).append_right _).append_right _).append_right _
  · obtain rfl : t = s.returns := by simpa using hreturns
    exact ((Inside.refl _).append_left _).append_right _

theorem inside_members {i : Interface}
    (h : t ∈ i.properties.map (·.type) ∨
      t ∈ i.methods.flatMap fun m => m.params.map (·.type) ++ [m.returns]) :
    Inside (type naming t) (members naming i) := by
  rcases h with hproperty | hmethod
  · obtain ⟨p, hp, rfl⟩ := List.mem_map.mp hproperty
    have hlisted : property naming p ∈ i.properties.map (property naming) := List.mem_map_of_mem hp
    exact (((inside_property p).trans (Inside.join hlisted)).append_right _).append_right _
  · obtain ⟨s, hs, hmem⟩ := List.mem_flatMap.mp hmethod
    exact ((inside_method hmem).trans (Inside.intercalate (List.mem_map_of_mem hs))).append_left _

/-- What stands in the members of an interface stands in its printed declaration. -/
theorem inside_declaration_of_members {i : Interface} {part : String} (hbody : d.body = .interface i)
    (h : Inside part (members naming i)) : Inside part (declaration naming d) := by
  rw [declaration, hbody]
  exact (h.append_left _).append_right _

/-- The printed form of every type of a body stands inside the printed declaration. -/
theorem inside_declaration (h : t ∈ d.body.types) : Inside (type naming t) (declaration naming d) := by
  cases hbody : d.body with
  | enum constants => simp [hbody, Body.types] at h
  | «alias» typeParams target =>
      obtain rfl : t = target := by simpa [hbody, Body.types] using h
      rw [declaration, hbody]
      exact (((Inside.refl _).append_left _).append_right _).append_right _
  | interface i =>
      rw [hbody, Body.types, List.append_assoc] at h
      rcases List.mem_append.mp h with hbase | hmember
      · rw [declaration, hbody]
        have hsome : i.bases.isEmpty = false := by
          cases hbases : i.bases with
          | nil => simp [hbases] at hbase
          | cons => rfl
        simp only [hsome, Bool.false_eq_true, if_false, line]
        have hprinted : Inside (type naming t)
            (" extends " ++ String.intercalate ", " (i.bases.map (type naming))) :=
          (Inside.intercalate (List.mem_map_of_mem hbase)).append_left _
        exact ((((hprinted.append_left _).append_right _).append_right _).append_right _).append_right _
      · exact inside_declaration_of_members hbody (inside_members (List.mem_append.mp hmember))

/-! ## What a declaration exports -/

/-- A text begins with the export of a name, by one of the keywords for declarations; the name is
followed by a blank or a bracket. -/
def Exports (name text : String) : Prop :=
  ∃ keyword ∈ ["enum", "type", "interface"], ∃ rest : String,
    text = "export " ++ keyword ++ " " ++ name ++ rest ∧
      (rest.toList.head? = some ' ' ∨ rest.toList.head? = some '<')

theorem head?_append {a b : String} {c : Char} (h : a.toList.head? = some c) :
    (a ++ b).toList.head? = some c := by
  rw [String.toList_append, List.head?_append, h]
  rfl

/-- After its type parameters a declaration goes on with a blank, or begins them with a bracket. -/
theorem head?_typeParamsClause (params : List String) {rest : String}
    (h : rest.toList.head? = some ' ') :
    (typeParamsClause params ++ rest).toList.head? = some ' ' ∨
      (typeParamsClause params ++ rest).toList.head? = some '<' := by
  unfold typeParamsClause
  split
  · rw [String.empty_append]
    exact Or.inl h
  · exact Or.inr (head?_append (head?_append (head?_append (by decide))))

/-- A printed declaration is the export of its name. -/
theorem exports_declaration (naming : Naming) (d : Declaration) :
    Exports d.name (declaration naming d) := by
  cases hbody : d.body with
  | enum constants =>
      have hkeyword : "export enum " = "export " ++ "enum" ++ " " := rfl
      refine ⟨"enum", by simp, " \x7b" ++ ("\n" ++ (String.join (constants.map fun c =>
        line (indent ++ c ++ " = '" ++ c ++ "',")) ++ line "\x7d")), ?_,
        Or.inl (head?_append (by decide))⟩
      rw [declaration, hbody]
      simp only [line, hkeyword, String.append_assoc]
  | «alias» typeParams target =>
      have hkeyword : "export type " = "export " ++ "type" ++ " " := rfl
      refine ⟨"type", by simp, typeParamsClause typeParams ++
        (" = " ++ (type naming target ++ (";" ++ "\n"))), ?_,
        head?_typeParamsClause _ (head?_append (by decide))⟩
      rw [declaration, hbody]
      simp only [line, hkeyword, String.append_assoc]
  | interface i =>
      have hkeyword : "export interface " = "export " ++ "interface" ++ " " := rfl
      refine ⟨"interface", by simp, typeParamsClause i.typeParams ++
        ((if i.bases.isEmpty then "" else
          " extends " ++ String.intercalate ", " (i.bases.map (type naming))) ++
        (" \x7b" ++ ("\n" ++ (members naming i ++ line "\x7d")))), ?_,
        head?_typeParamsClause _ ?_⟩
      · rw [declaration, hbody]
        simp only [line, hkeyword, String.append_assoc]
      · split
        · rw [String.empty_append]
          exact head?_append (by decide)
        · exact head?_append (head?_append (by decide))

/-! ## Modules -/

/-- The imports of a module. -/
def boundIn (g : Graph) (m : Module) : List Import := imports g m.path (g.declarationsOf m)

/-- What things are called in a module. -/
def namingOf (g : Graph) (m : Module) : Naming := namingIn g m.path (boundIn g m)

theorem moduleText_eq (g : Graph) (m : Module) :
    moduleText g m = header ++ importBlock (boundIn g m) ++
      String.join ((g.declarationsOf m).map fun d => "\n" ++ declaration (namingOf g m) d) := rfl

/-- The printed form of every type in a module stands in its text. -/
theorem inside_moduleText (hd : d ∈ g.declarationsOf m) (ht : t ∈ d.body.types) :
    Inside (type (namingOf g m) t) (moduleText g m) := by
  rw [moduleText_eq]
  have hprinted : Inside (type (namingOf g m) t) ("\n" ++ declaration (namingOf g m) d) :=
    (inside_declaration ht).append_left "\n"
  exact (hprinted.trans (Inside.join (List.mem_map.mpr ⟨d, hd, rfl⟩))).append_left _

end TypeGraph.Printed
