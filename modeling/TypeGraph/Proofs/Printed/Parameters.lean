import Mathlib.Data.List.DropRight
import TypeGraph.Proofs.Printed.Parts

/-!
# Parameters of methods

From one position on, all parameters of a method may be left out (`OptionalFrom`); there is one such
position for every list of parameters. The printed parameters are those of the list in order: from that
position on with a question mark, and before it with `undefined` where they may be absent
(`params_eq`). So no parameter that may be left out stands before one that has to be given, and whether
a parameter may be absent can be told from the printed text (`nullable_of_params`).
-/

namespace TypeGraph.Printed

variable {naming : Naming} {ps qs : List Property} {p : Property} {k l : Nat}

/-! ## The first parameter that may be left out -/

/-- The parameters from a position on may be left out. -/
structure OptionalFrom (ps : List Property) (k : Nat) : Prop where
  le : k ≤ ps.length
  /-- They all may be absent, -/
  nullable : ∀ i (h : i < ps.length), k ≤ i → ps[i].nullable = true
  /-- and the one before them may not. -/
  required : ∀ i (h : i < ps.length), i + 1 = k → ps[i].nullable = false

theorem OptionalFrom.le_of (hk : OptionalFrom ps k) (hl : OptionalFrom ps l) : k ≤ l := by
  by_contra hlt
  -- otherwise the parameter before the first position comes after the second one
  have hbefore : k - 1 < ps.length := by
    have hle := hk.le
    omega
  have hrequired := hk.required (k - 1) hbefore (by omega)
  have hnullable := hl.nullable (k - 1) hbefore (by omega)
  rw [hrequired] at hnullable
  exact Bool.false_ne_true hnullable

theorem OptionalFrom.unique (hk : OptionalFrom ps k) (hl : OptionalFrom ps l) : k = l :=
  Nat.le_antisymm (hk.le_of hl) (hl.le_of hk)

/-- The parameters at the end that may be absent are no more than there are. -/
theorem optionalFrom_add (ps : List Property) :
    optionalFrom ps + (ps.reverse.takeWhile (·.nullable)).length = ps.length := by
  have hle := (List.takeWhile_prefix (·.nullable) (l := ps.reverse)).length_le
  rw [List.length_reverse] at hle
  unfold optionalFrom
  omega

theorem length_rdropWhile_nullable (ps : List Property) :
    (ps.rdropWhile (·.nullable)).length = optionalFrom ps := by
  have hsplit := congrArg List.length (List.rdropWhile_append_rtakeWhile (p := (·.nullable)) (l := ps))
  have hadd := optionalFrom_add ps
  rw [List.length_append, List.rtakeWhile, List.length_reverse] at hsplit
  omega

/-- Counting from the end finds the position from which on parameters may be left out. -/
theorem optionalFrom_spec (ps : List Property) : OptionalFrom ps (optionalFrom ps) := by
  have hlength := length_rdropWhile_nullable ps
  have hget : ∀ i (h : i < ps.length),
      (ps.rdropWhile (·.nullable) ++ ps.rtakeWhile (·.nullable))[i]? = some ps[i] := by
    intro i hi
    rw [List.rdropWhile_append_rtakeWhile]
    exact List.getElem?_eq_getElem hi
  refine ⟨?_, ?_, ?_⟩
  · have hadd := optionalFrom_add ps
    omega
  · intro i hi hle
    have hmem := hget i hi
    rw [List.getElem?_append_right (by omega)] at hmem
    exact List.mem_rtakeWhile_imp (List.mem_of_getElem? hmem)
  · intro i hi hnext
    have hlast := hget i hi
    rw [List.getElem?_append_left (by omega)] at hlast
    have hne : ps.rdropWhile (·.nullable) ≠ [] := by
      intro hnil
      rw [hnil] at hlength
      simp only [List.length_nil] at hlength
      omega
    have hnot := List.rdropWhile_last_not (·.nullable) ps hne
    -- the last of those that are left is the one in front of the position
    rw [List.getLast_eq_getElem] at hnot
    have hindex : (ps.rdropWhile (·.nullable)).length - 1 = i := by omega
    simp only [hindex] at hnot
    rw [List.getElem?_eq_getElem (by omega), Option.some_inj] at hlast
    rw [← hlast]
    simpa using hnot

/-! ## Printed parameters -/

/-- A printed parameter among those that may be left out from a position on. -/
def paramAt (naming : Naming) (k : Nat) (p : Property) (i : Nat) : String :=
  p.name ++ (if k ≤ i then "?" else "") ++ ": " ++ type naming p.type ++
    (if i < k ∧ p.nullable = true then " | undefined" else "")

theorem param_paramForm (i : Nat) : param naming p (paramForm k i p) = paramAt naming k p i := by
  unfold paramForm paramAt
  by_cases hle : k ≤ i
  · have hlt : ¬ i < k := by omega
    simp [param, hle, hlt, String.append_assoc]
  · have hlt : i < k := by omega
    cases hnullable : p.nullable with
    | true => simp [param, hle, hlt, String.append_assoc]
    | false => simp [param, hle, String.append_assoc]

/-- All parameters are printed in order. -/
theorem params_eq (naming : Naming) (ps : List Property) : params naming ps =
    String.intercalate ", " (ps.zipIdx.map fun (p, i) => paramAt naming (optionalFrom ps) p i) := by
  unfold params paramForms
  rw [List.map_map]
  congr 1
  apply List.map_congr_left
  intro x _
  exact param_paramForm x.2

/-! ## Reading printed parameters -/

/-- What follows a parameter in a list: nothing, or a comma and the next ones. -/
def followedBy : List String → String
  | [] => ""
  | next :: others => ", " ++ String.intercalate ", " (next :: others)

theorem intercalate_cons (first : String) (rest : List String) :
    String.intercalate ", " (first :: rest) = first ++ followedBy rest := by
  cases rest with
  | nil => rw [String.intercalate_singleton, followedBy, String.append_empty]
  | cons next others => rw [String.intercalate_cons_cons, followedBy, String.append_assoc]

theorem head?_followedBy (rest : List String) : ∀ c ∈ (followedBy rest).toList.head?, c = ',' := by
  cases rest with
  | nil => simp [followedBy]
  | cons next others => simp [followedBy]

/-- The form of a parameter of known name and type can be told from its text, in a list as well. -/
theorem param_append_inj {f g : ParamForm} {xs ys : List String}
    (h : param naming p f ++ followedBy xs = param naming p g ++ followedBy ys) :
    f = g ∧ followedBy xs = followedBy ys := by
  have hblank : ∀ {zs : List String} {s : String}, " | undefined" ++ s ≠ followedBy zs := by
    intro zs s heq
    have hcomma := head?_followedBy zs ' '
    rw [← heq] at hcomma
    exact absurd (hcomma (by simp)) (by decide)
  have hmark : ∀ {s t : String}, "?: " ++ s ≠ ": " ++ t := by
    intro s t heq
    have hhead := congrArg (fun text => text.toList.head?) heq
    simp at hhead
  cases f <;> cases g <;> simp only [param, String.append_assoc, String.append_right_inj] at h
  case optional.optional => exact ⟨rfl, h⟩
  case orUndefined.orUndefined => exact ⟨rfl, h⟩
  case required.required => exact ⟨rfl, h⟩
  case optional.orUndefined => exact absurd h hmark
  case optional.required => exact absurd h hmark
  case orUndefined.optional => exact absurd h.symm hmark
  case required.optional => exact absurd h.symm hmark
  case orUndefined.required => exact absurd h hblank
  case required.orUndefined => exact absurd h.symm hblank

/-- Parameters with their forms as they are printed. -/
def formed (naming : Naming) (xs : List (Property × ParamForm)) : List String :=
  xs.map fun (p, form) => param naming p form

/-- The name and the type of a parameter. -/
def nameAndType (p : Property) : String × TypeExpr := (p.name, p.type)

theorem param_congr {q : Property} (h : nameAndType p = nameAndType q) (f : ParamForm) :
    param naming p f = param naming q f := by
  obtain ⟨hname, htype⟩ := Prod.mk.inj h
  cases f <;> simp only [param, hname, htype]

theorem forms_of_text {xs ys : List (Property × ParamForm)}
    (hsame : xs.map (nameAndType ·.1) = ys.map (nameAndType ·.1))
    (h : String.intercalate ", " (formed naming xs) = String.intercalate ", " (formed naming ys)) :
    xs.map (·.2) = ys.map (·.2) := by
  induction xs generalizing ys with
  | nil =>
      cases ys with
      | nil => rfl
      | cons => simp at hsame
  | cons x xs ih =>
      cases ys with
      | nil => simp at hsame
      | cons y ys =>
          obtain ⟨p, f⟩ := x
          obtain ⟨q, g⟩ := y
          obtain ⟨hfirst, hrest⟩ := List.cons.inj hsame
          have hsplit : param naming p f ++ followedBy (formed naming xs) =
              param naming p g ++ followedBy (formed naming ys) := by
            rw [param_congr hfirst g, ← intercalate_cons, ← intercalate_cons]
            exact h
          obtain ⟨rfl, hlater⟩ := param_append_inj hsplit
          have hforms : xs.map (·.2) = ys.map (·.2) := by
            apply ih hrest
            cases xs with
            | nil =>
                obtain rfl : ys = [] := by simpa using hrest.symm
                rfl
            | cons x xs =>
                cases ys with
                | nil => simp at hrest
                | cons y ys => exact (String.append_right_inj _).mp hlater
          rw [List.map_cons, List.map_cons, hforms]

/-- Every parameter has a form, and they stay in order. -/
theorem map_fst_paramForms (ps : List Property) : (paramForms ps).map (·.1) = ps := by
  unfold paramForms
  rw [List.map_map]
  exact List.zipIdx_map_fst 0 ps

theorem paramForm_eq_required_iff {i : Nat} (h : k ≤ i → p.nullable = true) :
    paramForm k i p = .required ↔ p.nullable = false := by
  unfold paramForm
  by_cases hle : k ≤ i
  · simp [hle, h hle]
  · simp [hle]

/-- The parameters that are printed as ones that have to be given are those that may not be absent. -/
theorem required_iff_of_mem {form : ParamForm} (h : (p, form) ∈ paramForms ps) :
    form = .required ↔ p.nullable = false := by
  obtain ⟨⟨q, i⟩, hq, heq⟩ := List.mem_map.mp h
  obtain ⟨rfl, rfl⟩ := Prod.mk.inj heq
  obtain ⟨hi, rfl⟩ := List.getElem?_eq_some_iff.mp (List.mk_mem_zipIdx_iff_getElem?.mp hq)
  exact paramForm_eq_required_iff ((optionalFrom_spec ps).nullable i hi)

theorem map_nullable_eq (ps : List Property) :
    ps.map (·.nullable) = ((paramForms ps).map (·.2)).map fun form => decide (form ≠ .required) := by
  have hforms : (paramForms ps).map (fun x => x.1.nullable) =
      (paramForms ps).map fun x => decide (x.2 ≠ .required) := by
    apply List.map_congr_left
    rintro ⟨p, form⟩ hp
    have hiff := required_iff_of_mem hp
    cases hnullable : p.nullable <;> simp [hiff, hnullable]
  have hfst := congrArg (List.map (·.nullable)) (map_fst_paramForms ps)
  rw [List.map_map] at hfst ⊢
  exact hfst.symm.trans hforms

/-- Whether parameters of known names and types may be absent can be told from their text. -/
theorem nullable_of_params (hsame : qs.map nameAndType = ps.map nameAndType)
    (h : params naming qs = params naming ps) : qs.map (·.nullable) = ps.map (·.nullable) := by
  have hnames : ∀ rs : List Property, (paramForms rs).map (nameAndType ·.1) = rs.map nameAndType := by
    intro rs
    have hfst := congrArg (List.map nameAndType) (map_fst_paramForms rs)
    rw [List.map_map] at hfst
    exact hfst
  have htext : String.intercalate ", " (formed naming (paramForms qs)) =
      String.intercalate ", " (formed naming (paramForms ps)) := h
  have hforms : (paramForms qs).map (·.2) = (paramForms ps).map (·.2) := by
    apply forms_of_text _ htext
    rw [hnames, hnames, hsame]
  rw [map_nullable_eq, map_nullable_eq, hforms]

/-- Parameters are printed in order, each with its name and its type. From one position on, and from no
other one, they may be left out, and are printed so; before it they are printed with `undefined` where they
may be absent. So whether they may be absent can be told from the text. -/
theorem params_faithful (naming : Naming) (ps : List Property) :
    ∃ k, OptionalFrom ps k ∧ (∀ l, OptionalFrom ps l → l = k) ∧
      k + (ps.reverse.takeWhile (·.nullable)).length = ps.length ∧
      params naming ps =
        String.intercalate ", " (ps.zipIdx.map fun (p, i) => paramAt naming k p i) ∧
      ∀ qs : List Property, qs.map nameAndType = ps.map nameAndType →
        params naming qs = params naming ps → qs.map (·.nullable) = ps.map (·.nullable) := by
  refine ⟨optionalFrom ps, optionalFrom_spec ps, ?_, optionalFrom_add ps, params_eq naming ps, ?_⟩
  · intro l hl
    exact hl.unique (optionalFrom_spec ps)
  · intro qs hsame heq
    exact nullable_of_params hsame heq

end TypeGraph.Printed
