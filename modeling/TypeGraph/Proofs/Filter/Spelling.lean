import TypeGraph.Filter.Reading
import TypeGraph.Proofs.Source.Spelling

/-!
# Filters are read back as they were written

A filter is written with all that it consists of, and its reader finds it again, on its own and inside
another one. The filters inside an "and", "or" or "not" are read more leniently than the outermost one:
their tags may be numbers, and a kind of markers may have an idle value. Neither is ever written. Where a
document has no `null`, the integers in a filter are looked at first, and nothing is said of that here.
-/

namespace TypeGraph

open Json (Is Items Reads)

/-- A kind of markers is read back inside a filter, also one that has a name of its own. -/
theorem MarkerKind.ofJson_written (kind : MarkerKind) : ofJson .tagged kind.toJson = .ok kind := by
  cases kind <;> rfl

namespace Filter

variable {manner : Json.Manner}

/-! ## Conditions -/

/-- The filters without details. -/
theorem ofJson_bare (hmanner : manner ≠ .withoutNull) {f : FilterSpec} {label : String}
    (h : (label, f) ∈ [("reject_all", .rejectAll), ("accept_all", .acceptAll)]) :
    ofJson manner (.taggedOf "type" label []) = .ok f := by
  rw [ofJson, if_neg fun hno => hmanner hno.1]
  refine Json.bind_asTagged (by simp) fun tagged hholds => ?_
  have hsettle : (tagged.form "" []).settle [] = .ok () := (hholds.form "" []).settle (by simp)
  have hreject : Json.variantNamed Tag.all "reject_all" = .ok .rejectAll := rfl
  have haccept : Json.variantNamed Tag.all "accept_all" = .ok .acceptAll := rfl
  simp only [List.mem_cons, Prod.mk.injEq, List.not_mem_nil, or_false] at h
  rcases h with ⟨rfl, rfl⟩ | ⟨rfl, rfl⟩
  · simp only [hholds.variant, hreject, hsettle, bind, Except.bind, pure, Except.pure]
  · simp only [hholds.variant, haccept, hsettle, bind, Except.bind, pure, Except.pure]

theorem ofJson_typeSet (hmanner : manner ≠ .withoutNull) {names : List String} {v : Json}
    (h : Items (Is .text) names (some v)) :
    ofJson manner (.taggedOf "type" "type_set" [("names", some v)]) = .ok (.typeSet names) := by
  rw [ofJson, if_neg fun hno => hmanner hno.1]
  refine Json.bind_asTagged (by simp) fun tagged hholds => ?_
  have hform := hholds.form "FilterSpec::TypeSet" ["names"]
  have hread : Reads (Json.listOf Json.asText) none (some v) names := reads_texts h
  have hnames := hform.gives "names" hread
  have hvariant : Json.variantNamed Tag.all "type_set" = .ok .typeSet := rfl
  simp only [hholds.variant, hvariant, bind, Except.bind]
  rw [hform.settle (by simp [hnames.fault?])]
  simp only [hnames.required, pure, Except.pure]

theorem ofJson_hasMarker (hmanner : manner ≠ .withoutNull) (kind : MarkerKind) :
    ofJson manner (.taggedOf "type" "has_marker" [("marker", some kind.toJson)]) =
      .ok (.hasMarker kind) := by
  rw [ofJson, if_neg fun hno => hmanner hno.1]
  refine Json.bind_asTagged (by simp) fun tagged hholds => ?_
  have hform := hholds.form "FilterSpec::HasMarker" ["marker"]
  have hread : Reads (MarkerKind.ofJson .tagged) none (some kind.toJson) kind := kind.ofJson_written
  have hmarker := hform.gives "marker" hread
  have hvariant : Json.variantNamed Tag.all "has_marker" = .ok .hasMarker := rfl
  simp only [hholds.variant, hvariant, bind, Except.bind]
  rw [hform.settle (by simp [hmarker.fault?])]
  simp only [hmarker.required, pure, Except.pure]

/-- The filters that consist of one text. -/
theorem ofJson_text (hmanner : manner ≠ .withoutNull) {f : FilterSpec} {label name text : String}
    (h : (label, name, f) ∈ [("extends", "base", .subtypeOf text),
      ("name_contains", "text", .nameContains text), ("regex", "pattern", .pattern text)]) :
    ofJson manner (.taggedOf "type" label [(name, some (.text text))]) = .ok f := by
  rw [ofJson, if_neg fun hno => hmanner hno.1]
  simp only [List.mem_cons, Prod.mk.injEq, List.not_mem_nil, or_false] at h
  have hne : "type" ≠ name := by
    rcases h with ⟨_, rfl, _⟩ | ⟨_, rfl, _⟩ | ⟨_, rfl, _⟩ <;> decide
  refine Json.bind_asTagged (by simp [hne]) fun tagged hholds => ?_
  have htext (variant names) : ((tagged.form variant names).get name Json.asText).Gives none text :=
    (hholds.form variant names).gives_text name (by rw [List.lookup_cons_self]; rfl)
  have hsettle (variant names) : (tagged.form variant names).settle
      [((tagged.form variant names).get name Json.asText).fault?] = .ok () :=
    (hholds.form variant names).settle (by simp [(htext variant names).fault?])
  have hextends : Json.variantNamed Tag.all "extends" = .ok .subtypeOf := rfl
  have hcontains : Json.variantNamed Tag.all "name_contains" = .ok .nameContains := rfl
  have hregex : Json.variantNamed Tag.all "regex" = .ok .pattern := rfl
  rcases h with ⟨rfl, rfl, rfl⟩ | ⟨rfl, rfl, rfl⟩ | ⟨rfl, rfl, rfl⟩ <;>
    simp only [hholds.variant, hextends, hcontains, hregex, hsettle, (htext _ _).required, bind,
      Except.bind, pure, Except.pure]

/-! ## Combinations -/

section

variable {filters : List FilterSpec} {filter : FilterSpec} {v : Json}

/-- The filters that combine others. -/
theorem ofJson_listed (hmanner : manner ≠ .withoutNull) {f : FilterSpec} {label : String}
    (hf : (label, f) ∈ [("and", .and filters), ("or", .or filters)])
    (h : Json.listOf (ofJson manner.inTagged) v = .ok filters) :
    ofJson manner (.taggedOf "type" label [("filters", some v)]) = .ok f := by
  rw [ofJson, if_neg fun hno => hmanner hno.1]
  refine Json.bind_asTagged (by simp) fun tagged hholds => ?_
  have hfilters (variant names) : ((tagged.form variant names).read "filters" fun w =>
      Json.asList w.1 fun x => ofJson manner.inTagged x.1).Gives none filters :=
    (hholds.form variant names).gives "filters" h
  have hsettle (variant names) : (tagged.form variant names).settle
      [((tagged.form variant names).read "filters" fun w =>
        Json.asList w.1 fun x => ofJson manner.inTagged x.1).fault?] = .ok () :=
    (hholds.form variant names).settle (by simp [(hfilters variant names).fault?])
  have hand : Json.variantNamed Tag.all "and" = .ok .and := rfl
  have hor : Json.variantNamed Tag.all "or" = .ok .or := rfl
  simp only [List.mem_cons, Prod.mk.injEq, List.not_mem_nil, or_false] at hf
  rcases hf with ⟨rfl, rfl⟩ | ⟨rfl, rfl⟩ <;>
    simp only [hholds.variant, hand, hor, hsettle, (hfilters _ _).required, bind, Except.bind, pure,
      Except.pure]

theorem ofJson_not (hmanner : manner ≠ .withoutNull)
    (h : ofJson manner.inTagged v = .ok filter) :
    ofJson manner (.taggedOf "type" "not" [("filter", some v)]) = .ok (.not filter) := by
  rw [ofJson, if_neg fun hno => hmanner hno.1]
  refine Json.bind_asTagged (by simp) fun tagged hholds => ?_
  have hform := hholds.form "FilterSpec::Not" ["filter"]
  have hfilter : ((tagged.form "FilterSpec::Not" ["filter"]).read "filter" fun w =>
      ofJson manner.inTagged w.1).Gives none filter := hform.gives "filter" h
  have hvariant : Json.variantNamed Tag.all "not" = .ok .not := rfl
  simp only [hholds.variant, hvariant, bind, Except.bind]
  rw [hform.settle (by simp [hfilter.fault?])]
  simp only [hfilter.required, pure, Except.pure]

end

/-! ## Round trip -/

theorem inTagged_ne_withoutNull (h : manner ≠ .withoutNull) : manner.inTagged ≠ .withoutNull := by
  cases manner <;> simp_all [Json.Manner.inTagged]

theorem listOf_written {filters : List FilterSpec}
    (h : ∀ f ∈ filters, ofJson manner f.toJson = .ok f) :
    Json.listOf (ofJson manner) (.list (filters.map toJson)) = .ok filters := by
  have hitems : Items (Is toJson) filters (some (.list (filters.map toJson))) :=
    Json.items_map fun _ _ => rfl
  exact hitems.reads (by rintro f hf _ rfl; exact h f hf)

/-- A filter is read back as it was written, however deep it is. The induction is on the filter: what is
inside a combination is read in the manner that fits there. -/
theorem ofJson_written : ∀ (f : FilterSpec) {manner : Json.Manner}, manner ≠ .withoutNull →
    ofJson manner f.toJson = .ok f
  | .rejectAll, _, hmanner => ofJson_bare hmanner (by simp)
  | .acceptAll, _, hmanner => ofJson_bare hmanner (by simp)
  | .typeSet names, _, hmanner => by
      rw [toJson, Json.record_eq_recordOf]
      exact ofJson_typeSet hmanner (Json.items_map fun _ _ => rfl)
  | .hasMarker kind, _, hmanner => by
      rw [toJson, Json.record_eq_recordOf]
      exact ofJson_hasMarker hmanner kind
  | .subtypeOf base, _, hmanner => by
      rw [toJson, Json.record_eq_recordOf]
      exact ofJson_text hmanner (by simp)
  | .nameContains text, _, hmanner => by
      rw [toJson, Json.record_eq_recordOf]
      exact ofJson_text hmanner (by simp)
  | .pattern text, _, hmanner => by
      rw [toJson, Json.record_eq_recordOf]
      exact ofJson_text hmanner (by simp)
  | .and filters, _, hmanner => by
      rw [toJson, Json.record_eq_recordOf, listToJson_eq_map]
      exact ofJson_listed hmanner (by simp)
        (listOf_written fun f _ => ofJson_written f (inTagged_ne_withoutNull hmanner))
  | .or filters, _, hmanner => by
      rw [toJson, Json.record_eq_recordOf, listToJson_eq_map]
      exact ofJson_listed hmanner (by simp)
        (listOf_written fun f _ => ofJson_written f (inTagged_ne_withoutNull hmanner))
  | .not filter, _, hmanner => by
      rw [toJson, Json.record_eq_recordOf]
      exact ofJson_not hmanner (ofJson_written filter (inTagged_ne_withoutNull hmanner))
termination_by f => sizeOf f

end Filter

end TypeGraph
