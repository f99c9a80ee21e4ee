import TypeGraph.Proofs.Json.Records
import TypeGraph.Source.Reading
import TypeGraph.Source.Written

/-!
# Source types are read back as they were written

What a source type may be spelt as is told apart from its reader and its writer: tags and names are
always there, lists may be left out when they are empty, and details when they have their default
(`Descriptor.Spelt`). The reader understands every spelling (`Descriptor.ofJson_of_spelt`), and the
written form is one of them (`Descriptor.spelt_toJson`). Both go from the parts to the whole, for
references and for source types by induction on what is inside them.
-/

namespace TypeGraph

open Json (Is Detail Items OrNull Reads)

/-! ## Spellings -/

/-- A reference is spelt with the tag of its kind. An absent list of arguments is empty. -/
inductive TypeRef.Spelt : TypeRef → Json → Prop
  | primitive (p : Primitive) :
      Spelt (.primitive p) (.taggedOf "kind" "primitive" [("name", some (.text p.name))])
  | named (name : String) {args : List TypeRef} {field : Option Json}
      (h : Items Spelt args field) :
      Spelt (.named name args)
        (.taggedOf "kind" "named" [("name", some (.text name)), ("args", field)])
  | array {element : TypeRef} {v : Json} (h : Spelt element v) :
      Spelt (.array element) (.taggedOf "kind" "array" [("element", some v)])
  | typeVar (name : String) :
      Spelt (.typeVar name) (.taggedOf "kind" "variable" [("name", some (.text name))])

/-- A marker is spelt with the tag of its kind. An absent path is empty, an absent method or name is
none, and a query parameter is required unless it says otherwise. -/
inductive Marker.Spelt : Marker → Json → Prop
  | nullable : Spelt .nullable (.taggedOf "kind" "nullable" [])
  | restController : Spelt .restController (.taggedOf "kind" "rest_controller" [])
  | requestMapping {path : String} {method : Option HttpMethod} {p m : Option Json}
      (hpath : Detail (Is .text) "" path p)
      (hmethod : Detail (OrNull (Is fun m : HttpMethod => .text m.verb)) none method m) :
      Spelt (.requestMapping path method)
        (.taggedOf "kind" "request_mapping" [("path", p), ("method", m)])
  | requestBody : Spelt .requestBody (.taggedOf "kind" "request_body" [])
  | pathVariable {name : Option String} {n : Option Json}
      (hname : Detail (OrNull (Is .text)) none name n) :
      Spelt (.pathVariable name) (.taggedOf "kind" "path_variable" [("name", n)])
  | requestParam {name : Option String} {required : Bool} {n r : Option Json}
      (hname : Detail (OrNull (Is .text)) none name n) (hrequired : Detail (Is .bool) true required r) :
      Spelt (.requestParam name required)
        (.taggedOf "kind" "request_param" [("name", n), ("required", r)])
  | jsonIgnore : Spelt .jsonIgnore (.taggedOf "kind" "json_ignore" [])
  | other (name : String) :
      Spelt (.other name) (.taggedOf "kind" "other" [("name", some (.text name))])

/-- A data member. -/
inductive Field.Spelt : Field → Json → Prop
  | mk {f : Field} {type : Json} {markers : Option Json} (htype : f.type.Spelt type)
      (hmarkers : Items Marker.Spelt f.markers markers) :
      Spelt f (.recordOf [("name", some (.text f.name)), ("type", some type), ("markers", markers)])

/-- A parameter. -/
inductive Parameter.Spelt : Parameter → Json → Prop
  | mk {p : Parameter} {type : Json} {markers : Option Json} (htype : p.type.Spelt type)
      (hmarkers : Items Marker.Spelt p.markers markers) :
      Spelt p (.recordOf [("name", some (.text p.name)), ("type", some type), ("markers", markers)])

/-- A method. An absent result is `void`. -/
inductive Method.Spelt : Method → Json → Prop
  | mk {m : Method} {params returns markers : Option Json}
      (hparams : Items Parameter.Spelt m.params params)
      (hreturns : Detail TypeRef.Spelt (.primitive .void) m.returns returns)
      (hmarkers : Items Marker.Spelt m.markers markers) :
      Spelt m (.recordOf [("name", some (.text m.name)), ("params", params), ("returns", returns),
        ("markers", markers)])

/-- A source type. Absent lists are empty. -/
inductive Descriptor.Spelt : Descriptor → Json → Prop
  | mk {d : Descriptor} {typeParams superclass interfaces fields methods constants markers
        nested : Option Json}
      (htypeParams : Items (Is .text) d.typeParams typeParams)
      (hsuperclass : Detail (OrNull TypeRef.Spelt) none d.superclass superclass)
      (hinterfaces : Items TypeRef.Spelt d.interfaces interfaces)
      (hfields : Items Field.Spelt d.fields fields)
      (hmethods : Items Method.Spelt d.methods methods)
      (hconstants : Items (Is .text) d.constants constants)
      (hmarkers : Items Marker.Spelt d.markers markers)
      (hnested : Items Spelt d.nested nested) :
      Spelt d (.recordOf [("name", some (.text d.name)), ("kind", some (.text d.kind.name)),
        ("type_params", typeParams), ("superclass", superclass), ("interfaces", interfaces),
        ("fields", fields), ("methods", methods), ("constants", constants), ("markers", markers),
        ("nested", nested)])

/-! ## Reading -/

theorem asName_of_variant {α : Type} {manner : Json.Manner} {known : List (String × α)} {name : String}
    {a : α} (h : Json.variantNamed known name = .ok a) :
    Json.asName manner known (.text name) = .ok a := by
  simp only [Json.asName, Json.asVariant, h, Except.map, bind, Except.bind, pure, Except.pure]

theorem reads_primitive (p : Primitive) :
    Reads (Json.asName .tagged Primitive.named) none (some (.text p.name)) p :=
  asName_of_variant (by cases p <;> rfl)

theorem TypeRef.decode_null (manner : Json.Manner) (t : TypeRef) :
    TypeRef.decode manner .null ≠ .ok t := by
  simp [TypeRef.decode, Json.asTagged, bind, Except.bind]

namespace TypeRef

variable {manner : Json.Manner} {field : Option Json} {name : String}

theorem decode_primitive (p : Primitive) :
    decode manner (.taggedOf "kind" "primitive" [("name", some (.text p.name))]) =
      .ok (.primitive p) := by
  rw [decode]
  refine Json.bind_asTagged (by simp) fun tagged hholds => ?_
  have hform := hholds.form "TypeRef::Primitive" ["name"]
  have hname := hform.gives "name" (reads_primitive p)
  have hvariant : Json.variantNamed Tag.all "primitive" = .ok .primitive := rfl
  simp only [hholds.variant, hvariant, bind, Except.bind]
  rw [hform.settle (by simp [hname.fault?])]
  simp only [hname.required, pure, Except.pure]

theorem decode_named {args : List TypeRef}
    (h : Reads (Json.listOf (decode .tagged)) (some []) field args) :
    decode manner (.taggedOf "kind" "named" [("name", some (.text name)), ("args", field)]) =
      .ok (.named name args) := by
  rw [decode]
  refine Json.bind_asTagged (by simp) fun tagged hholds => ?_
  have hform := hholds.form "TypeRef::Named" ["name", "args"]
  have hname := hform.gives_text "name" rfl
  have hargs : ((tagged.form "TypeRef::Named" ["name", "args"]).read "args" fun w =>
      Json.asList w.1 fun x => decode .tagged x.1).Gives (some []) args :=
    hform.gives "args" h
  have hvariant : Json.variantNamed Tag.all "named" = .ok .named := rfl
  simp only [hholds.variant, hvariant, bind, Except.bind]
  rw [hform.settle (by simp [hname.fault?, hargs.fault?])]
  simp only [hname.required, hargs.orElse, pure, Except.pure]

theorem decode_array {element : TypeRef} {v : Json} (h : decode .tagged v = .ok element) :
    decode manner (.taggedOf "kind" "array" [("element", some v)]) = .ok (.array element) := by
  rw [decode]
  refine Json.bind_asTagged (by simp) fun tagged hholds => ?_
  have hform := hholds.form "TypeRef::Array" ["element"]
  have helement : ((tagged.form "TypeRef::Array" ["element"]).read "element" fun w =>
      decode .tagged w.1).Gives none element := hform.gives "element" h
  have hvariant : Json.variantNamed Tag.all "array" = .ok .array := rfl
  simp only [hholds.variant, hvariant, bind, Except.bind]
  rw [hform.settle (by simp [helement.fault?])]
  simp only [helement.required, pure, Except.pure]

theorem decode_typeVar :
    decode manner (.taggedOf "kind" "variable" [("name", some (.text name))]) =
      .ok (.typeVar name) := by
  rw [decode]
  refine Json.bind_asTagged (by simp) fun tagged hholds => ?_
  have hform := hholds.form "TypeRef::Variable" ["name"]
  have hname := hform.gives_text "name" rfl
  have hvariant : Json.variantNamed Tag.all "variable" = .ok .typeVar := rfl
  simp only [hholds.variant, hvariant, bind, Except.bind]
  rw [hform.settle (by simp [hname.fault?])]
  simp only [hname.required, pure, Except.pure]

/-- Every spelling of a reference is read as it, on its own and inside another one. -/
theorem decode_of_spelt (manner : Json.Manner) :
    ∀ (t : TypeRef) {v : Json}, t.Spelt v → decode manner v = .ok t
  | .primitive p, _, .primitive _ => decode_primitive p
  | .named _ _, _, .named _ hargs =>
      decode_named (hargs.reads fun t _ _ hv => decode_of_spelt .tagged t hv)
  | .array element, _, .array hv => decode_array (decode_of_spelt .tagged element hv)
  | .typeVar _, _, .typeVar _ => decode_typeVar
termination_by t => sizeOf t

theorem ofJson_of_spelt {t : TypeRef} {v : Json} (h : t.Spelt v) : ofJson v = .ok t :=
  decode_of_spelt .plain t h

end TypeRef

theorem asOption_text {name : Option String} {v : Json} (h : OrNull (Is .text) name v) :
    Json.asOption Json.asText v = .ok name :=
  h.asOption_eq (by rintro _ _ _ rfl; rfl) (by simp [Json.asText])

namespace Marker

variable {field : Option Json} {name : Option String}

/-- The markers without details. -/
theorem ofJson_bare {m : Marker} {label : String} (h : (label, m) ∈ [("nullable", .nullable),
      ("rest_controller", .restController), ("request_body", .requestBody),
      ("json_ignore", .jsonIgnore)]) : ofJson (.taggedOf "kind" label []) = .ok m := by
  rw [ofJson]
  refine Json.bind_asTagged (by simp) fun tagged hholds => ?_
  have hsettle : (tagged.form "" []).settle [] = .ok () := (hholds.form "" []).settle (by simp)
  simp only [List.mem_cons, Prod.mk.injEq, List.not_mem_nil, or_false] at h
  have hvariant : Json.variantNamed tags label = .ok m.kind := by
    rcases h with ⟨rfl, rfl⟩ | ⟨rfl, rfl⟩ | ⟨rfl, rfl⟩ | ⟨rfl, rfl⟩ <;> rfl
  simp only [hholds.variant, hvariant, bind, Except.bind]
  rcases h with ⟨_, rfl⟩ | ⟨_, rfl⟩ | ⟨_, rfl⟩ | ⟨_, rfl⟩ <;>
    simp only [kind, hsettle, pure, Except.pure]

theorem ofJson_requestMapping {path : String} {method : Option HttpMethod} {p m : Option Json}
    (hpath : Reads Json.asText (some "") p path)
    (hmethod : Reads (Json.asOption (Json.asName .tagged HttpMethod.named)) (some none) m method) :
    ofJson (.taggedOf "kind" "request_mapping" [("path", p), ("method", m)]) =
      .ok (.requestMapping path method) := by
  rw [ofJson]
  refine Json.bind_asTagged (by simp) fun tagged hholds => ?_
  have hform := hholds.form "Marker::RequestMapping" ["path", "method"]
  have hpath := hform.gives "path" hpath
  have hmethod := hform.gives "method" hmethod
  have hvariant : Json.variantNamed tags "request_mapping" = .ok .requestMapping := rfl
  simp only [hholds.variant, hvariant, bind, Except.bind]
  rw [hform.settle (by simp [hpath.fault?, hmethod.fault?])]
  simp only [hpath.orElse, hmethod.orElse, pure, Except.pure]

theorem ofJson_pathVariable {n : Option Json}
    (hname : Reads (Json.asOption Json.asText) (some none) n name) :
    ofJson (.taggedOf "kind" "path_variable" [("name", n)]) = .ok (.pathVariable name) := by
  rw [ofJson]
  refine Json.bind_asTagged (by simp) fun tagged hholds => ?_
  have hform := hholds.form "Marker::PathVariable" ["name"]
  have hname := hform.gives "name" hname
  have hvariant : Json.variantNamed tags "path_variable" = .ok .pathVariable := rfl
  simp only [hholds.variant, hvariant, bind, Except.bind]
  rw [hform.settle (by simp [hname.fault?])]
  simp only [hname.orElse, pure, Except.pure]

theorem ofJson_requestParam {required : Bool} {n r : Option Json}
    (hname : Reads (Json.asOption Json.asText) (some none) n name)
    (hrequired : Reads Json.asBool (some true) r required) :
    ofJson (.taggedOf "kind" "request_param" [("name", n), ("required", r)]) =
      .ok (.requestParam name required) := by
  rw [ofJson]
  refine Json.bind_asTagged (by simp) fun tagged hholds => ?_
  have hform := hholds.form "Marker::RequestParam" ["name", "required"]
  have hname := hform.gives "name" hname
  have hrequired := hform.gives "required" hrequired
  have hvariant : Json.variantNamed tags "request_param" = .ok .requestParam := rfl
  simp only [hholds.variant, hvariant, bind, Except.bind]
  rw [hform.settle (by simp [hname.fault?, hrequired.fault?])]
  simp only [hname.orElse, hrequired.orElse, pure, Except.pure]

theorem ofJson_other {label : String} :
    ofJson (.taggedOf "kind" "other" [("name", some (.text label))]) = .ok (.other label) := by
  rw [ofJson]
  refine Json.bind_asTagged (by simp) fun tagged hholds => ?_
  have hform := hholds.form "Marker::Other" ["name"]
  have hname := hform.gives_text "name" rfl
  have hvariant : Json.variantNamed tags "other" = .ok (.other "") := rfl
  simp only [hholds.variant, hvariant, bind, Except.bind]
  rw [hform.settle (by simp [hname.fault?])]
  simp only [hname.required, pure, Except.pure]

/-- Every spelling of a marker is read as it. -/
theorem ofJson_of_spelt {m : Marker} {v : Json} (h : m.Spelt v) : ofJson v = .ok m := by
  cases h with
  | nullable => exact ofJson_bare (by simp)
  | restController => exact ofJson_bare (by simp)
  | requestBody => exact ofJson_bare (by simp)
  | jsonIgnore => exact ofJson_bare (by simp)
  | requestMapping hpath hmethod =>
      refine ofJson_requestMapping (hpath.reads ?_) (hmethod.reads fun v hv => ?_)
      · rintro _ rfl
        rfl
      · refine hv.asOption_eq ?_ (fun _ => by simp [Json.asName, Json.asVariant, bind, Except.bind])
        rintro verb _ _ rfl
        exact asName_of_variant (by cases verb <;> rfl)
  | pathVariable hname => exact ofJson_pathVariable (hname.reads fun _ => asOption_text)
  | requestParam hname hrequired =>
      refine ofJson_requestParam (hname.reads fun _ => asOption_text) (hrequired.reads ?_)
      rintro _ rfl
      rfl
  | other name => exact ofJson_other

end Marker

/-! ### Members -/

theorem reads_markers {markers : List Marker} {field : Option Json}
    (h : Items Marker.Spelt markers field) :
    Reads (Json.listOf Marker.ofJson) (some []) field markers :=
  h.reads fun _ _ _ => Marker.ofJson_of_spelt

/-- What is read from the fields that data members and parameters have. -/
theorem member_gives {v type : Json} {form : Json.Form v} {name : String} {ref : TypeRef}
    {markers : List Marker} {field : Option Json}
    (h : form.Holds [("name", some (.text name)), ("type", some type), ("markers", field)])
    (htype : ref.Spelt type) (hmarkers : Items Marker.Spelt markers field) :
    (form.get "name" Json.asText).Gives none name ∧
      (form.get "type" TypeRef.ofJson).Gives none ref ∧
      (form.get "markers" (Json.listOf Marker.ofJson)).Gives (some []) markers :=
  ⟨h.gives_text "name" rfl, h.gives "type" (TypeRef.ofJson_of_spelt htype),
    h.gives "markers" (reads_markers hmarkers)⟩

theorem Field.ofJson_of_spelt {f : Field} {v : Json} (h : f.Spelt v) : Field.ofJson v = .ok f := by
  obtain ⟨htype, hmarkers⟩ := h
  rw [Field.ofJson]
  refine Json.bind_asRecord (by simp) fun form hholds => ?_
  obtain ⟨hname, htype, hmarkers⟩ := member_gives hholds htype hmarkers
  simp only [bind, Except.bind]
  rw [hholds.settle (by simp [hname.fault?, htype.fault?, hmarkers.fault?])]
  simp only [hname.required, htype.required, hmarkers.orElse, pure, Except.pure]

theorem Parameter.ofJson_of_spelt {p : Parameter} {v : Json} (h : p.Spelt v) :
    Parameter.ofJson v = .ok p := by
  obtain ⟨htype, hmarkers⟩ := h
  rw [Parameter.ofJson]
  refine Json.bind_asRecord (by simp) fun form hholds => ?_
  obtain ⟨hname, htype, hmarkers⟩ := member_gives hholds htype hmarkers
  simp only [bind, Except.bind]
  rw [hholds.settle (by simp [hname.fault?, htype.fault?, hmarkers.fault?])]
  simp only [hname.required, htype.required, hmarkers.orElse, pure, Except.pure]

theorem Method.ofJson_of_spelt {m : Method} {v : Json} (h : m.Spelt v) : Method.ofJson v = .ok m := by
  obtain ⟨hparams, hreturns, hmarkers⟩ := h
  rw [Method.ofJson]
  refine Json.bind_asRecord (by simp) fun form hholds => ?_
  have hname := hholds.gives_text "name" rfl
  have hparams := hholds.gives "params" (hparams.reads fun _ _ _ => Parameter.ofJson_of_spelt)
  have hreturns := hholds.gives "returns" (hreturns.reads fun _ => TypeRef.ofJson_of_spelt)
  have hmarkers := hholds.gives "markers" (reads_markers hmarkers)
  simp only [bind, Except.bind]
  rw [hholds.settle (by simp [hname.fault?, hparams.fault?, hreturns.fault?, hmarkers.fault?])]
  simp only [hname.required, hparams.orElse, hreturns.orElse, hmarkers.orElse, pure, Except.pure]

/-! ### Source types -/

theorem reads_kind (k : TypeKind) :
    Reads (Json.asName .plain TypeKind.named) none (some (.text k.name)) k :=
  asName_of_variant (by cases k <;> rfl)

theorem reads_texts {names : List String} {field : Option Json} (h : Items (Is .text) names field) :
    Reads (Json.listOf Json.asText) (some []) field names :=
  h.reads (by rintro _ _ _ rfl; rfl)

theorem reads_superclass {ref : Option TypeRef} {field : Option Json}
    (h : Detail (OrNull TypeRef.Spelt) none ref field) :
    Reads (Json.asOption TypeRef.ofJson) (some none) field ref :=
  h.reads fun _ hv =>
    hv.asOption_eq (fun _ _ _ => TypeRef.ofJson_of_spelt) (TypeRef.decode_null .plain)

/-- Every spelling of a source type is read as it. The induction is on the types declared inside. -/
theorem Descriptor.ofJson_of_spelt : ∀ (d : Descriptor) {v : Json}, d.Spelt v → ofJson v = .ok d
  | d, _, .mk htypeParams hsuperclass hinterfaces hfields hmethods hconstants hmarkers hnested => by
      rw [ofJson]
      refine Json.bind_asRecord (by simp) fun form hholds => ?_
      have hname := hholds.gives_text "name" rfl
      have hkind := hholds.gives "kind" (reads_kind d.kind)
      have htypeParams := hholds.gives "type_params" (reads_texts htypeParams)
      have hsuperclass := hholds.gives "superclass" (reads_superclass hsuperclass)
      have hinterfaces := hholds.gives "interfaces"
        (hinterfaces.reads fun _ _ _ => TypeRef.ofJson_of_spelt)
      have hfields := hholds.gives "fields" (hfields.reads fun _ _ _ => Field.ofJson_of_spelt)
      have hmethods := hholds.gives "methods" (hmethods.reads fun _ _ _ => Method.ofJson_of_spelt)
      have hconstants := hholds.gives "constants" (reads_texts hconstants)
      have hmarkers := hholds.gives "markers" (reads_markers hmarkers)
      have hnested : (form.read "nested" fun w => Json.asList w.1 fun x => ofJson x.1).Gives (some [])
          d.nested :=
        hholds.gives "nested" (hnested.reads fun inner _ _ hv => ofJson_of_spelt inner hv)
      simp only [bind, Except.bind]
      rw [hholds.settle (by simp [hname.fault?, hkind.fault?, htypeParams.fault?, hsuperclass.fault?,
        hinterfaces.fault?, hfields.fault?, hmethods.fault?, hconstants.fault?, hmarkers.fault?,
        hnested.fault?])]
      simp only [hname.required, hkind.required, htypeParams.orElse, hsuperclass.orElse,
        hinterfaces.orElse, hfields.orElse, hmethods.orElse, hconstants.orElse, hmarkers.orElse,
        hnested.orElse, pure, Except.pure]
      cases d
      rfl
termination_by d => sizeOf d
decreasing_by
  have hlt := List.sizeOf_lt_of_mem ‹_ ∈ _›
  cases d
  simp only [Descriptor.mk.sizeOf_spec] at *
  omega

/-! ## Writing -/

theorem TypeRef.argsToJson_eq (args : List TypeRef) :
    argsToJson args = Json.unlessEmpty toJson args := by
  cases args with
  | nil => rfl
  | cons t rest => simp [argsToJson, Json.unlessEmpty, listToJson_eq_map]

theorem TypeRef.spelt_toJson : ∀ t : TypeRef, t.Spelt t.toJson
  | .primitive p => by
      rw [toJson, Json.record_eq_recordOf]
      exact .primitive p
  | .named name args => by
      rw [toJson, argsToJson_eq]
      exact .named name (Json.items_unlessEmpty fun t _ => spelt_toJson t)
  | .array element => by
      rw [toJson, Json.record_eq_recordOf]
      exact .array (spelt_toJson element)
  | .typeVar name => by
      rw [toJson, Json.record_eq_recordOf]
      exact .typeVar name

theorem Marker.spelt_toJson (m : Marker) : m.Spelt m.toJson := by
  cases m with
  | nullable => exact .nullable
  | restController => exact .restController
  | requestMapping path method =>
      rw [toJson, Json.record_eq_recordOf]
      exact .requestMapping (.present rfl) (.present (Json.orNull_orNull fun _ _ => rfl))
  | requestBody => exact .requestBody
  | pathVariable name =>
      rw [toJson, Json.record_eq_recordOf]
      exact .pathVariable (.present (Json.orNull_orNull fun _ _ => rfl))
  | requestParam name required =>
      rw [toJson, Json.record_eq_recordOf]
      exact .requestParam (.present (Json.orNull_orNull fun _ _ => rfl)) (.present rfl)
  | jsonIgnore => exact .jsonIgnore
  | other name => exact .other name

theorem items_markers (markers : List Marker) :
    Items Marker.Spelt markers (Json.unlessEmpty Marker.toJson markers) :=
  Json.items_unlessEmpty fun m _ => m.spelt_toJson

theorem Field.spelt_toJson (f : Field) : f.Spelt f.toJson :=
  .mk f.type.spelt_toJson (items_markers f.markers)

theorem Parameter.spelt_toJson (p : Parameter) : p.Spelt p.toJson :=
  .mk p.type.spelt_toJson (items_markers p.markers)

theorem Method.spelt_toJson (m : Method) : m.Spelt m.toJson :=
  .mk (Json.items_map fun p _ => p.spelt_toJson) (.present m.returns.spelt_toJson)
    (items_markers m.markers)

theorem items_texts (names : List String) : Items (Is .text) names (Json.unlessEmpty .text names) :=
  Json.items_unlessEmpty fun _ _ => rfl

theorem Descriptor.nestedToJson_eq (types : List Descriptor) :
    nestedToJson types = Json.unlessEmpty toJson types := by
  cases types with
  | nil => rfl
  | cons d rest => simp [nestedToJson, Json.unlessEmpty, listToJson_eq_map]

/-- The superclass is left out when it is absent, and never written as `null`. -/
theorem detail_superclass (ref : Option TypeRef) :
    Detail (OrNull TypeRef.Spelt) none ref (ref.map TypeRef.toJson) := by
  cases ref with
  | none => exact .absent
  | some t => exact .present (.some t.spelt_toJson)

theorem Descriptor.spelt_toJson : ∀ d : Descriptor, d.Spelt d.toJson
  | ⟨_, _, typeParams, superclass, _, _, _, constants, markers, nested⟩ => by
      rw [toJson, nestedToJson_eq]
      exact .mk (items_texts typeParams) (detail_superclass superclass)
        (Json.items_unlessEmpty fun t _ => t.spelt_toJson)
        (Json.items_unlessEmpty fun f _ => f.spelt_toJson)
        (Json.items_unlessEmpty fun m _ => m.spelt_toJson) (items_texts constants)
        (items_markers markers) (Json.items_unlessEmpty fun inner _ => inner.spelt_toJson)

/-! ## Round trip -/

/-- A source type is read back as it was written, whatever is declared inside it; and so is every
other value that spells it, with any of the details left out that have their default. -/
theorem Descriptor.ofJson_toJson (d : Descriptor) :
    ofJson d.toJson = .ok d ∧ ∀ v, d.Spelt v → ofJson v = .ok d :=
  ⟨ofJson_of_spelt d d.spelt_toJson, fun _ => ofJson_of_spelt d⟩

/-- A controller of which only what has no default is written: its endpoint is on the empty path with
any method, and results in nothing. -/
theorem ofJson_terseController :
    Descriptor.ofJson (.object [("kind", .text "class"),
      ("methods", .list [.object [
        ("markers", .list [.object [("kind", .text "request_mapping")]]), ("name", .text "ping")]]),
      ("name", .text "shop.Ping")]) =
    .ok { name := "shop.Ping", kind := .classType,
          methods := [{ name := "ping", returns := .primitive .void,
                        markers := [.requestMapping "" none] }] } := by
  have hmethod : Method.Spelt
      { name := "ping", returns := .primitive .void, markers := [.requestMapping "" none] }
      (.recordOf [("name", some (.text "ping")), ("params", none), ("returns", none),
        ("markers", some (.list
          [.taggedOf "kind" "request_mapping" [("path", none), ("method", none)]]))]) :=
    .mk .absent .absent (.present (.cons (.requestMapping .absent .absent) .nil))
  exact (Descriptor.ofJson_toJson _).2
    (.recordOf [("name", some (.text "shop.Ping")), ("kind", some (.text "class")),
      ("type_params", none), ("superclass", none), ("interfaces", none), ("fields", none),
      ("methods", some (.list [_])), ("constants", none), ("markers", none), ("nested", none)])
    (.mk .absent .absent .absent .absent (.present (.cons hmethod .nil)) .absent .absent .absent)

end TypeGraph
