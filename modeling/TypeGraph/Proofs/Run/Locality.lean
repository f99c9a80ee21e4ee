import TypeGraph.Proofs.Discovery.Partition
import TypeGraph.Proofs.Run.Failures

/-!
# What a run looks up

A run looks identities up in its index: those of its candidates, and those that the types it finds
mention. So two indexes are interchangeable when they find the same types under some identities, and these
types mention no others (`Index.AgreesOn`): in closures, in targets, in registration on demand and in
the queue. The step that finds new types is `need`, and what waits in the queue mentions only such
identities again (`Conversion.Heeds`). A type that is no candidate and that no other type mentions leaves
no trace of itself (`run_insert_unmentioned`).
-/

namespace TypeGraph

/-- The identities that a type mentions in its references meet a condition. -/
def Descriptor.MentionsOnly (d : Descriptor) (asked : String → Prop) : Prop :=
  ∀ r ∈ d.allReferences, ∀ y ∈ r.identities, asked y

/-- Two indexes find the same types under the identities that are asked for, and these types mention
nothing that is not asked for. -/
structure Index.AgreesOn (i j : Index) (asked : String → Prop) : Prop where
  same : ∀ x, asked x → i.find? x = j.find? x
  leads : ∀ x d, asked x → i.find? x = some d → d.MentionsOnly asked

variable {asked : String → Prop} {i j : Index} {s : Setup} {cl : Classification} {d : Descriptor}
  {x y : String}

/-! ## Mentions -/

namespace Descriptor.MentionsOnly

theorem of_supertypes (h : d.MentionsOnly asked) {r : TypeRef} (hr : r ∈ d.supertypes)
    (hy : y ∈ r.identities) : asked y :=
  h r (List.mem_append_left _ (List.mem_append_left _ hr)) y hy

theorem baseNames (h : d.MentionsOnly asked) (hy : y ∈ d.baseNames) : asked y := by
  obtain ⟨r, hr, hhead⟩ := Classification.mem_baseNames_iff.mp hy
  exact h.of_supertypes hr (List.mem_of_head? hhead)

theorem seeds (h : d.MentionsOnly asked) (hy : y ∈ Classification.seeds d) : asked y := by
  rcases List.mem_append.mp hy with hendpoint | hargument
  · obtain ⟨r, hr, hmem⟩ := List.mem_flatMap.mp hendpoint
    exact h r (List.mem_append_right _ hr) y hmem
  · obtain ⟨r, hr, htail⟩ := List.mem_flatMap.mp hargument
    exact h.of_supertypes hr (List.mem_of_mem_tail htail)

theorem mentions (h : d.MentionsOnly asked) (hy : y ∈ Classification.mentions d) : asked y := by
  obtain ⟨_, hreference⟩ := Classification.mem_mentions_iff.mp hy
  obtain ⟨r, hr, hmem⟩ := List.mem_flatMap.mp hreference
  exact h r (List.mem_append_left _ hr) y hmem

theorem needs (h : d.MentionsOnly asked) (env : Env) (c : Converter)
    (hy : y ∈ (c.references d).flatMap env.needs) : asked y := by
  obtain ⟨r, hr, hneeds⟩ := List.mem_flatMap.mp hy
  exact h r (Converter.references_subset c d hr) y (Env.mem_needs r hneeds).1

end Descriptor.MentionsOnly

/-! ## Classification -/

namespace Classification

variable (hcl : ∀ x, cl.contains x = true → asked x)

include hcl

theorem asked_of_enums : ∀ x ∈ cl.enums, asked x :=
  fun x hx => hcl x (contains_iff.mpr (Or.inl hx))

theorem asked_of_models : ∀ x ∈ cl.models, asked x :=
  fun x hx => hcl x (contains_iff.mpr (Or.inr (Or.inl hx)))

theorem asked_of_rests : ∀ x ∈ cl.rests, asked x :=
  fun x hx => hcl x (contains_iff.mpr (Or.inr (Or.inr hx)))

end Classification

namespace Index.AgreesOn

open Classification (asked_of_enums asked_of_models asked_of_rests)

variable {admits : Descriptor → Bool} {next : Descriptor → List String} {names : List String}
  {seen : Names}

theorem closure (h : i.AgreesOn j asked)
    (hnext : ∀ d, d.MentionsOnly asked → ∀ y ∈ next d, asked y) (hnames : ∀ y ∈ names, asked y) :
    i.closure admits next names seen = j.closure admits next names seen := by
  fun_induction i.closure admits next names seen with
  | case1 seen => rw [Index.closure]
  | case2 seen x rest hmem ih =>
      rw [Index.closure, dif_pos hmem]
      exact ih fun y hy => hnames y (List.mem_cons_of_mem _ hy)
  | case3 seen x rest hmem hfind ih =>
      rw [h.same x (hnames x List.mem_cons_self)] at hfind
      rw [Index.closure, dif_neg hmem]
      split
      · exact ih fun y hy => hnames y (List.mem_cons_of_mem _ hy)
      · rename_i d hsome
        rw [hfind] at hsome
        exact absurd hsome (by simp)
  | case4 seen x rest hmem d hfind hadmits ih =>
      have hx := hnames x List.mem_cons_self
      have hd := h.leads x d hx hfind
      rw [h.same x hx] at hfind
      rw [Index.closure, dif_neg hmem]
      split
      · rename_i hnone
        rw [hfind] at hnone
        exact absurd hnone (by simp)
      · rename_i e hsome
        obtain rfl := Option.some.inj (hfind.symm.trans hsome)
        rw [if_pos hadmits]
        refine ih fun y hy => ?_
        rcases List.mem_append.mp hy with hnew | hrest
        · exact hnext d hd y hnew
        · exact hnames y (List.mem_cons_of_mem _ hrest)
  | case5 seen x rest hmem d hfind hadmits ih =>
      rw [h.same x (hnames x List.mem_cons_self)] at hfind
      rw [Index.closure, dif_neg hmem]
      split
      · exact ih fun y hy => hnames y (List.mem_cons_of_mem _ hy)
      · rename_i e hsome
        obtain rfl := Option.some.inj (hfind.symm.trans hsome)
        rw [if_neg hadmits]
        exact ih fun y hy => hnames y (List.mem_cons_of_mem _ hy)

/-- A closure stays within what is asked for. -/
theorem asked_of_mem_closure (h : i.AgreesOn j asked)
    (hnext : ∀ d, d.MentionsOnly asked → ∀ y ∈ next d, asked y) (hnames : ∀ y ∈ names, asked y)
    (hseen : ∀ y ∈ seen, asked y) (hx : x ∈ i.closure admits next names seen) : asked x := by
  refine Index.Closed.closure_subset (S := {x | asked x}) ⟨hseen, ?_, ?_⟩ hx
  · exact fun y hy _ => hnames y hy
  · exact fun z hz _ d hfind y hy _ => hnext d (h.leads z d hz hfind) y hy

theorem known (h : i.AgreesOn j asked) (custom : CustomTypes) {names : Names} (hnames : ∀ y ∈ names, asked y) :
    Surroundings.known ⟨i, custom⟩ names = Surroundings.known ⟨j, custom⟩ names :=
  List.filterMap_congr fun y hy => h.same y (hnames y hy)

theorem asked_of_known (h : i.AgreesOn j asked) (custom : CustomTypes) {names : Names}
    (hnames : ∀ y ∈ names, asked y) {next : Descriptor → List String}
    (hnext : ∀ d, d.MentionsOnly asked → ∀ y ∈ next d, asked y) :
    ∀ y ∈ (Surroundings.known ⟨i, custom⟩ names).flatMap next, asked y := by
  intro y hy
  obtain ⟨z, hz, d, hfind, hd⟩ := Classification.mem_flatMap_known_iff.mp hy
  exact hnext d (h.leads z d (hnames z hz) hfind) y hd

variable (h : i.AgreesOn j asked) (custom : CustomTypes) (hcl : ∀ x, cl.contains x = true → asked x)

include h hcl

theorem restClosure : cl.restClosure ⟨i, custom⟩ = cl.restClosure ⟨j, custom⟩ ∧
    ∀ x ∈ cl.restClosure ⟨i, custom⟩, asked x := by
  have hrests : ∀ y ∈ cl.rests, asked y := asked_of_rests hcl
  have hbases := h.asked_of_known custom hrests fun _ hd _ => hd.baseNames
  constructor
  · rw [Classification.restClosure, h.closure (fun _ hd _ => hd.baseNames) hbases, h.known custom hrests]
    rfl
  · exact fun x hx => h.asked_of_mem_closure (fun _ hd _ => hd.baseNames) hbases hrests hx

theorem mentioned : cl.mentioned ⟨i, custom⟩ = cl.mentioned ⟨j, custom⟩ ∧
    ∀ x ∈ cl.mentioned ⟨i, custom⟩, asked x := by
  have hrests : ∀ y ∈ cl.rests, asked y := asked_of_rests hcl
  have hseeds := h.asked_of_known custom hrests fun _ hd _ => hd.seeds
  constructor
  · rw [Classification.mentioned, h.closure (fun _ hd _ => hd.mentions) hseeds, h.known custom hrests]
    rfl
  · exact fun x hx => h.asked_of_mem_closure (fun _ hd _ => hd.mentions) hseeds
      (fun y hy => absurd hy (Names.not_mem_empty y)) hx

theorem explore : cl.explore ⟨i, custom⟩ = cl.explore ⟨j, custom⟩ ∧
    ∀ x, (cl.explore ⟨i, custom⟩).contains x = true → asked x := by
  obtain ⟨hrests, hrestsAsked⟩ := h.restClosure custom hcl
  have hbases : ∀ x, (cl.withBases ⟨i, custom⟩).contains x = true → asked x := by
    intro x hx
    rcases Classification.contains_iff.mp hx with henum | hmodel | hrest
    · exact asked_of_enums hcl x henum
    · exact asked_of_models hcl x hmodel
    · exact hrestsAsked x hrest
  obtain ⟨hfound, hfoundAsked⟩ := h.mentioned custom hbases
  constructor
  · have hsame : cl.withBases ⟨i, custom⟩ = cl.withBases ⟨j, custom⟩ := by
      rw [Classification.withBases, hrests]
      rfl
    have hknown : Surroundings.known ⟨i, custom⟩ (cl.found ⟨i, custom⟩) =
        Surroundings.known ⟨j, custom⟩ (cl.found ⟨j, custom⟩) := by
      rw [h.known custom hfoundAsked, hfound, hsame]
    have hexplore : ∀ k : Index, cl.explore ⟨k, custom⟩ =
        { enums := Classification.addAll cl.enums
            ((Surroundings.known ⟨k, custom⟩ (cl.found ⟨k, custom⟩)).filter (·.isEnum))
          models := Classification.addAll cl.models
            ((Surroundings.known ⟨k, custom⟩ (cl.found ⟨k, custom⟩)).filter fun d => !d.isEnum)
          rests := cl.restClosure ⟨k, custom⟩ } := fun _ => rfl
    rw [hexplore, hexplore, hknown, hrests]
  · intro x hx
    rcases Classification.contains_iff.mp hx with henum | hmodel | hrest
    · rcases Classification.mem_explore_enums.mp henum with hold | ⟨hnew, _⟩
      · exact asked_of_enums hcl x hold
      · exact hfoundAsked x hnew
    · rcases Classification.mem_explore_models.mp hmodel with hold | ⟨hnew, _⟩
      · exact asked_of_models hcl x hold
      · exact hfoundAsked x hnew
    · exact hrestsAsked x hrest

theorem restMentions : cl.restMentions ⟨i, custom⟩ = cl.restMentions ⟨j, custom⟩ := by
  have hmodels : ∀ y ∈ cl.models, asked y := asked_of_models hcl
  rw [Classification.restMentions, h.known custom hmodels]
  rfl

end Index.AgreesOn

/-! ## Targets -/

namespace Env

variable {declared declared' : String → Bool}

theorem isDeclarable_congr (h : i.AgreesOn j asked) (hx : asked x) :
    (s.env i).isDeclarable x = (s.env j).isDeclarable x := by
  have hfind : (s.env i).index.find? x = (s.env j).index.find? x := h.same x hx
  rw [isDeclarable, isDeclarable, hfind]
  rfl

theorem arity_congr (h : i.AgreesOn j asked) (hx : asked x) :
    (s.env i).arity x = (s.env j).arity x := by
  have hfind : (s.env i).index.find? x = (s.env j).index.find? x := h.same x hx
  rw [arity, arity, hfind]

mutual

theorem target_congr (h : i.AgreesOn j asked) (hd : ∀ x, asked x → declared x = declared' x) :
    ∀ t : TypeRef, (∀ y ∈ t.identities, asked y) →
      (s.env i).target declared t = (s.env j).target declared' t
  | .primitive _, _ | .typeVar _, _ => by simp only [target]
  | .array element, ht => by
      rw [TypeRef.identities] at ht
      simp only [target, target_congr h hd element ht]
  | .named name args, ht => by
      rw [TypeRef.identities] at ht
      have hname : asked name := ht name List.mem_cons_self
      have hargs : ∀ y ∈ TypeRef.identitiesOf args, asked y :=
        fun y hy => ht y (List.mem_cons_of_mem _ hy)
      simp only [target, hd name hname, arity_congr h hname, targets_congr h hd args hargs,
        targetAt_congr h hd _ args hargs]
      rfl

theorem targets_congr (h : i.AgreesOn j asked) (hd : ∀ x, asked x → declared x = declared' x) :
    ∀ ts : List TypeRef, (∀ y ∈ TypeRef.identitiesOf ts, asked y) →
      (s.env i).targets declared ts = (s.env j).targets declared' ts
  | [], _ => by simp only [targets]
  | t :: rest, hts => by
      have ht := target_congr h hd t fun y hy => hts y (List.mem_append_left _ hy)
      have hrest := targets_congr h hd rest fun y hy => hts y (List.mem_append_right _ hy)
      simp only [targets, ht, hrest]

theorem targetAt_congr (h : i.AgreesOn j asked) (hd : ∀ x, asked x → declared x = declared' x) :
    ∀ (position : Option Nat) (ts : List TypeRef), (∀ y ∈ TypeRef.identitiesOf ts, asked y) →
      (s.env i).targetAt declared position ts = (s.env j).targetAt declared' position ts
  | none, _, _ | some _, [], _ => by simp only [targetAt]
  | some 0, t :: _, hts => by
      have ht := target_congr h hd t fun y hy => hts y (List.mem_append_left _ hy)
      simp only [targetAt, ht]
  | some (n + 1), _ :: rest, hts => by
      have hrest := targetAt_congr h hd (some n) rest fun y hy => hts y (List.mem_append_right _ hy)
      simp only [targetAt, hrest]

end

mutual

/-- What a reference needs is told without the index. -/
theorem needs_congr (s : Setup) (i j : Index) : ∀ t : TypeRef, (s.env i).needs t = (s.env j).needs t
  | .primitive _ | .typeVar _ => by simp only [needs]
  | .array element => by simp only [needs, needs_congr s i j element]
  | .named name args => by
      simp only [needs, needsOf_congr s i j args, needsAt_congr s i j _ args]
      rfl

theorem needsOf_congr (s : Setup) (i j : Index) :
    ∀ ts : List TypeRef, (s.env i).needsOf ts = (s.env j).needsOf ts
  | [] => by simp only [needsOf]
  | t :: rest => by simp only [needsOf, needs_congr s i j t, needsOf_congr s i j rest]

theorem needsAt_congr (s : Setup) (i j : Index) : ∀ (position : Option Nat) (ts : List TypeRef),
    (s.env i).needsAt position ts = (s.env j).needsAt position ts
  | none, _ | some _, [] => by simp only [needsAt]
  | some 0, t :: _ => by simp only [needsAt, needs_congr s i j t]
  | some (n + 1), _ :: rest => by simp only [needsAt, needsAt_congr s i j (some n) rest]

end

end Env

/-! ## Conversion -/

namespace Conversion

variable {strategy : Nullability} {converters : Converters} {t u : Conversion} {names : List String}

/-- The types that wait mention only what is asked for. -/
def Heeds (t : Conversion) (asked : String → Prop) : Prop := ∀ d ∈ t.pending, d.MentionsOnly asked

theorem heeds_of_nil (h : t.pending = []) : t.Heeds asked := by
  intro d hd
  rw [h] at hd
  exact absurd hd List.not_mem_nil

theorem need_congr (h : i.AgreesOn j asked) (hx : asked x) (t : Conversion) :
    t.need (s.env i) x = t.need (s.env j) x := by
  have hfind : (s.env i).index.find? x = (s.env j).index.find? x := h.same x hx
  rw [need, need, hfind, Env.isDeclarable_congr h hx]
  rfl

/-- What an identity brings up is found under it. -/
theorem Heeds.need (ht : t.Heeds asked) (h : i.AgreesOn j asked) (hx : asked x) :
    (t.need (s.env i) x).Heeds asked := by
  rcases need_cases (s.env i) t x with ⟨_, hneed⟩ | ⟨_, _, hneed⟩ | ⟨d, hfind, _, _, _, hneed⟩
  · rw [hneed]
    exact ht
  · rw [hneed]
    exact ht
  · intro e he
    have hpending : (t.need (s.env i) x).pending = t.pending ++ [d] := by
      rw [hneed, demand, pending_register]
    rw [hpending] at he
    rcases List.mem_append.mp he with hold | hnew
    · exact ht e hold
    · obtain rfl := List.mem_singleton.mp hnew
      exact h.leads x e hx hfind

theorem needAll_congr (h : i.AgreesOn j asked) (hnames : ∀ y ∈ names, asked y) (t : Conversion) :
    t.needAll (s.env i) names = t.needAll (s.env j) names := by
  induction names generalizing t with
  | nil => rfl
  | cons name rest ih =>
      have hneed := need_congr (s := s) h (hnames name List.mem_cons_self) t
      have hrest := ih (fun y hy => hnames y (List.mem_cons_of_mem _ hy)) (t.need (s.env i) name)
      exact hrest.trans (by rw [hneed]; rfl)

theorem Heeds.needAll (ht : t.Heeds asked) (h : i.AgreesOn j asked) (hnames : ∀ y ∈ names, asked y) :
    (t.needAll (s.env i) names).Heeds asked := by
  induction names generalizing t with
  | nil => exact ht
  | cons name rest ih =>
      exact ih (ht.need h (hnames name List.mem_cons_self))
        fun y hy => hnames y (List.mem_cons_of_mem _ hy)

theorem target_congr (h : i.AgreesOn j asked) (t : Conversion) {r : TypeRef}
    (hr : ∀ y ∈ r.identities, asked y) : t.target (s.env i) r = t.target (s.env j) r := by
  refine Env.target_congr h (fun x hx => ?_) r hr
  rw [isDeclared, isDeclared, Env.isDeclarable_congr h hx]

theorem convert_congr (h : i.AgreesOn j asked) (hd : d.MentionsOnly asked) (t : Conversion)
    (c : Converter) : t.convert (s.env i) strategy c d = t.convert (s.env j) strategy c d := by
  have hneeds : (s.env i).needs = (s.env j).needs := funext fun r => Env.needs_congr s i j r
  have hbody : c.body (t.target (s.env i)) strategy d = c.body (t.target (s.env j)) strategy d := by
    refine Converter.body_congr fun r hr => target_congr h t ?_
    exact hd r (Converter.references_subset c d hr)
  have hall := needAll_congr (s := s) h (fun y hy => hd.needs (s.env i) c hy) t
  rw [hneeds] at hall
  simp only [convert, hneeds, hbody, hall]

theorem Heeds.convert (ht : t.Heeds asked) (h : i.AgreesOn j asked) (hd : d.MentionsOnly asked)
    (strategy : Nullability) (c : Converter) : (t.convert (s.env i) strategy c d).Heeds asked := by
  rcases convert_cases (s.env i) strategy t c d with ⟨_, _, hconvert⟩ | ⟨_, hconvert⟩
  · rw [hconvert]
    exact ht.needAll h fun y hy => hd.needs (s.env i) c hy
  · rw [hconvert]
    exact ht

theorem converts_congr (h : i.AgreesOn j asked) {types : List Descriptor}
    (htypes : ∀ d ∈ types, d.MentionsOnly asked) (strategy : Nullability) (c : Converter)
    (ht : t.Heeds asked) :
    types.foldl (fun t d => t.convert (s.env i) strategy c d) t =
        types.foldl (fun t d => t.convert (s.env j) strategy c d) t ∧
      (types.foldl (fun t d => t.convert (s.env i) strategy c d) t).Heeds asked := by
  induction types generalizing t with
  | nil => exact ⟨rfl, ht⟩
  | cons d rest ih =>
      have hd := htypes d List.mem_cons_self
      have hrest := ih (fun e he => htypes e (List.mem_cons_of_mem _ he))
        (ht.convert (s := s) h hd strategy c)
      rw [List.foldl_cons, List.foldl_cons, ← convert_congr h hd t c]
      exact hrest

theorem drain_congr (h : i.AgreesOn j asked) (ht : t.Heeds asked) :
    t.drain (s.env i) strategy converters = t.drain (s.env j) strategy converters := by
  fun_induction drain (s.env i) strategy converters t with
  | case1 t hnone => rw [drain_of_none hnone]
  | case2 t d u htake e hconv => rw [drain_of_error htake hconv]
  | case3 t d u htake c hconv _ ih =>
      obtain ⟨hpending, _⟩ := takePending?_eq_some htake
      have hd : d.MentionsOnly asked := ht d (hpending ▸ List.mem_cons_self)
      have hu : u.Heeds asked := fun e he => ht e (hpending ▸ List.mem_cons_of_mem _ he)
      rw [drain_of_some htake hconv, ← convert_congr h hd, ih (hu.convert h hd strategy c)]

theorem prepareAll_congr (s : Setup) (i j : Index) (c : Converter) (types : List Descriptor)
    (t : Conversion) : t.prepareAll (s.env i) c types = t.prepareAll (s.env j) c types := by
  induction types generalizing t with
  | nil => rfl
  | cons d rest ih =>
      rw [prepareAll, prepareAll, ih]
      rfl

theorem convertRole_congr (h : i.AgreesOn j asked) {types : List Descriptor}
    (htypes : ∀ d ∈ types, d.MentionsOnly asked) (c : Converter) (ht : t.Heeds asked) :
    t.convertRole (s.env i) strategy converters c types =
      t.convertRole (s.env j) strategy converters c types := by
  -- preparing the types puts nothing into the queue
  obtain ⟨hpending, _, haccepted, _⟩ := prepareAll_spec (s.env i) c types t
  have hprepared : (t.prepareAll (s.env i) c types).2.Heeds asked := by
    rw [Heeds, hpending]
    exact ht
  obtain ⟨hconverts, hheeds⟩ := converts_congr (s := s) h
    (fun d hd => htypes d (haccepted d hd).1) strategy c hprepared
  have hphases : ∀ k : Index, t.convertRole (s.env k) strategy converters c types =
      ((t.prepareAll (s.env k) c types).1.foldl (fun t d => t.convert (s.env k) strategy c d)
        (t.prepareAll (s.env k) c types).2).drain (s.env k) strategy converters := fun _ => rfl
  rw [hphases, hphases, ← prepareAll_congr s i j, ← hconverts]
  exact drain_congr h hheeds

end Conversion

/-! ## Runs -/

/-- Only the results of a step count for what comes after it. -/
theorem bind_congr_of_ok {ε α β : Type} {x : Except ε α} {f g : α → Except ε β}
    (h : ∀ a, x = .ok a → f a = g a) : x >>= f = x >>= g := by
  cases x with
  | error e => rfl
  | ok a => exact h a rfl

namespace Setup

variable {names : Names} {converter : Option Converter} {t u : Conversion}

theorem convertRole_congr (h : i.AgreesOn j asked) (hnames : ∀ x ∈ names, asked x)
    (ht : t.Heeds asked) : s.convertRole i converter names t = s.convertRole j converter names t := by
  cases converter with
  | none => rfl
  | some c =>
      have htypes : names.toList.filterMap i.find? = names.toList.filterMap j.find? :=
        h.known s.custom hnames
      have hmentions : ∀ d ∈ names.toList.filterMap i.find?, d.MentionsOnly asked := by
        intro d hd
        obtain ⟨x, hx, hfind⟩ := List.mem_filterMap.mp hd
        exact h.leads x d (hnames x hx) hfind
      rw [convertRole, convertRole, ← htypes]
      exact Conversion.convertRole_congr h hmentions c ht

/-- Between passes nothing waits. -/
theorem pending_convertRole (h : s.convertRole i converter names t = .ok u) (ht : t.pending = []) :
    u.pending = [] := by
  cases converter with
  | none =>
      obtain rfl := Except.ok.inj h
      exact ht
  | some c => exact (Conversion.drain_keeps (I := fun _ => True) (fun _ _ _ _ _ _ _ => trivial) h
      trivial).2

theorem convertAll_congr_on (h : i.AgreesOn j asked) (hcl : ∀ x, cl.contains x = true → asked x) :
    s.convertAll i cl = s.convertAll j cl := by
  have henums : ∀ x ∈ cl.enums, asked x := Classification.asked_of_enums hcl
  have hmodels : ∀ x ∈ cl.models, asked x := Classification.asked_of_models hcl
  have hrests : ∀ x ∈ cl.rests, asked x := Classification.asked_of_rests hcl
  have hstart : s.start i cl = s.start j cl := by
    have hall : ∀ x ∈ cl.enums.toList ++ cl.models.toList ++ cl.rests.toList, asked x := by
      intro x hx
      rcases List.mem_append.mp hx with hx | hrest
      · rcases List.mem_append.mp hx with henum | hmodel
        · exact henums x henum
        · exact hmodels x hmodel
      · exact hrests x hrest
    rw [start, start, List.filterMap_congr fun x hx => h.same x (hall x hx)]
    rfl
  have hnone : (s.start i cl).pending = [] := (place_spec _ _ _).2.2
  have hpasses : ∀ k : Index, s.convertAll k cl =
      s.convertRole k (some .enum) cl.enums (s.start k cl) >>= fun first =>
        s.convertRole k s.converters.model cl.models first >>= fun second =>
          s.convertRole k s.converters.rest cl.rests second := fun _ => rfl
  rw [hpasses, hpasses, ← hstart, ← convertRole_congr h henums (Conversion.heeds_of_nil hnone)]
  refine bind_congr_of_ok fun first hfirst => ?_
  have hfirstNone := pending_convertRole hfirst hnone
  rw [← convertRole_congr h hmodels (Conversion.heeds_of_nil hfirstNone)]
  refine bind_congr_of_ok fun second hsecond => ?_
  exact convertRole_congr h hrests
    (Conversion.heeds_of_nil (pending_convertRole hsecond hfirstNone))

/-- Runs over the same candidates agree when their indexes do, from the candidates on. -/
theorem run_congr_on {discovery discovery' : Discovery}
    (h : (index discovery).AgreesOn (index discovery') asked)
    (hcandidates : discovery.candidates = discovery'.candidates)
    (hasked : ∀ d ∈ discovery.candidates, asked d.name)
    (hfailures : discovery.failures = discovery'.failures) : s.run discovery = s.run discovery' := by
  -- the filters see the same types, and exploration starts from their identities
  have hfiltered : s.filtered discovery = s.filtered discovery' := by
    rw [filtered, filtered, ← hcandidates, List.filterMap_congr fun d hd => h.same d.name (hasked d hd)]
  have hgiven : ∀ x, (s.filtered discovery).contains x = true → asked x := by
    intro x hx
    obtain ⟨d, hd, hname⟩ : ∃ d ∈ discovery.candidates.filterMap fun d =>
        (index discovery).find? d.name, d.name = x := by
      rcases Classification.contains_iff.mp hx with hin | hin | hin <;>
        obtain ⟨d, hd, _, hname⟩ := Classification.mem_named_iff.mp hin <;>
        exact ⟨d, hd, hname⟩
    obtain ⟨o, ho, hfind⟩ := List.mem_filterMap.mp hd
    have hsame : d.name = o.name := Index.name_of_find? hfind
    exact hname ▸ hsame ▸ hasked o ho
  have hclassified : ∀ x, (s.classified discovery).contains x = true → asked x :=
    (h.explore s.custom hgiven).2
  have hsame : s.classified discovery = s.classified discovery' := by
    refine (h.explore s.custom hgiven).1.trans ?_
    rw [hfiltered]
    rfl
  have hwarnings : s.earlyWarnings discovery (index discovery) (s.classified discovery) =
      s.earlyWarnings discovery' (index discovery') (s.classified discovery) := by
    rw [earlyWarnings, earlyWarnings, hfailures, h.restMentions s.custom hclassified]
  rw [run_eq, run_eq, ← hsame, ← hwarnings, convertAll_congr_on h hclassified]

end Setup

/-- A type outside the packages of a run that no other type mentions leaves no trace, wherever it stands
in the input and whatever it is: the run gives the same error, or the same modules and declarations in
the same order, from which the same files are printed, and the same warnings. -/
theorem run_insert_unmentioned {before after : List Descriptor} {packages : List String}
    (hnested : d.nested = []) (houtside : inPackages d.name packages = false)
    (hunmentioned : ∀ e ∈ flatten (before ++ after), ∀ r ∈ e.allReferences, d.name ∉ r.identities) :
    s.run (.ofTypes (before ++ d :: after) packages) = s.run (.ofTypes (before ++ after) packages) := by
  -- the new type is found under its own identity only, and is no candidate
  have hflatten : flatten (before ++ d :: after) = flatten before ++ ([d.bare] ++ flatten after) := by
    rw [flatten_append, flatten_cons, hnested]
    rfl
  have hfirst : ∀ x, x ≠ d.name → firstOf (before ++ d :: after) x = firstOf (before ++ after) x := by
    intro x hx
    have hother : d.bare.name ≠ x := Ne.symm hx
    have hskip : ([d.bare].filter (·.kind != .annotationType)).find? (·.name == x) = none := by
      rw [List.find?_filter]
      simp [hother]
    simp only [firstOf, hflatten, flatten_append, List.filter_append, List.find?_append, hskip,
      Option.none_or]
  have hagrees : (Setup.index (.ofTypes (before ++ after) packages)).AgreesOn
      (Setup.index (.ofTypes (before ++ d :: after) packages)) (· ≠ d.name) := by
    constructor
    · intro x hx
      rw [find?_index, find?_index, hfirst x hx]
    · intro x e _ hfind r hr y hy hname
      rw [find?_index] at hfind
      have he := (List.mem_filter.mp (List.mem_of_find?_eq_some hfind)).1
      exact hunmentioned e he r hr (hname ▸ hy)
  have hcandidates : (Discovery.ofTypes (before ++ after) packages).candidates =
      (Discovery.ofTypes (before ++ d :: after) packages).candidates := by
    have hout : inPackages d.bare.name packages = false := houtside
    have hskip : ([d.bare].filter (·.kind != .annotationType)).filter
        (fun e => inPackages e.name packages) = [] := by
      rw [List.filter_filter]
      simp [hout]
    simp only [Discovery.ofTypes, hflatten, flatten_append, List.filter_append, hskip, List.nil_append]
  refine (Setup.run_congr_on hagrees hcandidates ?_ rfl).symm
  intro e he hname
  have hin : inPackages e.name packages = true := (List.mem_filter.mp he).2
  rw [hname, houtside] at hin
  exact Bool.false_ne_true hin

theorem run_insert_shop : shopSetup.run (.ofTypes (shopTypes.take 1 ++
      { name := "office.Order", kind := .classType, superclass := some (.named "shop.Order" []) } ::
        shopTypes.drop 1) ["shop"]) =
    shopSetup.run (.ofTypes (shopTypes.take 1 ++ shopTypes.drop 1) ["shop"]) := by
  refine run_insert_unmentioned rfl (by decide +kernel) ?_
  intro e he r hr
  revert r
  revert e
  decide +kernel

end TypeGraph
