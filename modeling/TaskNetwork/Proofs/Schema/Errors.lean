import TaskNetwork.Proofs.Schema.Semantics

/-!
# Validity and errors

The decision and the list of errors are computed side by side. They agree: a value is valid exactly
when nothing is found wrong with it.
-/

namespace TaskNetwork

/-- An assertion with nothing to say against a value holds of it. -/
theorem Assertion.holds_of_faults_eq_nil {a : Assertion} {v : Json} (h : a.faults v = []) :
    a.holds v = true := by
  cases a with
  | required keys =>
    simp only [faults, List.map_eq_nil_iff, List.filter_eq_nil_iff] at h
    simpa [holds] using Or.inr fun key hkey => by simpa using h key hkey
  | requiredBeside lists =>
    simp only [faults, List.flatMap_eq_nil_iff] at h
    simp only [holds, List.all_eq_true]
    rintro ⟨key, others⟩ hmem
    have hothers := h _ hmem
    cases hkey : v.keys.contains key with
    | false => simp
    | true =>
      simp only [hkey, if_true, List.map_eq_nil_iff, List.filter_eq_nil_iff] at hothers
      simpa using fun other hother => by simpa using hothers other hother
  | noFields =>
    cases v with
    | obj fields => cases fields <;> simp [faults] at h
    | _ => simp [faults] at h
  | _ => simp [faults] at h

/-- No member of a list yields anything exactly when all of them pass. -/
theorem flatMap_eq_nil_iff_all {α β : Type} {l : List α} {f : α → List β} {p : α → Bool}
    (h : ∀ x ∈ l, f x = [] ↔ p x = true) : l.flatMap f = [] ↔ l.all p = true := by
  simp only [List.flatMap_eq_nil_iff, List.all_eq_true]
  exact forall₂_congr h

/-- No member is left over exactly when all of them are covered or pass. -/
theorem filter_eq_nil_iff_all {α : Type} {l : List α} {covered passes : α → Bool} :
    l.filter (fun x => !covered x && !passes x) = [] ↔
      l.all (fun x => covered x || passes x) = true := by
  simp only [List.filter_eq_nil_iff, List.all_eq_true]
  refine forall₂_congr fun x _ => ?_
  cases covered x <;> cases passes x <;> simp

theorem filter_zip_eq_nil_iff {α : Type} {l : List α} {marks : List Bool}
    (h : l.length = marks.length) :
    ((l.zip marks).filter (·.2)).map Prod.fst = [] ↔ marks.all (!·) = true := by
  induction l generalizing marks with
  | nil =>
    obtain rfl := List.length_eq_zero_iff.mp h.symm
    simp
  | cons x rest ih =>
    cases marks with
    | nil => simp at h
    | cons mark marks => cases mark <;> simp_all

namespace Schema

/-- A part for which decision and errors agree. -/
def Part.Agrees (part : Part) : Prop := ∀ s, part.faults s = [] ↔ part.holds s = true

/-- A view whose parts agree and which has one part for each item. -/
structure View.Agrees (view : View) : Prop where
  items : ∀ item ∈ view.items, item.Agrees
  names : ∀ field ∈ view.fields, field.name.Agrees
  never : ∀ field ∈ view.fields, field.name.holds never = false
  values : ∀ field ∈ view.fields, field.value.Agrees
  length : (view.value.arr?.getD []).length = view.items.length

variable {view : View} {refs : References} {follow : String → List SchemaError}

theorem View.Agrees.field? (h : view.Agrees) {key : String} {part : Part}
    (hpart : view.field? key = some part) : part.Agrees := by
  obtain ⟨field, hfield, rfl⟩ := Option.map_eq_some_iff.mp hpart
  exact h.values field (List.mem_of_find?_eq_some hfield)

mutual

theorem faults_eq_nil_iff (h : view.Agrees)
    (hfollow : ∀ name, follow name = [] ↔ refs.holds name = true) (s : Schema) :
    s.faults view refs follow = [] ↔ s.holds view refs = true := by
  cases s with
  | all parts => simpa only [faults, holds] using faultsAll_eq_nil_iff h hfollow parts
  | never => simp [faults, holds]
  | assert a =>
    simp only [faults, holds]
    split
    · simp_all
    · rename_i hfalse
      exact ⟨Assertion.holds_of_faults_eq_nil, fun htrue => absurd htrue hfalse⟩
  | anyOf options => simp [faults]
  | oneOf options =>
    simp only [faults, holds]
    split <;> simp_all
  | not schema source => simp [faults, holds]
  | ifThenElse condition thenPart elsePart =>
    simp only [faults, holds]
    split
    · exact faults_eq_nil_iff h hfollow thenPart
    · exact faults_eq_nil_iff h hfollow elsePart
  | properties fields =>
    simp only [faults, holds]
    refine flatMap_eq_nil_iff_all fun (key, schema) _ => ?_
    cases hpart : view.field? key with
    | none => simp
    | some part => simpa using h.field? hpart schema
  | patternProperties fields =>
    simp only [faults, holds]
    refine flatMap_eq_nil_iff_all fun (p, schema) _ => ?_
    refine flatMap_eq_nil_iff_all fun field hfield => ?_
    cases p.occursIn field.key <;> simp [h.values field hfield schema]
  | additional declared schema =>
    simp only [faults, holds]
    refine flatMap_eq_nil_iff_all fun field hfield => ?_
    cases declared.contains field.key <;> simp [h.values field hfield schema]
  | propertyNames schema =>
    have names : view.fields.flatMap (·.name.faults schema) = [] ↔
        view.fields.all (·.name.holds schema) = true :=
      flatMap_eq_nil_iff_all fun field hfield => h.names field hfield schema
    cases schema with
    | never =>
      cases hfields : view.fields with
      | nil => simp [faults, holds, hfields]
      | cons field rest => simp [faults, holds, hfields, h.never field (by simp [hfields])]
    | _ => simpa only [faults, holds] using names
  | whereField fields => simpa only [faults, holds] using faultsWhereField_eq_nil_iff h hfollow fields
  | firstItems schemas =>
    simp only [faults, holds]
    refine flatMap_eq_nil_iff_all fun (item, schema) hmem => ?_
    exact h.items item (List.of_mem_zip hmem).1 schema
  | itemsFrom skipped schema =>
    simp only [faults, holds]
    refine flatMap_eq_nil_iff_all fun item hmem => ?_
    exact h.items item (List.mem_of_mem_drop hmem) schema
  | contains schema least most => simp [faults]
  | unevaluatedProperties beside schema =>
    simp only [faults, holds, ← filter_eq_nil_iff_all]
    split <;> rename_i hkeys
    · simpa using hkeys
    · simpa using hkeys
  | unevaluatedItems beside schema =>
    have hvalues : unevaluatedValues view refs beside schema = [] ↔
        holds view refs (unevaluatedItems beside schema) = true := by
      simp only [unevaluatedValues, holds]
      rw [filter_zip_eq_nil_iff (by simpa using h.length)]
      simp
    simp only [faults, ← hvalues]
    split <;> simp_all
  | ref name => simpa only [faults, holds] using hfollow name

theorem faultsAll_eq_nil_iff (h : view.Agrees)
    (hfollow : ∀ name, follow name = [] ↔ refs.holds name = true) (parts : List Schema) :
    faultsAll view refs follow parts = [] ↔ holdsAll view refs parts = true := by
  cases parts with
  | nil => simp [faultsAll, holdsAll]
  | cons part rest =>
    simp [faultsAll, holdsAll, faults_eq_nil_iff h hfollow part,
      faultsAll_eq_nil_iff h hfollow rest]

theorem faultsWhereField_eq_nil_iff (h : view.Agrees)
    (hfollow : ∀ name, follow name = [] ↔ refs.holds name = true)
    (fields : List (String × Schema)) :
    faultsWhereField view refs follow fields = [] ↔ holdsWhereField view refs fields = true := by
  cases fields with
  | nil => simp [faultsWhereField, holdsWhereField]
  | cons field rest =>
    obtain ⟨key, schema⟩ := field
    have hrest := faultsWhereField_eq_nil_iff h hfollow rest
    cases hkey : view.hasField key with
    | false => simpa [faultsWhereField, holdsWhereField, hkey] using hrest
    | true =>
      simp [faultsWhereField, holdsWhereField, hkey, hrest, faults_eq_nil_iff h hfollow schema]

end

/-! ## Values -/

variable (definitions : List (String × Schema))

/-- Both sides follow references equally far. -/
theorem faultsWithin_eq_nil_iff (h : view.Agrees) (count : Nat) (s : Schema) :
    faultsWithin definitions view count s = [] ↔
      s.holds view (references definitions view count) = true := by
  induction count generalizing s with
  | zero => exact faults_eq_nil_iff h (fun name => by simp [references]) s
  | succ count ih =>
    refine faults_eq_nil_iff h (fun name => ?_) s
    cases hs : definitions.lookup name with
    | none => simp [references, hs]
    | some s => simpa [references, hs] using ih s

theorem View.Agrees.part (h : view.Agrees) : (view.part definitions).Agrees :=
  faultsWithin_eq_nil_iff definitions h definitions.length

theorem agrees_scalar {v : Json} (h : v.arr? = none) : ({ value := v } : View).Agrees :=
  ⟨by simp, by simp, by simp, by simp, by simp [h]⟩

theorem viewFields_names (members : List (String × Json)) :
    ∀ field ∈ viewFields definitions members,
      field.name.Agrees ∧ field.name.holds never = false := by
  induction members with
  | nil => simp [viewFields]
  | cons member rest ih =>
    obtain ⟨key, value⟩ := member
    simp only [viewFields, List.forall_mem_cons]
    have hkey : (Json.str key).arr? = none := rfl
    exact ⟨⟨(agrees_scalar hkey).part definitions, rfl⟩, ih⟩

mutual

theorem view_agrees (v : Json) : (Schema.view definitions v).Agrees := by
  cases v with
  | arr values =>
    have length : (Schema.view definitions (.arr values)).items.length = values.length := by
      simp [view_items]
    exact ⟨viewItems_agree values, by simp [Schema.view], by simp [Schema.view],
      by simp [Schema.view], length.symm⟩
  | obj members =>
    have names := viewFields_names definitions members
    exact ⟨by simp [Schema.view], fun field h => (names field h).1, fun field h => (names field h).2,
      viewFields_agree members, rfl⟩
  | null | bool b | int i | float x | str s =>
    simp only [Schema.view]
    exact agrees_scalar (by simp [Json.arr?])

theorem viewItems_agree (values : List Json) :
    ∀ item ∈ viewItems definitions values, item.Agrees := by
  cases values with
  | nil => simp [viewItems]
  | cons value rest =>
    simp only [viewItems, List.forall_mem_cons]
    exact ⟨(view_agrees value).part definitions, viewItems_agree rest⟩

theorem viewFields_agree (members : List (String × Json)) :
    ∀ field ∈ viewFields definitions members, field.value.Agrees := by
  cases members with
  | nil => simp [viewFields]
  | cons member rest =>
    obtain ⟨key, value⟩ := member
    simp only [viewFields, List.forall_mem_cons]
    exact ⟨(view_agrees value).part definitions, viewFields_agree rest⟩

end

/-- A value is valid exactly when nothing is found wrong with it. -/
theorem errors_eq_nil_iff (v : Json) (s : Schema) :
    errors definitions v s = [] ↔ accepts definitions v s = true :=
  (view_agrees definitions v).part definitions s

end Schema

/-- The value is valid, and nothing is found wrong with it. -/
def SchemaDocument.Validates (s : SchemaDocument) (v : Json) : Prop :=
  s.accepts v = true ∧ s.errors v = []

theorem SchemaDocument.validates_iff {s : SchemaDocument} {v : Json} :
    s.Validates v ↔ s.accepts v = true := by
  simp only [Validates, errors, accepts, Schema.errors_eq_nil_iff, and_self]

theorem SchemaDocument.errors_eq_nil_iff {s : SchemaDocument} {v : Json} :
    s.errors v = [] ↔ s.Validates v :=
  (Schema.errors_eq_nil_iff s.definitions v s.root).trans validates_iff.symm

end TaskNetwork
