import TaskNetwork.Effect.Encoding

/-!
# The lists of effects

Both lists of an operator are written into one array. Each node still shows the list it comes from,
even when parts of it could not be written.
-/

namespace TaskNetwork

namespace EffectMode

def ofLabel? : String → Option EffectMode
  | "delete" => some delete
  | "add" => some add
  | _ => none

theorem ofLabel?_label (mode : EffectMode) : ofLabel? mode.label = some mode := by
  cases mode <;> rfl

def ofIsAdd (isAdd : Bool) : EffectMode := if isAdd then add else delete

theorem ofIsAdd_isAdd (mode : EffectMode) : ofIsAdd mode.isAdd = mode := by
  cases mode <;> rfl

end EffectMode

/-- The list that an effect node states: a deleted atom by standing inside a `not`, a conditional
effect by its flag, and others by a label. -/
def Json.effectMode? (v : Json) : Option EffectMode :=
  match (v.get? "type").bind str? with
  | some "not" => some .delete
  | some "predicate" => some .add
  | some "forall" =>
    match v.get? "add_list" with
    | some (bool isAdd) => some (.ofIsAdd isAdd)
    | _ => none
  | some _ => ((v.get? "effect_type").bind str?).bind EffectMode.ofLabel?
  | none => none

/-- The effects of one of the lists. -/
def EffectLists.ofMode (effects : EffectLists) : EffectMode → List Effect
  | .delete => effects.delete
  | .add => effects.add

theorem Predicate.effectMode?_encodeEffectAt {enc : Encoder} {depth : Nat}
    (h : enc.allows depth = true) (mode : EffectMode) (p : Predicate) :
    (p.encodeEffectAt enc mode depth).effectMode? = some mode := by
  cases mode <;>
    simp [encodeEffectAt, encodeAt, h, Json.effectMode?, Json.str?, List.lookup_cons]

theorem Effect.effectMode?_encodeAt {enc : Encoder} {depth : Nat} (h : enc.allows depth = true)
    (mode : EffectMode) (e : Effect) : (e.encodeAt enc mode depth).effectMode? = some mode := by
  rw [encodeAt.eq_def, if_pos h]
  cases e with
  | atom p => exact Predicate.effectMode?_encodeEffectAt h mode p
  | all premise templates =>
    simp [Json.effectMode?, Json.str?, List.lookup_cons, EffectMode.ofIsAdd_isAdd]
  | protect target | unknown kind =>
    simp [Json.effectMode?, Json.str?, List.lookup_cons, EffectMode.ofLabel?_label]

theorem EffectLists.map_entries {α : Type} (f : EffectMode → Effect → α) (effects : EffectLists) :
    (effects.entries.map fun (mode, e) => f mode e) =
      effects.delete.map (f .delete) ++ effects.add.map (f .add) := by
  simp [entries, Function.comp_def]

/-- The nodes of one of the lists are those that state it. -/
theorem EffectLists.filter_effectMode? {enc : Encoder} (h : enc.allows 1 = true)
    (effects : EffectLists) (mode : EffectMode) :
    (effects.entries.map fun (mode, e) => e.encodeAt enc mode 1).filter
        (·.effectMode? == some mode) =
      (effects.ofMode mode).map (Effect.encodeAt enc mode 1) := by
  have stated (own : EffectMode) (es : List Effect) :
      (es.map (Effect.encodeAt enc own 1)).filter (·.effectMode? == some mode) =
        if own = mode then es.map (Effect.encodeAt enc own 1) else [] := by
    split
    · rename_i heq
      refine List.filter_eq_self.mpr ?_
      simp [Effect.effectMode?_encodeAt h, heq]
    · rename_i hne
      refine List.filter_eq_nil_iff.mpr ?_
      simp [Effect.effectMode?_encodeAt h, hne]
  rw [map_entries fun mode e => e.encodeAt enc mode 1, List.filter_append, stated, stated]
  cases mode <;> simp [ofMode]

/-! ## Templates -/

/-- A `not` around one node. -/
def Json.IsNegation (v : Json) : Prop :=
  ∃ negated, v.get? "type" = some (str "not") ∧ v.get? "expression" = some (arr [negated])

/-- The flag of a conditional effect tells whether its templates are negated: all of them are if it
deletes, and none is if it adds. -/
def Json.FlagsTemplates (v : Json) : Prop :=
  ∃ isAdd templates, v.get? "add_list" = some (bool isAdd) ∧
    v.get? "predicates" = some (arr templates) ∧
    ∀ template ∈ templates,
      if isAdd then template.get? "type" ≠ some (str "not") else template.IsNegation

/-- A predicate is no negation, and neither is what stands in its place when it is too deep. -/
theorem Predicate.get?_type_encodeAt (enc : Encoder) (c : Category) (depth : Nat) (p : Predicate) :
    (p.encodeAt enc c depth).get? "type" ≠ some (.str "not") := by
  rw [encodeAt]
  split <;> simp [Encoder.tooDeep, Fault.node, List.lookup_cons]

theorem Effect.flagsTemplates_encodeAt {enc : Encoder} {depth : Nat} {mode : EffectMode}
    {e : Effect} (htype : (e.encodeAt enc mode depth).get? "type" = some (.str "forall")) :
    (e.encodeAt enc mode depth).FlagsTemplates := by
  rw [encodeAt.eq_def] at htype ⊢
  split at htype
  case isFalse => simp [Encoder.tooDeep, Fault.node, List.lookup_cons] at htype
  case isTrue hdepth =>
    rw [if_pos hdepth]
    cases e with
    | atom p =>
      cases mode <;>
        simp [Predicate.encodeEffectAt, Predicate.encodeAt, hdepth, List.lookup_cons] at htype
    | all premise templates =>
      refine ⟨mode.isAdd, _, rfl, rfl, ?_⟩
      rw [List.forall_mem_map]
      intro p _
      cases mode with
      | delete => exact ⟨_, rfl, rfl⟩
      | add => exact p.get?_type_encodeAt enc .constant (depth + 1)
    | protect target | unknown kind => simp [List.lookup_cons] at htype

/-- The array of an operator's effects has a node for each, deletes before adds, and each node tells
by itself which of the two it is; a conditional effect tells it of its templates as well. -/
theorem EffectLists.modes_encode (enc : Encoder) (h : 1 ≤ enc.options.maxDepth)
    (effects : EffectLists) :
    ∃ nodes, effects.encode enc = .arr nodes ∧
      nodes = effects.delete.map (Effect.encodeAt enc .delete 1) ++
        effects.add.map (Effect.encodeAt enc .add 1) ∧
      nodes.length = effects.delete.length + effects.add.length ∧
      nodes.map Json.effectMode? = List.replicate effects.delete.length (some .delete) ++
        List.replicate effects.add.length (some .add) ∧
      ∀ node ∈ nodes, node.get? "type" = some (.str "forall") → node.FlagsTemplates := by
  have hallows : enc.allows 1 = true := decide_eq_true h
  have stated (mode : EffectMode) (es : List Effect) :
      (es.map (Effect.encodeAt enc mode 1)).map Json.effectMode? =
        List.replicate es.length (some mode) := by
    rw [List.map_map, List.eq_replicate_iff]
    refine ⟨List.length_map _, List.forall_mem_map.mpr ?_⟩
    intro e _
    exact e.effectMode?_encodeAt hallows mode
  refine ⟨_, rfl, map_entries (fun mode e => e.encodeAt enc mode 1) effects, ?_, ?_, ?_⟩
  · simp [entries]
  · rw [map_entries fun mode e => e.encodeAt enc mode 1, List.map_append, stated, stated]
  · rw [List.forall_mem_map]
    intro entry _
    exact Effect.flagsTemplates_encodeAt

/-- The premise of the deleting effect has too few operands, and everything else is too deep. -/
theorem EffectLists.modes_encode_of_cut :
    let enc : Encoder := ⟨.empty, { maxDepth := 1 }⟩
    let effects : EffectLists :=
      { delete := [.all (.and []) [⟨0, .nil⟩], .atom ⟨1, .nil⟩], add := [.protect ⟨0, .nil⟩] }
    1 ≤ enc.options.maxDepth ∧ ∃ nodes, effects.encode enc = .arr nodes ∧
      nodes.map Json.effectMode? = [some .delete, some .delete, some .add] := by
  intro enc effects
  have hdepth : 1 ≤ enc.options.maxDepth := by decide
  obtain ⟨nodes, hnodes, -, -, hmodes, -⟩ := effects.modes_encode enc hdepth
  exact ⟨hdepth, nodes, hnodes, hmodes⟩

end TaskNetwork
