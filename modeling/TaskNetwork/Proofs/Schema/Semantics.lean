import TaskNetwork.Schema.Validation

/-!
# The meaning of schemas

Validity is decided on views and with a bound on chains of references. Here it is given by one
equation for each keyword, in which neither occurs: a schema says of a value what its parts say of
the value, of its items and of its fields. The equation for references needs definitions that do not
go round in a circle at one value, which a rank of their names shows.
-/

namespace TaskNetwork

namespace Schema

variable {definitions : List (String × Schema)}

/-! ## Views -/

@[simp] theorem view_value (v : Json) : (view definitions v).value = v := by
  cases v <;> rfl

theorem view_items (values : List Json) :
    (view definitions (.arr values)).items =
      values.map fun item => (view definitions item).part definitions := by
  simp only [view]
  induction values with
  | nil => rfl
  | cons item rest ih => simp [viewItems, ih]

theorem view_field? (members : List (String × Json)) (key : String) :
    (view definitions (.obj members)).field? key =
      (members.lookup key).map fun v => (view definitions v).part definitions := by
  simp only [view, View.field?]
  induction members with
  | nil => rfl
  | cons member rest ih =>
    obtain ⟨k, v⟩ := member
    by_cases h : k = key
    · simp [viewFields, h]
    · have hk : (k == key) = false := by simp [h]
      have hk' : (key == k) = false := by simp [Ne.symm h]
      simp [viewFields, List.lookup_cons, hk, hk', ih]

/-! ## References -/

mutual

/-- Do all references at the value itself have a rank below the bound? Keywords that ask what other
ones cover are left out. -/
def refersBelow (rank : String → Nat) (bound : Nat) : Schema → Bool
  | all parts | anyOf parts | oneOf parts => allReferBelow rank bound parts
  | not schema _ => schema.refersBelow rank bound
  | ifThenElse condition thenPart elsePart =>
    condition.refersBelow rank bound && thenPart.refersBelow rank bound &&
      elsePart.refersBelow rank bound
  | whereField fields => fieldsReferBelow rank bound fields
  | unevaluatedProperties _ _ | unevaluatedItems _ _ => false
  | ref name => rank name < bound
  | _ => true

def allReferBelow (rank : String → Nat) (bound : Nat) : List Schema → Bool
  | [] => true
  | part :: rest => part.refersBelow rank bound && allReferBelow rank bound rest

def fieldsReferBelow (rank : String → Nat) (bound : Nat) : List (String × Schema) → Bool
  | [] => true
  | (_, schema) :: rest => schema.refersBelow rank bound && fieldsReferBelow rank bound rest

end

/-- Every definition refers only to definitions of a lower rank, and no rank is as large as the
number of definitions. -/
def Ranked (definitions : List (String × Schema)) (rank : String → Nat) : Prop :=
  (∀ name, rank name < definitions.length) ∧
    ∀ name schema, definitions.lookup name = some schema →
      schema.refersBelow rank (rank name) = true

section Congruence

variable {view : View} {refs refs' : References} {rank : String → Nat} {bound : Nat}

mutual

/-- A schema depends only on the references below its bound. -/
theorem holds_congr (agree : ∀ name, rank name < bound → refs.holds name = refs'.holds name)
    (s : Schema) (h : s.refersBelow rank bound = true) :
    s.holds view refs = s.holds view refs' := by
  cases s with
  | all parts => simp only [holds, holdsAll_congr agree parts (by simpa [refersBelow] using h)]
  | anyOf options | oneOf options =>
    simp only [holds, countHolding_congr agree options (by simpa [refersBelow] using h)]
  | not schema source =>
    simp only [holds, holds_congr agree schema (by simpa [refersBelow] using h)]
  | ifThenElse condition thenPart elsePart =>
    simp only [refersBelow, Bool.and_eq_true] at h
    simp only [holds, holds_congr agree condition h.1.1, holds_congr agree thenPart h.1.2,
      holds_congr agree elsePart h.2]
  | whereField fields =>
    simp only [holds, holdsWhereField_congr agree fields (by simpa [refersBelow] using h)]
  | ref name => simpa only [holds] using agree name (by simpa [refersBelow] using h)
  | unevaluatedProperties beside schema | unevaluatedItems beside schema =>
    simp [refersBelow] at h
  | _ => simp only [holds]

theorem holdsAll_congr (agree : ∀ name, rank name < bound → refs.holds name = refs'.holds name)
    (parts : List Schema) (h : allReferBelow rank bound parts = true) :
    holdsAll view refs parts = holdsAll view refs' parts := by
  cases parts with
  | nil => rfl
  | cons part rest =>
    simp only [allReferBelow, Bool.and_eq_true] at h
    simp only [holdsAll, holds_congr agree part h.1, holdsAll_congr agree rest h.2]

theorem countHolding_congr
    (agree : ∀ name, rank name < bound → refs.holds name = refs'.holds name)
    (options : List Schema) (h : allReferBelow rank bound options = true) :
    countHolding view refs options = countHolding view refs' options := by
  cases options with
  | nil => rfl
  | cons option rest =>
    simp only [allReferBelow, Bool.and_eq_true] at h
    simp only [countHolding, holds_congr agree option h.1, countHolding_congr agree rest h.2]

theorem holdsWhereField_congr
    (agree : ∀ name, rank name < bound → refs.holds name = refs'.holds name)
    (fields : List (String × Schema)) (h : fieldsReferBelow rank bound fields = true) :
    holdsWhereField view refs fields = holdsWhereField view refs' fields := by
  cases fields with
  | nil => rfl
  | cons field rest =>
    obtain ⟨key, schema⟩ := field
    simp only [fieldsReferBelow, Bool.and_eq_true] at h
    simp only [holdsWhereField, holds_congr agree schema h.1, holdsWhereField_congr agree rest h.2]

end

end Congruence

/-- Once a reference may be followed by as many others as its rank, the bound does not matter. -/
theorem references_holds_eq {rank : String → Nat} (ranked : Ranked definitions rank)
    (view : View) {n m : Nat} {name : String} (hn : rank name < n) (hm : rank name < m) :
    (references definitions view n).holds name = (references definitions view m).holds name := by
  induction n generalizing m name with
  | zero => omega
  | succ n ih =>
    obtain ⟨m, rfl⟩ : ∃ k, m = k + 1 := ⟨m - 1, by omega⟩
    cases hs : definitions.lookup name with
    | none => simp [references, hs]
    | some s =>
      simp only [references, hs, Option.all_some]
      refine holds_congr (fun other h => ?_) s (ranked.2 name s hs)
      exact ih (by omega) (by omega)

/-! ## One equation for each keyword -/

theorem accepts_eq_holds (v : Json) (s : Schema) :
    accepts definitions v s =
      s.holds (view definitions v) (references definitions (view definitions v)
        definitions.length) := rfl

theorem accepts_all (v : Json) (parts : List Schema) :
    accepts definitions v (all parts) = parts.all (accepts definitions v) := by
  simp only [accepts_eq_holds, holds]
  induction parts with
  | nil => rfl
  | cons part rest ih => simp [holdsAll, ih, accepts_eq_holds]

theorem accepts_assert (v : Json) (a : Assertion) :
    accepts definitions v (assert a) = a.holds v := by
  simp [accepts_eq_holds, holds]

theorem accepts_anyOf (v : Json) (options : List Schema) :
    accepts definitions v (anyOf options) = options.any (accepts definitions v) := by
  simp only [accepts_eq_holds, holds]
  induction options with
  | nil => rfl
  | cons option rest ih =>
    cases h : option.holds (view definitions v)
        (references definitions (view definitions v) definitions.length) with
    | false => simpa [countHolding, accepts_eq_holds, h] using ih
    | true =>
      simp only [countHolding, List.any_cons, accepts_eq_holds, h, if_true, Bool.true_or,
        decide_eq_true_eq]
      omega

/-- The schemas of fields are asked of those fields that are there. -/
theorem accepts_properties (v : Json) (fields : List (String × Schema)) :
    accepts definitions v (properties fields) =
      fields.all fun (key, s) => (v.get? key).all (accepts definitions · s) := by
  simp only [accepts_eq_holds, holds]
  cases v with
  | obj members => simp [view_field?, View.part, Option.all_map]
  | _ => simp [view, View.field?, Json.get?]

theorem accepts_items (v : Json) (s : Schema) :
    accepts definitions v (items s) =
      v.arr?.all fun values => values.all (accepts definitions · s) := by
  simp only [accepts_eq_holds, items, holds]
  cases v with
  | arr values =>
    simp [view_items, View.part, List.all_map, Function.comp_def, Json.arr?]
  | _ => simp [view, Json.arr?]

/-- A reference stands for the definition of its name. -/
theorem accepts_ref {rank : String → Nat} (ranked : Ranked definitions rank) (v : Json)
    (name : String) :
    accepts definitions v (ref name) = (definitions.lookup name).all (accepts definitions v) := by
  have hone : (references definitions (view definitions v) definitions.length).holds name =
      (references definitions (view definitions v) (definitions.length + 1)).holds name :=
    references_holds_eq ranked _ (ranked.1 name) (Nat.lt_succ_of_lt (ranked.1 name))
  simp only [accepts_eq_holds, holds, hone]
  rfl

end Schema

end TaskNetwork
