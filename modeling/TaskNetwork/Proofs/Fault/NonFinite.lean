import TaskNetwork.Proofs.Fault.Presence

/-!
# Numbers without a numeral

A number that is not finite has a text and no JSON numeral. Wherever it stands as a term, the way
down to it passes a faulty part or a call. An error node takes the place of a faulty part. A call is
shown by its text, and in it such a number is like any other; so it is in a fact of a problem.
-/

namespace TaskNetwork

open Json

/-! ## Ways down -/

namespace Part

def isCall : Part → Bool
  | term (.call _ _) => true
  | _ => false

theorem exists_eq_call {p : Part} (h : p.isCall = true) : ∃ f args, p = term (.call f args) := by
  unfold isCall at h
  split at h
  · exact ⟨_, _, rfl⟩
  · cases h

/-- The parts right inside a part, among which are the arguments of a call. -/
def inside (depth : Nat) : Part → List (Nat × Part)
  | term (.call _ args) => args.map fun t => (depth, term t)
  | p => p.below depth

theorem inside_eq_below {p : Part} (h : p.isCall = false) (depth : Nat) :
    p.inside depth = p.below depth := by
  unfold inside
  split
  · cases h
  · rfl

/-- There is a way down from some first parts to a part, past those above it. -/
inductive Way (roots : List (Nat × Part)) : Nat × Part → List (Nat × Part) → Prop
  | root {x : Nat × Part} (h : x ∈ roots) : Way roots x []
  | step {x y : Nat × Part} {above : List (Nat × Part)} (h : Way roots x above)
      (hy : y ∈ x.2.inside x.1) : Way roots y (x :: above)

/-- The first part on a way down that is a fault site or a call. The way is given from its end. -/
def firstStop? (limit : Nat) (way : List (Nat × Part)) : Option (Nat × Part) :=
  way.reverse.find? fun x => x.2.isFault limit x.1 || x.2.isCall

variable {limit : Nat} {roots : List (Nat × Part)} {x y : Nat × Part} {above : List (Nat × Part)}

theorem firstStop?_cons : firstStop? limit (x :: above) =
    (firstStop? limit above).or
      (if x.2.isFault limit x.1 || x.2.isCall then some x else none) := by
  rw [firstStop?, List.reverse_cons, List.find?_append, List.find?_singleton]
  rfl

theorem mem_of_firstStop? (h : firstStop? limit above = some x) : x ∈ above :=
  List.mem_reverse.mp (List.mem_of_find?_eq_some h)

theorem isCall_of_firstStop? (h : firstStop? limit above = some x)
    (sound : x.2.isFault limit x.1 = false) : x.2.isCall = true := by
  simpa [sound] using List.find?_some h

/-- The walk goes down a way to the first fault site or call, or else all the way. -/
theorem Way.reached (h : Way roots x above) :
    Reached limit roots ((firstStop? limit above).getD x).1 ((firstStop? limit above).getD x).2 := by
  induction h with
  | root h => exact .root h
  | @step x z above _ hz ih =>
    rw [firstStop?_cons]
    cases hstop : firstStop? limit above with
    | some y => simpa [hstop] using ih
    | none =>
      have hx : Reached limit roots x.1 x.2 := by simpa [hstop] using ih
      cases hpasses : x.2.isFault limit x.1 || x.2.isCall with
      | true => exact hx
      | false =>
        obtain ⟨sound, hcall⟩ := Bool.or_eq_false_iff.mp hpasses
        rw [inside_eq_below hcall] at hz
        exact hx.step sound hz

/-- A way down to a fault site stops there or before, at a part that is reached. -/
theorem Way.exists_firstStop? (h : Way roots x above) (hfault : x.2.isFault limit x.1 = true) :
    ∃ y, firstStop? limit (x :: above) = some y ∧ Reached limit roots y.1 y.2 := by
  refine ⟨(firstStop? limit above).getD x, ?_, h.reached⟩
  rw [firstStop?_cons, hfault]
  cases firstStop? limit above <;> rfl

end Part

/-! ## Texts -/

namespace Term

variable {enc : Encoder} {t u : Term}

theorem tailText_of_isList_eq_false (h : t.isList = false) :
    t.tailText enc = " . " ++ t.text enc := by
  cases t with
  | call f args =>
    have hopen : " . (call " = " . " ++ "(call " := by decide
    rw [tailText, text, hopen]
    simp only [String.append_assoc]
  | cons head tail => cases h
  | nil => cases h
  | _ => rfl

theorem infix_tailText (h : u ∈ t.elements) :
    (u.text enc).toList <:+: (t.tailText enc).toList := by
  have single (t : Term) (ht : t.isList = false) (h : u ∈ t.elements) :
      (u.text enc).toList <:+: (t.tailText enc).toList := by
    rw [elements_of_isList_eq_false ht, List.mem_singleton] at h
    rw [h, tailText_of_isList_eq_false ht, String.toList_append]
    exact List.infix_append_right
  induction t using Term.rec (motive_2 := fun _ => True) with
  | cons head tail _ ih =>
    rw [tailText, String.toList_append, String.toList_append]
    rcases List.mem_cons.mp (elements_cons head tail ▸ h) with rfl | h
    · exact List.infix_append _ _ _
    · exact (ih h).trans List.infix_append_right
  | nil => cases h
  | var i => exact single _ rfl h
  | const i => exact single _ rfl h
  | num x => exact single _ rfl h
  | call f args => exact single _ rfl h
  | _ => trivial

/-- The text of a term has those of its elements in it. -/
theorem infix_text (h : u ∈ t.elements) : (u.text enc).toList <:+: (t.text enc).toList := by
  cases t with
  | cons head tail =>
    rcases List.mem_cons.mp (elements_cons head tail ▸ h) with rfl | h
    · exact ⟨"(".toList, (tail.tailText enc ++ ")").toList, by simp [text]⟩
    · exact (infix_tailText h).trans ⟨("(" ++ head.text enc).toList, ")".toList, by simp [text]⟩
  | nil => cases h
  | _ =>
    obtain rfl := List.mem_singleton.mp h
    exact List.infix_rfl

theorem infix_argsText {args : List Term} (h : u ∈ args) :
    (u.text enc).toList <:+: (argsText enc args).toList := by
  induction args with
  | nil => cases h
  | cons t rest ih =>
    rw [argsText, String.toList_append, String.toList_append]
    rcases List.mem_cons.mp h with rfl | h
    · exact List.infix_append _ _ _
    · exact (ih h).trans List.infix_append_right

end Term

namespace Part

variable (enc : Encoder) {roots : List (Nat × Part)} {x y : Nat × Part}
  {above : List (Nat × Part)} {t : Term}

theorem infix_of_inside {depth : Nat} (h : x ∈ (term t).inside depth) :
    ∃ u, x.2 = term u ∧ (u.text enc).toList <:+: (t.text enc).toList := by
  cases t with
  | cons head tail =>
    obtain ⟨u, hu, rfl⟩ := List.mem_map.mp h
    exact ⟨u, rfl, Term.infix_text hu⟩
  | call f args =>
    obtain ⟨u, hu, rfl⟩ := List.mem_map.mp h
    have hargs : (Term.argsText enc args).toList <:+: ((Term.call f args).text enc).toList :=
      ⟨("(call " ++ f).toList, ")".toList, by simp [Term.text]⟩
    exact ⟨u, rfl, (Term.infix_argsText hu).trans hargs⟩
  | _ => cases h

/-- Below a term there are terms only, and their texts are in its text. -/
theorem Way.infix_text (h : Way roots x above) (hy : y ∈ x :: above) (ht : y.2 = term t) :
    ∃ u, x.2 = term u ∧ (u.text enc).toList <:+: (t.text enc).toList := by
  induction h with
  | root =>
    obtain rfl := List.mem_singleton.mp hy
    exact ⟨t, ht, List.infix_rfl⟩
  | step _ hinside ih =>
    rcases List.mem_cons.mp hy with rfl | hy
    · exact ⟨t, ht, List.infix_rfl⟩
    · obtain ⟨u, hu, hinfix⟩ := ih hy
      rw [hu] at hinside
      obtain ⟨w, hw, hinfix'⟩ := infix_of_inside enc hinside
      exact ⟨w, hw, hinfix'.trans hinfix⟩

theorem Way.mem_of_singleton (h : Way [y] x above) : y ∈ x :: above := by
  induction h with
  | root h => exact List.mem_cons.mpr (.inl (List.mem_singleton.mp h).symm)
  | step _ _ ih => exact List.mem_cons_of_mem _ ih

/-- The text of a term has the text of a number on a way down from it in it. -/
theorem Way.infix_plain {n : Binary64} {depth : Nat}
    (h : Way [(0, term t)] (depth, term (.num n)) above) :
    n.plain.toList <:+: (t.text enc).toList := by
  obtain ⟨u, hu, hinfix⟩ := h.infix_text enc h.mem_of_singleton rfl
  cases hu
  exact hinfix

end Part

/-! ## Documents -/

open TaskNetwork.Part (Way Reached firstStop?)

/-- How a value shows the first fault site or call on the way down to a number: an error node stands
for a fault site, and a call has the number in its text. -/
inductive Json.Handles (enc : Encoder) (x : Binary64) (way : List (Nat × Part)) (v : Json) : Prop
  | contained {depth : Nat} {p : Part} (fault : Fault)
      (hstop : firstStop? enc.options.maxDepth way = some (depth, p))
      (hfault : p.isFault enc.options.maxDepth depth = true)
      (hnodes : p.nodes enc depth = [fault.node]) (hpart : HasPart fault.node v)
  | text {depth : Nat} {f : String} {args : List Term} {node : Json}
      (hstop : firstStop? enc.options.maxDepth way = some (depth, .term (.call f args)))
      (sound : (Part.term (.call f args)).isFault enc.options.maxDepth depth = false)
      (hnode : node = Encoder.named ((Term.call f args).text enc) "Call")
      (hnodes : (Part.term (.call f args)).nodes enc depth = [node]) (hpart : HasPart node v)
      (hnumber : x.plain.toList <:+: ((Term.call f args).text enc).toList)

theorem Json.Handles.of_part {enc : Encoder} {x : Binary64} {way : List (Nat × Part)} {v w : Json}
    (hpart : HasPart v w) (h : v.Handles enc x way) : w.Handles enc x way := by
  cases h with
  | contained fault hstop hfault hnodes hv =>
    exact .contained fault hstop hfault hnodes (hv.trans hpart)
  | text hstop sound hnode hnodes hv hnumber =>
    exact .text hstop sound hnode hnodes (hv.trans hpart) hnumber

theorem Part.AllIn.handles {enc : Encoder} {roots : List (Nat × Part)} {x : Binary64} {depth : Nat}
    {above : List (Nat × Part)} {v : Json} (h : AllIn enc roots v) (hx : x.isFinite = false)
    (hway : Way roots (depth, .term (.num x)) above) :
    v.Handles enc x ((depth, .term (.num x)) :: above) := by
  have hmalformed : (Part.term (.num x)).isFault enc.options.maxDepth depth = true := by
    simp [isFault, isMalformed, hx]
  obtain ⟨⟨depth', p⟩, hstop, hreached⟩ := hway.exists_firstStop? hmalformed
  have hparts := h.reached hreached
  cases hfault : p.isFault enc.options.maxDepth depth' with
  | true =>
    obtain ⟨fault, hnodes⟩ := nodes_of_isFault hfault
    exact .contained fault hstop hfault hnodes (hparts _ (hnodes ▸ List.mem_singleton_self _))
  | false =>
    obtain ⟨f, args, rfl⟩ := exists_eq_call (isCall_of_firstStop? hstop hfault)
    obtain ⟨u, hu, hnumber⟩ := hway.infix_text enc (mem_of_firstStop? hstop) rfl
    cases hu
    have hallows : enc.allows depth' = true := by
      simpa [isFault_eq, isMalformed] using hfault
    have hnodes : (Part.term (.call f args)).nodes enc depth' =
        [Encoder.named ((Term.call f args).text enc) "Call"] := by
      simp [nodes, Term.encodeAt, Term.leafAt, hallows]
    exact .text hstop hfault rfl hnodes (hparts _ (hnodes ▸ List.mem_singleton_self _)) hnumber

namespace Document

/-- A number that is not finite is contained if the way down to it comes to a fault site before any
call that can be written, and else it is in the text of that call: so it is everywhere in a domain
and in the goal of a problem. A fact has no error nodes and shows every number by its text. -/
theorem nonfinite_handled {x : Binary64} (hx : x.isFinite = false) (domain : Domain)
    (problem : Option Problem) (options : EncoderOptions) :
    let doc := (build domain problem options).toJson
    (∀ depth above, Way domain.parts (depth, .term (.num x)) above →
      doc.Handles ⟨domain.symbols, options⟩ x ((depth, .term (.num x)) :: above)) ∧
    ∀ p, problem = some p →
      let enc : Encoder := ⟨p.symbols, options⟩
      (∀ depth above, Way p.parts (depth, .term (.num x)) above →
        doc.Handles enc x ((depth, .term (.num x)) :: above)) ∧
      ∀ fact ∈ p.init, (fact.encodeFact enc).Faultless ∧
        ∀ t ∈ fact.params.elements, HasPart (.str (t.text enc)) doc ∧
          ∀ depth above, Way [(0, .term t)] (depth, .term (.num x)) above →
            x.plain.toList <:+: (t.text enc).toList := by
  intro doc
  constructor
  · intro depth above hway
    refine ((domain.allIn_encode options).handles hx hway).of_part ?_
    exact .of_get? "domain" (get?_toJson_domain _) .self
  · rintro p rfl enc
    have hproblem : HasPart (p.encode options) doc :=
      .of_get? "problem" (get?_toJson_problem _) .self
    constructor
    · intro depth above hway
      exact ((p.allIn_encode options).handles hx hway).of_part hproblem
    · intro fact hfact
      have hinit : HasPart (fact.encodeFact enc) (p.encode options) :=
        .of_get? "init" rfl (.item (List.mem_map_of_mem hfact) .self)
      constructor
      · simp [Faultless, Predicate.encodeFact, errorCount_obj, isErrorNode, List.lookup_cons]
      · intro t ht
        have htext : HasPart (.str (t.text enc)) (fact.encodeFact enc) :=
          .of_get? "parameters" rfl (.item (List.mem_map_of_mem (List.mem_map_of_mem ht)) .self)
        exact ⟨htext.trans (hinit.trans hproblem), fun _ _ hway => hway.infix_plain enc⟩

/-- A domain with a call of `f` as the parameter of an operator. -/
def callDomain (args : List Term) : Domain :=
  let b := ((DomainBuilder.new "d").intern .primitiveTask "!go").2
  (b.addOperator (.ofArgs 0 [.call "f" args]) none {} none).2.finish

/-- A problem over it with one fact. -/
def factProblem (domain : Domain) (params : List Term) : Problem :=
  let b := ((ProblemBuilder.new domain "p").intern .constant "at").2
  (b.addFact (.ofArgs 0 params)).finish

theorem way_callDomain (t : Term) :
    Way (callDomain [t]).parts (1, .term t) [(1, .term (.call "f" [t]))] :=
  .step (.root (List.mem_singleton_self _)) (List.mem_singleton_self _)

theorem nonfinite_handled_nan :
    Binary64.nan.isFinite = false ∧
      (build (callDomain [.num .nan]) none {}).toJson.Handles ⟨(callDomain [.num .nan]).symbols, {}⟩
        .nan [(1, .term (.num .nan)), (1, .term (.call "f" [.num .nan]))] := by
  have hx : Binary64.nan.isFinite = false := by decide
  exact ⟨hx, (nonfinite_handled hx (callDomain [.num .nan]) none {}).1 _ _ (way_callDomain _)⟩

/-- Not a number twice, in a call and in a fact, and no error node. -/
theorem nan_uncontained :
    let domain := callDomain [.num .nan]
    let doc := (build domain (some (factProblem domain [.num .nan])) {}).toJson
    Binary64.nan.isFinite = false ∧
      Way domain.parts (1, .term (.num .nan)) [(1, .term (.call "f" [.num .nan]))] ∧
      doc.Faultless ∧ HasPart (Encoder.named "(call f NaN)" "Call") doc ∧
      HasPart (.str "NaN") doc := by
  intro domain doc
  refine ⟨by decide, way_callDomain _, ?_, ?_, ?_⟩
  · show doc.errorCount = 0
    decide +kernel
  · have htext : (Term.call "f" [.num .nan]).text ⟨domain.symbols, {}⟩ = "(call f NaN)" := by
      decide
    rw [← htext]
    exact .of_get? "domain" rfl
      (domain.allIn_encode {} _ (List.mem_singleton_self _) _ (List.mem_singleton_self _))
  · have htext : Binary64.nan.plain = "NaN" := by decide
    have hfact : HasPart (.str Binary64.nan.plain) ((Predicate.ofArgs 0 [.num .nan]).encodeFact
        ⟨(factProblem domain [.num .nan]).symbols, {}⟩) :=
      .of_get? "parameters" rfl (.item (List.mem_singleton_self _) .self)
    rw [← htext]
    exact hfact.trans
      (.of_get? "problem" rfl (.of_get? "init" rfl (.item (List.mem_singleton_self _) .self)))

end Document

end TaskNetwork
