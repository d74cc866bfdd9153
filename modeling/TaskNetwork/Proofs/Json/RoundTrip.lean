import TaskNetwork.Proofs.Json.Text

/-!
# Reading what was printed

A printed value that holds no numbers is read back if its nesting is within the limit of the reader,
and else reading it fails for its depth alone. One round of each loop of the reader is an equation
about printed text; the loops follow from these by induction, and values from the loops.
-/

namespace TaskNetwork

namespace Json

/-- A value without numbers, in which every object has its keys in increasing order. -/
inductive Plain : Json → Prop where
  | null : Plain null
  | bool (b : Bool) : Plain (bool b)
  | str (s : String) : Plain (str s)
  | arr {items : List Json} (h : ∀ item ∈ items, Plain item) : Plain (arr items)
  | obj {fields : List (String × Json)} (ordered : fields.Pairwise fun a b => a.1 < b.1)
      (h : ∀ field ∈ fields, Plain field.2) : Plain (obj fields)

variable {layout : Layout} {level size levels : Nat}

/-! ## Printed text -/

/-- A printed value starts with a character that is no blank and closes no array. -/
theorem Plain.exists_write_eq_cons {v : Json} (h : v.Plain) (layout : Layout) (level : Nat)
    (rest : List Char) :
    ∃ c text, v.write layout level rest = c :: text ∧ isBlank c = false ∧ c ≠ ']' := by
  cases h with
  | null => exact ⟨'n', _, rfl, rfl, by decide⟩
  | bool b => cases b <;> exact ⟨_, _, rfl, rfl, by decide⟩
  | str s => exact ⟨'"', _, rfl, rfl, by decide⟩
  | @arr items _ => cases items <;> exact ⟨'[', _, rfl, rfl, by decide⟩
  | @obj fields _ _ => cases fields <;> exact ⟨'\x7b', _, rfl, rfl, by decide⟩

theorem length_writeString (s : String) (rest : List Char) :
    rest.length < (writeString s rest).length := by
  have := length_closing s.toList rest
  rw [writeString_eq, List.length_cons]
  omega

theorem length_writeItems {items : List Json}
    (h : ∀ item ∈ items, ∀ level rest, rest.length < (write layout level item rest).length)
    (level : Nat) (rest : List Char) :
    items.length + rest.length < (writeItems layout level items rest).length := by
  induction items with
  | nil =>
    simp only [writeItems, List.length_append, List.length_cons, List.length_nil]
    omega
  | cons item items ih =>
    obtain ⟨hitem, hitems⟩ := List.forall_mem_cons.mp h
    have hwrite := hitem (level + 1) (writeItems layout level items rest)
    have hrest := ih hitems
    simp only [writeItems, List.cons_append, List.length_cons, List.length_append]
    omega

theorem length_writeFields {fields : List (String × Json)}
    (h : ∀ field ∈ fields, ∀ level rest, rest.length < (write layout level field.2 rest).length)
    (level : Nat) (rest : List Char) :
    fields.length + rest.length < (writeFields layout level fields rest).length := by
  induction fields with
  | nil =>
    simp only [writeFields, List.length_append, List.length_cons, List.length_nil]
    omega
  | cons field fields ih =>
    obtain ⟨hfield, hfields⟩ := List.forall_mem_cons.mp h
    have hwrite := hfield (level + 1) (writeFields layout level fields rest)
    have hkey := length_writeString field.1 (layout.colon ++
      write layout (level + 1) field.2 (writeFields layout level fields rest))
    have hrest := ih hfields
    simp only [writeFields, List.cons_append, List.length_cons, List.length_append] at hkey ⊢
    omega

theorem Plain.length_write {v : Json} (h : v.Plain) (layout : Layout) (level : Nat)
    (rest : List Char) :
    rest.length < (v.write layout level rest).length := by
  induction h generalizing level rest with
  | null =>
    simp [write]
    omega
  | bool b =>
    cases b <;> simp [write] <;> omega
  | str s => exact length_writeString s rest
  | @arr items _ ih =>
    cases items with
    | nil =>
      rw [write, List.length_cons, List.length_cons]
      omega
    | cons item items =>
      obtain ⟨hitem, hitems⟩ := List.forall_mem_cons.mp ih
      have hwrite := hitem (level + 1) (writeItems layout level items rest)
      have hrest := length_writeItems hitems level rest
      simp only [write, List.cons_append, List.length_cons, List.length_append]
      omega
  | @obj fields _ _ ih =>
    cases fields with
    | nil =>
      rw [write, List.length_cons, List.length_cons]
      omega
    | cons field fields =>
      obtain ⟨hfield, hfields⟩ := List.forall_mem_cons.mp ih
      have hwrite := hfield (level + 1) (writeFields layout level fields rest)
      have hrest := length_writeFields hfields level rest
      have hkey := length_writeString field.1 (layout.colon ++
        write layout (level + 1) field.2 (writeFields layout level fields rest))
      simp only [write, List.cons_append, List.length_cons, List.length_append] at hkey ⊢
      omega

/-! ## One round -/

/-- The value after a colon may have a blank in front of it. -/
theorem value_blank (text : List Char) :
    value size levels (' ' :: text) = value size levels text := by
  rw [value.eq_def, value.eq_def]
  rfl

/-- The first item of an array is read, and then the others. -/
theorem items_write {v : Json} (h : v.Plain) (text : List Char) :
    items (value size levels) size (layout.newline (level + 1) ++ write layout (level + 1) v text) =
      value size levels (write layout (level + 1) v text) >>= fun (v, rest) =>
        itemsRest (value size levels) size [v] rest := by
  obtain ⟨c, rest, heq, hblank, hc⟩ := h.exists_write_eq_cons layout (level + 1) text
  rw [items, skipBlanks_newline, heq, skipBlanks_cons hblank]
  split
  · contradiction
  · simp_all
  · cases value size levels (c :: rest) <;> rfl

theorem itemsRest_write {v : Json} (h : v.Plain) (bound : Nat) (before : List Json)
    (text : List Char) :
    itemsRest (value size levels) (bound + 1) before
        (',' :: layout.newline (level + 1) ++ write layout (level + 1) v text) =
      value size levels (write layout (level + 1) v text) >>= fun (v, rest) =>
        itemsRest (value size levels) bound (v :: before) rest := by
  obtain ⟨c, rest, heq, hblank, hc⟩ := h.exists_write_eq_cons layout (level + 1) text
  have hcomma : isBlank ',' = false := rfl
  rw [itemsRest, List.cons_append, skipBlanks_cons hcomma]
  simp only [skipBlanks_newline, heq, skipBlanks_cons hblank]
  split
  · contradiction
  · simp_all
  · cases value size levels (c :: rest) <;> rfl

theorem itemsRest_end (bound : Nat) (before : List Json) (rest : List Char) :
    itemsRest (value size levels) (bound + 1) before (layout.newline level ++ ']' :: rest) =
      .ok (arr before.reverse, rest) := by
  have hend : isBlank ']' = false := rfl
  simp only [itemsRest, skipBlanks_newline, skipBlanks_cons hend]

theorem field_write {key : String} (h : key.toList.length < size) (text : List Char) :
    field (value size levels) size (closing key.toList (layout.colon ++ text)) =
      value size levels text >>= fun (v, rest) => .ok ((key, v), rest) := by
  have hcolon : isBlank ':' = false := rfl
  rw [field, stringRest_closing_toList h]
  cases layout with
  | compact =>
    simp only [Layout.colon, List.cons_append, List.nil_append, bind, Except.bind,
      skipBlanks_cons hcolon]
    rfl
  | pretty =>
    simp only [Layout.colon, List.cons_append, List.nil_append, bind, Except.bind,
      skipBlanks_cons hcolon, value_blank]
    rfl

/-- The first field of an object is read, and then the others. -/
theorem fields_write {key : String} (h : key.toList.length < size) (text : List Char) :
    fields (value size levels) size
        (layout.newline (level + 1) ++ writeString key (layout.colon ++ text)) =
      value size levels text >>= fun (v, rest) =>
        fieldsRest (value size levels) size size [(key, v)] rest := by
  have hquote : isBlank '"' = false := rfl
  rw [fields, writeString_eq, skipBlanks_newline, skipBlanks_cons hquote]
  simp only [field_write h]
  cases value size levels text <;> rfl

theorem fieldsRest_write {key : String} (h : key.toList.length < size) (bound : Nat)
    (before : List (String × Json)) (text : List Char) :
    fieldsRest (value size levels) size (bound + 1) before
        (',' :: layout.newline (level + 1) ++ writeString key (layout.colon ++ text)) =
      value size levels text >>= fun (v, rest) =>
        fieldsRest (value size levels) size bound (insert key v before) rest := by
  have hcomma : isBlank ',' = false := rfl
  have hquote : isBlank '"' = false := rfl
  rw [fieldsRest, List.cons_append, skipBlanks_cons hcomma]
  simp only [writeString_eq, skipBlanks_newline, skipBlanks_cons hquote, field_write h]
  cases value size levels text <;> rfl

theorem fieldsRest_end (bound : Nat) (before : List (String × Json)) (rest : List Char) :
    fieldsRest (value size levels) size (bound + 1) before
        (layout.newline level ++ '\x7d' :: rest) = .ok (obj before, rest) := by
  have hend : isBlank '\x7d' = false := rfl
  simp only [fieldsRest, skipBlanks_newline, skipBlanks_cons hend]

/-! ## Whole values -/

/-- What comes of reading something that was printed: it is read back if it fits into the levels
that are left, and else the only failure is that it is too deep. -/
structure Answers {α : Type} (fits : Prop) (x : α) (rest : List Char)
    (answer : Except Failure (α × List Char)) : Prop where
  ok : fits → answer = .ok (x, rest)
  tooDeep : ¬ fits → ∃ failure, answer = .error failure ∧ failure.cause = .tooDeep

namespace Answers

variable {α β : Type} {fits fits' : Prop} {x : α} {y : β} {rest rest' : List Char}
  {answer : Except Failure (α × List Char)}

theorem of_ok (h : answer = .ok (x, rest)) (hfits : fits) : Answers fits x rest answer where
  ok _ := h
  tooDeep hdeep := absurd hfits hdeep

theorem bind (h : Answers fits x rest answer)
    {next : α × List Char → Except Failure (β × List Char)}
    (hnext : Answers fits' y rest' (next (x, rest))) :
    Answers (fits ∧ fits') y rest' (answer >>= next) where
  ok := by
    rintro ⟨hfits, hfits'⟩
    rw [h.ok hfits]
    exact hnext.ok hfits'
  tooDeep hdeep := by
    by_cases hfits : fits
    · rw [h.ok hfits]
      exact hnext.tooDeep fun hfits' => hdeep ⟨hfits, hfits'⟩
    · obtain ⟨failure, rfl, hcause⟩ := h.tooDeep hfits
      exact ⟨failure, rfl, hcause⟩

theorem of_iff (h : Answers fits x rest answer) (hiff : fits' ↔ fits) :
    Answers fits' x rest answer where
  ok hfits := h.ok (hiff.mp hfits)
  tooDeep hdeep := h.tooDeep fun hfits => hdeep (hiff.mpr hfits)

end Answers

/-- A printed value is read back by a reader with a bound above the length of the text. -/
def ReadsBack (size levels : Nat) (v : Json) : Prop :=
  ∀ layout level rest, (v.write layout level rest).length < size →
    Answers (v.nesting ≤ levels) v rest (value size levels (v.write layout level rest))

theorem itemsRest_writeItems {items : List Json} (plain : ∀ item ∈ items, item.Plain)
    (h : ∀ item ∈ items, item.ReadsBack size levels) {bound : Nat} (hbound : items.length < bound)
    (before : List Json) {rest : List Char}
    (hsize : (writeItems layout level items rest).length < size) :
    Answers (nestingItems items ≤ levels) (arr (before.reverse ++ items)) rest
      (itemsRest (value size levels) bound before (writeItems layout level items rest)) := by
  induction items generalizing before bound with
  | nil =>
    obtain ⟨bound, rfl⟩ : ∃ n, bound = n + 1 := ⟨bound - 1, by omega⟩
    refine .of_ok ?_ (Nat.zero_le _)
    rw [writeItems, itemsRest_end, List.append_nil]
  | cons item items ih =>
    obtain ⟨bound, rfl⟩ : ∃ n, bound = n + 1 := ⟨bound - 1, by omega⟩
    obtain ⟨hplain, hplains⟩ := List.forall_mem_cons.mp plain
    obtain ⟨hitem, hitems⟩ := List.forall_mem_cons.mp h
    simp only [writeItems, List.cons_append, List.length_cons, List.length_append] at hsize hbound
    have hlength := hplain.length_write layout (level + 1) (writeItems layout level items rest)
    have hfirst := hitem layout (level + 1) (writeItems layout level items rest) (by omega)
    have hothers := ih hplains hitems (by omega : items.length < bound) (item :: before) (by omega)
    have hlist : before.reverse ++ item :: items = (item :: before).reverse ++ items := by simp
    rw [writeItems, itemsRest_write hplain, hlist]
    exact (hfirst.bind hothers).of_iff (by rw [nestingItems, Nat.max_le])

/-- A key above all others goes to their end. -/
theorem insert_of_forall_lt {key : String} {value : Json} {fields : List (String × Json)}
    (h : ∀ field ∈ fields, field.1 < key) : insert key value fields = fields ++ [(key, value)] := by
  induction fields with
  | nil => rfl
  | cons field fields ih =>
    obtain ⟨hfield, hfields⟩ := List.forall_mem_cons.mp h
    have hnot : ¬ key < field.1 := String.lt_asymm hfield
    have hne : key ≠ field.1 := by
      rintro rfl
      exact String.lt_irrefl _ hfield
    simp [insert, hnot, hne, ih hfields]

theorem fieldsRest_writeFields {fields : List (String × Json)}
    (plain : ∀ field ∈ fields, field.2.Plain)
    (h : ∀ field ∈ fields, field.2.ReadsBack size levels) {bound : Nat}
    (hbound : fields.length < bound) {before : List (String × Json)}
    (ordered : (before ++ fields).Pairwise fun a b => a.1 < b.1) {rest : List Char}
    (hsize : (writeFields layout level fields rest).length < size) :
    Answers (nestingFields fields ≤ levels) (obj (before ++ fields)) rest
      (fieldsRest (value size levels) size bound before
        (writeFields layout level fields rest)) := by
  induction fields generalizing before bound with
  | nil =>
    obtain ⟨bound, rfl⟩ : ∃ n, bound = n + 1 := ⟨bound - 1, by omega⟩
    refine .of_ok ?_ (Nat.zero_le _)
    rw [writeFields, fieldsRest_end, List.append_nil]
  | cons field fields ih =>
    obtain ⟨key, v⟩ := field
    obtain ⟨bound, rfl⟩ : ∃ n, bound = n + 1 := ⟨bound - 1, by omega⟩
    obtain ⟨hplain, hplains⟩ : v.Plain ∧ ∀ field ∈ fields, field.2.Plain :=
      List.forall_mem_cons.mp plain
    obtain ⟨hvalue, hvalues⟩ : v.ReadsBack size levels ∧
        ∀ field ∈ fields, field.2.ReadsBack size levels := List.forall_mem_cons.mp h
    have hlast : ∀ field ∈ before, field.1 < key := by
      intro field hfield
      exact (List.pairwise_append.mp ordered).2.2 field hfield (key, v) (by simp)
    have hlist : before ++ (key, v) :: fields = (before ++ [(key, v)]) ++ fields := by simp
    rw [hlist] at ordered ⊢
    simp only [writeFields, writeString_eq, List.cons_append, List.length_cons,
      List.length_append] at hsize hbound
    have hkey := length_closing key.toList (layout.colon ++
      write layout (level + 1) v (writeFields layout level fields rest))
    have hlength := hplain.length_write layout (level + 1) (writeFields layout level fields rest)
    simp only [List.length_append] at hkey
    have hfirst := hvalue layout (level + 1) (writeFields layout level fields rest) (by omega)
    have hothers := ih hplains hvalues (by omega : fields.length < bound) ordered (by omega)
    rw [writeFields, fieldsRest_write (by omega)]
    refine (hfirst.bind ?_).of_iff (by rw [nestingFields, Nat.max_le])
    simpa only [insert_of_forall_lt hlast] using hothers

theorem value_null (rest : List Char) :
    value size levels ("null".toList ++ rest) = .ok (null, rest) := by
  rw [value.eq_def]
  rfl

theorem value_bool (b : Bool) (rest : List Char) :
    value size levels (write layout level (bool b) rest) = .ok (bool b, rest) := by
  cases b <;> rw [write, value.eq_def] <;> rfl

theorem value_str {s : String} (h : s.toList.length < size) (rest : List Char) :
    value size levels (writeString s rest) = .ok (str s, rest) := by
  have hstring := stringRest_closing_toList h rest
  have hquote : isBlank '"' = false := rfl
  simp only [value.eq_def, writeString_eq, skipBlanks_cons hquote, hstring]
  rfl

theorem value_arr (text : List Char) :
    value size (levels + 1) ('[' :: text) = items (value size levels) size text := rfl

theorem value_obj (text : List Char) :
    value size (levels + 1) ('\x7b' :: text) = fields (value size levels) size text := rfl

/-- No array or object can be read where no level is left. -/
theorem Answers.of_zero {v : Json} {c : Char} (hc : c = '[' ∨ c = '\x7b') {fits : Prop}
    (h : ¬ fits) (text rest : List Char) : Answers fits v rest (value size 0 (c :: text)) where
  ok hfits := absurd hfits h
  tooDeep _ := by
    obtain rfl | rfl := hc
    · exact ⟨_, rfl, rfl⟩
    · exact ⟨_, rfl, rfl⟩

theorem readsBack_arr {items : List Json} (plain : ∀ item ∈ items, item.Plain)
    (h : ∀ item ∈ items, item.ReadsBack size levels) : (arr items).ReadsBack size (levels + 1) := by
  intro layout level rest hsize
  have hfits : (arr items).nesting ≤ levels + 1 ↔ nestingItems items ≤ levels := by
    rw [nesting, Nat.add_le_add_iff_right]
  cases items with
  | nil => exact .of_ok rfl (by simp [nesting, nestingItems])
  | cons item items =>
    obtain ⟨hplain, hplains⟩ := List.forall_mem_cons.mp plain
    obtain ⟨hitem, hitems⟩ := List.forall_mem_cons.mp h
    simp only [write, List.cons_append, List.length_cons, List.length_append] at hsize
    have hlength := hplain.length_write layout (level + 1) (writeItems layout level items rest)
    have hcount := length_writeItems (fun x hx => (hplains x hx).length_write layout) level rest
    have hfirst := hitem layout (level + 1) (writeItems layout level items rest) (by omega)
    have hothers := itemsRest_writeItems hplains hitems (by omega : items.length < size) [item]
      (by omega : (writeItems layout level items rest).length < size)
    rw [write, List.cons_append, value_arr, items_write hplain]
    exact (hfirst.bind hothers).of_iff (by rw [hfits, nestingItems, Nat.max_le])

theorem readsBack_obj {fields : List (String × Json)} (plain : ∀ field ∈ fields, field.2.Plain)
    (ordered : fields.Pairwise fun a b => a.1 < b.1)
    (h : ∀ field ∈ fields, field.2.ReadsBack size levels) :
    (obj fields).ReadsBack size (levels + 1) := by
  intro layout level rest hsize
  have hfits : (obj fields).nesting ≤ levels + 1 ↔ nestingFields fields ≤ levels := by
    rw [nesting, Nat.add_le_add_iff_right]
  cases fields with
  | nil => exact .of_ok rfl (by simp [nesting, nestingFields])
  | cons field fields =>
    obtain ⟨key, v⟩ := field
    obtain ⟨hplain, hplains⟩ : v.Plain ∧ ∀ field ∈ fields, field.2.Plain :=
      List.forall_mem_cons.mp plain
    obtain ⟨hvalue, hvalues⟩ : v.ReadsBack size levels ∧
        ∀ field ∈ fields, field.2.ReadsBack size levels := List.forall_mem_cons.mp h
    simp only [write, writeString_eq, List.cons_append, List.length_cons,
      List.length_append] at hsize
    have hkey := length_closing key.toList (layout.colon ++
      write layout (level + 1) v (writeFields layout level fields rest))
    simp only [List.length_append] at hkey
    have hlength := hplain.length_write layout (level + 1) (writeFields layout level fields rest)
    have hcount := length_writeFields (fun x hx => (hplains x hx).length_write layout) level rest
    have hfirst := hvalue layout (level + 1) (writeFields layout level fields rest) (by omega)
    have hothers := fieldsRest_writeFields hplains hvalues (by omega : fields.length < size)
      (List.singleton_append ▸ ordered)
      (by omega : (writeFields layout level fields rest).length < size)
    rw [write, List.cons_append, value_obj, fields_write (by omega)]
    exact (hfirst.bind hothers).of_iff (by rw [hfits, nestingFields, Nat.max_le])

theorem Plain.readsBack {v : Json} (h : v.Plain) (size levels : Nat) : v.ReadsBack size levels := by
  induction h generalizing levels with
  | null => exact fun layout level rest _ => .of_ok (value_null rest) (Nat.zero_le _)
  | bool b => exact fun layout level rest _ => .of_ok (value_bool b rest) (Nat.zero_le _)
  | str s =>
    intro layout level rest hsize
    rw [write, writeString_eq, List.length_cons] at hsize
    have hclosing := length_closing s.toList rest
    exact .of_ok (value_str (by omega) rest) (Nat.zero_le _)
  | @arr items plain ih =>
    cases levels with
    | zero =>
      intro layout level rest _
      cases items <;> exact .of_zero (.inl rfl) (by simp [nesting]) _ rest
    | succ levels => exact readsBack_arr plain fun item hitem => ih item hitem levels
  | @obj fields ordered plain ih =>
    cases levels with
    | zero =>
      intro layout level rest _
      cases fields <;> exact .of_zero (.inr rfl) (by simp [nesting]) _ rest
    | succ levels => exact readsBack_obj plain ordered fun field hfield => ih field hfield levels

/-! ## Texts -/

variable {v : Json}

/-- A text that was printed is read back if the value fits into the levels. -/
theorem Plain.parseWithin_render (h : v.Plain) (layout : Layout) (hfits : v.nesting ≤ levels) :
    parseWithin levels (v.render layout) = .ok v := by
  have hread := (h.readsBack _ levels layout 0 [] (Nat.lt_succ_self _)).ok hfits
  simp only [parseWithin, render, String.toList_ofList, document, hread, skipBlanks]
  rfl

/-- A text that was printed and does not fit is refused for its depth. -/
theorem Plain.parseWithin_render_of_lt (h : v.Plain) (layout : Layout)
    (hdeep : levels < v.nesting) :
    ∃ position, parseWithin levels (v.render layout) = .error ⟨.tooDeep, position⟩ := by
  obtain ⟨failure, hread, hcause⟩ :=
    (h.readsBack _ levels layout 0 [] (Nat.lt_succ_self _)).tooDeep (Nat.not_le.mpr hdeep)
  simp only [parseWithin, render, String.toList_ofList, document, hread, hcause]
  exact ⟨_, rfl⟩

/-! ## Order of keys -/

theorem sortedItems_iff {items : List Json} :
    SortedItems items ↔ ∀ item ∈ items, item.Sorted := by
  induction items with
  | nil => simp [SortedItems]
  | cons item items ih => simp [SortedItems, ih]

theorem sortedFields_iff {fields : List (String × Json)} :
    SortedFields fields ↔ ∀ field ∈ fields, field.2.Sorted := by
  induction fields with
  | nil => simp [SortedFields]
  | cons field fields ih => simp [SortedFields, ih]

theorem Plain.sorted (h : v.Plain) : v.Sorted := by
  induction h with
  | null | bool b | str s => trivial
  | arr _ ih =>
    rw [Sorted]
    exact sortedItems_iff.mpr ih
  | obj ordered _ ih =>
    rw [Sorted]
    exact ⟨ordered, sortedFields_iff.mpr ih⟩

end Json

end TaskNetwork
