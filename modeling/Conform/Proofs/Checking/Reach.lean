import Conform.Proofs.Checking.Placement
import Conform.Proofs.Number.Order
import Conform.Proofs.Schema.Parts

/-!
# What a check comes to

A check of a schema against a value comes to checks of other schemas against other values, each at a
path. It notes violations only at places that it comes to, and only an integer without a nearest
double at such a place can stop it. Both are proved in one induction, which also shows that a check
finds the same violations at every place.

## Main definitions

- `Schema.Checks` — the checks that a check of a value is made of
- `Schema.Reaches` — the checks that it comes to, attempts of unions included
- `Schema.Notes` — the paths at which it may note violations
- `Schema.Overflows`, `Schema.Stops` — what can stop a check
- `Schema.check_finds` — violations are noted at these paths, and nothing else stops a check
- `Form.check_object`, … — the checks of forms with parts, told by what is walked in turn
-/

namespace Conform

open Walk

/-- A check of a value against the first schema is made of checks against the second one, at a path
of at most one key. The attempts of a union are left out: it notes the violations of one of them. -/
inductive Schema.Checks : Schema → Value → List Key → Schema → Value → Prop
  | field {description strictMessage : Option Text} {shape : List (Text × Schema)}
      {unknownKeys : Option Policy} {catchall : Option Schema} {fields : List (Text × Value)}
      {key : Text} {t : Schema} (declared : (key, t) ∈ shape) :
      Checks (.mk description (.object shape unknownKeys catchall strictMessage)) (.object fields)
        [.field key] t (fieldValue fields key)
  | extra {description strictMessage : Option Text} {shape : List (Text × Schema)}
      {unknownKeys : Option Policy} {fields : List (Text × Value)} {key : Text} {w : Value}
      {t : Schema} (undeclared : (key, w) ∈ extraFields shape fields) :
      Checks (.mk description (.object shape unknownKeys (some t) strictMessage)) (.object fields)
        [.field key] t w
  | element {description : Option Text} {checks : List (Check LengthRule)} {items : List Value}
      {n : Nat} {w : Value} {t : Schema} (item : items[n]? = some w) :
      Checks (.mk description (.array t checks)) (.array items) [.index n] t w
  | item {description : Option Text} {items : List Schema} {rest : Option Schema}
      {values : List Value} {n : Nat} {w : Value} {t : Schema}
      (enough : items.length ≤ values.length) (own : items[n]? = some t)
      (value : values[n]? = some w) :
      Checks (.mk description (.tuple items rest)) (.array values) [.index n] t w
  | rest {description : Option Text} {items : List Schema} {values : List Value} {n : Nat}
      {w : Value} {t : Schema} (behind : items.length ≤ n) (value : values[n]? = some w) :
      Checks (.mk description (.tuple items (some t))) (.array values) [.index n] t w
  | key {description : Option Text} {element : Schema} {fields : List (Text × Value)} {name : Text}
      {w : Value} {t : Schema} (entry : (name, w) ∈ fields) :
      Checks (.mk description (.record t element)) (.object fields) [.field name] t (.text name)
  | entry {description : Option Text} {key : Schema} {fields : List (Text × Value)} {name : Text}
      {w : Value} {t : Schema} (entry : (name, w) ∈ fields) :
      Checks (.mk description (.record key t)) (.object fields) [.field name] t w
  | tagged {description : Option Text} {discriminator : Text} {options : List Schema}
      {fields : List (Text × Value)} {t : Schema}
      (first : options.find? (Schema.isTagged discriminator (fieldValue fields discriminator)) =
        some t) :
      Checks (.mk description (.discriminatedUnion discriminator options)) (.object fields) [] t
        (.object fields)
  | left {description : Option Text} {t other : Schema} {v : Value} :
      Checks (.mk description (.intersection t other)) v [] t v
  | right {description : Option Text} {other t : Schema} {v : Value} :
      Checks (.mk description (.intersection other t)) v [] t v
  | optional {description : Option Text} {t : Schema} {v : Value} (present : v ≠ .undefined) :
      Checks (.mk description (.optional t)) v [] t v
  | nullable {description : Option Text} {t : Schema} {v : Value} (notNull : v ≠ .null) :
      Checks (.mk description (.nullable t)) v [] t v
  | default {description : Option Text} {fallback : Value} {t : Schema} {v : Value}
      (present : v ≠ .undefined) :
      Checks (.mk description (.default t fallback)) v [] t v
  | fallback {description : Option Text} {fallback : Value} {t : Schema} :
      Checks (.mk description (.default t fallback)) .undefined [] t fallback

/-- A check of a value against the first schema comes to a check of the second value against the
second schema at a path. -/
inductive Schema.Reaches : Schema → Value → List Key → Schema → Value → Prop
  | here (s : Schema) (v : Value) : Reaches s v [] s v
  | part {s t u : Schema} {v w x : Value} {p q : List Key} (first : s.Checks v p t w)
      (next : Reaches t w q u x) : Reaches s v (p ++ q) u x
  | option {description : Option Text} {options : List Schema} {t u : Schema} {v x : Value}
      {q : List Key} (option : t ∈ options) (next : Reaches t v q u x) :
      Reaches (.mk description (.union options)) v q u x

/-- A check of a value may note a violation at a path: where it comes to a check, or at the
discriminator where it comes to a discriminated union. -/
inductive Schema.Notes : Schema → Value → List Key → Prop
  | here (s : Schema) (v : Value) : Notes s v []
  | tag {description : Option Text} {discriminator : Text} {options : List Schema}
      {fields : List (Text × Value)} :
      Notes (.mk description (.discriminatedUnion discriminator options)) (.object fields)
        [.field discriminator]
  | part {s t : Schema} {v w : Value} {p q : List Key} (first : s.Checks v p t w)
      (next : Notes t w q) : Notes s v (p ++ q)
  | option {description : Option Text} {options : List Schema} {t : Schema} {v : Value}
      {q : List Key} (option : t ∈ options) (next : Notes t v q) :
      Notes (.mk description (.union options)) v q

/-- A rule asks for a nearest double that there is not: of the number or, unless an infinite number
is refused before, of the step that it shall be a multiple of. -/
def NumberRule.Overflows : NumberRule → Number → Prop
  | .int, n => ¬n.InRange
  | .finite, n => ¬n.InRange
  | .multipleOf step, n =>
    ¬n.InRange ∨ (¬step.InRange ∧ ∀ negative, n ≠ .float (.infinite negative))
  | _, _ => False

/-- A number meets a rule of a schema that asks for a nearest double that there is not. -/
def Schema.Overflows (s : Schema) (v : Value) : Prop :=
  ∃ checks n, s.form = .number checks ∧ v = .number n ∧ n.isNaN = false ∧
    ∃ check ∈ checks, check.rule.Overflows n

/-- A check comes to a number without the nearest double that a rule asks for. -/
def Schema.Stops (s : Schema) (v : Value) : Prop :=
  ∃ q t w, s.Reaches v q t w ∧ t.Overflows w

/-- What is done with undeclared fields of an object. -/
def checkExtra (unknownKeys : Option Policy) (catchall : Option Schema)
    (strictMessage : Option Text) (extra : List (Text × Value)) : Walk PUnit :=
  if extra.isEmpty then pure ()
  else
    match catchall with
    | some rest => inTurn (extra.map fun p => (.field p.1, rest.check p.2))
    | none => do
      if unknownKeys.getD (← get).policy = .strict then
        note (messageOr strictMessage (unrecognized extra))

/-- What is done with the elements of a tuple behind those with a schema of their own. -/
def checkRest (rest : Option Schema) (start : Nat) (values : List Value) : Walk PUnit :=
  match rest with
  | some more =>
    inTurn (((values.drop start).zipIdx start).map fun p => (.index p.2, more.check p.1))
  | none => pure ()

theorem Form.check_object (shape : List (Text × Schema)) (unknownKeys : Option Policy)
    (catchall : Option Schema) (strictMessage : Option Text) (fields : List (Text × Value)) :
    Form.check (.object shape unknownKeys catchall strictMessage) (.object fields) = (do
      inTurn (shape.map fun p => (.field p.1, p.2.check (fieldValue fields p.1)))
      checkExtra unknownKeys catchall strictMessage (extraFields shape fields)) := by
  rw [← checkShape_eq]
  cases catchall with
  | none => rfl
  | some rest =>
    rw [checkExtra, ← eachField_eq fun _ => rest.check]
    rfl

theorem Form.check_array (element : Schema) (checks : List (Check LengthRule))
    (items : List Value) :
    Form.check (.array element checks) (.array items) = (do
      checks.forM fun check =>
        noteAny ((lengthFault "Array" "element(s)" check.rule items.length).map
          (messageOr check.message))
      inTurn (items.zipIdx.map fun p => (.index p.2, element.check p.1))) := by
  rw [← eachFrom_eq element.check]
  rfl

/-- Too few elements are all that is noted. -/
theorem Form.check_tuple_of_lt {items : List Schema} {values : List Value}
    (few : values.length < items.length) (rest : Option Schema) :
    Form.check (.tuple items rest) (.array values) =
      note ("Array must contain at least " ++ Text.ofNat items.length ++ " element(s)") := by
  unfold Form.check
  exact if_pos few

/-- Too many elements are noted before any of them is checked. -/
theorem Form.check_tuple {items : List Schema} {values : List Value}
    (enough : items.length ≤ values.length) (rest : Option Schema) :
    Form.check (.tuple items rest) (.array values) =
      if (rest.isNone && decide (values.length > items.length)) = true then (do
        note ("Array must contain at most " ++ Text.ofNat items.length ++ " element(s)")
        inTurn ((items.zip values).zipIdx.map fun p => (.index p.2, p.1.1.check p.1.2))
        checkRest rest items.length values)
      else (do
        inTurn ((items.zip values).zipIdx.map fun p => (.index p.2, p.1.1.check p.1.2))
        checkRest rest items.length values) := by
  unfold Form.check checkRest
  dsimp only
  rw [if_neg (Nat.not_lt_of_le enough), checkItems_eq]
  cases rest with
  | none => rfl
  | some more =>
    dsimp only
    rw [eachFrom_eq]

theorem Form.check_record (key element : Schema) (fields : List (Text × Value)) :
    Form.check (.record key element) (.object fields) =
      inTurn (fields.map fun p =>
        (.field p.1, do key.check (.text p.1); element.check p.2)) := by
  rw [← eachField_eq fun name v => do key.check (.text name); element.check v]
  rfl

/-- The option with the tag stands for the whole union. -/
theorem Form.check_discriminatedUnion (discriminator : Text) (options : List Schema)
    (fields : List (Text × Value)) :
    Form.check (.discriminatedUnion discriminator options) (.object fields) =
      match options.find? (Schema.isTagged discriminator (fieldValue fields discriminator)) with
      | some t => t.check (.object fields)
      | none =>
        within (.field discriminator)
          (note ("Invalid discriminator value. Expected " ++
            Text.join " | " ((options.flatMap (tagsOf discriminator)).map
              fun tag => "'" ++ tag.bare ++ "'"))) := by
  unfold Form.check
  dsimp only
  rw [checkTagged_eq]
  cases options.find? (Schema.isTagged discriminator (fieldValue fields discriminator)) with
  | none => simp
  | some t => simp

theorem Number.asDouble_of_toDouble? {n : Number} {d : Double} (h : n.toDouble? = some d) :
    n.asDouble = .ok d := by
  rw [asDouble, h]

theorem Number.asDouble_of_not_inRange {n : Number} (h : ¬n.InRange) :
    n.asDouble = .error .integerTooLarge := by
  rw [InRange, Option.isSome_iff_ne_none, not_not] at h
  rw [asDouble, h]

/-- Only infinite doubles are numbers with an infinite nearest double. -/
theorem Number.isInfinite_iff {n : Number} {d : Double} (h : n.toDouble? = some d) :
    d.isInfinite = true ↔ ∃ negative, n = .float (.infinite negative) := by
  cases n with
  | int k =>
    rw [toDouble?] at h
    simp [Double.isInfinite_of_ofInt? h]
  | float e =>
    obtain rfl : e = d := Option.some.inj h
    cases e <;> simp [Double.isInfinite]

/-- A rule has no verdict exactly if it asks for a nearest double that there is not. -/
theorem NumberRule.fault_eq_error_iff (rule : NumberRule) (n : Number) :
    rule.fault n = .error .integerTooLarge ↔ rule.Overflows n := by
  by_cases hn : n.InRange
  · obtain ⟨d, hd⟩ := hn.exists
    have hdouble := Number.asDouble_of_toDouble? hd
    cases rule with
    | gte | gt | lte | lt => simp [fault, Overflows]
    | int | finite => simp [fault, hdouble, Overflows, hn, bind, Except.bind, pure, Except.pure]
    | multipleOf step =>
      have hfinite : (∀ negative, n ≠ .float (.infinite negative)) ↔ d.isInfinite = false := by
        rw [← not_exists, ← Number.isInfinite_iff hd, Bool.not_eq_true]
      rw [Overflows, hfinite]
      by_cases hstep : step.InRange
      · obtain ⟨e, he⟩ := hstep.exists
        cases hinfinite : d.isInfinite <;>
          simp [fault, hdouble, Number.asDouble_of_toDouble? he, hinfinite, hn, hstep, bind,
            Except.bind, pure, Except.pure]
      · cases hinfinite : d.isInfinite <;>
          simp [fault, hdouble, Number.asDouble_of_not_inRange hstep, hinfinite, hn, hstep, bind,
            Except.bind, pure, Except.pure]
  · have hdouble := Number.asDouble_of_not_inRange hn
    cases rule with
    | gte | gt | lte | lt => simp [fault, Overflows]
    | int | finite | multipleOf => simp [fault, hdouble, Overflows, hn, bind, Except.bind]

namespace Schema

variable {s t : Schema} {v w : Value} {p : List Key}

/-- What stops a part stops the whole. -/
theorem Stops.part (first : s.Checks v p t w) (h : t.Stops w) : s.Stops v := by
  obtain ⟨q, u, x, hreaches, hoverflows⟩ := h
  exact ⟨p ++ q, u, x, .part first hreaches, hoverflows⟩

/-- What stops an attempt stops the union. -/
theorem Stops.option {description : Option Text} {options : List Schema} (option : t ∈ options)
    (h : t.Stops v) : (Schema.mk description (.union options)).Stops v := by
  obtain ⟨q, u, x, hreaches, hoverflows⟩ := h
  exact ⟨q, u, x, .option option hreaches, hoverflows⟩

end Schema

variable {policy : Policy} {description : Option Text} {value : Value}

/-- What a check of a part finds, seen from the whole. -/
theorem Walk.Finds.part {s t : Schema} {v w : Value} {p : List Key} {walk : Walk PUnit}
    (h : Finds policy walk (t.Notes w) (t.Stops w)) (first : s.Checks v p t w) :
    Finds policy walk (fun path => s.Notes v (p ++ path)) (s.Stops v) :=
  h.mono (fun _ hpath => .part first hpath) (.part first)

theorem checkNumber_finds {n : Number} {checks : List (Check NumberRule)}
    {At : List Key → Prop} (hat : At []) :
    Finds policy (checkNumber n checks) At (∃ check ∈ checks, check.rule.Overflows n) := by
  induction checks with
  | nil => exact finds_pure ()
  | cons check checks ih =>
    have htail : Finds policy (checkNumber n checks) At
        (∃ other ∈ check :: checks, other.rule.Overflows n) :=
      ih.mono (fun _ => id) fun ⟨other, hother, hoverflows⟩ =>
        ⟨other, List.mem_cons_of_mem check hother, hoverflows⟩
    rw [checkNumber]
    rcases hfault : check.rule.fault n with e | fault
    · have hoverflows := (check.rule.fault_eq_error_iff n).mp hfault
      exact (finds_throw e ⟨check, List.mem_cons_self, hoverflows⟩).bind fun _ => htail
    · exact (finds_noteAny _ hat).bind fun _ => htail

section Forms

/-- Nothing but the type of a value is noted. -/
theorem wrongType_finds {form : Form} (expected : Text)
    (h : form.check value = noteType expected value) :
    Finds policy (form.check value) ((Schema.mk description form).Notes value)
      ((Schema.mk description form).Stops value) := by
  rw [h]
  exact finds_noteType expected value (.here _ _)

theorem number_finds (checks : List (Check NumberRule)) :
    Finds policy (Form.check (.number checks) value)
      ((Schema.mk description (.number checks)).Notes value)
      ((Schema.mk description (.number checks)).Stops value) := by
  unfold Form.check
  split
  · rename_i n
    cases hnan : n.isNaN with
    | true =>
      rw [if_pos rfl]
      exact finds_noteType _ _ (.here _ _)
    | false =>
      rw [if_neg Bool.false_ne_true]
      refine (checkNumber_finds (.here _ _)).mono (fun _ => id) fun hoverflows => ?_
      exact ⟨[], _, _, .here _ _, checks, n, rfl, rfl, hnan, hoverflows⟩
  · exact finds_noteType _ _ (.here _ _)

theorem checkExtra_finds {unknownKeys : Option Policy} {catchall : Option Schema}
    {strictMessage : Option Text} {extra : List (Text × Value)} {At : List Key → Prop}
    {Stops : Prop} (hat : At [])
    (hcatchall : ∀ rest ∈ catchall, ∀ p ∈ extra,
      Finds policy (rest.check p.2) (fun path => At (.field p.1 :: path)) Stops) :
    Finds policy (checkExtra unknownKeys catchall strictMessage extra) At Stops := by
  unfold checkExtra
  split
  · exact finds_pure ()
  · cases catchall with
    | some rest =>
      refine inTurn_finds fun p hp => ?_
      obtain ⟨q, hq, rfl⟩ := List.mem_map.mp hp
      exact hcatchall rest rfl q hq
    | none =>
      refine finds_policy (fun policy =>
        if unknownKeys.getD policy = .strict then
          note (messageOr strictMessage (unrecognized extra))
        else pure ()) ?_
      split
      · exact finds_note _ hat
      · exact finds_pure ()

theorem object_finds {shape : List (Text × Schema)} {unknownKeys : Option Policy}
    {catchall : Option Schema} {strictMessage : Option Text}
    (hparts : ∀ s ∈ (Form.object shape unknownKeys catchall strictMessage).parts,
      ∀ v, Finds policy (s.check v) (s.Notes v) (s.Stops v)) :
    Finds policy (Form.check (.object shape unknownKeys catchall strictMessage) value)
      ((Schema.mk description (.object shape unknownKeys catchall strictMessage)).Notes value)
      ((Schema.mk description (.object shape unknownKeys catchall strictMessage)).Stops value) := by
  cases value with
  | object fields =>
    rw [Form.check_object]
    refine (inTurn_finds fun p hp => ?_).bind fun _ =>
      checkExtra_finds (.here _ _) fun rest hrest p hp => ?_
    · obtain ⟨⟨key, t⟩, hdeclared, rfl⟩ := List.mem_map.mp hp
      have ht : t ∈ (Form.object shape unknownKeys catchall strictMessage).parts :=
        List.mem_append_left _ (List.mem_map_of_mem hdeclared)
      exact (hparts t ht _).part (.field hdeclared)
    · cases hrest
      have ht : rest ∈ (Form.object shape unknownKeys (some rest) strictMessage).parts :=
        List.mem_append_right _ (Option.mem_toList.mpr rfl)
      exact (hparts rest ht p.2).part (.extra hp)
  | _ => exact wrongType_finds "object" rfl

theorem array_finds {element : Schema} {checks : List (Check LengthRule)}
    (helement : ∀ v, Finds policy (element.check v) (element.Notes v) (element.Stops v)) :
    Finds policy (Form.check (.array element checks) value)
      ((Schema.mk description (.array element checks)).Notes value)
      ((Schema.mk description (.array element checks)).Stops value) := by
  cases value with
  | array items =>
    rw [Form.check_array]
    refine (finds_forM fun check _ => finds_noteAny _ (.here _ _)).bind fun _ =>
      inTurn_finds fun p hp => ?_
    obtain ⟨⟨w, n⟩, hmem, rfl⟩ := List.mem_map.mp hp
    exact (helement w).part (.element (List.mem_zipIdx_iff_getElem?.mp hmem))
  | _ => exact wrongType_finds "array" rfl

theorem checkRest_finds {rest : Option Schema} {start : Nat} {values : List Value}
    {At : List Key → Prop} {Stops : Prop}
    (hrest : ∀ more ∈ rest, ∀ n w, start ≤ n → values[n]? = some w →
      Finds policy (more.check w) (fun path => At (.index n :: path)) Stops) :
    Finds policy (checkRest rest start values) At Stops := by
  cases rest with
  | none => exact finds_pure ()
  | some more =>
    refine inTurn_finds fun p hp => ?_
    obtain ⟨⟨w, n⟩, hmem, rfl⟩ := List.mem_map.mp hp
    obtain ⟨hbehind, hget⟩ := List.mk_mem_zipIdx_iff_le_and_getElem?_sub.mp hmem
    rw [List.getElem?_drop, Nat.add_sub_cancel' hbehind] at hget
    exact hrest more rfl n w hbehind hget

theorem tuple_finds {items : List Schema} {rest : Option Schema}
    (hparts : ∀ s ∈ (Form.tuple items rest).parts,
      ∀ v, Finds policy (s.check v) (s.Notes v) (s.Stops v)) :
    Finds policy (Form.check (.tuple items rest) value)
      ((Schema.mk description (.tuple items rest)).Notes value)
      ((Schema.mk description (.tuple items rest)).Stops value) := by
  cases value with
  | array values =>
    by_cases hshort : values.length < items.length
    · rw [Form.check_tuple_of_lt hshort]
      exact finds_note _ (.here _ _)
    · have henough : items.length ≤ values.length := Nat.le_of_not_lt hshort
      rw [Form.check_tuple henough]
      refine ((inTurn_finds fun p hp => ?_).bind fun _ =>
        checkRest_finds fun more hmore n w hbehind hvalue => ?_).noteWhen _ _ (.here _ _)
      · obtain ⟨⟨⟨t, w⟩, n⟩, hmem, rfl⟩ := List.mem_map.mp hp
        obtain ⟨hown, hvalue⟩ :=
          List.getElem?_zip_eq_some.mp (List.mem_zipIdx_iff_getElem?.mp hmem)
        have ht : t ∈ (Form.tuple items rest).parts :=
          List.mem_append_left _ (List.mem_of_getElem? hown)
        exact (hparts t ht w).part (.item henough hown hvalue)
      · cases hmore
        have ht : more ∈ (Form.tuple items (some more)).parts :=
          List.mem_append_right _ (Option.mem_toList.mpr rfl)
        exact (hparts more ht w).part (.rest hbehind hvalue)
  | _ => exact wrongType_finds "array" rfl

theorem record_finds {key element : Schema}
    (hkey : ∀ v, Finds policy (key.check v) (key.Notes v) (key.Stops v))
    (helement : ∀ v, Finds policy (element.check v) (element.Notes v) (element.Stops v)) :
    Finds policy (Form.check (.record key element) value)
      ((Schema.mk description (.record key element)).Notes value)
      ((Schema.mk description (.record key element)).Stops value) := by
  cases value with
  | object fields =>
    rw [Form.check_record]
    refine inTurn_finds fun p hp => ?_
    obtain ⟨⟨name, w⟩, hentry, rfl⟩ := List.mem_map.mp hp
    exact ((hkey (.text name)).part (.key hentry)).bind fun _ =>
      (helement w).part (.entry hentry)
  | _ => exact wrongType_finds "object" rfl

theorem union_finds {options : List Schema}
    (hoptions : ∀ s ∈ options, Finds policy (s.check value) (s.Notes value) (s.Stops value)) :
    Finds policy (Form.check (.union options) value)
      ((Schema.mk description (.union options)).Notes value)
      ((Schema.mk description (.union options)).Stops value) := by
  refine options_finds fun s hs => ?_
  exact (hoptions s hs).mono (fun _ hpath => .option hs hpath) (.option hs)

theorem discriminatedUnion_finds {discriminator : Text} {options : List Schema}
    (hoptions : ∀ s ∈ options, Finds policy (s.check value) (s.Notes value) (s.Stops value)) :
    Finds policy (Form.check (.discriminatedUnion discriminator options) value)
      ((Schema.mk description (.discriminatedUnion discriminator options)).Notes value)
      ((Schema.mk description (.discriminatedUnion discriminator options)).Stops value) := by
  cases value with
  | object fields =>
    rw [Form.check_discriminatedUnion]
    rcases hfirst : options.find?
      (Schema.isTagged discriminator (fieldValue fields discriminator)) with _ | t
    · exact (finds_note _ .tag).within
    · exact (hoptions t (List.mem_of_find?_eq_some hfirst)).part (.tagged hfirst)
  | _ => exact wrongType_finds "object" rfl

/-- What a check of a form finds if the checks of its parts find what they may. -/
theorem Form.check_finds {form : Form}
    (hparts : ∀ s ∈ form.parts, ∀ v, Finds policy (s.check v) (s.Notes v) (s.Stops v)) :
    Finds policy (form.check value) ((Schema.mk description form).Notes value)
      ((Schema.mk description form).Stops value) := by
  cases form with
  | number checks => exact number_finds checks
  | object shape unknownKeys catchall strictMessage => exact object_finds hparts
  | array element checks => exact array_finds (hparts element List.mem_cons_self)
  | tuple items rest => exact tuple_finds hparts
  | record key element =>
    exact record_finds (hparts key List.mem_cons_self)
      (hparts element (List.mem_cons_of_mem key List.mem_cons_self))
  | union options => exact union_finds fun s hs => hparts s hs value
  | discriminatedUnion discriminator options =>
    exact discriminatedUnion_finds fun s hs => hparts s hs value
  | intersection left right =>
    unfold Form.check
    have hleft := hparts left List.mem_cons_self value
    have hright := hparts right (List.mem_cons_of_mem left List.mem_cons_self) value
    exact (hleft.part .left).bind fun _ => hright.part .right
  | optional inner =>
    have hinner := hparts inner List.mem_cons_self value
    unfold Form.check
    split
    · exact finds_pure ()
    · rename_i hpresent
      exact hinner.part (.optional hpresent)
  | nullable inner =>
    have hinner := hparts inner List.mem_cons_self value
    unfold Form.check
    split
    · exact finds_pure ()
    · rename_i hpresent
      exact hinner.part (.nullable hpresent)
  | default inner fallback =>
    have hinner := hparts inner List.mem_cons_self
    unfold Form.check
    split
    · exact (hinner fallback).part .fallback
    · rename_i hpresent
      exact (hinner value).part (.default hpresent)
  | string checks =>
    unfold Form.check
    split
    · exact finds_forM fun message _ => finds_note message (.here _ _)
    · exact finds_noteType _ _ (.here _ _)
  | any | unknown =>
    unfold Form.check
    exact finds_pure ()
  | never =>
    exact finds_noteType _ _ (Schema.Notes.here _ _)
  | nan =>
    unfold Form.check
    split
    · split
      · exact finds_pure ()
      · exact finds_noteType _ _ (.here _ _)
    · exact finds_noteType _ _ (.here _ _)
  | literal expected =>
    unfold Form.check
    split
    · split
      · exact finds_pure ()
      · exact finds_note _ (.here _ _)
    · split
      · exact finds_pure ()
      · exact finds_note _ (.here _ _)
  | enum options =>
    unfold Form.check
    split
    · split
      · exact finds_pure ()
      · exact finds_note _ (.here _ _)
    · exact finds_noteType _ _ (.here _ _)
  | boolean | null | date =>
    unfold Form.check
    split
    · exact finds_pure ()
    · exact finds_noteType _ _ (.here _ _)
  | undefined | void =>
    unfold Form.check
    split
    · exact finds_pure ()
    · exact finds_note _ (.here _ _)

end Forms

/-- A check finds violations only at paths where it may note them, and stops only at a number
without the nearest double that a rule asks for. -/
theorem Schema.check_finds (policy : Policy) (s : Schema) (value : Value) :
    Finds policy (s.check value) (s.Notes value) (s.Stops value) := by
  induction s using Schema.induct generalizing value with
  | mk description form ih =>
    unfold Schema.check
    exact Form.check_finds ih

end Conform
