import Conform.Proofs.Failing
import Conform.Proofs.Number.Order
import Conform.Proofs.Schema.Built

/-!
# Why calls are refused

A call of a constructor or a method is refused with a fault that is reported, except where a number
is too large for what it is needed for: a length beyond the doubles, or a precision beyond the
counts that patterns can have.

## Main definitions

- `Asks` — the numbers that lengths are taken from
- `Excess` — the errors that a call may meet, given these numbers
- `Constructor.build_fails`, `Method.call_fails` — calls meet no others
-/

namespace Conform

/-- The numbers in the arguments of a call from which lengths may be taken: the first argument, and
the values of options. -/
inductive Asks (args : List Value) : Option Text → Number → Prop
  | direct {n : Number} (first : argument args 0 = .scalar (.number n)) : Asks args none n
  | option {fields : List (Text × Value)} {key : Text} {n : Number} (given : .object fields ∈ args)
      (set : Fields.get? fields key = some (.scalar (.number n))) : Asks args (some key) n

/-- The option for the decimals of seconds. -/
def precisionKey : Text := "precision"

/-- The option for the place where a search begins. -/
def positionKey : Text := "position"

/-- The whole part of a number. -/
def Number.wholePart : Number → Nat
  | .int n => n.toNat
  | .float d => (d.truncate?.getD 0).toNat

/-- The least number that has no nearest double. -/
def Double.overflow : Nat := 2 ^ 1024 - 2 ^ 970

/-- The errors that a call may meet, given the numbers in its arguments. -/
inductive Excess (asks : Option Text → Number → Prop) : BuildError → Prop
  | definition (fault : DefinitionFault) : Excess asks (.definition fault)
  | tooManyArguments (arity : Arity) (given : Nat) : Excess asks (.tooManyArguments arity given)
  | missingArgument (arity : Arity) : Excess asks (.missingArgument arity)
  | integer {key : Option Text} {n : Nat} (asked : asks key (.int n))
      (length : key ∈ [none, some precisionKey, some positionKey]) (large : Double.overflow ≤ n) :
      Excess asks .integerTooLarge
  | repetition {n : Number} (asked : asks (some precisionKey) n)
      (large : Regex.countLimit ≤ n.wholePart) : Excess asks .repetitionTooLarge

theorem Excess.mono {asks asks' : Option Text → Number → Prop} {e : BuildError}
    (h : Excess asks e) (hasks : ∀ key n, asks key n → asks' key n) : Excess asks' e := by
  cases h with
  | definition fault => exact .definition fault
  | tooManyArguments arity given => exact .tooManyArguments arity given
  | missingArgument arity => exact .missingArgument arity
  | integer asked length large => exact .integer (hasks _ _ asked) length large
  | repetition asked large => exact .repetition (hasks _ _ asked) large

/-- An integer has no nearest double if it is too far from zero. -/
theorem Double.ofInt?_eq_none_iff {n : Int} : ofInt? n = none ↔ overflow ≤ n.natAbs := by
  rw [← Option.not_isSome_iff_eq_none, ofInt?_isSome_iff, Nat.not_lt]
  constructor
  · intro h
    by_contra hlt
    have hle : nearestPlace n.natAbs 1 ≤ nearestPlace (overflow - 1) 1 :=
      nearestPlace_mono Nat.one_pos (by omega)
    have hbelow : nearestPlace (overflow - 1) 1 < places := by decide +kernel
    omega
  · intro h
    have hle : nearestPlace overflow 1 ≤ nearestPlace n.natAbs 1 :=
      nearestPlace_mono Nat.one_pos (by omega)
    have hover : places ≤ nearestPlace overflow 1 := by decide +kernel
    omega

section Arguments

variable {asks : Option Text → Number → Prop}

@[simp]
theorem failsOnly_refuse {α : Type} (fault : DefinitionFault) :
    FailsOnly (Excess asks) (refuse fault : Build α) :=
  (failsOnly_error _).mpr (.definition fault)

theorem messageArgument_fails (v : Value) : FailsOnly (Excess asks) (messageArgument v) := by
  unfold messageArgument
  split
  · exact failsOnly_ok _
  · exact failsOnly_ok _
  · exact failsOnly_ok _
  · split <;> simp
  · simp

theorem numberArgument_fails (name : Text) (v : Value) :
    FailsOnly (Excess asks) (numberArgument name v) := by
  unfold numberArgument
  split <;> simp

theorem schemaArgument_fails (name : Text) (v : Value) :
    FailsOnly (Excess asks) (schemaArgument name v) := by
  unfold schemaArgument
  split <;> simp

theorem textArgument_fails (name : Text) (v : Value) :
    FailsOnly (Excess asks) (textArgument name v) := by
  unfold textArgument
  split <;> simp

theorem optionsArgument_fails (name : Text) (v : Value) :
    FailsOnly (Excess asks) (optionsArgument name v) := by
  unfold optionsArgument
  split <;> simp

theorem ruleWith_fails {Rule : Type} (rule : Rule) (message : Value) :
    FailsOnly (Excess asks) (ruleWith rule message) :=
  (messageArgument_fails message).bind fun _ _ => failsOnly_pure _

theorem numberArgument_eq_ok {name : Text} {v : Value} {n : Number}
    (h : numberArgument name v = .ok n) : v = .scalar (.number n) := by
  unfold numberArgument at h
  split at h
  · cases h
    rfl
  · cases h

/-- A length is refused as too large only if it is an integer beyond the doubles. -/
theorem lengthArgument_fails {name : Text} {v : Value} {key : Option Text}
    (hkey : key ∈ [none, some precisionKey, some positionKey])
    (hasks : ∀ n, v = .scalar (.number n) → asks key n) :
    FailsOnly (Excess asks) (lengthArgument name v) := by
  refine (numberArgument_fails name v).bind fun n hn => ?_
  have hasked : asks key n := hasks n (numberArgument_eq_ok hn)
  by_cases hneg : n.below (.int 0) = true
  · rw [if_pos hneg]
    exact failsOnly_refuse _
  · rw [if_neg hneg]
    cases n with
    | float d =>
      simp only [Number.toDouble?]
      split <;> simp
    | int n =>
      have hpos : 0 ≤ n := by simpa [Number.below_int] using hneg
      cases hd : Double.ofInt? n with
      | some d =>
        simp only [Number.toDouble?, hd]
        split <;> simp
      | none =>
        simp only [Number.toDouble?, hd, failsOnly_error]
        obtain ⟨k, rfl⟩ := Int.eq_ofNat_of_zero_le hpos
        exact .integer hasked hkey (Double.ofInt?_eq_none_iff.mp hd)

theorem lengthArgument_eq_ok {name : Text} {v : Value} {length : Nat}
    (h : lengthArgument name v = .ok length) :
    ∃ n, v = .scalar (.number n) ∧ length = n.wholePart := by
  obtain ⟨n, hn, h⟩ := bind_eq_ok.mp h
  refine ⟨n, numberArgument_eq_ok hn, ?_⟩
  split at h
  · exact nomatch h
  · split at h
    · exact nomatch h
    · split at h
      · exact nomatch h
      · cases n <;> cases h <;> rfl

/-- A precision is refused as too large only if it is beyond the counts of patterns. -/
theorem fractionArgument_fails {options : List (Text × Value)}
    (hasks : ∀ n, Fields.get? options precisionKey = some (.scalar (.number n)) →
      asks (some precisionKey) n) :
    FailsOnly (Excess asks) (fractionArgument options) := by
  -- A precision that is not given is null, which is no number.
  have hnumber {n : Number}
      (h : (Fields.get? options precisionKey).getD .null = .scalar (.number n)) :
      asks (some precisionKey) n := by
    cases hget : Fields.get? options precisionKey with
    | none =>
      rw [hget] at h
      exact nomatch h
    | some v =>
      rw [hget, Option.getD_some] at h
      exact hasks n (h ▸ hget)
  unfold fractionArgument
  split
  · exact failsOnly_ok _
  · exact failsOnly_ok _
  · refine (lengthArgument_fails (by simp) fun n => hnumber).bind fun digits hdigits => ?_
    split
    · exact failsOnly_ok _
    · split
      · rename_i hlarge
        obtain ⟨n, hn, rfl⟩ := lengthArgument_eq_ok hdigits
        exact (failsOnly_error _).mpr (.repetition (hnumber hn) hlarge)
      · exact failsOnly_ok _

end Arguments

section Calls

variable {args : List Value}

theorem mem_of_argument {index : Nat} {fields : List (Text × Value)}
    (h : argumentOrNull args index = .object fields) : .object fields ∈ args := by
  unfold argumentOrNull at h
  cases hget : args[index]? with
  | none =>
    rw [hget] at h
    exact nomatch h
  | some v =>
    rw [hget, Option.getD_some] at h
    exact h ▸ List.mem_of_getElem? hget

/-- Options that are given are fields of an argument. -/
theorem asks_option {name key : Text} {index : Nat} {options : List (Text × Value)}
    (h : optionsArgument name (argumentOrNull args index) = .ok options) {n : Number}
    (hset : Fields.get? options key = some (.scalar (.number n))) : Asks args (some key) n := by
  unfold optionsArgument at h
  split at h
  · cases h
    exact nomatch hset
  · cases h
    exact nomatch hset
  · rename_i fields hfields
    cases h
    exact .option (mem_of_argument hfields) hset
  · exact nomatch h

theorem messageOption_fails {asks : Option Text → Number → Prop} (options : List (Text × Value)) :
    FailsOnly (Excess asks) (messageOption options) := messageArgument_fails _

theorem ipVersionOption_fails {asks : Option Text → Number → Prop}
    (options : List (Text × Value)) : FailsOnly (Excess asks) (ipVersionOption options) := by
  unfold ipVersionOption
  split
  · exact failsOnly_ok _
  · split
    · exact failsOnly_ok _
    · split <;> simp
  · simp

/-- A rule about the length that the first argument gives. -/
theorem lengthRule_fails {Rule : Type} (name : Text) (rule : Nat → Rule) (message : Value) :
    FailsOnly (Excess (Asks args)) (do
      ruleWith (rule (← lengthArgument name (argument args 0))) message) :=
  (lengthArgument_fails (by simp) fun _ hn => .direct hn).bind fun _ _ => ruleWith_fails _ _

theorem StringMethod.rule_fails (m : StringMethod) (args : List Value) :
    FailsOnly (Excess (Asks args)) (m.rule args) := by
  cases m with
  | min | max | length => exact lengthRule_fails _ _ _
  | nonempty | format | url => exact ruleWith_fails _ _
  | trim | toLowerCase | toUpperCase => exact failsOnly_ok _
  | ip =>
    refine (optionsArgument_fails _ _).bind fun options _ => ?_
    refine (ipVersionOption_fails _).bind fun _ _ => ?_
    exact (messageOption_fails _).bind fun _ _ => failsOnly_pure _
  | datetime | time =>
    refine (optionsArgument_fails _ _).bind fun options hoptions => ?_
    refine (fractionArgument_fails fun n hn => asks_option hoptions hn).bind fun _ _ => ?_
    exact (messageOption_fails _).bind fun _ _ => failsOnly_pure _
  | regex =>
    unfold StringMethod.rule
    dsimp only
    split
    · exact ruleWith_fails _ _
    · exact failsOnly_refuse _
  | startsWith | endsWith =>
    exact (textArgument_fails _ _).bind fun _ _ => ruleWith_fails _ _
  | includes =>
    refine (textArgument_fails _ _).bind fun needle _ => ?_
    refine (optionsArgument_fails _ _).bind fun options hoptions => ?_
    refine FailsOnly.bind ?_ fun start _ =>
      (messageOption_fails _).bind fun _ _ => failsOnly_pure _
    -- The default is zero, with which no length is asked for.
    cases hget : Fields.get? options positionKey with
    | none =>
      rw [positionKey] at hget
      rw [hget]
      exact failsOnly_pure 0
    | some position =>
      rw [positionKey] at hget
      rw [hget, Option.getD_some]
      split
      · have hkey : some positionKey ∈ [none, some precisionKey, some positionKey] := by simp
        exact lengthArgument_fails hkey fun n hn => asks_option hoptions (hn ▸ hget)
      · exact failsOnly_pure 0

theorem NumberMethod.rules_fails (m : NumberMethod) (args : List Value) :
    FailsOnly (Excess (Asks args)) (m.rules args) := by
  have hbound (rule : Number → NumberRule) (name : Text) : FailsOnly (Excess (Asks args)) (do
      let n ← numberArgument name (argument args 0)
      return [← ruleWith (rule n) (argumentOrNull args 1)]) :=
    (numberArgument_fails _ _).bind fun _ _ =>
      (ruleWith_fails _ _).bind fun _ _ => failsOnly_pure _
  have hfixed (rule : NumberRule) : FailsOnly (Excess (Asks args)) (do
      return [← ruleWith rule (argumentOrNull args 0)]) :=
    (ruleWith_fails _ _).bind fun _ _ => failsOnly_pure _
  cases m with
  | min | max | gt | gte | lt | lte => exact hbound _ _
  | int | positive | negative | nonpositive | nonnegative | finite => exact hfixed _
  | multipleOf | step =>
    refine (numberArgument_fails _ _).bind fun step _ => ?_
    split
    · exact failsOnly_refuse _
    · exact (ruleWith_fails _ _).bind fun _ _ => failsOnly_pure _
  | safe => exact (messageArgument_fails _).bind fun _ _ => failsOnly_pure _

theorem ArrayMethod.rule_fails (m : ArrayMethod) (args : List Value) :
    FailsOnly (Excess (Asks args)) (m.rule args) := by
  cases m with
  | min | max | length => exact lengthRule_fails _ _ _
  | nonempty => exact ruleWith_fails _ _

theorem shapeFields_fails {asks : Option Text → Number → Prop} (name : Text)
    (fields : List (Text × Value)) : FailsOnly (Excess asks) (shapeFields name fields) := by
  fun_induction shapeFields with
  | case1 => exact failsOnly_ok _
  | case2 key s rest ih => exact ih.bind fun _ _ => failsOnly_pure _
  | case3 => exact failsOnly_refuse _

theorem shapeArgument_fails {asks : Option Text → Number → Prop} (name : Text) (v : Value) :
    FailsOnly (Excess asks) (shapeArgument name v) := by
  unfold shapeArgument
  split
  · exact shapeFields_fails name _
  · exact failsOnly_refuse _

theorem maskArgument_fails {asks : Option Text → Number → Prop} (name : Text) (v : Value) :
    FailsOnly (Excess asks) (maskArgument name v) := by
  unfold maskArgument
  split <;> simp

theorem maskOrAll_fails {asks : Option Text → Number → Prop} (name : Text) (all : List Text)
    (v : Value) : FailsOnly (Excess asks) (maskOrAll name all v) := by
  unfold maskOrAll
  split
  · exact failsOnly_ok all
  · exact maskArgument_fails name v

theorem schemasArgument_fails {asks : Option Text → Number → Prop} (name : Text) (least : Nat)
    (v : Value) : FailsOnly (Excess asks) (schemasArgument name least v) := by
  unfold schemasArgument
  split
  · refine (failsOnly_mapM (schemaArgument_fails name) _).bind fun schemas _ => ?_
    split <;> simp
  · exact failsOnly_refuse _

theorem enumOf_fails {asks : Option Text → Number → Prop} (options : List Text) :
    FailsOnly (Excess asks) (enumOf options) := by
  unfold enumOf
  split <;> simp

theorem Arity.check_fails {asks : Option Text → Number → Prop} (a : Arity) (given : Nat) :
    FailsOnly (Excess asks) (a.check given) := by
  unfold Arity.check
  split
  · exact (failsOnly_error _).mpr (.tooManyArguments a given)
  · split
    · exact (failsOnly_error _).mpr (.missingArgument a)
    · exact failsOnly_ok _

theorem ObjectMethod.call_fails {asks : Option Text → Number → Prop} (m : ObjectMethod)
    (o : ObjectParts) (args : List Value) : FailsOnly (Excess asks) (m.call o args) := by
  cases m with
  | strict => exact (messageArgument_fails _).bind fun _ _ => failsOnly_pure _
  | passthrough | strip => exact failsOnly_ok _
  | catchall => exact (schemaArgument_fails _ _).bind fun _ _ => failsOnly_pure _
  | extend => exact (shapeArgument_fails _ _).bind fun _ _ => failsOnly_pure _
  | merge =>
    unfold ObjectMethod.call
    dsimp only
    split
    · split <;> simp
    · exact failsOnly_refuse _
  | pickFields | omitFields => exact (maskArgument_fails _ _).bind fun _ _ => failsOnly_pure _
  | partialFields | requiredFields =>
    exact (maskOrAll_fails _ _ _).bind fun _ _ => failsOnly_pure _
  | keyof => exact enumOf_fails _

theorem EnumMethod.call_fails {asks : Option Text → Number → Prop} (m : EnumMethod)
    (options : List Text) (args : List Value) : FailsOnly (Excess asks) (m.call options args) := by
  unfold EnumMethod.call
  split
  · cases m <;> exact enumOf_fails _
  · exact failsOnly_refuse _

theorem CommonMethod.call_fails {asks : Option Text → Number → Prop} (m : CommonMethod)
    (s : Schema) (args : List Value) : FailsOnly (Excess asks) (m.call s args) := by
  cases m with
  | optional | nullable | nullish | default | array | readonly => exact failsOnly_ok _
  | or | and => exact (schemaArgument_fails _ _).bind fun _ _ => failsOnly_pure _
  | describe => exact (textArgument_fails _ _).bind fun _ _ => failsOnly_pure _

/-- A call of a method fails as too large only over a number in its arguments. -/
theorem Method.call_fails (m : Method) (args : List Value) :
    FailsOnly (Excess (Asks args)) (m.call args) := by
  refine (Arity.check_fails _ _).bind fun _ _ => ?_
  cases m with
  | common s m => exact m.call_fails s args
  | string description checks m => exact (m.rule_fails args).bind fun _ _ => failsOnly_pure _
  | number description checks m => exact (m.rules_fails args).bind fun _ _ => failsOnly_pure _
  | array description element checks m =>
    exact (m.rule_fails args).bind fun _ _ => failsOnly_pure _
  | object o m => exact m.call_fails o args
  | enum options m => exact m.call_fails options args
  | rest items => exact (schemaArgument_fails _ _).bind fun _ _ => failsOnly_pure _
  | unwrapOptional | unwrapNullable | removeDefault => exact failsOnly_ok _

theorem Constructor.addTags_fails {asks : Option Text → Number → Prop} (seen tags : List Scalar) :
    FailsOnly (Excess asks) (Constructor.checkTags.addTags seen tags) := by
  induction tags generalizing seen with
  | nil => exact failsOnly_ok seen
  | cons tag tags ih =>
    rw [Constructor.checkTags.addTags]
    split
    · exact failsOnly_refuse _
    · exact ih _

theorem Constructor.checkTags_fails {asks : Option Text → Number → Prop} (discriminator : Text)
    (seen : List Scalar) (options : List Schema) :
    FailsOnly (Excess asks) (Constructor.checkTags discriminator seen options) := by
  induction options generalizing seen with
  | nil => exact failsOnly_ok _
  | cons option options ih =>
    rw [Constructor.checkTags]
    split
    · split
      · exact failsOnly_refuse _
      · exact (Constructor.addTags_fails _ _).bind fun seen _ => ih seen
    · exact failsOnly_refuse _

/-- A call of a constructor does not fail as too large. -/
theorem Constructor.build_fails {asks : Option Text → Number → Prop} (c : Constructor)
    (args : List Value) : FailsOnly (Excess asks) (c.build args) := by
  refine (Arity.check_fails _ _).bind fun _ _ => ?_
  cases c with
  | literal =>
    unfold Constructor.apply
    dsimp only
    split <;> simp
  | enum =>
    unfold Constructor.apply
    dsimp only
    split
    · split <;> simp
    · exact failsOnly_refuse _
  | object =>
    unfold Constructor.apply
    dsimp only
    split
    · exact failsOnly_pure _
    · exact (shapeArgument_fails _ _).bind fun _ _ => failsOnly_pure _
  | array | optional | nullable => exact (schemaArgument_fails _ _).bind fun _ _ => failsOnly_pure _
  | tuple =>
    refine (schemasArgument_fails _ _ _).bind fun items _ => ?_
    dsimp only
    split
    · exact failsOnly_pure _
    · exact (schemaArgument_fails _ _).bind fun _ _ => failsOnly_pure _
  | record =>
    unfold Constructor.apply
    dsimp only
    split
    · exact (schemaArgument_fails _ _).bind fun _ _ => failsOnly_pure _
    · refine (schemaArgument_fails _ _).bind fun key _ => ?_
      exact (schemaArgument_fails _ _).bind fun _ _ => failsOnly_pure _
  | union => exact (schemasArgument_fails _ _ _).bind fun _ _ => failsOnly_pure _
  | discriminatedUnion =>
    unfold Constructor.apply
    dsimp only
    split
    · refine (schemasArgument_fails _ _ _).bind fun options _ => ?_
      exact (Constructor.checkTags_fails _ _ _).bind fun _ _ => failsOnly_pure _
    · exact failsOnly_refuse _
  | intersection =>
    refine (schemaArgument_fails _ _).bind fun left _ => ?_
    exact (schemaArgument_fails _ _).bind fun _ _ => failsOnly_pure _
  | _ => exact failsOnly_ok _

end Calls

end Conform
