import SyntaxFold.Proofs.Decimal.Unpacked
import SyntaxFold.Proofs.Numeral
import SyntaxFold.Proofs.Reduction.Rule
import SyntaxFold.Proofs.Value.Data

/-!
# Values read back

A value that is written as data can be put into a tree again, since a reduction takes bare data as
it is. Sequences of scalars come back unchanged: an integer is written exactly, and so is a float,
which is not taken for an integer as long as it stands for none. Mappings do not come back, because
an object is a node.
-/

namespace SyntaxFold

open Outcome

/-- Exactly the finite doubles are dyadic numbers. -/
theorem Dyadic.isSome_ofFloat?_iff {number : Float} :
    (ofFloat? number).isSome ↔ number.isFinite = true := by
  rw [ofFloat?_eq_ofUnpacked?]
  change _ ↔ number.toModel.unpack.isFinite = true
  cases number.toModel.unpack <;> simp [ofUnpacked?, Float.Model.UnpackedFloat.isFinite]

namespace Value

/-- A scalar that is no number of another kind, or a sequence of such values: floats are finite and
stand for no integer of 64 bits. -/
inductive Plain : Value → Prop
  | null : Plain null
  | bool (value : Bool) : Plain (bool value)
  | integer (value : Int64) : Plain (integer value)
  | float {number : Float} : number.isFinite = true → ¬ FitsInt64 number → Plain (float number)
  | string (text : String) : Plain (string text)
  | sequence {items : List Value} : (∀ item ∈ items, Plain item) → Plain (sequence items)

theorem itemsToJson_eq_mapM (items : List Value) : itemsToJson items = items.mapM toJson := by
  induction items with
  | nil => rfl
  | cons item rest ih => rw [itemsToJson, ih, List.mapM_cons]

theorem toJson_sequence_of_forall₂ {items : List Value} {data : List Json}
    (written : List.Forall₂ (fun item data => item.toJson = .ok data) items data) :
    (sequence items).toJson = .ok (.array data) := by
  rw [toJson, itemsToJson_eq_mapM, mapM_eq_ok_iff.2 written]
  rfl

theorem toJson_float {number : Float} (finite : number.isFinite = true) :
    (float number).toJson = .ok (.float number) := by
  rw [toJson, Json.ofFloat, if_pos (Dyadic.isSome_ofFloat?_iff.2 finite)]

theorem number_eq_float {number : Float} (outside : ¬ FitsInt64 number) :
    Value.number number = .float number := by
  rw [Value.number, int64OfFloat?_eq_none_iff.2 outside]

theorem ofInteger_toInt (value : Int64) : ofInteger value.toInt = .integer value := by
  rw [ofInteger, Numeral.int64OfInt?_eq_some_iff.2 rfl]

theorem exists_forall₂_of_forall_mem {α β : Type} {relation : α → β → Prop} {items : List α}
    (each : ∀ item ∈ items, ∃ other, relation item other) :
    ∃ others, List.Forall₂ relation items others := by
  induction items with
  | nil => exact ⟨[], .nil⟩
  | cons item rest ih =>
      rw [List.forall_mem_cons] at each
      obtain ⟨other, related⟩ := each.1
      obtain ⟨others, relatedRest⟩ := ih each.2
      exact ⟨other :: others, .cons related relatedRest⟩

variable [Host]

/-- The value is written as the data, and every reduction reads the data as the value. -/
structure ReadsBack (value : Value) (data : Json) : Prop where
  written : value.toJson = .ok data
  read : ∀ (environment : Environment) (inside : Json → Except FoldError Value) (mode : Mode),
    environment.reduceWith inside mode data = .ok value

theorem ReadsBack.sequence {items : List Value} {data : List Json}
    (each : List.Forall₂ ReadsBack items data) : ReadsBack (sequence items) (.array data) where
  written := toJson_sequence_of_forall₂ (each.imp fun _ _ readsBack => readsBack.written)
  read := by
    intro environment inside mode
    have values : data.mapM (environment.reduceWith inside mode.nested) = .ok items := by
      rw [mapM_eq_ok_iff]
      exact each.flip.imp fun _ _ readsBack => readsBack.read environment inside mode.nested
    rw [Environment.reduceWith_eq_rule, Environment.rule, values]
    rfl

/-- Plain values come back. -/
theorem Plain.exists_readsBack {value : Value} (plain : value.Plain) :
    ∃ data, ReadsBack value data := by
  induction plain with
  | null => exact ⟨.null, rfl, fun _ _ _ => by rw [Environment.reduceWith]⟩
  | bool value => exact ⟨.bool value, rfl, fun _ _ _ => by rw [Environment.reduceWith]⟩
  | integer value =>
      refine ⟨.integer value.toInt, rfl, ?_⟩
      intro environment inside mode
      rw [Environment.reduceWith, ofInteger_toInt]
  | @float number finite outside =>
      refine ⟨.float number, toJson_float finite, ?_⟩
      intro environment inside mode
      rw [Environment.reduceWith, number_eq_float outside]
  | string text => exact ⟨.string text, rfl, fun _ _ _ => by rw [Environment.reduceWith]⟩
  | sequence _ ih =>
      obtain ⟨data, each⟩ := exists_forall₂_of_forall_mem ih
      exact ⟨.array data, .sequence each⟩

/-- Writing a value fails exactly if there is a function in its sequences and mappings, and then
names the first one. Plain values are written as data that every reduction reads as the same
value. -/
theorem toJson_reads_back :
    (∀ value : Value, (∃ error, value.toJson = .error error) ↔
      ∃ stamp body, Nested.Holds value (.function stamp body)) ∧
    (∀ (value : Value) (error : FunctionInData), value.toJson = .error error ↔
      ∃ first rest, value.functions = first :: rest ∧ error = ⟨first.name⟩) ∧
    ∀ value : Value, value.Plain → ∃ data, value.toJson = .ok data ∧
      ∀ context : Context, context.reduce data = .ok value := by
  refine ⟨?_, ?_, ?_⟩
  · intro value
    constructor
    · rintro ⟨error, failed⟩
      obtain ⟨first, rest, functions, -⟩ := toJson_eq_error_iff.1 failed
      have listed : first ∈ value.functions := by simp [functions]
      obtain ⟨stamp, holds⟩ := mem_functions_iff.1 listed
      exact ⟨stamp, first, holds⟩
    · rintro ⟨stamp, body, holds⟩
      have listed : body ∈ value.functions := mem_functions_iff.2 ⟨stamp, holds⟩
      obtain ⟨first, rest, functions⟩ := List.exists_cons_of_ne_nil (List.ne_nil_of_mem listed)
      exact ⟨⟨first.name⟩, toJson_eq_error_iff.2 ⟨first, rest, functions, rfl⟩⟩
  · intro value error
    exact toJson_eq_error_iff
  · intro value plain
    obtain ⟨data, readsBack⟩ := plain.exists_readsBack
    refine ⟨data, readsBack.written, ?_⟩
    intro context
    exact readsBack.read context.environment context.inside context.mode

section Closed

attribute [local instance] Host.closed

/-- A sequence in a sequence comes back in a shallow reduction too; and the first of two functions
in a mapping is named. -/
theorem toJson_reads_back_nested :
    let half := Float.ofBits 0x3FE0000000000000
    let value := sequence [integer 7, float half, sequence [null, string "kick"]]
    let data := Json.array [.integer 7, .float half, .array [.null, .string "kick"]]
    let context : Context := ⟨⟨.empty, .prelude, .empty⟩, ⟨true, true⟩, 0, 0⟩
    let functions := mapping
      [("level", sequence [value, function 0 (.standIn "log10")]), ("name", function 0 .nameMap)]
    (value.Plain ∧ value.toJson = .ok data ∧ context.reduce data = .ok value) ∧
      functions.toJson = .error ⟨"log10"⟩ := by
  intro half value data context functions
  obtain ⟨-, fails_iff, readBack⟩ := toJson_reads_back
  have finite : half.isFinite = true := by decide +kernel
  have outside : ¬ FitsInt64 half := int64OfFloat?_eq_none_iff.1 (by decide +kernel)
  have plain : value.Plain := by
    have inner : (sequence [null, string "kick"]).Plain := by
      apply Plain.sequence
      exact List.forall_mem_cons.2 ⟨.null, List.forall_mem_singleton.2 (.string "kick")⟩
    apply Plain.sequence
    refine List.forall_mem_cons.2 ⟨.integer 7, ?_⟩
    exact List.forall_mem_cons.2 ⟨.float finite outside, List.forall_mem_singleton.2 inner⟩
  obtain ⟨written, isWritten, read⟩ := readBack value plain
  have isData : value.toJson = .ok data := by
    simp only [value, toJson, itemsToJson, Json.ofFloat, Dyadic.isSome_ofFloat?_iff, finite]
    rfl
  obtain rfl := Except.ok.inj (isWritten.symm.trans isData)
  refine ⟨⟨plain, isData, read context⟩, ?_⟩
  exact (fails_iff functions _).2 ⟨_, _, rfl, rfl⟩

end Closed

end Value

end SyntaxFold
