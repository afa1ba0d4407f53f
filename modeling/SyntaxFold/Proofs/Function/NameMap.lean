import SyntaxFold.Proofs.Entries
import SyntaxFold.Proofs.Outcome
import SyntaxFold.Registry

/-!
# Records by name

`toNameMap` succeeds on a sequence whose items all are mappings with a text under `name`. Every
record is entered under this text, without it; of several records with one name the first gives the
place and the last the value. If the names differ, nothing is lost: each record comes back when its
name is put back. On any other sequence the call fails, and says which item is the first that cannot
be entered.
-/

namespace SyntaxFold

namespace NameMap

/-- A record with a name is entered under it, and has it no more. -/
theorem entryOf_eq_ok_iff {index : Nat} {record : Value} {entry : String × Value} :
    entryOf index record = .ok entry ↔
      ∃ fields, record = .mapping fields ∧ Entries.get? "name" fields = some (.string entry.1) ∧
        entry.2 = .mapping (Entries.remove "name" fields) := by
  rcases entry with ⟨name, rest⟩
  cases record with
  | mapping fields =>
      cases found : Entries.get? "name" fields with
      | none => simp [entryOf, found]
      | some value => cases value <;> simp [entryOf, found, eq_comm]
  | _ => simp [entryOf]

/-- The entry of a record: the text under its field `name`, and the other fields in their order. -/
def Enters (record : Value) (entry : String × Value) : Prop :=
  ∃ before after, record = .mapping (before ++ ("name", .string entry.1) :: after) ∧
    "name" ∉ before.map Prod.fst ∧ entry.2 = .mapping (before ++ after)

/-- Why a record has no entry, as the message says it after the position of the record. -/
inductive Offends : Value → String → Prop
  | notMapping {record : Value} : record.mapping? = none → Offends record " is not a mapping"
  | nameless {fields : List (String × Value)} :
      Entries.get? "name" fields = none → Offends (.mapping fields) " has no `name` field"
  | nameOfType {fields : List (String × Value)} {name : Value} :
      Entries.get? "name" fields = some name → name.string? = none →
        Offends (.mapping fields) (" has a " ++ name.type.name ++ " `name`")

/-- The record of an entry, with the name put back at the given position. -/
def putBack (position : Nat) (entry : String × Value) : Value :=
  match entry.2 with
  | .mapping fields => .mapping (fields.insertIdx position ("name", .string entry.1))
  | other => other

theorem entryOf_eq_ok_iff_enters (index : Nat) {record : Value} {entry : String × Value} :
    entryOf index record = .ok entry ↔ Enters record entry := by
  rw [entryOf_eq_ok_iff]
  constructor
  · rintro ⟨fields, rfl, named, rest⟩
    obtain ⟨before, after, rfl, absent⟩ := Entries.exists_append_of_get? named
    rw [Entries.remove_append_cons_self absent] at rest
    exact ⟨before, after, rfl, absent, rest⟩
  · rintro ⟨before, after, rfl, absent, rest⟩
    refine ⟨_, rfl, Entries.get?_append_cons_self absent _ _, ?_⟩
    rw [Entries.remove_append_cons_self absent, rest]

/-- A record has an entry exactly when it is a mapping with a text under `name`. -/
theorem exists_enters_iff {record : Value} :
    (∃ entry, Enters record entry) ↔ ∃ name, record.get? "name" = some (.string name) := by
  constructor
  · rintro ⟨entry, before, after, rfl, absent, -⟩
    exact ⟨entry.1, Entries.get?_append_cons_self absent _ _⟩
  · rintro ⟨name, named⟩
    cases record with
    | mapping fields =>
        obtain ⟨before, after, rfl, absent⟩ := Entries.exists_append_of_get? named
        exact ⟨(name, .mapping (before ++ after)), before, after, rfl, absent, rfl⟩
    | _ => cases named

theorem offends_of_entryOf {index : Nat} {record : Value} {fault : CallFault}
    (failed : entryOf index record = .error fault) :
    ∃ complaint, Offends record complaint ∧
      fault.description = "element " ++ index.repr ++ complaint := by
  cases record with
  | mapping fields =>
      simp only [entryOf] at failed
      split at failed
      · cases failed
      · next name noText found =>
          cases failed
          have isOther : name.string? = none := by
            cases name with
            | string text => exact (noText text rfl).elim
            | _ => rfl
          refine ⟨_, .nameOfType found isOther, ?_⟩
          rw [← String.append_assoc, ← String.append_assoc]
          rfl
      · next absent =>
          cases failed
          exact ⟨_, .nameless absent, rfl⟩
  | _ =>
      cases failed
      exact ⟨_, .notMapping rfl, rfl⟩

theorem insertIdx_append {α : Type} (before after : List α) (item : α) :
    (before ++ after).insertIdx before.length item = before ++ item :: after := by
  induction before with
  | nil => rfl
  | cons first rest ih =>
      rw [List.cons_append, List.length_cons, List.insertIdx_succ_cons, ih, List.cons_append]

theorem exists_putBack {record : Value} {entry : String × Value} (enters : Enters record entry) :
    ∃ position, putBack position entry = record := by
  obtain ⟨before, after, rfl, -, rest⟩ := enters
  exists before.length
  rw [putBack, rest]
  exact congrArg Value.mapping (insertIdx_append before after _)

/-- The message of a failed call, with the position of the record. -/
theorem message_callFailed {fault : CallFault} {position complaint : String}
    (description : fault.description = "element " ++ position ++ complaint) :
    (FoldError.callFailed "toNameMap" fault).message =
      "`toNameMap` failed: element " ++ position ++ complaint := by
  -- The parts are joined as variables: on literals, unification would compute with characters.
  have joined (opening element : String) :
      opening ++ (element ++ position ++ complaint) =
        opening ++ element ++ position ++ complaint := by
    rw [← String.append_assoc, ← String.append_assoc]
  have opening : "`" ++ "toNameMap" ++ "` failed: " ++ "element " =
      "`toNameMap` failed: element " := by decide
  calc
    (FoldError.callFailed "toNameMap" fault).message =
        "`" ++ "toNameMap" ++ "` failed: " ++ ("element " ++ position ++ complaint) :=
      congrArg ("`" ++ "toNameMap" ++ "` failed: " ++ ·) description
    _ = "`" ++ "toNameMap" ++ "` failed: " ++ "element " ++ position ++ complaint := joined _ _
    _ = "`toNameMap` failed: element " ++ position ++ complaint :=
      congrArg (· ++ position ++ complaint) opening

/-- There is one entry for each record. -/
theorem forall₂_of_entriesFrom {index : Nat} {records : List Value}
    {entries : List (String × Value)} (listed : entriesFrom index records = .ok entries) :
    List.Forall₂ (fun record entry => ∃ position, entryOf position record = .ok entry) records
      entries := by
  induction records generalizing index entries with
  | nil =>
      cases listed
      exact .nil
  | cons record rest ih =>
      rcases bind_eq_ok_iff.1 listed with ⟨entry, entryOk, onward⟩
      rcases bind_eq_ok_iff.1 onward with ⟨others, othersOk, same⟩
      cases same
      exact .cons ⟨index, entryOk⟩ (ih othersOk)

/-- The first record without an entry is the one that is reported, by its position. -/
theorem exists_offender {index : Nat} {records : List Value} {fault : CallFault}
    (failed : entriesFrom index records = .error fault) :
    ∃ before record after complaint, records = before ++ record :: after ∧
      (∀ earlier ∈ before, ∃ entry, Enters earlier entry) ∧ Offends record complaint ∧
        fault.description = "element " ++ (index + before.length).repr ++ complaint := by
  induction records generalizing index with
  | nil => cases failed
  | cons record rest ih =>
      rcases bind_eq_error_iff.1 failed with here | ⟨entry, entryOk, onward⟩
      · obtain ⟨complaint, offends, description⟩ := offends_of_entryOf here
        refine ⟨[], record, rest, complaint, rfl, ?_, offends, description⟩
        intro earlier none
        cases none
      · rcases bind_eq_error_iff.1 onward with later | ⟨entries, -, impossible⟩
        · obtain ⟨before, offender, after, complaint, rfl, entered, offends, description⟩ :=
            ih later
          refine ⟨record :: before, offender, after, complaint, rfl, ?_, offends, ?_⟩
          · rw [List.forall_mem_cons]
            exact ⟨⟨entry, (entryOf_eq_ok_iff_enters index).1 entryOk⟩, entered⟩
          · rw [description, List.length_cons, Nat.add_right_comm, Nat.add_assoc]
        · cases impossible

/-- The records are entered one by one exactly when each has an entry. -/
theorem exists_entriesFrom_iff (index : Nat) {records : List Value} :
    (∃ entries, entriesFrom index records = .ok entries) ↔
      ∀ record ∈ records, ∃ entry, Enters record entry := by
  induction records generalizing index with
  | nil => simp [entriesFrom]
  | cons record rest ih =>
      rw [List.forall_mem_cons, ← ih (index + 1)]
      simp only [← entryOf_eq_ok_iff_enters index]
      constructor
      · rintro ⟨entries, listed⟩
        rcases bind_eq_ok_iff.1 listed with ⟨entry, entryOk, onward⟩
        rcases bind_eq_ok_iff.1 onward with ⟨others, othersOk, -⟩
        exact ⟨⟨entry, entryOk⟩, others, othersOk⟩
      · rintro ⟨⟨entry, entryOk⟩, others, othersOk⟩
        refine ⟨entry :: others, ?_⟩
        rw [entriesFrom, entryOk, ok_bind, othersOk]
        rfl

end NameMap

section Calls

variable [Host] {values : List Value} {result : Value}

theorem Callable.call_nameMap_sequence (records : List Value) :
    nameMap.call [.sequence records] =
      ((NameMap.entriesFrom 0 records).map fun entries =>
        .mapping (Entries.ofPairs entries)).mapError (.callFailed "toNameMap") := by
  rw [call, NameMap.ofValue]

/-- A call of `toNameMap` that succeeds is on one sequence of records with names. -/
theorem Callable.call_nameMap_eq_ok (called : nameMap.call values = .ok result) :
    ∃ records entries, values = [.sequence records] ∧
      NameMap.entriesFrom 0 records = .ok entries ∧
        result = .mapping (Entries.ofPairs entries) := by
  rcases values with _ | ⟨argument, _ | ⟨other, rest⟩⟩
  · simp [call] at called
  · cases argument with
    | sequence records =>
        rw [call_nameMap_sequence] at called
        cases listed : NameMap.entriesFrom 0 records with
        | error fault =>
            rw [listed] at called
            cases called
        | ok entries =>
            rw [listed] at called
            cases called
            exact ⟨records, entries, rfl, listed, rfl⟩
    | _ => simp [call, NameMap.ofValue, Except.mapError] at called
  · simp [call] at called

/-- A call of a stand-in that succeeds is on one argument, and returns it. -/
theorem Callable.call_standIn_eq_ok {name : String}
    (called : (standIn name).call values = .ok result) : values = [result] := by
  rcases values with _ | ⟨argument, _ | ⟨other, rest⟩⟩ <;> simp_all [call]

/-- A call of `toNameMap` on one argument fails with a fault of its own. On a sequence it is the
fault of the first record that cannot be entered. -/
theorem Callable.call_nameMap_eq_error {argument : Value} {error : FoldError}
    (failed : nameMap.call [argument] = .error error) :
    ∃ fault, error = .callFailed "toNameMap" fault ∧
      ∀ records, argument = .sequence records → NameMap.entriesFrom 0 records = .error fault := by
  cases argument with
  | sequence records =>
      rw [call_nameMap_sequence] at failed
      cases listed : NameMap.entriesFrom 0 records with
      | ok entries =>
          rw [listed] at failed
          cases failed
      | error fault =>
          rw [listed] at failed
          cases failed
          refine ⟨fault, rfl, ?_⟩
          rintro _ ⟨⟩
          exact listed
  | _ =>
      simp only [call, NameMap.ofValue, Except.mapError, Except.error.injEq] at failed
      refine ⟨_, failed.symm, ?_⟩
      rintro _ ⟨⟩

namespace Registry

open NameMap

/-- A call of `toNameMap` on one argument succeeds exactly on a sequence of mappings that all have a
text under `name`. The result has the distinct names in order of their first record, each with the
last record of this name, in which just `name` is missing; and if all names differ, the records come
back when the names are put back. Any other argument is refused, and of a sequence the first record
that is to blame is named by its position. -/
theorem call_toNameMap (argument : Value) :
    ∃ function, Registry.prelude.get? "toNameMap" = some function ∧
      ((∃ result, function.call [argument] = .ok result) ↔ ∃ records, argument = .sequence records ∧
        ∀ record ∈ records, ∃ name, record.get? "name" = some (.string name)) ∧
      (∀ result, function.call [argument] = .ok result → ∃ records pairs entries,
        argument = .sequence records ∧ List.Forall₂ Enters records pairs ∧
          result = .mapping entries ∧ Entries.KeepsLast pairs entries ∧
            ((pairs.map Prod.fst).Nodup → List.Forall₂ (fun record entry =>
              ∃ position, putBack position entry = record) records entries)) ∧
      ∀ error, function.call [argument] = .error error →
        ∃ fault, error = .callFailed "toNameMap" fault ∧
          ∀ records, argument = .sequence records → ∃ before record after complaint,
            records = before ++ record :: after ∧
              (∀ earlier ∈ before, ∃ name, earlier.get? "name" = some (.string name)) ∧
                Offends record complaint ∧ error.message =
                  "`toNameMap` failed: element " ++ before.length.repr ++ complaint := by
  refine ⟨.nameMap, rfl, ?_, ?_, ?_⟩
  · constructor
    · rintro ⟨result, called⟩
      obtain ⟨records, entries, same, listed, -⟩ := Callable.call_nameMap_eq_ok called
      refine ⟨records, List.singleton_inj.1 same, ?_⟩
      simp only [← exists_enters_iff]
      exact (exists_entriesFrom_iff 0).1 ⟨entries, listed⟩
    · rintro ⟨records, rfl, named⟩
      simp only [← exists_enters_iff] at named
      obtain ⟨entries, listed⟩ := (exists_entriesFrom_iff 0).2 named
      rw [Callable.call_nameMap_sequence, listed]
      exact ⟨_, rfl⟩
  · intro result called
    obtain ⟨records, pairs, same, listed, rfl⟩ := Callable.call_nameMap_eq_ok called
    have entered : List.Forall₂ Enters records pairs :=
      (forall₂_of_entriesFrom listed).imp fun record entry ⟨position, entryOk⟩ =>
        (entryOf_eq_ok_iff_enters position).1 entryOk
    refine ⟨records, pairs, _, List.singleton_inj.1 same, entered, rfl,
      Entries.keepsLast_ofPairs pairs, ?_⟩
    intro distinct
    rw [Entries.ofPairs_of_nodup distinct]
    exact entered.imp fun record entry => exists_putBack
  · intro error called
    obtain ⟨fault, rfl, failed⟩ := Callable.call_nameMap_eq_error called
    refine ⟨fault, rfl, ?_⟩
    intro records same
    obtain ⟨before, record, after, complaint, split, entered, offends, description⟩ :=
      exists_offender (failed records same)
    refine ⟨before, record, after, complaint, split, ?_, offends, ?_⟩
    · simp only [← exists_enters_iff]
      exact entered
    · rw [Nat.zero_add] at description
      exact message_callFailed description

end Registry

end Calls

section Records

attribute [local instance] Host.closed

/-- A record with a name behind another field. -/
def namedRecord (volume : Int64) (name : String) : Value :=
  .mapping [("volume", .integer volume), ("name", .string name)]

/-- Three records, of which the first and the last have one name, and a fourth one without a
name. -/
theorem Registry.call_toNameMap_repeated :
    let records := [namedRecord 1 "sine", namedRecord 2 "saw", namedRecord 3 "sine"]
    let nameless := records ++ [.mapping [("volume", .integer 4)]]
    let result := Value.mapping
      [("sine", .mapping [("volume", .integer 3)]), ("saw", .mapping [("volume", .integer 2)])]
    let error : FoldError := .callFailed "toNameMap" (.elementNameless 3)
    (Callable.nameMap.call [.sequence records] = .ok result ∧
      Callable.nameMap.call [.sequence nameless] = .error error) ∧
      (∃ pairs entries, List.Forall₂ NameMap.Enters records pairs ∧ result = .mapping entries ∧
        Entries.KeepsLast pairs entries) ∧
      ∃ before record after complaint, nameless = before ++ record :: after ∧
        NameMap.Offends record complaint ∧
          error.message = "`toNameMap` failed: element " ++ before.length.repr ++ complaint := by
  intro records nameless result error
  have called : Callable.nameMap.call [.sequence records] = .ok result := by
    rw [Callable.call]
    rfl
  have failed : Callable.nameMap.call [.sequence nameless] = .error error := by
    rw [Callable.call]
    rfl
  refine ⟨⟨called, failed⟩, ?_, ?_⟩
  · obtain ⟨_, ⟨⟩, -, succeeds, -⟩ := Registry.call_toNameMap (.sequence records)
    obtain ⟨_, pairs, entries, ⟨⟩, entered, same, keepsLast, -⟩ := succeeds result called
    exact ⟨pairs, entries, entered, same, keepsLast⟩
  · obtain ⟨_, ⟨⟩, -, -, fails⟩ := Registry.call_toNameMap (.sequence nameless)
    obtain ⟨fault, -, blames⟩ := fails error failed
    obtain ⟨before, record, after, complaint, split, -, offends, message⟩ := blames nameless rfl
    exact ⟨before, record, after, complaint, split, offends, message⟩

end Records

end SyntaxFold
