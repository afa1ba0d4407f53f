import Mathlib.Data.List.Forall2
import SyntaxFold.Error
import SyntaxFold.Outcome

/-!
# Statements about outcomes

Six statements about computations that can fail recur in this development, and all of them pass
through the steps of a chain and through lists. Two speak of one outcome: `Outcome.Ensures` says
that its value, if there is one, has a property, and `Outcome.FailsOnly` says so of its error.
`Outcome.Related` compares the values of two outcomes, if both have one. `Outcome.Refines` compares
the outcomes themselves: the later one is the same as the earlier one, unless the earlier one is an
error that is only provisional. `Outcome.Agrees` is the strongest: either both outcomes are values
or both are errors, and these are related. `Outcome.FailsFirst` compares an outcome with a list of
steps: it fails with the first error among them.
-/

namespace SyntaxFold

variable {ε α β : Type}

@[simp] theorem ok_bind (value : α) (next : α → Except ε β) : (.ok value >>= next) = next value :=
  rfl

@[simp] theorem error_bind (error : ε) (next : α → Except ε β) :
    (.error error >>= next) = .error error :=
  rfl

/-- A chain fails exactly when its first step does or its second on that result. -/
theorem bind_eq_error_iff {first : Except ε α} {next : α → Except ε β} {error : ε} :
    (first >>= next) = .error error ↔
      first = .error error ∨ ∃ value, first = .ok value ∧ next value = .error error := by
  cases first <;> simp

/-- A change of errors leaves values as they are. -/
theorem mapError_eq_ok_iff {ε' : Type} {outcome : Except ε α} {change : ε → ε'} {value : α} :
    outcome.mapError change = .ok value ↔ outcome = .ok value := by
  cases outcome <;> simp [Except.mapError]

theorem mapError_eq_error_iff {ε' : Type} {outcome : Except ε α} {change : ε → ε'} {error : ε'} :
    outcome.mapError change = .error error ↔
      ∃ before, outcome = .error before ∧ error = change before := by
  cases outcome <;> simp [Except.mapError, eq_comm]

/-- The steps on a list all succeed exactly when each does, and then with these results. -/
theorem mapM_eq_ok_iff {items : List α} {step : α → Except ε β} {results : List β} :
    items.mapM step = .ok results ↔
      List.Forall₂ (fun item result => step item = .ok result) items results := by
  induction items generalizing results with
  | nil =>
      rw [List.mapM_nil, pure_eq_ok_iff, List.forall₂_nil_left_iff, eq_comm]
  | cons item rest ih =>
      rw [List.mapM_cons, bind_eq_ok_iff, List.forall₂_cons_left_iff]
      constructor
      · rintro ⟨result, resultOk, tail⟩
        obtain ⟨others, othersOk, same⟩ := bind_eq_ok_iff.1 tail
        exact ⟨result, others, resultOk, ih.1 othersOk, (pure_eq_ok_iff.1 same).symm⟩
      · rintro ⟨result, others, resultOk, othersOk, rfl⟩
        refine ⟨result, resultOk, ?_⟩
        rw [ih.2 othersOk]
        rfl

/-- Steps that agree item by item agree on the lists. -/
theorem mapM_eq_of_forall₂ {γ : Type} {items : List α} {others : List β} {step : α → Except ε γ}
    {step' : β → Except ε γ}
    (same : List.Forall₂ (fun item other => step item = step' other) items others) :
    items.mapM step = others.mapM step' := by
  induction same with
  | nil => rfl
  | cons head _ ih => rw [List.mapM_cons, List.mapM_cons, head, ih]

/-- If the steps on a list all succeed, then the step on each item does. -/
theorem exists_ok_of_mem {items : List α} {step : α → Except ε β} {results : List β}
    (all : items.mapM step = .ok results) {item : α} (member : item ∈ items) :
    ∃ result, step item = .ok result := by
  rw [mapM_eq_ok_iff] at all
  induction all with
  | nil => cases member
  | @cons _ result _ _ first _ ih =>
      rcases List.mem_cons.1 member with rfl | inRest
      · exact ⟨result, first⟩
      · exact ih inRest

namespace Outcome

/-! ## What a value has -/

/-- An outcome is a failure or a value with the given property. -/
def Ensures (property : α → Prop) (outcome : Except ε α) : Prop :=
  ∀ value, outcome = .ok value → property value

section Ensures

variable {property : α → Prop} {image : β → Prop}

theorem ensures_ok {value : α} (holds : property value) :
    Ensures property (.ok value : Except ε α) := by
  intro result equal
  cases equal
  exact holds

theorem ensures_error (error : ε) : Ensures property (.error error : Except ε α) := by
  intro result equal
  cases equal

theorem ensures_bind {first : Except ε α} {next : α → Except ε β}
    (onward : ∀ value, first = .ok value → Ensures image (next value)) :
    Ensures image (first >>= next) := by
  intro result equal
  obtain ⟨value, firstOk, nextOk⟩ := bind_eq_ok_iff.1 equal
  exact onward value firstOk result nextOk

theorem ensures_map {first : Except ε α} {change : α → β}
    (ensured : Ensures (fun value => image (change value)) first) :
    Ensures image (first.map change) := by
  cases first with
  | ok value => exact ensures_ok (ensured value rfl)
  | error error => exact ensures_error error

theorem ensures_mapError {ε' : Type} {first : Except ε α} (ensured : Ensures property first)
    (change : ε → ε') : Ensures property (first.mapError change) := by
  cases first with
  | ok value => exact ensures_ok (ensured value rfl)
  | error error => exact ensures_error _

theorem ensures_mapM {items : List α} {step : α → Except ε β}
    (each : ∀ item ∈ items, Ensures image (step item)) :
    Ensures (fun results => ∀ result ∈ results, image result) (items.mapM step) := by
  induction items with
  | nil => exact ensures_ok (by simp)
  | cons item rest ih =>
      rw [List.mapM_cons]
      refine ensures_bind fun result resultOk => ensures_bind fun results resultsOk => ?_
      refine ensures_ok ?_
      intro other member
      rcases List.mem_cons.1 member with rfl | inRest
      · exact each item List.mem_cons_self other resultOk
      · have rest := ih fun item member => each item (List.mem_cons_of_mem _ member)
        exact rest results resultsOk other inRest

end Ensures

/-! ## How two values are related -/

/-- The values of two outcomes are related, if both have one. -/
def Related (relation : α → β → Prop) (left : Except ε α) (right : Except ε β) : Prop :=
  ∀ value other, left = .ok value → right = .ok other → relation value other

section Related

variable {γ δ : Type} {relation : γ → δ → Prop}

theorem related_ok {value : γ} {other : δ} (related : relation value other) :
    Related relation (.ok value : Except ε γ) (.ok other) := by
  intro _ _ equal otherEqual
  cases equal
  cases otherEqual
  exact related

theorem related_error_left (error : ε) (right : Except ε δ) :
    Related relation (.error error) right := by
  intro _ _ equal
  cases equal

theorem related_self {relation : γ → γ → Prop} {outcome : Except ε γ}
    (related : Ensures (fun value => relation value value) outcome) :
    Related relation outcome outcome := by
  intro value other equal otherEqual
  obtain rfl : value = other := Except.ok.inj (equal.symm.trans otherEqual)
  exact related value equal

theorem related_bind {left : Except ε α} {right : Except ε β} {next : α → Except ε γ}
    {next' : β → Except ε δ}
    (onward : ∀ value other, left = .ok value → right = .ok other →
      Related relation (next value) (next' other)) :
    Related relation (left >>= next) (right >>= next') := by
  intro result result' equal equal'
  obtain ⟨value, leftOk, nextOk⟩ := bind_eq_ok_iff.1 equal
  obtain ⟨other, rightOk, nextOk'⟩ := bind_eq_ok_iff.1 equal'
  exact onward value other leftOk rightOk result result' nextOk nextOk'

/-- A step that both chains share has the same value in both. -/
theorem related_bind_self {first : Except ε α} {next : α → Except ε γ} {next' : α → Except ε δ}
    (onward : ∀ value, first = .ok value → Related relation (next value) (next' value)) :
    Related relation (first >>= next) (first >>= next') := by
  refine related_bind fun value other firstOk otherOk => ?_
  obtain rfl : value = other := Except.ok.inj (firstOk.symm.trans otherOk)
  exact onward value firstOk

theorem related_mapM {items : List α} {step : α → Except ε γ} {step' : α → Except ε δ}
    (each : ∀ item ∈ items, Related relation (step item) (step' item)) :
    Related (List.Forall₂ relation) (items.mapM step) (items.mapM step') := by
  induction items with
  | nil => exact related_ok .nil
  | cons item rest ih =>
      rw [List.mapM_cons, List.mapM_cons]
      refine related_bind fun value other valueOk otherOk => ?_
      refine related_bind fun values others valuesOk othersOk => related_ok (.cons ?_ ?_)
      · exact each item List.mem_cons_self value other valueOk otherOk
      · refine ih (fun item member => ?_) values others valuesOk othersOk
        exact each item (List.mem_cons_of_mem _ member)

end Related

/-! ## What a later outcome keeps -/

/-- An outcome is settled unless it is a provisional error. -/
def Settled (provisional : ε → Prop) : Except ε α → Prop
  | .ok _ => True
  | .error error => ¬ provisional error

/-- The later outcome is the earlier one, if that was settled. -/
def Refines (provisional : ε → Prop) (earlier later : Except ε α) : Prop :=
  Settled provisional earlier → later = earlier

section Refines

variable {provisional : ε → Prop}

theorem refines_refl (outcome : Except ε α) : Refines provisional outcome outcome :=
  fun _ => rfl

theorem refines_of_eq {earlier later : Except ε α} (same : later = earlier) :
    Refines provisional earlier later :=
  fun _ => same

/-- Where no error is provisional, the later outcome is the earlier one. -/
theorem eq_of_refines {earlier later : Except ε α}
    (refines : Refines (fun _ => False) earlier later) : later = earlier := by
  apply refines
  cases earlier with
  | ok value => trivial
  | error error => exact id

theorem refines_of_provisional {error : ε} (open' : provisional error) (later : Except ε α) :
    Refines provisional (.error error) later :=
  fun settled => absurd open' settled

/-- In a chain both steps may be refined. -/
theorem refines_bind {earlier later : Except ε α} {next next' : α → Except ε β}
    (first : Refines provisional earlier later)
    (onward : ∀ value, earlier = .ok value → Refines provisional (next value) (next' value)) :
    Refines provisional (earlier >>= next) (later >>= next') := by
  cases earlier with
  | ok value =>
      rw [first trivial]
      exact onward value rfl
  | error error =>
      intro settled
      rw [first settled]
      rfl

theorem refines_mapM {items : List α} {step step' : α → Except ε β}
    (each : ∀ item ∈ items, Refines provisional (step item) (step' item)) :
    Refines provisional (items.mapM step) (items.mapM step') := by
  induction items with
  | nil => exact refines_refl _
  | cons item rest ih =>
      rw [List.mapM_cons, List.mapM_cons]
      refine refines_bind (each item List.mem_cons_self) fun result _ => ?_
      refine refines_bind (ih fun other member => each other (List.mem_cons_of_mem _ member)) ?_
      intro results _
      exact refines_refl _

end Refines

/-! ## How two outcomes agree -/

/-- Two outcomes are both values and these are related, or both errors and these are related. -/
inductive Agrees (values : α → β → Prop) (errors : ε → ε → Prop) :
    Except ε α → Except ε β → Prop
  | ok {value : α} {other : β} : values value other → Agrees values errors (.ok value) (.ok other)
  | error {error other : ε} :
      errors error other → Agrees values errors (.error error) (.error other)

section Agrees

variable {γ δ : Type} {values : α → β → Prop} {images : γ → δ → Prop} {errors : ε → ε → Prop}

theorem agrees_self {values : α → α → Prop} {outcome : Except ε α}
    (value_self : ∀ value, outcome = .ok value → values value value)
    (error_self : ∀ error, outcome = .error error → errors error error) :
    Agrees values errors outcome outcome := by
  cases outcome with
  | ok value => exact .ok (value_self value rfl)
  | error error => exact .error (error_self error rfl)

theorem Agrees.eq {left right : Except ε α} (agrees : Agrees (· = ·) (· = ·) left right) :
    left = right := by
  cases agrees with
  | ok same => rw [same]
  | error same => rw [same]

theorem Agrees.imp {values' : α → β → Prop} {left : Except ε α} {right : Except ε β}
    (agrees : Agrees values errors left right)
    (weaker : ∀ value other, left = .ok value → values value other → values' value other) :
    Agrees values' errors left right := by
  cases agrees with
  | ok related => exact .ok (weaker _ _ rfl related)
  | error related => exact .error related

/-- The values that two agreeing outcomes have are those that are related. -/
theorem Agrees.with_ok {left : Except ε α} {right : Except ε β}
    (agrees : Agrees values errors left right) :
    Agrees (fun value other => values value other ∧ left = .ok value ∧ right = .ok other) errors
      left right := by
  cases agrees with
  | ok related => exact .ok ⟨related, rfl, rfl⟩
  | error related => exact .error related

theorem agrees_bind {left : Except ε α} {right : Except ε β} {next : α → Except ε γ}
    {next' : β → Except ε δ} (first : Agrees values errors left right)
    (onward : ∀ value other, values value other → Agrees images errors (next value) (next' other)) :
    Agrees images errors (left >>= next) (right >>= next') := by
  cases first with
  | ok related => exact onward _ _ related
  | error related => exact .error related

/-- A step that both chains share fails in both or has the same value in both. -/
theorem agrees_bind_self {first : Except ε α} {next : α → Except ε γ} {next' : α → Except ε δ}
    (error_self : ∀ error, first = .error error → errors error error)
    (onward : ∀ value, first = .ok value → Agrees images errors (next value) (next' value)) :
    Agrees images errors (first >>= next) (first >>= next') := by
  cases first with
  | ok value => exact onward value rfl
  | error error => exact .error (error_self error rfl)

theorem agrees_map {left : Except ε α} {right : Except ε β} {change : α → γ} {change' : β → δ}
    (agrees : Agrees values errors left right)
    (onward : ∀ value other, values value other → images (change value) (change' other)) :
    Agrees images errors (change <$> left) (change' <$> right) := by
  cases agrees with
  | ok related => exact .ok (onward _ _ related)
  | error related => exact .error related

/-- The same steps on two lists whose items correspond agree, up to the first failure. -/
theorem agrees_mapM {relation : α → β → Prop} {items : List α} {others : List β}
    {step : α → Except ε γ} {step' : β → Except ε δ} (related : List.Forall₂ relation items others)
    (each : ∀ item ∈ items, ∀ other ∈ others, relation item other →
      Agrees images errors (step item) (step' other)) :
    Agrees (List.Forall₂ images) errors (items.mapM step) (others.mapM step') := by
  induction related with
  | nil => exact .ok .nil
  | @cons item other rest rest' head tail ih =>
      rw [List.mapM_cons, List.mapM_cons]
      have first := each item List.mem_cons_self other List.mem_cons_self head
      refine agrees_bind first fun result result' heads => ?_
      refine agrees_bind (ih ?_) fun results results' tails => .ok (.cons heads tails)
      intro item' member other' otherMember
      exact each item' (List.mem_cons_of_mem _ member) other' (List.mem_cons_of_mem _ otherMember)

end Agrees

/-! ## Where an outcome fails -/

/-- The error of an outcome, if it is one. -/
def error? : Except ε α → Option ε
  | .ok _ => none
  | .error error => some error

@[simp] theorem error?_eq_some_iff {outcome : Except ε α} {error : ε} :
    error? outcome = some error ↔ outcome = .error error := by
  cases outcome <;> simp [error?]

@[simp] theorem error?_ok (value : α) : error? (.ok value : Except ε α) = none := rfl

theorem error?_map (first : Except ε α) (image : α → β) :
    error? (first.map image) = error? first := by
  cases first <;> rfl

/-- A chain fails in its first part, or else in the rest. -/
theorem error?_bind {first : Except ε α} {next : α → Except ε β} {rest : Option ε}
    (onward : ∀ value, first = .ok value → error? (next value) = rest) :
    error? (first >>= next) = (error? first).or rest := by
  cases first with
  | ok value => exact onward value rfl
  | error error => rfl

/-- A list of computations fails where the first of them fails. -/
theorem error?_mapM (items : List α) (step : α → Except ε β) :
    error? (items.mapM step) = items.findSome? fun item => error? (step item) := by
  induction items with
  | nil => rfl
  | cons item rest ih =>
      rw [List.mapM_cons, List.findSome?_cons, ← ih]
      cases step item with
      | error error => rfl
      | ok value => cases rest.mapM step <;> rfl

theorem error?_eq_none_iff {outcome : Except ε α} :
    error? outcome = none ↔ ∃ value, outcome = .ok value := by
  cases outcome <;> simp [error?]

/-- The steps on a list fail with the error of the first item whose step fails. -/
theorem mapM_eq_error_iff {items : List α} {step : α → Except ε β} {error : ε} :
    items.mapM step = .error error ↔
      ∃ before item after, items = before ++ item :: after ∧
        (∀ earlier ∈ before, ∃ result, step earlier = .ok result) ∧ step item = .error error := by
  rw [← error?_eq_some_iff, error?_mapM, List.findSome?_eq_some_iff]
  simp only [error?_eq_some_iff, error?_eq_none_iff, and_comm]

/-- The steps on a list all succeed exactly when each does. -/
theorem exists_mapM_eq_ok_iff {items : List α} {step : α → Except ε β} :
    (∃ results, items.mapM step = .ok results) ↔
      ∀ item ∈ items, ∃ result, step item = .ok result := by
  rw [← error?_eq_none_iff, error?_mapM, List.findSome?_eq_none_iff]
  simp only [error?_eq_none_iff]

/-- If one of the steps fails, so does the outcome, with the error of the first that does. -/
def FailsFirst {σ : Type} (failure? : σ → Option ε) (steps : List σ) (outcome : Except ε α) :
    Prop :=
  ∀ error, steps.findSome? failure? = some error → outcome = .error error

section FailsFirst

variable {σ : Type} {failure? : σ → Option ε} {first : Except ε α} {next : α → Except ε β}

theorem failsFirst_nil (outcome : Except ε α) : FailsFirst failure? [] outcome := by
  intro error impossible
  cases impossible

/-- A chain fails first in the step of its first part, which fails only there. -/
theorem failsFirst_cons {step : σ} {rest : List σ} (exact : failure? step = error? first)
    (onward : ∀ value, first = .ok value → FailsFirst failure? rest (next value)) :
    FailsFirst failure? (step :: rest) (first >>= next) := by
  intro error failed
  rw [List.findSome?_cons, exact] at failed
  cases first with
  | ok value => exact onward value rfl error failed
  | error earlier =>
      cases failed
      rfl

/-- Steps that fail exactly where an outcome does. -/
theorem failsFirst_of_eq {steps : List σ} (exact : steps.findSome? failure? = error? first) :
    FailsFirst failure? steps first := by
  intro error failed
  exact error?_eq_some_iff.1 (exact.symm.trans failed)

/-- A chain whose later parts add no steps fails first in the steps of its first part. -/
theorem failsFirst_bind {steps : List σ} (exact : steps.findSome? failure? = error? first) :
    FailsFirst failure? steps (first >>= next) := by
  intro error failed
  rw [failsFirst_of_eq exact error failed]
  rfl

/-- A step that does not fail adds nothing. -/
theorem failsFirst_passed {step : σ} {rest : List σ} (passed : failure? step = none)
    (later : FailsFirst failure? rest first) : FailsFirst failure? (step :: rest) first := by
  intro error failed
  rw [List.findSome?_cons, passed] at failed
  exact later error failed

theorem failsFirst_failed {step : σ} {rest : List σ} {error : ε}
    (failed : failure? step = some error) :
    FailsFirst failure? (step :: rest) (.error error : Except ε α) := by
  intro found first
  rw [List.findSome?_cons, failed] at first
  cases first
  rfl

end FailsFirst

/-! ## How an outcome may fail -/

section FailsOnly

variable {allowed : ε → Prop}

/-- An outcome is a value or an error of an allowed kind. -/
def FailsOnly (allowed : ε → Prop) (outcome : Except ε α) : Prop :=
  ∀ error, outcome = .error error → allowed error

theorem failsOnly_ok (value : α) : FailsOnly allowed (.ok value : Except ε α) := by
  intro error impossible
  cases impossible

theorem failsOnly_error {error : ε} (holds : allowed error) :
    FailsOnly allowed (.error error : Except ε α) := by
  rintro _ ⟨⟩
  exact holds

theorem failsOnly_bind {first : Except ε α} {next : α → Except ε β}
    (head : FailsOnly allowed first)
    (onward : ∀ value, first = .ok value → FailsOnly allowed (next value)) :
    FailsOnly allowed (first >>= next) := by
  intro error failed
  rcases bind_eq_error_iff.1 failed with here | ⟨value, ended, later⟩
  · exact head error here
  · exact onward value ended error later

theorem failsOnly_mapM {items : List α} {step : α → Except ε β}
    (each : ∀ item ∈ items, FailsOnly allowed (step item)) :
    FailsOnly allowed (items.mapM step) := by
  intro error failed
  obtain ⟨before, item, after, rfl, -, here⟩ := mapM_eq_error_iff.1 failed
  exact each item (List.mem_append_right _ List.mem_cons_self) error here

theorem failsOnly_mapError {ε' : Type} {change : ε' → ε} (each : ∀ error, allowed (change error))
    (outcome : Except ε' α) : FailsOnly allowed (outcome.mapError change) := by
  cases outcome with
  | ok value => exact failsOnly_ok value
  | error error => exact failsOnly_error (each error)

end FailsOnly

end Outcome

end SyntaxFold
