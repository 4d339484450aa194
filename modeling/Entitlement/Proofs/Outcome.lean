import Entitlement.Traced
import Mathlib.Data.List.Basic
import Mathlib.Data.List.Forall2

/-!
# Results and reports of computations

A computation of this library has a result and a trace, and the two are proved apart.  The result
of a sequence of steps is read off the results of the steps (`Outcome.result_bind_eq_ok`), so
that a proof about a result never meets the trace.  What a sequence reports is what its first
step reports and then what the rest does, as far as it gets (`Outcome.events_bind`); warnings are
a filter of that.

Two computations over different records are compared step by step.  They correspond when both
fail for the same reason or both succeed, with values that are related; the other one may also
fail for a reason that is excused.  Where each step corresponds, whatever related values it goes
on with, the runs do (`Related.bind`).
-/

namespace Entitlement

/-! ## Results -/

namespace Outcome

variable {α β : Type}

@[simp] theorem result_pure (value : α) : (pure value : Outcome α).result = .ok value := rfl

@[simp] theorem result_fail (error : Error) : (fail error : Outcome α).result = .error error := rfl

/-- A traced step cannot fail. -/
@[simp] theorem result_liftM (step : Traced α) :
    (liftM step : Outcome α).result = .ok step.value := rfl

/-- A sequence ends with the failure of its first step, or else as the rest does. -/
theorem result_bind (first : Outcome α) (next : α → Outcome β) :
    (first >>= next).result =
      match first.result with
      | .ok value => (next value).result
      | .error error => .error error := by
  show (ExceptT.bindCont next first.run.value).value = _
  unfold result
  cases first.run.value <;> rfl

/-- The result of a sequence is the sequence of the results. -/
theorem result_bind_eq_bind (first : Outcome α) (next : α → Outcome β) :
    (first >>= next).result = first.result >>= fun value => (next value).result := by
  rw [result_bind]
  cases first.result <;> rfl

theorem result_bind_eq_ok {first : Outcome α} {next : α → Outcome β} {value : β} :
    (first >>= next).result = .ok value ↔
      ∃ middle, first.result = .ok middle ∧ (next middle).result = .ok value := by
  rw [result_bind]
  cases first.result with
  | ok middle => simp
  | error error => simp

/-- After a traced step the result is that of the rest. -/
@[simp] theorem result_liftM_bind (step : Traced α) (next : α → Outcome β) :
    (liftM step >>= next : Outcome β).result = (next step.value).result := by
  rw [result_bind, result_liftM]

end Outcome

/-! ## Steps that may fail

A sequence of steps succeeds with what its steps deliver one after the other, and elements that
are read one by one are read exactly when each of them is. -/

section Steps

variable {α β : Type}

theorem bind_eq_ok {first : Except Error α} {next : α → Except Error β} {value : β} :
    first >>= next = .ok value ↔ ∃ middle, first = .ok middle ∧ next middle = .ok value := by
  cases first with
  | ok middle => exact ⟨fun hnext => ⟨middle, rfl, hnext⟩, fun ⟨_, rfl, hnext⟩ => hnext⟩
  | error error => exact ⟨nofun, fun ⟨_, hfirst, _⟩ => nomatch hfirst⟩

theorem bind_of_ok {first : Except Error α} {next : α → Except Error β} {value : α}
    (hfirst : first = .ok value) : first >>= next = next value := by
  rw [hfirst]
  rfl

theorem mapM_cons_eq_ok {read : β → Except Error α} {first : β} {rest : List β}
    {values : List α} :
    (first :: rest).mapM read = .ok values ↔
      ∃ value later, read first = .ok value ∧ rest.mapM read = .ok later ∧
        values = value :: later := by
  rw [List.mapM_cons, bind_eq_ok]
  constructor
  · rintro ⟨value, hvalue, hrest⟩
    obtain ⟨later, hlater, hvalues⟩ := bind_eq_ok.mp hrest
    exact ⟨value, later, hvalue, hlater, (Except.ok.inj hvalues).symm⟩
  · rintro ⟨value, later, hvalue, hlater, rfl⟩
    exact ⟨value, hvalue, bind_eq_ok.mpr ⟨later, hlater, rfl⟩⟩

theorem exists_mapM_eq_ok {read : β → Except Error α} {elements : List β}
    (hread : ∀ element ∈ elements, ∃ value, read element = .ok value) :
    ∃ values, elements.mapM read = .ok values := by
  induction elements with
  | nil => exact ⟨[], rfl⟩
  | cons first rest ih =>
      obtain ⟨⟨value, hvalue⟩, hrest⟩ := List.forall_mem_cons.mp hread
      obtain ⟨later, hlater⟩ := ih hrest
      exact ⟨value :: later, mapM_cons_eq_ok.mpr ⟨value, later, hvalue, hlater, rfl⟩⟩

/-- What is read is what single elements give. -/
theorem mem_of_mapM {read : β → Except Error α} {elements : List β} {values : List α}
    (hvalues : elements.mapM read = .ok values) (value : α) :
    value ∈ values ↔ ∃ element ∈ elements, read element = .ok value := by
  induction elements generalizing values with
  | nil =>
      obtain rfl : [] = values := Except.ok.inj hvalues
      simp
  | cons first rest ih =>
      obtain ⟨head, later, hhead, hlater, rfl⟩ := mapM_cons_eq_ok.mp hvalues
      rw [List.mem_cons, ih hlater, List.exists_mem_cons_iff, hhead, Except.ok.injEq, eq_comm]

theorem exists_eq_ok_of_mapM {read : β → Except Error α} {elements : List β} {values : List α}
    (hvalues : elements.mapM read = .ok values) {element : β} (helement : element ∈ elements) :
    ∃ value, read element = .ok value := by
  induction elements generalizing values with
  | nil => contradiction
  | cons first rest ih =>
      obtain ⟨value, later, hvalue, hlater, rfl⟩ := mapM_cons_eq_ok.mp hvalues
      rcases List.mem_cons.mp helement with rfl | hrest
      · exact ⟨value, hvalue⟩
      · exact ih hlater hrest

/-- A reading that fails does so at one of the elements. -/
theorem exists_mem_of_mapM_eq_error {read : β → Except Error α} {elements : List β} {error : Error}
    (herror : elements.mapM read = .error error) :
    ∃ element ∈ elements, read element = .error error := by
  induction elements with
  | nil => contradiction
  | cons first rest ih =>
      rw [List.mapM_cons] at herror
      cases hfirst : read first with
      | error reason =>
          rw [hfirst] at herror
          obtain rfl : reason = error := Except.error.inj herror
          exact ⟨first, List.mem_cons_self .., hfirst⟩
      | ok value =>
          cases hrest : rest.mapM read with
          | error reason =>
              rw [hfirst, hrest] at herror
              obtain rfl : reason = error := Except.error.inj herror
              obtain ⟨element, helement, hfails⟩ := ih hrest
              exact ⟨element, List.mem_cons_of_mem _ helement, hfails⟩
          | ok values =>
              rw [hfirst, hrest] at herror
              contradiction

end Steps

/-! ## What computations report

The events of a computation are read off its steps: a sequence reports what its first step
reports and then what the rest does, as far as it gets (`Outcome.events_bind`).  The warnings
are the events among them that are warnings, in the order in which they are reported, and are
read off in the same way. -/

section Warnings

variable {α β : Type}

namespace Traced

@[simp] theorem events_pure (value : α) : (pure value : Traced α).events = [] := rfl

@[simp] theorem events_report (event : Event) : (report event).events = [event] := rfl

@[simp] theorem events_bind (first : Traced α) (next : α → Traced β) :
    (first >>= next).events = first.events ++ (next first.value).events := by
  simp only [events, trace_bind, List.filterMap_append]

/-- The warnings among the events. -/
def warnings {α : Type} (traced : Traced α) : List Event :=
  traced.events.filter fun event => event.severity = .warning

@[simp] theorem warnings_pure (value : α) : (pure value : Traced α).warnings = [] := rfl

@[simp] theorem warnings_bind (first : Traced α) (next : α → Traced β) :
    (first >>= next).warnings = first.warnings ++ (next first.value).warnings := by
  simp only [warnings, events_bind, List.filter_append]

/-- An event that is no warning leaves the warnings as they are. -/
theorem warnings_report_of_debug {event : Event} (hdebug : event.severity = .debug) :
    (report event).warnings = [] := by
  simp [warnings, hdebug]

end Traced

namespace Outcome

/-- The events on the way to the result. -/
def events {α : Type} (outcome : Outcome α) : List Event := outcome.run.events

/-- The warnings on the way to the result. -/
def warnings {α : Type} (outcome : Outcome α) : List Event := outcome.run.warnings

@[simp] theorem events_pure (value : α) : (pure value : Outcome α).events = [] := rfl

@[simp] theorem events_fail (error : Error) : (fail error : Outcome α).events = [] := rfl

@[simp] theorem events_liftM (step : Traced α) :
    (liftM step : Outcome α).events = step.events := by
  show (step >>= fun value => pure (Except.ok value) : Traced (Except Error α)).events = _
  rw [Traced.events_bind, Traced.events_pure, List.append_nil]

/-- A sequence reports what its first step reports, and then goes on unless that failed. -/
theorem events_bind (first : Outcome α) (next : α → Outcome β) :
    (first >>= next).events =
      match first.result with
      | .ok value => first.events ++ (next value).events
      | .error _ => first.events := by
  show (first.run >>= ExceptT.bindCont next).events = _
  rw [Traced.events_bind]
  unfold result
  cases first.run.value with
  | ok value => rfl
  | error error => exact List.append_nil _

/-- After a traced step come the events of the rest. -/
@[simp] theorem events_liftM_bind (step : Traced α) (next : α → Outcome β) :
    (liftM step >>= next : Outcome β).events = step.events ++ (next step.value).events := by
  rw [events_bind, result_liftM, events_liftM]

theorem warnings_eq_filter (outcome : Outcome α) :
    outcome.warnings = outcome.events.filter fun event => event.severity = .warning := rfl

@[simp] theorem warnings_pure (value : α) : (pure value : Outcome α).warnings = [] := rfl

@[simp] theorem warnings_fail (error : Error) : (fail error : Outcome α).warnings = [] := rfl

@[simp] theorem warnings_liftM (step : Traced α) :
    (liftM step : Outcome α).warnings = step.warnings := by
  rw [warnings_eq_filter, events_liftM]
  rfl

/-- A sequence warns of what its first step warns of, and then goes on unless that failed. -/
theorem warnings_bind (first : Outcome α) (next : α → Outcome β) :
    (first >>= next).warnings =
      match first.result with
      | .ok value => first.warnings ++ (next value).warnings
      | .error _ => first.warnings := by
  rw [warnings_eq_filter, events_bind]
  cases first.result with
  | ok value => exact List.filter_append _ _
  | error error => rfl

theorem warnings_bind_of_ok {first : Outcome α} {next : α → Outcome β} {value : α}
    (hfirst : first.result = .ok value) :
    (first >>= next).warnings = first.warnings ++ (next value).warnings := by
  rw [warnings_bind, hfirst]

end Outcome

end Warnings

/-! ## Results that correspond

Two computations correspond when both fail for the same reason or both succeed, with values
that are related.  The other one may also fail for a reason that is excused.  So two runs over
different records can be compared step by step: where each step corresponds, whatever related
values it goes on with, the runs do (`Related.bind`). -/

variable {α β γ δ ε : Type} {excused : Error → Prop} {related : α → β → Prop}

/-- Both results are the same failure, or both are successes with related values, or the other
one is a failure that is excused. -/
inductive Related (excused : Error → Prop) (related : α → β → Prop) :
    Except Error α → Except Error β → Prop where
  | ok {first : α} {other : β} (hvalues : related first other) :
      Related excused related (.ok first) (.ok other)
  | error (error : Error) : Related excused related (.error error) (.error error)
  | excused {first : Except Error α} {error : Error} (hexcused : excused error) :
      Related excused related first (.error error)

namespace Related

theorem refl {related : α → α → Prop} (hrefl : ∀ value, related value value)
    (result : Except Error α) : Related excused related result result := by
  cases result with
  | ok value => exact .ok (hrefl value)
  | error error => exact .error error

/-- Where related values are equal, so are the results, unless the failure of the other one is
excused. -/
theorem eq_or_excused {first other : Except Error α} (hsame : Related excused Eq first other) :
    other = first ∨ ∃ error, excused error ∧ other = .error error := by
  cases hsame with
  | ok hvalues => exact Or.inl (by rw [hvalues])
  | error error => exact Or.inl rfl
  | excused hexcused => exact Or.inr ⟨_, hexcused, rfl⟩

/-- Sequences correspond where their first steps do and the rests do for all related values
that these deliver. -/
theorem bind {further : γ → δ → Prop} {first : Except Error α} {other : Except Error β}
    {next : α → Except Error γ} {following : β → Except Error δ}
    (hfirst : Related excused related first other)
    (hnext : ∀ value held, first = .ok value → other = .ok held → related value held →
      Related excused further (next value) (following held)) :
    Related excused further (first >>= next) (other >>= following) := by
  cases hfirst with
  | ok hvalues => exact hnext _ _ rfl rfl hvalues
  | error error => exact .error error
  | excused hexcused => exact .excused hexcused

/-- The same step before two computations that correspond. -/
theorem bind_same {further : γ → δ → Prop} (first : Except Error α)
    {next : α → Except Error γ} {following : α → Except Error δ}
    (hnext : ∀ value, Related excused further (next value) (following value)) :
    Related excused further (first >>= next) (first >>= following) := by
  cases first with
  | ok value => exact hnext value
  | error error => exact .error error

theorem map {further : γ → δ → Prop} {first : Except Error α} {other : Except Error β}
    {f : α → γ} {g : β → δ} (hfirst : Related excused related first other)
    (hvalues : ∀ value held, related value held → further (f value) (g held)) :
    Related excused further (first.map f) (other.map g) := by
  cases hfirst with
  | ok hfirst => exact .ok (hvalues _ _ hfirst)
  | error error => exact .error error
  | excused hexcused => exact .excused hexcused

/-- Elements that are read to corresponding results one by one are so all together. -/
theorem mapM {elements : List ε} {read : ε → Except Error α} {readOther : ε → Except Error β}
    (hread : ∀ element ∈ elements, Related excused related (read element) (readOther element)) :
    Related excused (List.Forall₂ related) (elements.mapM read) (elements.mapM readOther) := by
  induction elements with
  | nil => exact .ok .nil
  | cons first rest ih =>
      obtain ⟨hfirst, hrest⟩ := List.forall_mem_cons.mp hread
      rw [List.mapM_cons, List.mapM_cons]
      refine hfirst.bind fun value held _ _ hvalue => ?_
      refine (ih hrest).bind fun values others _ _ hvalues => ?_
      exact .ok (.cons hvalue hvalues)

end Related

end Entitlement
