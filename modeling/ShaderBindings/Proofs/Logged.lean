import ShaderBindings.Event

/-
  The laws of logged computations. A computation in several
  steps ends with a value exactly when all its steps do, and
  its log is the log of its steps, one after the other.

  Key theorems include:
    * `except_bind_eq_ok_iff`
    * `map_of_mapM_eq_ok`
    * `exists_mapM_eq_ok`
    * `mapM_eq_error_of_find?`
    * `exists_result_of_mapM_eq_ok`
    * `exists_input_of_mapM_eq_ok`
    * `except_bind_eq_error_iff`
    * `exists_input_of_mapM_eq_error`
    * `Logged.result_bind_eq_ok_iff`
    * `Logged.events_bind`
    * `Logged.events_bind_of_error`
    * `Logged.events_bind_of_silent`
    * `Logged.andThen_assoc`
-/

------------------------------------------------------------
-- Steps That May Fail
------------------------------------------------------------

namespace ShaderBindings

variable {α β γ ε : Type}

/- Two steps succeed when both of them do. -/
theorem except_bind_eq_ok_iff
    {first : Except ε α}
    {next : α → Except ε β}
    {last : β} :
    first >>= next = .ok last ↔
      ∃ value, first = .ok value ∧ next value = .ok last := by
  cases first with
  | ok value => simp [bind, Except.bind]
  | error error => simp [bind, Except.bind]

/- Two steps fail when one of them does. -/
theorem except_bind_eq_error_iff
    {first : Except ε α}
    {next : α → Except ε β}
    {error : ε} :
    first >>= next = .error error ↔
      first = .error error ∨
        ∃ value, first = .ok value ∧
          next value = .error error := by
  cases first with
  | ok value => simp [bind, Except.bind]
  | error error => simp [bind, Except.bind]

/-
  What is observed of the results of a step is known in
  advance, when it is known for each single step.
-/
theorem map_of_mapM_eq_ok
    {step : α → Except ε β}
    (observe : β → γ)
    (expected : α → γ)
    {inputs : List α}
    {results : List β}
    (hStep :
      ∀ input ∈ inputs, ∀ result,
        step input = .ok result →
          observe result = expected input)
    (hAll : inputs.mapM step = .ok results) :
    results.map observe = inputs.map expected := by
  induction inputs generalizing results with
  | nil =>
      cases hAll
      rfl
  | cons input rest ih =>
      rw [List.mapM_cons] at hAll
      rcases except_bind_eq_ok_iff.mp hAll with
        ⟨result, hFirst, hRest⟩
      rcases except_bind_eq_ok_iff.mp hRest with
        ⟨others, hOthers, hResults⟩
      cases hResults
      have hTail := ih
        (fun other hOther =>
          hStep other (List.mem_cons_of_mem _ hOther))
        hOthers
      rw [List.map_cons, List.map_cons, hTail,
        hStep input List.mem_cons_self result hFirst]

/- A step that succeeds for every input does so for all. -/
theorem exists_mapM_eq_ok
    {step : α → Except ε β}
    {inputs : List α}
    (hStep :
      ∀ input ∈ inputs, ∃ result, step input = .ok result) :
    ∃ results, inputs.mapM step = .ok results := by
  induction inputs with
  | nil => exact ⟨[], rfl⟩
  | cons input rest ih =>
      rcases hStep input List.mem_cons_self with
        ⟨result, hFirst⟩
      rcases ih fun other hOther =>
          hStep other (List.mem_cons_of_mem input hOther) with
        ⟨others, hOthers⟩
      refine ⟨result :: others, ?_⟩
      rw [List.mapM_cons, hFirst, hOthers]
      rfl

/- The first input that is not accepted decides the error. -/
theorem mapM_eq_error_of_find?
    {step : α → Except ε β}
    {accepts : α → Bool}
    (fault : α → ε)
    {inputs : List α}
    {first : α}
    (hAccepted :
      ∀ input ∈ inputs,
        accepts input = true →
          ∃ result, step input = .ok result)
    (hRejected :
      ∀ input ∈ inputs,
        accepts input = false →
          step input = .error (fault input))
    (hFirst :
      inputs.find? (fun input => !accepts input) =
        some first) :
    inputs.mapM step = .error (fault first) := by
  induction inputs with
  | nil => cases hFirst
  | cons input rest ih =>
      rw [List.mapM_cons]
      cases hInput : accepts input with
      | false =>
          rw [List.find?_cons_of_pos (by simp [hInput])]
            at hFirst
          rw [hRejected input List.mem_cons_self hInput,
            Option.some.inj hFirst]
          rfl
      | true =>
          rw [List.find?_cons_of_neg (by simp [hInput])]
            at hFirst
          rcases hAccepted input List.mem_cons_self hInput with
            ⟨result, hResult⟩
          have hRest := ih
            (fun other hOther =>
              hAccepted other (List.mem_cons_of_mem _ hOther))
            (fun other hOther =>
              hRejected other (List.mem_cons_of_mem _ hOther))
            hFirst
          rw [hResult, hRest]
          rfl

/- Every input of a step leads to one of the results. -/
theorem exists_result_of_mapM_eq_ok
    {step : α → Except ε β}
    {inputs : List α}
    {results : List β}
    (hAll : inputs.mapM step = .ok results)
    {input : α}
    (hInput : input ∈ inputs) :
    ∃ result ∈ results, step input = .ok result := by
  induction inputs generalizing results with
  | nil => cases hInput
  | cons head rest ih =>
      rw [List.mapM_cons] at hAll
      rcases except_bind_eq_ok_iff.mp hAll with
        ⟨first, hFirst, hRest⟩
      rcases except_bind_eq_ok_iff.mp hRest with
        ⟨others, hOthers, hResults⟩
      cases hResults
      rcases List.mem_cons.mp hInput with rfl | hTail
      · exact ⟨first, List.mem_cons_self, hFirst⟩
      · rcases ih hOthers hTail with
          ⟨result, hResult, hStep⟩
        exact
          ⟨result, List.mem_cons_of_mem first hResult, hStep⟩

/- Every result comes from one of the inputs of a step. -/
theorem exists_input_of_mapM_eq_ok
    {step : α → Except ε β}
    {inputs : List α}
    {results : List β}
    (hAll : inputs.mapM step = .ok results)
    {result : β}
    (hResult : result ∈ results) :
    ∃ input ∈ inputs, step input = .ok result := by
  induction inputs generalizing results with
  | nil =>
      cases hAll
      cases hResult
  | cons head rest ih =>
      rw [List.mapM_cons] at hAll
      rcases except_bind_eq_ok_iff.mp hAll with
        ⟨first, hFirst, hRest⟩
      rcases except_bind_eq_ok_iff.mp hRest with
        ⟨others, hOthers, hResults⟩
      cases hResults
      rcases List.mem_cons.mp hResult with rfl | hTail
      · exact ⟨head, List.mem_cons_self, hFirst⟩
      · rcases ih hOthers hTail with ⟨input, hInput, hStep⟩
        exact
          ⟨input, List.mem_cons_of_mem head hInput, hStep⟩

/- A step fails for all inputs when it does for one of them. -/
theorem exists_input_of_mapM_eq_error
    {step : α → Except ε β}
    {inputs : List α}
    {error : ε}
    (hAll : inputs.mapM step = .error error) :
    ∃ input ∈ inputs, step input = .error error := by
  induction inputs with
  | nil => cases hAll
  | cons input rest ih =>
      rw [List.mapM_cons] at hAll
      rcases except_bind_eq_error_iff.mp hAll with
        hFirst | ⟨result, _, hRest⟩
      · exact ⟨input, List.mem_cons_self, hFirst⟩
      · rcases except_bind_eq_error_iff.mp hRest with
          hOthers | ⟨others, _, hResults⟩
        · rcases ih hOthers with ⟨other, hOther, hStep⟩
          exact
            ⟨other, List.mem_cons_of_mem input hOther, hStep⟩
        · cases hResults

end ShaderBindings

------------------------------------------------------------
-- Single Steps
------------------------------------------------------------

namespace ShaderBindings

namespace Logged

variable {ε α β γ : Type}

@[simp] theorem pure_eq_done
    (value : α) :
    (pure value : Logged ε α) = done value :=
  rfl

@[simp] theorem events_done
    (value : α) :
    (done value : Logged ε α).events = [] :=
  rfl

@[simp] theorem result_done
    (value : α) :
    (done value : Logged ε α).result = .ok value :=
  rfl

@[simp] theorem events_fail
    (error : ε) :
    (fail error : Logged ε α).events = [] :=
  rfl

@[simp] theorem result_fail
    (error : ε) :
    (fail error : Logged ε α).result = .error error :=
  rfl

@[simp] theorem events_noteAll
    (events : List Event) :
    (noteAll events : Logged ε Unit).events = events :=
  rfl

@[simp] theorem result_noteAll
    (events : List Event) :
    (noteAll events : Logged ε Unit).result = .ok () :=
  rfl

@[simp] theorem events_ofExcept
    (result : Except ε α) :
    (ofExcept result).events = [] :=
  rfl

@[simp] theorem result_ofExcept
    (result : Except ε α) :
    (ofExcept result).result = result :=
  rfl

@[simp] theorem ofExcept_ok
    (value : α) :
    ofExcept (.ok value : Except ε α) = done value :=
  rfl

@[simp] theorem ofExcept_error
    (error : ε) :
    ofExcept (.error error : Except ε α) = fail error :=
  rfl

@[simp] theorem noteAll_nil :
    (noteAll [] : Logged ε Unit) = done () :=
  rfl

end Logged

end ShaderBindings

------------------------------------------------------------
-- Steps in Sequence
------------------------------------------------------------

namespace ShaderBindings

namespace Logged

variable {ε α β γ : Type}

@[simp] theorem done_bind
    (value : α)
    (next : α → Logged ε β) :
    done value >>= next = next value :=
  rfl

@[simp] theorem fail_bind
    (error : ε)
    (next : α → Logged ε β) :
    fail error >>= next = fail error :=
  rfl

/- Only a value is carried on to the next step. -/
theorem result_bind
    (first : Logged ε α)
    (next : α → Logged ε β) :
    (first >>= next).result =
      first.result.bind fun value => (next value).result := by
  change (first.andThen next).result = _
  unfold andThen
  cases first.result with
  | ok value => rfl
  | error error => rfl

/- The log of the next step comes after the log so far. -/
theorem events_bind
    {first : Logged ε α}
    {next : α → Logged ε β}
    {value : α}
    (hFirst : first.result = .ok value) :
    (first >>= next).events =
      first.events ++ (next value).events := by
  change (first.andThen next).events = _
  unfold andThen
  rw [hFirst]

/- Nothing is logged behind an error. -/
theorem events_bind_of_error
    {first : Logged ε α}
    {next : α → Logged ε β}
    {error : ε}
    (hFirst : first.result = .error error) :
    (first >>= next).events = first.events := by
  change (first.andThen next).events = _
  unfold andThen
  rw [hFirst]

/- A next step that logs nothing leaves the log as it is. -/
theorem events_bind_of_silent
    {first : Logged ε α}
    {next : α → Logged ε β}
    (hNext : ∀ value, (next value).events = []) :
    (first >>= next).events = first.events := by
  cases hFirst : first.result with
  | error error => exact events_bind_of_error hFirst
  | ok value =>
      rw [events_bind hFirst, hNext, List.append_nil]

/- Two steps end with a value when both of them do. -/
theorem result_bind_eq_ok_iff
    {first : Logged ε α}
    {next : α → Logged ε β}
    {last : β} :
    (first >>= next).result = .ok last ↔
      ∃ value, first.result = .ok value ∧
        (next value).result = .ok last := by
  rw [result_bind]
  cases first.result with
  | ok value => simp [Except.bind]
  | error error => simp [Except.bind]

/- A computation is not changed by ending with its value. -/
theorem andThen_done
    (computation : Logged ε α) :
    computation.andThen done = computation := by
  rcases computation with ⟨events, result⟩
  cases result with
  | ok value => simp [andThen]
  | error error => simp [andThen]

/- Three steps can be grouped either way. -/
theorem andThen_assoc
    (first : Logged ε α)
    (second : α → Logged ε β)
    (third : β → Logged ε γ) :
    (first.andThen second).andThen third =
      first.andThen fun value =>
        (second value).andThen third := by
  unfold andThen
  cases first.result with
  | error error => rfl
  | ok value =>
      cases hSecond : (second value).result with
      | error error => simp [hSecond]
      | ok value => simp [hSecond, List.append_assoc]

instance : LawfulMonad (Logged ε) :=
  LawfulMonad.mk' (Logged ε)
    (fun computation => computation.andThen_done)
    (fun _ _ => rfl)
    andThen_assoc

/- Two logs one after the other are one log. -/
theorem noteAll_append
    (first second : List Event) :
    (noteAll (first ++ second) : Logged ε Unit) =
      noteAll first >>= fun _ => noteAll second :=
  rfl

end Logged

end ShaderBindings
