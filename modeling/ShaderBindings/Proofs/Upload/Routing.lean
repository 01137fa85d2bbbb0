import ShaderBindings.Upload.Session

/-
  Where calls are delivered over a whole run. The state that
  a run reaches is told by the steps it has taken: the slot
  holds the backend that was installed first, and a key
  stands for the shader that was made last under it. So the
  answer to a call depends on the steps before it only.

  What a call carries is spelled out here, one constructor
  after the other, apart from how the payloads of a call are
  made of the members of its value.

  Key definitions include:
    * `Call.carried`
    * `Shader.upload`
    * `Call.deliveries`
    * `firstInstalled?`
    * `latestShader?`
    * `State.RoutesCalls`

  Key theorems include:
    * `Call.payloads_eq_carried`
    * `Shader.perform_eq_flatMap`
    * `State.run_append`
    * `State.installed_run`
    * `State.lookup_run`
    * `State.run_routes_calls`
-/

------------------------------------------------------------
-- Uploads of a Call
------------------------------------------------------------

namespace ShaderBindings

namespace Upload

namespace Call

/-
  What a call carries, in order: a plain value under the name
  of the uniform, the parts of a struct each under the name
  of the uniform and its own behind a dot, and a pointer as
  it is.
-/
def carried : Call → List Payload
| .setInt name value => [.uniform name (.int value)]
| .setFloat name value => [.uniform name (.float value)]
| .setBool name value => [.uniform name (.bool value)]
| .setVector name value => [.uniform name (.vector value)]
| .setColor name value => [.uniform name (.color value)]
| .setMatrix4 name value => [.uniform name (.matrix4 value)]
| .setMaterial name value => [
    .uniform (name ++ ".diffuse") (.color value.diffuse),
    .uniform (name ++ ".specular") (.color value.specular),
    .uniform (name ++ ".shininess") (.float value.shininess)]
| .setDirectionalLight name value => [
    .uniform (name ++ ".direction") (.vector value.direction),
    .uniform (name ++ ".ambient") (.color value.ambient),
    .uniform (name ++ ".diffuse") (.color value.diffuse),
    .uniform (name ++ ".specular") (.color value.specular)]
| .setPointLight name value => [
    .uniform (name ++ ".position") (.vector value.position),
    .uniform (name ++ ".ambient") (.color value.ambient),
    .uniform (name ++ ".diffuse") (.color value.diffuse),
    .uniform (name ++ ".specular") (.color value.specular),
    .uniform (name ++ ".constant") (.float value.constant),
    .uniform (name ++ ".linear") (.float value.linear),
    .uniform (name ++ ".quadratic") (.float value.quadratic)]
| .vertexAttribPointer pointer => [.pointer pointer]

/- The payloads of a call are what it carries. -/
theorem payloads_eq_carried (call : Call) :
    call.payloads = call.carried := by
  cases call with
  | setMaterial name value =>
      simp [payloads, carried, Material.members,
        memberPayloads, memberName, String.append_assoc]
  | setDirectionalLight name value =>
      simp [payloads, carried, DirectionalLight.members,
        memberPayloads, memberName, String.append_assoc]
  | setPointLight name value =>
      simp [payloads, carried, PointLight.members,
        memberPayloads, memberName, String.append_assoc]
  | _ => rfl

end Call

variable {β : Type}
variable {installed : Option β}
variable {shader : Shader β}

/- What one backend receives of a call, for a program. -/
def Call.deliveries
    (call : Call)
    (backend : β)
    (program : String) : List (Delivery β) :=
  call.carried.map fun payload =>
    { backend, program, payload }

namespace Shader

/-
  The delivery of a single payload. The backend is looked up
  for this payload alone.
-/
def upload
    (installed : Option β)
    (shader : Shader β)
    (payload : Payload) : List (Delivery β) :=
  match shader.reach? installed with
  | some backend =>
      [{ backend, program := shader.name, payload }]
  | none => []

/-
  A call delivers what it carries one after the other, each
  of it with a lookup of its own.
-/
theorem perform_eq_flatMap
    (installed : Option β)
    (shader : Shader β)
    (call : Call) :
    shader.perform installed call =
      call.carried.flatMap (shader.upload installed) := by
  unfold perform upload
  rw [Call.payloads_eq_carried]
  cases shader.reach? installed with
  | none => simp
  | some backend => exact List.map_eq_flatMap

/- A call that reaches a backend is delivered to it alone. -/
theorem perform_of_reach
    {backend : β}
    (hReach : shader.reach? installed = some backend)
    (call : Call) :
    shader.perform installed call =
        call.deliveries backend shader.name ∧
      shader.dropped installed call = [] := by
  unfold perform dropped Call.deliveries
  rw [hReach, Call.payloads_eq_carried]
  exact ⟨rfl, rfl⟩

/- A call that reaches no backend is dropped entirely. -/
theorem perform_of_no_reach
    (hReach : shader.reach? installed = none)
    (call : Call) :
    shader.perform installed call = [] ∧
      shader.dropped installed call = call.carried := by
  unfold perform dropped
  rw [hReach, Call.payloads_eq_carried]
  exact ⟨rfl, rfl⟩

/- A backend of its own is reached whatever is installed. -/
theorem reach_own
    {backend : β}
    (hOwn : shader.backend = some backend)
    (installed : Option β) :
    shader.reach? installed = some backend := by
  rw [reach?, hOwn]

/- Without a backend of its own the installed one is reached. -/
theorem reach_installed
    (hOwn : shader.backend = none)
    (installed : Option β) :
    shader.reach? installed = installed := by
  rw [reach?, hOwn]

end Shader

end Upload

end ShaderBindings

------------------------------------------------------------
-- Histories
------------------------------------------------------------

namespace ShaderBindings

namespace Upload

variable {β : Type}

namespace Step

/- The backend that a step tries to install. -/
def installs? : Step β → Option β
| .install backend => some backend
| _ => none

/- The shader that a step makes under a key. -/
def makes? (key : String) : Step β → Option (Shader β)
| .make other shader => if key = other then some shader else none
| _ => none

end Step

/- The backend of the first install among steps. -/
def firstInstalled? (steps : List (Step β)) : Option β :=
  steps.findSome? Step.installs?

/- The shader of the last step that makes one under a key. -/
def latestShader?
    (steps : List (Step β))
    (key : String) : Option (Shader β) :=
  steps.reverse.findSome? (Step.makes? key)

theorem latestShader?_cons
    (step : Step β)
    (rest : List (Step β))
    (key : String) :
    latestShader? (step :: rest) key =
      (latestShader? rest key).or (step.makes? key) := by
  unfold latestShader?
  rw [List.reverse_cons, List.findSome?_append,
    List.findSome?_singleton]

end Upload

end ShaderBindings

------------------------------------------------------------
-- States That a Run Reaches
------------------------------------------------------------

namespace ShaderBindings

namespace Upload

namespace State

variable {β : Type}

/- One step fills an empty slot at most. -/
theorem installed_step
    (state : State β)
    (step : Step β) :
    (state.step step).1.installed =
      state.installed.or step.installs? := by
  cases step with
  | install backend =>
      rw [State.step]
      cases hSlot : state.installed with
      | none => rfl
      | some earlier => simp [hSlot]
  | isInstalled => simp [State.step, Step.installs?]
  | make key shader => simp [State.step, Step.installs?]
  | call key call =>
      rw [State.step]
      split
      · simp [Step.installs?]
      · simp [Step.installs?]

/- One step makes a shader under its own key only. -/
theorem lookup_step
    (state : State β)
    (step : Step β)
    (key : String) :
    (state.step step).1.shaders.lookup key =
      (step.makes? key).or (state.shaders.lookup key) := by
  cases step with
  | install backend =>
      rw [State.step]
      split
      · rfl
      · rfl
  | isInstalled => rfl
  | make other shader =>
      rw [State.step, List.lookup_cons, Step.makes?]
      by_cases hKey : key = other
      · simp [hKey]
      · have hOther : (key == other) = false := by
          simpa using hKey
        rw [hOther, if_neg hKey]
        rfl
  | call other call =>
      rw [State.step]
      split
      · rfl
      · rfl

/- The state that steps lead to from the start. -/
def reached (steps : List (Step β)) : State β :=
  (State.initial.run steps).1

/- The rest of a run starts in the state that a step leaves. -/
theorem run_cons
    (state : State β)
    (step : Step β)
    (rest : List (Step β)) :
    state.run (step :: rest) =
      (((state.step step).1.run rest).1,
        (state.step step).2 ::
          ((state.step step).1.run rest).2) :=
  rfl

/- A run goes on from the state that its first part leaves. -/
theorem run_append
    (state : State β)
    (first second : List (Step β)) :
    state.run (first ++ second) =
      (((state.run first).1.run second).1,
        (state.run first).2 ++
          ((state.run first).1.run second).2) := by
  induction first generalizing state with
  | nil => rfl
  | cons step rest ih =>
      rw [List.cons_append, run_cons, run_cons, ih]
      rfl

/- Every step is answered. -/
theorem length_run
    (state : State β)
    (steps : List (Step β)) :
    (state.run steps).2.length = steps.length := by
  induction steps generalizing state with
  | nil => rfl
  | cons step rest ih =>
      rw [run_cons, List.length_cons, List.length_cons, ih]

/- A slot that is filled stays as it is. -/
theorem installed_run
    (state : State β)
    (steps : List (Step β)) :
    (state.run steps).1.installed =
      state.installed.or (firstInstalled? steps) := by
  induction steps generalizing state with
  | nil => simp [run, firstInstalled?]
  | cons step rest ih =>
      rw [run_cons]
      dsimp only
      rw [ih, installed_step, Option.or_assoc,
        firstInstalled?, firstInstalled?, List.findSome?_cons]
      cases step.installs? with
      | none => rfl
      | some backend => rfl

/- A key stands for the shader that was made last under it. -/
theorem lookup_run
    (state : State β)
    (steps : List (Step β))
    (key : String) :
    (state.run steps).1.shaders.lookup key =
      (latestShader? steps key).or
        (state.shaders.lookup key) := by
  induction steps generalizing state with
  | nil => simp [run, latestShader?]
  | cons step rest ih =>
      rw [run_cons]
      dsimp only
      rw [ih, lookup_step, latestShader?_cons,
        Option.or_assoc]

theorem installed_reached (steps : List (Step β)) :
    (reached steps).installed = firstInstalled? steps := by
  rw [reached, installed_run]
  rfl

theorem lookup_reached
    (steps : List (Step β))
    (key : String) :
    (reached steps).shaders.lookup key =
      latestShader? steps key := by
  rw [reached, lookup_run]
  exact Option.or_none

/- One more step is taken in the state that is reached. -/
theorem reached_append_singleton
    (before : List (Step β))
    (step : Step β) :
    reached (before ++ [step]) =
      ((reached before).step step).1 := by
  rw [reached, run_append]
  rfl

/- A step is answered in the state that is reached before it. -/
theorem answer_at
    (before after : List (Step β))
    (step : Step β) :
    (State.initial.run (before ++ step :: after)).2[
        before.length]? =
      some ((reached before).step step).2 := by
  have hLength := length_run State.initial before
  rw [run_append]
  dsimp only
  rw [List.getElem?_append_right (Nat.le_of_eq hLength),
    hLength, Nat.sub_self]
  rfl

/- A call is answered by the shader that its key stands for. -/
theorem answer_at_call
    (before after : List (Step β))
    {key : String}
    {shader : Shader β}
    (hShader : latestShader? before key = some shader)
    (call : Call) :
    (State.initial.run
        (before ++ .call key call :: after)).2[
          before.length]? =
      some
        (.delivered
          (shader.perform (firstInstalled? before) call)
          (shader.dropped (firstInstalled? before) call)
          shader.name) := by
  rw [answer_at, State.step, lookup_reached, hShader,
    installed_reached]

end State

end Upload

end ShaderBindings

------------------------------------------------------------
-- Routing
------------------------------------------------------------

namespace ShaderBindings

namespace Upload

namespace State

variable {β : Type}

/-
  A run from the start routes its calls:
    * every step is answered,
    * the slot holds the backend of the first install so far,
      and once it is filled it never changes,
    * an install succeeds when it is the first, and is
      refused without any change when it is a later one,
    * a call on a shader with a backend of its own delivers
      all that it carries to that backend, in order,
    * a call on any other shader delivers all of it to the
      backend that was installed first, if it was installed
      before the call, and is dropped entirely otherwise,
    * what a call carries is delivered piece by piece, each
      with a lookup of its own, and the state stays as it is.
-/
structure RoutesCalls (steps : List (Step β)) : Prop where
  answered : (State.initial.run steps).2.length = steps.length
  slot :
    ∀ before after,
      steps = before ++ after →
        (reached before).installed = firstInstalled? before
  slot_stays :
    ∀ before after backend,
      steps = before ++ after →
        (reached before).installed = some backend →
          (reached steps).installed = some backend
  first_install :
    ∀ before backend after,
      steps = before ++ .install backend :: after →
        firstInstalled? before = none →
          (State.initial.run steps).2[before.length]? =
              some .done ∧
            (reached (before ++ [.install backend])).installed =
              some backend
  later_install :
    ∀ before backend after earlier,
      steps = before ++ .install backend :: after →
        firstInstalled? before = some earlier →
          (State.initial.run steps).2[before.length]? =
              some (.refused .alreadyInstalled) ∧
            reached (before ++ [.install backend]) =
              reached before
  own_backend :
    ∀ before key call after shader backend,
      steps = before ++ .call key call :: after →
        latestShader? before key = some shader →
          shader.backend = some backend →
            (State.initial.run steps).2[before.length]? =
              some
                (.delivered
                  (call.deliveries backend shader.name) []
                  shader.name)
  installed_backend :
    ∀ before key call after shader backend,
      steps = before ++ .call key call :: after →
        latestShader? before key = some shader →
          shader.backend = none →
            firstInstalled? before = some backend →
              (State.initial.run steps).2[before.length]? =
                some
                  (.delivered
                    (call.deliveries backend shader.name) []
                    shader.name)
  no_backend :
    ∀ before key call after shader,
      steps = before ++ .call key call :: after →
        latestShader? before key = some shader →
          shader.backend = none →
            firstInstalled? before = none →
              (State.initial.run steps).2[before.length]? =
                some (.delivered [] call.carried shader.name)
  uploads :
    ∀ before key call after shader,
      steps = before ++ .call key call :: after →
        latestShader? before key = some shader →
          (∃ dropped,
            (State.initial.run steps).2[before.length]? =
              some
                (.delivered
                  (call.carried.flatMap
                    (shader.upload (reached before).installed))
                  dropped shader.name)) ∧
            reached (before ++ [.call key call]) =
              reached before

/- Every run from the start routes its calls. -/
theorem run_routes_calls (steps : List (Step β)) :
    RoutesCalls steps where
  answered := length_run _ steps
  slot := fun before _ _ => installed_reached before
  slot_stays := by
    rintro before after backend rfl hSlot
    change (State.initial.run (before ++ after)).1.installed = _
    rw [run_append, installed_run]
    change ((reached before).installed.or _) = _
    rw [hSlot]
    rfl
  first_install := by
    rintro before backend after rfl hNone
    rw [answer_at, installed_reached, firstInstalled?,
      List.findSome?_append, ← firstInstalled?, hNone,
      State.step, installed_reached, hNone]
    exact ⟨rfl, rfl⟩
  later_install := by
    rintro before backend after earlier rfl hEarlier
    rw [answer_at, reached_append_singleton, State.step,
      installed_reached, hEarlier]
    exact ⟨rfl, rfl⟩
  own_backend := by
    rintro before key call after shader backend rfl hShader
      hOwn
    have hDelivered :=
      Shader.perform_of_reach
        (Shader.reach_own hOwn (firstInstalled? before)) call
    rw [answer_at_call before after hShader, hDelivered.1,
      hDelivered.2]
  installed_backend := by
    rintro before key call after shader backend rfl hShader
      hOwn hInstalled
    have hDelivered :=
      Shader.perform_of_reach
        (Shader.reach_installed hOwn (some backend)) call
    rw [answer_at_call before after hShader, hInstalled,
      hDelivered.1, hDelivered.2]
  no_backend := by
    rintro before key call after shader rfl hShader hOwn
      hInstalled
    have hDropped :=
      Shader.perform_of_no_reach
        (Shader.reach_installed hOwn none) call
    rw [answer_at_call before after hShader, hInstalled,
      hDropped.1, hDropped.2]
  uploads := by
    rintro before key call after shader rfl hShader
    constructor
    · refine
        ⟨shader.dropped (firstInstalled? before) call, ?_⟩
      rw [answer_at_call before after hShader,
        Shader.perform_eq_flatMap, installed_reached]
    · rw [reached_append_singleton, State.step]
      split
      · rfl
      · rfl

end State

end Upload

end ShaderBindings
