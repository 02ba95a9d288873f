import DevicePlan.Proofs.Bindings
import DevicePlan.Proofs.Job.Placement

namespace DevicePlan.Job

def pin (job : Job) (bindings : Bindings) : Job :=
  { job with placement := { job.placement with overrides := bindings.named } }

variable {job : Job} {plan : Plan}

theorem Placeable.pin {bindings : Bindings} (placeable : job.Placeable)
    (hosts : ∀ role name, bindings.get role = some name → name ∈ job.declaredNames) :
    (job.pin bindings).Placeable where
  nodes := placeable.nodes
  devices := placeable.devices
  wideEnough := placeable.wideEnough
  rewardFits := placeable.rewardFits
  roles := by
    rintro ⟨name, pool⟩ member
    obtain ⟨role, named, -⟩ := Bindings.mem_named.mp member
    exact ⟨role, named⟩
  known := by
    rintro ⟨name, pool⟩ member
    obtain ⟨role, -, bound⟩ := Bindings.mem_named.mp member
    exact hosts role pool bound
  distinct := placeable.distinct

theorem chosenPool_pin (placed : job.place.outcome = .ok plan) (role : Role) :
    (job.pin plan.bindings).chosenPool role = plan.bindings.get role := by
  have pinned : (job.pin plan.bindings).chosenPool role =
      (plan.bindings.get role).or (job.defaultPool role) :=
    congrArg (·.or (job.defaultPool role)) (plan.bindings.get?_named role)
  have chosen := get_bindings placed role
  rw [pinned]
  cases bound : plan.bindings.get role with
  | some name => rfl
  | none =>
    rw [bound, chosenPool, eq_comm, Option.or_eq_none_iff] at chosen
    rw [chosen.2, Option.none_or]

theorem exists_place_pin (placed : job.place.outcome = .ok plan) :
    ∃ other, (job.pin plan.bindings).place.outcome = .ok other := by
  have placeable := (place_eq_ok_iff.mp placed).1
  rw [exists_place_iff]
  apply placeable.pin
  intro role name bound
  rw [← names_pools placed]
  exact (consistent_of_placed placed).declared role name bound

theorem pools_pin {bindings : Bindings} {other : Plan} (placed : job.place.outcome = .ok plan)
    (again : (job.pin bindings).place.outcome = .ok other) :
    other.cluster = plan.cluster ∧ other.pools = plan.pools := by
  obtain ⟨-, cluster, policy, -, clustered, governed, -, rfl⟩ := place_eq_ok_iff.mp placed
  obtain ⟨-, cluster', policy', -, clustered', governed', -, rfl⟩ := place_eq_ok_iff.mp again
  obtain rfl := Except.ok.inj (clustered.symm.trans clustered')
  obtain rfl := Except.ok.inj (governed.symm.trans governed')
  exact ⟨rfl, rfl⟩

theorem place_pin (placed : job.place.outcome = .ok plan) :
    (job.pin plan.bindings).place.outcome = .ok plan := by
  obtain ⟨other, again⟩ := exists_place_pin placed
  obtain ⟨cluster, pools⟩ := pools_pin placed again
  have bindings : other.bindings = plan.bindings := by
    apply Bindings.ext_get
    intro role
    rw [get_bindings again, chosenPool_pin placed]
  have same : other = plan := by
    calc other = ⟨other.cluster, other.pools, other.bindings⟩ := rfl
      _ = ⟨plan.cluster, plan.pools, plan.bindings⟩ := by rw [cluster, pools, bindings]
      _ = plan := rfl
  rw [again, same]

def movedReference : Job :=
  ⟨⟨1, 7⟩, ⟨.split, none, some "a", none, some "r", .ofList [("reference", "critic_pool")]⟩,
    some ⟨true, false, 0, 0⟩⟩

def movedReferencePlan : Plan :=
  ⟨⟨1, 7, by decide, by decide, by decide⟩,
    [⟨"a", #[4], .primary⟩, ⟨"critic_pool", #[3], .primary⟩],
    ⟨some "a", some "critic_pool", some "a", some "critic_pool"⟩⟩

theorem place_pin_movedReference :
    movedReference.place.outcome = .ok movedReferencePlan ∧
    (movedReference.pin movedReferencePlan.bindings).placement.overrides.entries =
      [("actor_rollout", "a"), ("critic", "critic_pool"), ("reference", "critic_pool"),
        ("reward_model", "a")] ∧
    (movedReference.pin movedReferencePlan.bindings).place.outcome = .ok movedReferencePlan := by
  have placed : movedReference.place.outcome = .ok movedReferencePlan := by decide +kernel
  exact ⟨placed, by decide +kernel, place_pin placed⟩

end DevicePlan.Job
