import DevicePlan.Proofs.Attachment
import DevicePlan.Proofs.Plan.Text
import Mathlib.Data.List.Perm.Basic
import Mathlib.Tactic.TFAE

/-!
# Bindings without a history

Binding a role puts one entry at its place in the ordered list of the bound roles, in place of an
entry of the same role (`Bindings.puts_bind`). Whatever entries are put into such a list, it ascends
and holds the last entry of each role (`Ordered.ascends`, `Ordered.mem_iff`). So bindings show which
pool each role was bound to last, and nothing else of how they came about
(`bindings_forget_history`).
-/

namespace DevicePlan

def Puts (entry : Role × String) (entries next : List (Role × String)) : Prop :=
  ∃ before old after, entries = before ++ old ++ after ∧ next = before ++ entry :: after ∧
    (∀ other ∈ before, other.1 < entry.1) ∧ (∀ other ∈ old, other.1 = entry.1) ∧
    ∀ other ∈ after, entry.1 < other.1

inductive Ordered : List (Role × String) → List (Role × String) → Prop where
  | nil : Ordered [] []
  | put {history entries next : List (Role × String)} {entry : Role × String}
    (earlier : Ordered history entries) (puts : Puts entry entries next) :
    Ordered (history ++ [entry]) next

def Ascends (entries : List (Role × String)) : Prop :=
  entries.Pairwise fun entry next => entry.1 < next.1

theorem Role.ne_of_lt {role other : Role} (less : role < other) : role ≠ other := by
  rintro rfl
  exact Nat.lt_irrefl _ less

namespace Puts

variable {entry : Role × String} {entries next : List (Role × String)}

theorem ascends (puts : Puts entry entries next) (ascend : Ascends entries) : Ascends next := by
  obtain ⟨before, old, after, rfl, rfl, below, -, above⟩ := puts
  have kept : Ascends (before ++ after) :=
    ascend.sublist ((List.sublist_append_left before old).append (.refl after))
  obtain ⟨first, last, across⟩ := List.pairwise_append.mp kept
  refine List.pairwise_append.mpr ⟨first, List.pairwise_cons.mpr ⟨above, last⟩, ?_⟩
  intro other early
  rw [List.forall_mem_cons]
  exact ⟨below other early, across other early⟩

theorem mem_iff (puts : Puts entry entries next) {role : Role} {pool : String} :
    (role, pool) ∈ next ↔ if role = entry.1 then pool = entry.2 else (role, pool) ∈ entries := by
  obtain ⟨before, old, after, rfl, rfl, below, same, above⟩ := puts
  obtain ⟨put, host⟩ := entry
  simp only [List.mem_append, List.mem_cons, Prod.mk.injEq]
  split
  · rename_i here
    subst here
    have notBefore : (role, pool) ∉ before := fun early => Role.ne_of_lt (below _ early) rfl
    have notAfter : (role, pool) ∉ after := fun late => Role.ne_of_lt (above _ late) rfl
    simp [notBefore, notAfter]
  · rename_i elsewhere
    have notOld : (role, pool) ∉ old := fun inside => elsewhere (same _ inside)
    simp [elsewhere, notOld]

end Puts

namespace Ordered

variable {history others entries list : List (Role × String)}

theorem ascends (ordered : Ordered history entries) : Ascends entries := by
  induction ordered with
  | nil => exact .nil
  | put _ puts ih => exact puts.ascends ih

theorem mem_iff (ordered : Ordered history entries) {role : Role} {pool : String} :
    (role, pool) ∈ entries ↔ lastPool history role = some pool := by
  induction ordered with
  | nil => simp
  | put _ puts ih =>
    rw [puts.mem_iff, ih, lastPool_append, lastPool_cons]
    split
    · simp [eq_comm]
    · simp

theorem eq_of_lastPool (ordered : Ordered history entries) (orderedList : Ordered others list)
    (same : ∀ role, lastPool history role = lastPool others role) : entries = list := by
  have distinct {entries : List (Role × String)} (ascend : Ascends entries) : entries.Nodup :=
    ascend.imp fun less equal => Role.ne_of_lt less (congrArg Prod.fst equal)
  have alike : entries.Perm list := by
    rw [List.perm_ext_iff_of_nodup (distinct ordered.ascends) (distinct orderedList.ascends)]
    rintro ⟨role, pool⟩
    rw [ordered.mem_iff, orderedList.mem_iff, same]
  refine alike.eq_of_pairwise ?_ ordered.ascends orderedList.ascends
  exact fun _ _ _ _ less more => absurd more (Nat.lt_asymm less)

end Ordered

namespace Bindings

def among (bindings : Bindings) (roles : List Role) : List (Role × String) :=
  roles.filterMap fun role => (bindings.get role).map (role, ·)

theorem mem_among {bindings : Bindings} {roles : List Role} {entry : Role × String}
    (member : entry ∈ bindings.among roles) : entry.1 ∈ roles := by
  obtain ⟨role, inside, found⟩ := List.mem_filterMap.mp member
  obtain ⟨pool, -, rfl⟩ := Option.map_eq_some_iff.mp found
  exact inside

theorem among_bind {bindings : Bindings} {role : Role} {roles : List Role} (absent : role ∉ roles)
    (pool : String) : (bindings.bind role pool).among roles = bindings.among roles := by
  apply List.filterMap_congr
  intro other inside
  rw [get_bind, if_neg (ne_of_mem_of_not_mem inside absent)]

theorem toList_eq (bindings : Bindings) (role : Role) : bindings.toList =
    bindings.among role.below ++ bindings.among [role] ++
      bindings.among (Role.all.filter (role < ·)) := by
  have parts : Role.all = role.below ++ [role] ++ Role.all.filter (role < ·) := by
    cases role <;> rfl
  rw [among, among, among, ← List.filterMap_append, ← List.filterMap_append, ← parts]
  rfl

theorem puts_bind (bindings : Bindings) (role : Role) (pool : String) :
    Puts (role, pool) bindings.toList (bindings.bind role pool).toList := by
  have below : ∀ other ∈ role.below, other < role := by simp [Role.below]
  have above : ∀ other ∈ Role.all.filter (role < ·), role < other := by simp
  have here : (bindings.bind role pool).among [role] = [(role, pool)] := by simp [among]
  refine ⟨_, _, _, bindings.toList_eq role, ?_, fun other member => below _ (mem_among member),
    fun other member => List.mem_singleton.mp (mem_among member),
    fun other member => above _ (mem_among member)⟩
  rw [toList_eq _ role, here, among_bind fun inside => Role.ne_of_lt (below role inside) rfl,
    among_bind fun inside => Role.ne_of_lt (above role inside) rfl, List.append_assoc]
  rfl

theorem bindAll_append (bindings : Bindings) (first second : List (Role × String)) :
    bindings.bindAll (first ++ second) = (bindings.bindAll first).bindAll second :=
  List.foldl_append

/-- The bindings that come about when the entries of a history are bound one after the other, each
of them with or without a look at the pools that a layout declares. -/
inductive Built : List (Role × String) → Bindings → Prop where
  | empty : Built [] .empty
  | bind {history : List (Role × String)} {bindings : Bindings} (earlier : Built history bindings)
    (role : Role) (pool : String) : Built (history ++ [(role, pool)]) (bindings.bind role pool)
  | attach {history : List (Role × String)} {bindings next : Bindings} {layout : Layout}
    {role : Role} {pool : String} (earlier : Built history bindings)
    (attached : bindings.attach layout role pool = .ok next) :
    Built (history ++ [(role, pool)]) next

namespace Built

variable {history entries : List (Role × String)} {bindings next : Bindings}

theorem eq_bindAll (built : Built history bindings) :
    bindings = Bindings.empty.bindAll history := by
  induction built with
  | empty => rfl
  | bind _ role pool ih =>
    rw [bindAll_append, ← ih]
    rfl
  | attach _ attached ih =>
    obtain ⟨-, rfl⟩ := attach_eq_ok_iff.mp attached
    rw [bindAll_append, ← ih]
    rfl

theorem append (built : Built history bindings) (entries : List (Role × String)) :
    Built (history ++ entries) (bindings.bindAll entries) := by
  induction entries generalizing history bindings with
  | nil =>
    rw [List.append_nil]
    exact built
  | cons entry rest ih =>
    rw [← List.singleton_append, ← List.append_assoc]
    exact ih (built.bind entry.1 entry.2)

theorem append_attached {layout : Layout} (built : Built history bindings)
    (attached : bindings.attachAll layout entries = .ok next) :
    Built (history ++ entries) next := by
  induction entries generalizing history bindings with
  | nil =>
    cases attached
    rw [List.append_nil]
    exact built
  | cons entry rest ih =>
    rw [attachAll, List.foldlM_cons, bind_eq_ok] at attached
    obtain ⟨bound, here, later⟩ := attached
    rw [← List.singleton_append, ← List.append_assoc]
    exact ih (built.attach here) later

theorem colocated (pool : String) (roles : List Role) :
    Built (roles.map (·, pool)) (.colocated pool roles) := by
  have shared : Bindings.colocated pool roles = Bindings.empty.bindAll (roles.map (·, pool)) := by
    rw [bindAll, List.foldl_map, Bindings.colocated]
  rw [shared]
  exact Built.empty.append _

theorem split (actorPool criticPool : String) :
    Built [(.actorRollout, actorPool), (.reference, actorPool), (.critic, criticPool)]
      (.split actorPool criticPool) :=
  Built.empty.append _

theorem ordered (built : Built history bindings) : Ordered history bindings.toList := by
  induction built with
  | empty => exact .nil
  | bind _ role pool ih => exact ih.put (puts_bind _ role pool)
  | attach _ attached ih =>
    obtain ⟨-, rfl⟩ := attach_eq_ok_iff.mp attached
    exact ih.put (puts_bind _ _ _)

theorem get (built : Built history bindings) (role : Role) :
    bindings.get role = lastPool history role := by
  rw [built.eq_bindAll, get_bindAll, get_empty, Option.or_none]

end Built

structure Canonical (bindings : Bindings) (history : List (Role × String)) : Prop where
  ordered : Ordered history bindings.toList
  ascends : (bindings.toList.map Prod.fst).Pairwise (· < ·)
  lists : ∀ role pool, (role, pool) ∈ bindings.toList ↔ bindings.get role = some pool
  last : ∀ role, bindings.get role = lastPool history role
  size : bindings.size = Role.all.countP bindings.isBound

theorem Built.canonical {history : List (Role × String)} {bindings : Bindings}
    (built : Built history bindings) : bindings.Canonical history :=
  ⟨built.ordered, List.pairwise_map.mpr built.ordered.ascends, fun _ _ => mem_toList, built.get,
    bindings.size_eq⟩

theorem Built.tfae {history others : List (Role × String)} {first second : Bindings}
    (built : Built history first) (otherBuilt : Built others second) :
    [∀ role, lastPool history role = lastPool others role,
      ∀ role, first.get role = second.get role, first.toList = second.toList, first = second,
      Json.compact first.encode = Json.compact second.encode,
      Json.pretty first.encode = Json.pretty second.encode].TFAE := by
  have plain := first.plain_encode
  have otherPlain := second.plain_encode
  tfae_have 1 ↔ 2 := by simp only [built.get, otherBuilt.get]
  tfae_have 1 → 3 := built.ordered.eq_of_lastPool otherBuilt.ordered
  tfae_have 3 → 2 := by
    intro same role
    ext pool
    rw [← mem_toList, ← mem_toList, same]
  tfae_have 2 → 4 := ext_get
  tfae_have 4 → 2 := by
    rintro rfl role
    rfl
  tfae_have 4 ↔ 5 := by rw [Json.compact_inj plain otherPlain, encode_inj]
  tfae_have 4 ↔ 6 := by rw [Json.pretty_inj plain otherPlain, encode_inj]
  tfae_finish

theorem bindings_forget_history :
    (∀ history bindings, Built history bindings → bindings.Canonical history) ∧
    (∀ (bindings next : Bindings) (layout : Layout) (role : Role) (pool : String),
      next = bindings.bind role pool ∨ bindings.attach layout role pool = .ok next →
      ∀ other, next.get other = if other = role then some pool else bindings.get other) ∧
    (∀ history first others second, Built history first → Built others second →
      [∀ role, lastPool history role = lastPool others role,
        ∀ role, first.get role = second.get role, first.toList = second.toList, first = second,
        Json.compact first.encode = Json.compact second.encode,
        Json.pretty first.encode = Json.pretty second.encode].TFAE) ∧
    (∀ actorPool criticPool,
      Built [(.actorRollout, actorPool), (.reference, actorPool), (.critic, criticPool)]
        (split actorPool criticPool)) ∧
    ∀ (pool : String) (roles : List Role), Built (roles.map (·, pool)) (colocated pool roles) ∧
      (∀ role, (colocated pool roles).get role = if role ∈ roles then some pool else none) ∧
      ∀ others : List Role, (∀ role, role ∈ others ↔ role ∈ roles) →
        colocated pool others = colocated pool roles := by
  refine ⟨fun _ _ => Built.canonical, ?_, fun _ _ _ _ => Built.tfae, Built.split, ?_⟩
  · intro bindings next layout role pool changed other
    have bound : next = bindings.bind role pool := by
      rcases changed with bound | attached
      · exact bound
      · exact (attach_eq_ok_iff.mp attached).2
    rw [bound, get_bind]
  · intro pool roles
    refine ⟨.colocated pool roles, get_colocated pool roles, fun others same => ?_⟩
    apply ext_get
    intro role
    rw [get_colocated, get_colocated, if_congr (same role) rfl rfl]

def detour : List (Role × String) :=
  [(.actorRollout, "first"), (.reference, "first"), (.critic, "second"), (.critic, "own"),
    (.critic, "first")]

def direct : List (Role × String) :=
  [(.critic, "first"), (.actorRollout, "first"), (.critic, "first"), (.reference, "first")]

theorem detour_forgotten : ∃ roundabout straight : Bindings, Built detour roundabout ∧
    Built direct straight ∧ roundabout.Canonical detour ∧ roundabout = straight ∧
    Json.compact roundabout.encode = Json.compact straight.encode ∧
    straight.get .reference = some "first" ∧ straight.get .rewardModel = none ∧
    colocated "first" [.critic, .actorRollout, .critic] =
      colocated "first" [.actorRollout, .critic] := by
  obtain ⟨canonical, changes, same, splits, shared⟩ := bindings_forget_history
  have moved : (Bindings.split "first" "second").attachAll Plan.fullNodes
      [(.critic, "own"), (.critic, "first")] = .ok _ := rfl
  have joined : (Bindings.colocated "first" [.critic, .actorRollout, .critic]).attach
      Plan.fullNodes .reference "first" = .ok _ := rfl
  have roundabout : Built detour _ := (splits "first" "second").append_attached moved
  obtain ⟨straight, -⟩ := shared "first" [.critic, .actorRollout, .critic]
  have straight : Built direct _ := straight.attach joined
  have alike := same _ _ _ _ roundabout straight
  have last : ∀ role, lastPool detour role = lastPool direct role := by
    intro role
    cases role <;> rfl
  have bound := changes _ _ _ _ _ (.inr joined)
  refine ⟨_, _, roundabout, straight, canonical _ _ roundabout, (alike.out 0 3).mp last,
    (alike.out 0 4).mp last, bound .reference, bound .rewardModel, ?_⟩
  obtain ⟨-, -, anyOrder⟩ := shared "first" [.actorRollout, .critic]
  exact anyOrder _ fun role => by cases role <;> decide

end Bindings

end DevicePlan
