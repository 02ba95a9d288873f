import DevicePlan.Proofs.Overrides

namespace DevicePlan

theorem exists_lastPool {entries : List (Role × String)} {entry : Role × String}
    (member : entry ∈ entries) : ∃ pool, lastPool entries entry.1 = some pool := by
  rw [← Option.isSome_iff_exists, ← Option.ne_none_iff_isSome, Ne, lastPool,
    List.lookup_eq_none_iff]
  intro absent
  simpa using absent entry (List.mem_reverse.mpr member)

theorem lastPool_append_self (entries : List (Role × String)) (role : Role) :
    lastPool (entries ++ entries) role = lastPool entries role := by
  rw [lastPool_append, Option.or_self]

theorem lastPool_exchange {first second : Role × String} (apart : first.1 ≠ second.1)
    (before after : List (Role × String)) (role : Role) :
    lastPool (before ++ second :: first :: after) role =
      lastPool (before ++ first :: second :: after) role := by
  simp only [lastPool_append, lastPool_cons, Option.or_assoc]
  by_cases here : role = first.1
  · simp [here, apart]
  · simp [here]

theorem lastPool_leaveOut {entry : Role × String} {after : List (Role × String)}
    (later : ∃ other ∈ after, other.1 = entry.1) (before : List (Role × String)) (role : Role) :
    lastPool (before ++ after) role = lastPool (before ++ entry :: after) role := by
  obtain ⟨other, member, same⟩ := later
  obtain ⟨pool, last⟩ := exists_lastPool member
  rw [same] at last
  rw [lastPool_append, lastPool_append, lastPool_cons]
  by_cases here : role = entry.1
  · simp [here, last]
  · simp [here]

namespace Layout

def firstForeign? (layout : Layout) (entries : List (Role × String)) :
    Option (Role × String) :=
  entries.find? fun entry => !layout.declares entry.2

theorem firstForeign?_append (layout : Layout) (first second : List (Role × String)) :
    layout.firstForeign? (first ++ second) =
      (layout.firstForeign? first).or (layout.firstForeign? second) :=
  List.find?_append

theorem firstForeign?_cons {layout : Layout} {entry : Role × String}
    (declared : entry.2 ∈ layout.names) (rest : List (Role × String)) :
    layout.firstForeign? (entry :: rest) = layout.firstForeign? rest := by
  rw [firstForeign?, List.find?_cons, declares_iff.mpr declared]
  rfl

theorem firstForeign?_eq_some_iff {layout : Layout} {entries : List (Role × String)}
    {entry : Role × String} :
    layout.firstForeign? entries = some entry ↔ ∃ before after, entries = before ++ entry :: after ∧
      (∀ other ∈ before, other.2 ∈ layout.names) ∧ entry.2 ∉ layout.names := by
  simp only [firstForeign?, List.find?_eq_some_iff_append, ← declares_iff]
  constructor
  · rintro ⟨foreign, before, after, rfl, earlier⟩
    exact ⟨before, after, rfl, by simpa using earlier, by simpa using foreign⟩
  · rintro ⟨before, after, rfl, earlier, foreign⟩
    exact ⟨by simpa using foreign, before, after, rfl, by simpa using earlier⟩

end Layout

namespace Bindings

def attachAll (bindings : Bindings) (layout : Layout) (entries : List (Role × String)) :
    Except PlanError Bindings :=
  entries.foldlM (fun bindings entry => bindings.attach layout entry.1 entry.2) bindings

theorem outcome_runAttachAll (bindings : Bindings) (layout : Layout)
    (entries : List (Role × String)) :
    (bindings.runAttachAll layout entries).outcome = bindings.attachAll layout entries := by
  induction entries generalizing bindings with
  | nil => rfl
  | cons entry rest ih =>
    rw [runAttachAll, Run.outcome_bind, outcome_runAttach, attachAll, List.foldlM_cons]
    exact congrArg _ (funext fun next => ih next)

theorem attachAll_append (bindings : Bindings) (layout : Layout)
    (first second : List (Role × String)) :
    bindings.attachAll layout (first ++ second) =
      bindings.attachAll layout first >>= fun attached => attached.attachAll layout second :=
  List.foldlM_append

theorem attachAll_eq (bindings : Bindings) (layout : Layout) (entries : List (Role × String)) :
    bindings.attachAll layout entries =
      match layout.firstForeign? entries with
      | none => .ok (bindings.bindAll entries)
      | some entry => .error (.unknownPool entry.1 entry.2) := by
  induction entries generalizing bindings with
  | nil => rfl
  | cons entry rest ih =>
    rw [attachAll, List.foldlM_cons, attach, Layout.firstForeign?, List.find?_cons]
    cases layout.declares entry.2 with
    | false => rfl
    | true => exact ih (bindings.bind entry.1 entry.2)

theorem attachAll_congr {layout : Layout} {first second : List (Role × String)}
    (refused : layout.firstForeign? first = layout.firstForeign? second)
    (last : ∀ role, lastPool first role = lastPool second role) (bindings : Bindings) :
    bindings.attachAll layout first = bindings.attachAll layout second := by
  have bound : bindings.bindAll first = bindings.bindAll second := by
    apply ext_get
    intro role
    rw [get_bindAll, get_bindAll, last]
  rw [attachAll_eq, attachAll_eq, refused, bound]

theorem attachAll_eq_ok_iff {bindings result : Bindings} {layout : Layout}
    {entries : List (Role × String)} :
    bindings.attachAll layout entries = .ok result ↔
      (∀ entry ∈ entries, entry.2 ∈ layout.names) ∧ result = bindings.bindAll entries := by
  rw [← outcome_runAttachAll, runAttachAll_eq_ok_iff]

theorem attachAll_eq_error_iff_foreign {bindings : Bindings} {layout : Layout}
    {entries : List (Role × String)} {error : PlanError} :
    bindings.attachAll layout entries = .error error ↔
      ∃ entry, layout.firstForeign? entries = some entry ∧
        error = .unknownPool entry.1 entry.2 := by
  rw [attachAll_eq]
  cases layout.firstForeign? entries <;> simp [eq_comm]

theorem attachAll_eq_error_iff {bindings : Bindings} {layout : Layout}
    {entries : List (Role × String)} {error : PlanError} :
    bindings.attachAll layout entries = .error error ↔ ∃ before role pool after,
      entries = before ++ (role, pool) :: after ∧ (∀ entry ∈ before, entry.2 ∈ layout.names) ∧
        pool ∉ layout.names ∧ error = .unknownPool role pool := by
  simp only [attachAll_eq_error_iff_foreign, Layout.firstForeign?_eq_some_iff, Prod.exists]
  constructor
  · rintro ⟨role, pool, ⟨before, after, place, earlier, foreign⟩, same⟩
    exact ⟨before, role, pool, after, place, earlier, foreign, same⟩
  · rintro ⟨before, role, pool, after, place, earlier, foreign, same⟩
    exact ⟨role, pool, ⟨before, after, place, earlier, foreign⟩, same⟩

/-- Of the attachments in a list the last one of each role counts, and all of them are checked. -/
structure LastWins (bindings : Bindings) (layout : Layout) (entries : List (Role × String)) :
    Prop where
  succeeds : (∃ result, bindings.attachAll layout entries = .ok result) ↔
    ∀ entry ∈ entries, entry.2 ∈ layout.names
  fails : ∀ error, bindings.attachAll layout entries = .error error ↔
    ∃ before role pool after, entries = before ++ (role, pool) :: after ∧
      (∀ entry ∈ before, entry.2 ∈ layout.names) ∧ pool ∉ layout.names ∧
        error = .unknownPool role pool
  bound : ∀ result, bindings.attachAll layout entries = .ok result →
    ∀ role, result.get role = (lastPool entries role).or (bindings.get role)
  again : bindings.attachAll layout (entries ++ entries) = bindings.attachAll layout entries
  exchange : ∀ before first second after, entries = before ++ first :: second :: after →
    first.1 ≠ second.1 → first.2 ∈ layout.names → second.2 ∈ layout.names →
    bindings.attachAll layout (before ++ second :: first :: after) =
      bindings.attachAll layout entries
  leaveOut : ∀ before entry after, entries = before ++ entry :: after →
    entry.2 ∈ layout.names → (∃ later ∈ after, later.1 = entry.1) →
    bindings.attachAll layout (before ++ after) = bindings.attachAll layout entries

theorem attachAll_lastWins (bindings : Bindings) (layout : Layout)
    (entries : List (Role × String)) :
    (bindings.runAttachAll layout entries).outcome = bindings.attachAll layout entries ∧
      bindings.LastWins layout entries := by
  refine ⟨bindings.outcome_runAttachAll layout entries, ?_, fun error => attachAll_eq_error_iff,
    ?_, ?_, ?_, ?_⟩
  · simp only [attachAll_eq_ok_iff, exists_and_left, exists_eq, and_true]
  · intro result attached role
    obtain ⟨-, rfl⟩ := attachAll_eq_ok_iff.mp attached
    exact get_bindAll bindings entries role
  · have refused : layout.firstForeign? (entries ++ entries) = layout.firstForeign? entries := by
      rw [Layout.firstForeign?_append, Option.or_self]
    exact attachAll_congr refused (lastPool_append_self entries) bindings
  · rintro before first second after rfl apart declared known
    have refused : layout.firstForeign? (before ++ second :: first :: after) =
        layout.firstForeign? (before ++ first :: second :: after) := by
      simp only [Layout.firstForeign?_append, Layout.firstForeign?_cons declared,
        Layout.firstForeign?_cons known]
    exact attachAll_congr refused (lastPool_exchange apart before after) bindings
  · rintro before entry after rfl declared later
    have refused : layout.firstForeign? (before ++ after) =
        layout.firstForeign? (before ++ entry :: after) := by
      simp only [Layout.firstForeign?_append, Layout.firstForeign?_cons declared]
    exact attachAll_congr refused (lastPool_leaveOut later before) bindings

def moves : List (Role × String) :=
  [(.critic, "own"), (.reference, "second"), (.critic, "first")]

theorem attachAll_moves :
    (split "first" "second").attachAll Plan.fullNodes moves =
      .ok ⟨some "first", some "first", none, some "second"⟩ ∧
    (split "first" "second").attachAll Plan.fullNodes (moves ++ moves) =
      (split "first" "second").attachAll Plan.fullNodes moves ∧
    (split "first" "second").attachAll Plan.fullNodes
        [(.reference, "second"), (.critic, "own"), (.critic, "first")] =
      (split "first" "second").attachAll Plan.fullNodes moves ∧
    (split "first" "second").attachAll Plan.fullNodes
        [(.reference, "second"), (.critic, "first")] =
      (split "first" "second").attachAll Plan.fullNodes moves := by
  obtain ⟨-, wins⟩ := attachAll_lastWins (split "first" "second") Plan.fullNodes moves
  have attached : (split "first" "second").attachAll Plan.fullNodes moves =
      .ok ⟨some "first", some "first", none, some "second"⟩ := by decide +kernel
  exact ⟨attached, wins.again, wins.exchange [] _ _ _ rfl (by decide) (by decide) (by decide),
    wins.leaveOut [] _ _ rfl (by decide) (by decide)⟩

end Bindings

end DevicePlan
