import DevicePlan.Proofs.Document.Order
import DevicePlan.Proofs.Toml.Table

namespace DevicePlan.Toml

inductive Node.Distinct : Node → Prop where
  | leaf {value : Value} (unambiguous : value.Unambiguous) : Node.Distinct (.leaf value)
  | table (origin : Origin) {members : Members} (keys : (members.map Prod.fst).Nodup)
    (each : ∀ member ∈ members, Node.Distinct member.2) : Node.Distinct (.table origin members)
  | tables {last : Members} {earlier : List Members}
    (keys : ∀ members ∈ last :: earlier, (members.map Prod.fst).Nodup)
    (each : ∀ members ∈ last :: earlier, ∀ member ∈ members, Node.Distinct member.2) :
    Node.Distinct (.tables last earlier)

structure Members.Distinct (members : Members) : Prop where
  keys : (members.map Prod.fst).Nodup
  each : ∀ member ∈ members, member.2.Distinct

theorem Members.distinct_nil : Members.Distinct [] := ⟨List.nodup_nil, nofun⟩

namespace Node

theorem distinct_table_iff {origin : Origin} {members : Members} :
    (table origin members).Distinct ↔ Members.Distinct members := by
  constructor
  · rintro (_ | ⟨_, keys, each⟩)
    exact ⟨keys, each⟩
  · rintro ⟨keys, each⟩
    exact .table origin keys each

theorem distinct_tables_iff {last : Members} {earlier : List Members} :
    (tables last earlier).Distinct ↔
      Members.Distinct last ∧ ∀ members ∈ earlier, Members.Distinct members := by
  rw [← List.forall_mem_cons]
  constructor
  · rintro (_ | _ | ⟨keys, each⟩) members inside
    exact ⟨keys members inside, each members inside⟩
  · intro each
    exact .tables (fun members inside => (each members inside).keys)
      fun members inside => (each members inside).each

end Node

theorem tableValues_eq_map (earlier : List Members) :
    tableValues earlier = earlier.map fun members => .table (memberValues members) := by
  induction earlier with
  | nil => rfl
  | cons members earlier ih => rw [tableValues, ih, List.map_cons]

theorem unambiguous_memberValues {members : Members} (keys : (members.map Prod.fst).Nodup)
    (each : ∀ member ∈ members, member.2.value.Unambiguous) :
    (Value.table (memberValues members)).Unambiguous := by
  rw [memberValues_eq_map]
  refine .table (by simpa [Function.comp_def] using keys) fun member inside => ?_
  obtain ⟨former, listed, rfl⟩ := List.mem_map.mp inside
  exact each former listed

theorem Node.Distinct.unambiguous {node : Node} (distinct : node.Distinct) :
    node.value.Unambiguous := by
  induction distinct with
  | leaf unambiguous => exact unambiguous
  | table origin keys _ ih => exact unambiguous_memberValues keys ih
  | @tables last earlier keys _ ih =>
    refine .list rfl fun value inside => ?_
    have listed : ∃ members ∈ last :: earlier, Value.table (memberValues members) = value := by
      simpa [tableValues_eq_map, or_comm, eq_comm] using inside
    obtain ⟨members, listed, rfl⟩ := listed
    exact unambiguous_memberValues (keys members listed) (ih members listed)

theorem Members.Distinct.unambiguous {members : Members} (distinct : Members.Distinct members) :
    (Value.table (memberValues members)).Unambiguous :=
  unambiguous_memberValues distinct.keys fun member inside =>
    (distinct.each member inside).unambiguous

theorem Members.Distinct.append {members : Members} (distinct : Distinct members) {key : String}
    (new : key ∉ members.map Prod.fst) {node : Node} (inside : node.Distinct) :
    Distinct (members ++ [(key, node)]) where
  keys := by
    rw [List.map_append]
    exact List.nodup_append_comm.mp (List.nodup_cons.mpr ⟨new, distinct.keys⟩)
  each := by
    rw [List.forall_mem_append, List.forall_mem_singleton]
    exact ⟨distinct.each, inside⟩

def KeepsDistinct (change : Members → Option Members) : Prop :=
  ∀ members after, change members = some after → Members.Distinct members →
    Members.Distinct after

/-- Either the key is new and its member is the last one now, or its member is changed where it
stands. -/
theorem alter_cases {key : String} {change : Option Node → Option Node} {members after : Members}
    (altered : alter key change members = some after) :
    (∃ node, key ∉ members.map Prod.fst ∧ change none = some node ∧
      after = members ++ [(key, node)]) ∨
    ∃ front old node back, members = front ++ (key, old) :: back ∧ change (some old) = some node ∧
      after = front ++ (key, node) :: back := by
  induction members generalizing after with
  | nil =>
    obtain ⟨node, made, rfl⟩ := Option.map_eq_some_iff.mp altered
    exact .inl ⟨node, by simp, made, rfl⟩
  | cons member members ih =>
    obtain ⟨name, old⟩ := member
    rw [alter] at altered
    split at altered
    · rename_i here
      obtain ⟨node, changed, rfl⟩ := Option.map_eq_some_iff.mp altered
      subst here
      exact .inr ⟨[], old, node, members, rfl, changed, rfl⟩
    · rename_i differs
      obtain ⟨later, further, rfl⟩ := Option.map_eq_some_iff.mp altered
      rcases ih further with ⟨node, new, made, rfl⟩ | ⟨front, old, node, back, rfl, changed, rfl⟩
      · exact .inl ⟨node, by simp [Ne.symm differs, new], made, rfl⟩
      · exact .inr ⟨(name, _) :: front, old, node, back, rfl, changed, rfl⟩

theorem keepsDistinct_alter {key : String} {change : Option Node → Option Node}
    (made : ∀ node, change none = some node → node.Distinct)
    (changed : ∀ old node, change (some old) = some node → old.Distinct → node.Distinct) :
    KeepsDistinct (alter key change) := by
  intro members after altered distinct
  rcases alter_cases altered with
    ⟨node, new, first, rfl⟩ | ⟨front, old, node, back, rfl, next, rfl⟩
  · exact distinct.append new (made node first)
  · have keys := distinct.keys
    have each := distinct.each
    rw [List.forall_mem_append, List.forall_mem_cons] at each
    refine ⟨by simpa using keys, ?_⟩
    rw [List.forall_mem_append, List.forall_mem_cons]
    exact ⟨each.1, changed old node next each.2.1, each.2.2⟩

section Changes

variable {change : Members → Option Members} (keeps : KeepsDistinct change)

include keeps

theorem KeepsDistinct.table {origin : Origin} {members : Members} {node : Node}
    (changed : (change members).map (.table origin) = some node)
    (distinct : Members.Distinct members) : node.Distinct := by
  obtain ⟨after, inside, rfl⟩ := Option.map_eq_some_iff.mp changed
  exact Node.distinct_table_iff.mpr (keeps members after inside distinct)

theorem KeepsDistinct.tables {last : Members} {earlier : List Members} {node : Node}
    (changed : (change last).map (.tables · earlier) = some node)
    (distinct : (Node.tables last earlier).Distinct) : node.Distinct := by
  obtain ⟨after, inside, rfl⟩ := Option.map_eq_some_iff.mp changed
  obtain ⟨here, before⟩ := Node.distinct_tables_iff.mp distinct
  exact Node.distinct_tables_iff.mpr ⟨keeps last after inside here, before⟩

theorem KeepsDistinct.within (path : List String) : KeepsDistinct (within change path) := by
  induction path with
  | nil => exact keeps
  | cons key path ih =>
    refine keepsDistinct_alter (fun node made => ih.table made Members.distinct_nil) ?_
    intro old node changed distinct
    cases old with
    | leaf value => cases changed
    | table origin inner => exact ih.table changed (Node.distinct_table_iff.mp distinct)
    | tables last earlier => exact ih.tables changed distinct

end Changes

theorem keepsDistinct_addEntry {value : Value} (unambiguous : value.Unambiguous) (key : String)
    (path : List String) : KeepsDistinct (addEntry value key path) := by
  induction path with
  | nil =>
    refine keepsDistinct_alter ?_ ?_
    · rintro node ⟨⟩
      exact .leaf unambiguous
    · rintro old node ⟨⟩
  | cons first path ih =>
    refine keepsDistinct_alter (fun node made => ih.table made Members.distinct_nil) ?_
    intro old node changed distinct
    cases old with
    | leaf value => cases changed
    | table origin inner =>
      have inside := Node.distinct_table_iff.mp distinct
      cases origin with
      | header => cases changed
      | dottedKey => exact ih.table changed inside
      | passage =>
        obtain ⟨-, changed⟩ := Option.ite_none_left_eq_some.mp changed
        exact ih.table changed inside
    | tables last earlier =>
      obtain ⟨-, changed⟩ := Option.ite_none_left_eq_some.mp changed
      exact ih.tables changed distinct

theorem keepsDistinct_openElement (key : String) : KeepsDistinct (openElement key) := by
  refine keepsDistinct_alter ?_ ?_
  · rintro node ⟨⟩
    exact Node.distinct_tables_iff.mpr ⟨Members.distinct_nil, nofun⟩
  · intro old node changed distinct
    cases old with
    | leaf value | table origin inner => cases changed
    | tables last earlier =>
      cases changed
      obtain ⟨here, before⟩ := Node.distinct_tables_iff.mp distinct
      exact Node.distinct_tables_iff.mpr
        ⟨Members.distinct_nil, List.forall_mem_cons.mpr ⟨here, before⟩⟩

theorem keepsDistinct_openTable (key : String) : KeepsDistinct (openTable key) := by
  intro members after opened distinct
  unfold openTable at opened
  split at opened
  · rename_i absent
    cases opened
    exact distinct.append (lookup_eq_none_iff_notMem.mp absent)
      (Node.distinct_table_iff.mpr Members.distinct_nil)
  · rename_i inner found
    cases opened
    have inside := distinct.each _ ((lookup_eq_some_iff_mem distinct.keys).mp found)
    -- The table moves to the end, so without it the others are as distinct as before.
    have others : Members.Distinct (members.filter fun member => member.1 != key) :=
      ⟨distinct.keys.sublist (List.filter_sublist.map _),
        fun member listed => distinct.each member (List.mem_of_mem_filter listed)⟩
    refine others.append (by simp) (Node.distinct_table_iff.mpr ?_)
    exact Node.distinct_table_iff.mp inside
  · cases opened

def Line.Unambiguous : Line → Prop
  | .entry _ _ value => value.Unambiguous
  | .header _ _ | .arrayHeader _ _ => True

theorem Members.Distinct.build {lines : List Line} (each : ∀ line ∈ lines, line.Unambiguous)
    {path : List String} {members after : Members} (distinct : Distinct members)
    (built : Toml.build path members lines = some after) : Distinct after := by
  induction lines generalizing path members with
  | nil =>
    cases built
    exact distinct
  | cons line lines ih =>
    rw [List.forall_mem_cons] at each
    cases line with
    | header parents key =>
      obtain ⟨next, opened, built⟩ := Option.bind_eq_some_iff.mp built
      exact ih each.2 ((keepsDistinct_openTable key).within parents _ _ opened distinct) built
    | arrayHeader parents key =>
      obtain ⟨next, opened, built⟩ := Option.bind_eq_some_iff.mp built
      exact ih each.2 ((keepsDistinct_openElement key).within parents _ _ opened distinct) built
    | entry parents key value =>
      obtain ⟨next, added, built⟩ := Option.bind_eq_some_iff.mp built
      exact ih each.2 ((keepsDistinct_addEntry each.1 key parents).within path _ _ added distinct)
        built

def ReadsUnambiguous (item : List Char → Option (Value × List Char)) : Prop :=
  ∀ cs value rest, item cs = some (value, rest) → value.Unambiguous

theorem isNested_scalar? {cs : List Char} {value : Value} (read : scalar? cs = some value) :
    value.isNested = false := by
  unfold scalar? at read
  split at read
  · cases read
    rfl
  · cases read
    rfl
  · simp only [Option.orElse_eq_orElse, Option.orElse_eq_or, Option.or_eq_some_iff,
      Option.map_eq_some_iff] at read
    obtain ⟨n, -, rfl⟩ | ⟨-, ⟨x, -, rfl⟩ | ⟨-, moment, -, rfl⟩⟩ := read
    · rfl
    · rfl
    · rfl

theorem readsUnambiguous_scalar : ReadsUnambiguous scalar := by
  intro cs value rest read
  refine .scalar ?_
  simp only [scalar] at read
  split at read
  · split at read
    · obtain ⟨moment, -, same⟩ := Option.map_eq_some_iff.mp read
      cases same
      rfl
    · cases read
      rfl
  · obtain ⟨value, found, same⟩ := Option.map_eq_some_iff.mp read
    cases same
    exact isNested_scalar? found

theorem unambiguous_elements {item : List Char → Option (Value × List Char)}
    (reads : ReadsUnambiguous item) {fuel : Nat} {cs rest : List Char} {values : List Value}
    (read : elements item fuel cs = some (values, rest)) :
    ∀ value ∈ values, value.Unambiguous := by
  induction fuel generalizing cs values with
  | zero => cases read
  | succ fuel ih =>
    rw [elements] at read
    split at read
    · cases read
      nofun
    · obtain ⟨⟨value, after⟩, first, read⟩ := Option.bind_eq_some_iff.mp read
      dsimp only at read
      have here := reads _ _ _ first
      split at read
      · cases read
        simpa using here
      · obtain ⟨⟨others, last⟩, later, same⟩ := Option.bind_eq_some_iff.mp read
        cases same
        exact List.forall_mem_cons.mpr ⟨here, ih later⟩
      · cases read

theorem distinct_inlineEntries {item : List Char → Option (Value × List Char)}
    (reads : ReadsUnambiguous item) {fuel : Nat} {cs rest : List Char} {members after : Members}
    (distinct : Members.Distinct members)
    (read : inlineEntries item members fuel cs = some (after, rest)) : Members.Distinct after := by
  induction fuel generalizing cs members with
  | zero => cases read
  | succ fuel ih =>
    rw [inlineEntries] at read
    obtain ⟨⟨⟨parents, last⟩, middle⟩, -, read⟩ := Option.bind_eq_some_iff.mp read
    dsimp only at read
    split at read
    · obtain ⟨⟨value, behind⟩, found, read⟩ := Option.bind_eq_some_iff.mp read
      obtain ⟨next, added, read⟩ := Option.bind_eq_some_iff.mp read
      have longer := keepsDistinct_addEntry (reads _ _ _ found) last parents _ _ added distinct
      split at read
      · cases read
        exact longer
      · exact ih longer read
      · cases read
    · cases read

theorem readsUnambiguous_value (depth : Nat) : ReadsUnambiguous (value depth) := by
  induction depth using Nat.strongRecOn with
  | ind depth ih =>
    intro cs result rest read
    unfold value at read
    -- Either kind of bracket reads what is inside it one level deeper.
    split at read
    · split at read
      · cases read
      · rename_i deeper
        obtain ⟨⟨values, after⟩, found, same⟩ := Option.map_eq_some_iff.mp read
        cases same
        exact .list rfl (unambiguous_elements (ih deeper (Nat.lt_succ_self deeper)) found)
    · split at read
      · cases read
      · rename_i deeper
        split at read
        · cases read
          exact Members.distinct_nil.unambiguous
        · obtain ⟨⟨members, after⟩, found, same⟩ := Option.map_eq_some_iff.mp read
          cases same
          have reads := ih deeper (Nat.lt_succ_self deeper)
          exact (distinct_inlineEntries reads Members.distinct_nil found).unambiguous
    · split at read
      · cases read
        exact .scalar rfl
      · exact readsUnambiguous_scalar _ _ _ read

theorem unambiguous_line {cs rest : List Char} {next : Line}
    (read : line cs = some (next, rest)) : next.Unambiguous := by
  unfold line at read
  split at read
  · obtain ⟨⟨⟨parents, last⟩, after⟩, -, read⟩ := Option.bind_eq_some_iff.mp read
    dsimp only at read
    split at read
    · obtain ⟨behind, -, same⟩ := Option.bind_eq_some_iff.mp read
      cases same
      trivial
    · cases read
  · obtain ⟨⟨⟨parents, last⟩, after⟩, -, read⟩ := Option.bind_eq_some_iff.mp read
    dsimp only at read
    split at read
    · obtain ⟨behind, -, same⟩ := Option.bind_eq_some_iff.mp read
      cases same
      trivial
    · cases read
  · obtain ⟨⟨⟨parents, last⟩, after⟩, -, read⟩ := Option.bind_eq_some_iff.mp read
    dsimp only at read
    split at read
    · obtain ⟨⟨value, behind⟩, found, read⟩ := Option.bind_eq_some_iff.mp read
      obtain ⟨remaining, -, same⟩ := Option.bind_eq_some_iff.mp read
      cases same
      exact readsUnambiguous_value maxDepth _ _ _ found
    · cases read

theorem unambiguous_linesWithin {fuel : Nat} {cs : List Char} {lines : List Line}
    (read : linesWithin fuel cs = some lines) : ∀ line ∈ lines, line.Unambiguous := by
  induction fuel generalizing cs lines with
  | zero =>
    cases cs with
    | nil =>
      cases read
      nofun
    | cons c cs => cases read
  | succ fuel ih =>
    cases cs with
    | nil =>
      cases read
      nofun
    | cons c cs =>
      rw [linesWithin] at read
      · split at read
        · exact ih read
        · obtain ⟨⟨next, after⟩, first, read⟩ := Option.bind_eq_some_iff.mp read
          obtain ⟨others, later, same⟩ := Option.bind_eq_some_iff.mp read
          cases same
          exact List.forall_mem_cons.mpr ⟨unambiguous_line first, ih later⟩
      · simp

theorem unambiguous_read {text : String} {members : List (String × Value)}
    (read : read? text = some members) : (Value.table members).Unambiguous := by
  obtain ⟨lines, found, assembled⟩ := Option.bind_eq_some_iff.mp read
  obtain ⟨built, made, rfl⟩ := Option.map_eq_some_iff.mp assembled
  exact (Members.distinct_nil.build (unambiguous_linesWithin found) made).unambiguous

end DevicePlan.Toml
