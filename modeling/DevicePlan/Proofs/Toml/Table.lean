import DevicePlan.Proofs.Toml.Document

/-!
# The tables of a document

What the lines of a table add to the table that is being built. A header with a new name opens a
table at the end of the table that its path leads to, and the entries below it fill it
(`build_section`). `LeadsTo` separates that table from what stands around it: every change at the
end of the path is the same change of the table alone. A document of tables that may hold tables
themselves is read as those tables (`read?_write`).
-/

namespace DevicePlan.Toml

theorem alter_append {key : String} {members : Members} (new : key ∉ members.map Prod.fst)
    (change : Option Node → Option Node) (rest : Members) :
    alter key change (members ++ rest) = (alter key change rest).map (members ++ ·) := by
  induction members with
  | nil => simp
  | cons member members ih =>
    obtain ⟨differs, later⟩ := List.ne_and_not_mem_of_not_mem_cons new
    rw [List.cons_append, alter, if_neg (Ne.symm differs), ih later, Option.map_map]
    rfl

theorem alter_new {key : String} {members : Members} (new : key ∉ members.map Prod.fst)
    (change : Option Node → Option Node) :
    alter key change members = (change none).map fun node => members ++ [(key, node)] := by
  have ended := alter_append new change []
  rw [List.append_nil, alter, Option.map_map] at ended
  exact ended

theorem alter_last {key : String} {members : Members} (new : key ∉ members.map Prod.fst)
    (change : Option Node → Option Node) (node : Node) :
    alter key change (members ++ [(key, node)]) =
      (change (some node)).map fun node => members ++ [(key, node)] := by
  rw [alter_append new, alter, if_pos rfl, Option.map_map]
  rfl

theorem within_append (change : Members → Option Members) (first second : List String)
    (members : Members) :
    within change (first ++ second) members = within (within change second) first members := by
  induction first generalizing members with
  | nil => rfl
  | cons key first ih => simp only [List.cons_append, within, ih]

/-- The path leads to the members that the frame surrounds. -/
def LeadsTo (path : List String) (frame : Members → Members) : Prop :=
  ∀ change inner, within change path (frame inner) = (change inner).map frame

theorem leadsTo_nil : LeadsTo [] id := by
  intro change inner
  simp [within]

theorem LeadsTo.last {path : List String} {frame : Members → Members} (leads : LeadsTo path frame)
    {name : String} {members : Members} (new : name ∉ members.map Prod.fst) (origin : Origin) :
    LeadsTo (path ++ [name]) fun inner => frame (members ++ [(name, .table origin inner)]) := by
  intro change inner
  rw [within_append, leads, within, alter_last new]
  simp only [within, Option.map_map]
  rfl

theorem addEntry_new {key : String} {members : Members} (new : key ∉ members.map Prod.fst)
    (value : Value) : addEntry value key [] members = some (members ++ [(key, .leaf value)]) := by
  rw [addEntry, alter_new new]
  rfl

theorem openTable_new {key : String} {members : Members} (new : key ∉ members.map Prod.fst) :
    openTable key members = some (members ++ [(key, .table .header [])]) := by
  rw [openTable, lookup_eq_none_iff_notMem.mpr new]

def leaves (entries : List (String × Scalar)) : Members :=
  entries.map fun (key, scalar) => (key, .leaf scalar.value)

theorem keys_leaves (entries : List (String × Scalar)) :
    (leaves entries).map Prod.fst = entries.map Prod.fst := by
  simp [leaves]

theorem build_entries {path : List String} {frame : Members → Members}
    (leads : LeadsTo path frame) {entries : List (String × Scalar)} {members : Members}
    (distinct : (members.map Prod.fst ++ entries.map Prod.fst).Nodup) (rest : List Line) :
    build path (frame members)
      (entries.map (fun (key, scalar) => .entry [] key scalar.value) ++ rest) =
    build path (frame (members ++ leaves entries)) rest := by
  induction entries generalizing members with
  | nil => simp [leaves]
  | cons entry entries ih =>
    obtain ⟨key, scalar⟩ := entry
    have new : key ∉ members.map Prod.fst := by
      intro member
      exact (List.nodup_append.mp distinct).2.2 key member key (by simp) rfl
    have added : within (addEntry scalar.value key []) path (frame members) =
        some (frame (members ++ [(key, .leaf scalar.value)])) := by
      rw [leads, addEntry_new new]
      rfl
    have later : ((members ++ [(key, Node.leaf scalar.value)]).map Prod.fst ++
        entries.map Prod.fst).Nodup := by
      simpa using distinct
    rw [List.map_cons, List.cons_append, build, added]
    simp only [Option.bind_eq_bind, Option.bind_some]
    rw [ih later, List.append_assoc]
    rfl

theorem build_section (part : Section) {frame : Members → Members}
    (leads : LeadsTo part.parents frame) {members : Members}
    (new : part.name ∉ members.map Prod.fst) (distinct : (part.entries.map Prod.fst).Nodup)
    (path : List String) (rest : List Line) :
    build path (frame members) (part.lines ++ rest) =
      build (part.parents ++ [part.name])
        (frame (members ++ [(part.name, .table .header (leaves part.entries))])) rest := by
  have opened : within (openTable part.name) part.parents (frame members) =
      some (frame (members ++ [(part.name, .table .header [])])) := by
    rw [leads, openTable_new new]
    rfl
  have distinct : (([] : Members).map Prod.fst ++ part.entries.map Prod.fst).Nodup := distinct
  rw [Section.lines, List.cons_append, build, opened]
  exact build_entries (leads.last new .header) distinct rest

structure Table where
  name : String
  entries : List (String × Scalar)
  inner : List (String × List (String × Scalar))

def values (entries : List (String × Scalar)) : List (String × Value) :=
  entries.map fun (key, scalar) => (key, scalar.value)

theorem keys_values (entries : List (String × Scalar)) :
    (values entries).map Prod.fst = entries.map Prod.fst := by
  simp [values]

namespace Table

def sections (table : Table) : List Section :=
  ⟨[], table.name, table.entries⟩ ::
    table.inner.map fun (name, entries) => ⟨[table.name], name, entries⟩

def nodes (table : Table) : Members :=
  leaves table.entries ++
    table.inner.map fun (name, entries) => (name, .table .header (leaves entries))

def members (table : Table) : List (String × Value) :=
  values table.entries ++ table.inner.map fun (name, entries) => (name, .table (values entries))

structure Distinct (table : Table) : Prop where
  keys : (table.entries.map Prod.fst ++ table.inner.map Prod.fst).Nodup
  inner : ∀ part ∈ table.inner, (part.2.map Prod.fst).Nodup

theorem Distinct.nodup_members {table : Table} (distinct : table.Distinct) :
    (table.members.map Prod.fst).Nodup := by
  have keys := distinct.keys
  rw [← keys_values] at keys
  simpa [members, Function.comp_def] using keys

end Table

theorem build_inner {frame : Members → Members} {name : String} (leads : LeadsTo [name] frame)
    {inner : List (String × List (String × Scalar))} {members : Members}
    (distinct : (members.map Prod.fst ++ inner.map Prod.fst).Nodup)
    (each : ∀ part ∈ inner, (part.2.map Prod.fst).Nodup) (path : List String)
    (rest : List Line) :
    ∃ opened, build path (frame members) ((inner.map fun (inside, entries) =>
        (⟨[name], inside, entries⟩ : Section)).flatMap Section.lines ++ rest) =
      build opened (frame (members ++
        inner.map fun (inside, entries) => (inside, .table .header (leaves entries)))) rest := by
  induction inner generalizing members path with
  | nil => exact ⟨path, by simp⟩
  | cons part inner ih =>
    obtain ⟨inside, entries⟩ := part
    have new : inside ∉ members.map Prod.fst := by
      intro member
      exact (List.nodup_append.mp distinct).2.2 inside member inside (by simp) rfl
    have here := each (inside, entries) List.mem_cons_self
    have others : ∀ part ∈ inner, (part.2.map Prod.fst).Nodup := fun part member =>
      each part (List.mem_cons_of_mem _ member)
    have keys : ((members ++ [(inside, Node.table .header (leaves entries))]).map Prod.fst ++
        inner.map Prod.fst).Nodup := by
      simpa using distinct
    obtain ⟨opened, built⟩ := ih keys others ([name] ++ [inside])
    refine ⟨opened, ?_⟩
    rw [List.map_cons, List.flatMap_cons, List.append_assoc,
      build_section ⟨[name], inside, entries⟩ leads new here, built]
    simp

theorem build_table {table : Table} (distinct : table.Distinct) {members : Members}
    (new : table.name ∉ members.map Prod.fst) (path : List String) (rest : List Line) :
    ∃ opened, build path members (table.sections.flatMap Section.lines ++ rest) =
      build opened (members ++ [(table.name, .table .header table.nodes)]) rest := by
  have own : (table.entries.map Prod.fst).Nodup := (List.nodup_append.mp distinct.keys).1
  have keys : ((leaves table.entries).map Prod.fst ++ table.inner.map Prod.fst).Nodup := by
    rw [keys_leaves]
    exact distinct.keys
  have leads := leadsTo_nil.last new .header
  obtain ⟨opened, built⟩ := build_inner leads keys distinct.inner [table.name] rest
  refine ⟨opened, ?_⟩
  rw [Table.sections, List.flatMap_cons, List.append_assoc]
  exact (build_section ⟨[], table.name, table.entries⟩ leadsTo_nil new own path _).trans built

theorem build_tables {tables : List Table} (distinct : ∀ table ∈ tables, table.Distinct)
    {members : Members} (new : (members.map Prod.fst ++ tables.map Table.name).Nodup)
    (path : List String) :
    build path members ((tables.flatMap Table.sections).flatMap Section.lines) =
      some (members ++ tables.map fun table => (table.name, .table .header table.nodes)) := by
  induction tables generalizing members path with
  | nil => simp [build]
  | cons table tables ih =>
    have here : table.name ∉ members.map Prod.fst := by
      intro member
      exact (List.nodup_append.mp new).2.2 table.name member table.name (by simp) rfl
    obtain ⟨opened, built⟩ := build_table (distinct table List.mem_cons_self) here path
      ((tables.flatMap Table.sections).flatMap Section.lines)
    rw [List.flatMap_cons, List.flatMap_append, built, ih]
    · simp
    · exact fun other member => distinct other (List.mem_cons_of_mem table member)
    · simpa using new

theorem memberValues_eq_map (members : Members) :
    memberValues members = members.map fun (key, node) => (key, node.value) := by
  induction members with
  | nil => rfl
  | cons member members ih =>
    rw [List.map_cons, ← ih, memberValues]

theorem memberValues_nodes (table : Table) : memberValues table.nodes = table.members := by
  simp [memberValues_eq_map, Table.nodes, Table.members, leaves, values, Node.value,
    Function.comp_def]

theorem shallow_sections (tables : List Table) :
    ∀ part ∈ tables.flatMap Table.sections, part.parents.length < maxDepth := by
  intro part member
  obtain ⟨table, -, inside⟩ := List.mem_flatMap.mp member
  simp only [Table.sections, List.mem_cons, List.mem_map] at inside
  rcases inside with rfl | ⟨inner, -, rfl⟩
  · simp [maxDepth]
  · simp [maxDepth]

theorem read?_write {tables : List Table} (names : (tables.map Table.name).Nodup)
    (distinct : ∀ table ∈ tables, table.Distinct) :
    read? (write (tables.flatMap Table.sections)) =
      some (tables.map fun table => (table.name, .table table.members)) := by
  have new : (([] : Members).map Prod.fst ++ tables.map Table.name).Nodup := names
  have built := build_tables distinct new []
  rw [read?, lines?_write (shallow_sections tables), Option.bind_some, assemble?, built,
    Option.map_some]
  simp [memberValues_eq_map, Node.value, ← memberValues_nodes]

end DevicePlan.Toml
