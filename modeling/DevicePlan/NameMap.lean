namespace DevicePlan

def insertByName {α : Type} (name : String) (value : α) :
    List (String × α) → List (String × α)
  | [] => [(name, value)]
  | entry :: rest =>
    if name < entry.1 then (name, value) :: entry :: rest
    else if name = entry.1 then (name, value) :: rest
    else entry :: insertByName name value rest

def AscendsByName {α : Type} (entries : List (String × α)) : Prop :=
  entries.Pairwise fun a b => a.1 < b.1

theorem mem_insertByName {α : Type} {name : String} {value : α} {entries : List (String × α)}
    {entry : String × α} (h : entry ∈ insertByName name value entries) :
    entry = (name, value) ∨ entry ∈ entries := by
  induction entries with
  | nil => simpa [insertByName] using h
  | cons first rest ih =>
    unfold insertByName at h
    split at h
    · simpa using h
    · split at h
      · simp only [List.mem_cons] at h ⊢
        exact h.imp_right .inr
      · simp only [List.mem_cons] at h ⊢
        rcases h with h | h
        · exact .inr (.inl h)
        · exact (ih h).imp_right .inr

theorem ascendsByName_insertByName {α : Type} (name : String) (value : α)
    {entries : List (String × α)} (h : AscendsByName entries) :
    AscendsByName (insertByName name value entries) := by
  induction entries with
  | nil => simp [insertByName, AscendsByName]
  | cons first rest ih =>
    obtain ⟨below, ascends⟩ := List.pairwise_cons.mp h
    unfold insertByName
    split
    · rename_i less
      refine List.pairwise_cons.mpr ⟨fun entry member => ?_, h⟩
      rcases List.mem_cons.mp member with rfl | member
      · exact less
      · exact String.lt_trans less (below entry member)
    · split
      · rename_i equal
        exact List.pairwise_cons.mpr ⟨fun entry member => equal ▸ below entry member, ascends⟩
      · rename_i notLess notEqual
        refine List.pairwise_cons.mpr ⟨fun entry member => ?_, ih ascends⟩
        rcases mem_insertByName member with rfl | member
        · exact Std.lt_of_le_of_ne (Std.not_lt.mp notLess) (Ne.symm notEqual)
        · exact below entry member

theorem insertByName_last {α : Type} {name : String} {entries : List (String × α)}
    (above : ∀ entry ∈ entries, entry.1 < name) (value : α) :
    insertByName name value entries = entries ++ [(name, value)] := by
  induction entries with
  | nil => rfl
  | cons first rest ih =>
    have less := above first List.mem_cons_self
    have different : name ≠ first.1 := by
      rintro rfl
      exact String.lt_irrefl _ less
    rw [insertByName, if_neg (String.lt_asymm less), if_neg different,
      ih fun entry member => above entry (List.mem_cons_of_mem first member)]
    rfl

theorem lookup_cons_eq_ite {α β : Type} [DecidableEq α] [BEq α] [LawfulBEq α] (entry : α × β)
    (entries : List (α × β)) (key : α) : (entry :: entries).lookup key =
      if key = entry.1 then some entry.2 else entries.lookup key := by
  obtain ⟨other, value⟩ := entry
  by_cases same : key = other
  · simp [same]
  · simp [List.lookup_cons, same, beq_false_of_ne same]

theorem lookup_insertByName {α : Type} (name : String) (value : α)
    (entries : List (String × α)) (other : String) :
    (insertByName name value entries).lookup other =
      if other = name then some value else entries.lookup other := by
  induction entries with
  | nil => rw [insertByName, lookup_cons_eq_ite]
  | cons first rest ih =>
    unfold insertByName
    split
    · rw [lookup_cons_eq_ite]
    · split
      · rename_i equal
        rw [lookup_cons_eq_ite, lookup_cons_eq_ite, equal]
        by_cases same : other = first.1 <;> simp [same]
      · rename_i different
        rw [lookup_cons_eq_ite, lookup_cons_eq_ite, ih]
        by_cases here : other = first.1
        · simp [here, Ne.symm different]
        · simp [here]

theorem lookup_eq_some_iff_mem {α β : Type} [BEq α] [LawfulBEq α] {entries : List (α × β)}
    (distinct : (entries.map Prod.fst).Nodup) {key : α} {value : β} :
    entries.lookup key = some value ↔ (key, value) ∈ entries := by
  rw [List.lookup_eq_some_iff]
  constructor
  · rintro ⟨before, after, rfl, -⟩
    simp
  · intro member
    obtain ⟨before, after, rfl⟩ := List.append_of_mem member
    refine ⟨before, after, rfl, fun entry earlier => ?_⟩
    rw [List.map_append, List.nodup_append] at distinct
    have different := distinct.2.2 entry.1 (List.mem_map_of_mem earlier) key (by simp)
    simpa using Ne.symm different

theorem lookup_eq_none_iff_notMem {α β : Type} [DecidableEq α] {entries : List (α × β)} {key : α} :
    entries.lookup key = none ↔ key ∉ entries.map Prod.fst := by
  induction entries with
  | nil => simp
  | cons entry entries ih =>
    rw [lookup_cons_eq_ite, List.map_cons, List.mem_cons, not_or]
    by_cases same : key = entry.1 <;> simp [same, ih]

structure NameMap (α : Type) where
  entries : List (String × α)
  ascends : AscendsByName entries
deriving DecidableEq

namespace NameMap

variable {α : Type}

def empty : NameMap α := ⟨[], List.Pairwise.nil⟩

instance : Inhabited (NameMap α) := ⟨empty⟩

def insert (map : NameMap α) (name : String) (value : α) : NameMap α :=
  ⟨insertByName name value map.entries, ascendsByName_insertByName name value map.ascends⟩

/-- The map of the given entries; of two entries of one name the later is kept. -/
def ofList (entries : List (String × α)) : NameMap α :=
  entries.foldl (fun map entry => map.insert entry.1 entry.2) empty

def isEmpty (map : NameMap α) : Bool := map.entries.isEmpty

def get? (map : NameMap α) (name : String) : Option α := map.entries.lookup name

theorem nodup_names (map : NameMap α) : (map.entries.map Prod.fst).Nodup := by
  rw [List.Nodup, List.pairwise_map]
  refine map.ascends.imp ?_
  intro a b less same
  rw [same] at less
  exact String.lt_irrefl b.1 less

theorem eq_of_entries {first second : NameMap α} (same : first.entries = second.entries) :
    first = second := by
  cases first
  cases second
  cases same
  rfl

theorem entries_foldl_insert (entries : List (String × α)) (map : NameMap α)
    (ascends : AscendsByName (map.entries ++ entries)) :
    (entries.foldl (fun map entry => map.insert entry.1 entry.2) map).entries =
      map.entries ++ entries := by
  induction entries generalizing map with
  | nil => simp
  | cons entry entries ih =>
    have above : ∀ other ∈ map.entries, other.1 < entry.1 := by
      intro other member
      exact (List.pairwise_append.mp ascends).2.2 other member entry List.mem_cons_self
    have inserted : (map.insert entry.1 entry.2).entries = map.entries ++ [entry] :=
      insertByName_last above entry.2
    rw [List.foldl_cons, ih]
    · simp [inserted]
    · simpa [inserted] using ascends

theorem ofList_entries (map : NameMap α) : ofList map.entries = map := by
  apply eq_of_entries
  exact entries_foldl_insert map.entries empty map.ascends

theorem get?_insert (map : NameMap α) (name : String) (value : α) (other : String) :
    (map.insert name value).get? other = if other = name then some value else map.get? other :=
  lookup_insertByName name value map.entries other

theorem get?_foldl_insert (entries : List (String × α)) (map : NameMap α) (name : String) :
    (entries.foldl (fun map entry => map.insert entry.1 entry.2) map).get? name =
      (entries.reverse.lookup name).or (map.get? name) := by
  induction entries generalizing map with
  | nil => rfl
  | cons entry entries ih =>
    rw [List.foldl_cons, ih, get?_insert, List.reverse_cons, List.lookup_append, lookup_cons_eq_ite,
      List.lookup_nil, Option.or_assoc]
    by_cases same : name = entry.1 <;> simp [same]

theorem get?_ofList (entries : List (String × α)) (name : String) :
    (ofList entries).get? name = entries.reverse.lookup name := by
  rw [ofList, get?_foldl_insert, get?, empty, List.lookup_nil, Option.or_none]

theorem get?_eq_some_iff {map : NameMap α} {name : String} {value : α} :
    map.get? name = some value ↔ (name, value) ∈ map.entries :=
  lookup_eq_some_iff_mem map.nodup_names

end NameMap

end DevicePlan
