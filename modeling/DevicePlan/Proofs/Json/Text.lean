import DevicePlan.Proofs.Json.Reader
import Mathlib.Data.List.Forall2

namespace DevicePlan.Json

inductive Plain : Value → Prop where
  | null : Plain .null
  | boolean (value : Bool) : Plain (.boolean value)
  | integer {value : Int} (fits : Fits value) : Plain (.integer value)
  | string (value : String) : Plain (.string value)
  | array {elements : List Value} (each : ∀ value ∈ elements, Plain value) :
    Plain (.array elements)
  | table {members : List (String × Value)} (each : ∀ member ∈ members, Plain member.2) :
    Plain (.table members)

def enclosed (blanks ending : List Char) (texts : List (List Char)) : List Char :=
  if texts.isEmpty then [] else between blanks ending texts

section

variable {blanks ending colon : List Char} (blank : ∀ c ∈ blanks, isBlank c = true)
  (blankEnd : ∀ c ∈ ending, isBlank c = true) (blankColon : ∀ c ∈ colon, isBlank c = true)
  {write : Value → String}

include blank blankEnd

theorem reads_elements {elements : List Value}
    (each : ∀ value ∈ elements, Reads value (write value).toList) :
    Reads (.array elements) ('[' :: (enclosed blanks ending
      (elements.map fun value => (write value).toList) ++ [']'])) := by
  have parts : List.Forall₂ Reads elements (elements.map fun value => (write value).toList) := by
    simpa only [List.forall₂_map_right_iff, List.forall₂_same] using each
  cases elements with
  | nil => exact reads_emptyArray
  | cons value elements => exact reads_array blank blankEnd parts (List.cons_ne_nil value elements)

include blankColon in
theorem reads_members {members : List (String × Value)}
    (each : ∀ member ∈ members, Reads member.2 (write member.2).toList) :
    Reads (.table members) ('\x7b' :: (enclosed blanks ending
      (members.map fun member => memberText colon member.1 (write member.2).toList) ++
        ['\x7d'])) := by
  have parts : List.Forall₂ (ReadsMember colon) members
      (members.map fun member => memberText colon member.1 (write member.2).toList) := by
    simp only [List.forall₂_map_right_iff, List.forall₂_same]
    exact fun member inside => ⟨_, each member inside, rfl⟩
  cases members with
  | nil => exact reads_emptyTable
  | cons member members =>
    exact reads_table blank blankEnd blankColon parts (List.cons_ne_nil member members)

end

theorem compactElements_eq_map (elements : List Value) :
    compactElements elements = elements.map compact := by
  induction elements with
  | nil => rfl
  | cons value elements ih => rw [compactElements, ih, List.map_cons]

theorem compactMembers_eq_map (members : List (String × Value)) :
    compactMembers members =
      members.map fun member => quote member.1 ++ ":" ++ compact member.2 := by
  induction members with
  | nil => rfl
  | cons member members ih => rw [compactMembers, ih, List.map_cons]

theorem prettyElements_eq_map (depth : Nat) (elements : List Value) :
    prettyElements depth elements = elements.map (prettyAt depth) := by
  induction elements with
  | nil => rfl
  | cons value elements ih => rw [prettyElements, ih, List.map_cons]

theorem prettyMembers_eq_map (depth : Nat) (members : List (String × Value)) :
    prettyMembers depth members =
      members.map fun member => quote member.1 ++ ": " ++ prettyAt depth member.2 := by
  induction members with
  | nil => rfl
  | cons member members ih => rw [prettyMembers, ih, List.map_cons]

theorem toList_commas (parts : List String) :
    (",".intercalate parts).toList = enclosed [] [] (parts.map String.toList) := by
  cases parts <;> simp [enclosed, between, String.toList_intercalate]

theorem toList_compact_array (elements : List Value) :
    (compact (.array elements)).toList = '[' :: (enclosed [] []
      (elements.map fun value => (compact value).toList) ++ [']']) := by
  simp only [compact, compactElements_eq_map, String.toList_append, toList_commas, List.map_map]
  rfl

theorem toList_compact_table (members : List (String × Value)) :
    (compact (.table members)).toList = '\x7b' :: (enclosed [] []
      (members.map fun member => memberText [] member.1 (compact member.2).toList) ++
        ['\x7d']) := by
  have texts : (members.map fun member => quote member.1 ++ ":" ++ compact member.2).map
      String.toList = members.map fun member =>
        memberText [] member.1 (compact member.2).toList := by
    simp [memberText]
  simp only [compact, compactMembers_eq_map, String.toList_append, toList_commas, texts]
  rfl

theorem toList_block (opening closing : String) (depth : Nat) (lines : List String) :
    (block opening closing depth lines).toList =
      opening.toList ++ (enclosed (newLine depth).toList (newLine (depth - 1)).toList
        (lines.map String.toList) ++ closing.toList) := by
  cases lines <;> simp [block, enclosed, between, String.toList_intercalate]

theorem isBlank_newLine (depth : Nat) : ∀ c ∈ (newLine depth).toList, isBlank c = true := by
  simp [newLine, isBlank]

theorem toList_prettyAt_array (depth : Nat) (elements : List Value) :
    (prettyAt depth (.array elements)).toList = '[' ::
      (enclosed (newLine (depth + 1)).toList (newLine depth).toList
        (elements.map fun value => (prettyAt (depth + 1) value).toList) ++ [']']) := by
  rw [prettyAt, toList_block, prettyElements_eq_map, List.map_map]
  rfl

theorem toList_prettyAt_table (depth : Nat) (members : List (String × Value)) :
    (prettyAt depth (.table members)).toList = '\x7b' ::
      (enclosed (newLine (depth + 1)).toList (newLine depth).toList
        (members.map fun member => memberText [' '] member.1
          (prettyAt (depth + 1) member.2).toList) ++ ['\x7d']) := by
  have texts : (members.map fun member =>
      quote member.1 ++ ": " ++ prettyAt (depth + 1) member.2).map String.toList =
      members.map fun member => memberText [' '] member.1
        (prettyAt (depth + 1) member.2).toList := by
    simp [memberText]
  rw [prettyAt, toList_block, prettyMembers_eq_map, texts]
  rfl

theorem reads_null : Reads .null "null".toList where
  start := ⟨'n', _, rfl, rfl, by simp⟩
  value := by
    intro depth _ rest _
    cases depth <;> rfl

theorem reads_boolean (value : Bool) :
    Reads (.boolean value) (scalar (.boolean value)).toList where
  start := by
    cases value with
    | false => exact ⟨'f', _, rfl, rfl, by simp⟩
    | true => exact ⟨'t', _, rfl, rfl, by simp⟩
  value := by
    intro depth _ rest _
    cases value <;> cases depth <;> rfl

theorem reads_prettyAt {v : Value} (plain : Plain v) (depth : Nat) :
    Reads v (prettyAt depth v).toList := by
  induction plain generalizing depth with
  | null => exact reads_null
  | boolean value => exact reads_boolean value
  | integer fits => exact reads_integer fits
  | string value => exact reads_string value
  | array each ih =>
    rw [toList_prettyAt_array]
    exact reads_elements (isBlank_newLine _) (isBlank_newLine _) fun value member =>
      ih value member (depth + 1)
  | table each ih =>
    have colon : ∀ c ∈ [' '], isBlank c = true := by simp [isBlank]
    rw [toList_prettyAt_table]
    exact reads_members (isBlank_newLine _) (isBlank_newLine _) colon fun member inside =>
      ih member inside (depth + 1)

theorem reads_compact {v : Value} (plain : Plain v) : Reads v (compact v).toList := by
  have noBlanks : ∀ c ∈ ([] : List Char), isBlank c = true := by simp
  induction plain with
  | null => exact reads_null
  | boolean value => exact reads_boolean value
  | integer fits => exact reads_integer fits
  | string value => exact reads_string value
  | array each ih =>
    rw [toList_compact_array]
    exact reads_elements noBlanks noBlanks ih
  | table each ih =>
    rw [toList_compact_table]
    exact reads_members noBlanks noBlanks noBlanks ih

theorem read?_pretty {v : Value} (plain : Plain v) {ending : String}
    (blankEnd : ∀ c ∈ ending.toList, isBlank c = true) : read? (pretty v ++ ending) = some v := by
  exact read?_append (reads_prettyAt plain 0) blankEnd

theorem read?_compact {v : Value} (plain : Plain v) : read? (compact v) = some v := by
  have read := @read?_append v (compact v) "" (reads_compact plain) (by simp)
  rwa [String.append_empty] at read

end DevicePlan.Json
