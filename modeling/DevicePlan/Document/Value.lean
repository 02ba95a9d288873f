import DevicePlan.Document.Moment
import DevicePlan.NameMap

namespace DevicePlan

inductive Value where
  | null
  | boolean (value : Bool)
  | integer (value : Int)
  | float (value : Float)
  | string (value : String)
  | moment (value : Moment)
  | array (elements : List Value)
  /-- An array of tables, each of them written under a header of its own. -/
  | tables (elements : List Value)
  | table (members : List (String × Value))

namespace Value

mutual

/-- The value with the members of every table in ascending order of their keys; of two members of
one key the later is kept. -/
def sorted : Value → Value
  | array elements => array (sortedElements elements)
  | tables elements => tables (sortedElements elements)
  | table members => table (sortedMembers [] members)
  | value => value

def sortedElements : List Value → List Value
  | [] => []
  | value :: rest => sorted value :: sortedElements rest

def sortedMembers (done : List (String × Value)) :
    List (String × Value) → List (String × Value)
  | [] => done
  | (key, value) :: rest => sortedMembers (insertByName key (sorted value) done) rest

end

end Value

end DevicePlan
