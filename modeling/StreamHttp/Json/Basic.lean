/-!
JSON values. Whole numbers of up to 64 bits are kept exactly, all others as floating point. The
members of an object are in ascending order of their names, and a name occurs once.
-/

namespace StreamHttp

inductive Json where
  | null
  | bool (value : Bool)
  | integer (value : Int)
  | float (value : Float)
  | string (value : String)
  | array (items : List Json)
  | object (members : List (String × Json))

namespace Json

/-- Adds a member at its place in the order of names, or replaces the one of the same name. -/
def insertMember (name : String) (value : Json) : List (String × Json) → List (String × Json)
  | [] => [(name, value)]
  | (other, held) :: rest =>
      if name == other then (name, value) :: rest
      else if name < other then (name, value) :: (other, held) :: rest
      else (other, held) :: insertMember name value rest

def findMember (name : String) : List (String × Json) → Option Json
  | [] => none
  | (other, held) :: rest => if name == other then some held else findMember name rest

theorem find_member_insert_same (name : String) (value : Json)
    (members : List (String × Json)) :
    findMember name (insertMember name value members) = some value := by
  induction members with
  | nil => simp [insertMember, findMember]
  | cons member rest induction =>
      simp only [insertMember]
      split
      · simp [findMember]
      · split
        · simp [findMember]
        · simp_all [findMember]

/-- The object with the given members, the last of a repeated name. -/
def ofMembers (members : List (String × Json)) : Json :=
  .object (members.foldl (fun object member => insertMember member.1 member.2 object) [])

def member? (name : String) : Json → Option Json
  | .object members => findMember name members
  | _ => none

end Json

end StreamHttp
