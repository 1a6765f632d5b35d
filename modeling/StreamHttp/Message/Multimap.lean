/-!
Names with the values given to them: names in the order of their first value, and under each name
its values in the order they came. Every name occurs once and has at least one value.
-/

namespace StreamHttp

structure Multimap where
  entries : List (String × List String) := []
  deriving DecidableEq, Repr

namespace Multimap

def empty : Multimap := {}

/-- Applies a change to the values of a name; a name not present is put at the end. -/
def alter (name : String) (change : List String → List String) (fresh : String) :
    List (String × List String) → List (String × List String)
  | [] => [(name, [fresh])]
  | (other, values) :: rest =>
      if other == name then (other, change values) :: rest
      else (other, values) :: alter name change fresh rest

def add (map : Multimap) (name value : String) : Multimap :=
  ⟨alter name (· ++ [value]) value map.entries⟩

def set (map : Multimap) (name value : String) : Multimap :=
  ⟨alter name (fun _ => [value]) value map.entries⟩

def values? (map : Multimap) (name : String) : Option (List String) :=
  (map.entries.find? (·.1 == name)).map Prod.snd

def getAll (map : Multimap) (name : String) : List String := (map.values? name).getD []

def get? (map : Multimap) (name : String) : Option String := (map.getAll name).head?

def contains (map : Multimap) (name : String) : Bool := (map.values? name).isSome

/-- The map without a name; every other name keeps its place. -/
def erase (map : Multimap) (name : String) : Multimap :=
  ⟨map.entries.filter fun entry => !(entry.1 == name)⟩

def names (map : Multimap) : List String := map.entries.map Prod.fst

def pairs (map : Multimap) : List (String × String) :=
  map.entries.flatMap fun entry => entry.2.map fun value => (entry.1, value)

def isEmpty (map : Multimap) : Bool := map.entries.isEmpty

def size (map : Multimap) : Nat := map.entries.length

/-- Puts a value in front of all that a name has, and the name in front of all others. -/
def put (name value : String) (map : Multimap) : Multimap :=
  ⟨(name, value :: map.getAll name) :: (map.erase name).entries⟩

def ofPairs (pairs : List (String × String)) : Multimap :=
  pairs.foldr (fun pair map => map.put pair.1 pair.2) empty

theorem mem_names_alter {name other fresh : String} {change : List String → List String}
    {entries : List (String × List String)}
    (member : other ∈ (alter name change fresh entries).map Prod.fst) :
    other = name ∨ other ∈ entries.map Prod.fst := by
  induction entries with
  | nil => exact .inl (List.mem_singleton.1 member)
  | cons entry rest induction =>
      simp only [alter] at member
      split at member
      · exact .inr member
      · rcases List.mem_cons.1 member with rfl | member
        · exact .inr List.mem_cons_self
        · exact (induction member).imp_right (List.mem_cons_of_mem _)

theorem mem_names_erase {map : Multimap} {name other : String}
    (member : other ∈ (map.erase name).names) : other ∈ map.names := by
  obtain ⟨entry, kept, rfl⟩ := List.mem_map.1 member
  exact List.mem_map_of_mem (List.mem_filter.1 kept).1

theorem names_of_pairs {pairs : List (String × String)} {name : String}
    (member : name ∈ (ofPairs pairs).names) : name ∈ pairs.map Prod.fst := by
  induction pairs with
  | nil => exact absurd member List.not_mem_nil
  | cons pair rest induction =>
      rcases List.mem_cons.1 member with rfl | member
      · exact List.mem_cons_self
      · exact List.mem_cons_of_mem _ (induction (mem_names_erase member))

theorem find_alter_same (name fresh : String) (change : List String → List String)
    (entries : List (String × List String)) :
    ((alter name change fresh entries).find? (·.1 == name)).map Prod.snd =
      some (((entries.find? (·.1 == name)).map fun entry => change entry.2).getD [fresh]) := by
  induction entries with
  | nil => simp [alter]
  | cons entry rest induction =>
      simp only [alter]
      split
      next equal => simp [equal]
      next different => simp_all

theorem find_alter_other {name other : String} (different : name ≠ other) (fresh : String)
    (change : List String → List String) (entries : List (String × List String)) :
    (alter name change fresh entries).find? (·.1 == other) = entries.find? (·.1 == other) := by
  induction entries with
  | nil => simp [alter, different]
  | cons entry rest induction =>
      simp only [alter]
      split
      next equal =>
        have named : entry.1 = name := by simpa using equal
        simp [named, different]
      next => simp [List.find?_cons, induction]

theorem get_all_add_same (map : Multimap) (name value : String) :
    (map.add name value).getAll name = map.getAll name ++ [value] := by
  simp only [getAll, values?, add, find_alter_same]
  cases map.entries.find? (·.1 == name) <;> simp

theorem get_all_set_same (map : Multimap) (name value : String) :
    (map.set name value).getAll name = [value] := by
  simp only [getAll, values?, set, find_alter_same]
  cases map.entries.find? (·.1 == name) <;> simp

theorem get_all_add_other {name other : String} (different : name ≠ other) (map : Multimap)
    (value : String) : (map.add name value).getAll other = map.getAll other := by
  simp only [getAll, values?, add, find_alter_other different]

theorem get_all_set_other {name other : String} (different : name ≠ other) (map : Multimap)
    (value : String) : (map.set name value).getAll other = map.getAll other := by
  simp only [getAll, values?, set, find_alter_other different]

theorem filter_alter_same (name fresh : String) (change : List String → List String)
    (entries : List (String × List String)) :
    (alter name change fresh entries).filter (fun entry => !(entry.1 == name)) =
      entries.filter fun entry => !(entry.1 == name) := by
  induction entries with
  | nil => simp [alter]
  | cons entry rest induction =>
      simp only [alter]
      split
      next equal => simp [equal]
      next different => simp [different, induction]

theorem filter_alter_other {name other : String} (different : name ≠ other) (fresh : String)
    (change : List String → List String) (entries : List (String × List String)) :
    (alter name change fresh entries).filter (fun entry => !(entry.1 == other)) =
      alter name change fresh (entries.filter fun entry => !(entry.1 == other)) := by
  induction entries with
  | nil => simp [alter, different]
  | cons entry rest induction =>
      simp only [alter]
      split
      next equal =>
        have named : entry.1 = name := by simpa using equal
        simp [named, different, alter]
      next unequal =>
        by_cases dropped : entry.1 = other
        · simp [dropped, induction]
        · have kept : entry.1 ≠ name := by simpa using unequal
          simp [dropped, kept, alter, induction]

theorem add_put (name value other next : String) (map : Multimap) :
    (map.put name value).add other next = (map.add other next).put name value := by
  by_cases same : other = name
  · subst same
    simp only [put, add, alter, erase, getAll, values?, find_alter_same, filter_alter_same,
      beq_self_eq_true, if_true]
    cases map.entries.find? (·.1 == other) <;> simp
  · have different : name ≠ other := fun equal => same equal.symm
    simp [put, add, alter, erase, different, getAll, values?, find_alter_other same,
      filter_alter_other same]

theorem of_pairs_append (pairs : List (String × String)) (name value : String) :
    ofPairs (pairs ++ [(name, value)]) = (ofPairs pairs).add name value := by
  induction pairs with
  | nil => rfl
  | cons pair rest induction =>
      simp only [List.cons_append, ofPairs, List.foldr_cons] at induction ⊢
      rw [induction, add_put]

end Multimap

end StreamHttp
