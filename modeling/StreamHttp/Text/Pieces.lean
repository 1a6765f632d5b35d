/-!
Cutting a list at a separator. Joining the pieces with the separator gives the list back, so no
element is lost, and no piece holds a separator.
-/

namespace StreamHttp

variable {α : Type} [BEq α]

def pieces (separator : α) : List α → List (List α)
  | [] => [[]]
  | item :: rest =>
      if item == separator then [] :: pieces separator rest
      else
        match pieces separator rest with
        | [] => [[item]]
        | first :: others => (item :: first) :: others

theorem pieces_ne_nil (separator : α) (list : List α) : pieces separator list ≠ [] := by
  cases list with
  | nil => simp [pieces]
  | cons item rest =>
      simp only [pieces]
      split
      · simp
      · split <;> simp

theorem intercalate_pieces [LawfulBEq α] (separator : α) (list : List α) :
    [separator].intercalate (pieces separator list) = list := by
  induction list with
  | nil => rfl
  | cons item rest induction =>
      simp only [pieces]
      cases result : pieces separator rest with
      | nil => exact absurd result (pieces_ne_nil separator rest)
      | cons first others =>
          rw [result] at induction
          split
          next equal =>
            simp only [List.intercalate, List.intersperse, List.flatten_cons] at induction ⊢
            rw [induction]
            simp_all
          next =>
            cases others with
            | nil => simp_all [List.intercalate, List.intersperse]
            | cons second others =>
                simp only [List.intercalate, List.intersperse, List.flatten_cons,
                  List.cons_append] at induction ⊢
                rw [induction]

/-- Splits at the first separator, which belongs to neither side. -/
def cut (separator : α) : List α → Option (List α × List α)
  | [] => none
  | item :: rest =>
      if item == separator then some ([], rest)
      else (cut separator rest).map fun sides => (item :: sides.1, sides.2)

theorem cut_sound [LawfulBEq α] {separator : α} {list left right : List α}
    (found : cut separator list = some (left, right)) : list = left ++ separator :: right := by
  induction list generalizing left with
  | nil => simp [cut] at found
  | cons item rest induction =>
      simp only [cut] at found
      split at found
      next equal =>
        cases found
        simp_all
      next =>
        rcases sides : cut separator rest with _ | ⟨first, second⟩
        · simp [sides] at found
        · simp only [sides, Option.map_some, Option.some.injEq, Prod.mk.injEq] at found
          rcases found with ⟨rfl, rfl⟩
          simp [induction sides]

def stripStart (start : List α) : List α → Option (List α) :=
  match start with
  | [] => fun list => some list
  | item :: rest => fun
      | [] => none
      | head :: tail => if head == item then stripStart rest tail else none

def stripEnd (ending list : List α) : Option (List α) :=
  (stripStart ending.reverse list.reverse).map List.reverse

def occursIn (part : List α) : List α → Bool
  | [] => part.isEmpty
  | item :: rest => (stripStart part (item :: rest)).isSome || occursIn part rest

namespace Text

def piecesOf (separator : Char) (text : String) : List String :=
  (pieces separator text.toList).map String.ofList

def cutAt (separator : Char) (text : String) : Option (String × String) :=
  (cut separator text.toList).map fun sides => (String.ofList sides.1, String.ofList sides.2)

def stripPrefix? (start text : String) : Option String :=
  (stripStart start.toList text.toList).map String.ofList

def stripSuffix? (ending text : String) : Option String :=
  (stripEnd ending.toList text.toList).map String.ofList

def startsWith (start text : String) : Bool := (stripStart start.toList text.toList).isSome

def endsWith (ending text : String) : Bool := (stripEnd ending.toList text.toList).isSome

def contains (part text : String) : Bool := occursIn part.toList text.toList

def joinWith (separator : String) (parts : List String) : String := separator.intercalate parts

/-- Lower case of the letters A to Z; every other character is kept. -/
def asciiLower (text : String) : String := String.ofList (text.toList.map Char.toLower)

def sameIgnoringCase (left right : String) : Bool := asciiLower left == asciiLower right

end Text

end StreamHttp
