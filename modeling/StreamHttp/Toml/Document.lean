import StreamHttp.Toml.Scalar

/-!
TOML documents. Keys with dots make tables on the way, headers make tables that no key can reopen,
and a name is given a value once.
-/

namespace StreamHttp.Toml

/-- How a table came to be: by a header, on the way to one, or by a key with dots. -/
inductive Origin where
  | header
  | implied
  | dotted
  deriving DecidableEq, Repr

inductive Value where
  | scalar (scalar : Scalar)
  | list (items : List Value)
  | inlineTable (dotted : Bool) (entries : List (String × Value))
  | table (origin : Origin) (entries : List (String × Value))
  /-- Tables that are given one by one, the newest first. -/
  | tables (items : List Value)

abbrev Entries := List (String × Value)

def valueAt? (name : String) (entries : Entries) : Option Value := entries.lookup name

def alter (change : Option Value → Option Value) (name : String) : Entries → Option Entries
  | [] => (change none).map fun value => [(name, value)]
  | (other, held) :: rest =>
      if other == name then (change (some held)).map fun value => (other, value) :: rest
      else (alter change name rest).map ((other, held) :: ·)

/-- Changes the table at the end of a path, and makes the tables on the way. -/
def within (dotted : Bool) (change : Origin → Entries → Option Entries) :
    List String → Origin → Entries → Option Entries
  | [], origin, entries => change origin entries
  | name :: path, _, entries =>
      alter (fun
        | none =>
            let fresh := if dotted then Origin.dotted else Origin.implied
            (within dotted change path fresh []).map (.table fresh)
        | some (.table origin inner) =>
            if dotted && origin == .header then none
            else (within dotted change path origin inner).map (.table origin)
        | some (.tables (.table origin inner :: older)) =>
            (within dotted change path origin inner).map fun inner =>
              .tables (.table origin inner :: older)
        | some _ => none) name entries

/-- Gives a name its value, in the table that keys with dots may reach. -/
def assign (path : List String) (name : String) (value : Value) (origin : Origin)
    (entries : Entries) : Option Entries :=
  within true (fun origin entries =>
    if (origin == .dotted) == path.isEmpty || (valueAt? name entries).isSome then none
    else some (entries ++ [(name, value)])) path origin entries

def openTable (path : List String) (name : String) : Entries → Option Entries :=
  within false (fun _ entries =>
    alter (fun
      | none => some (.table .header [])
      | some (.table .implied inner) => some (.table .header inner)
      | some _ => none) name entries) path .header

def openNext (path : List String) (name : String) : Entries → Option Entries :=
  within false (fun _ entries =>
    alter (fun
      | none => some (.tables [.table .header []])
      | some (.tables items) => some (.tables (.table .header [] :: items))
      | some _ => none) name entries) path .header

/-- Gives a name its value in an inline table, which no key with dots reaches into. -/
def assignInline (name : String) (value : Value) : List String → Entries → Option Entries
  | [], entries =>
      if (valueAt? name entries).isSome then none else some (entries ++ [(name, value)])
  | step :: path, entries =>
      alter (fun
        | none => (assignInline name value path []).map (.inlineTable true)
        | some (.inlineTable true inner) =>
            (assignInline name value path inner).map (.inlineTable true)
        | some _ => none) step entries

/-! Keys. -/

def isBare (char : Char) : Bool := char.isAlphanum || char == '_' || char == '-'

def simpleKey : Reading String := fun chars =>
  match shortString chars with
  | some taken => some taken
  | none =>
      let name := chars.takeWhile isBare
      if name.isEmpty then none else some (String.ofList name, chars.drop name.length)

def nestingLimit : Nat := 79

def keyNames : Nat → Reading (List String)
  | 0, _ => none
  | fuel + 1, chars => do
      let (name, rest) ← simpleKey (skipBlanks chars)
      match skipBlanks rest with
      | '.' :: rest =>
          let (names, rest) ← keyNames fuel rest
          some (name :: names, rest)
      | rest => some ([name], rest)

def key : Reading (List String × String) := fun chars => do
  let (names, rest) ← keyNames nestingLimit chars
  let last ← names.getLast?
  some ((names.dropLast, last), rest)

/-! Values. -/

def skipComment : Reading Unit
  | '#' :: rest =>
      let behind := rest.dropWhile isPlain
      match behind with
      | [] => some ((), [])
      | behind => if (lineEnd? behind).isSome then some ((), behind) else none
  | chars => some ((), chars)

/-- Skips blanks, line ends and comments; `comment` says that a comment has begun. -/
def skipLines (comment : Bool) : Reading Unit
  | [] => some ((), [])
  | '\n' :: rest => skipLines false rest
  | '\r' :: '\n' :: rest => skipLines false rest
  | char :: rest =>
      if comment then if isPlain char then skipLines true rest else none
      else if char == '#' then skipLines true rest
      else if isBlankChar char then skipLines false rest
      else some ((), char :: rest)

mutual

def value : Nat → Nat → Reading Value
  | 0, _, _ => none
  | fuel + 1, depth, chars =>
      match chars with
      | '[' :: rest =>
          if depth == 0 then none
          else (listItems fuel (depth - 1) rest).map fun taken => (.list taken.1, taken.2)
      | '\x7b' :: rest =>
          if depth == 0 then none
          else
            match skipBlanks rest with
            | '\x7d' :: rest => some (.inlineTable false [], rest)
            | rest => (inlineEntries fuel (depth - 1) [] rest).map fun taken =>
                (.inlineTable false taken.1, taken.2)
      | chars => (scalar chars).map fun taken => (.scalar taken.1, taken.2)

def listItems : Nat → Nat → Reading (List Value)
  | 0, _, _ => none
  | fuel + 1, depth, chars => do
      let ((), rest) ← skipLines false chars
      match rest with
      | ']' :: rest => some ([], rest)
      | rest =>
          let (item, rest) ← value fuel depth rest
          let ((), rest) ← skipLines false rest
          match rest with
          | ',' :: rest =>
              let (items, rest) ← listItems fuel depth rest
              some (item :: items, rest)
          | ']' :: rest => some ([item], rest)
          | _ => none

def inlineEntries : Nat → Nat → Entries → Reading Entries
  | 0, _, _, _ => none
  | fuel + 1, depth, entries, chars => do
      let ((path, name), rest) ← key chars
      let ((), rest) ← mark '=' rest
      let (item, rest) ← value fuel depth (skipBlanks rest)
      let entries ← assignInline name item path entries
      match skipBlanks rest with
      | ',' :: rest => inlineEntries fuel depth entries rest
      | '\x7d' :: rest => some (entries, rest)
      | _ => none

end

/-! Lines. -/

def endLine : Reading Unit := fun chars => do
  let ((), rest) ← skipComment (skipBlanks chars)
  match rest with
  | [] => some ((), [])
  | rest => (lineEnd? rest).map fun rest => ((), rest)

/-- A table at the end of a path of headers, where lists of tables stand for their newest. -/
def atTable (path : List String) (change : Origin → Entries → Option Entries) :
    Entries → Option Entries :=
  within false change path .header

/-- One line: the table that is open behind it, and all entries. The fuel is more than twice the
number of unread characters. -/
def line (fuel : Nat) (current : List String) (entries : Entries) :
    Reading (List String × Entries) := fun chars =>
  match skipBlanks chars with
  | '[' :: '[' :: rest => do
      let ((path, name), rest) ← key rest
      let ((), rest) ← mark ']' rest
      let ((), rest) ← mark ']' rest
      let ((), rest) ← endLine rest
      some ((path ++ [name], ← openNext path name entries), rest)
  | '[' :: rest => do
      let ((path, name), rest) ← key rest
      let ((), rest) ← mark ']' rest
      let ((), rest) ← endLine rest
      some ((path ++ [name], ← openTable path name entries), rest)
  | [] => some ((current, entries), [])
  | first :: rest =>
      if first == '#' || (lineEnd? (first :: rest)).isSome then do
        let ((), rest) ← endLine (first :: rest)
        some ((current, entries), rest)
      else do
        let ((path, name), rest) ← key (first :: rest)
        let ((), rest) ← mark '=' rest
        let (item, rest) ← value fuel nestingLimit (skipBlanks rest)
        let ((), rest) ← endLine rest
        some ((current, ← atTable current (assign path name item) entries), rest)

def lines : Nat → List String → Entries → List Char → Option Entries
  | 0, _, entries, chars => if chars.isEmpty then some entries else none
  | fuel + 1, current, entries, chars =>
      match chars with
      | [] => some entries
      | chars =>
          match line (fuel + 1) current entries chars with
          | none => none
          | some ((current, entries), rest) => lines fuel current entries rest

/-- The entries of a document. A byte order mark may stand in front of it. -/
def parse? (text : String) : Option Entries :=
  let chars := match text.toList with
    | '\uFEFF' :: rest => rest
    | chars => chars
  lines (2 * chars.length + 2) [] [] chars

end StreamHttp.Toml
