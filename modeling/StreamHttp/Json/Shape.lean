import StreamHttp.Json.Printer
import StreamHttp.Json.Skip

/-!
Shapes of JSON values, and reading a value of a shape either from a text or from a value that has
been read before. A text is refused at the first place that does not fit, so a wrong shape in front
of a syntax error wins; a refusal of a value carries no place.
-/

namespace StreamHttp.Json

inductive Shape where
  | any
  | text
  | whole (name : String) (least greatest : Int)
  | real
  | truth
  | listOf (item : Shape)
  | record (name : String) (fields : List (String × Shape))

namespace Shape

def signed64 : Shape := .whole "i64" (-(i64Max + 1 : Nat)) i64Max
def unsigned32 : Shape := .whole "u32" 0 4294967295
def unsigned8 : Shape := .whole "u8" 0 255

def expectation : Shape → String
  | .any => "any value"
  | .text => "a string"
  | .whole name _ _ => name
  | .real => "f64"
  | .truth => "a boolean"
  | .listOf _ => "a sequence"
  | .record name _ => "struct " ++ name

end Shape

def found : Json → String
  | .null => "null"
  | .bool value => "boolean \x60" ++ toString value ++ "\x60"
  | .integer value => "integer \x60" ++ String.ofList (integerText value) ++ "\x60"
  | .float value => "floating point \x60" ++ String.ofList (floatText value) ++ "\x60"
  | .string text => "string " ++ quoted text
  | .array _ => "sequence"
  | .object _ => "map"

def invalidType (value : Json) (shape : Shape) : String :=
  "invalid type: " ++ found value ++ ", expected " ++ shape.expectation

def invalidValue (value : Json) (shape : Shape) : String :=
  "invalid value: " ++ found value ++ ", expected " ++ shape.expectation

def invalidLength (length : Nat) (expected : String) : String :=
  "invalid length " ++ toString length ++ ", expected " ++ expected

def elementsOf (name : String) (fields : List (String × Shape)) : String :=
  "struct " ++ name ++ " with " ++ toString fields.length ++
    (if fields.length == 1 then " element" else " elements")

def missingField (name : String) : String := "missing field \x60" ++ name ++ "\x60"

def duplicateField (name : String) : String := "duplicate field \x60" ++ name ++ "\x60"

def fitScalar (shape : Shape) (value : Json) : Except String Json :=
  match shape, value with
  | .any, value => .ok value
  | .text, .string text => .ok (.string text)
  | .truth, .bool value => .ok (.bool value)
  | .real, .integer value => .ok (.float (Binary64.ofInt value))
  | .real, .float value => .ok (.float value)
  | .whole name least greatest, .integer value =>
      if least ≤ value && value ≤ greatest then .ok (.integer value)
      else .error (invalidValue (.integer value) (.whole name least greatest))
  | shape, value => .error (invalidType value shape)

mutual

/-- Takes a value that has been read before as one of the shape. -/
def fit (shape : Shape) (value : Json) : Except String Json :=
  match shape, value with
  | .listOf item, .array values => do .ok (.array (← fitAll item values))
  | .record name fields, .array values => do
      let (taken, rest) ← fitInOrder (elementsOf name fields) 0 fields values
      if rest.isEmpty then .ok (ofMembers taken)
      else .error (invalidLength values.length "fewer elements in array")
  | .record _ fields, .object members => do
      let taken ← fitMembers fields members
      match fields.find? fun field => (findMember field.1 taken).isNone with
      | some field => .error (missingField field.1)
      | none => .ok (.object taken)
  | shape, value => fitScalar shape value
termination_by (sizeOf value, 1)

def fitAll (item : Shape) (values : List Json) : Except String (List Json) :=
  match values with
  | [] => .ok []
  | value :: rest => do
      let first ← fit item value
      .ok (first :: (← fitAll item rest))
termination_by (sizeOf values, 0)

def fitInOrder (expected : String) (taken : Nat) (fields : List (String × Shape))
    (values : List Json) : Except String (List (String × Json) × List Json) :=
  match fields, values with
  | [], rest => .ok ([], rest)
  | _ :: _, [] => .error (invalidLength taken expected)
  | field :: fields, value :: rest => do
      let first ← fit field.2 value
      let (others, rest) ← fitInOrder expected (taken + 1) fields rest
      .ok ((field.1, first) :: others, rest)
termination_by (sizeOf values, 0)

def fitMembers (fields : List (String × Shape)) (members : List (String × Json)) :
    Except String (List (String × Json)) :=
  match members with
  | [] => .ok []
  | (name, value) :: rest => do
      match fields.find? (·.1 == name) with
      | some field =>
          let first ← fit field.2 value
          .ok ((name, first) :: (← fitMembers fields rest))
      | none => fitMembers fields rest
termination_by (sizeOf members, 0)

end

/-- A refusal that has its place, or one that takes the place where reading stands. -/
inductive Refusal where
  | placed (failure : Failure)
  | loose (text : String) (rest : Bytes)

def afterListEnd (rest : Bytes) : Bytes :=
  match skipSpace rest with
  | 93 :: rest => rest
  | 44 :: rest => skipSpace rest
  | rest => rest

def afterObjectEnd (rest : Bytes) : Bytes :=
  match skipSpace rest with
  | 125 :: rest => rest
  | rest => rest

/-- A refusal raised inside brackets takes its place behind them. -/
def Refusal.leave (after : Bytes → Bytes) : Refusal → Failure
  | .placed failure => failure
  | .loose text rest => ⟨.mismatch text, (after rest).length⟩

def refuseNext (fuel : Nat) (shape : Shape) (rest : Bytes) : Except Failure (Json × Bytes) :=
  let refuse (value : Json) (rest : Bytes) : Except Failure (Json × Bytes) :=
    failAt (.mismatch (invalidType value shape)) rest
  match rest with
  | 110 :: rest => do refuse .null (← ident [117, 108, 108] rest)
  | 116 :: rest => do refuse (.bool true) (← ident [114, 117, 101] rest)
  | 102 :: rest => do refuse (.bool false) (← ident [97, 108, 115, 101] rest)
  | 34 :: rest => do
      let (text, rest) ← stringBody fuel rest
      refuse (.string text) rest
  | 91 :: rest => refuse (.array []) (91 :: rest)
  | 123 :: rest => refuse (.object []) (123 :: rest)
  | rest =>
      match rest with
      | [] => failNext .expectedValue []
      | byte :: _ =>
          if byte == 45 || byte.isDigit then do
            let (value, rest) ← number rest
            refuse value rest
          else failNext .expectedValue rest

def settled {α : Type} (result : Except Refusal α) (after : Bytes → Bytes) : Except Failure α :=
  result.mapError (Refusal.leave after)

def placed {α : Type} (result : Except Failure α) : Except Refusal α := result.mapError .placed

def scalarAs (shape : Shape) (value : Json) (rest : Bytes) : Except Failure (Json × Bytes) :=
  match fitScalar shape value with
  | .ok value => .ok (value, rest)
  | .error text => failAt (.mismatch text) rest

mutual

/-- Reads a value of the shape from a text. The fuel is more than three times the number of unread
bytes. -/
def readShape : Nat → Nat → Shape → Bytes → Except Failure (Json × Bytes)
  | 0, _, _, rest => failAt .expectedValue rest
  | fuel + 1, depth, shape, rest =>
      match shape with
      | .any => value fuel depth rest
      | shape =>
          match skipSpace rest with
          | [] => failNext .endInValue []
          | byte :: rest =>
              match shape, byte with
              | .text, 34 => do
                  let (text, rest) ← stringBody fuel rest
                  .ok (.string text, rest)
              | .truth, 116 => do .ok (.bool true, ← ident [114, 117, 101] rest)
              | .truth, 102 => do .ok (.bool false, ← ident [97, 108, 115, 101] rest)
              | .listOf item, 91 =>
                  if depth ≤ 1 then failNext .nestedTooDeep (91 :: rest)
                  else do
                    let (items, rest) ← readItems fuel (depth - 1) item true rest
                    .ok (.array items, ← listEnd rest)
              | .record name fields, 91 =>
                  if depth ≤ 1 then failNext .nestedTooDeep (91 :: rest)
                  else do
                    let expected := elementsOf name fields
                    let (taken, rest) ← settled
                      (readInOrder fuel (depth - 1) expected 0 fields rest) afterListEnd
                    .ok (ofMembers taken, ← listEnd rest)
              | .record _ fields, 123 =>
                  if depth ≤ 1 then failNext .nestedTooDeep (123 :: rest)
                  else do
                    let (taken, rest) ← settled
                      (readFields fuel (depth - 1) fields true [] rest) afterObjectEnd
                    .ok (.object taken, ← objectEnd rest)
              | .whole name least greatest, byte =>
                  if byte == 45 || byte.isDigit then do
                    let (value, rest) ← number (byte :: rest)
                    scalarAs (.whole name least greatest) value rest
                  else refuseNext fuel (.whole name least greatest) (byte :: rest)
              | .real, byte =>
                  if byte == 45 || byte.isDigit then do
                    let (value, rest) ← number (byte :: rest)
                    scalarAs .real value rest
                  else refuseNext fuel .real (byte :: rest)
              | shape, byte => refuseNext fuel shape (byte :: rest)

def readItems : Nat → Nat → Shape → Bool → Bytes → Except Failure (List Json × Bytes)
  | 0, _, _, _, rest => failAt .endInList rest
  | fuel + 1, depth, item, first, rest => do
      let (more, rest) ← nextItem first rest
      if more then
        let (value, rest) ← readShape fuel depth item rest
        let (others, rest) ← readItems fuel depth item false rest
        .ok (value :: others, rest)
      else .ok ([], rest)

def readInOrder : Nat → Nat → String → Nat → List (String × Shape) → Bytes →
    Except Refusal (List (String × Json) × Bytes)
  | 0, _, _, _, _, rest => .error (.loose "" rest)
  | _ + 1, _, _, _, [], rest => .ok ([], rest)
  | fuel + 1, depth, expected, taken, (name, shape) :: fields, rest => do
      let (more, rest) ← placed (nextItem (taken == 0) rest)
      if more then
        let (value, rest) ← placed (readShape fuel depth shape rest)
        let (others, rest) ← readInOrder fuel depth expected (taken + 1) fields rest
        .ok ((name, value) :: others, rest)
      else .error (.loose (invalidLength taken expected) rest)

def readFields : Nat → Nat → List (String × Shape) → Bool → List (String × Json) → Bytes →
    Except Refusal (List (String × Json) × Bytes)
  | 0, _, _, _, _, rest => .error (.loose "" rest)
  | fuel + 1, depth, fields, first, taken, rest => do
      let (more, rest) ← placed (nextName first rest)
      if more then
        let (name, rest) ← placed (stringBody fuel (rest.drop 1))
        match fields.find? (·.1 == name) with
        | some field =>
            if (findMember name taken).isSome then .error (.loose (duplicateField name) rest)
            else
              let (value, rest) ← placed (do readShape fuel depth field.2 (← colon rest))
              readFields fuel depth fields false (insertMember name value taken) rest
        | none =>
            let rest ← placed (do skip fuel (← colon rest))
            readFields fuel depth fields false taken rest
      else
        match fields.find? fun field => (findMember field.1 taken).isNone with
        | some field => .error (.loose (missingField field.1) rest)
        | none => .ok (taken, rest)

end

def Shape.parseText (shape : Shape) (text : String) : Except String Json :=
  let input := Bytes.ofString text
  let result := do
    let (result, rest) ← readShape (4 * input.length + 8) depthLimit shape input
    onlyBlank rest
    .ok result
  result.mapError fun failure => failure.message input

end StreamHttp.Json
