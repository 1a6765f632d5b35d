import Mathlib.Data.Option.Basic
import StreamHttp.Proofs.Arguments.Sources

/-!
Lookups that may change places. What a parameter is bound from is read off the head, or it is the
body buffered, taken, or decoded. Any two of these steps may change places: they succeed in both
orders or in none, with the same values, and leave the request and its streams the same. The body is
read once, by the step that comes first; a body that is taken is there for no other step.
-/

namespace StreamHttp

/-- The value of a field with these texts: one is a text, several are an array. -/
def Json.ofTexts? : List String → Option Json
  | [] => none
  | [text] => some (.string text)
  | texts => some (.array (texts.map .string))

abbrev Course := StateT Intake Option

namespace Course

variable {α β γ : Type}

/-- Two steps give the same values and the same end in either order, or fail in either order. -/
def Interchange (first : Course α) (second : Course β) : Prop :=
  (do let one ← first; let two ← second; return (one, two)) =
    (do let two ← second; let one ← first; return (one, two))

def given (value : Option α) : Course α := StateT.lift value

theorem Interchange.swapped {first : Course α} {second : Course β}
    (apart : Interchange first second) : Interchange second first := by
  unfold Interchange at apart
  have turned := congrArg (Prod.swap <$> ·) apart
  simp only [map_bind, map_pure, Prod.swap_prod_mk] at turned
  exact turned.symm

theorem interchange_pure (value : α) (second : Course β) :
    Interchange (pure value) second := by
  unfold Interchange
  simp only [pure_bind]

theorem interchange_given (value : Option α) (second : Course β) :
    Interchange (given value) second := by
  cases value with
  | some value => exact interchange_pure value second
  | none =>
      funext intake
      change none = (second intake).bind fun _ => none
      rw [Option.bind_fun_none]

/-- What follows a step that may be moved may be moved with it. -/
theorem Interchange.next {first : Course α} {second : Course β} {next : α → Course γ}
    (apart : Interchange first second) (rest : ∀ value, Interchange (next value) second) :
    Interchange (first >>= next) second := by
  unfold Interchange at apart rest ⊢
  have moved := congrArg
    (fun course : Course (α × β) => course >>= fun pair => do
      let one ← next pair.1
      return (one, pair.2)) apart
  simp only [bind_assoc, pure_bind] at moved ⊢
  rw [← moved]
  exact bind_congr rest

theorem interchange_unmoved {first : Course α} {second : Course β} {intake : Intake} {value : α}
    (here : first intake = some (value, intake))
    (behind : ∀ other after, second intake = some (other, after) →
      first after = some (value, after)) :
    (do let one ← first; let two ← second; return (one, two) : Course (α × β)) intake =
      (do let two ← second; let one ← first; return (one, two) : Course (α × β)) intake := by
  change (first intake).bind _ = (second intake).bind _
  rw [here, Option.bind_some]
  cases answer : second intake with
  | none =>
      change (second intake).bind _ = none
      rw [answer]
      rfl
  | some reached =>
      obtain ⟨other, after⟩ := reached
      change (second intake).bind _ = (first after).bind _
      rw [answer, behind other after answer]
      rfl

/-- Steps of which each one fails behind the other one fail together in either order. -/
theorem interchange_exclusive {first : Course α} {second : Course β} {intake : Intake}
    (one : ∀ value after, first intake = some (value, after) → second after = none)
    (two : ∀ value after, second intake = some (value, after) → first after = none) :
    (do let one ← first; let two ← second; return (one, two) : Course (α × β)) intake =
      (do let two ← second; let one ← first; return (one, two) : Course (α × β)) intake := by
  have fails {γ δ ε : Type} {front : Course γ} {back : Course δ} (pair : γ → δ → ε)
      (never : ∀ value after, front intake = some (value, after) → back after = none) :
      (do let value ← front; let other ← back; return pair value other : Course ε) intake =
        none := by
    change (front intake).bind _ = none
    cases answer : front intake with
    | none => rfl
    | some reached =>
        obtain ⟨value, after⟩ := reached
        change (back after).bind _ = none
        rw [never value after answer]
        rfl
  rw [fails Prod.mk one, fails (fun other value => (value, other)) two]

/-- A step that gives the same again and again may be repeated before or behind itself. -/
theorem interchange_again {step : Course α}
    (again : ∀ intake value after, step intake = some (value, after) →
      step after = some (value, after)) : Interchange step step := by
  funext intake
  change (step intake).bind _ = (step intake).bind _
  cases answer : step intake with
  | none => rfl
  | some reached =>
      obtain ⟨value, after⟩ := reached
      change (step after).bind _ = (step after).bind _
      rw [again intake value after answer]
      rfl

end Course

theorem Body.claim_of_buffer {body : Body} {limit : Nat} {streams : Streams} {bytes : Bytes}
    (answer : (body.buffer limit streams).1 = .ok bytes) :
    (body.buffer limit streams).2.1.claim = .buffered bytes := by
  revert answer
  unfold buffer
  split
  next held claim =>
    rintro ⟨⟩
    exact claim
  next =>
    split
    next => exact nofun
    next => exact nofun
  next reader claim =>
    split
    next => exact nofun
    next =>
      split
      next => exact nofun
      next =>
        split
        next => exact nofun
        next =>
          split
          next => exact nofun
          next =>
            rintro ⟨⟩
            rfl

namespace Binding

variable {α β : Type} {codecs : Codecs} {limit : Nat}

def success (binding : Binding α) : Course α := fun intake =>
  match (ExceptT.run binding).run intake.request intake.streams with
  | (.ok value, request, streams) => some (value, ⟨request, streams⟩)
  | (.error _, _, _) => none

theorem success_bind (binding : Binding α) (next : α → Binding β) :
    success (binding >>= next) = success binding >>= fun value => success (next value) := by
  funext intake
  change success (binding >>= next) intake = (success binding intake).bind _
  unfold success
  rw [run_next]
  rcases (ExceptT.run binding).run intake.request intake.streams with
    ⟨_ | value, request, streams⟩
  · rfl
  · rfl

theorem success_request (next : Request → Binding α) (intake : Intake) :
    success (request >>= next) intake = success (next intake.request) intake := rfl

def reading (read : Head → α) : Course α := fun intake => some (read intake.request.head, intake)

def buffering (limit : Nat) : Course Bytes := fun intake =>
  match intake.buffer limit with
  | (.ok bytes, after) => some (bytes, after)
  | (.error _, _) => none

theorem success_buffer (limit : Nat) : success (buffer limit) = buffering limit := by
  funext intake
  unfold success buffering
  rw [run_buffer]
  unfold Intake.buffer
  rcases intake.request.body.buffer limit intake.streams with ⟨_ | bytes, body, streams⟩
  · rfl
  · rfl

def taking : Course Body := fun intake =>
  match intake.takeBody with
  | (.ok body, after) => some (body, after)
  | (.error _, _) => none

theorem success_take : success takeBody = taking := by
  funext intake
  unfold success taking
  rw [run_take]
  unfold Intake.takeBody
  rcases intake.request.body.take with ⟨_ | body, left⟩
  · rfl
  · rfl

def keeping (value : Option Json) (intake : Intake) : Intake :=
  { intake with
    request := { intake.request with parsedBody := value.or intake.request.parsedBody } }

def decoding (codecs : Codecs) (limit : Nat) : Course (Option Json) := fun intake =>
  match intake.request.parsedBody with
  | some value => some (some value, intake)
  | none =>
      (buffering limit intake).bind fun reached =>
        (decodeBytes codecs intake.request.head reached.1).toOption.map fun value =>
          (value, keeping value reached.2)

theorem success_decoded (codecs : Codecs) (limit : Nat) :
    success (decodedBody codecs limit) = decoding codecs limit := by
  funext intake
  obtain ⟨⟨head, attributes, body, parsed⟩, streams⟩ := intake
  unfold success decoding buffering Intake.buffer
  rw [run_decoded_body]
  cases parsed with
  | some value => rfl
  | none =>
      dsimp only
      rcases body.buffer limit streams with ⟨_ | bytes, body, streams⟩
      · rfl
      · dsimp only [Option.bind_some]
        rw [decode_read]
        rcases decodeBytes codecs head bytes with _ | _ | value
        · rfl
        · rfl
        · rfl

theorem buffering_behind {intake after : Intake} {bytes : Bytes}
    (answer : buffering limit intake = some (bytes, after)) :
    after.request.head = intake.request.head ∧
      after.request.parsedBody = intake.request.parsedBody ∧
      after.request.body.claim = .buffered bytes := by
  unfold buffering Intake.buffer at answer
  rcases buffered : intake.request.body.buffer limit intake.streams with ⟨_ | held, body, streams⟩
  · rw [buffered] at answer
    cases answer
  · rw [buffered] at answer
    cases answer
    have claimed := Body.claim_of_buffer (congrArg Prod.fst buffered)
    rw [buffered] at claimed
    exact ⟨rfl, rfl, claimed⟩

theorem buffering_buffered {intake : Intake} {bytes : Bytes}
    (held : intake.request.body.claim = .buffered bytes) :
    buffering limit intake = some (bytes, intake) := by
  unfold buffering Intake.buffer
  rw [Body.buffer_buffered held]

theorem buffering_again {intake after : Intake} {bytes : Bytes}
    (answer : buffering limit intake = some (bytes, after)) :
    buffering limit after = some (bytes, after) :=
  buffering_buffered (buffering_behind answer).2.2

theorem buffering_claimed {intake : Intake} (claimed : intake.request.body.claim = .claimed) :
    buffering limit intake = none := by
  cases answer : buffering limit intake with
  | none => rfl
  | some reached =>
      unfold buffering Intake.buffer at answer
      rcases buffered : intake.request.body.buffer limit intake.streams with
        ⟨_ | bytes, body, streams⟩
      · rw [buffered] at answer
        cases answer
      · exact absurd (congrArg Prod.fst buffered) (Body.buffer_claimed claimed)

theorem taking_behind {intake after : Intake} {body : Body}
    (answer : taking intake = some (body, after)) :
    after.request.head = intake.request.head ∧
      after.request.parsedBody = intake.request.parsedBody ∧
      after.request.body.claim = .claimed := by
  unfold taking Intake.takeBody Body.take Body.claimStream at answer
  cases claim : intake.request.body.claim with
  | unclaimed reader =>
      rw [claim] at answer
      cases answer
      exact ⟨rfl, rfl, rfl⟩
  | buffered bytes =>
      rw [claim] at answer
      cases answer
  | claimed =>
      rw [claim] at answer
      cases answer

theorem taking_claimed {intake : Intake} (claimed : intake.request.body.isClaimed = true) :
    taking intake = none := by
  cases answer : taking intake with
  | none => rfl
  | some reached =>
      unfold taking Intake.takeBody at answer
      rcases taken : intake.request.body.take with ⟨_ | body, left⟩
      · rw [taken] at answer
        cases answer
      · exact absurd (congrArg Prod.fst taken) (Body.take_claimed claimed)

theorem decoding_decoded {intake : Intake} {value : Json}
    (parsed : intake.request.parsedBody = some value) :
    decoding codecs limit intake = some (some value, intake) := by
  unfold decoding
  rw [parsed]

theorem decoding_undecoded {intake : Intake} (parsed : intake.request.parsedBody = none) :
    decoding codecs limit intake =
      (buffering limit intake).bind fun reached =>
        (decodeBytes codecs intake.request.head reached.1).toOption.map fun value =>
          (value, keeping value reached.2) := by
  unfold decoding
  rw [parsed]

theorem decoding_behind {intake after : Intake} {value : Option Json}
    (parsed : intake.request.parsedBody = none)
    (answer : decoding codecs limit intake = some (value, after)) :
    ∃ bytes reached, buffering limit intake = some (bytes, reached) ∧
      decodeBytes codecs intake.request.head bytes = .ok value ∧ after = keeping value reached := by
  rw [decoding_undecoded parsed] at answer
  obtain ⟨⟨bytes, reached⟩, buffered, decoded⟩ := Option.bind_eq_some_iff.1 answer
  cases read : decodeBytes codecs intake.request.head bytes with
  | error error =>
      rw [read] at decoded
      cases decoded
  | ok made =>
      rw [read] at decoded
      cases decoded
      exact ⟨bytes, reached, buffered, read, rfl⟩

theorem decoding_again {intake after : Intake} {value : Option Json}
    (answer : decoding codecs limit intake = some (value, after)) :
    decoding codecs limit after = some (value, after) := by
  cases parsed : intake.request.parsedBody with
  | some held =>
      have same := (decoding_decoded parsed).symm.trans answer
      cases same
      exact decoding_decoded parsed
  | none =>
      obtain ⟨bytes, reached, buffered, read, rfl⟩ := decoding_behind parsed answer
      obtain ⟨named, kept, held⟩ := buffering_behind buffered
      cases value with
      | some value => exact decoding_decoded rfl
      | none =>
          -- An empty body is not kept as decoded: its bytes, which were kept, are decoded again.
          have unparsed : (keeping none reached).request.parsedBody = none := kept.trans parsed
          have again : buffering limit (keeping none reached) =
              some (bytes, keeping none reached) := buffering_buffered held
          have reading : decodeBytes codecs (keeping none reached).request.head bytes =
              .ok none := by
            change decodeBytes codecs reached.request.head bytes = _
            rw [named, read]
          rw [decoding_undecoded unparsed, again, Option.bind_some, reading]
          rfl

theorem interchange_decoding_buffering :
    Course.Interchange (decoding codecs limit) (buffering limit) := by
  funext intake
  cases parsed : intake.request.parsedBody with
  | some value =>
      apply Course.interchange_unmoved (decoding_decoded parsed)
      intro bytes after buffered
      exact decoding_decoded ((buffering_behind buffered).2.1.trans parsed)
  | none =>
      change (decoding codecs limit intake).bind _ = (buffering limit intake).bind _
      rw [decoding_undecoded parsed]
      cases buffered : buffering limit intake with
      | none => rfl
      | some reached =>
          obtain ⟨bytes, reached⟩ := reached
          obtain ⟨named, kept, held⟩ := buffering_behind buffered
          -- Whichever comes first reads the body, and the other one finds the bytes.
          have again : decoding codecs limit reached =
              (decodeBytes codecs intake.request.head bytes).toOption.map fun value =>
                (value, keeping value reached) := by
            rw [decoding_undecoded (kept.trans parsed), buffering_buffered held, named]
            rfl
          simp only [Option.bind_some]
          change _ = (decoding codecs limit reached).bind _
          rw [again]
          cases (decodeBytes codecs intake.request.head bytes).toOption with
          | none => rfl
          | some value =>
              have filled : buffering limit (keeping value reached) =
                  some (bytes, keeping value reached) := buffering_buffered held
              change (buffering limit (keeping value reached)).bind _ = _
              rw [filled]
              rfl

theorem interchange_decoding_taking :
    Course.Interchange (decoding codecs limit) taking := by
  funext intake
  cases parsed : intake.request.parsedBody with
  | some value =>
      apply Course.interchange_unmoved (decoding_decoded parsed)
      intro body after taken
      exact decoding_decoded ((taking_behind taken).2.1.trans parsed)
  | none =>
      -- Both of them claim the body, so neither goes on behind the other.
      apply Course.interchange_exclusive
      · intro value after decoded
        obtain ⟨bytes, reached, buffered, _, rfl⟩ := decoding_behind parsed decoded
        obtain ⟨_, _, held⟩ := buffering_behind buffered
        apply taking_claimed
        change reached.request.body.isClaimed = true
        rw [Body.isClaimed, held]
      · intro body after taken
        obtain ⟨_, kept, claimed⟩ := taking_behind taken
        rw [decoding_undecoded (kept.trans parsed), buffering_claimed claimed]
        rfl

theorem interchange_buffering_taking : Course.Interchange (buffering limit) taking := by
  funext intake
  apply Course.interchange_exclusive
  · intro bytes after buffered
    obtain ⟨_, _, held⟩ := buffering_behind buffered
    exact taking_claimed (by rw [Body.isClaimed, held])
  · intro body after taken
    exact buffering_claimed (taking_behind taken).2.2

theorem interchange_taking_taking : Course.Interchange taking taking := by
  funext intake
  have spent (body : Body) (after : Intake) (taken : taking intake = some (body, after)) :
      taking after = none :=
    taking_claimed (by rw [Body.isClaimed, (taking_behind taken).2.2])
  exact Course.interchange_exclusive spent spent

/-- What a lookup has to do with the request. -/
inductive Errand (codecs : Codecs) (limit : Nat) : {α : Type} → Course α → Prop
  | reading (read : Head → Option Argument) : Errand codecs limit (reading read)
  | buffering : Errand codecs limit (buffering limit)
  | taking : Errand codecs limit taking
  | decoding : Errand codecs limit (decoding codecs limit)

theorem Errand.head {course : Course α} (errand : Errand codecs limit course)
    {intake after : Intake} {value : α} (answer : course intake = some (value, after)) :
    after.request.head = intake.request.head := by
  cases errand with
  | reading read =>
      cases answer
      rfl
  | buffering => exact (buffering_behind answer).1
  | taking => exact (taking_behind answer).1
  | decoding =>
      cases parsed : intake.request.parsedBody with
      | some held =>
          have same := (decoding_decoded parsed).symm.trans answer
          cases same
          rfl
      | none =>
          obtain ⟨bytes, reached, buffered, _, rfl⟩ := decoding_behind parsed answer
          exact (buffering_behind buffered).1

theorem Errand.reading_first {course : Course α} (errand : Errand codecs limit course)
    (read : Head → Option Argument) : Course.Interchange (Binding.reading read) course := by
  funext intake
  apply Course.interchange_unmoved rfl
  intro value after answer
  rw [Binding.reading, errand.head answer]

theorem Errand.interchange {first : Course α} {second : Course β}
    (one : Errand codecs limit first) (two : Errand codecs limit second) :
    Course.Interchange first second := by
  have readingLast (read : Head → Option Argument) :
      Course.Interchange first (Binding.reading read) := (one.reading_first read).swapped
  cases one with
  | reading read => exact two.reading_first read
  | buffering =>
      cases two with
      | reading read => exact readingLast read
      | buffering => exact Course.interchange_again fun _ _ _ => buffering_again
      | taking => exact interchange_buffering_taking
      | decoding => exact interchange_decoding_buffering.swapped
  | taking =>
      cases two with
      | reading read => exact readingLast read
      | buffering => exact interchange_buffering_taking.swapped
      | taking => exact interchange_taking_taking
      | decoding => exact interchange_decoding_taking.swapped
  | decoding =>
      cases two with
      | reading read => exact readingLast read
      | buffering => exact interchange_decoding_buffering
      | taking => exact interchange_decoding_taking
      | decoding => exact Course.interchange_again fun _ _ _ => decoding_again

theorem lookup_errand (codecs : Codecs) (limit : Nat) (param : Param) :
    ∃ (α : Type) (errand : Course α) (made : α → Option Argument), Errand codecs limit errand ∧
      success (lookup codecs limit param) = errand >>= fun value => pure (made value) := by
  have fromHead (read : Head → Option Argument)
      (same : success (lookup codecs limit param) = reading read) :
      ∃ (α : Type) (errand : Course α) (made : α → Option Argument), Errand codecs limit errand ∧
        success (lookup codecs limit param) = errand >>= fun value => pure (made value) :=
    ⟨_, reading read, id, .reading read, same.trans (bind_pure _).symm⟩
  have fromBody {α : Type} {step : Binding α} {errand : Course α} (made : α → Option Argument)
      (listed : Errand codecs limit errand) (done : success step = errand)
      (same : success (lookup codecs limit param) =
        success (step >>= fun value => pure (made value))) :
      ∃ (α : Type) (errand : Course α) (made : α → Option Argument), Errand codecs limit errand ∧
        success (lookup codecs limit param) = errand >>= fun value => pure (made value) := by
    refine ⟨α, errand, made, listed, ?_⟩
    rw [same, success_bind, done]
    rfl
  cases source : param.source with
  | path =>
      apply fromHead fun _ => none
      funext intake
      rw [lookup, success_request, source]
      rfl
  | query =>
      apply fromHead fun head =>
        (Json.ofTexts? (head.query.getAll param.name)).map Argument.ofField
      funext intake
      rw [lookup, success_request, source, reading]
      dsimp only
      rcases intake.request.head.query.getAll param.name with _ | ⟨value, _ | ⟨next, others⟩⟩
      · rfl
      · rfl
      · rfl
  | header =>
      apply fromHead fun head => (head.headers.get? param.name).map .text
      funext intake
      rw [lookup, success_request, source]
      rfl
  | cookie =>
      apply fromHead fun head => (head.cookies.get? param.name).map fun cookie => .text cookie.value
      funext intake
      rw [lookup, success_request, source]
      rfl
  | body =>
      apply fromBody (Option.map .json) .decoding (success_decoded codecs limit)
      funext intake
      rw [lookup, success_request, source]
  | rawBody =>
      apply fromBody (fun bytes => if bytes.isEmpty then none else some (.bytes bytes)) .buffering
        (success_buffer limit)
      funext intake
      rw [lookup, success_request, source]
  | bodyStream =>
      apply fromBody (fun body => some (.stream body)) .taking success_take
      funext intake
      rw [lookup, success_request, source]
  | bodyField =>
      apply fromBody (fun body => (body.bind (Json.member? param.name)).map Argument.ofField)
        .decoding (success_decoded codecs limit)
      funext intake
      rw [lookup, success_request, source]

/-- The lookups of two parameters may change places. -/
theorem interchange_lookups (codecs : Codecs) (limit : Nat) (first second : Param) :
    Course.Interchange (success (lookup codecs limit first))
      (success (lookup codecs limit second)) := by
  obtain ⟨_, one, madeOne, oneErrand, oneSame⟩ := lookup_errand codecs limit first
  obtain ⟨_, two, madeTwo, twoErrand, twoSame⟩ := lookup_errand codecs limit second
  rw [oneSame, twoSame]
  have looked : Course.Interchange (one >>= fun value => pure (madeOne value)) two :=
    (oneErrand.interchange twoErrand).next fun value => Course.interchange_pure _ _
  exact (looked.swapped.next fun value => Course.interchange_pure _ _).swapped

end Binding

end StreamHttp
