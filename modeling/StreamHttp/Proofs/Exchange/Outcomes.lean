import StreamHttp.Exchange.Engine

/-!
What outcomes make of a response. The items of a sequence are a list in their order, unless one of
them failed; where one item is asked for it is the first one, whatever comes behind it.
-/

namespace StreamHttp

namespace Outcome

/-- What a response becomes by the end of the work on it. -/
inductive Makes (response : Response) : Bool → Except DispatchError Outcome → Reply → Prop where
  | failed (single : Bool) (error : DispatchError) :
      Makes response single (.error error) (.error error)
  | kept (single : Bool) : Makes response single (.ok .empty) (.ok response)
  | filled (single : Bool) (body : Payload) :
      Makes response single (.ok (.immediate body)) (.ok { response with body })
  | replaced (single : Bool) (whole : Response) :
      Makes response single (.ok (.response whole)) (.ok whole)
  /-- All items in their order, if there are no others. -/
  | items (bodies : List Payload) :
      Makes response false (.ok (.sequence (bodies.map .ok)))
        (.ok { response with body := .list bodies })
  /-- The first error, whatever comes behind it. -/
  | failedItem (front : List Payload) (error : DispatchError)
      (rest : List (Except DispatchError Payload)) :
      Makes response false (.ok (.sequence (front.map .ok ++ .error error :: rest))) (.error error)
  /-- The first item, whatever comes behind it. -/
  | single (item : Except DispatchError Payload) (rest : List (Except DispatchError Payload)) :
      Makes response true (.ok (.sequence (item :: rest)))
        (item.map fun body => { response with body })
  | absent : Makes response true (.ok (.sequence [])) (.error .notFound)

theorem read_items (bodies : List Payload) :
    List.mapM id (bodies.map .ok) = (.ok bodies : Except DispatchError (List Payload)) := by
  induction bodies with
  | nil => rfl
  | cons body bodies induction =>
      rw [List.map_cons, List.mapM_cons, induction]
      rfl

theorem failing_item (error : DispatchError) (front : List Payload)
    (rest : List (Except DispatchError Payload)) :
    List.mapM id (front.map .ok ++ .error error :: rest) = .error error := by
  induction front with
  | nil => rw [List.map_nil, List.nil_append, List.mapM_cons]; rfl
  | cons body front induction =>
      rw [List.map_cons, List.cons_append, List.mapM_cons, induction]
      rfl

theorem items_cases (items : List (Except DispatchError Payload)) :
    (∃ bodies : List Payload, items = bodies.map .ok) ∨
      ∃ (front : List Payload) (error : DispatchError) (rest : List (Except DispatchError Payload)),
        items = front.map .ok ++ .error error :: rest := by
  induction items with
  | nil => exact .inl ⟨[], rfl⟩
  | cons item items induction =>
      cases item with
      | error error => exact .inr ⟨[], error, items, rfl⟩
      | ok body =>
          obtain ⟨bodies, rfl⟩ | ⟨front, error, rest, rfl⟩ := induction
          · exact .inl ⟨body :: bodies, rfl⟩
          · exact .inr ⟨body :: front, error, rest, rfl⟩

/-- An outcome makes one reply, the one that the engine resolves it to. -/
theorem makes_iff {response : Response} {single : Bool} {result : Except DispatchError Outcome}
    {reply : Reply} :
    Makes response single result reply ↔
      (result.bind fun outcome => outcome.resolve single response) = reply := by
  constructor
  · intro makes
    cases makes with
    | failed => rfl
    | kept => rfl
    | filled => rfl
    | replaced => rfl
    | items bodies => exact congrArg (Except.map _) (read_items bodies)
    | failedItem front error rest => exact congrArg (Except.map _) (failing_item error front rest)
    | single item rest => rfl
    | absent => rfl
  · rintro rfl
    rcases result with error | ⟨_ | body | items | whole⟩
    · exact .failed single error
    · exact .kept single
    · exact .filled single body
    · cases single with
      | true =>
          cases items with
          | nil => exact .absent
          | cons item rest => exact .single item rest
      | false =>
          change Makes response false _ ((items.mapM id).map _)
          obtain ⟨bodies, rfl⟩ | ⟨front, error, rest, rfl⟩ := items_cases items
          · rw [read_items]
            exact .items bodies
          · rw [failing_item]
            exact .failedItem front error rest
    · exact .replaced single whole

end Outcome

end StreamHttp
