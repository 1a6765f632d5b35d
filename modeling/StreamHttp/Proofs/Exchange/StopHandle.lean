import StreamHttp.Proofs.Exchange.Passes

/-!
The handle to stop a loop, in the hands of the application. Handlers may ask for the stop and hand
out further receivers; the receiver that the loop listens to is not theirs. So the loop hears of the
stop exactly when it was asked for, and what an exchange does to the handle is what its handlers do.
-/

namespace StreamHttp

namespace Shutdown

/-- What can be done with a handle by those to whom the receiver of a number does not belong. -/
inductive Used (number : Nat) (before : Shutdown) : Shutdown → Prop where
  | unused : Used number before before
  | triggered {after : Shutdown} (used : Used number before after) :
      Used number before after.trigger.2
  | subscribed {after : Shutdown} (used : Used number before after) :
      Used number before after.subscribe.2
  | received {after : Shutdown} {other : Nat} (apart : other ≠ number)
      (used : Used number before after) : Used number before (after.receive other).2
  | dropped {after : Shutdown} {other : Nat} (apart : other ≠ number)
      (used : Used number before after) : Used number before (after.drop other).2

variable {number : Nat} {before between after : Shutdown}

theorem Used.trans (first : Used number before between) (second : Used number between after) :
    Used number before after := by
  induction second with
  | unused => exact first
  | triggered _ induction => exact .triggered induction
  | subscribed _ induction => exact .subscribed induction
  | received apart _ induction => exact .received apart induction
  | dropped apart _ induction => exact .dropped apart induction

/-- The receiver of a number is there, and is ready exactly when the stop was asked for. -/
def Heeds (number : Nat) (shutdown : Shutdown) : Prop :=
  ∃ receiver, shutdown.receivers[number]? = some receiver ∧ receiver ≠ .dropped ∧
    receiver.isReady = shutdown.triggered

theorem Heeds.ready (heeds : Heeds number after) : after.isReady number = after.triggered := by
  obtain ⟨receiver, held, _, ready⟩ := heeds
  rw [isReady, held, Option.any_some, ready]

theorem heeds_subscribe (shutdown : Shutdown) :
    Heeds shutdown.subscribe.1 shutdown.subscribe.2 := by
  refine ⟨if shutdown.triggered then .late true else .listening false, ?_, ?_, ?_⟩
  · simp [subscribe, obtain]
  · split
    · decide
    · decide
  · cases raised : shutdown.triggered with
    | true => simp [subscribe, obtain, raised, Receiver.isReady]
    | false => simp [subscribe, obtain, raised, Receiver.isReady]

theorem Heeds.trigger (heeds : Heeds number after) : Heeds number after.trigger.2 := by
  obtain ⟨receiver, held, kept, ready⟩ := heeds
  obtain ⟨triggered, receivers⟩ := after
  cases triggered with
  | true => exact ⟨receiver, held, kept, ready⟩
  | false =>
      refine ⟨receiver.signal, ?_, ?_, ?_⟩
      · exact (List.getElem?_map ..).trans (congrArg _ held)
      · cases receiver with
        | listening _ => exact Receiver.noConfusion
        | late _ => exact Receiver.noConfusion
        | dropped => exact absurd rfl kept
      · cases receiver with
        | listening _ => rfl
        | late _ => rfl
        | dropped => exact absurd rfl kept

theorem Heeds.set (heeds : Heeds number after) {other : Nat} (apart : other ≠ number)
    (receiver : Receiver) :
    Heeds number { after with receivers := after.receivers.set other receiver } := by
  obtain ⟨own, held, kept, ready⟩ := heeds
  exact ⟨own, (List.getElem?_set_ne apart).trans held, kept, ready⟩

theorem Heeds.used (used : Used number before after) (heeds : Heeds number before) :
    Heeds number after := by
  induction used with
  | unused => exact heeds
  | triggered _ induction => exact induction.trigger
  | @subscribed after _ induction =>
      obtain ⟨receiver, held, kept, ready⟩ := induction
      exact ⟨receiver, List.getElem?_append_left (List.getElem?_eq_some_iff.1 held).1 ▸ held, kept,
        ready⟩
  | @received after other apart _ induction =>
      unfold receive
      split
      · exact induction
      · exact induction.set apart _
  | @dropped after other apart _ induction =>
      unfold drop
      split
      · exact induction
      · exact induction
      · exact induction.set apart _

theorem triggered_trigger (shutdown : Shutdown) : shutdown.trigger.2.triggered = true := by
  obtain ⟨triggered, receivers⟩ := shutdown
  cases triggered
  · rfl
  · rfl

theorem Used.stays (used : Used number before after) (raised : before.triggered = true) :
    after.triggered = true := by
  induction used with
  | unused => exact raised
  | @triggered after _ _ => exact triggered_trigger after
  | subscribed _ induction => exact induction
  | @received after other _ _ induction =>
      unfold receive
      split
      · exact induction
      · exact induction
  | @dropped after other _ _ induction =>
      unfold drop
      split
      · exact induction
      · exact induction
      · exact induction

end Shutdown

variable {σ α β : Type}

def HandleUsed (number : Nat) : Option Shutdown → Option Shutdown → Prop
  | none, after => after = none
  | some before, after => ∃ shutdown, after = some shutdown ∧ before.Used number shutdown

theorem HandleUsed.refl (number : Nat) (handle : Option Shutdown) :
    HandleUsed number handle handle := by
  cases handle with
  | none => rfl
  | some shutdown => exact ⟨shutdown, rfl, .unused⟩

theorem HandleUsed.trans {number : Nat} {before between after : Option Shutdown}
    (first : HandleUsed number before between) (second : HandleUsed number between after) :
    HandleUsed number before after := by
  cases before with
  | none =>
      obtain rfl : between = none := first
      exact second
  | some shutdown =>
      obtain ⟨middle, rfl, first⟩ := first
      obtain ⟨last, rfl, second⟩ := second
      exact ⟨last, rfl, first.trans second⟩

theorem HandleUsed.before {number : Nat} {handle : Option Shutdown} {last : Shutdown}
    (used : HandleUsed number handle (some last)) :
    ∃ first, handle = some first ∧ first.Used number last := by
  cases handle with
  | none => cases used
  | some first =>
      obtain ⟨_, same, used⟩ := used
      cases same
      exact ⟨first, rfl, used⟩

def Handler.Uses (number : Nat) (handler : Handler σ) : Prop :=
  ∀ invocation streams,
    HandleUsed number invocation.shutdown (handler.run.run invocation streams).2.1.shutdown

/-- An engine whose handlers leave the receiver of a number alone. -/
structure Engine.HandlersUse (number : Nat) (engine : Engine σ) : Prop where
  routes : ∀ route ∈ engine.table.routes, route.handler.Uses number
  statusRoutes : ∀ entry ∈ engine.table.statusRoutes, entry.2.handler.Uses number
  errorRoutes : ∀ entry ∈ engine.table.errorRoutes, entry.2.handler.Uses number

def Exchange.HandleKept (number : Nat) (step : Exchange σ → α × Exchange σ) : Prop :=
  ∀ exchange, HandleUsed number exchange.shutdown (step exchange).2.shutdown

variable {number : Nat}

theorem Filter.chain_kept {guarded : Exchange σ → Reply × Exchange σ}
    (kept : Exchange.HandleKept number guarded) (filters : List (Filter σ)) :
    Exchange.HandleKept number (chain guarded filters) := by
  induction filters with
  | nil => exact kept
  | cons filter ahead induction =>
      intro exchange
      have same : (exchange.perform (filter.apply exchange.head ahead.length)).2.shutdown =
          exchange.shutdown := rfl
      unfold chain
      generalize exchange.perform (filter.apply exchange.head ahead.length) = step at same ⊢
      obtain ⟨verdict, next⟩ := step
      simp only at same
      rw [← same]
      cases verdict with
      | answer reply => exact .refl number next.shutdown
      | proceed resume => exact induction next

namespace Attempt

def HandleKept (number : Nat) (attempt : Attempt σ α) : Prop :=
  Exchange.HandleKept number fun exchange => attempt.run exchange

theorem kept_pure (value : α) : HandleKept number (pure value : Attempt σ α) :=
  fun exchange => .refl number exchange.shutdown

theorem kept_throw (error : DispatchError) : HandleKept number (throw error : Attempt σ α) :=
  fun exchange => .refl number exchange.shutdown

theorem kept_reply (reply : Except DispatchError α) :
    HandleKept number (ofReply reply : Attempt σ α) :=
  fun exchange => .refl number exchange.shutdown

theorem kept_request : HandleKept number (request : Attempt σ Request) :=
  fun exchange => .refl number exchange.shutdown

theorem kept_update (change : Attributes → Attributes) :
    HandleKept number
      (modify fun exchange => exchange.updateAttributes change : Attempt σ Unit) :=
  fun exchange => .refl number exchange.shutdown

theorem kept_binding (binding : Binding α) :
    HandleKept number (tryBinding binding : Attempt σ (Except BindingError α)) :=
  fun exchange => .refl number exchange.shutdown

theorem kept_call {handler : Handler σ} (uses : handler.Uses number) (arguments : Arguments)
    (error : Option DispatchError) (ambient : Response) :
    HandleKept number (call handler arguments error ambient) := by
  intro exchange
  dsimp only
  rw [run_call]
  exact uses (exchange.invocation arguments error ambient) exchange.streams

theorem kept_bind_reached {attempt : Attempt σ α} {next : α → Attempt σ β}
    (first : HandleKept number attempt)
    (rest : ∀ value, (∃ exchange, (attempt.run exchange).1 = .ok value) →
      HandleKept number (next value)) : HandleKept number (attempt >>= next) := by
  intro exchange
  have step := first exchange
  simp only [run_bind]
  rcases reached : attempt.run exchange with ⟨error | value, between⟩
  · simp only [reached] at step
    exact step
  · simp only [reached] at step
    exact step.trans (rest value ⟨exchange, by rw [reached]⟩ between)

theorem kept_bind {attempt : Attempt σ α} {next : α → Attempt σ β}
    (first : HandleKept number attempt) (rest : ∀ value, HandleKept number (next value)) :
    HandleKept number (attempt >>= next) :=
  kept_bind_reached first fun value _ => rest value

end Attempt

namespace Engine

variable {engine : Engine σ}

theorem kept_resolve (engine : Engine σ) : Attempt.HandleKept number engine.resolve := by
  apply Attempt.kept_bind Attempt.kept_request
  intro request
  simp only
  split
  · exact Attempt.kept_throw _
  · exact Attempt.kept_throw _
  · exact Attempt.kept_throw _
  · exact Attempt.kept_bind (Attempt.kept_update _) fun _ => Attempt.kept_pure _
  · exact Attempt.kept_throw _

theorem kept_invoke (engine : Engine σ) {chosen : RouteMatch σ}
    (uses : chosen.route.handler.Uses number) (error : Option DispatchError)
    (ambient : Response) : Attempt.HandleKept number (engine.invoke chosen error ambient) := by
  have satisfied (arguments : Arguments) : Attempt.HandleKept number
      (Attempt.ofBinding (engine.satisfier chosen.route.spec arguments) : Attempt σ Arguments) :=
    Attempt.kept_bind (Attempt.kept_binding _) fun _ => Attempt.kept_reply _
  have looked (arguments : Arguments) : Attempt.HandleKept number
      (engine.bindFromBody chosen.route.spec arguments) := by
    apply Attempt.kept_bind Attempt.kept_request
    intro request
    split
    · exact Attempt.kept_pure _
    · apply Attempt.kept_bind (Attempt.kept_binding _)
      intro bound
      split
      · exact Attempt.kept_pure _
      · exact Attempt.kept_pure _
  refine Attempt.kept_bind (satisfied _) fun arguments => ?_
  refine Attempt.kept_bind (looked arguments) fun arguments => ?_
  split
  · exact Attempt.kept_throw _
  · refine Attempt.kept_bind (Attempt.kept_call uses _ _ _) fun answer => ?_
    exact Attempt.kept_bind (Attempt.kept_reply _) fun _ => Attempt.kept_pure _

variable (use : engine.HandlersUse number)
include use

theorem kept_first_pass : Exchange.HandleKept number engine.firstPass := by
  have terminal : Attempt.HandleKept number engine.routeTerminal := by
    apply Attempt.kept_bind_reached (kept_resolve engine)
    rintro chosen ⟨exchange, resolved⟩
    exact kept_invoke engine (use.routes _ (resolve_registered resolved)) none {}
  exact fun exchange => Filter.chain_kept terminal _ exchange

theorem kept_second_pass {passed : Reply × Exchange σ} {next : Redispatch σ}
    (again : engine.redispatch? passed = some next) :
    Exchange.HandleKept number (engine.secondPass next) := by
  have registered : next.route.handler.Uses number := by
    rcases redispatch_registered again with ⟨entry, listed, chosen⟩ | ⟨entry, listed, chosen⟩
    · exact chosen ▸ use.statusRoutes entry listed
    · exact chosen ▸ use.errorRoutes entry listed
  have invoked : Attempt.HandleKept number
      (engine.invoke { route := next.route } next.error (Response.ofStatus next.status)) :=
    kept_invoke engine registered next.error _
  exact fun exchange => Filter.chain_kept invoked _ exchange

/-- An exchange does to the handle what its handlers do. -/
theorem kept_service (freshId : String) : Exchange.HandleKept number (engine.service freshId) := by
  intro exchange
  have begun : (exchange.identified freshId).shutdown = exchange.shutdown := rfl
  rw [service_eq, dispatch_eq, ← begun]
  have first := kept_first_pass use (exchange.identified freshId)
  cases again : engine.redispatch? (engine.firstPass (exchange.identified freshId)) with
  | none => simpa only [again] using first
  | some next =>
      have second := kept_second_pass use again
        (next.begun (engine.firstPass (exchange.identified freshId)).2)
      have same : (next.begun (engine.firstPass (exchange.identified freshId)).2).shutdown =
          (engine.firstPass (exchange.identified freshId)).2.shutdown := by
        unfold Redispatch.begun
        split
        · rfl
        · rfl
      rw [same] at second
      simpa only [again] using first.trans second

end Engine

end StreamHttp
