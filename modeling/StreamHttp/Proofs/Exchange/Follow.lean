import StreamHttp.Proofs.Exchange.Agreement

/-!
Steps that follow other ones. The application of the second kind keeps a log beside the state of the
first; its filters and handlers put marks on the log, besides what they did before. Where every
filter does so, the marks of one run through them come in the order of a pass: those of entering
each filter, those of what the filters guard, and those of leaving each filter again.
-/

namespace StreamHttp

variable {σ τ μ α β γ δ : Type}

namespace Exchange

def noted (put : σ → List μ → τ) (log : List μ) (exchange : Exchange σ) : Exchange τ where
  toIntake := exchange.toIntake
  shutdown := exchange.shutdown
  app := put exchange.app log

/-- The second step does what the first one does, and puts marks of the given shape on the log. The
head of the request is given, and stays what it is. -/
def Follows (put : σ → List μ → τ) (head : Head) (same : α → β → Prop) (marks : List μ → Prop)
    (first : Exchange σ → α × Exchange σ) (second : Exchange τ → β × Exchange τ) : Prop :=
  ∀ exchange log, exchange.head = head → ∃ trace, marks trace ∧
    same (first exchange).1 (second (exchange.noted put log)).1 ∧
    (second (exchange.noted put log)).2 = (first exchange).2.noted put (log ++ trace) ∧
    (first exchange).2.head = head

end Exchange

/-- Verdicts that answer the same, or go on with programs of which one follows the other. -/
inductive Verdict.Follows (put : σ → List μ → τ) (leave : List μ) :
    Verdict σ → Verdict τ → Prop where
  | answer (reply : Reply) : Follows put leave (.answer reply) (.answer reply)
  | proceed {resume : Reply → Program (Passage σ) Reply}
      {other : Reply → Program (Passage τ) Reply}
      (behind : ∀ reply head, Exchange.Follows put head Eq (· = leave)
        (fun exchange => exchange.perform (resume reply))
        (fun exchange => exchange.perform (other reply))) :
      Follows put leave (.proceed resume) (.proceed other)

structure Filter.Follows (put : σ → List μ → τ) (enter leave : List μ) (first : Filter σ)
    (second : Filter τ) : Prop where
  once : second.oncePerRequest = first.oncePerRequest
  apply : ∀ head ahead, Exchange.Follows put head (Verdict.Follows put leave) (· = enter)
    (fun exchange => exchange.perform (first.apply head ahead))
    (fun exchange => exchange.perform (second.apply head ahead))

/-- How a log is kept: where, and the marks of filters, which are known by their number, and of
routes. -/
structure Scribe (σ τ μ : Type) where
  put : σ → List μ → τ
  observe : Nat → Filter σ → Filter τ
  enter : Nat → List μ
  leave : Nat → List μ
  route : RouteSpec → List μ
  errorRoute : RouteSpec → List μ
  observed : ∀ (number : Nat) (filter : Filter σ),
    filter.Follows put (enter number) (leave number) (observe number filter)

namespace Scribe

/-- The marks of one pass through filters to a core: a filter answers, or it goes on and is left
when what is ahead of it is done. -/
inductive Pass (scribe : Scribe σ τ μ) (core : List μ → Prop) : List Nat → List μ → Prop where
  | core {trace : List μ} (reached : core trace) : Pass scribe core [] trace
  | answered (number : Nat) (ahead : List Nat) :
      Pass scribe core (number :: ahead) (scribe.enter number)
  | continued {number : Nat} {ahead : List Nat} {trace : List μ}
      (inner : Pass scribe core ahead trace) :
      Pass scribe core (number :: ahead) (scribe.enter number ++ (trace ++ scribe.leave number))

variable (scribe : Scribe σ τ μ)

theorem chain_follows {head : Head} {core : List μ → Prop}
    {guarded : Exchange σ → Reply × Exchange σ} {other : Exchange τ → Reply × Exchange τ}
    (follows : Exchange.Follows scribe.put head Eq core guarded other)
    (filters : List (Filter σ × Nat)) :
    Exchange.Follows scribe.put head Eq (scribe.Pass core (filters.map Prod.snd))
      (Filter.chain guarded (filters.map Prod.fst))
      (Filter.chain other (filters.map fun entry => scribe.observe entry.2 entry.1)) := by
  induction filters with
  | nil =>
      intro exchange log named
      obtain ⟨trace, reached, done⟩ := follows exchange log named
      exact ⟨trace, .core reached, done⟩
  | cons entry rest induction =>
      obtain ⟨filter, number⟩ := entry
      intro exchange log named
      obtain ⟨_, rfl, verdicts, left, kept⟩ :=
        (scribe.observed number filter).apply exchange.head rest.length exchange log rfl
      have same : (exchange.noted scribe.put log).head = exchange.head := rfl
      simp only [List.map_cons, Filter.chain, List.length_map, same]
      rcases before : exchange.perform (filter.apply exchange.head rest.length) with
        ⟨verdict, between⟩
      rcases after : (exchange.noted scribe.put log).perform
        ((scribe.observe number filter).apply exchange.head rest.length) with ⟨others, behind⟩
      simp only [before, after] at verdicts left kept
      subst left
      cases verdicts with
      | answer reply => exact ⟨_, .answered number _, rfl, rfl, kept.trans named⟩
      | proceed behind =>
          obtain ⟨trace, inner, replies, left, kept⟩ := induction between _ (kept.trans named)
          simp only
          generalize Filter.chain guarded (rest.map Prod.fst) between = own at replies left kept ⊢
          generalize Filter.chain other (rest.map fun entry => scribe.observe entry.2 entry.1)
            (between.noted scribe.put (log ++ scribe.enter number)) = mate at replies left ⊢
          obtain ⟨reply, last⟩ := own
          obtain ⟨replyToo, lastToo⟩ := mate
          simp only at replies left kept
          subst replies left
          obtain ⟨_, rfl, answers, left, kept⟩ := behind reply head last _ kept
          refine ⟨_, .continued inner, answers, ?_, kept⟩
          have grouped : log ++ (scribe.enter number ++ (trace ++ scribe.leave number)) =
              log ++ scribe.enter number ++ trace ++ scribe.leave number := by
            simp only [List.append_assoc]
          rw [grouped]
          exact left

end Scribe

namespace Attempt

inductive Alike (same : α → β → Prop) : Except DispatchError α → Except DispatchError β → Prop where
  | error (error : DispatchError) : Alike same (.error error) (.error error)
  | ok {first : α} {second : β} (pair : same first second) : Alike same (.ok first) (.ok second)

theorem Alike.eq {first second : Except DispatchError α} (alike : Alike Eq first second) :
    first = second := by
  cases alike with
  | error _ => rfl
  | ok pair => rw [pair]

theorem Alike.refl (result : Except DispatchError α) : Alike Eq result result := by
  cases result with
  | error error => exact .error error
  | ok value => exact .ok rfl

def Follows (put : σ → List μ → τ) (head : Head) (same : α → β → Prop) (marks : List μ → Prop)
    (first : Attempt σ α) (second : Attempt τ β) : Prop :=
  Exchange.Follows put head (Alike same) marks (fun exchange => first.run exchange)
    (fun exchange => second.run exchange)

variable {put : σ → List μ → τ} {head : Head} {same : α → β → Prop} {next : γ → δ → Prop}

theorem follows_silent {step : Exchange σ → Except DispatchError α × Exchange σ}
    {other : Exchange τ → Except DispatchError β × Exchange τ}
    (kept : ∀ exchange, (step exchange).2.head = exchange.head)
    (alike : ∀ exchange log, Alike same (step exchange).1 (other (exchange.noted put log)).1 ∧
      (other (exchange.noted put log)).2 = (step exchange).2.noted put log) :
    Exchange.Follows put head (Alike same) (· = []) step other := by
  intro exchange log named
  refine ⟨[], rfl, (alike exchange log).1, ?_, (kept exchange).trans named⟩
  rw [List.append_nil]
  exact (alike exchange log).2

theorem follows_pure {first : α} {second : β} (pair : same first second) :
    Follows put head same (· = []) (pure first) (pure second) :=
  follows_silent (fun _ => rfl) fun _ _ => ⟨.ok pair, rfl⟩

theorem follows_throw (error : DispatchError) :
    Follows put head same (· = []) (throw error : Attempt σ α) (throw error : Attempt τ β) :=
  follows_silent (fun _ => rfl) fun _ _ => ⟨.error error, rfl⟩

theorem follows_reply (reply : Except DispatchError α) :
    Follows put head Eq (· = []) (ofReply reply : Attempt σ α) (ofReply reply : Attempt τ α) :=
  follows_silent (fun _ => rfl) fun _ _ => ⟨.refl reply, rfl⟩

theorem follows_update (change : Attributes → Attributes) :
    Follows put head Eq (· = [])
      (modify fun exchange => exchange.updateAttributes change : Attempt σ Unit)
      (modify fun exchange => exchange.updateAttributes change : Attempt τ Unit) :=
  follows_silent (fun _ => rfl) fun _ _ => ⟨.ok rfl, rfl⟩

theorem follows_request :
    Follows put head (fun first second => first = second ∧ first.head = head) (· = [])
      (request : Attempt σ Request) (request : Attempt τ Request) := by
  intro exchange log named
  exact ⟨[], rfl, .ok ⟨rfl, named⟩, by rw [List.append_nil]; rfl, named⟩

theorem follows_binding (binding : Binding α) :
    Follows put head Eq (· = []) (tryBinding binding : Attempt σ (Except BindingError α))
      (tryBinding binding : Attempt τ (Except BindingError α)) :=
  follows_silent (fun _ => rfl) fun _ _ => ⟨.ok rfl, rfl⟩

/-- The marks of an attempt that goes on are those of its parts, one behind the other. -/
theorem follows_bind {first : Attempt σ α} {second : Attempt τ β} {rest : α → Attempt σ γ}
    {other : β → Attempt τ δ} {marks later all : List μ → Prop}
    (start : Follows put head same marks first second)
    (behind : ∀ value mate, same value mate → Follows put head next later (rest value) (other mate))
    (stopped : ∀ trace, marks trace → all trace)
    (joined : ∀ trace more, marks trace → later more → all (trace ++ more)) :
    Follows put head next all (first >>= rest) (second >>= other) := by
  intro exchange log named
  obtain ⟨trace, marked, alike, left, kept⟩ := start exchange log named
  simp only [run_bind]
  rcases before : first.run exchange with ⟨result, between⟩
  rcases after : second.run (exchange.noted put log) with ⟨results, betweenToo⟩
  simp only [before, after] at alike left kept
  subst left
  cases alike with
  | error error => exact ⟨trace, stopped trace marked, .error error, rfl, kept⟩
  | ok pair =>
      obtain ⟨more, markedToo, alike, left, kept⟩ := behind _ _ pair between (log ++ trace) kept
      refine ⟨trace ++ more, joined trace more marked markedToo, alike, ?_, kept⟩
      rw [← List.append_assoc]
      exact left

theorem follows_bind_silent {first : Attempt σ α} {second : Attempt τ β} {rest : α → Attempt σ γ}
    {other : β → Attempt τ δ} {marks : List μ → Prop}
    (start : Follows put head same (· = []) first second) (empty : marks [])
    (behind : ∀ value mate, same value mate →
      Follows put head next marks (rest value) (other mate)) :
    Follows put head next marks (first >>= rest) (second >>= other) := by
  refine follows_bind start behind ?_ ?_
  · rintro _ rfl
    exact empty
  · rintro _ more rfl marked
    exact marked

theorem Follows.weaken {first : Attempt σ α} {second : Attempt τ β} {marks more : List μ → Prop}
    (follows : Follows put head same marks first second)
    (weaker : ∀ trace, marks trace → more trace) :
    Follows put head same more first second := by
  intro exchange log named
  obtain ⟨trace, marked, done⟩ := follows exchange log named
  exact ⟨trace, weaker trace marked, done⟩

theorem Follows.reply {first : Attempt σ α} {second : Attempt τ α} {marks : List μ → Prop}
    (follows : Follows put head Eq marks first second) :
    Exchange.Follows put head Eq marks (fun exchange => first.run exchange)
      (fun exchange => second.run exchange) := by
  intro exchange log named
  obtain ⟨trace, marked, alike, done⟩ := follows exchange log named
  exact ⟨trace, marked, alike.eq, done⟩

end Attempt

end StreamHttp
