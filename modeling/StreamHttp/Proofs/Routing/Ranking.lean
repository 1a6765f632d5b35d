import Mathlib.Data.Prod.Lex
import StreamHttp.Proofs.Routing.Table

/-!
Which error route a table has for an error, and which route for a status. Of all that fit, it is the
one in front by the place of the error it fits in the chain of causes, then the group of the origin
before no group, then the order of registration. Routes of other groups are never among them.
-/

namespace StreamHttp

/-- One of those that are eligible, with none of them in front of it. -/
def Foremost {ι β : Type} [LE β] (rank : ι → β) (eligible : ι → Prop) (item : ι) : Prop :=
  eligible item ∧ ∀ other, eligible other → rank item ≤ rank other

/-- A search by rank: it gives what the foremost item stands for, and nothing only where nothing is
eligible. -/
structure Selects {ι β α : Type} [LE β] (rank : ι → β) (eligible : ι → Prop) (output : ι → α)
    (found : Option α) : Prop where
  foremost : ∀ {result}, found = some result → ∃ item, Foremost rank eligible item ∧
    output item = result
  absent : found = none → ∀ item, ¬eligible item
  distinct : ∀ {item other}, eligible item → eligible other → rank item = rank other → item = other

namespace Selects

variable {ι α β γ : Type} [PartialOrder β] {rank : ι → β} {eligible : ι → Prop} {output : ι → α}
  {found : Option α}

theorem unique (selects : Selects rank eligible output found) {item other : ι}
    (first : Foremost rank eligible item) (second : Foremost rank eligible other) : item = other :=
  selects.distinct first.1 second.1 (le_antisymm (first.2 other second.1) (second.2 item first.1))

theorem some_iff (selects : Selects rank eligible output found) {result : α} :
    found = some result ↔ ∃ item, Foremost rank eligible item ∧ output item = result := by
  constructor
  · exact selects.foremost
  · rintro ⟨item, first, rfl⟩
    cases same : found with
    | none => exact absurd first.1 (selects.absent same item)
    | some result =>
        obtain ⟨other, second, rfl⟩ := selects.foremost same
        rw [selects.unique first second]

theorem none_iff (selects : Selects rank eligible output found) :
    found = none ↔ ∀ item, ¬eligible item := by
  constructor
  · exact selects.absent
  · intro nothing
    cases same : found with
    | none => rfl
    | some result =>
        obtain ⟨item, first, _⟩ := selects.foremost same
        exact absurd first.1 (nothing item)

theorem map (selects : Selects rank eligible output found) (change : α → γ) :
    Selects rank eligible (fun item => change (output item)) (found.map change) where
  foremost := by
    intro result same
    obtain ⟨inner, chosen, rfl⟩ := Option.map_eq_some_iff.1 same
    obtain ⟨item, first, rfl⟩ := selects.foremost chosen
    exact ⟨item, first, rfl⟩
  absent := fun same => selects.absent (Option.map_eq_none_iff.1 same)
  distinct := selects.distinct

end Selects

structure Numbered (α : Type) where
  number : Nat
  entry : α

structure Linked (α : Type) extends Numbered α where
  depth : Nat
  link : Cause

namespace Numbered

variable {α : Type} {entries before after : List α} {middle : α} {fits : α → Bool}
  {item other : Numbered α}

def Among (entries : List α) (fits : α → Bool) (item : Numbered α) : Prop :=
  entries[item.number]? = some item.entry ∧ fits item.entry = true

theorem among_distinct (first : Among entries fits item) (second : Among entries fits other)
    (same : item.number = other.number) : item = other := by
  obtain ⟨number, entry⟩ := item
  obtain ⟨_, entry'⟩ := other
  obtain rfl : number = _ := same
  have entries_same : some entry = some entry' := first.1.symm.trans second.1
  rw [Option.some.inj entries_same]

theorem among_front (passed : ∀ skipped ∈ before, fits skipped = false)
    (among : Among (before ++ middle :: after) fits item) : before.length ≤ item.number := by
  by_contra earlier
  have listed := among.1
  rw [List.getElem?_append_left (Nat.lt_of_not_le earlier)] at listed
  have refused := passed item.entry (List.mem_of_getElem? listed)
  exact Bool.false_ne_true (refused.symm.trans among.2)

theorem among_back (passed : ∀ skipped ∈ after, fits skipped = false)
    (among : Among (before ++ middle :: after) fits item) : item.number ≤ before.length := by
  by_contra later
  have listed := among.1
  have beyond : (before ++ [middle]).length ≤ item.number := by
    rw [List.length_append, List.length_singleton]
    exact Nat.lt_of_not_le later
  rw [List.append_cons, List.getElem?_append_right beyond] at listed
  have refused := passed item.entry (List.mem_of_getElem? listed)
  exact Bool.false_ne_true (refused.symm.trans among.2)

theorem selects_find (entries : List α) (fits : α → Bool) :
    Selects Numbered.number (Among entries fits) Numbered.entry (entries.find? fits) where
  foremost := by
    intro chosen found
    obtain ⟨holds, before, after, rfl, passed⟩ := List.find?_eq_some_iff_append.1 found
    have skipped : ∀ entry ∈ before, fits entry = false := by simpa using passed
    exact ⟨⟨before.length, chosen⟩, ⟨⟨by simp, holds⟩, fun _ => among_front skipped⟩, rfl⟩
  absent := fun none _ among =>
    List.find?_eq_none.1 none _ (List.mem_of_getElem? among.1) among.2
  distinct := among_distinct

theorem selects_find_last (entries : List α) (fits : α → Bool) :
    Selects (fun item => OrderDual.toDual item.number) (Among entries fits) Numbered.entry
      (entries.reverse.find? fits) where
  foremost := by
    intro chosen found
    obtain ⟨holds, after, before, same, passed⟩ := List.find?_eq_some_iff_append.1 found
    obtain rfl : entries = before.reverse ++ chosen :: after.reverse := by
      rw [← List.reverse_reverse entries, same]
      simp
    have skipped : ∀ entry ∈ after.reverse, fits entry = false := by simpa using passed
    exact ⟨⟨before.reverse.length, chosen⟩, ⟨⟨by simp, holds⟩, fun _ => among_back skipped⟩, rfl⟩
  absent := fun none _ among =>
    List.find?_eq_none.1 none _ (List.mem_reverse.2 (List.mem_of_getElem? among.1)) among.2
  distinct := fun first second same => among_distinct first second (OrderDual.toDual_inj.1 same)

end Numbered

namespace Linked

variable {α β γ : Type}

def Along (chain : List Cause) (eligible : Cause → Numbered α → Prop) (item : Linked α) : Prop :=
  chain[item.depth]? = some item.link ∧ eligible item.link item.toNumbered

def rankBy (rank : Numbered α → β) (item : Linked α) : Nat ×ₗ β :=
  toLex (item.depth, rank item.toNumbered)

theorem selects_along [PartialOrder β] {rank : Numbered α → β}
    {eligible : Cause → Numbered α → Prop} {output : Cause → Numbered α → γ}
    {search : Cause → Option γ}
    (each : ∀ link, Selects rank (eligible link) (output link) (search link))
    (chain : List Cause) :
    Selects (rankBy rank) (Along chain eligible) (fun item => output item.link item.toNumbered)
      (chain.findSome? search) where
  foremost := by
    intro result found
    obtain ⟨outer, link, inner, rfl, chosen, passed⟩ := List.findSome?_eq_some_iff.1 found
    obtain ⟨item, first, same⟩ := (each link).foremost chosen
    refine ⟨{ toNumbered := item, depth := outer.length, link }, ⟨⟨by simp, first.1⟩, ?_⟩, same⟩
    intro other along
    rw [rankBy, rankBy, Prod.Lex.toLex_le_toLex]
    -- The search passed the links further out, so nothing is eligible for them.
    rcases Nat.lt_trichotomy outer.length other.depth with deeper | level | outside
    · exact .inl deeper
    · have same_link : other.link = link := by
        have listed := along.1
        rw [← level] at listed
        simpa using listed.symm
      exact .inr ⟨level, first.2 _ (same_link ▸ along.2)⟩
    · have listed := along.1
      rw [List.getElem?_append_left outside] at listed
      have nothing := passed other.link (List.mem_of_getElem? listed)
      exact absurd along.2 ((each other.link).absent nothing _)
  absent := by
    intro none item along
    have nothing := List.findSome?_eq_none_iff.1 none item.link (List.mem_of_getElem? along.1)
    exact (each item.link).absent nothing _ along.2
  distinct := by
    rintro ⟨item, depth, link⟩ ⟨other, depth', link'⟩ first second same
    obtain ⟨rfl, level⟩ := Prod.mk.inj (toLex.injective same)
    obtain rfl : link = link' := Option.some.inj (first.1.symm.trans second.1)
    obtain rfl : item = other := (each link).distinct first.2 second.2 level
    rfl

end Linked

variable {σ κ : Type}

namespace Route

def isLocal (origin : Option RouteSpec) (route : Route σ) : Bool :=
  let group := origin.bind RouteSpec.group
  group.isSome && route.spec.group == group

def isForeign (origin : Option RouteSpec) (route : Route σ) : Bool :=
  route.spec.group.isSome && route.spec.group != origin.bind RouteSpec.group

theorem not_foreign (origin : Option RouteSpec) (route : Route σ) :
    (!route.isForeign origin) = (route.isLocal origin || route.spec.group.isNone) := by
  unfold isForeign isLocal
  generalize route.spec.group = own
  generalize origin.bind RouteSpec.group = group
  cases own with
  | none => simp
  | some own =>
      cases group with
      | none => rfl
      | some group => simp [bne]

theorem local_grouped {origin : Option RouteSpec} {route : Route σ}
    (near : route.isLocal origin = true) : route.spec.group.isNone = false := by
  obtain ⟨grouped, same⟩ := (Bool.and_eq_true _ _).mp near
  rw [eq_of_beq same, Option.isNone_eq_false_iff]
  exact grouped

end Route

namespace RouteTable

variable {entries : List (κ × Route σ)} {origin : Option RouteSpec} {fits : κ → Bool}
  {item other : Numbered (κ × Route σ)}

def Eligible (entries : List (κ × Route σ)) (origin : Option RouteSpec) (fits : κ → Bool) :
    Numbered (κ × Route σ) → Prop :=
  Numbered.Among entries fun entry => fits entry.1 && !entry.2.isForeign origin

/-- Routes of a group stand before those of none, then those registered first. -/
def scopeRank (item : Numbered (κ × Route σ)) : Bool ×ₗ Nat :=
  toLex (item.entry.2.spec.group.isNone, item.number)

theorem eligible_iff : Eligible entries origin fits item ↔
    Numbered.Among entries (fun entry => entry.2.isLocal origin && fits entry.1) item ∨
      Numbered.Among entries (fun entry => entry.2.spec.group.isNone && fits entry.1) item := by
  simp only [Eligible, Numbered.Among, Route.not_foreign, Bool.and_eq_true, Bool.or_eq_true]
  tauto

theorem rank_local
    (among : Numbered.Among entries (fun entry => entry.2.isLocal origin && fits entry.1) item) :
    scopeRank item = toLex (false, item.number) := by
  obtain ⟨near, _⟩ := (Bool.and_eq_true _ _).mp among.2
  rw [scopeRank, Route.local_grouped near]

theorem rank_global
    (among : Numbered.Among entries (fun entry => entry.2.spec.group.isNone && fits entry.1) item) :
    scopeRank item = toLex (true, item.number) := by
  obtain ⟨free, _⟩ := (Bool.and_eq_true _ _).mp among.2
  rw [scopeRank, free]

theorem in_scope_eq (entries : List (κ × Route σ)) (origin : Option RouteSpec) :
    inScope entries origin = (entries.filter fun entry => entry.2.isLocal origin) ++
      entries.filter fun entry => entry.2.spec.group.isNone := rfl

/-- The scan of the entries in scope, by the numbers they have in the table. -/
theorem selects_in_scope (entries : List (κ × Route σ)) (origin : Option RouteSpec)
    (fits : κ → Bool) :
    Selects scopeRank (Eligible entries origin fits) (fun item => item.entry.2)
      (((inScope entries origin).find? fun entry => fits entry.1).map Prod.snd) := by
  have near := Numbered.selects_find entries fun entry =>
    entry.2.isLocal origin && fits entry.1
  have far := Numbered.selects_find entries fun entry =>
    entry.2.spec.group.isNone && fits entry.1
  have parts : ((inScope entries origin).find? fun entry => fits entry.1) =
      (entries.find? fun entry => entry.2.isLocal origin && fits entry.1).or
        (entries.find? fun entry => entry.2.spec.group.isNone && fits entry.1) := by
    rw [in_scope_eq, List.find?_append, List.find?_filter, List.find?_filter]
    simp only [Bool.decide_and, Bool.decide_eq_true]
  rw [parts]
  refine Selects.map ⟨?_, ?_, ?_⟩ Prod.snd
  · intro entry found
    -- Numbers count within one scope only; between the two the group decides.
    rcases Option.or_eq_some_iff.1 found with chosen | ⟨none, chosen⟩
    · obtain ⟨item, first, rfl⟩ := near.foremost chosen
      refine ⟨item, ⟨eligible_iff.2 (.inl first.1), fun other eligible => ?_⟩, rfl⟩
      rw [rank_local first.1]
      rcases eligible_iff.1 eligible with among | among
      · rw [rank_local among]
        exact Prod.Lex.toLex_le_toLex.2 (.inr ⟨rfl, first.2 other among⟩)
      · rw [rank_global among]
        exact Prod.Lex.toLex_le_toLex.2 (.inl Bool.false_lt_true)
    · obtain ⟨item, first, rfl⟩ := far.foremost chosen
      refine ⟨item, ⟨eligible_iff.2 (.inr first.1), fun other eligible => ?_⟩, rfl⟩
      rw [rank_global first.1]
      rcases eligible_iff.1 eligible with among | among
      · exact absurd among (near.absent none other)
      · rw [rank_global among]
        exact Prod.Lex.toLex_le_toLex.2 (.inr ⟨rfl, first.2 other among⟩)
  · intro none item eligible
    obtain ⟨none_near, none_far⟩ := Option.or_eq_none_iff.1 none
    rcases eligible_iff.1 eligible with among | among
    · exact near.absent none_near item among
    · exact far.absent none_far item among
  · intro item other first second same
    obtain ⟨_, numbers⟩ := Prod.mk.inj (toLex.injective same)
    exact Numbered.among_distinct first second numbers

def OfStatus (table : RouteTable σ) (origin : Option RouteSpec) (status : Status) :
    Numbered (Status × Route σ) → Prop :=
  Eligible table.statusRoutes origin fun registered => registered == status

def OfError (table : RouteTable σ) (origin : Option RouteSpec) (cause : Cause) :
    Linked (ErrorKind × Route σ) → Prop :=
  Linked.Along cause.chain fun link =>
    Eligible table.errorRoutes origin fun kind => link.isOf kind

theorem selects_status_route (table : RouteTable σ) (origin : Option RouteSpec) (status : Status) :
    Selects scopeRank (table.OfStatus origin status) (fun item => item.entry.2)
      (table.statusRoute? origin status) :=
  selects_in_scope table.statusRoutes origin fun registered => registered == status

theorem selects_error_route (table : RouteTable σ) (origin : Option RouteSpec) (cause : Cause) :
    Selects (Linked.rankBy scopeRank) (table.OfError origin cause) (fun item => item.entry.2)
      (table.errorRoute? origin cause) := by
  have each (link : Cause) := selects_in_scope table.errorRoutes origin fun kind => link.isOf kind
  exact Linked.selects_along each cause.chain

/-- A table without the status routes and error routes that are foreign to the origin. -/
def known (origin : Option RouteSpec) (table : RouteTable σ) : RouteTable σ :=
  { table with
    statusRoutes := table.statusRoutes.filter fun entry => !entry.2.isForeign origin
    errorRoutes := table.errorRoutes.filter fun entry => !entry.2.isForeign origin }

theorem in_scope_known (entries : List (κ × Route σ)) (origin : Option RouteSpec) :
    inScope (entries.filter fun entry => !entry.2.isForeign origin) origin =
      inScope entries origin := by
  simp only [in_scope_eq, List.filter_filter, Route.not_foreign]
  congr 1
  · refine List.filter_congr fun entry _ => ?_
    cases entry.2.isLocal origin <;> rfl
  · refine List.filter_congr fun entry _ => ?_
    cases entry.2.spec.group.isNone <;> simp

theorem status_route_known (table : RouteTable σ) (origin : Option RouteSpec) (status : Status) :
    (table.known origin).statusRoute? origin status = table.statusRoute? origin status := by
  rw [statusRoute?, statusRoute?, known, in_scope_known]

theorem error_route_known (table : RouteTable σ) (origin : Option RouteSpec) (cause : Cause) :
    (table.known origin).errorRoute? origin cause = table.errorRoute? origin cause := by
  rw [errorRoute?, errorRoute?, known, in_scope_known]

end RouteTable

end StreamHttp
