import SwitchService.Repositories.ChannelWrites
import SwitchService.Runs.Concurrent
import SwitchService.Services.RouteAnswer

set_option autoImplicit false

/-!
# Runs: readers and writers of the registry

Any number of `listChannelsCached` and `route` calls run at the same time as calls of
`setEnabled`, `upsertChannel` and `deleteAllChannels`, in one process with one cache.  A
reader works with a list that the cache or its own query gave it; a writer has sent its
statement and cleared the cache when it returns.
-/

namespace SwitchService.Runs

open SwitchService.Foundation SwitchService.Domain SwitchService.Store
open SwitchService.Repositories SwitchService.Services

/-! ## The pool -/

/-- Readers of the channel list, and writers of the table. -/
inductive RegistryTask where
  | listChannelsCached (now : ℚ)
  | route (rng : Rng) (uuid : String) (transactionId : String)
      (supportedChannels : Option (List String))
  | setEnabled (id : String) (enabled : Bool)
  | upsertChannel (input : UpsertChannelInput)
  | deleteAllChannels

/-- What such a task resolves to. -/
inductive RegistryResult where
  | channels (channels : List Channel)
  | decision (decision : RoutingDecision)
  | written (channel : Option Channel)

section

variable (config : Config) (localeCompare : String → String → Ordering)
  (idOrder : String → String → Bool) (corridor : String)

/-- The readers all ask for one corridor. -/
def RegistryTask.program : RegistryTask → RegistryProgram RegistryResult
  | .listChannelsCached now => do
      let channels ← reader (Repositories.listChannelsCached now corridor)
      return .channels channels
  | .route rng uuid transactionId supportedChannels => do
      let decision ← reader (Services.route config.routing localeCompare rng uuid
        { transactionId, corridor, supportedChannels })
      return .decision decision
  | .setEnabled id enabled => do
      let channel ← Repositories.setEnabled id enabled
      return .written channel
  | .upsertChannel input => do
      let channel ← Repositories.upsertChannel input
      return .written (some channel)
  | .deleteAllChannels => do
      let _ ← Repositories.deleteAllChannels
      return .written none

/-- The statement of a writer. -/
def RegistryTask.writes : RegistryTask → Option RegistryCall
  | .setEnabled id enabled => some (.update id enabled)
  | .upsertChannel input => some (.upsert input)
  | .deleteAllChannels => some .deleteAll
  | _ => none

/-- The answer to a call that ends in a given way. -/
def registryAnswer : Pool.Answer Fate World Failure RegistryCall.Ans := fun fate call w =>
  match call.isAwaited, fate with
  | true, .refused failure => (.error failure, w)
  | true, .lost failure => (.error failure, (performRegistry config idOrder call w).2)
  | _, _ => performRegistry config idOrder call w

end

/-- What happens besides the calls. -/
inductive RegistryChange where
  | advance (elapsed : ℚ≥0)
  | clearCache

/-- What such a change does. -/
def RegistryChange.apply : RegistryChange → World → World
  | .advance elapsed, w => { w with now := w.now + elapsed }
  | .clearCache, w => clearChannelCache w

/-- A pool of readers and writers. -/
abbrev RegistryPool (ι : Type) : Type :=
  Pool Fate World Failure RegistryCall.Ans fun _ : ι => RegistryResult

/-- A call of a reader or writer, as the log keeps it. -/
abbrev RegistryEntry (ι : Type) : Type := Entry ι Fate World Failure RegistryCall.Ans

section

variable {ι : Type} [DecidableEq ι] (config : Config)
  (localeCompare : String → String → Ordering) (idOrder : String → String → Bool)
  (corridor : String)

/-- The tasks before their first calls. -/
def RegistryPool.start (tasks : ι → RegistryTask) (w : World) : RegistryPool ι :=
  Pool.start (fun i => (tasks i).program config localeCompare corridor) w

/-- One step of the pool. -/
def RegistryPool.next (pool : RegistryPool ι) (move : Move ι Fate RegistryChange) :
    RegistryPool ι :=
  Pool.next (registryAnswer config idOrder) RegistryChange.apply pool move

/-- The pool after a run. -/
def RegistryPool.after (tasks : ι → RegistryTask) (w : World)
    (moves : List (Move ι Fate RegistryChange)) : RegistryPool ι :=
  runFrom (RegistryPool.next config idOrder)
    (RegistryPool.start config localeCompare corridor tasks w) moves

end

/-! ## What a task has noted -/

/-- The lists that a reader got, and how far a writer has come. -/
structure Noted where
  /-- The list that the cache gave. -/
  cached : Option (List Channel)
  /-- The list that the query gave. -/
  queried : Option (List Channel)
  wrote : Bool
  cleared : Bool

/-- A task before its first call. -/
def Noted.init : Noted where
  cached := none
  queried := none
  wrote := false
  cleared := false

/-- What a reply tells a task. -/
def Noted.next (noted : Noted) : (call : RegistryCall) → Except Failure call.Ans → Noted
  | .store .getCache, .ok (some entry) => { noted with cached := some entry.channels }
  | .store (.queryChannels _), .ok rows => { noted with queried := some (rows.map toChannel) }
  | .update .., .ok _ | .upsert _, .ok _ | .deleteAll, .ok _ => { noted with wrote := true }
  | .clearCache, _ => { noted with cleared := true }
  | _, _ => noted

/-- A list that the task works with. -/
def Noted.Has (noted : Noted) (channels : List Channel) : Prop :=
  noted.cached = some channels ∨ noted.queried = some channels

/-- The calls of a task: it queries once, fills the cache with what it queried, sends its
own statement, and clears the cache after that. -/
def Noted.Allows (corridor : String) (task : RegistryTask) (noted : Noted) :
    RegistryCall → Prop
  | .store (.queryChannels asked) => asked = corridor ∧ noted.queried = none
  | .store (.setCache entry) => noted.queried = some entry.channels
  | .store _ => True
  | .clearCache => noted.wrote = true
  | call => task.writes = some call

/-- What a task has noted decides which calls it may make. -/
def registryProtocol (corridor : String) (task : RegistryTask) :
    Prog.Protocol RegistryCall RegistryCall.Ans Failure Noted where
  allows := Noted.Allows corridor task
  next := Noted.next

/-- How a task ends: a list is one that it got, a decision names an enabled channel of such
a list, and a writer has cleared the cache. -/
def Noted.Ended (noted : Noted) : Except Failure RegistryResult → Prop
  | .ok (.channels channels) => noted.Has channels
  | .ok (.decision decision) => ∃ channels, noted.Has channels ∧
      ∃ channel ∈ channels, channel.id = decision.channelId ∧ channel.enabled = true
  | .ok (.written _) => noted.cleared = true
  | .error _ => True

/-! ## The list of a reader -/

section

variable {corridor : String} {task : RegistryTask} {noted : Noted}

/-- The readers' calls under the protocol of a task. -/
abbrev readerProtocol (corridor : String) (task : RegistryTask) :
    Prog.Protocol Call Call.Ans Failure Noted :=
  (registryProtocol corridor task).along RegistryCall.store

/-- The list of a reader is the cached one or the queried one. -/
theorem follows_reader_list (now : ℚ) (h : noted.queried = none) :
    Prog.Follows (readerProtocol corridor task)
      (fun noted' result => ∀ channels, result = .ok channels → noted'.Has channels)
      (Repositories.listChannelsCached now corridor) noted := by
  have hrefill (noted : Noted) (h : noted.queried = none) :
      Prog.Follows (readerProtocol corridor task)
        (fun noted' result => ∀ channels, result = .ok channels → noted'.Has channels)
        (refillCache now corridor) noted := by
    refine Prog.follows_bind
      (fun noted' result => ∀ channels, result = .ok channels →
        noted'.queried = some channels) ?_ ?_ fun _ _ _ _ heq => by cases heq
    · refine Prog.follows_await_bind ⟨rfl, h⟩ (fun rows => ?_) fun _ _ heq => by cases heq
      rintro channels heq
      cases heq
      rfl
    · intro channels noted' hqueried
      refine Prog.follows_await_bind (hqueried channels rfl) (fun _ => ?_)
        fun _ _ heq => by cases heq
      rintro got heq
      cases heq
      exact .inr (hqueried channels rfl)
  refine Prog.follows_await_bind trivial (fun cache => ?_) fun _ _ heq => by cases heq
  cases cache with
  | none => exact hrefill _ h
  | some entry =>
      dsimp only
      split
      · rintro channels heq
        cases heq
        exact .inl rfl
      · exact hrefill _ h

end

/-! ## The channel of a decision -/

/-- The part of a route call that leaves the registry alone. -/
def apartProtocol : Prog.Protocol Call Call.Ans Failure Unit where
  allows _ op := looksUp op = true → op = .now
  next _ _ _ := ()

/-- The decision names an enabled channel of the list. -/
def NamesEnabled (channels : List Channel) (result : Except Failure RoutingDecision) : Prop :=
  ∀ decision, result = .ok decision →
    ∃ channel ∈ channels, channel.id = decision.channelId ∧ channel.enabled = true

section

variable {config : Config}

/-- Calls that are apart from the registry can be made with anything noted. -/
theorem follows_apart {corridor : String} {task : RegistryTask} {noted : Noted} {α : Type}
    {post : Except Failure α → Prop} {program : Program α}
    (h : Prog.Follows apartProtocol (fun _ result => post result) program ()) :
    Prog.Follows (readerProtocol corridor task)
      (fun noted' result => noted' = noted ∧ post result) program noted := by
  refine (h.simulate (Q := readerProtocol corridor task) (R := fun _ noted' => noted' = noted)
    ?_ ?_ rfl).mono fun _ _ ⟨_, hsame, hpost⟩ => ⟨hsame, hpost⟩
  · intro _ noted' op _ hop
    cases op with
    | getCache | setCache | queryChannels => cases hop rfl
    | _ => trivial
  · rintro _ noted' op reply rfl hop
    cases op with
    | getCache | setCache | queryChannels => cases hop rfl
    | _ => rfl

theorem apart_of_not_looksUp {op : Call} (h : looksUp op = false) :
    apartProtocol.allows () op := fun hop => by rw [h] at hop; cases hop

theorem follows_persist_apart (decision : RoutingDecision) (transactionId : String) :
    Prog.Follows apartProtocol (fun _ _ => True) (persist decision transactionId) () :=
  Prog.follows_tryCatch (fun _ _ => True)
    (Prog.follows_await (apart_of_not_looksUp rfl) (fun _ => trivial) fun _ => trivial)
    (fun _ _ _ => trivial) fun _ _ _ => trivial

theorem follows_refreshBreakers_apart (metrics : Metrics) (now : ℚ) (ids : List String)
    (next : String → Option BreakerSnapshot) :
    Prog.Follows apartProtocol (fun _ _ => True)
      (refreshBreakers config.routing metrics now ids next) () := by
  induction ids generalizing next with
  | nil => trivial
  | cons id ids ih =>
      unfold refreshBreakers
      refine Prog.follows_bind (fun _ _ => True) ?_ (fun _ _ _ => ih _) fun _ _ _ => trivial
      unfold writeRefreshed
      split
      · exact Prog.follows_tryCatch (fun _ _ => True)
          (Prog.follows_await (apart_of_not_looksUp rfl) (fun _ => trivial) fun _ => trivial)
          (fun _ _ _ => trivial) fun _ _ _ => trivial
      · trivial

/-- What is chosen is an eligible candidate. -/
theorem follows_chooseChannel_apart (candidates : List Candidate) (rng : Rng) :
    Prog.Follows apartProtocol
      (fun _ result => ∀ chosen, result = .ok chosen →
        ∃ c ∈ candidates, c.eligible = true ∧ c.channelId = chosen.2.channelId)
      (chooseChannel config.routing candidates rng) () := by
  unfold chooseChannel
  split
  · rintro _ ⟨⟩
  · rename_i first rng' hfirst
    have hfound := select_eligible hfirst
    split
    · refine Prog.follows_await_bind (apart_of_not_looksUp rfl) (fun gotSlot => ?_)
        fun _ _ heq => by cases heq
      split
      · rintro chosen ⟨⟩
        exact hfound
      · dsimp only
        split
        · rintro _ ⟨⟩
        · rename_i second hsecond
          rintro chosen ⟨⟩
          obtain ⟨c, hmem, heligible, hid⟩ := select_eligible (Prod.ext hsecond rfl)
          exact ⟨c, (eligible_of_mem_markInFlight hmem heligible).1, heligible, hid⟩
    · rintro chosen ⟨⟩
      exact hfound

theorem follows_decideWith_apart (localeCompare : String → String → Ordering) (rng : Rng)
    (uuid : String) (request : RouteRequest) (now : ℚ) (channels : List Channel)
    (metrics : Metrics) :
    Prog.Follows apartProtocol (fun _ result => NamesEnabled channels result)
      (decideWith config.routing localeCompare rng uuid request now channels metrics) () := by
  unfold decideWith
  refine Prog.follows_bind (fun _ _ => True) (follows_refreshBreakers_apart metrics now _ _) ?_
    fun _ _ _ _ heq => by cases heq
  intro breakers _ _
  refine Prog.follows_bind _ (follows_chooseChannel_apart _ rng) ?_
    fun _ _ _ _ heq => by cases heq
  rintro ⟨published, selection⟩ _ hchosen
  refine Prog.follows_await_bind (fun _ => rfl) (fun evaluatedAt => ?_)
    fun _ _ heq => by cases heq
  refine Prog.follows_bind (fun _ _ => True) (follows_persist_apart _ _) ?_
    fun _ _ _ _ heq => by cases heq
  rintro _ _ _ decision ⟨⟩
  obtain ⟨c, hc, heligible, hid⟩ := hchosen _ rfl
  obtain ⟨channel, hchannel, rank, rfl⟩ := mem_buildCandidates hc
  exact ⟨channel, hchannel, hid, (eligibilityOf_eligible heligible).1⟩

theorem follows_degradedDecision_apart (uuid : String) (channels : List Channel)
    (request : RouteRequest) (now : ℚ) :
    Prog.Follows apartProtocol (fun _ result => NamesEnabled channels result)
      (degradedDecision config.routing uuid channels request now) () := by
  unfold degradedDecision
  split
  · rintro _ ⟨⟩
  · rename_i first hfind
    refine Prog.follows_bind (fun _ _ => True) (follows_persist_apart _ _) ?_
      fun _ _ _ _ heq => by cases heq
    rintro _ _ _ decision ⟨⟩
    obtain ⟨i, hi, hcandidate⟩ := List.mem_mapIdx.mp (List.mem_of_find?_eq_some hfind)
    have heligible : first.eligible = true := by simpa using List.find?_some hfind
    rw [← hcandidate] at heligible ⊢
    exact ⟨channels[i], List.getElem_mem hi, rfl, heligible⟩

/-- A route call with its list names an enabled channel of it, whatever the other calls
answer. -/
theorem follows_routeAmong_apart (localeCompare : String → String → Ordering) (rng : Rng)
    (uuid : String) (request : RouteRequest) (now : ℚ) (all : List Channel) :
    Prog.Follows apartProtocol (fun _ result => NamesEnabled all result)
      (routeAmong config.routing localeCompare rng uuid request now all) () := by
  have hreachable {result : Except Failure RoutingDecision}
      (h : NamesEnabled (reachable request all) result) : NamesEnabled all result := by
    intro decision hdecision
    obtain ⟨channel, hchannel, hnamed⟩ := h decision hdecision
    refine ⟨channel, ?_, hnamed⟩
    unfold reachable at hchannel
    split at hchannel
    · exact (List.mem_filter.mp hchannel).1
    · exact hchannel
  unfold routeAmong
  dsimp only
  split
  · rintro _ ⟨⟩
  · refine Prog.follows_bind (fun _ _ => True) ?_ ?_ fun _ _ _ _ heq => by cases heq
    · refine Prog.follows_tryCatch (fun _ _ => True) ?_ (fun _ _ _ => trivial)
        fun _ _ _ => trivial
      refine Prog.follows_bind (fun _ _ => True) ?_ (fun _ _ _ => trivial) fun _ _ _ => trivial
      refine Prog.follows_await_bind (apart_of_not_looksUp rfl) (fun stats => ?_) fun _ => trivial
      exact Prog.follows_await_bind (apart_of_not_looksUp rfl) (fun _ => trivial) fun _ => trivial
    · intro metrics _ _
      cases metrics with
      | none =>
          exact (follows_degradedDecision_apart uuid _ request now).mono fun _ _ h => hreachable h
      | some metrics =>
          exact (follows_decideWith_apart localeCompare rng uuid request now _ metrics).mono
            fun _ _ h => hreachable h

/-! ## Every task keeps to its protocol -/

theorem follows_registryTask (localeCompare : String → String → Ordering) (corridor : String)
    (task : RegistryTask) :
    Prog.Follows (registryProtocol corridor task) Noted.Ended
      (task.program config localeCompare corridor) Noted.init := by
  have hwriter {α : Type} {call : RegistryCall} (hwrites : task.writes = some call)
      (hallow : ∀ noted, Noted.Allows corridor task noted call ↔ task.writes = some call)
      (hwrote : ∀ noted a, (Noted.next noted call (.ok a)).wrote = true)
      (f : call.Ans → α) (result : α → RegistryResult)
      (hresult : ∀ a (noted : Noted), noted.cleared = true → noted.Ended (.ok (result a))) :
      Prog.Follows (registryProtocol corridor task) Noted.Ended
        ((do
          let a ← Prog.await call
          let _ ← Prog.await RegistryCall.clearCache
          return f a) >>= fun a => return result a) Noted.init := by
    refine Prog.follows_bind (fun noted r => ∀ a, r = .ok a → noted.cleared = true) ?_
      (fun a noted h => hresult a noted (h a rfl)) fun _ _ _ => trivial
    refine Prog.follows_await_bind ((hallow _).mpr hwrites) (fun a => ?_)
      fun _ _ heq => by cases heq
    refine Prog.follows_await_bind (hwrote _ a) (fun _ => ?_) fun _ _ heq => by cases heq
    rintro _ ⟨⟩
    rfl
  cases task with
  | listChannelsCached now =>
      refine Prog.follows_bind _ (follows_reader_list now rfl).embed ?_ fun _ _ _ => trivial
      intro channels noted h
      exact h channels rfl
  | route rng uuid transactionId supportedChannels =>
      refine Prog.follows_bind (fun noted result => ∀ decision, result = .ok decision →
        ∃ channels, noted.Has channels ∧ NamesEnabled channels (.ok decision))
        (Prog.Follows.embed ?_) ?_ fun _ _ _ => trivial
      · refine Prog.follows_await_bind trivial (fun now => ?_) fun _ _ heq => by cases heq
        refine Prog.follows_bind _ (follows_reader_list now rfl) ?_
          fun _ _ _ _ heq => by cases heq
        intro all noted hall
        refine Prog.Follows.mono
          (follows_apart (follows_routeAmong_apart localeCompare rng uuid _ now all)) ?_
        rintro _ result ⟨rfl, hnames⟩ decision rfl
        exact ⟨all, hall all rfl, hnames⟩
      · intro decision noted h
        obtain ⟨channels, hhas, hnames⟩ := h decision rfl
        exact ⟨channels, hhas, hnames decision rfl⟩
  | setEnabled id enabled =>
      exact hwriter rfl (fun _ => Iff.rfl) (fun _ _ => rfl) (Option.map toChannel) .written
        fun _ _ h => h
  | upsertChannel input =>
      exact hwriter rfl (fun _ => Iff.rfl) (fun _ _ => rfl) toChannel (fun a => .written (some a))
        fun _ _ h => h
  | deleteAllChannels =>
      exact hwriter rfl (fun _ => Iff.rfl) (fun _ _ => rfl) (fun _ => ()) (fun _ => .written none)
        fun _ _ h => h

end

end SwitchService.Runs
