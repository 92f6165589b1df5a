import SwitchService.Foundation.Runs
import SwitchService.Wire.JsonText

set_option autoImplicit false

/-!
# Wire: the hub of the server-sent events (`lib/sse.ts`)

The hub keeps the set of its clients, in the order in which they came, and one timer for
all of them.  A client whose write throws is dropped by `publish`; the timer does not
catch, so its round stops there.

A client hears the hub through the reader of a browser.  What it hears depends on nothing
but its own coming and going: `hub_heard` says that the stream of bytes that a client was
sent dispatches exactly the events published while it was subscribed, in their order.
-/

namespace SwitchService.Wire

open SwitchService.Foundation SwitchService.Consumer

variable {κ : Type} [DecidableEq κ]

/-- The hub and the sockets of its clients. -/
structure SseHub (κ : Type) where
  name : String
  clients : List κ
  /-- The timer runs. -/
  keepAlive : Bool
  /-- What was written to a client, oldest first. -/
  written : κ → List String
  ended : κ → Bool

/-- `new SseHub(name)`. -/
def SseHub.new (κ : Type) (name : String) : SseHub κ where
  name := name
  clients := []
  keepAlive := false
  written _ := []
  ended _ := false

namespace SseHub

/-- `res.write` to one client. -/
def write (hub : SseHub κ) (client : κ) (text : String) : SseHub κ :=
  { hub with written := Function.update hub.written client (hub.written client ++ [text]) }

/-- `startKeepAlive`: one timer for all clients. -/
def startKeepAlive (hub : SseHub κ) : SseHub κ := { hub with keepAlive := true }

/-- `stopKeepAlive`. -/
def stopKeepAlive (hub : SseHub κ) : SseHub κ := { hub with keepAlive := false }

/-- `Set.add`. -/
def add (hub : SseHub κ) (client : κ) : SseHub κ :=
  if client ∈ hub.clients then hub else { hub with clients := hub.clients ++ [client] }

/-- `Set.delete`. -/
def delete (hub : SseHub κ) (client : κ) : SseHub κ :=
  { hub with clients := hub.clients.filter (· ≠ client) }

/-- A new client; the exception of a first write leaves the hub. -/
def subscribe (hub : SseHub κ) (client : κ) (throws : Bool) : SseHub κ :=
  if throws then hub
  else ((hub.write client (": connected to " ++ hub.name ++ "\n\n")).add client).startKeepAlive

/-- The request of a client was closed. -/
def closed (hub : SseHub κ) (client : κ) : SseHub κ :=
  let rest := hub.delete client
  if rest.clients = [] then rest.stopKeepAlive else rest

/-- The text of one event. -/
def frame (event : String) (data : Json) : String :=
  "event: " ++ event ++ "\ndata: " ++ stringify data ++ "\n\n"

/-- One round of the loop of `publish`. -/
def send (frame : String) (throws : κ → Bool) (hub : SseHub κ) (client : κ) : SseHub κ :=
  if throws client then hub.delete client else hub.write client frame

/-- `publish`: a client whose write throws is dropped. -/
def publish (hub : SseHub κ) (event : String) (data : Json) (throws : κ → Bool) : SseHub κ :=
  if hub.clients = [] then hub else hub.clients.foldl (send (frame event data) throws) hub

/-- The callback of the timer: a write that throws ends the round. -/
def ping (hub : SseHub κ) (throws : κ → Bool) : SseHub κ :=
  if hub.keepAlive then
    (hub.clients.takeWhile fun client => !throws client).foldl
      (fun hub client => hub.write client ": ping\n\n") hub
  else hub

/-- `closeAll`: the timer stops and every response is ended. -/
def closeAll (hub : SseHub κ) : SseHub κ :=
  { hub.stopKeepAlive with
    clients := []
    ended := fun client => hub.ended client || decide (client ∈ hub.clients) }

end SseHub

/-- What happens to the hub; `throws` says whose write throws. -/
inductive HubAction (κ : Type) where
  | subscribe (client : κ) (throws : Bool)
  | closed (client : κ)
  | publish (event : String) (data : Json) (throws : κ → Bool)
  | ping (throws : κ → Bool)
  | closeAll

/-- One action on the hub. -/
def SseHub.next (hub : SseHub κ) : HubAction κ → SseHub κ
  | .subscribe client throws => hub.subscribe client throws
  | .closed client => hub.closed client
  | .publish event data throws => hub.publish event data throws
  | .ping throws => hub.ping throws
  | .closeAll => hub.closeAll

/-! ## One client alone -/

/-- A client on its own: whether it is subscribed, and what was published meanwhile. -/
structure Listener where
  listening : Bool
  heard : List EventStream.Event

/-- A client that has not come yet. -/
def Listener.new : Listener where
  listening := false
  heard := []

/-- What an action means to one client. -/
def Listener.next (client : κ) (l : Listener) : HubAction κ → Listener
  | .subscribe other throws =>
      if other = client ∧ throws = false then { l with listening := true } else l
  | .closed other => if other = client then { l with listening := false } else l
  | .publish event data throws =>
      if l.listening then
        if throws client then { l with listening := false }
        else { l with heard := l.heard ++ [{ type := event, data := stringify data }] }
      else l
  | .ping _ => l
  | .closeAll => { l with listening := false }

/-- A published event can be named on the wire. -/
def HubAction.Named : HubAction κ → Prop
  | .publish event _ _ => EventStream.OneLine event ∧ event ≠ ""
  | _ => True

instance : (action : HubAction κ) → Decidable action.Named
  | .publish event _ _ => inferInstanceAs (Decidable (EventStream.OneLine event ∧ event ≠ ""))
  | .subscribe .. | .closed _ | .ping _ | .closeAll => inferInstanceAs (Decidable True)

/-! ## The loops -/

variable {hub : SseHub κ} {client : κ}

@[simp] theorem write_clients (text : String) : (hub.write client text).clients = hub.clients :=
  rfl

theorem write_written (text : String) (other : κ) :
    (hub.write other text).written client =
      hub.written client ++ if other = client then [text] else [] := by
  by_cases h : other = client
  · subst h
    simp [SseHub.write]
  · simp [SseHub.write, Function.update_of_ne (Ne.symm h), h]

/-- The loop of `publish` sends the frame once to every client whose write does not throw. -/
theorem written_send (text : String) (throws : κ → Bool) {clients : List κ}
    (hnodup : clients.Nodup) (hub : SseHub κ) :
    (clients.foldl (SseHub.send text throws) hub).written client =
      hub.written client ++
        if client ∈ clients ∧ throws client = false then [text] else [] := by
  induction clients generalizing hub with
  | nil => simp
  | cons first clients ih =>
      obtain ⟨hfirst, hrest⟩ := List.nodup_cons.mp hnodup
      rw [List.foldl_cons, ih hrest]
      by_cases hclient : first = client
      · subst hclient
        cases hthrows : throws first with
        | true => simp [SseHub.send, hthrows, SseHub.delete]
        | false => simp [SseHub.send, hthrows, write_written, hfirst]
      · cases hthrows : throws first with
        | true => simp [SseHub.send, hthrows, SseHub.delete, Ne.symm hclient]
        | false => simp [SseHub.send, hthrows, write_written, hclient, Ne.symm hclient]

/-- The loop of `publish` drops the clients whose write throws. -/
theorem clients_send (text : String) (throws : κ → Bool) (clients : List κ) (hub : SseHub κ) :
    (clients.foldl (SseHub.send text throws) hub).clients =
      hub.clients.filter fun other => ¬ (other ∈ clients ∧ throws other = true) := by
  induction clients generalizing hub with
  | nil => simp
  | cons first clients ih =>
      rw [List.foldl_cons, ih]
      cases hthrows : throws first with
      | true =>
          simp only [SseHub.send, hthrows, if_true, SseHub.delete, List.filter_filter]
          refine List.filter_congr fun other _ => ?_
          by_cases hother : other = first
          · subst hother
            simp [hthrows]
          · simp [hother]
      | false =>
          simp only [SseHub.send, hthrows, if_false, write_clients, Bool.false_eq_true]
          refine List.filter_congr fun other _ => ?_
          by_cases hother : other = first
          · subst hother
            simp [hthrows]
          · simp [hother]

/-- The timer changes nothing but what was written. -/
theorem foldl_write_same (text : String) (clients : List κ) (hub : SseHub κ) :
    (clients.foldl (fun hub client => hub.write client text) hub).name = hub.name ∧
      (clients.foldl (fun hub client => hub.write client text) hub).clients = hub.clients ∧
      (clients.foldl (fun hub client => hub.write client text) hub).keepAlive =
        hub.keepAlive := by
  induction clients generalizing hub with
  | nil => exact ⟨rfl, rfl, rfl⟩
  | cons first clients ih => exact ih (hub.write first text)

/-- The timer writes its comment to some clients. -/
theorem foldl_write (client : κ) (text : String) {clients : List κ} (hnodup : clients.Nodup)
    (hub : SseHub κ) :
    (clients.foldl (fun hub client => hub.write client text) hub).written client =
      hub.written client ++ if client ∈ clients then [text] else [] := by
  induction clients generalizing hub with
  | nil => simp
  | cons first clients ih =>
      obtain ⟨hfirst, hrest⟩ := List.nodup_cons.mp hnodup
      refine (ih hrest (hub.write first text)).trans ?_
      rw [write_written]
      by_cases hclient : first = client
      · subst hclient
        simp [hfirst]
      · simp [hclient, Ne.symm hclient]

/-! ## What a client is sent -/

/-- The hub treats the client as the client alone: it is in the set while it listens, and
it was sent messages that dispatch what it heard. -/
structure Serves (hub : SseHub κ) (client : κ) (l : Listener) : Prop where
  name : EventStream.OneLine hub.name
  nodup : hub.clients.Nodup
  listening : client ∈ hub.clients ↔ l.listening = true
  heard : ∃ messages : List EventStream.Message, hub.written client = messages.map (·.text) ∧
    (∀ message ∈ messages, message.Plain) ∧ messages.filterMap (·.dispatched) = l.heard

omit [DecidableEq κ] in
theorem serves_new {name : String} (h : EventStream.OneLine name) (client : κ) :
    Serves (SseHub.new κ name) client Listener.new where
  name := h
  nodup := List.nodup_nil
  listening := by simp [SseHub.new, Listener.new]
  heard := ⟨[], rfl, by simp, rfl⟩

omit [DecidableEq κ] in
/-- The client is sent one more message, or none. -/
theorem Serves.sent {l l' : Listener} (h : Serves hub client l) {hub' : SseHub κ}
    (hname : hub'.name = hub.name) (hnodup : hub'.clients.Nodup)
    (hlistening : client ∈ hub'.clients ↔ l'.listening = true)
    {message : EventStream.Message} (hplain : message.Plain) (sent : Prop) [Decidable sent]
    (hwritten : hub'.written client = hub.written client ++ if sent then [message.text] else [])
    (hheard : l'.heard = l.heard ++ if sent then message.dispatched.toList else []) :
    Serves hub' client l' where
  name := hname ▸ h.name
  nodup := hnodup
  listening := hlistening
  heard := by
    obtain ⟨messages, hmessages, hall, hdispatched⟩ := h.heard
    rw [hwritten, hheard, hmessages]
    by_cases hsent : sent
    · refine ⟨messages ++ [message], by simp [hsent], ?_, ?_⟩
      · intro m hm
        rcases List.mem_append.mp hm with hm | hm
        · exact hall m hm
        · exact List.mem_singleton.mp hm ▸ hplain
      · rw [List.filterMap_append, hdispatched, if_pos hsent]
        cases message with
        | comment _ | event _ => rfl
    · exact ⟨messages, by simp [hsent], hall, by simp [hsent, hdispatched]⟩

theorem clients_subscribe (other : κ) :
    (hub.subscribe other false).clients =
      if other ∈ hub.clients then hub.clients else hub.clients ++ [other] := by
  simp only [SseHub.subscribe, Bool.false_eq_true, if_false, SseHub.startKeepAlive, SseHub.add]
  split <;> simp_all

theorem Serves.subscribe {l : Listener} (h : Serves hub client l) (other : κ) :
    Serves (hub.subscribe other false) client (l.next client (.subscribe other false)) := by
  have hplain : (EventStream.Message.comment ("connected to " ++ hub.name)).Plain :=
    EventStream.OneLine.append (by decide) h.name
  have htext : ": connected to " ++ hub.name ++ "\n\n" =
      (EventStream.Message.comment ("connected to " ++ hub.name)).text := by
    simp [EventStream.Message.text, ← String.append_assoc]
  have hwritten : (hub.subscribe other false).written =
      (hub.write other (": connected to " ++ hub.name ++ "\n\n")).written := by
    simp only [SseHub.subscribe, Bool.false_eq_true, if_false, SseHub.startKeepAlive, SseHub.add]
    split <;> rfl
  refine h.sent ?_ ?_ ?_ hplain (other = client) ?_ ?_
  · simp only [SseHub.subscribe, Bool.false_eq_true, if_false, SseHub.startKeepAlive, SseHub.add]
    split <;> rfl
  · rw [clients_subscribe]
    split
    · exact h.nodup
    · rename_i hother
      exact List.nodup_append.mpr ⟨h.nodup, List.nodup_singleton _, by
        rintro a ha b hb rfl
        exact hother (List.mem_singleton.mp hb ▸ ha)⟩
  · rw [clients_subscribe]
    by_cases hother : other = client
    · subst hother
      split <;> simp_all [Listener.next]
    · split <;> simp [Listener.next, hother, Ne.symm hother, h.listening]
  · rw [hwritten, write_written, htext]
  · by_cases hother : other = client
    · simp [Listener.next, hother, EventStream.Message.dispatched]
    · simp [Listener.next, hother]

theorem Serves.closed {l : Listener} (h : Serves hub client l) (other : κ) :
    Serves (hub.closed other) client (l.next client (.closed other)) := by
  have hclosed : (hub.closed other).name = hub.name ∧
      (hub.closed other).clients = hub.clients.filter (· ≠ other) ∧
      (hub.closed other).written = hub.written := by
    unfold SseHub.closed
    dsimp only
    split <;> exact ⟨rfl, rfl, rfl⟩
  obtain ⟨hname, hclients, hwritten⟩ := hclosed
  refine ⟨hname ▸ h.name, hclients ▸ h.nodup.filter _, ?_, ?_⟩
  · rw [hclients]
    by_cases hother : other = client
    · simp [Listener.next, hother]
    · simp [Listener.next, hother, Ne.symm hother, h.listening]
  · rw [hwritten]
    have hheard : (l.next client (.closed other)).heard = l.heard := by
      simp only [Listener.next]
      split <;> rfl
    rw [hheard]
    exact h.heard

theorem Serves.publish {l : Listener} (h : Serves hub client l) {event : String}
    (hevent : EventStream.OneLine event) (hne : event ≠ "") (data : Json) (throws : κ → Bool) :
    Serves (hub.publish event data throws) client
      (l.next client (.publish event data throws)) := by
  have hplain : (EventStream.Message.event { type := event, data := stringify data }).Plain :=
    ⟨hevent, hne, oneLine_stringify data⟩
  -- Without clients the loop would have no round either.
  have hloop : hub.publish event data throws =
      hub.clients.foldl (SseHub.send (SseHub.frame event data) throws) hub := by
    unfold SseHub.publish
    split
    · rename_i hnone
      rw [hnone]
      rfl
    · rfl
  have hname : ∀ (clients : List κ) (hub : SseHub κ), (clients.foldl
      (SseHub.send (SseHub.frame event data) throws) hub).name = hub.name := by
    intro clients
    induction clients with
    | nil => exact fun _ => rfl
    | cons first clients ih =>
        intro hub
        rw [List.foldl_cons, ih]
        unfold SseHub.send
        split <;> rfl
  have hlistening := h.listening
  refine h.sent ?_ ?_ ?_ hplain (client ∈ hub.clients ∧ throws client = false) ?_ ?_
  · rw [hloop, hname]
  · rw [hloop, clients_send]
    exact h.nodup.filter _
  · rw [hloop, clients_send, List.mem_filter]
    cases hl : l.listening <;> cases hthrows : throws client <;>
      simp_all [Listener.next]
  · rw [hloop, written_send _ _ h.nodup]
    rfl
  · cases hl : l.listening <;> cases hthrows : throws client <;>
      simp_all [Listener.next, EventStream.Message.dispatched]

theorem Serves.ping {l : Listener} (h : Serves hub client l) (throws : κ → Bool) :
    Serves (hub.ping throws) client l := by
  unfold SseHub.ping
  split
  · have hnodup : (hub.clients.takeWhile fun client => !throws client).Nodup :=
      h.nodup.sublist (List.takeWhile_sublist _)
    have hwritten := foldl_write client ": ping\n\n" hnodup hub
    obtain ⟨hname, hclients, -⟩ := foldl_write_same ": ping\n\n"
      (hub.clients.takeWhile fun client => !throws client) hub
    have hplain : (EventStream.Message.comment "ping").Plain :=
      show EventStream.OneLine "ping" by decide
    refine h.sent hname ?_ ?_ hplain _ hwritten ?_
    · rw [hclients]
      exact h.nodup
    · rw [hclients]
      exact h.listening
    · simp [EventStream.Message.dispatched]
  · exact h

theorem serves_next {l : Listener} (h : Serves hub client l) {action : HubAction κ}
    (hnamed : action.Named) : Serves (hub.next action) client (l.next client action) := by
  cases action with
  | subscribe other throws =>
      cases throws with
      | true => simpa [SseHub.next, SseHub.subscribe, Listener.next] using h
      | false => exact h.subscribe other
  | closed other => exact h.closed other
  | publish event data throws => exact h.publish hnamed.1 hnamed.2 data throws
  | ping throws => exact h.ping throws
  | closeAll => exact ⟨h.name, List.nodup_nil, by simp [SseHub.next, SseHub.closeAll,
      Listener.next], h.heard⟩

/-- Whatever the clients do and whichever writes throw: the bytes that a client was sent
dispatch exactly the events published while it was subscribed, in their order, each with the
text of its data; the timer and the other clients do not show. -/
theorem hub_heard {name : String} (hname : EventStream.OneLine name) (client : κ)
    {actions : List (HubAction κ)} (hnamed : ∀ action ∈ actions, action.Named) :
    EventStream.read (String.join
        ((runFrom SseHub.next (SseHub.new κ name) actions).written client)) =
      (runFrom (Listener.next client) Listener.new actions).heard := by
  have hserves : ∀ (hub : SseHub κ) (l : Listener), Serves hub client l →
      Serves (runFrom SseHub.next hub actions) client
        (runFrom (Listener.next client) l actions) := by
    induction actions with
    | nil => exact fun _ _ h => h
    | cons action actions ih =>
        intro hub l h
        exact ih (fun other hmem => hnamed other (List.mem_cons_of_mem _ hmem)) _ _
          (serves_next h (hnamed action List.mem_cons_self))
  obtain ⟨messages, hwritten, hall, hheard⟩ := (hserves _ _ (serves_new hname client)).heard
  rw [hwritten, EventStream.read_messages hall, hheard]

/-- Two clients: the first one is dropped by a write that throws. -/
def twoClients : List (HubAction Bool) :=
  [.publish "routing.decision" .null fun _ => false, .subscribe false false,
    .publish "routing.decision" (.obj [("channelId", .str "RAIL-A")]) fun _ => false,
    .subscribe true false, .ping fun _ => false,
    .publish "breaker.changed" (.obj [("to", .str "OPEN\n")]) (· = false),
    .publish "outcome.applied" .null fun _ => false, .closed false]

/-- The theorem at the client that stays. -/
theorem hub_heard_twoClients :
    EventStream.read (String.join
        ((runFrom SseHub.next (SseHub.new Bool "switch") twoClients).written true)) =
      (runFrom (Listener.next true) Listener.new twoClients).heard :=
  hub_heard (by decide) true (by decide)

example : (runFrom (Listener.next true) Listener.new twoClients).heard =
    [{ type := "breaker.changed", data := "\x7b\"to\":\"OPEN\\n\"\x7d" },
      { type := "outcome.applied", data := "null" }] := by decide

/-! ## The timer -/

/-- No write of `publish` throws. -/
def HubAction.Quiet : HubAction κ → Prop
  | .publish _ _ throws => ∀ client, throws client = false
  | _ => True

theorem keepAlive_send (text : String) (throws : κ → Bool) (clients : List κ)
    (hub : SseHub κ) :
    (clients.foldl (SseHub.send text throws) hub).keepAlive = hub.keepAlive := by
  induction clients generalizing hub with
  | nil => rfl
  | cons first clients ih =>
      rw [List.foldl_cons, ih]
      unfold SseHub.send
      split <;> rfl

/-- The timer runs where there is a client and, if `quiet`, nowhere else. -/
def SseHub.Timed (quiet : Prop) (hub : SseHub κ) : Prop :=
  (hub.clients ≠ [] → hub.keepAlive = true) ∧
    (quiet → hub.keepAlive = true → hub.clients ≠ [])

theorem timed_next {quiet : Prop} (h : hub.Timed quiet) {action : HubAction κ}
    (hquiet : quiet → action.Quiet) : (hub.next action).Timed quiet := by
  cases action with
  | subscribe other throws =>
      cases throws with
      | true => exact h
      | false =>
          refine ⟨fun _ => rfl, fun _ _ => ?_⟩
          change (hub.subscribe other false).clients ≠ []
          rw [clients_subscribe]
          split
          · exact List.ne_nil_of_mem ‹_›
          · simp
  | closed other =>
      change (hub.closed other).Timed quiet
      unfold SseHub.closed
      dsimp only
      split
      · rename_i hnone
        exact ⟨fun hsome => absurd hnone hsome, fun _ hrunning => absurd hrunning (by
          simp [SseHub.stopKeepAlive])⟩
      · rename_i hsome
        refine ⟨fun _ => h.1 fun hnone => hsome ?_, fun _ _ => hsome⟩
        simp [SseHub.delete, hnone]
  | publish event data throws =>
      change (hub.publish event data throws).Timed quiet
      unfold SseHub.publish
      split
      · exact h
      · rename_i hsome
        refine ⟨fun _ => ?_, fun hq _ => ?_⟩
        · rw [keepAlive_send]
          exact h.1 hsome
        · obtain ⟨first, hfirst⟩ := List.exists_mem_of_ne_nil _ hsome
          rw [clients_send]
          exact List.ne_nil_of_mem (List.mem_filter.mpr ⟨hfirst, by simp [hquiet hq first]⟩)
  | ping throws =>
      change (hub.ping throws).Timed quiet
      unfold SseHub.ping
      split
      · obtain ⟨-, hclients, hkeepAlive⟩ := foldl_write_same ": ping\n\n"
          (hub.clients.takeWhile fun client => !throws client) hub
        unfold SseHub.Timed
        rw [hclients, hkeepAlive]
        exact h
      · exact h
  | closeAll =>
      exact ⟨fun hsome => absurd rfl hsome, fun _ hrunning => absurd hrunning (by
        simp [SseHub.next, SseHub.closeAll, SseHub.stopKeepAlive])⟩

/-- The timer runs as long as there is a client; and where no write of `publish` throws, it
runs no longer. -/
theorem timed_run (name : String) (actions : List (HubAction κ)) :
    (runFrom SseHub.next (SseHub.new κ name) actions).Timed
      (∀ action ∈ actions, action.Quiet) := by
  have hrun : ∀ (quiet : Prop) (hub : SseHub κ), hub.Timed quiet →
      (∀ action ∈ actions, quiet → action.Quiet) →
        (runFrom SseHub.next hub actions).Timed quiet := by
    intro quiet
    induction actions with
    | nil => exact fun _ h _ => h
    | cons action actions ih =>
        intro hub h hquiet
        exact ih _ (timed_next h (hquiet action List.mem_cons_self)) fun other hmem =>
          hquiet other (List.mem_cons_of_mem _ hmem)
  exact hrun _ _ ⟨fun hsome => absurd rfl hsome, fun _ hrunning => by cases hrunning⟩
    fun action hmem hall => hall action hmem

end SwitchService.Wire
