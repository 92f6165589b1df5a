import Mathlib.Tactic

set_option autoImplicit false

/-!
# Foundation: the stream of server-sent events

A server writes blocks of lines, each block ended by an empty line; a reader takes the
characters as they come, however they are cut into pieces, and dispatches an event at every
empty line after a `data` line.  A line ends with a line feed, a carriage return or both; a
line that begins with a colon is a comment.

`read_messages` is the round trip: what is written as comments and events is dispatched as
these events, in order, when no text in it ends a line.
-/

namespace SwitchService.Foundation.EventStream

/-- An event as a listener gets it. -/
structure Event where
  type : String
  data : String
  deriving DecidableEq

/-- What a reader keeps between two characters. -/
structure Reader where
  line : List Char
  /-- The last character was a carriage return that ended a line. -/
  afterReturn : Bool
  type : List Char
  /-- The data lines of the block, each with a line feed. -/
  data : List Char
  events : List Event

/-- A reader between two blocks. -/
def Reader.after (events : List Event) : Reader where
  line := []
  afterReturn := false
  type := []
  data := []
  events := events

/-- The name and the value of a line; one blank after the colon belongs to neither. -/
def splitField (line : List Char) : List Char × List Char :=
  match line.dropWhile (· ≠ ':') with
  | [] => (line, [])
  | _ :: ' ' :: value => (line.takeWhile (· ≠ ':'), value)
  | _ :: value => (line.takeWhile (· ≠ ':'), value)

namespace Reader

/-- An empty line: the event is dispatched unless it has no data. -/
def dispatch (r : Reader) : Reader :=
  if r.data = [] then { r with type := [], data := [] }
  else
    { r with
      type := []
      data := []
      events := r.events ++
        [{ type := if r.type = [] then "message" else String.ofList r.type
           data := String.ofList r.data.dropLast }] }

/-- A field; unknown names are ignored. -/
def field (r : Reader) (name value : List Char) : Reader :=
  if name = "event".toList then { r with type := value }
  else if name = "data".toList then { r with data := r.data ++ value ++ ['\n'] }
  else r

/-- The line has ended. -/
def endLine (r : Reader) : Reader :=
  if r.line = [] then r.dispatch
  else if r.line.head? = some ':' then { r with line := [] }
  else { r.field (splitField r.line).1 (splitField r.line).2 with line := [] }

/-- One more character; a line feed after a carriage return ends no second line. -/
def feed (r : Reader) (c : Char) : Reader :=
  if c = '\n' then
    if r.afterReturn then { r with afterReturn := false } else r.endLine
  else if c = '\r' then { r.endLine with afterReturn := true }
  else { r with line := r.line ++ [c], afterReturn := false }

/-- The reader after some characters. -/
def feedAll (r : Reader) (cs : List Char) : Reader := cs.foldl feed r

theorem feedAll_append (r : Reader) (cs ds : List Char) :
    r.feedAll (cs ++ ds) = (r.feedAll cs).feedAll ds := List.foldl_append

end Reader

/-- The events that a whole stream dispatches; a block that was not ended dispatches none. -/
def read (stream : String) : List Event := ((Reader.after []).feedAll stream.toList).events

/-! ## Lines -/

/-- Characters that end no line. -/
def Unbroken (cs : List Char) : Prop := ∀ c ∈ cs, c ≠ '\n' ∧ c ≠ '\r'

-- A search over the characters of the list, not over all characters.
instance (cs : List Char) : Decidable (Unbroken cs) :=
  decidable_of_iff (cs.all fun c => c != '\n' && c != '\r') (by simp [Unbroken])

theorem Unbroken.append {cs ds : List Char} (hcs : Unbroken cs) (hds : Unbroken ds) :
    Unbroken (cs ++ ds) := by
  intro c hc
  rcases List.mem_append.mp hc with hc | hc
  · exact hcs c hc
  · exact hds c hc

theorem Unbroken.cons {c : Char} {cs : List Char} (hc : c ≠ '\n' ∧ c ≠ '\r')
    (hcs : Unbroken cs) : Unbroken (c :: cs) := by
  intro d hd
  rcases List.mem_cons.mp hd with rfl | hd
  · exact hc
  · exact hcs d hd

/-- A text that ends no line. -/
def OneLine (text : String) : Prop := Unbroken text.toList

instance (text : String) : Decidable (OneLine text) :=
  inferInstanceAs (Decidable (Unbroken text.toList))

theorem OneLine.append {s t : String} (hs : OneLine s) (ht : OneLine t) : OneLine (s ++ t) := by
  unfold OneLine
  rw [String.toList_append]
  exact Unbroken.append hs ht

variable {r : Reader} {events : List Event}

/-- The characters of a line are collected. -/
theorem feedAll_chars {cs : List Char} (h : Unbroken cs)
    (hreturn : r.afterReturn = false) :
    r.feedAll cs = { r with line := r.line ++ cs } := by
  induction cs generalizing r with
  | nil => simp [Reader.feedAll]
  | cons c cs ih =>
      obtain ⟨hfeed, hcr⟩ := h c List.mem_cons_self
      have hone : r.feed c = { r with line := r.line ++ [c], afterReturn := false } := by
        simp [Reader.feed, hfeed, hcr]
      have hrest := ih (r := r.feed c) (fun d hd => h d (List.mem_cons_of_mem _ hd))
        (by rw [hone])
      change (r.feed c).feedAll cs = _
      rw [hrest, hone, hreturn]
      simp

/-- A whole line. -/
theorem feedAll_line (line : String) (h : OneLine line) (hline : r.line = [])
    (hreturn : r.afterReturn = false) :
    r.feedAll (line ++ "\n").toList = { r with line := line.toList }.endLine := by
  rw [String.toList_append, Reader.feedAll_append, feedAll_chars h hreturn, hline,
    List.nil_append]
  simp [Reader.feedAll, Reader.feed, hreturn]

theorem splitField_of_name {name : List Char} (value : List Char) (h : ':' ∉ name) :
    splitField (name ++ ':' :: ' ' :: value) = (name, value) := by
  have hall : ∀ c ∈ name, decide (c ≠ ':') = true := by
    intro c hc
    exact decide_eq_true fun heq => h (heq ▸ hc)
  have hdrop : (name ++ ':' :: ' ' :: value).dropWhile (· ≠ ':') = ':' :: ' ' :: value := by
    rw [List.dropWhile_append_of_pos hall]
    simp
  have htake : (name ++ ':' :: ' ' :: value).takeWhile (· ≠ ':') = name := by
    rw [List.takeWhile_append_of_pos hall]
    simp
  unfold splitField
  rw [hdrop, htake]
  rfl

theorem field_between (name value : List Char) (hline : r.line = [])
    (hreturn : r.afterReturn = false) :
    (r.field name value).line = [] ∧ (r.field name value).afterReturn = false := by
  unfold Reader.field
  split_ifs <;> exact ⟨hline, hreturn⟩

/-- A line with a field. -/
theorem feedAll_field {name value : String} (hvalue : OneLine (name ++ ": " ++ value))
    (hname : ':' ∉ name.toList) (hne : name ≠ "") (hline : r.line = [])
    (hreturn : r.afterReturn = false) :
    r.feedAll (name ++ ": " ++ value ++ "\n").toList = r.field name.toList value.toList := by
  have hchars : (name ++ ": " ++ value).toList = name.toList ++ ':' :: ' ' :: value.toList := by
    simp
  obtain ⟨c, cs, hcs⟩ : ∃ c cs, name.toList = c :: cs := by
    cases hlist : name.toList with
    | nil => exact absurd (String.toList_eq_nil_iff.mp hlist) hne
    | cons c cs => exact ⟨c, cs, rfl⟩
  have hhead : (name ++ ": " ++ value).toList.head? ≠ some ':' := by
    rw [hchars, hcs, List.cons_append, List.head?_cons]
    intro hcolon
    rw [Option.some.inj hcolon] at hcs
    exact hname (by rw [hcs]; exact List.mem_cons_self)
  rw [feedAll_line _ hvalue hline hreturn]
  unfold Reader.endLine
  dsimp only
  rw [if_neg (by simp), if_neg hhead, hchars, splitField_of_name _ hname]
  obtain ⟨line, afterReturn, type, data, events⟩ := r
  cases hline
  simp only [Reader.field]
  split_ifs <;> rfl

/-! ## Messages -/

/-- What a server writes as one block. -/
inductive Message where
  | comment (words : String)
  | event (event : Event)

/-- The block as it goes over the wire. -/
def Message.text : Message → String
  | .comment words => ": " ++ words ++ "\n\n"
  | .event e => "event: " ++ e.type ++ "\ndata: " ++ e.data ++ "\n\n"

/-- No text of the message ends a line, and an event has a type. -/
def Message.Plain : Message → Prop
  | .comment words => OneLine words
  | .event e => OneLine e.type ∧ e.type ≠ "" ∧ OneLine e.data

/-- The event that a message dispatches. -/
def Message.dispatched : Message → Option Event
  | .comment _ => none
  | .event e => some e

/-- The empty line of a block. -/
theorem feedAll_emptyLine (hline : r.line = []) (hreturn : r.afterReturn = false) :
    r.feedAll "\n".toList = r.dispatch := by
  have hempty := feedAll_line "" (by decide) hline hreturn
  rw [String.empty_append] at hempty
  rw [hempty]
  obtain ⟨line, afterReturn, type, data, events⟩ := r
  cases hline
  rfl

/-- A message is read as a whole, between two blocks. -/
theorem feedAll_message {message : Message} (h : message.Plain) :
    (Reader.after events).feedAll message.text.toList =
      Reader.after (events ++ message.dispatched.toList) := by
  cases message with
  | comment words =>
      have hcomment : OneLine (": " ++ words) := OneLine.append (by decide) h
      have hlines : (Message.comment words).text = (": " ++ words ++ "\n") ++ "\n" := by
        simp [Message.text, String.append_assoc]
      have hignored : { Reader.after events with line := (": " ++ words).toList }.endLine =
          Reader.after events := by
        simp [Reader.endLine, Reader.after]
      rw [hlines, String.toList_append, Reader.feedAll_append, feedAll_line _ hcomment rfl rfl,
        hignored, feedAll_emptyLine rfl rfl]
      simp [Reader.dispatch, Reader.after, Message.dispatched]
  | event e =>
      obtain ⟨htype, hne, hdata⟩ := h
      have hlines : (Message.event e).text.toList = ("event" ++ ": " ++ e.type ++ "\n").toList ++
          (("data" ++ ": " ++ e.data ++ "\n").toList ++ "\n".toList) := by
        simp [Message.text]
      have htypeLine : OneLine ("event" ++ ": " ++ e.type) := OneLine.append (by decide) htype
      have hdataLine : OneLine ("data" ++ ": " ++ e.data) := OneLine.append (by decide) hdata
      obtain ⟨hline, hreturn⟩ := field_between (r := Reader.after events) "event".toList
        e.type.toList rfl rfl
      obtain ⟨hline', hreturn'⟩ := field_between "data".toList e.data.toList hline hreturn
      rw [hlines, Reader.feedAll_append, Reader.feedAll_append,
        feedAll_field htypeLine (by decide) (by decide) rfl rfl,
        feedAll_field hdataLine (by decide) (by decide) hline hreturn,
        feedAll_emptyLine hline' hreturn']
      simp [Reader.field, Reader.dispatch, Reader.after, Message.dispatched, hne]

/-- What is written as messages is dispatched as their events. -/
theorem read_messages {messages : List Message} (h : ∀ message ∈ messages, message.Plain) :
    read (String.join (messages.map (·.text))) = messages.filterMap (·.dispatched) := by
  have hfeed : ∀ events, (Reader.after events).feedAll
      (messages.flatMap fun message => message.text.toList) =
        Reader.after (events ++ messages.filterMap (·.dispatched)) := by
    induction messages with
    | nil => simp [Reader.feedAll]
    | cons message messages ih =>
        intro events
        rw [List.flatMap_cons, Reader.feedAll_append, feedAll_message (h _ List.mem_cons_self),
          ih fun m hm => h m (List.mem_cons_of_mem _ hm), List.append_assoc]
        cases hdispatched : message.dispatched <;> simp [hdispatched]
  have hjoin : (String.join (messages.map (·.text))).toList =
      messages.flatMap fun message => message.text.toList := by
    rw [String.toList_join, List.flatMap_map]
  unfold read
  rw [hjoin, hfeed]
  rfl

end SwitchService.Foundation.EventStream
