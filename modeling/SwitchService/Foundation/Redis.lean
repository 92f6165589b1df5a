import SwitchService.Foundation.Number
import SwitchService.Foundation.RedisStream

set_option autoImplicit false

/-!
# Foundation: a Redis keyspace

A keyspace maps a key to a hash, a list, a text or a stream with the moment at which it is
gone.  Every command works on one key and sees what is left of it at the moment of the
command; a transaction carries its commands out one after another, and one that answers
with an error does not stop the rest.  Integers are unbounded and times are in milliseconds.
-/

namespace SwitchService.Foundation.Redis

/-- What a key may hold. -/
inductive Value where
  | hash (fields : String → Option String)
  | list (items : List String)
  | text (value : String)
  | stream (messages : MessageStream)

/-- The content of a key. -/
structure Stored where
  value : Value
  /-- Absent where the key has no time to live. -/
  expiresAt : Option ℚ

/-- All keys with their contents. -/
abbrev Keyspace : Type := String → Option Stored

/-- No key holds anything. -/
def empty : Keyspace := fun _ => none

/-- The time of the key is not over. -/
def Stored.isLive (now : ℚ) (stored : Stored) : Bool :=
  match stored.expiresAt with
  | some expiresAt => now < expiresAt
  | none => true

/-- What is left of a key at a moment. -/
def left (now : ℚ) (content : Option Stored) : Option Stored :=
  content.filter (·.isLive now)

/-! ## Commands -/

/-- The commands that the stores send. -/
inductive Command where
  | hincrby (key field : String) (amount : ℤ)
  | hmget (key : String) (fields : List String)
  | lpush (key item : String)
  | ltrim (key : String) (start stop : ℤ)
  | lrange (key : String) (start stop : ℤ)
  | expire (key : String) (seconds : ℤ)
  | hset (key : String) (pairs : List (String × String))
  | hgetall (key : String)
  /-- `SET` with a time to live and `NX`. -/
  | setNx (key text : String) (ttlMs : ℤ)
  | del (key : String)
  /-- `XGROUP CREATE` from the start of the stream, with `MKSTREAM`. -/
  | xgroupCreate (key : String)

/-- The one key that a command works on. -/
def Command.key : Command → String
  | .hincrby key .. | .hmget key _ | .lpush key _ | .ltrim key .. | .lrange key ..
  | .expire key _ | .hset key _ | .hgetall key | .setNx key .. | .del key
  | .xgroupCreate key => key

/-- What a command answers when it does not fail. -/
inductive Reply where
  | ok
  | integer (n : ℤ)
  | bulks (values : List (Option String))
  /-- The names and values of a hash, as the client gives them. -/
  | object (fields : String → Option String)
  | null

/-- The error of a command for another type of content. -/
def wrongType : String := "WRONGTYPE Operation against a key holding the wrong kind of value"

/-- The error of `HINCRBY` on a field that is no integer. -/
def notAnInteger : String := "ERR hash value is not an integer"

/-- The error of `XGROUP CREATE` on a group that is there. -/
def busyGroup : String := "BUSYGROUP Consumer Group name already exists"

/-- The error of `SET` with a time to live that is not positive. -/
def invalidExpire : String := "ERR invalid expire time in 'set' command"

/-- The error of an argument that is no integer. -/
def outOfRange : String := "ERR value is not an integer or out of range"

/-- The fields of a hash; a missing key is an empty hash. -/
def fieldsOf : Option Stored → Except String (String → Option String)
  | none => .ok fun _ => none
  | some { value := .hash fields, .. } => .ok fields
  | some { value := .list _, .. } | some { value := .text _, .. }
  | some { value := .stream _, .. } => .error wrongType

/-- The items of a list; a missing key is an empty list. -/
def itemsOf : Option Stored → Except String (List String)
  | none => .ok []
  | some { value := .list items, .. } => .ok items
  | some { value := .hash _, .. } | some { value := .text _, .. }
  | some { value := .stream _, .. } => .error wrongType

/-- The messages of a stream; a missing key is an empty stream. -/
def streamOf : Option Stored → Except String MessageStream
  | none => .ok .empty
  | some { value := .stream messages, .. } => .ok messages
  | some { value := .hash _, .. } | some { value := .list _, .. }
  | some { value := .text _, .. } => .error wrongType

/-- When the content is gone. -/
def expiryOf (content : Option Stored) : Option ℚ := content.bind (·.expiresAt)

/-- The number that an integer field holds; only its canonical text is read. -/
def integerOf (text : String) : Option ℤ :=
  (Number.intOfText text).filter fun n => toString n = text

/-- The value of a field after an increment; a missing field counts from zero. -/
def incremented (amount : ℤ) : Option String → Option ℤ
  | none => some amount
  | some text => (integerOf text).map (· + amount)

/-- The items from `start` to `stop`, both included; a negative index counts from the
end. -/
def slice (start stop : ℤ) (items : List String) : List String :=
  let index (i : ℤ) : ℤ := if i < 0 then items.length + i else i
  (items.take (index stop + 1).toNat).drop (index start).toNat

/-- The fields after some were set, the last value of a name winning. -/
def setFields (fields : String → Option String) (pairs : List (String × String)) :
    String → Option String :=
  pairs.foldl (fun fields pair => Function.update fields pair.1 (some pair.2)) fields

/-- How many names a hash gets that it did not have. -/
def newFields (fields : String → Option String) (pairs : List (String × String)) : ℕ :=
  ((pairs.map (·.1)).dedup.filter fun name => (fields name).isNone).length

/-- A list without items is no key. -/
def storedList (items : List String) (expiresAt : Option ℚ) : Option Stored :=
  if items = [] then none else some { value := .list items, expiresAt := expiresAt }

/-- The reply of a command and what it leaves of its key. -/
def Command.apply (now : ℚ) (command : Command) (content : Option Stored) :
    Except String Reply × Option Stored :=
  match command with
  | .hincrby _ field amount =>
      match fieldsOf content with
      | .error message => (.error message, content)
      | .ok fields =>
          match incremented amount (fields field) with
          | none => (.error notAnInteger, content)
          | some n =>
              (.ok (.integer n),
                some { value := .hash (Function.update fields field (some (toString n)))
                       expiresAt := expiryOf content })
  | .hmget _ names =>
      match fieldsOf content with
      | .error message => (.error message, content)
      | .ok fields => (.ok (.bulks (names.map fields)), content)
  | .lpush _ item =>
      match itemsOf content with
      | .error message => (.error message, content)
      | .ok items =>
          (.ok (.integer (items.length + 1)),
            some { value := .list (item :: items), expiresAt := expiryOf content })
  | .ltrim _ start stop =>
      match itemsOf content with
      | .error message => (.error message, content)
      | .ok items => (.ok .ok, storedList (slice start stop items) (expiryOf content))
  | .lrange _ start stop =>
      match itemsOf content with
      | .error message => (.error message, content)
      | .ok items => (.ok (.bulks ((slice start stop items).map some)), content)
  | .expire _ seconds =>
      match content with
      | none => (.ok (.integer 0), none)
      | some stored =>
          if seconds ≤ 0 then (.ok (.integer 1), none)
          else
            (.ok (.integer 1), some { stored with expiresAt := some (now + seconds * 1000) })
  | .hset _ pairs =>
      match fieldsOf content with
      | .error message => (.error message, content)
      | .ok fields =>
          (.ok (.integer (newFields fields pairs)),
            some { value := .hash (setFields fields pairs), expiresAt := expiryOf content })
  | .hgetall _ =>
      match fieldsOf content with
      | .error message => (.error message, content)
      | .ok fields => (.ok (.object fields), content)
  | .setNx _ text ttlMs =>
      if ttlMs ≤ 0 then (.error invalidExpire, content)
      else
        match content with
        | some _ => (.ok .null, content)
        | none => (.ok .ok, some { value := .text text, expiresAt := some (now + ttlMs) })
  | .del _ =>
      match content with
      | some _ => (.ok (.integer 1), none)
      | none => (.ok (.integer 0), none)
  | .xgroupCreate _ =>
      match streamOf content with
      | .error message => (.error message, content)
      | .ok messages =>
          match messages.createGroup with
          | none => (.error busyGroup, content)
          | some created =>
              (.ok .ok, some { value := .stream created, expiresAt := expiryOf content })

/-- One command. -/
def exec (now : ℚ) (command : Command) (db : Keyspace) : Except String Reply × Keyspace :=
  let result := command.apply now (left now (db command.key))
  (result.1, Function.update db command.key result.2)

/-- `MULTI`, some commands, `EXEC`. -/
def multi (now : ℚ) : List Command → Keyspace → List (Except String Reply) × Keyspace
  | [], db => ([], db)
  | command :: commands, db =>
      let result := exec now command db
      let rest := multi now commands result.2
      (result.1 :: rest.1, rest.2)

/-! ## What a transaction leaves -/

variable {now : ℚ} {db : Keyspace} {key : String}

theorem left_of_live {stored : Stored} (h : stored.isLive now = true) :
    left now (some stored) = some stored := by
  simp [left, h]

@[simp] theorem left_left (content : Option Stored) :
    left now (left now content) = left now content := by
  simp [left]

/-- What is left at a later moment is left of what was left before. -/
theorem left_left_of_le {t : ℚ} (h : now ≤ t) (content : Option Stored) :
    left t (left now content) = left t content := by
  cases content with
  | none => rfl
  | some stored =>
      by_cases hlive : stored.isLive now = true
      · rw [left_of_live hlive]
      · -- A key that is gone stays away.
        have hgone : stored.isLive t = false := by
          rw [Bool.not_eq_true] at hlive
          obtain ⟨value, expiresAt⟩ := stored
          cases expiresAt with
          | none => cases hlive
          | some expiresAt =>
              simp only [Stored.isLive, decide_eq_false_iff_not, not_lt] at hlive ⊢
              exact hlive.trans h
        simp [left, Option.filter_some, hlive, hgone]

/-- A key without a time to live is there at every moment. -/
theorem left_of_permanent {content : Option Stored} (h : expiryOf content = none) (t : ℚ) :
    left t content = content := by
  cases content with
  | none => rfl
  | some stored =>
      refine left_of_live ?_
      have hexpiry : stored.expiresAt = none := h
      simp [Stored.isLive, hexpiry]

/-- A command leaves every other key. -/
theorem exec_other {command : Command} (h : key ≠ command.key) :
    (exec now command db).2 key = db key := by
  simp [exec, h]

/-- The commands of a transaction on one key, applied in turn. -/
def applyAll (now : ℚ) (commands : List Command) (content : Option Stored) : Option Stored :=
  commands.foldl (fun content command => (command.apply now (left now content)).2) content

/-- A key is left as its own commands leave it. -/
theorem multi_key (commands : List Command) :
    (multi now commands db).2 key =
      applyAll now (commands.filter (·.key = key)) (db key) := by
  induction commands generalizing db with
  | nil => rfl
  | cons command commands ih =>
      unfold multi
      dsimp only
      rw [ih]
      by_cases hkey : command.key = key
      · subst hkey
        simp [applyAll, exec]
      · simp [exec, hkey, Function.update_of_ne (Ne.symm hkey)]

/-- The replies of a transaction depend on the keys of its commands. -/
theorem multi_replies_congr {commands : List Command} {db' : Keyspace}
    (h : ∀ command ∈ commands, db' command.key = db command.key) :
    (multi now commands db').1 = (multi now commands db).1 := by
  induction commands generalizing db db' with
  | nil => rfl
  | cons first commands ih =>
      have hfirst := h first List.mem_cons_self
      have hrest : (multi now commands (exec now first db').2).1 =
          (multi now commands (exec now first db).2).1 := by
        refine ih fun command hmem => ?_
        by_cases hkey : command.key = first.key
        · simp only [exec, hkey, Function.update_self, hfirst]
        · rw [exec_other hkey, exec_other hkey]
          exact h command (List.mem_cons_of_mem _ hmem)
      unfold multi
      dsimp only
      rw [hrest, exec, exec, hfirst]

/-- A transaction leaves a key that none of its commands names. -/
theorem multi_other {commands : List Command} (h : ∀ command ∈ commands, command.key ≠ key) :
    (multi now commands db).2 key = db key := by
  have hnone : commands.filter (·.key = key) = [] := by
    rw [List.filter_eq_nil_iff]
    intro command hmem
    simpa using h command hmem
  rw [multi_key, hnone]
  rfl

/-- A transaction that only reads answers from the state before it. -/
theorem multi_replies_of_reads {commands : List Command}
    (h : ∀ command ∈ commands, ∀ content,
      (command.apply now (left now content)).2 = left now content) :
    (multi now commands db).1 =
      commands.map fun command => (command.apply now (left now (db command.key))).1 := by
  -- Reading a key removes it at most where nothing is left of it.
  have hgeneral : ∀ db' : Keyspace, (∀ key, left now (db' key) = left now (db key)) →
      (multi now commands db').1 =
        commands.map fun command => (command.apply now (left now (db command.key))).1 := by
    induction commands with
    | nil => exact fun _ _ => rfl
    | cons command commands ih =>
        intro db' hdb
        unfold multi
        dsimp only
        rw [ih (fun c hc => h c (List.mem_cons_of_mem _ hc)), List.map_cons]
        · rw [exec, hdb]
        · intro key
          by_cases hkey : key = command.key
          · subst hkey
            simp only [exec, Function.update_self]
            rw [h command List.mem_cons_self, left_left, hdb]
          · simp only [exec, Function.update_of_ne hkey, hdb]
  exact hgeneral db fun _ => rfl

/-! ## What single commands leave -/

/-- A value stored with the expiry of what is left is still there. -/
theorem left_keep (value : Value) (content : Option Stored) :
    left now (some { value := value, expiresAt := expiryOf (left now content) }) =
      some { value := value, expiresAt := expiryOf (left now content) } := by
  apply left_of_live
  cases hleft : left now content with
  | none => rfl
  | some stored =>
      have hlive : stored.isLive now = true := by
        unfold left at hleft
        exact (Option.filter_eq_some_iff.mp hleft).2
      exact hlive

theorem apply_hincrby {field : String} {amount n : ℤ} {content : Option Stored}
    {fields : String → Option String} (hfields : fieldsOf content = .ok fields)
    (hn : incremented amount (fields field) = some n) :
    ((Command.hincrby key field amount).apply now content).2 =
      some { value := .hash (Function.update fields field (some (toString n)))
             expiresAt := expiryOf content } := by
  simp [Command.apply, hfields, hn]

theorem apply_lpush {item : String} {content : Option Stored} {items : List String}
    (hitems : itemsOf content = .ok items) :
    ((Command.lpush key item).apply now content).2 =
      some { value := .list (item :: items), expiresAt := expiryOf content } := by
  simp [Command.apply, hitems]

theorem apply_ltrim {start stop : ℤ} {content : Option Stored} {items : List String}
    (hitems : itemsOf content = .ok items) (hne : slice start stop items ≠ []) :
    ((Command.ltrim key start stop).apply now content).2 =
      some { value := .list (slice start stop items), expiresAt := expiryOf content } := by
  simp [Command.apply, hitems, storedList, hne]

theorem apply_expire {seconds : ℤ} {stored : Stored} (hpos : 0 < seconds) :
    ((Command.expire key seconds).apply now (some stored)).2 =
      some { stored with expiresAt := some (now + seconds * 1000) } := by
  simp [Command.apply, not_le.mpr hpos]

/-- An increment of one field leaves a hash with the others, whether it succeeds or not. -/
theorem apply_hincrby_others (now : ℚ) (key field : String) (amount : ℤ) {stored : Stored}
    {fields : String → Option String} (hstored : stored.value = .hash fields) :
    ∃ fields', ((Command.hincrby key field amount).apply now (some stored)).2 =
        some { value := .hash fields', expiresAt := stored.expiresAt } ∧
      ∀ other, other ≠ field → fields' other = fields other := by
  have hfields : fieldsOf (some stored) = .ok fields := by
    obtain ⟨value, expiresAt⟩ := stored
    cases hstored
    rfl
  cases hn : incremented amount (fields field) with
  | none =>
      refine ⟨fields, ?_, fun _ _ => rfl⟩
      simp [Command.apply, hfields, hn, ← hstored]
  | some n =>
      refine ⟨_, apply_hincrby hfields hn, fun other hother => ?_⟩
      exact Function.update_of_ne hother _ _

/-- `HMGET` and `LRANGE` read. -/
theorem apply_reads {command : Command}
    (h : (∃ key fields, command = .hmget key fields) ∨
      ∃ key start stop, command = .lrange key start stop) (content : Option Stored) :
    (command.apply now content).2 = content := by
  rcases h with ⟨key, fields, rfl⟩ | ⟨key, start, stop, rfl⟩
  · simp only [Command.apply]
    split <;> rfl
  · simp only [Command.apply]
    split <;> rfl

theorem apply_hgetall (content : Option Stored) :
    ((Command.hgetall key).apply now content).2 = content := by
  simp only [Command.apply]
  split <;> rfl

/-- A stream without messages whose group was just made. -/
def freshStream : Stored where
  value := .stream (MessageStream.empty.createGroup.getD .empty)
  expiresAt := none

/-- `XGROUP CREATE` with `MKSTREAM` on a key that holds nothing. -/
theorem apply_xgroupCreate_none :
    (Command.xgroupCreate key).apply now none = (.ok .ok, some freshStream) := rfl

/-- A transaction that ends its commands on a key with `EXPIRE` leaves it with that time to
live, whatever it held and whatever the other commands were answered. -/
theorem expiry_applyAll (commands : List Command) {seconds : ℤ} (hpos : 0 < seconds)
    {content : Option Stored} {stored : Stored}
    (h : applyAll now (commands ++ [.expire key seconds]) content = some stored) :
    stored.expiresAt = some (now + seconds * 1000) := by
  unfold applyAll at h
  rw [List.foldl_append, List.foldl_cons, List.foldl_nil] at h
  cases hleft : left now (commands.foldl
      (fun content command => (command.apply now (left now content)).2) content) with
  | none =>
      rw [hleft] at h
      cases h
  | some before =>
      rw [hleft, apply_expire hpos, Option.some.injEq] at h
      rw [← h]

/-! ## Removals -/

/-- Applying removals of one key leaves nothing of it. -/
theorem applyAll_del {commands : List Command} (hne : commands ≠ [])
    (h : ∀ command ∈ commands, ∃ key, command = .del key) (content : Option Stored) :
    applyAll now commands content = none := by
  induction commands generalizing content with
  | nil => exact absurd rfl hne
  | cons command commands ih =>
      obtain ⟨key, rfl⟩ := h command List.mem_cons_self
      have hfirst : ((Command.del key).apply now (left now content)).2 = none := by
        cases hleft : left now content <;> rfl
      unfold applyAll
      rw [List.foldl_cons, hfirst]
      cases commands with
      | nil => rfl
      | cons second commands =>
          exact ih (List.cons_ne_nil _ _)
            (fun command hmem => h command (List.mem_cons_of_mem _ hmem)) none

/-- A transaction of removals removes the keys that it names and leaves the others. -/
theorem multi_del {commands : List Command} (db : Keyspace)
    (h : ∀ command ∈ commands, ∃ key, command = .del key) (key : String) :
    (multi now commands db).2 key =
      if key ∈ commands.map (·.key) then none else db key := by
  split
  · rename_i hmem
    obtain ⟨command, hcommand, hkey⟩ := List.mem_map.mp hmem
    rw [multi_key]
    refine applyAll_del ?_ (fun c hc => h c (List.mem_filter.mp hc).1) _
    exact List.ne_nil_of_mem (List.mem_filter.mpr ⟨hcommand, decide_eq_true hkey⟩)
  · rename_i hmem
    refine multi_other fun command hcommand hkey => hmem ?_
    exact List.mem_map.mpr ⟨command, hcommand, hkey⟩

/-! ## Text and lists -/

theorem integerOf_toString (n : ℤ) : integerOf (toString n) = some n := by
  rw [integerOf, Number.intOfText_toString]
  simp

theorem slice_all (items : List String) : slice 0 (-1) items = items := by
  simp [slice]

theorem slice_cap {cap : ℕ} (hcap : 1 ≤ cap) (items : List String) :
    slice 0 ((cap : ℤ) - 1) items = items.take cap := by
  have hnonneg : ¬ ((cap : ℤ) - 1 < 0) := by omega
  simp [slice, hnonneg]

end SwitchService.Foundation.Redis
