import Mathlib.Data.List.Lex
import SwitchService.Foundation.Interleaving
import SwitchService.Foundation.Utf16

set_option autoImplicit false

/-!
# Db: the migrations (`db/migrate.ts`)

A run takes a session of its own and the advisory lock, reads which files are recorded, and
applies the others one by one, each in a transaction that also records it.  The SQL of a
file is one opaque effect: it has no transaction commands and leaves `schema_migrations`
alone.  Sessions are named by the runs that hold them.
-/

namespace SwitchService.Db

open SwitchService.Foundation

/-! ## The database -/

/-- What a session has done since its `BEGIN`. -/
structure Transaction where
  /-- The files whose SQL has run in it. -/
  ran : List String
  inserted : List String
  /-- A statement failed: nothing but the end of the transaction is accepted. -/
  aborted : Bool
  deriving DecidableEq

/-- A transaction that has just begun. -/
def Transaction.empty : Transaction where
  ran := []
  inserted := []
  aborted := false

/-- The part of the database that the runs share, with the open transaction of each session. -/
structure Database (ι : Type) where
  /-- The session that holds the advisory lock. -/
  lock : Option ι
  /-- The names in `schema_migrations`, in the order they came; at first there is no table. -/
  table : Option (List String)
  /-- The files whose SQL is committed. -/
  committed : List String
  transactions : ι → Option Transaction

/-- The files recorded in `schema_migrations`. -/
def Database.recorded {ι : Type} (db : Database ι) : List String := db.table.getD []

/-- Names that differ, as those in a directory and those that are a key of a table. -/
structure DistinctNames where
  names : List String
  nodup : names.Nodup
  deriving DecidableEq

/-- What earlier deployments left: the recorded files are committed. -/
def Database.start {ι : Type} (recorded : Option DistinctNames) : Database ι where
  lock := none
  table := recorded.map (·.names)
  committed := (recorded.map (·.names)).getD []
  transactions _ := none

/-- A session enters, moves or leaves its transaction. -/
def Database.setTransaction {ι : Type} [DecidableEq ι] (db : Database ι) (session : ι)
    (transaction : Option Transaction) : Database ι :=
  { db with transactions := Function.update db.transactions session transaction }

/-! ## The calls -/

/-- What `runMigrations` waits for. -/
inductive MigrationCall (ι : Type) where
  /-- `db.connect()`. -/
  | connect
  | advisoryLock (session : ι)
  | createTable (session : ι)
  | selectNames (session : ι)
  | readdir
  | readFile (file : String)
  | begin (session : ι)
  /-- The SQL of a file. -/
  | run (session : ι) (file : String) (sql : String)
  | insert (session : ι) (file : String)
  | commit (session : ι)
  | rollback (session : ι)
  | advisoryUnlock (session : ι)
  deriving DecidableEq

/-- What a call answers. -/
abbrev MigrationCall.Ans {ι : Type} : MigrationCall ι → Type
  | .selectNames _ => List String
  | .readdir => DistinctNames
  | .readFile _ => String
  | _ => Unit

/-- How a query ends. -/
inductive QueryFate where
  | done
  /-- It rejects and was not carried out. -/
  | refused (message : String)
  /-- It was carried out and rejects all the same. -/
  | lost (message : String)
  deriving DecidableEq

/-- The query took effect. -/
def QueryFate.carriedOut : QueryFate → Bool
  | .refused _ => false
  | _ => true

/-- How a call ends: a query, and what is read from the disk. -/
structure MigrationFate where
  query : QueryFate
  listing : Except String DistinctNames
  content : Except String String

section

variable {ι : Type} [DecidableEq ι]

/-- The reply to a query, when it is carried out with a reply or an error of its own. -/
def QueryFate.reply {α : Type} (fate : QueryFate) (reply : Except String α) : Except String α :=
  match fate with
  | .done => reply
  | .refused message | .lost message => .error message

/-- A statement of a session: it fails in an aborted transaction, and a failure aborts the
transaction it is in.  `apply` says what it does in the transaction, and `direct` what it
does outside of one. -/
def statement (fate : QueryFate) (session : ι) (db : Database ι)
    (apply : Transaction → Except String Transaction)
    (direct : Except String (Database ι)) : Except String Unit × Database ι :=
  match db.transactions session with
  | none =>
      match fate.carriedOut, direct with
      | true, .ok db' => (fate.reply (.ok ()), db')
      | true, .error message => (fate.reply (.error message), db)
      | false, _ => (fate.reply (.ok ()), db)
  | some transaction =>
      let abort := db.setTransaction session (some { transaction with aborted := true })
      if transaction.aborted then
        (.error "current transaction is aborted, commands ignored until end of transaction block",
          db)
      else match fate.carriedOut, apply transaction with
        | true, .ok transaction' =>
            (fate.reply (.ok ()), db.setTransaction session (some transaction'))
        | true, .error message => (fate.reply (.error message), abort)
        | false, _ => (fate.reply (.ok ()), abort)

/-- The error of a statement before the table is there. -/
def noTable : String := "relation \"schema_migrations\" does not exist"

/-- The error of a file that is recorded already. -/
def duplicateKey : String :=
  "duplicate key value violates unique constraint \"schema_migrations_pkey\""

/-- The end of a transaction that is committed. -/
def commitTransaction (db : Database ι) (session : ι) : Database ι :=
  match db.transactions session with
  | none => db
  | some transaction =>
      if transaction.aborted then db.setTransaction session none
      else
        { db.setTransaction session none with
          committed := db.committed ++ transaction.ran
          table := db.table.map (· ++ transaction.inserted) }

/-- The answer to a call that ends in a given way.  `BEGIN`, `ROLLBACK` and the unlock
succeed.  Two sessions that insert one name at a time would wait for each other; the lock
keeps them apart. -/
def migrationAnswer :
    Pool.Answer MigrationFate (Database ι) String (MigrationCall.Ans (ι := ι))
  | fate, call, db => match call with
  | .connect => (fate.query.reply (.ok ()), db)
  | .advisoryLock session =>
      (fate.query.reply (.ok ()),
        if fate.query.carriedOut then { db with lock := some session } else db)
  | .createTable _ =>
      (fate.query.reply (.ok ()),
        if fate.query.carriedOut then { db with table := some db.recorded } else db)
  | .selectNames _ =>
      (fate.query.reply (match db.table with
        | none => .error noTable
        | some names => .ok names), db)
  | .readdir => (fate.listing, db)
  | .readFile _ => (fate.content, db)
  | .begin session => (.ok (), db.setTransaction session (some .empty))
  | .run session file _ =>
      statement fate.query session db
        (fun transaction => .ok { transaction with ran := transaction.ran ++ [file] })
        (.ok { db with committed := db.committed ++ [file] })
  | .insert session file =>
      statement fate.query session db
        (fun transaction =>
          match db.table with
          | none => .error noTable
          | some names =>
              if file ∈ names ++ transaction.inserted then .error duplicateKey
              else .ok { transaction with inserted := transaction.inserted ++ [file] })
        (match db.table with
        | none => .error noTable
        | some names =>
            if file ∈ names then .error duplicateKey
            else .ok { db with table := some (names ++ [file]) })
  | .commit session =>
      (fate.query.reply (.ok ()),
        if fate.query.carriedOut then commitTransaction db session else db)
  | .rollback session => (.ok (), db.setTransaction session none)
  | .advisoryUnlock session =>
      (.ok (), if db.lock = some session then { db with lock := none } else db)

end

/-! ## The order of the files -/

/-- The order of `Array.prototype.sort`, by the UTF-16 units. -/
def NameLe (a b : String) : Prop := Utf16.units a.toList ≤ Utf16.units b.toList

instance (a b : String) : Decidable (NameLe a b) := inferInstanceAs (Decidable (_ ≤ _))

instance : Std.Total NameLe where
  total a b := le_total (Utf16.units a.toList) (Utf16.units b.toList)

instance : IsTrans String NameLe where
  trans _ _ _ hab hbc := le_trans (α := List ℕ) hab hbc

/-- `readdirSync(…).filter((f) => f.endsWith('.sql')).sort()`. -/
def migrationFiles (names : List String) : List String :=
  (names.filter fun name => decide (".sql".toList <:+ name.toList)).insertionSort NameLe

/-! ## The program -/

/-- An asynchronous function over the calls of a run. -/
abbrev MigrationProgram (ι α : Type) : Type :=
  Prog (MigrationCall ι) MigrationCall.Ans String α

section

variable {ι : Type} (session : ι)

/-- The transaction of one file. -/
def applyFile (file sql : String) : MigrationProgram ι Unit :=
  Prog.tryCatch
    (do
      let _ ← Prog.await (.begin session)
      let _ ← Prog.await (.run session file sql)
      let _ ← Prog.await (.insert session file)
      let _ ← Prog.await (.commit session)
      return ())
    fun message => do
      let _ ← Prog.await (.rollback session)
      Prog.throw ("migration " ++ file ++ " failed: " ++ message)

/-- The loop over the files. -/
def applyFiles (done : List String) : List String → List String →
    MigrationProgram ι (List String)
  | [], applied => return applied
  | file :: files, applied =>
      if file ∈ done then applyFiles done files applied
      else do
        let sql ← Prog.await (MigrationCall.readFile file)
        applyFile session file sql
        applyFiles done files (applied ++ [file])

/-- `runMigrations`: the lock is released whatever happened. -/
def runMigrations : MigrationProgram ι (List String) := do
  let _ ← Prog.await MigrationCall.connect
  Prog.tryFinally
    (do
      let _ ← Prog.await (.advisoryLock session)
      let _ ← Prog.await (.createTable session)
      let done ← Prog.await (.selectNames session)
      let listing ← Prog.await (MigrationCall.readdir (ι := ι))
      applyFiles session done (migrationFiles listing.names) [])
    (do
      let _ ← Prog.await (.advisoryUnlock session)
      return ())

end

end SwitchService.Db
