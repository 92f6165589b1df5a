import SwitchService.Db.MigrationRun

set_option autoImplicit false

/-!
# Db: one call of a migration run (`db/migrate.ts`)

`AtStage` says what the database holds for a run at a stage.  Every call that the run may
make keeps that (`step_call`), and leaves what the other runs rely on: only the holder of
the lock changes the table.
-/

namespace SwitchService.Db

open SwitchService.Foundation

/-- The transaction of a run at a stage. -/
def Stage.Opened : Stage → Option Transaction → Prop
  | .begun, transaction => transaction = some .empty
  | .ran file, transaction => transaction = some ⟨[file], [], false⟩
  | .inserted file, transaction => transaction = some ⟨[file], [file], false⟩
  | .failed, _ => True
  | _, transaction => transaction = none

/-- How the files that a run tried go with those that it committed. -/
def Stage.Kept : Stage → List String → List String → Prop
  | .ran file, tried, kept | .inserted file, tried, kept => tried = kept ++ [file]
  | .failed, tried, kept | .stopped, tried, kept | .released false, tried, kept =>
      tried = kept ∨ ∃ file, tried = kept ++ [file]
  | _, tried, kept => tried = kept

section

variable {ι : Type} [DecidableEq ι]

/-- A query for the lock waits while another session has it; it may be refused meanwhile. -/
def waitsForLock (fate : MigrationFate) (call : MigrationCall ι) (db : Database ι) : Bool :=
  match call with
  | .advisoryLock session => fate.query.carriedOut && db.lock.any (· ≠ session)
  | _ => false

/-- The files whose SQL a call committed. -/
def added (fate : MigrationFate) (call : MigrationCall ι) (db : Database ι) : List String :=
  (migrationAnswer fate call db).2.committed.drop db.committed.length

end

section

variable {ι : Type}

/-- The recorded files are the committed ones, and none is committed twice. -/
structure Ledger (db : Database ι) : Prop where
  recorded : db.recorded = db.committed
  nodup : db.committed.Nodup

/-- What the database holds for a run that has committed some files. -/
structure AtStage (db : Database ι) (i : ι) (p : Progress) (kept : List String) : Prop where
  lock : p.stage.holds = true → db.lock = some i
  free : p.stage.idle = true → db.lock ≠ some i
  opened : p.stage.Opened (db.transactions i)
  account : p.stage.Kept p.tried kept
  table : p.stage.knows = true → db.table = some (p.done.getD [] ++ kept)
  stays : ∀ file ∈ p.done.getD [] ++ kept, file ∈ db.committed

/-- What a call of a run leaves to the others. -/
structure Leaves (i : ι) (db db' : Database ι) : Prop where
  transactions : ∀ j ≠ i, db'.transactions j = db.transactions j
  lock : ∀ j ≠ i, (db'.lock = some j ↔ db.lock = some j)
  table : db.lock ≠ some i → db'.table = db.table
  grows : db.committed <+: db'.committed

variable {i : ι} {db db' : Database ι} {p : Progress} {kept : List String}

theorem Leaves.refl (i : ι) (db : Database ι) : Leaves i db db where
  transactions _ _ := rfl
  lock _ _ := Iff.rfl
  table _ := rfl
  grows := List.prefix_rfl

theorem knows_holds {stage : Stage} (h : stage.knows = true) : stage.holds = true := by
  cases stage <;> first | rfl | cases h

/-- The other runs stay at their stages. -/
theorem AtStage.frame {j : ι} (h : AtStage db j p kept) (hj : j ≠ i) (hleaves : Leaves i db db') :
    AtStage db' j p kept where
  lock hstage := (hleaves.lock j hj).mpr (h.lock hstage)
  free hstage := fun hlock => h.free hstage ((hleaves.lock j hj).mp hlock)
  opened := by
    rw [hleaves.transactions j hj]
    exact h.opened
  account := h.account
  table hstage := by
    have hheld := h.lock (knows_holds hstage)
    rw [hleaves.table (by rw [hheld]; exact fun heq => hj (Option.some.inj heq))]
    exact h.table hstage
  stays file hfile := hleaves.grows.subset (h.stays file hfile)

/-- A pending file that a run has not committed is not committed. -/
theorem AtStage.not_committed (h : AtStage db i p kept) (hledger : Ledger db) (hgood : p.Good)
    (hknows : p.stage.knows = true) {file : String} (hfile : file ∈ p.tried ++ p.rest)
    (hkept : file ∉ kept) : file ∉ db.committed := by
  rw [hgood.split] at hfile
  have hdone := not_mem_of_pendingFiles hfile
  rw [← hledger.recorded, Database.recorded, h.table hknows]
  simpa using ⟨hdone, hkept⟩

/-- The file of a transaction that is about to be committed is a new one. -/
theorem AtStage.new_file (h : AtStage db i p kept) (hledger : Ledger db) (hgood : p.Good)
    {file : String} (hstage : p.stage = .inserted file) : file ∉ db.committed := by
  have hkept := h.account
  rw [hstage] at hkept
  have htried : p.tried = kept ++ [file] := hkept
  have hpending := nodup_pendingFiles p.done p.listing
  rw [← hgood.split, htried] at hpending
  refine h.not_committed hledger hgood (by rw [hstage]; rfl) (by simp [htried]) fun hmem => ?_
  exact (List.disjoint_of_nodup_append (List.nodup_append.mp hpending).1) hmem
    List.mem_cons_self

/-- A run that has tried no file has committed none. -/
theorem AtStage.nothing_kept (h : AtStage db i p kept) (hgood : p.Good)
    (hunlisted : p.stage.unlisted = true) : kept = [] := by
  have hsplit := hgood.split
  rw [hgood.unlisted hunlisted] at hsplit
  have htried := (List.append_eq_nil_iff.mp hsplit).1
  have hkept := h.account
  rw [htried] at hkept
  revert hunlisted hkept
  cases p.stage <;> intro hunlisted hkept <;> first | exact hkept.symm | cases hunlisted

/-- What a call of a run leads to. -/
structure Advances (i : ι) (db db' : Database ι) (p' : Progress) (kept' : List String) :
    Prop where
  stage : AtStage db' i p' kept'
  ledger : Ledger db'
  leaves : Leaves i db db'

/-- A call after which nothing has changed but the stage, which asks for no more. -/
theorem AtStage.advances_same (h : AtStage db i p kept) (hledger : Ledger db) {p' : Progress}
    (hlock : p'.stage.holds = true → p.stage.holds = true) (hidle : p'.stage.idle = false)
    (hopened : p'.stage.Opened (db.transactions i)) (hkept : p'.stage.Kept p'.tried kept)
    (hknows : p'.stage.knows = true → p.stage.knows = true) (hdone : p'.done = p.done) :
    Advances i db db p' kept where
  stage :=
    { lock := fun hholds => h.lock (hlock hholds)
      free := fun hidle' => absurd hidle' (by simp [hidle])
      opened := hopened
      account := hkept
      table := fun hstage => by rw [hdone]; exact h.table (hknows hstage)
      stays := by rw [hdone]; exact h.stays }
  ledger := hledger
  leaves := Leaves.refl i db

end

/-! ## The transaction of a session -/

section

variable {ι : Type} [DecidableEq ι] {i : ι} {db : Database ι} {p : Progress}
  {kept : List String}

@[simp] theorem setTransaction_self (db : Database ι) (i : ι) (t : Option Transaction) :
    (db.setTransaction i t).transactions i = t := Function.update_self ..

theorem setTransaction_of_ne {j : ι} (h : j ≠ i) (t : Option Transaction) :
    (db.setTransaction i t).transactions j = db.transactions j := Function.update_of_ne h ..

theorem leaves_setTransaction (i : ι) (db : Database ι) (t : Option Transaction) :
    Leaves i db (db.setTransaction i t) where
  transactions _ hj := setTransaction_of_ne hj t
  lock _ _ := Iff.rfl
  table _ := rfl
  grows := List.prefix_rfl

/-- A statement of a transaction is carried out in it and succeeds, or it fails and leaves
some transaction behind. -/
theorem statement_cases {transaction : Transaction} {fate : QueryFate}
    {apply : Transaction → Except String Transaction} {direct : Except String (Database ι)}
    (h : db.transactions i = some transaction) (haborted : transaction.aborted = false) :
    (∃ transaction', apply transaction = .ok transaction' ∧
      statement fate i db apply direct = (.ok (), db.setTransaction i (some transaction'))) ∨
    ∃ message transaction', statement fate i db apply direct =
      (.error message, db.setTransaction i (some transaction')) := by
  unfold statement
  simp only [h, haborted, Bool.false_eq_true, if_false]
  cases fate with
  | refused message => exact .inr ⟨message, _, rfl⟩
  | done =>
      cases happly : apply transaction with
      | ok transaction' => exact .inl ⟨transaction', rfl, rfl⟩
      | error message => exact .inr ⟨message, _, rfl⟩
  | lost message =>
      cases apply transaction with
      | ok transaction' => exact .inr ⟨message, transaction', rfl⟩
      | error _ => exact .inr ⟨message, _, rfl⟩

/-- A call of a run that holds the lock, and changes its transaction. -/
theorem AtStage.advances_transaction (h : AtStage db i p kept) (hledger : Ledger db)
    (hknows : p.stage.knows = true) {p' : Progress} {t : Option Transaction}
    (hidle : p'.stage.idle = false) (hopened : p'.stage.Opened t)
    (hkept : p'.stage.Kept p'.tried kept) (hdone : p'.done = p.done) :
    Advances i db (db.setTransaction i t) p' kept where
  stage :=
    { lock := fun _ => h.lock (knows_holds hknows)
      free := fun hidle' => absurd hidle' (by simp [hidle])
      opened := by
        rw [setTransaction_self]
        exact hopened
      account := hkept
      table := fun _ => by rw [hdone]; exact h.table hknows
      stays := by rw [hdone]; exact h.stays }
  ledger := ⟨hledger.recorded, hledger.nodup⟩
  leaves := leaves_setTransaction i db t

/-! ## The calls -/

theorem step_advisoryLock (h : AtStage db i p kept) (hledger : Ledger db)
    {fate : MigrationFate} (hstage : p.stage = .before)
    (hwaits : waitsForLock fate (.advisoryLock i) db = false) :
    Advances i db (migrationAnswer fate (.advisoryLock i) db).2
      (p.next (.advisoryLock i) (migrationAnswer fate (.advisoryLock i) db).1) kept := by
  have hopened := h.opened
  have hkept := h.account
  rw [hstage] at hopened hkept
  have hasked : Advances i db db { p with stage := .asked } kept :=
    h.advances_same hledger (fun hholds => nomatch hholds) rfl hopened hkept
      (fun hknows => nomatch hknows) rfl
  have hothers : fate.query.carriedOut = true →
      ∀ j ≠ i, (some i = some j ↔ db.lock = some j) := by
    intro hout j hj
    rw [waitsForLock, hout, Bool.true_and] at hwaits
    refine ⟨fun hij => absurd (Option.some.inj hij).symm hj, fun hlock => ?_⟩
    simp [hlock, hj] at hwaits
  have hgranted : fate.query.carriedOut = true → ∀ stage : Stage, stage.idle = false →
      stage.knows = false → stage.Opened (db.transactions i) → stage.Kept p.tried kept →
      Advances i db { db with lock := some i } { p with stage := stage } kept := by
    intro hout stage hidle hknows hopened hkept
    exact
      { stage :=
          { lock := fun _ => rfl
            free := fun hidle' => absurd hidle' (by simp [hidle])
            opened := hopened
            account := hkept
            table := fun hknows' => absurd hknows' (by simp [hknows])
            stays := h.stays }
        ledger := ⟨hledger.recorded, hledger.nodup⟩
        leaves := ⟨fun _ _ => rfl, hothers hout, fun _ => rfl, List.prefix_rfl⟩ }
  unfold migrationAnswer
  dsimp only
  cases hfate : fate.query with
  | done => exact hgranted (by rw [hfate]; rfl) .locked rfl rfl hopened hkept
  | refused message => exact hasked
  | lost message => exact hgranted (by rw [hfate]; rfl) .asked rfl rfl hopened hkept

theorem step_createTable (h : AtStage db i p kept) (hledger : Ledger db)
    (hstage : p.stage = .locked) (fate : MigrationFate) :
    Advances i db (migrationAnswer fate (.createTable i) db).2
      (p.next (.createTable i) (migrationAnswer fate (.createTable i) db).1) kept := by
  have hheld := h.lock (by rw [hstage]; rfl)
  have hsame : Advances i db db p kept := ⟨h, hledger, Leaves.refl i db⟩
  have hcreated : Advances i db { db with table := some db.recorded } p kept :=
    { stage :=
        { lock := h.lock
          free := h.free
          opened := h.opened
          account := h.account
          table := fun hknows => absurd hknows (by rw [hstage]; simp [Stage.knows])
          stays := h.stays }
      ledger := ⟨hledger.recorded, hledger.nodup⟩
      leaves := ⟨fun _ _ => rfl, fun _ _ => Iff.rfl, fun hne => absurd hheld hne,
        List.prefix_rfl⟩ }
  unfold migrationAnswer
  dsimp only
  cases fate.query with
  | done => exact hcreated
  | refused message => exact hsame
  | lost message => exact hcreated

theorem step_selectNames (h : AtStage db i p kept) (hledger : Ledger db) (hgood : p.Good)
    (hstage : p.stage = .locked) (fate : MigrationFate) :
    Advances i db (migrationAnswer fate (.selectNames i) db).2
      (p.next (.selectNames i) (migrationAnswer fate (.selectNames i) db).1) kept := by
  have hsame : Advances i db db p kept := ⟨h, hledger, Leaves.refl i db⟩
  have hnone := h.nothing_kept hgood (by rw [hstage]; rfl)
  have hheld := h.lock (by rw [hstage]; rfl)
  have hopened := h.opened
  have hkept := h.account
  rw [hstage] at hopened hkept
  have hread : ∀ names, db.table = some names →
      Advances i db db { p with stage := .informed, done := some names } kept := by
    intro names htable
    have hrecorded : db.committed = names := by
      rw [← hledger.recorded, Database.recorded, htable, Option.getD_some]
    exact
      { stage :=
          { lock := fun _ => hheld
            free := fun hidle => nomatch hidle
            opened := hopened
            account := hkept
            table := fun _ => by rw [htable, hnone, Option.getD_some, List.append_nil]
            stays := by
              rw [hnone, hrecorded, Option.getD_some, List.append_nil]
              exact fun _ hfile => hfile }
        ledger := hledger
        leaves := Leaves.refl i db }
  unfold migrationAnswer
  dsimp only
  cases fate.query with
  | refused message => exact hsame
  | lost message => exact hsame
  | done =>
      cases htable : db.table with
      | none => exact hsame
      | some names => exact hread names htable

theorem step_readdir (h : AtStage db i p kept) (hledger : Ledger db)
    (hstage : p.stage = .informed) (fate : MigrationFate) :
    Advances i db (migrationAnswer fate .readdir db).2
      (p.next (ι := ι) .readdir (migrationAnswer (ι := ι) fate .readdir db).1) kept := by
  have hopened := h.opened
  have hkept := h.account
  rw [hstage] at hopened hkept
  unfold migrationAnswer
  dsimp only
  cases fate.listing with
  | error message => exact ⟨h, hledger, Leaves.refl i db⟩
  | ok listing =>
      exact h.advances_same hledger (fun _ => by rw [hstage]; rfl) rfl hopened hkept
        (fun _ => by rw [hstage]; rfl) rfl

theorem step_begin (h : AtStage db i p kept) (hledger : Ledger db)
    (hstage : p.stage = .between) (fate : MigrationFate) :
    Advances i db (migrationAnswer fate (.begin i) db).2
      (p.next (.begin i) (migrationAnswer fate (.begin i) db).1) kept := by
  have hkept := h.account
  rw [hstage] at hkept
  exact h.advances_transaction hledger (by rw [hstage]; rfl) rfl rfl hkept rfl

theorem step_run (h : AtStage db i p kept) (hledger : Ledger db) {file : String}
    (hstage : p.stage = .begun) (fate : MigrationFate) (sql : String) :
    Advances i db (migrationAnswer fate (.run i file sql) db).2
      (p.next (.run i file sql) (migrationAnswer fate (.run i file sql) db).1) kept := by
  have hknows : p.stage.knows = true := by rw [hstage]; rfl
  have hopened := h.opened
  have hkept := h.account
  rw [hstage] at hopened hkept
  have htried : p.tried ++ [file] = kept ++ [file] := congrArg (· ++ [file]) hkept
  unfold migrationAnswer
  dsimp only
  obtain ⟨transaction, happly, heq⟩ | ⟨message, transaction, heq⟩ :=
    statement_cases hopened rfl
  · rw [heq]
    cases happly
    exact h.advances_transaction hledger hknows rfl rfl htried rfl
  · rw [heq]
    exact h.advances_transaction hledger hknows rfl trivial (.inr ⟨file, htried⟩) rfl

theorem step_insert (h : AtStage db i p kept) (hledger : Ledger db) {file : String}
    (hstage : p.stage = .ran file) (fate : MigrationFate) :
    Advances i db (migrationAnswer fate (.insert i file) db).2
      (p.next (.insert i file) (migrationAnswer fate (.insert i file) db).1) kept := by
  have hknows : p.stage.knows = true := by rw [hstage]; rfl
  have hopened := h.opened
  have hkept := h.account
  rw [hstage] at hopened hkept
  unfold migrationAnswer
  dsimp only
  obtain ⟨transaction, happly, heq⟩ | ⟨message, transaction, heq⟩ :=
    statement_cases hopened rfl
  · rw [heq]
    split at happly
    · cases happly
    · split at happly
      · cases happly
      · cases happly
        exact h.advances_transaction hledger hknows rfl rfl hkept rfl
  · rw [heq]
    exact h.advances_transaction hledger hknows rfl trivial (.inr ⟨file, hkept⟩) rfl

theorem step_rollback (h : AtStage db i p kept) (hledger : Ledger db)
    (hstage : p.stage = .failed) (fate : MigrationFate) :
    Advances i db (migrationAnswer fate (.rollback i) db).2
      (p.next (.rollback i) (migrationAnswer fate (.rollback i) db).1) kept := by
  have hkept := h.account
  rw [hstage] at hkept
  exact h.advances_transaction hledger (by rw [hstage]; rfl) rfl rfl hkept rfl

/-- A commit that is carried out adds the file of the transaction, and its name. -/
theorem commitTransaction_inserted {file : String}
    (hopened : db.transactions i = some ⟨[file], [file], false⟩) :
    commitTransaction db i =
      { db.setTransaction i none with
        committed := db.committed ++ [file]
        table := db.table.map (· ++ [file]) } := by
  rw [commitTransaction, hopened]
  rfl

theorem AtStage.advances_commit (h : AtStage db i p kept) (hledger : Ledger db)
    (hgood : p.Good) {file : String} (hstage : p.stage = .inserted file) {stage : Stage}
    (hidle : stage.idle = false) (hopened : stage.Opened none)
    (hkept : stage.Kept p.tried (kept ++ [file])) :
    Advances i db
      { db.setTransaction i none with
        committed := db.committed ++ [file]
        table := db.table.map (· ++ [file]) } { p with stage := stage } (kept ++ [file]) := by
  have hknows : p.stage.knows = true := by rw [hstage]; rfl
  have hheld := h.lock (knows_holds hknows)
  have htable := h.table hknows
  have hnew := h.new_file hledger hgood hstage
  exact
    { stage :=
        { lock := fun _ => hheld
          free := fun hidle' => absurd hidle' (by simp [hidle])
          opened := by
            change stage.Opened ((db.setTransaction i none).transactions i)
            rw [setTransaction_self]
            exact hopened
          account := hkept
          table := fun _ => by
            rw [htable, Option.map_some, List.append_assoc]
          stays := fun name hname => by
            rw [← List.append_assoc] at hname
            rcases List.mem_append.mp hname with hold | hlast
            · exact List.mem_append_left _ (h.stays name hold)
            · exact List.mem_append_right _ hlast }
      ledger :=
        { recorded := by
            rw [← hledger.recorded]
            simp [Database.recorded, htable]
          nodup := List.nodup_append.mpr ⟨hledger.nodup, List.nodup_singleton file, by
            rintro name hname _ hsingle rfl
            rw [List.mem_singleton.mp hsingle] at hname
            exact hnew hname⟩ }
      leaves :=
        { transactions := fun _ hj => setTransaction_of_ne hj none
          lock := fun _ _ => Iff.rfl
          table := fun hne => absurd hheld hne
          grows := List.prefix_append _ _ } }

theorem step_commit (h : AtStage db i p kept) (hledger : Ledger db) (hgood : p.Good)
    {file : String} (hstage : p.stage = .inserted file) (fate : MigrationFate) :
    Advances i db (migrationAnswer fate (.commit i) db).2
      (p.next (.commit i) (migrationAnswer fate (.commit i) db).1)
      (kept ++ added fate (.commit i) db) := by
  have hopened := h.opened
  have hkept := h.account
  rw [hstage] at hopened hkept
  have htried : p.tried = kept ++ [file] := hkept
  have hcommit := commitTransaction_inserted hopened
  have hadded : (commitTransaction db i).committed.drop db.committed.length = [file] := by
    rw [hcommit]
    exact List.drop_left
  unfold added migrationAnswer
  dsimp only
  cases fate.query with
  | refused message =>
      change Advances i db db { p with stage := .failed } (kept ++ db.committed.drop _)
      rw [List.drop_length, List.append_nil]
      exact h.advances_same hledger (fun _ => by rw [hstage]; rfl) rfl trivial
        (.inr ⟨file, htried⟩) (fun _ => by rw [hstage]; rfl) rfl
  | done =>
      change Advances i db (commitTransaction db i) { p with stage := .between }
        (kept ++ (commitTransaction db i).committed.drop db.committed.length)
      rw [hadded, hcommit]
      exact h.advances_commit hledger hgood hstage rfl rfl htried
  | lost message =>
      change Advances i db (commitTransaction db i) { p with stage := .failed }
        (kept ++ (commitTransaction db i).committed.drop db.committed.length)
      rw [hadded, hcommit]
      exact h.advances_commit hledger hgood hstage rfl trivial (.inl htried)

theorem opened_none {stage : Stage} {transaction : Option Transaction}
    (h : stage.Opened transaction) (hout : stage.inTransaction = false) : transaction = none := by
  revert h hout
  cases stage <;> intro h hout <;> first | exact h | cases hout

theorem kept_released {stage : Stage} {tried kept : List String} (h : stage.Kept tried kept)
    (hout : stage.inTransaction = false) :
    (Stage.released (!stage.halted)).Kept tried kept := by
  revert h hout
  rcases stage with _ | _ | _ | _ | _ | _ | _ | _ | _ | _ | ⟨_ | _⟩ <;> intro h hout <;>
    first | exact h | cases hout

theorem step_advisoryUnlock (h : AtStage db i p kept) (hledger : Ledger db)
    (hout : p.stage.inTransaction = false) (fate : MigrationFate) :
    Advances i db (migrationAnswer fate (.advisoryUnlock i) db).2
      (p.next (.advisoryUnlock i) (migrationAnswer fate (.advisoryUnlock i) db).1) kept := by
  have hopened := opened_none h.opened hout
  have hkept := kept_released h.account hout
  unfold migrationAnswer
  dsimp only
  split
  · rename_i hheld
    exact
      { stage :=
          { lock := fun hholds => nomatch hholds
            free := fun _ hlock => nomatch hlock
            opened := hopened
            account := hkept
            table := fun hknows => nomatch hknows
            stays := h.stays }
        ledger := ⟨hledger.recorded, hledger.nodup⟩
        leaves :=
          { transactions := fun _ _ => rfl
            lock := fun j hj => by simp [hheld, Ne.symm hj]
            table := fun _ => rfl
            grows := List.prefix_rfl } }
  · rename_i hheld
    exact
      { stage :=
          { lock := fun hholds => nomatch hholds
            free := fun _ => hheld
            opened := hopened
            account := hkept
            table := fun hknows => nomatch hknows
            stays := h.stays }
        ledger := hledger
        leaves := Leaves.refl i db }

/-! ## All calls -/

theorem statement_committed {transaction : Transaction} {fate : QueryFate}
    {apply : Transaction → Except String Transaction} {direct : Except String (Database ι)}
    (h : db.transactions i = some transaction) :
    (statement fate i db apply direct).2.committed = db.committed := by
  unfold statement
  simp only [h]
  split
  · rfl
  · split <;> rfl

/-- Only a commit adds to the committed files. -/
theorem added_eq_nil (h : AtStage db i p kept) {call : MigrationCall ι}
    (hallow : p.Allows i call) (hcall : call ≠ .commit i) (fate : MigrationFate) :
    added fate call db = [] := by
  have hsame : (migrationAnswer fate call db).2.committed = db.committed := by
    have hopened := h.opened
    cases call with
    | connect | selectNames _ | readdir | readFile _ | begin _ | rollback _ => rfl
    | advisoryLock _ | createTable _ | advisoryUnlock _ =>
        unfold migrationAnswer
        dsimp only
        split <;> rfl
    | run s file sql =>
        obtain ⟨rfl, hstage, -⟩ := hallow
        rw [hstage] at hopened
        exact statement_committed hopened
    | insert s file =>
        obtain ⟨rfl, hstage⟩ := hallow
        rw [hstage] at hopened
        exact statement_committed hopened
    | commit s =>
        obtain ⟨rfl, -⟩ := hallow
        exact absurd rfl hcall
  rw [added, hsame, List.drop_length]

/-- Every call that a run may make. -/
theorem step_call (h : AtStage db i p kept) (hledger : Ledger db) (hgood : p.Good)
    {call : MigrationCall ι} {fate : MigrationFate} (hallow : p.Allows i call)
    (hwaits : waitsForLock fate call db = false) :
    Advances i db (migrationAnswer fate call db).2
      (p.next call (migrationAnswer fate call db).1) (kept ++ added fate call db) := by
  have hnone : call ≠ .commit i → kept ++ added fate call db = kept := by
    intro hcall
    rw [added_eq_nil h hallow hcall, List.append_nil]
  cases call with
  | connect | readFile _ =>
      rw [hnone nofun]
      exact ⟨h, hledger, Leaves.refl i db⟩
  | advisoryLock s =>
      obtain ⟨rfl, hstage⟩ := hallow
      rw [hnone nofun]
      exact step_advisoryLock h hledger hstage hwaits
  | createTable s =>
      obtain ⟨rfl, hstage⟩ := hallow
      rw [hnone nofun]
      exact step_createTable h hledger hstage fate
  | selectNames s =>
      obtain ⟨rfl, hstage⟩ := hallow
      rw [hnone nofun]
      exact step_selectNames h hledger hgood hstage fate
  | readdir =>
      rw [hnone nofun]
      exact step_readdir h hledger hallow fate
  | begin s =>
      obtain ⟨rfl, hstage⟩ := hallow
      rw [hnone nofun]
      exact step_begin h hledger hstage fate
  | run s file sql =>
      obtain ⟨rfl, hstage, -⟩ := hallow
      rw [hnone nofun]
      exact step_run h hledger hstage fate sql
  | insert s file =>
      obtain ⟨rfl, hstage⟩ := hallow
      rw [hnone nofun]
      exact step_insert h hledger hstage fate
  | commit s =>
      obtain ⟨rfl, file, hstage⟩ := hallow
      exact step_commit h hledger hgood hstage fate
  | rollback s =>
      obtain ⟨rfl, hstage⟩ := hallow
      rw [hnone nofun]
      exact step_rollback h hledger hstage fate
  | advisoryUnlock s =>
      obtain ⟨rfl, -, hout⟩ := hallow
      rw [hnone nofun]
      exact step_advisoryUnlock h hledger hout fate

/-- After a file that failed, no call adds to the committed files. -/
theorem halted_next (h : AtStage db i p kept) (hhalted : p.stage.halted = true)
    {call : MigrationCall ι} (hallow : p.Allows i call) (fate : MigrationFate)
    (reply : Except String call.Ans) :
    added fate call db = [] ∧ (p.next call reply).stage.halted = true := by
  cases call with
  | rollback s => exact ⟨added_eq_nil h hallow nofun fate, rfl⟩
  | advisoryUnlock s =>
      refine ⟨added_eq_nil h hallow nofun fate, ?_⟩
      change (Stage.released (!p.stage.halted)).halted = true
      rw [hhalted]
      rfl
  | connect | readFile _ | readdir =>
      rw [show p.stage = _ from hallow] at hhalted
      cases hhalted
  | advisoryLock s | createTable s | selectNames s | begin s | insert s file =>
      rw [hallow.2] at hhalted
      cases hhalted
  | run s file sql =>
      rw [hallow.2.1] at hhalted
      cases hhalted
  | commit s =>
      obtain ⟨-, file, hstage⟩ := hallow
      rw [hstage] at hhalted
      cases hhalted

end

end SwitchService.Db
