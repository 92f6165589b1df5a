import SwitchService.Db.MigrationStep

set_option autoImplicit false

/-!
# Runs: each migration once, in order

Any number of runs share one database, each in its own session.  The lock is taken before
the names are read and held until after the last transaction, so what a run read stays
true, but for the files that it committed itself.
-/

namespace SwitchService.Runs

open SwitchService.Foundation SwitchService.Db

section

variable (ι : Type)

/-- A call of a run as the log keeps it. -/
abbrev MigrationEntry : Type :=
  Entry ι MigrationFate (Database ι) String (MigrationCall.Ans (ι := ι))

/-- Runs of `runMigrations`, each in a session of its own. -/
abbrev MigrationPool : Type :=
  Pool MigrationFate (Database ι) String (MigrationCall.Ans (ι := ι)) fun _ : ι => List String

end

section

variable {ι : Type} [DecidableEq ι]

/-- One call of a run; nothing else uses the database. -/
def migrationNext (pool : MigrationPool ι) (move : Move ι MigrationFate Empty) :
    MigrationPool ι :=
  pool.nextUnless migrationAnswer (fun change => change.elim) waitsForLock move

/-! ## Reading the log -/

/-- The file whose SQL is tried. -/
def tries (e : MigrationEntry ι) : List String :=
  match e.op with
  | .run _ file _ => [file]
  | _ => []

/-- The file whose SQL fails. -/
def fails : MigrationEntry ι → List String
  | ⟨_, .run _ file _, _, .error _, _⟩ => [file]
  | _ => []

/-- The files whose SQL is committed by the call. -/
def commits (e : MigrationEntry ι) : List String := added e.fate e.op e.before

/-- The names that a run was told to be recorded. -/
def namesRead : MigrationEntry ι → Option (List String)
  | ⟨_, .selectNames _, _, .ok names, _⟩ => some names
  | _ => none

/-- What a run found in the directory. -/
def directoryRead : MigrationEntry ι → Option DistinctNames
  | ⟨_, .readdir, _, .ok listing, _⟩ => some listing
  | _ => none

/-- The files of all calls of a run, oldest first. -/
def filesOf (f : MigrationEntry ι → List String) (i : ι) :
    List (MigrationEntry ι) → List String
  | [] => []
  | e :: older => if e.thread = i then filesOf f i older ++ f e else filesOf f i older

/-- What a run read last. -/
def lastRead {β : Type} (f : MigrationEntry ι → Option β) (i : ι) :
    List (MigrationEntry ι) → Option β
  | [] => none
  | e :: older => if e.thread = i then (f e).or (lastRead f i older) else lastRead f i older

/-- The files that a run has to apply: those of the directory that were not recorded. -/
def pendingOf (i : ι) (log : List (MigrationEntry ι)) : List String :=
  pendingFiles (lastRead namesRead i log) (lastRead directoryRead i log)

/-! ## The property -/

/-- How far a run has come. -/
def progress (i : ι) (log : List (MigrationEntry ι)) : Progress :=
  Pool.seen runProtocol (fun _ => Progress.init) i log

/-- The log says what a run knows. -/
theorem progress_eq (i : ι) (log : List (MigrationEntry ι)) :
    (progress i log).tried = filesOf tries i log ∧
      (progress i log).done = lastRead namesRead i log ∧
      (progress i log).listing = lastRead directoryRead i log := by
  induction log with
  | nil => exact ⟨rfl, rfl, rfl⟩
  | cons e older ih =>
      unfold progress filesOf lastRead
      by_cases he : e.thread = i
      · rw [Pool.seen_self he, if_pos he, if_pos he, if_pos he, ← ih.1, ← ih.2.1, ← ih.2.2]
        obtain ⟨thread, op, fate, reply, before⟩ := e
        cases op <;> cases reply <;> simp [tries, namesRead, directoryRead, progress, runProtocol,
          Progress.next]
      · rw [Pool.seen_of_ne he, if_neg he, if_neg he, if_neg he]
        exact ih

/-! ## The invariant -/

/-- What every step keeps. -/
structure MigrationInv (pool : MigrationPool ι) : Prop where
  orderly : Pool.Orderly migrationAnswer runProtocol (fun _ => Progress.init)
    (fun _ => Progress.Ended) pool
  ledger : Ledger pool.shared
  good : ∀ i, (progress i pool.log).Good
  stages : ∀ i, AtStage pool.shared i (progress i pool.log) (filesOf commits i pool.log)
  resumes : ∀ e ∈ pool.log, ∀ names ∈ namesRead e, names = e.before.committed
  fresh : ∀ e ∈ pool.log, ∀ file ∈ tries e, file ∉ e.before.committed
  failed : ∀ i, ∀ file ∈ filesOf fails i pool.log,
    (progress i pool.log).stage.halted = true ∧ file ∉ filesOf commits i pool.log
  completing : Pool.Completing pool

section

variable {pool : MigrationPool ι} {i : ι} {fate : MigrationFate} {op : MigrationCall ι}
  {k : Except String op.Ans → MigrationProgram ι (List String)}

theorem filesOf_called_self (f : MigrationEntry ι → List String) :
    filesOf f i (pool.called migrationAnswer i fate op k).log =
      filesOf f i pool.log ++ f (pool.entry migrationAnswer i fate op) := if_pos rfl

theorem filesOf_called_of_ne {j : ι} (hj : j ≠ i) (f : MigrationEntry ι → List String) :
    filesOf f j (pool.called migrationAnswer i fate op k).log = filesOf f j pool.log :=
  if_neg (Ne.symm hj)

theorem progress_called_self :
    progress i (pool.called migrationAnswer i fate op k).log =
      (progress i pool.log).next op (migrationAnswer fate op pool.shared).1 :=
  Pool.seen_entry_self pool i fate op pool.log

theorem progress_called_of_ne {j : ι} (hj : j ≠ i) :
    progress j (pool.called migrationAnswer i fate op k).log = progress j pool.log :=
  Pool.seen_entry_of_ne pool hj fate op pool.log

/-- The names that a run is told are those of the committed files. -/
theorem MigrationInv.resumes_entry (h : MigrationInv pool) :
    ∀ names ∈ namesRead (pool.entry migrationAnswer i fate op),
      names = pool.shared.committed := by
  intro names hnames
  have hrecorded := h.ledger.recorded
  unfold Pool.entry at hnames
  cases op with
  | selectNames s =>
      unfold migrationAnswer at hnames
      dsimp only at hnames
      cases hfate : fate.query with
      | refused message => simp [hfate, QueryFate.reply, namesRead] at hnames
      | lost message => simp [hfate, QueryFate.reply, namesRead] at hnames
      | done =>
          cases htable : pool.shared.table with
          | none => simp [hfate, htable, QueryFate.reply, namesRead] at hnames
          | some recorded =>
              rw [Database.recorded, htable, Option.getD_some] at hrecorded
              rw [hfate, htable] at hnames
              rw [← hrecorded]
              exact (Option.some.inj hnames).symm
  | _ => cases hnames

/-- The file of the transaction that has begun is none that the run committed. -/
theorem MigrationInv.not_kept (h : MigrationInv pool) {file : String} {rest : List String}
    (hstage : (progress i pool.log).stage = .begun)
    (hrest : (progress i pool.log).rest = file :: rest) : file ∉ filesOf commits i pool.log := by
  have hkept := (h.stages i).account
  rw [hstage] at hkept
  have hnodup := nodup_pendingFiles (progress i pool.log).done (progress i pool.log).listing
  rw [← (h.good i).split, show (progress i pool.log).tried = _ from hkept, hrest] at hnodup
  intro hmem
  exact (List.disjoint_of_nodup_append hnodup) hmem List.mem_cons_self

/-- A file that is tried is not committed. -/
theorem MigrationInv.fresh_entry (h : MigrationInv pool)
    (hallow : (progress i pool.log).Allows i op) :
    ∀ file ∈ tries (pool.entry migrationAnswer i fate op), file ∉ pool.shared.committed := by
  intro file hfile
  cases op with
  | run s name sql =>
      obtain ⟨-, hstage, rest, hrest⟩ := hallow
      obtain rfl : file = name := List.mem_singleton.mp hfile
      refine (h.stages i).not_committed h.ledger (h.good i) (by rw [hstage]; rfl) ?_
        (h.not_kept hstage hrest)
      rw [hrest]
      exact List.mem_append_right _ List.mem_cons_self
  | _ => cases hfile

/-- A file that fails halts its run. -/
theorem MigrationInv.failed_entry (h : MigrationInv pool)
    (hallow : (progress i pool.log).Allows i op) :
    ∀ file ∈ fails (pool.entry migrationAnswer i fate op),
      ((progress i pool.log).next op (migrationAnswer fate op pool.shared).1).stage.halted =
        true ∧ file ∉ filesOf commits i pool.log ++ added fate op pool.shared := by
  intro file hfile
  cases op with
  | run s name sql =>
      rw [added_eq_nil (h.stages i) hallow nofun, List.append_nil]
      obtain ⟨-, hstage, rest, hrest⟩ := hallow
      unfold Pool.entry at hfile
      cases hreply : (migrationAnswer fate (.run s name sql) pool.shared).1 with
      | ok reply =>
          rw [hreply] at hfile
          cases hfile
      | error message =>
          rw [hreply] at hfile
          obtain rfl : file = name := List.mem_singleton.mp hfile
          exact ⟨rfl, h.not_kept hstage hrest⟩
  | _ => cases hfile

theorem MigrationInv.called (h : MigrationInv pool) (hcall : pool.threads i = .call op k)
    (hallow : (progress i pool.log).Allows i op)
    (hwaits : waitsForLock fate op pool.shared = false) :
    MigrationInv (pool.called migrationAnswer i fate op k) := by
  have hstep := step_call (h.stages i) h.ledger (h.good i) hallow hwaits
  have hcompleting : Pool.Completing (pool.called migrationAnswer i fate op k) :=
    h.completing.called migrationAnswer hcall fate
  refine ⟨h.orderly.called hcall fate, hstep.ledger, ?_, ?_, ?_, ?_, ?_, hcompleting⟩
  · intro j
    by_cases hj : j = i
    · subst hj
      rw [progress_called_self]
      exact (h.good j).next hallow _
    · rw [progress_called_of_ne hj]
      exact h.good j
  · intro j
    by_cases hj : j = i
    · subst hj
      rw [progress_called_self, filesOf_called_self]
      exact hstep.stage
    · rw [progress_called_of_ne hj, filesOf_called_of_ne hj]
      exact (h.stages j).frame hj hstep.leaves
  · intro e he
    rcases List.mem_cons.mp he with rfl | hold
    · exact h.resumes_entry
    · exact h.resumes e hold
  · intro e he
    rcases List.mem_cons.mp he with rfl | hold
    · exact h.fresh_entry hallow
    · exact h.fresh e hold
  · intro j file hfile
    by_cases hj : j = i
    · subst hj
      rw [filesOf_called_self] at hfile
      rw [progress_called_self, filesOf_called_self]
      rcases List.mem_append.mp hfile with hold | hnew
      · obtain ⟨hhalted, hkept⟩ := h.failed j file hold
        obtain ⟨hadded, hhalted'⟩ := halted_next (h.stages j) hhalted hallow fate
          (migrationAnswer fate op pool.shared).1
        refine ⟨hhalted', ?_⟩
        change file ∉ _ ++ added fate op pool.shared
        rw [hadded, List.append_nil]
        exact hkept
      · exact h.failed_entry hallow file hnew
    · rw [filesOf_called_of_ne hj] at hfile
      rw [progress_called_of_ne hj, filesOf_called_of_ne hj]
      exact h.failed j file hfile

/-! ## What it says -/

/-- A run that has returned has committed all its pending files. -/
theorem MigrationInv.returned (h : MigrationInv pool) {applied : List String}
    (hret : pool.threads i = .ret applied) :
    applied = pendingOf i pool.log ∧ filesOf commits i pool.log = pendingOf i pool.log ∧
      ∃ listing, lastRead directoryRead i pool.log = some listing ∧
        ∀ file ∈ migrationFiles listing.names, file ∈ pool.shared.committed := by
  obtain ⟨htried, hdone, hlisting⟩ := progress_eq i pool.log
  obtain ⟨hstage, hsome, hrest, happlied⟩ :
    Progress.Ended (progress i pool.log) (.ok applied) := h.orderly.ends.returned hret
  have hsplit := (h.good i).split
  have hkept := (h.stages i).account
  have hstays := (h.stages i).stays
  rw [hstage] at hkept
  rw [hrest, List.append_nil] at hsplit
  have hcommits : filesOf commits i pool.log = pendingOf i pool.log := by
    rw [pendingOf, ← hdone, ← hlisting, ← hsplit]
    exact hkept.symm
  refine ⟨?_, hcommits, ?_⟩
  · rw [happlied, ← hcommits]
    exact hkept
  · obtain ⟨listing, hnames⟩ := Option.isSome_iff_exists.mp hsome
    refine ⟨listing, hlisting.symm.trans hnames, fun file hfile => hstays file ?_⟩
    by_cases hmem : file ∈ (progress i pool.log).done.getD []
    · exact List.mem_append_left _ hmem
    · refine List.mem_append_right _ ?_
      rw [hcommits, pendingOf, ← hdone, ← hlisting, hnames]
      exact List.mem_filter.mpr ⟨hfile, by simpa using hmem⟩

end

theorem MigrationInv.next {pool : MigrationPool ι} (h : MigrationInv pool)
    (move : Move ι MigrationFate Empty) : MigrationInv (migrationNext pool move) := by
  refine h.orderly.ends.nextUnless_of h (fun change => change.elim) move ?_
  intro i fate op k hcall hallow hwaits
  exact h.called hcall hallow hwaits

end

end SwitchService.Runs
