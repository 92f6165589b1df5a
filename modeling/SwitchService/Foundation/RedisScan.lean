import SwitchService.Foundation.Redis

set_option autoImplicit false

/-!
# Foundation: the keys of a Redis database

`SCAN` walks over the keys of a database page by page, and `DEL` removes some of them at
once.  A scan gives every key that is there from its first page to its last; the order of
the keys and the size of a page are the server's choice.
-/

namespace SwitchService.Foundation.Redis

/-- A keyspace with finitely many keys. -/
structure Database where
  keyspace : Keyspace
  keys : List String
  listed : ∀ key, keyspace key ≠ none → key ∈ keys

/-- How a server divides a full iteration into pages. -/
structure Scanner where
  pages : List String → List (List String)
  visits : ∀ keys, ∀ key ∈ keys, ∃ page ∈ pages keys, key ∈ page

/-- Everything on one page. -/
def Scanner.onePage : Scanner where
  pages keys := [keys]
  visits _ _ hkey := ⟨_, List.mem_singleton_self _, hkey⟩

/-! ## Patterns -/

/-- Whether a text matches a pattern, in which `*` stands for any text and every other
character for itself. -/
def globMatch : List Char → List Char → Bool
  | [], text => text.isEmpty
  | c :: pattern, text =>
      if c = '*' then text.tails.any (globMatch pattern)
      else
        match text with
        | [] => false
        | d :: rest => c = d && globMatch pattern rest

theorem globMatch_star (text : List Char) : globMatch ['*'] text = true := by
  have hmem : [] ∈ text.tails := (List.mem_tails _ _).mpr List.nil_suffix
  simp only [globMatch, if_true, List.any_eq_true]
  exact ⟨[], hmem, rfl⟩

/-- A pattern that ends in its only `*` matches the texts that begin with the rest of it. -/
theorem globMatch_prefix {start : List Char} (hstar : '*' ∉ start) (text : List Char) :
    globMatch (start ++ ['*']) text = true ↔ start <+: text := by
  induction start generalizing text with
  | nil => simp [globMatch_star]
  | cons c start ih =>
      rw [List.mem_cons, not_or] at hstar
      have hc : c ≠ '*' := Ne.symm hstar.1
      cases text with
      | nil => simp [globMatch, hc]
      | cons d text =>
          rw [List.cons_prefix_cons, ← ih hstar.2]
          simp [globMatch, hc]

/-- A key that begins in a given way. -/
def BeginsWith (start key : String) : Prop := start.toList <+: key.toList

instance (start key : String) : Decidable (BeginsWith start key) :=
  inferInstanceAs (Decidable (_ <+: _))

theorem beginsWith_iff {start key : String} :
    BeginsWith start key ↔ ∃ rest, key = start ++ rest := by
  unfold BeginsWith
  constructor
  · rintro ⟨rest, hrest⟩
    refine ⟨String.ofList rest, String.toList_injective ?_⟩
    rw [String.toList_append, String.toList_ofList, hrest]
  · rintro ⟨rest, rfl⟩
    exact ⟨rest.toList, (String.toList_append ..).symm⟩

/-- The keys that a pattern with one `*` at its end matches. -/
theorem globMatch_iff (start pattern : String)
    (hpattern : pattern.toList = start.toList ++ ['*']) (hstar : '*' ∉ start.toList)
    (key : String) :
    globMatch pattern.toList key.toList = true ↔ BeginsWith start key := by
  rw [hpattern]
  exact globMatch_prefix hstar _

/-! ## Commands -/

/-- What is left of the database after a command. -/
def Database.exec (now : ℚ) (command : Command) (d : Database) :
    Except String Reply × Database :=
  ((Redis.exec now command d.keyspace).1,
    { keyspace := (Redis.exec now command d.keyspace).2
      keys := command.key :: d.keys
      listed := by
        intro key hkey
        by_cases heq : key = command.key
        · exact heq ▸ List.mem_cons_self
        · rw [exec_other heq] at hkey
          exact List.mem_cons_of_mem _ (d.listed key hkey) })

/-- What is left of the database after a transaction. -/
def Database.multi (now : ℚ) (commands : List Command) (d : Database) :
    List (Except String Reply) × Database :=
  ((Redis.multi now commands d.keyspace).1,
    { keyspace := (Redis.multi now commands d.keyspace).2
      keys := commands.map (·.key) ++ d.keys
      listed := by
        intro key hkey
        by_cases hmem : key ∈ commands.map (·.key)
        · exact List.mem_append_left _ hmem
        · rw [multi_other] at hkey
          · exact List.mem_append_right _ (d.listed key hkey)
          · rintro command hcommand rfl
            exact hmem (List.mem_map_of_mem hcommand) })

/-- The integer of a reply. -/
def repliedInteger : Except String Reply → ℤ
  | .ok (.integer n) => n
  | _ => 0

/-- `DEL` of some keys, with the count of those that were there. -/
def Database.del (now : ℚ) (keys : List String) (d : Database) : ℤ × Database :=
  let result := d.multi now (keys.map .del)
  ((result.1.map repliedInteger).sum, result.2)

/-- What one page of a scan gives: the keys on it that are there and match. -/
def Database.scanned (now : ℚ) (pattern : String) (d : Database) (page : List String) :
    List String :=
  page.filter fun key =>
    globMatch pattern.toList key.toList && (left now (d.keyspace key)).isSome

/-- Removes what each page gives before it asks for the next. -/
def deletePages (now : ℚ) (pattern : String) : List (List String) → Database → ℤ × Database
  | [], d => (0, d)
  | page :: pages, d =>
      let keys := d.scanned now pattern page
      let removed := if keys.length > 0 then d.del now keys else (0, d)
      let rest := deletePages now pattern pages removed.2
      (removed.1 + rest.1, rest.2)

/-- `SCAN` with `MATCH` until the cursor is back at zero, and `DEL` of what it gives. -/
def Database.deleteByPattern (scanner : Scanner) (now : ℚ) (pattern : String)
    (d : Database) : ℤ × Database :=
  deletePages now pattern (scanner.pages d.keys) d

/-! ## What is left -/

variable {now : ℚ} {d : Database} {key : String}

/-- What a reader is shown under a key. -/
def Database.shown (now : ℚ) (d : Database) (key : String) : Option Stored :=
  left now (d.keyspace key)

theorem del_keyspace (keys : List String) (key : String) :
    (d.del now keys).2.keyspace key = if key ∈ keys then none else d.keyspace key := by
  have hkeys : (keys.map Command.del).map (·.key) = keys := by
    simp [Function.comp_def, Command.key]
  unfold Database.del Database.multi
  dsimp only
  rw [multi_del, hkeys]
  intro command hcommand
  obtain ⟨key, _, rfl⟩ := List.mem_map.mp hcommand
  exact ⟨key, rfl⟩

@[simp] theorem shown_del (keys : List String) (key : String) :
    (d.del now keys).2.shown now key = if key ∈ keys then none else d.shown now key := by
  unfold Database.shown
  rw [del_keyspace]
  split <;> rfl

/-- One page: what was scanned is gone, everything else is as it was. -/
theorem shown_page (pattern : String) (page : List String) (key : String) :
    (if (d.scanned now pattern page).length > 0 then d.del now (d.scanned now pattern page)
      else (0, d)).2.shown now key =
      if key ∈ page ∧ globMatch pattern.toList key.toList = true then none
      else d.shown now key := by
  have hdel : (if (d.scanned now pattern page).length > 0 then
        d.del now (d.scanned now pattern page) else (0, d)).2.shown now key =
      if key ∈ d.scanned now pattern page then none else d.shown now key := by
    split
    · exact shown_del _ key
    · rename_i hempty
      have hnil : d.scanned now pattern page = [] :=
        List.eq_nil_of_length_eq_zero (by omega)
      simp [hnil]
  rw [hdel]
  by_cases hmatch : key ∈ page ∧ globMatch pattern.toList key.toList = true
  · rw [if_pos hmatch]
    split
    · rfl
    · rename_i hnot
      by_contra hshown
      refine hnot (List.mem_filter.mpr ⟨hmatch.1, ?_⟩)
      rw [hmatch.2, Bool.true_and]
      exact Option.isSome_iff_ne_none.mpr hshown
  · rw [if_neg hmatch, if_neg]
    intro hmem
    obtain ⟨hpage, hkey⟩ := List.mem_filter.mp hmem
    rw [Bool.and_eq_true] at hkey
    exact hmatch ⟨hpage, hkey.1⟩

/-- The pages of a scan: a key that matches and was on one of them is gone. -/
theorem shown_deletePages (pattern : String) (pages : List (List String)) (d : Database)
    (key : String) :
    (deletePages now pattern pages d).2.shown now key =
      if (∃ page ∈ pages, key ∈ page) ∧ globMatch pattern.toList key.toList = true then none
      else d.shown now key := by
  induction pages generalizing d with
  | nil => simp [deletePages]
  | cons page pages ih =>
      unfold deletePages
      dsimp only
      rw [ih, shown_page]
      by_cases hmatch : globMatch pattern.toList key.toList = true
      · by_cases hpage : key ∈ page
        · simp [hmatch, hpage]
        · simp [hmatch, hpage]
      · simp [hmatch]

/-- A full iteration removes every key that matches, whatever order the server takes. -/
@[simp] theorem shown_deleteByPattern (scanner : Scanner) (pattern : String) (key : String) :
    (d.deleteByPattern scanner now pattern).2.shown now key =
      if globMatch pattern.toList key.toList = true then none else d.shown now key := by
  unfold Database.deleteByPattern
  rw [shown_deletePages]
  by_cases hmatch : globMatch pattern.toList key.toList = true
  · rw [if_pos hmatch]
    split
    · rfl
    · rename_i hnot
      -- A key that no page gave was not there.
      have hnone : d.keyspace key = none := by
        by_contra hne
        exact hnot ⟨scanner.visits d.keys key (d.listed key hne), hmatch⟩
      simp [Database.shown, hnone, left]
  · simp [hmatch]

/-- A command changes what is shown under its own key only. -/
theorem shown_exec_other {command : Command} (h : key ≠ command.key) :
    (d.exec now command).2.shown now key = d.shown now key := by
  unfold Database.shown Database.exec
  dsimp only
  rw [exec_other h]

variable (now d) in
theorem shown_exec_self (command : Command) :
    (d.exec now command).2.shown now command.key =
      left now (command.apply now (d.shown now command.key)).2 := by
  unfold Database.shown Database.exec Redis.exec
  dsimp only
  rw [Function.update_self]

/-- `XGROUP CREATE` on a key that holds nothing leaves a fresh stream. -/
theorem exec_xgroupCreate (h : d.shown now key = none) :
    ∃ d', d.exec now (.xgroupCreate key) = (.ok .ok, d') ∧
      ∀ other, d'.shown now other = if other = key then some freshStream
        else d.shown now other := by
  refine ⟨(d.exec now (.xgroupCreate key)).2, ?_, fun other => ?_⟩
  · refine Prod.ext ?_ rfl
    unfold Database.shown at h
    simp only [Database.exec, Redis.exec, Command.key, h, apply_xgroupCreate_none]
  · by_cases hother : other = key
    · subst hother
      have hself := shown_exec_self now d (.xgroupCreate other)
      rw [if_pos rfl]
      simpa only [Command.key, h, apply_xgroupCreate_none, left_of_live (rfl :
        freshStream.isLive now = true)] using hself
    · rw [if_neg hother]
      exact shown_exec_other hother

end SwitchService.Foundation.Redis
