import SwitchService.Domain.Types
import SwitchService.Foundation.FirstOfKey
import SwitchService.Foundation.GroupCount

set_option autoImplicit false

/-!
# Services: the decision log (`repositories/decisionRepository.ts`)

Every decision is inserted into `routing_decisions` under its own identifier.  The console
reads the log through the health service (`services/channelHealthService.ts`): the newest
rows, and the share of each channel and strategy.
-/

namespace SwitchService.Services

open SwitchService.Foundation SwitchService.Domain

/-! ## The table -/

/-- A row of `routing_decisions`.  `id` is the primary key. -/
structure DecisionRow where
  id : String
  transactionId : String
  channelId : String
  strategy : RouteStrategy
  windowMs : ℚ
  candidates : List Candidate
  evaluatedAt : ℚ
  deriving DecidableEq

/-- The values that `insertDecision` binds. -/
def rowOf (decision : RoutingDecision) (transactionId : String) : DecisionRow where
  id := decision.decisionId
  transactionId := transactionId
  channelId := decision.channelId
  strategy := decision.strategy
  windowMs := decision.windowMs
  candidates := decision.candidates
  evaluatedAt := decision.evaluatedAt

/-- `INSERT … ON CONFLICT (id) DO NOTHING`. -/
def insertRow (rows : List DecisionRow) (row : DecisionRow) : List DecisionRow :=
  addNew (·.id) rows row

/-- The table after the inserts that were carried out, newest first. -/
def decisionRows : List (RoutingDecision × String) → List DecisionRow
  | [] => []
  | (decision, transactionId) :: older =>
      insertRow (decisionRows older) (rowOf decision transactionId)

/-! ## What the console reads -/

/-- The rows as `ORDER BY evaluated_at DESC` may give them; rows of one moment stand in any
order. -/
structure NewestFirst (rows ordered : List DecisionRow) : Prop where
  perm : ordered.Perm rows
  sorted : ordered.Pairwise fun a b => b.evaluatedAt ≤ a.evaluatedAt

/-- The `capped` limit. -/
def cappedLimit (limit : ℤ) : ℕ := (min (max limit 1) 200).toNat

/-- `listRecentDecisions`, over the ordered rows. -/
def listRecentDecisions (ordered : List DecisionRow) (limit : ℤ) : List DecisionRow :=
  ordered.take (cappedLimit limit)

/-- A line of the counts. -/
structure DecisionCount where
  channelId : String
  strategy : RouteStrategy
  count : ℕ
  deriving DecidableEq

/-- `decisionRepository.decisionShare`.  The order of the texts is the database's. -/
def decisionCounts (groupOrder : DecisionCount → DecisionCount → Bool)
    (rows : List DecisionRow) (since : ℚ) : List DecisionCount :=
  let groups := groupCounts (fun row => (row.channelId, row.strategy))
    (rows.filter (since ≤ ·.evaluatedAt))
  (groups.map fun g => { channelId := g.1.1, strategy := g.1.2, count := g.2 }).mergeSort
    groupOrder

/-- A line of the shares. -/
structure ShareRow where
  channelId : String
  strategy : RouteStrategy
  count : ℕ
  share : ℚ
  deriving DecidableEq

/-- The shares since a moment. -/
structure DecisionShare where
  since : ℚ
  total : ℕ
  rows : List ShareRow
  deriving DecidableEq

/-- `ChannelHealthService.decisionShare`. -/
def decisionShare (config : RoutingConfig)
    (groupOrder : DecisionCount → DecisionCount → Bool) (rows : List DecisionRow) (now : ℚ)
    (since : Option ℚ) : DecisionShare :=
  let start := since.getD (now - config.windowMs)
  let counts := decisionCounts groupOrder rows start
  let total := (counts.map (·.count)).sum
  { since := start
    total := total
    rows := counts.map fun c =>
      { channelId := c.channelId
        strategy := c.strategy
        count := c.count
        -- With no decisions the share is 0.
        share := if total = 0 then 0 else c.count / total } }

section

variable {rows ordered : List DecisionRow} {row : DecisionRow} {limit : ℤ}
  {inserts older : List (RoutingDecision × String)}

/-! ## The rows -/

theorem mem_decisionRows (h : row ∈ decisionRows inserts) :
    ∃ p ∈ inserts, row = rowOf p.1 p.2 := by
  induction inserts with
  | nil => cases h
  | cons p inserts ih =>
      have hmem : row ∈ [rowOf p.1 p.2].foldl (addNew (·.id)) (decisionRows inserts) := h
      rcases mem_foldl_addNew hmem with hold | hnew
      · obtain ⟨q, hq, hrow⟩ := ih hold
        exact ⟨q, List.mem_cons_of_mem p hq, hrow⟩
      · exact ⟨p, List.mem_cons_self, List.mem_singleton.mp hnew⟩

/-- Inserts under new identifiers are all kept, in their order. -/
theorem decisionRows_append
    (hnew : (inserts.map fun p => p.1.decisionId).Nodup)
    (hapart : ∀ p ∈ inserts, ∀ q ∈ older, p.1.decisionId ≠ q.1.decisionId) :
    decisionRows (inserts ++ older) =
      decisionRows older ++ (inserts.map fun p => rowOf p.1 p.2).reverse := by
  induction inserts with
  | nil => simp
  | cons p inserts ih =>
      rw [List.map_cons, List.nodup_cons] at hnew
      have hrows := ih hnew.2 fun q hq => hapart q (List.mem_cons_of_mem p hq)
      have hfresh : (rowOf p.1 p.2).id ∉ (decisionRows (inserts ++ older)).map (·.id) := by
        intro hmem
        obtain ⟨row, hrow, hid⟩ := List.mem_map.mp hmem
        obtain ⟨q, hq, rfl⟩ := mem_decisionRows hrow
        rcases List.mem_append.mp hq with hlater | holder
        · exact hnew.1 (List.mem_map.mpr ⟨q, hlater, hid⟩)
        · exact hapart p List.mem_cons_self q holder hid.symm
      rw [List.cons_append, decisionRows, insertRow, addNew_of_notMem hfresh, hrows,
        List.map_cons, List.reverse_cons, List.append_assoc]

/-! ## The newest rows -/

/-- A row is shown where no more rows than the limit are as new as it. -/
theorem mem_listRecentDecisions (h : NewestFirst rows ordered) (hrow : row ∈ rows)
    (hfew : rows.countP (fun r => row.evaluatedAt ≤ r.evaluatedAt) ≤ cappedLimit limit) :
    row ∈ listRecentDecisions ordered limit := by
  by_contra hhidden
  have hdrop : row ∈ ordered.drop (cappedLimit limit) := by
    have hordered : row ∈ ordered := h.perm.mem_iff.mpr hrow
    rw [← List.take_append_drop (cappedLimit limit) ordered] at hordered
    exact (List.mem_append.mp hordered).resolve_left hhidden
  have hlength : (ordered.take (cappedLimit limit)).length = cappedLimit limit := by
    rw [List.length_take, min_eq_left]
    have hpos := List.length_pos_of_mem hdrop
    rw [List.length_drop] at hpos
    omega
  have hshown : (ordered.take (cappedLimit limit)).countP
      (fun r => row.evaluatedAt ≤ r.evaluatedAt) = cappedLimit limit := by
    rw [List.countP_eq_length.mpr, hlength]
    intro r hr
    have hsorted := h.sorted
    rw [← List.take_append_drop (cappedLimit limit) ordered] at hsorted
    exact decide_eq_true ((List.pairwise_append.mp hsorted).2.2 r hr row hdrop)
  have hself : 0 < (ordered.drop (cappedLimit limit)).countP
      (fun r => row.evaluatedAt ≤ r.evaluatedAt) :=
    List.countP_pos_iff.mpr ⟨row, hdrop, decide_eq_true le_rfl⟩
  have hcount := h.perm.countP_eq fun r => decide (row.evaluatedAt ≤ r.evaluatedAt)
  rw [← List.take_append_drop (cappedLimit limit) ordered, List.countP_append, hshown] at hcount
  omega

/-! ## The shares -/

/-- The row counts for a share. -/
def DecisionRow.isCounted (since : ℚ) (channelId : String) (strategy : RouteStrategy)
    (row : DecisionRow) : Bool :=
  row.channelId = channelId ∧ row.strategy = strategy ∧ since ≤ row.evaluatedAt

variable {config : RoutingConfig} {groupOrder : DecisionCount → DecisionCount → Bool}
  {since now : ℚ} {start : Option ℚ}

theorem mem_decisionCounts {count : DecisionCount} :
    count ∈ decisionCounts groupOrder rows since ↔
      count.count = rows.countP (DecisionRow.isCounted since count.channelId count.strategy) ∧
        0 < count.count := by
  have hcounted : ∀ channelId strategy,
      (rows.filter (since ≤ ·.evaluatedAt)).countP
          (fun row => (row.channelId, row.strategy) = (channelId, strategy)) =
        rows.countP (DecisionRow.isCounted since channelId strategy) := by
    intro channelId strategy
    rw [List.countP_filter]
    refine List.countP_congr fun row _ => ?_
    simp [DecisionRow.isCounted, and_assoc]
  unfold decisionCounts
  rw [List.mem_mergeSort, List.mem_map]
  constructor
  · rintro ⟨⟨⟨channelId, strategy⟩, n⟩, hgroup, rfl⟩
    rw [← hcounted]
    exact mem_groupCounts.mp hgroup
  · rintro ⟨hcount, hpos⟩
    refine ⟨((count.channelId, count.strategy), count.count), ?_, rfl⟩
    rw [mem_groupCounts, hcounted]
    exact ⟨hcount, hpos⟩

theorem sum_decisionCounts :
    ((decisionCounts groupOrder rows since).map (·.count)).sum =
      rows.countP (since ≤ ·.evaluatedAt) := by
  unfold decisionCounts
  rw [((List.mergeSort_perm _ groupOrder).map (·.count)).sum_eq, List.map_map,
    List.countP_eq_length_filter]
  exact sum_groupCounts _ _

/-- What the answer for a table says: every line counts the rows of its channel and strategy,
every such row is in a line, the total counts every row once, and the shares are parts of it. -/
structure SharesOf (rows : List DecisionRow) (answer : DecisionShare) : Prop where
  total : answer.total = rows.countP (answer.since ≤ ·.evaluatedAt)
  counts : ∀ line ∈ answer.rows, line.count =
    rows.countP (DecisionRow.isCounted answer.since line.channelId line.strategy)
  lines : ∀ row ∈ rows, answer.since ≤ row.evaluatedAt →
    ∃ line ∈ answer.rows, line.channelId = row.channelId ∧ line.strategy = row.strategy
  apart : (answer.rows.map fun line => (line.channelId, line.strategy)).Nodup
  parts : answer.total ≠ 0 → (answer.rows.map (·.share)).sum = 1

theorem sharesOf_decisionShare (config : RoutingConfig)
    (groupOrder : DecisionCount → DecisionCount → Bool) (rows : List DecisionRow) (now : ℚ)
    (start : Option ℚ) :
    SharesOf rows (decisionShare config groupOrder rows now start) where
  total := sum_decisionCounts
  counts line hline := by
    obtain ⟨count, hcount, rfl⟩ := List.mem_map.mp hline
    exact (mem_decisionCounts.mp hcount).1
  lines row hrow hsince := by
    have hstart : start.getD (now - config.windowMs) ≤ row.evaluatedAt := hsince
    have hpos : 0 < rows.countP (DecisionRow.isCounted
        (start.getD (now - config.windowMs)) row.channelId row.strategy) :=
      List.countP_pos_iff.mpr ⟨row, hrow, by simp [DecisionRow.isCounted, hstart]⟩
    have hcount : (⟨row.channelId, row.strategy, _⟩ : DecisionCount) ∈
        decisionCounts groupOrder rows (start.getD (now - config.windowMs)) :=
      mem_decisionCounts.mpr ⟨rfl, hpos⟩
    exact ⟨_, List.mem_map_of_mem hcount, rfl, rfl⟩
  apart := by
    unfold decisionShare decisionCounts
    dsimp only
    rw [List.map_map]
    refine ((List.mergeSort_perm _ groupOrder).map _).nodup_iff.mpr ?_
    rw [List.map_map]
    exact nodup_groupCounts _ _
  parts htotal := by
    unfold decisionShare at htotal ⊢
    dsimp only at htotal ⊢
    simp only [if_neg htotal, List.map_map]
    have hparts := sum_parts (F := ℚ) htotal
    rw [List.map_map] at hparts
    exact hparts

end

end SwitchService.Services
