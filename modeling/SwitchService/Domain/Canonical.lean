import SwitchService.Domain.Ranking

set_option autoImplicit false

/-!
# Domain: the ranking is canonical (`domain/scoring.ts`)

The comparison of two candidates is a strict total order on the candidates of channels
with distinct identifiers: eligible first, then by score, then by identifier.  So the
ranking has one result, whatever the order of the channels.
-/

namespace SwitchService.Domain

open SwitchService.Foundation

/-! ## The comparison of two candidates -/

section

variable {localeCompare : String → String → Ordering}

/-- When the comparison puts one candidate before another. -/
theorem compareCandidates_eq_lt {a b : Candidate} :
    compareCandidates localeCompare a b = .lt ↔
      (a.eligible = true ∧ b.eligible = false) ∨
        (a.eligible = b.eligible ∧ (b.score < a.score ∨
          (a.score = b.score ∧ localeCompare a.channelId b.channelId = .lt))) := by
  unfold compareCandidates
  by_cases heligible : a.eligible = b.eligible
  · rw [if_neg (not_not.mpr heligible)]
    by_cases hscore : b.score = a.score
    · rw [if_neg (not_not.mpr hscore)]
      simp [heligible, hscore]
    · rw [if_pos hscore]
      have hscore' : a.score ≠ b.score := fun h => hscore h.symm
      by_cases hlt : b.score < a.score
      · simp [heligible, hlt]
      · simp [heligible, hscore', hlt]
  · rw [if_pos heligible, Bool.eq_not_iff.mpr (Ne.symm heligible)]
    cases a.eligible with
    | true => simp
    | false => simp

theorem compareCandidates_eq_eq {a b : Candidate} :
    compareCandidates localeCompare a b = .eq ↔ a.eligible = b.eligible ∧
      a.score = b.score ∧ localeCompare a.channelId b.channelId = .eq := by
  unfold compareCandidates
  by_cases heligible : a.eligible = b.eligible
  · rw [if_neg (not_not.mpr heligible)]
    by_cases hscore : b.score = a.score
    · rw [if_neg (not_not.mpr hscore)]
      simp [heligible, hscore]
    · rw [if_pos hscore]
      have hscore' : a.score ≠ b.score := fun h => hscore h.symm
      split
      · simp [hscore']
      · simp [hscore']
  · rw [if_pos heligible]
    split
    · simp [heligible]
    · simp [heligible]

/-- Turning the pair turns the comparison, where it does so for the identifiers. -/
theorem compareCandidates_swap {a b : Candidate}
    (hids : localeCompare b.channelId a.channelId =
      (localeCompare a.channelId b.channelId).swap) :
    compareCandidates localeCompare b a = (compareCandidates localeCompare a b).swap := by
  unfold compareCandidates
  by_cases heligible : a.eligible = b.eligible
  · rw [if_neg (not_not.mpr heligible), if_neg (not_not.mpr heligible.symm)]
    rcases lt_trichotomy a.score b.score with hlt | heq | hgt
    · rw [if_pos hlt.ne, if_pos hlt.ne', if_pos (by linarith), if_neg (by linarith)]
      rfl
    · rw [if_neg (not_not.mpr heq), if_neg (not_not.mpr heq.symm), hids]
    · rw [if_pos hgt.ne', if_pos hgt.ne, if_neg (by linarith), if_pos (by linarith)]
      rfl
  · rw [if_pos heligible, if_pos (Ne.symm heligible), Bool.eq_not_iff.mpr (Ne.symm heligible)]
    cases a.eligible with
    | true => rfl
    | false => rfl

/-- When the comparison does not put one candidate after another. -/
theorem compareCandidates_notAfter {a b : Candidate} :
    NotAfter (compareCandidates localeCompare) a b ↔
      (a.eligible = true ∧ b.eligible = false) ∨
        (a.eligible = b.eligible ∧ (b.score < a.score ∨
          (a.score = b.score ∧ NotAfter localeCompare a.channelId b.channelId))) := by
  have hcases : ∀ o : Ordering, o ≠ .gt ↔ o = .lt ∨ o = .eq := by
    intro o
    cases o with
    | lt => simp
    | eq => simp
    | gt => simp
  unfold NotAfter
  rw [hcases, compareCandidates_eq_lt, compareCandidates_eq_eq, hcases]
  tauto

/-- The comparison is consistent where the one of the identifiers is. -/
theorem consistentOn_compareCandidates {ids : Set String} {s : Set Candidate}
    (h : ConsistentOn localeCompare ids) (hids : ∀ c ∈ s, c.channelId ∈ ids) :
    ConsistentOn (compareCandidates localeCompare) s where
  swap a ha b hb := compareCandidates_swap (h.swap _ (hids a ha) _ (hids b hb))
  trans a ha b hb c hc hab hbc := by
    rw [compareCandidates_notAfter] at hab hbc ⊢
    have htrans := h.trans _ (hids a ha) _ (hids b hb) _ (hids c hc)
    rcases hab with ⟨ha', hb'⟩ | ⟨hab, hscore⟩
    · rcases hbc with ⟨hb'', _⟩ | ⟨hbc, _⟩
      · rw [hb'] at hb''
        cases hb''
      · exact .inl ⟨ha', hbc ▸ hb'⟩
    · rcases hbc with ⟨hb', hc'⟩ | ⟨hbc, hscore'⟩
      · exact .inl ⟨hab ▸ hb', hc'⟩
      · refine .inr ⟨hab.trans hbc, ?_⟩
        rcases hscore with hlt | ⟨heq, hid⟩
        · rcases hscore' with hlt' | ⟨heq', _⟩
          · exact .inl (hlt'.trans hlt)
          · exact .inl (heq' ▸ hlt)
        · rcases hscore' with hlt' | ⟨heq', hid'⟩
          · exact .inl (heq ▸ hlt')
          · exact .inr ⟨heq.trans heq', htrans hid hid'⟩

/-- The comparison orders candidates that their identifiers tell apart. -/
theorem strictOrderOn_compareCandidates {ids : Set String} {s : Set Candidate}
    (h : StrictOrderOn localeCompare ids) (hids : ∀ c ∈ s, c.channelId ∈ ids)
    (hinj : ∀ a ∈ s, ∀ b ∈ s, a.channelId = b.channelId → a = b) :
    StrictOrderOn (compareCandidates localeCompare) s where
  toConsistentOn := consistentOn_compareCandidates h.toConsistentOn hids
  eq_iff a ha b hb := by
    rw [compareCandidates_eq_eq, h.eq_iff _ (hids a ha) _ (hids b hb)]
    constructor
    · rintro ⟨_, _, hid⟩
      exact hinj a ha b hb hid
    · rintro rfl
      exact ⟨rfl, rfl, rfl⟩

end

/-! ## The cost bounds do not see the order of the channels -/

theorem costBoundsOf_cons (channel : Channel) (rest : List Channel) :
    (((channel :: rest).map (·.cost)).min? = some (costBoundsOf (channel :: rest)).min) ∧
      ((channel :: rest).map (·.cost)).max? = some (costBoundsOf (channel :: rest)).max :=
  ⟨rfl, rfl⟩

theorem costBoundsOf_perm {channels channels' : List Channel} (h : channels'.Perm channels) :
    costBoundsOf channels' = costBoundsOf channels := by
  have hcosts := h.map (·.cost)
  cases channels with
  | nil => rw [h.eq_nil]
  | cons a l =>
      cases channels' with
      | nil => exact absurd h.symm.eq_nil (List.cons_ne_nil a l)
      | cons b l' =>
          obtain ⟨hmin, hmax⟩ := costBoundsOf_cons a l
          obtain ⟨hmin', hmax'⟩ := costBoundsOf_cons b l'
          -- The least cost of one list is the least cost of the other.
          have hle : (costBoundsOf (b :: l')).min = (costBoundsOf (a :: l)).min := by
            rw [List.min?_eq_some_iff] at hmin hmin'
            exact le_antisymm (hmin'.2 _ (hcosts.mem_iff.mpr hmin.1))
              (hmin.2 _ (hcosts.mem_iff.mp hmin'.1))
          have hge : (costBoundsOf (b :: l')).max = (costBoundsOf (a :: l)).max := by
            rw [List.max?_eq_some_iff] at hmax hmax'
            exact le_antisymm (hmax.2 _ (hcosts.mem_iff.mp hmax'.1))
              (hmax'.2 _ (hcosts.mem_iff.mpr hmax.1))
          exact CostBounds.mk.injEq .. |>.mpr ⟨hle, hge⟩

/-! ## The ranking -/

/-- A ranking that says all it should about a list of channels. -/
structure Canonical (localeCompare : String → String → Ordering) (channels : List Channel)
    (candidates : List Candidate) : Prop where
  /-- One candidate for each channel. -/
  ids : (candidates.map (·.channelId)).Perm (channels.map (·.id))
  eligibleFirst : candidates.Pairwise fun a b => b.eligible = true → a.eligible = true
  scores : candidates.Pairwise fun a b => a.eligible = b.eligible → b.score ≤ a.score
  ties : candidates.Pairwise fun a b => a.eligible = b.eligible → a.score = b.score →
    localeCompare a.channelId b.channelId = .lt
  ranks : candidates.map (·.rank) = List.range' 1 channels.length

section

variable {localeCompare : String → String → Ordering} {channels : List Channel}
  (h : StrictOrderOn localeCompare {id | id ∈ channels.map (·.id)})
  (statsById : String → Option ChannelStats)
  (breakersById : String → Option BreakerSnapshot) (config : RoutingConfig)

include h

/-- The candidates of distinct channels are in a strict total order. -/
theorem strictOrderOn_candidates (hids : (channels.map (·.id)).Nodup) :
    StrictOrderOn (compareCandidates localeCompare) {c | c ∈ channels.map
      (candidateOf statsById breakersById config (costBoundsOf channels))} := by
  refine strictOrderOn_compareCandidates h ?_ ?_
  · intro c hc
    obtain ⟨channel, hchannel, rfl⟩ := List.mem_map.mp hc
    exact List.mem_map_of_mem (f := (·.id)) hchannel
  · intro a ha b hb hid
    obtain ⟨channel, hchannel, rfl⟩ := List.mem_map.mp ha
    obtain ⟨channel', hchannel', rfl⟩ := List.mem_map.mp hb
    rw [List.inj_on_of_nodup_map hids hchannel hchannel' hid]

/-- The sorted candidates stand in the strict order. -/
theorem sortedCandidates_before (hids : (channels.map (·.id)).Nodup) :
    (sortedCandidates localeCompare channels statsById breakersById config).Pairwise
      fun a b => compareCandidates localeCompare a b = .lt := by
  have horder := strictOrderOn_candidates h statsById breakersById config hids
  have hsorted := horder.pairwise_insertionSort (l := channels.map
    (candidateOf statsById breakersById config (costBoundsOf channels))) fun a ha => ha
  have hperm := List.perm_insertionSort (NotAfter (compareCandidates localeCompare))
    (channels.map (candidateOf statsById breakersById config (costBoundsOf channels)))
  have hnodup : (channels.map
      (candidateOf statsById breakersById config (costBoundsOf channels))).Nodup := by
    refine List.Nodup.of_map (·.channelId) ?_
    rw [List.map_map]
    exact hids
  refine (List.pairwise_and_iff.mpr ⟨hsorted, hperm.nodup_iff.mpr hnodup⟩).imp_of_mem
    fun {a b} ha hb hab => ?_
  exact ((horder.notAfter_iff (hperm.mem_iff.mp ha) (hperm.mem_iff.mp hb)).mp
    hab.1).resolve_right hab.2

/-- The ranking is canonical, and the same for every order of the channels. -/
theorem buildCandidates_canonical (hids : (channels.map (·.id)).Nodup) :
    Canonical localeCompare channels
        (buildCandidates localeCompare channels statsById breakersById config) ∧
      ∀ channels', channels'.Perm channels →
        buildCandidates localeCompare channels' statsById breakersById config =
          buildCandidates localeCompare channels statsById breakersById config := by
  have hbefore := sortedCandidates_before h statsById breakersById config hids
  constructor
  · refine ⟨buildCandidates_ids, classFirst_buildCandidates, ?_, ?_, ?_⟩
    · refine pairwise_buildCandidates (fun _ _ _ _ h => h) (hbefore.imp fun {a b} hab => ?_)
      intro hgroup
      rcases compareCandidates_eq_lt.mp hab with ⟨ha, hb⟩ | ⟨_, hlt | ⟨heq, _⟩⟩
      · rw [hgroup, hb] at ha
        cases ha
      · exact hlt.le
      · exact heq.ge
    · refine pairwise_buildCandidates (fun _ _ _ _ h => h) (hbefore.imp fun {a b} hab => ?_)
      intro hgroup hscore
      rcases compareCandidates_eq_lt.mp hab with ⟨ha, hb⟩ | ⟨_, hlt | ⟨_, hid⟩⟩
      · rw [hgroup, hb] at ha
        cases ha
      · exact absurd hscore hlt.ne'
      · exact hid
    · rw [buildCandidates_ranks, length_buildCandidates]
  · intro channels' hperm
    have horder := strictOrderOn_candidates h statsById breakersById config hids
    have hsorted : sortedCandidates localeCompare channels' statsById breakersById config =
        sortedCandidates localeCompare channels statsById breakersById config := by
      unfold sortedCandidates
      rw [costBoundsOf_perm hperm]
      exact horder.insertionSort_perm (fun a ha => ha) (hperm.map _)
    rw [buildCandidates_eq_mapIdx, buildCandidates_eq_mapIdx, hsorted]

end

/-- The theorem at two orders of four channels. -/
theorem buildCandidates_canonical_at :
    buildCandidates compare fourChannels.reverse (fun _ => none) (fun _ => none)
        defaultRoutingConfig =
      buildCandidates compare fourChannels (fun _ => none) (fun _ => none)
        defaultRoutingConfig :=
  (buildCandidates_canonical (strictOrderOn_of_lawful _) (fun _ => none) (fun _ => none)
    defaultRoutingConfig (by decide)).2 _ (List.reverse_perm _)

end SwitchService.Domain
