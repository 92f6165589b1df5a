import SwitchService.Services.Availability

set_option autoImplicit false

/-!
# Services: the decision record

What the record of a decision says about the channels it was made from, and what the
ranks in it say about the choice.  A record is built by the ranking, by the ranking with
a denied channel marked, or by degraded mode.
-/

namespace SwitchService.Services

open SwitchService.Foundation SwitchService.Domain SwitchService.Store
open SwitchService.Repositories

section

variable {config : Config} {faults : Faults} {w : World}
  {localeCompare : String → String → Ordering} {rng : Rng} {uuid : String}
  {request : RouteRequest}

/-! ## The three kinds of record -/

theorem recordOf_candidatesAt (config : RoutingConfig)
    (localeCompare : String → String → Ordering) (w : World) (request : RouteRequest) :
    RecordOf (routeChannels w request) (candidatesAt config localeCompare w request) := by
  refine recordOf_buildCandidates fun id stats hstats => ?_
  unfold metricsOf at hstats
  dsimp only at hstats
  split at hstats
  · obtain rfl := Option.some.inj hstats
    exact Buckets.stats_nonneg _
  · cases hstats

theorem map_channelId_markInFlight (id : String) (candidates : List Candidate) :
    (markInFlight id candidates).map (·.channelId) = candidates.map (·.channelId) := by
  unfold markInFlight
  rw [List.map_map]
  refine List.map_congr_left fun c _ => ?_
  dsimp only [Function.comp]
  split <;> rfl

theorem map_rank_markInFlight (id : String) (candidates : List Candidate) :
    (markInFlight id candidates).map (·.rank) = candidates.map (·.rank) := by
  unfold markInFlight
  rw [List.map_map]
  refine List.map_congr_left fun c _ => ?_
  dsimp only [Function.comp]
  split <;> rfl

/-- Marking a denied channel keeps the record. -/
theorem recordOf_markInFlight {channels : List Channel} {candidates : List Candidate}
    (h : RecordOf channels candidates) (id : String) :
    RecordOf channels (markInFlight id candidates) where
  ids := by
    rw [map_channelId_markInFlight]
    exact h.ids
  ranks := by
    rw [map_rank_markInFlight, h.ranks, markInFlight, List.length_map]
  reason c hc := by
    obtain ⟨c', hc', rfl⟩ := List.mem_map.mp hc
    split
    · simp
    · exact h.reason c' hc'
  enabled c hc heligible :=
    h.enabled c (eligible_of_mem_markInFlight hc heligible).1 heligible
  notOpened c hc heligible :=
    h.notOpened c (eligible_of_mem_markInFlight hc heligible).1 heligible
  scores c hc := by
    obtain ⟨c', hc', rfl⟩ := List.mem_map.mp hc
    split
    · exact h.scores c' hc'
    · exact h.scores c' hc'

theorem recordOf_degradedCandidates (channels : List Channel) :
    RecordOf channels (degradedCandidates channels) where
  ids := by
    have hids : (degradedCandidates channels).map (·.channelId) = channels.map (·.id) :=
      List.ext_getElem (by simp [degradedCandidates]) fun i hi hi' => by
        simp [degradedCandidates]
    rw [hids]
  ranks := by
    refine List.ext_getElem (by simp) fun i hi hi' => ?_
    simp [degradedCandidates, add_comm]
  reason c hc := by
    obtain ⟨i, hi, rfl⟩ := List.mem_mapIdx.mp hc
    simp
  enabled c hc heligible := by
    obtain ⟨i, hi, rfl⟩ := List.mem_mapIdx.mp hc
    exact ⟨channels[i], List.getElem_mem hi, rfl, heligible⟩
  notOpened c hc _ := by
    obtain ⟨i, hi, rfl⟩ := List.mem_mapIdx.mp hc
    simp
  scores c hc := by
    obtain ⟨i, hi, rfl⟩ := List.mem_mapIdx.mp hc
    simp

/-! ## The published record -/

theorem chosenAmong_ok {config : RoutingConfig} {candidates published : List Candidate}
    {selection : Selection}
    (h : chosenAmong config faults w candidates rng = .ok (published, selection)) :
    (published = candidates ∨ ∃ id, published = markInFlight id candidates) ∧
      ∃ c ∈ published, c.eligible = true ∧ c.channelId = selection.channelId := by
  unfold chosenAmong at h
  rcases hselect : select config candidates rng with ⟨failure | first, rng'⟩
  · simp [hselect] at h
  · simp only [hselect] at h
    have hkept : (Except.ok (candidates, first) : Except Failure (List Candidate × Selection)) =
        .ok (published, selection) → (published = candidates ∨
          ∃ id, published = markInFlight id candidates) ∧
          ∃ c ∈ published, c.eligible = true ∧ c.channelId = selection.channelId := by
      intro heq
      obtain ⟨rfl, rfl⟩ := Prod.mk.inj (Except.ok.inj heq)
      exact ⟨.inl rfl, select_eligible hselect⟩
    split at h
    · split at h
      · cases h
      · split at h
        · rcases hsecond : (select config (markInFlight first.channelId candidates) rng').1
            with failure | second
          · rw [hsecond] at h
            cases h
          · rw [hsecond] at h
            obtain ⟨rfl, rfl⟩ := Prod.mk.inj (Except.ok.inj h)
            exact ⟨.inr ⟨_, rfl⟩, select_eligible (Prod.ext hsecond rfl)⟩
        · exact hkept h
    · exact hkept h

/-- A decision publishes a record of the channels and names one of its eligible
candidates. -/
theorem route_published {decision : RoutingDecision}
    (h : ((route config.routing localeCompare rng uuid request).run config faults w).1 =
      .ok decision) :
    RecordOf (routeChannels w request) decision.candidates ∧
      ∃ c ∈ decision.candidates, c.eligible = true ∧ c.channelId = decision.channelId := by
  rw [route_answer config faults localeCompare rng uuid request w (listAnswered_of_ok h)] at h
  split at h
  · cases h
  · split at h
    · rcases hchosen : chosenAmong config.routing faults w
        (candidatesAt config.routing localeCompare w request) rng with
        failure | ⟨published, selection⟩
      · rw [hchosen] at h
        cases h
      · rw [hchosen] at h
        obtain rfl := Except.ok.inj h
        obtain ⟨hpublished, hnamed⟩ := chosenAmong_ok hchosen
        have hrecord := recordOf_candidatesAt config.routing localeCompare w request
        refine ⟨?_, hnamed⟩
        change RecordOf (routeChannels w request) published
        rcases hpublished with rfl | ⟨id, rfl⟩
        · exact hrecord
        · exact recordOf_markInFlight hrecord id
    · unfold degradedAnswer at h
      split at h
      · cases h
      · rename_i first hfind
        obtain rfl := Except.ok.inj h
        exact ⟨recordOf_degradedCandidates _, first, List.mem_of_find?_eq_some hfind,
          List.find?_some hfind, rfl⟩

/-- A decision record is consistent with itself and with what the caller can reach. -/
structure HonestRecord (w : World) (request : RouteRequest) (decision : RoutingDecision) :
    Prop where
  ids : (decision.candidates.map (·.channelId)).Perm ((routeChannels w request).map (·.id))
  nodup : (decision.candidates.map (·.channelId)).Nodup
  ranks : decision.candidates.map (·.rank) = List.range' 1 decision.candidates.length
  named : ∃ c, decision.candidates.filter (·.channelId = decision.channelId) = [c] ∧
    c.eligible = true
  enabled : ∃ channel ∈ routeChannels w request,
    channel.id = decision.channelId ∧ channel.enabled = true
  supported : ∀ supported, request.supportedChannels = some supported →
    decision.channelId ∈ supported
  reason : ∀ c ∈ decision.candidates, c.eligible = true ↔ c.ineligibleReason = none
  disabled : ∀ c ∈ decision.candidates, ∀ channel ∈ routeChannels w request,
    channel.id = c.channelId → channel.enabled = false → c.eligible = false
  opened : ∀ c ∈ decision.candidates, c.breakerState = .opened → c.eligible = false
  scores : ∀ c ∈ decision.candidates, c.score ∈ Set.Icc (0 : ℚ) 1 ∧
    c.successRate ∈ Set.Icc (0 : ℚ) 1 ∧ c.costScore ∈ Set.Icc (0 : ℚ) 1

theorem nodup_routeChannels (hids : ((lookup w w.now request.corridor).map (·.id)).Nodup) :
    ((routeChannels w request).map (·.id)).Nodup := by
  unfold routeChannels reachable
  split
  · exact hids.sublist (List.filter_sublist.map _)
  · exact hids

theorem mem_supported {channel : Channel} (h : channel ∈ routeChannels w request)
    {supported : List String} (hsupported : request.supportedChannels = some supported) :
    channel.id ∈ supported := by
  unfold routeChannels reachable at h
  rw [hsupported] at h
  simpa using (List.mem_filter.mp h).2

/-- Where the keys are distinct, the elements with the key of a member are that member. -/
theorem filter_eq_singleton {α κ : Type} [DecidableEq κ] {f : α → κ} {l : List α}
    (hnodup : (l.map f).Nodup) {a : α} (ha : a ∈ l) : l.filter (f · = f a) = [a] := by
  induction l with
  | nil => cases ha
  | cons b l ih =>
      obtain ⟨hb, hl⟩ := List.nodup_cons.mp hnodup
      rcases List.mem_cons.mp ha with rfl | hmem
      · have hrest : l.filter (f · = f a) = [] := by
          rw [List.filter_eq_nil_iff]
          intro c hc heq
          exact hb (List.mem_map.mpr ⟨c, hc, by simpa using heq⟩)
        rw [List.filter_cons_of_pos (by simp), hrest]
      · have hne : f b ≠ f a := by
          intro heq
          exact hb (heq ▸ List.mem_map_of_mem hmem)
        rw [List.filter_cons_of_neg (by simpa using hne), ih hl hmem]

/-- Every decision of a route call over distinct channels has an honest record, whatever
calls fail and whatever the slot call answers. -/
theorem route_honestRecord (config : Config) (faults : Faults)
    (localeCompare : String → String → Ordering) (rng : Rng) (uuid : String)
    (request : RouteRequest) (w : World) (decision : RoutingDecision)
    (hids : ((lookup w w.now request.corridor).map (·.id)).Nodup)
    (h : ((route config.routing localeCompare rng uuid request).run config faults w).1 =
      .ok decision) : HonestRecord w request decision := by
  obtain ⟨hrecord, c, hmem, heligible, hid⟩ := route_published h
  have hchannels := nodup_routeChannels hids
  have hnodup : (decision.candidates.map (·.channelId)).Nodup :=
    hrecord.ids.nodup_iff.mpr hchannels
  obtain ⟨channel, hchannel, hchannelId, henabled⟩ := hrecord.enabled c hmem heligible
  refine
    { ids := hrecord.ids, nodup := hnodup, ranks := hrecord.ranks, reason := hrecord.reason
      scores := hrecord.scores, named := ⟨c, ?_, heligible⟩
      enabled := ⟨channel, hchannel, hchannelId.trans hid, henabled⟩
      supported := ?_, disabled := ?_, opened := ?_ }
  · rw [← hid]
    exact filter_eq_singleton hnodup hmem
  · intro supported hsupported
    rw [← hid, ← hchannelId]
    exact mem_supported hchannel hsupported
  · intro c' hc' channel' hchannel' heq hdisabled
    by_contra hel
    obtain ⟨other, hother, hotherId, hotherEnabled⟩ :=
      hrecord.enabled c' hc' (by simpa using hel)
    have hsame : other = channel' :=
      List.inj_on_of_nodup_map hchannels hother hchannel' (hotherId.trans heq.symm)
    rw [hsame, hdisabled] at hotherEnabled
    cases hotherEnabled
  · intro c' hc' hopened
    by_contra hel
    exact hrecord.notOpened c' hc' (by simpa using hel) hopened

theorem candidates_twoProbesRun : twoProbesRun.1.toOption.map (fun d => d.candidates.map fun c =>
    (c.channelId, c.rank, c.eligible)) =
      some [("RAIL-B", 1, false), ("RAIL-A", 2, true)] := by decide +kernel

/-- The record of `twoProbesRun`: two ranked channels, of which the first is denied its slot. -/
theorem route_honestRecord_twoProbes : ∃ decision, twoProbesRun.1 = .ok decision ∧
    decision.candidates.map (fun c => (c.channelId, c.rank, c.eligible)) =
      [("RAIL-B", 1, false), ("RAIL-A", 2, true)] ∧
    HonestRecord twoProbesWorld anyRequest decision := by
  have hshown := candidates_twoProbesRun
  cases hresult : twoProbesRun.1 with
  | error failure =>
      rw [hresult] at hshown
      cases hshown
  | ok decision =>
      rw [hresult] at hshown
      refine ⟨decision, rfl, Option.some.inj hshown, ?_⟩
      exact route_honestRecord defaultConfig noFaults compare (Stream'.const (1 / 2)) "u1"
        anyRequest twoProbesWorld decision (by decide +kernel) hresult

/-! ## What the ranks say about the choice -/

/-- The ranks of a decision explain its choice. -/
def RanksExplain : Except Failure RoutingDecision → Prop
  | .error _ => True
  | .ok decision => EligibleFirst decision.candidates ∧
      StrategyShowsRank decision.candidates decision.channelId decision.strategy

/-- The channel whose probe slot a call asks for and is denied. -/
def deniedSlot (config : RoutingConfig) (faults : Faults)
    (localeCompare : String → String → Ordering) (rng : Rng) (request : RouteRequest)
    (w : World) : Option String :=
  (askedSlot config faults localeCompare rng request w).filter fun id =>
    decide (faults (.takeProbeSlot id probeSlotTtlMs) = none ∧ w.slotHeld id)

/-- No channel that could be chosen stands behind one that the call rules out after the
ranking. -/
structure RanksKept (config : RoutingConfig) (faults : Faults)
    (localeCompare : String → String → Ordering) (rng : Rng) (request : RouteRequest)
    (w : World) : Prop where
  /-- Behind a channel that is denied its slot. -/
  denied : ∀ id, deniedSlot config faults localeCompare rng request w = some id →
    (candidatesAt config localeCompare w request).Pairwise fun a b =>
      a.channelId = id → b.eligible = true → b.channelId = id
  /-- Behind a disabled channel, without the metrics. -/
  degraded : ListAnswered faults w w.now request.corridor →
    ¬ MetricsAnswered faults ((routeChannels w request).map (·.id)) w.now →
    (routeChannels w request).Pairwise fun a b => b.enabled = true → a.enabled = true

theorem select_shows_rank {config : RoutingConfig} {candidates : List Candidate}
    (hranks : candidates.map (·.rank) = List.range' 1 candidates.length)
    (hfirst : ClassFirst (·.eligible) candidates) {rng rng' : Rng} {selection : Selection}
    (h : select config candidates rng = (.ok selection, rng')) :
    StrategyShowsRank candidates selection.channelId selection.strategy := by
  unfold select at h
  split at h
  · rename_i selection' rest hselect
    simp only [Prod.mk.injEq, Except.ok.injEq] at h
    rw [← h.1]
    exact selectChannel_shows_rank hranks hfirst hselect
  · simp at h

/-- A choice among ranked candidates is explained exactly when the eligible ones are
first. -/
theorem select_explained_iff {config : RoutingConfig} {candidates : List Candidate}
    (hranks : candidates.map (·.rank) = List.range' 1 candidates.length) {rng rng' : Rng}
    {selection : Selection} (h : select config candidates rng = (.ok selection, rng')) :
    (EligibleFirst candidates ∧
      StrategyShowsRank candidates selection.channelId selection.strategy) ↔
        ClassFirst (·.eligible) candidates := by
  rw [eligibleFirst_iff hranks]
  constructor
  · intro h'
    exact h'.1
  · intro hfirst
    exact ⟨hfirst, select_shows_rank hranks hfirst h⟩

theorem select_error {config : RoutingConfig} {candidates : List Candidate} {rng rng' : Rng}
    {failure : Failure} (h : select config candidates rng = (.error failure, rng')) :
    ∀ c ∈ candidates, c.eligible = false := by
  unfold select selectChannel at h
  split at h
  · simp at h
  · rename_i error rest hselect
    split at hselect
    · rename_i hnone
      intro c hc
      simpa using List.filter_eq_nil_iff.mp hnone c hc
    · simp at hselect
    · split at hselect
      · simp at hselect
      · simp at hselect

/-- Marking a channel keeps the order exactly where no other eligible one is behind it. -/
theorem classFirst_markInFlight {candidates : List Candidate}
    (hfirst : ClassFirst (·.eligible) candidates) (id : String) :
    ClassFirst (·.eligible) (markInFlight id candidates) ↔
      candidates.Pairwise fun a b =>
        a.channelId = id → b.eligible = true → b.channelId = id := by
  unfold ClassFirst markInFlight at *
  rw [List.pairwise_map]
  constructor
  · intro h
    refine h.imp fun {a b} hab ha hb => ?_
    by_contra hne
    simp [ha, hb, hne] at hab
  · intro h
    refine (h.and hfirst).imp fun {a b} hab hb => ?_
    obtain ⟨hdenied, hbefore⟩ := hab
    split at hb
    · simp at hb
    · rename_i hne
      have ha : a.channelId ≠ id := fun heq => hne (hdenied heq hb)
      rw [if_neg ha]
      exact hbefore hb

theorem classFirst_degradedCandidates (channels : List Channel) :
    ClassFirst (·.eligible) (degradedCandidates channels) ↔
      channels.Pairwise fun a b => b.enabled = true → a.enabled = true := by
  rw [classFirst_iff_getElem, List.pairwise_iff_getElem]
  simp [degradedCandidates]

/-- With the metrics in hand the ranks explain the choice, exactly unless a channel is
denied its slot before another eligible one. -/
theorem chosenAmong_explained_iff (config : RoutingConfig) (faults : Faults)
    (localeCompare : String → String → Ordering) (rng : Rng) (uuid : String)
    (request : RouteRequest) (w : World) (hinformed : Informed faults w request) :
    RanksExplain ((chosenAmong config faults w (candidatesAt config localeCompare w request)
        rng).map (decisionOf config uuid w.now)) ↔
      ∀ id, deniedSlot config faults localeCompare rng request w = some id →
        (candidatesAt config localeCompare w request).Pairwise fun a b =>
          a.channelId = id → b.eligible = true → b.channelId = id := by
  have hrecord := recordOf_candidatesAt config localeCompare w request
  have hfirst : ClassFirst (·.eligible) (candidatesAt config localeCompare w request) :=
    classFirst_buildCandidates
  unfold chosenAmong deniedSlot askedSlot
  rw [if_pos hinformed]
  rcases hselect : select config (candidatesAt config localeCompare w request) rng with
    ⟨failure | first, rng'⟩
  · exact iff_of_true trivial (by simp)
  · have hprobe := isProbe_candidatesAt config
      ((select_eligible hselect).imp fun c hc => ⟨hc.1, hc.2.2⟩)
    have hkept : RanksExplain ((Except.ok (candidatesAt config localeCompare w request, first) :
        Except Failure (List Candidate × Selection)).map (decisionOf config uuid w.now)) :=
      (select_explained_iff hrecord.ranks hselect).mpr hfirst
    dsimp only
    simp only [hprobe]
    by_cases hstate : (refreshedAt config w first.channelId).state = .halfOpen
    · rw [if_pos hstate, if_pos hstate]
      rcases hfault : faults (.takeProbeSlot first.channelId probeSlotTtlMs) with _ | failure
      · by_cases hheld : w.slotHeld first.channelId
        · -- The slot is denied, and the call chooses again among the marked candidates.
          have hmarked := recordOf_markInFlight hrecord first.channelId
          simp only [hheld, if_true, Option.filter_some, hfault, and_self, decide_true,
            Option.some.injEq, forall_eq', ← classFirst_markInFlight hfirst]
          rcases hsecond : select config (markInFlight first.channelId (candidatesAt config
            localeCompare w request)) rng' with ⟨failure | second, rest⟩
          · refine iff_of_true trivial ?_
            refine List.pairwise_of_forall_mem_list fun a _ b hb hel => ?_
            exact absurd hel (by simp [select_error hsecond b hb])
          · exact select_explained_iff hmarked.ranks hsecond
        · simp only [hheld, if_false]
          exact iff_of_true hkept (by simp [hheld])
      · exact iff_of_true trivial (by simp [hfault])
    · rw [if_neg hstate, if_neg hstate]
      exact iff_of_true hkept (by simp)

/-- The ranks of a decision explain its choice, exactly unless the call rules a channel
out after the ranking that stands before one it could choose. -/
theorem route_ranksExplain_iff (config : Config) (faults : Faults)
    (localeCompare : String → String → Ordering) (rng : Rng) (uuid : String)
    (request : RouteRequest) (w : World) :
    RanksExplain ((route config.routing localeCompare rng uuid request).run config faults w).1 ↔
      RanksKept config.routing faults localeCompare rng request w := by
  have hunasked (h : ¬ Informed faults w request) :
      deniedSlot config.routing faults localeCompare rng request w = none := by
    unfold deniedSlot askedSlot
    rw [if_neg h]
    rfl
  by_cases hlist : ListAnswered faults w w.now request.corridor
  · rw [route_answer config faults localeCompare rng uuid request w hlist]
    by_cases hempty : routeChannels w request = []
    · rw [if_pos hempty]
      refine iff_of_true trivial ⟨fun id _ => ?_, fun _ _ => ?_⟩
      · simp [candidatesAt, routeCandidates, hempty, buildCandidates]
      · rw [hempty]
        exact List.Pairwise.nil
    · rw [if_neg hempty]
      by_cases hmetrics : MetricsAnswered faults ((routeChannels w request).map (·.id)) w.now
      · rw [if_pos hmetrics,
          chosenAmong_explained_iff config.routing faults localeCompare rng uuid request w
            ⟨hlist, hmetrics⟩]
        constructor
        · intro h
          exact ⟨h, fun _ hnot => absurd hmetrics hnot⟩
        · intro h
          exact h.denied
      · rw [if_neg hmetrics]
        have hkept : RanksKept config.routing faults localeCompare rng request w ↔
            (routeChannels w request).Pairwise fun a b =>
              b.enabled = true → a.enabled = true := by
          constructor
          · intro h
            exact h.degraded hlist hmetrics
          · intro h
            refine ⟨fun id hid => ?_, fun _ _ => h⟩
            rw [hunasked fun hinformed => hmetrics hinformed.2] at hid
            cases hid
        rw [hkept, ← classFirst_degradedCandidates,
          ← eligibleFirst_iff (recordOf_degradedCandidates _).ranks]
        unfold degradedAnswer
        split
        · rename_i hnone
          refine iff_of_true trivial fun a ha b _ hel _ => ?_
          exact absurd hel (by simpa using List.find?_eq_none.mp hnone a ha)
        · exact ⟨fun h => h.1, fun h => ⟨h, trivial⟩⟩
  · refine iff_of_true ?_ ⟨fun id hid => ?_, fun h => absurd h hlist⟩
    · cases hrun : ((route config.routing localeCompare rng uuid request).run config faults
        w).1 with
      | error failure => trivial
      | ok decision => exact absurd (listAnswered_of_ok hrun) hlist
    · rw [hunasked fun hinformed => hlist hinformed.1] at hid
      cases hid

/-- In `twoProbesWorld` the denied channel keeps rank 1 and the other one is named. -/
theorem route_denied_first_rank : ¬ RanksExplain twoProbesRun.1 := by
  have hshown := candidates_twoProbesRun
  intro h
  cases hresult : twoProbesRun.1 with
  | error failure => simp [hresult, Except.toOption] at hshown
  | ok decision =>
      rw [hresult] at h hshown
      simp only [Except.toOption, Option.map_some, Option.some.injEq] at hshown
      obtain ⟨a, rest, hcandidates, ha, hrest⟩ := List.map_eq_cons_iff.mp hshown
      obtain ⟨b, last, hrest', hb, _⟩ := List.map_eq_cons_iff.mp hrest
      simp only [Prod.mk.injEq] at ha hb
      have hlt := h.1 b (by simp [hcandidates, hrest']) a (by simp [hcandidates]) hb.2.2 ha.2.2
      omega

end

end SwitchService.Services
