import AgentsAssemble.Protocol.Turns

/-!
# What a path cannot undo

Outcomes, dispatched interrupts and consumed inputs are final.  These facts
compare the two ends of a path, so a run of transactions inherits them.
-/

namespace AgentsAssemble.Protocol

open Foundation Domain Persistence

section Machine

variable [UuidSource] [CaseFold] {P : Permit} {c c' : RoomCore}

/-! ## Executions and effects -/

/-- What a later state still says about an execution row. -/
structure RowHistory (row row' : ExecutionRow) : Prop where
  executionId : row'.executionId = row.executionId
  participantId : row'.participantId = row.participantId
  turnId : row'.turnId = row.turnId
  runtime : row'.runtime = row.runtime
  terminal : row.phase.isBlocking = false → row' = row
  assigned : row'.phase = .assigned → row' = row

omit [UuidSource] [CaseFold] in
theorem RowHistory.refl (row : ExecutionRow) : RowHistory row row :=
  ⟨rfl, rfl, rfl, rfl, fun _ => rfl, fun _ => rfl⟩

omit [UuidSource] [CaseFold] in
theorem RowHistory.trans {r s t : ExecutionRow} (h : RowHistory r s) (h' : RowHistory s t) :
    RowHistory r t := by
  refine ⟨h'.executionId.trans h.executionId, h'.participantId.trans h.participantId,
    h'.turnId.trans h.turnId, h'.runtime.trans h.runtime, fun hr => ?_, fun ht => ?_⟩
  · have hs := h.terminal hr
    rw [← hs]
    exact h'.terminal (hs ▸ hr)
  · have hs := h'.assigned ht
    rw [hs] at ht ⊢
    exact h.assigned ht

theorem Move.row_history (hm : Move P c c') {key : TurnKey} {row : ExecutionRow}
    (hrow : c.executions.lookup key = some row) :
    ∃ row', c'.executions.lookup key = some row' ∧ RowHistory row row' := by
  cases hm with
  | assign a b new envelope _ _ _ guard _ setsRow =>
      have hne : key ≠ (a.sessionId, b.turnGeneration) := by
        rintro rfl
        rw [guard.insertable.absent] at hrow
        cases hrow
      exact ⟨row, (setsRow.off_key hne).trans hrow, RowHistory.refl row⟩
  | settle a b old new finished _ _ _ _ guard _ setsRow =>
      by_cases hkey : key = (a.sessionId, a.turnGeneration)
      · subst hkey
        obtain rfl := Option.some.inj (hrow.symm.trans guard.storedRow)
        refine ⟨new, setsRow.at_key, guard.executionId, guard.participantId, guard.turnId,
          guard.runtime, fun hterminal => ?_, fun hassigned => ?_⟩
        · rw [guard.blocking] at hterminal
          cases hterminal
        · have hterminal := guard.terminal
          rw [hassigned] at hterminal
          cases hterminal
      · exact ⟨row, (setsRow.off_key hkey).trans hrow, RowHistory.refl row⟩
  | shift k old new effectKey effect effect' _ _ guard setsRow =>
      by_cases hkey : key = k
      · subst hkey
        obtain rfl := Option.some.inj (hrow.symm.trans guard.storedRow)
        have hs := guard.shift
        exact ⟨new, setsRow.at_key, hs.executionId, hs.participantId, hs.turnId, hs.runtime,
          hs.terminal, hs.assigned⟩
      · exact ⟨row, (setsRow.off_key hkey).trans hrow, RowHistory.refl row⟩
  | log => exact ⟨row, hrow, RowHistory.refl row⟩
  | edit => exact ⟨row, hrow, RowHistory.refl row⟩
  | tombstone => exact ⟨row, hrow, RowHistory.refl row⟩
  | session => exact ⟨row, hrow, RowHistory.refl row⟩
  | create => exact ⟨row, hrow, RowHistory.refl row⟩
  | vote => exact ⟨row, hrow, RowHistory.refl row⟩

theorem Path.row_history (hp : Path P c c') {key : TurnKey} {row : ExecutionRow}
    (hrow : c.executions.lookup key = some row) :
    ∃ row', c'.executions.lookup key = some row' ∧ RowHistory row row' := by
  induction hp with
  | refl => exact ⟨row, hrow, RowHistory.refl row⟩
  | tail _ hlast ih =>
      obtain ⟨mid, hmid, hhist⟩ := ih
      obtain ⟨row', hrow', hhist'⟩ := hlast.row_history hmid
      exact ⟨row', hrow', hhist.trans hhist'⟩

/-- The envelope of a stored execution is never rewritten. -/
theorem Move.envelope_kept (hm : Move P c c') {key : TurnKey} {row : ExecutionRow}
    (hrow : c.executions.lookup key = some row) :
    c'.assignments.lookup key = c.assignments.lookup key := by
  cases hm with
  | assign a b new envelope _ _ _ guard _ _ setsEnvelope =>
      have hne : key ≠ (a.sessionId, b.turnGeneration) := by
        rintro rfl
        rw [guard.insertable.absent] at hrow
        cases hrow
      exact setsEnvelope.off_key hne
  | log => rfl
  | edit => rfl
  | tombstone => rfl
  | session => rfl
  | create => rfl
  | settle => rfl
  | shift => rfl
  | vote => rfl

theorem Path.envelope_kept (hp : Path P c c') {key : TurnKey} {row : ExecutionRow}
    (hrow : c.executions.lookup key = some row) :
    c'.assignments.lookup key = c.assignments.lookup key := by
  induction hp with
  | refl => rfl
  | tail hpath hlast ih =>
      obtain ⟨mid, hmid, -⟩ := Path.row_history hpath hrow
      rw [hlast.envelope_kept hmid, ih]

/-- A path on which the turn of the key reached its outcome. -/
structure Ends (P : Permit) (c c' : RoomCore) (key : TurnKey) : Prop where
  path : Path P c c'
  live : ∀ row, c.executions.lookup key = some row → row.phase.isBlocking = true
  settled : ∃ row, c'.executions.lookup key = some row ∧ row.phase.isBlocking = false

theorem Ends.trans {d : RoomCore} {key : TurnKey} (h : Ends P c d key) (hp : Path P d c') :
    Ends P c c' key := by
  obtain ⟨row, hrow, hterminal⟩ := h.settled
  obtain ⟨row', hrow', hhistory⟩ := Path.row_history hp hrow
  obtain rfl := hhistory.terminal hterminal
  exact ⟨h.path.trans hp, h.live, row', hrow', hterminal⟩

theorem Ends.after {d : RoomCore} {key : TurnKey} (hp : Path P c d) (h : Ends P d c' key) :
    Ends P c c' key := by
  refine ⟨hp.trans h.path, fun row hrow => ?_, h.settled⟩
  by_contra hne
  obtain ⟨row', hrow', hhistory⟩ := Path.row_history hp hrow
  obtain rfl := hhistory.terminal (by simpa using hne)
  exact hne (h.live row' hrow')

/-- What a later state still says about an effect row. -/
structure EffectHistory (effect effect' : EffectRow) : Prop where
  effectId : effect'.effectId = effect.effectId
  cause : effect'.cause = effect.cause
  undispatched : isUndispatched effect'.phase = true → isUndispatched effect.phase = true

omit [UuidSource] [CaseFold] in
theorem EffectHistory.refl (effect : EffectRow) : EffectHistory effect effect :=
  ⟨rfl, rfl, id⟩

theorem Move.effect_history (hm : Move P c c') {key : TurnKey} {effect : EffectRow}
    (heffect : c.effects.lookup key = some effect) :
    ∃ effect', c'.effects.lookup key = some effect' ∧ EffectHistory effect effect' := by
  cases hm with
  | settle a b old new finished _ _ _ _ guard _ _ setsEffect =>
      by_cases hkey : key = (a.sessionId, a.turnGeneration)
      · subst hkey
        refine ⟨finalizeEffect effect, ?_, rfl, rfl, fun h => ?_⟩
        · rw [setsEffect.at_key, heffect]
          rfl
        · cases h
      · exact ⟨effect, (setsEffect.off_key hkey).trans heffect, EffectHistory.refl effect⟩
  | shift k old new effectKey before after _ _ guard _ setsEffect =>
      by_cases hkey : key = effectKey
      · subst hkey
        have hstored := guard.storedEffect.symm.trans heffect
        cases guard.effectShift with
        | kept =>
            exact ⟨effect, setsEffect.at_key.trans hstored, EffectHistory.refl effect⟩
        | prepared => cases hstored
        | moved old new hid hcause _ hundispatched =>
            obtain rfl := Option.some.inj hstored
            exact ⟨new, setsEffect.at_key, hid, hcause, hundispatched⟩
      · exact ⟨effect, (setsEffect.off_key hkey).trans heffect, EffectHistory.refl effect⟩
  | log => exact ⟨effect, heffect, EffectHistory.refl effect⟩
  | edit => exact ⟨effect, heffect, EffectHistory.refl effect⟩
  | tombstone => exact ⟨effect, heffect, EffectHistory.refl effect⟩
  | session => exact ⟨effect, heffect, EffectHistory.refl effect⟩
  | create => exact ⟨effect, heffect, EffectHistory.refl effect⟩
  | assign => exact ⟨effect, heffect, EffectHistory.refl effect⟩
  | vote => exact ⟨effect, heffect, EffectHistory.refl effect⟩

theorem Path.effect_history (hp : Path P c c') {key : TurnKey} {effect : EffectRow}
    (heffect : c.effects.lookup key = some effect) :
    ∃ effect', c'.effects.lookup key = some effect' ∧ EffectHistory effect effect' := by
  induction hp with
  | refl => exact ⟨effect, heffect, EffectHistory.refl effect⟩
  | tail _ hlast ih =>
      obtain ⟨mid, hmid, h⟩ := ih
      obtain ⟨effect', heffect', h'⟩ := hlast.effect_history hmid
      exact ⟨effect', heffect', h'.effectId.trans h.effectId, h'.cause.trans h.cause,
        fun hu => h.undispatched (h'.undispatched hu)⟩

/-! ## Sessions -/

/-- Every session row of a move is an old one, a changed one or a created one. -/
theorem Move.session_cases (hm : Move P c c') {sid : String} {a b : DurableAgentSession}
    (ha : c.sessions.lookup sid = some a) (hb : c'.sessions.lookup sid = some b) :
    b = a ∨ (sid = a.sessionId ∧ (SessionChange P c a b ∨
      (∃ row envelope, Assigns c a b row envelope) ∨
      ∃ row row' finished uuids, Settles P c a b row row' finished uuids ∧
        c'.executions.lookup (a.sessionId, a.turnGeneration) = some row')) := by
  have split : ∀ {sessions : Table String DurableAgentSession} {x y : DurableAgentSession},
      c.sessions.lookup x.sessionId = some x →
      Table.Sets c.sessions sessions x.sessionId (some y) → sessions.lookup sid = some b →
      b = a ∨ (sid = a.sessionId ∧ x = a ∧ y = b) := by
    intro sessions x y hx sets hlookup
    rcases sets.cases hlookup with ⟨rfl, hy⟩ | ⟨-, hold⟩
    · obtain rfl := Option.some.inj (hx.symm.trans ha)
      exact Or.inr ⟨rfl, rfl, Option.some.inj hy⟩
    · exact Or.inl (Option.some.inj (hold.symm.trans ha))
  have same : c.sessions.lookup sid = some b → b = a :=
    fun h => Option.some.inj (h.symm.trans ha)
  cases hm with
  | session x y sessions stored change sets =>
      rcases split stored sets hb with h | ⟨hsid, rfl, rfl⟩
      · exact Or.inl h
      · exact Or.inr ⟨hsid, Or.inl change⟩
  | assign x y row envelope sessions _ _ guard sets =>
      rcases split guard.stored sets hb with h | ⟨hsid, rfl, rfl⟩
      · exact Or.inl h
      · exact Or.inr ⟨hsid, Or.inr (Or.inl ⟨row, envelope, guard⟩)⟩
  | settle x y row row' finished uuids sessions _ _ guard sets setsRow =>
      rcases split guard.stored sets hb with h | ⟨hsid, rfl, rfl⟩
      · exact Or.inl h
      · exact Or.inr ⟨hsid, Or.inr (Or.inr ⟨row, row', finished, uuids, guard,
          setsRow.at_key⟩)⟩
  | create x sessions guard sets =>
      rcases sets.cases hb with ⟨rfl, -⟩ | ⟨-, hold⟩
      · rw [guard.absent] at ha
        cases ha
      · exact Or.inl (same hold)
  | log => exact Or.inl (same hb)
  | edit => exact Or.inl (same hb)
  | tombstone => exact Or.inl (same hb)
  | shift => exact Or.inl (same hb)
  | vote => exact Or.inl (same hb)

theorem Path.session_mono (hp : Path P c c') {sid : String} {a : DurableAgentSession}
    (ha : c.sessions.lookup sid = some a) :
    ∃ b, c'.sessions.lookup sid = some b ∧ a.turnGeneration ≤ b.turnGeneration := by
  induction hp with
  | refl => exact ⟨a, ha, Nat.le_refl _⟩
  | tail _ hlast ih =>
      obtain ⟨x, hx, hle⟩ := ih
      obtain ⟨b, hb, hle'⟩ := hlast.session_mono hx
      exact ⟨b, hb, hle.trans hle'⟩

/-! ## Consumed inputs -/

/-- The provider cursor of the session has passed this event. -/
def Passed (c : RoomCore) (sid eventId : String) : Prop :=
  ∃ a e, c.sessions.lookup sid = some a ∧ e ∈ c.events ∧ e.id = eventId ∧
    e.seq ≤ a.lastProviderSyncSeq

omit [CaseFold] in
theorem Sound.passed_unowned (h : Sound c) {sid eventId : String} (hp : Passed c sid eventId)
    {b : DurableAgentSession} (hb : c.sessions.lookup sid = some b) :
    eventId ∉ b.ownedIds := by
  obtain ⟨a, e, ha, he, hid, hle⟩ := hp
  obtain rfl := Option.some.inj (ha.symm.trans hb)
  intro hmem
  obtain ⟨input, hinput, rfl⟩ := List.mem_map.mp hmem
  have hunseen := ((h.sessions.queues sid a ha).routed input hinput e he hid).unseen
  omega

omit [CaseFold] in
/-- The inflight inputs of an active turn lie at or before its cursor. -/
theorem Sound.inflight_le (h : Sound c) {sid : String} {a : DurableAgentSession}
    (ha : c.sessions.lookup sid = some a) (hactive : ActiveTurn a) {source : RoomEvent}
    (hsource : source ∈ c.events) (hsourceId : source.id = a.inputUpToEventId)
    {input : QueuedRoomInput} (hinput : input ∈ a.inflightInputs) {e : RoomEvent}
    (he : e ∈ c.events) (hid : e.id = input.eventId) : e.seq ≤ source.seq := by
  obtain ⟨last, hlast, hlastId⟩ := Option.map_eq_some_iff.mp hactive.source
  have hlastSource : source.id = last.eventId := by
    rw [hsourceId, ← hactive.upTo, hlastId]
  have hordered := (h.sessions.queues sid a ha).ordered
  rw [DurableAgentSession.ownedInputs, List.pairwise_append] at hordered
  obtain ⟨before, hbefore⟩ : ∃ before, a.inflightInputs = before ++ [last] := by
    obtain ⟨hne, hget⟩ := List.getLast?_eq_some_iff.mp hlast
    exact ⟨hne, hget⟩
  rw [hbefore] at hinput hordered
  rcases List.mem_append.mp hinput with hin | hin
  · have hprec := (List.pairwise_append.mp hordered.1).2.2 input hin last (by simp)
    exact Nat.le_of_lt (hprec e he source hsource hid hlastSource)
  · rw [List.mem_singleton.mp hin] at hid
    rw [h.log.eq_of_id he hsource (hid.trans hlastSource.symm)]

/-- The provider cursor never moves back. -/
theorem Move.sync_mono (h : Sound c) (hm : Move P c c') {sid : String}
    {a b : DurableAgentSession} (ha : c.sessions.lookup sid = some a)
    (hb : c'.sessions.lookup sid = some b) :
    a.lastProviderSyncSeq ≤ b.lastProviderSyncSeq := by
  rcases hm.session_cases ha hb with rfl | ⟨rfl, change | ⟨row, envelope, guard⟩ |
    ⟨row, row', finished, uuids, guard, -⟩⟩
  · exact Nat.le_refl _
  · rw [change.identity.2.2.2.syncSeq]
  · rw [guard.next.cursor.syncSeq]
  · cases guard.settlement with
    | consumed source _ ended hmem hid hseq _ hsyncSeq =>
        -- The cursor moves to the last inflight input, which was still unseen.
        obtain ⟨last, hlast, hlastId⟩ := Option.map_eq_some_iff.mp guard.active.source
        have howned : last ∈ a.ownedInputs :=
          List.mem_append_left _ (List.mem_of_getLast? hlast)
        have hlastSource : source.id = last.eventId := by
          rw [hid, ← guard.active.upTo, hlastId]
        have hunseen := ((h.sessions.queues _ a ha).routed last howned source hmem
          hlastSource).unseen
        omega
    | restored _ _ cursor => rw [cursor.syncSeq]
    | stopped same => rw [same.syncSeq]

theorem Path.sync_mono (h : Sound c) (hp : Path P c c') {sid : String}
    {a b : DurableAgentSession} (ha : c.sessions.lookup sid = some a)
    (hb : c'.sessions.lookup sid = some b) :
    a.lastProviderSyncSeq ≤ b.lastProviderSyncSeq := by
  induction hp generalizing b with
  | refl =>
      obtain rfl := Option.some.inj (ha.symm.trans hb)
      exact Nat.le_refl _
  | tail hpath hlast ih =>
      obtain ⟨x, hx, -⟩ := Path.session_mono hpath ha
      exact (ih hx).trans (hlast.sync_mono (Path.sound h hpath) hx hb)

theorem Path.passed (h : Sound c) (hp : Path P c c') {sid eventId : String}
    (hpass : Passed c sid eventId) : Passed c' sid eventId := by
  obtain ⟨a, e, ha, he, hid, hle⟩ := hpass
  obtain ⟨b, hb, -⟩ := Path.session_mono hp ha
  have hlog := Path.logStep h hp
  obtain ⟨e', he', hid'⟩ := hlog.kept e he
  refine ⟨b, e', hb, he', hid'.trans hid, ?_⟩
  rw [(hlog.same e he e' he' hid').seq]
  exact hle.trans (Path.sync_mono h hp ha hb)

/-! ## How an input leaves its session -/

/-- The inputs in flight stay in flight for as long as their turn lasts. -/
theorem Move.inflight_cases (hm : Move P c c') {sid : String} {a b : DurableAgentSession}
    (ha : c.sessions.lookup sid = some a) (hb : c'.sessions.lookup sid = some b) :
    a.turnGeneration < b.turnGeneration ∨ (b.turnGeneration = a.turnGeneration ∧
      (b.inflightInputs = a.inflightInputs ∨ b.inflightInputs = [])) := by
  rcases hm.session_cases ha hb with rfl | ⟨rfl, change | ⟨row, envelope, guard⟩ |
    ⟨row, row', finished, uuids, guard, -⟩⟩
  · exact Or.inr ⟨rfl, Or.inl rfl⟩
  · refine Or.inr ⟨change.identity.2.2.1, ?_⟩
    cases change with
    | touch _ same => exact Or.inl same.inflight
    | applied _ _ same => exact Or.inl same.inflight
    | enqueue => exact Or.inl rfl
    | drop => exact Or.inl rfl
    | retire => exact Or.inl rfl
    | detach _ _ ended => exact Or.inr ended.clear.inflight
  · left
    rw [guard.next.generation]
    exact Nat.lt_succ_self _
  · refine Or.inr ⟨guard.settlement.identity.2.2, ?_⟩
    cases guard.settlement with
    | consumed _ _ ended => exact Or.inr ended.clear.inflight
    | restored _ ended => exact Or.inr ended.clear.inflight
    | stopped same => exact Or.inl same.inflight

theorem Path.inflight_cases (hp : Path P c c') {sid : String} {a b : DurableAgentSession}
    (ha : c.sessions.lookup sid = some a) (hb : c'.sessions.lookup sid = some b) :
    a.turnGeneration < b.turnGeneration ∨ (b.turnGeneration = a.turnGeneration ∧
      (b.inflightInputs = a.inflightInputs ∨ b.inflightInputs = [])) := by
  induction hp generalizing b with
  | refl =>
      obtain rfl := Option.some.inj (ha.symm.trans hb)
      exact Or.inr ⟨rfl, Or.inl rfl⟩
  | tail hpath hlast ih =>
      obtain ⟨x, hx, -⟩ := Path.session_mono hpath ha
      rcases ih hx with hlt | ⟨hgen, hinflight⟩ <;>
        rcases hlast.inflight_cases hx hb with hlt' | ⟨hgen', hinflight'⟩
      · exact Or.inl (hlt.trans hlt')
      · exact Or.inl (hgen' ▸ hlt)
      · exact Or.inl (hgen ▸ hlt')
      · refine Or.inr ⟨hgen'.trans hgen, ?_⟩
        rcases hinflight' with h' | h'
        · rw [h']
          exact hinflight
        · exact Or.inr h'

/-- Why an input may leave its session. -/
inductive Leaves (P : Permit) (c : RoomCore) (a : DurableAgentSession) (eventId : String) :
    Prop
  | consumed (generation : Nat) : P.consumes (a.sessionId, generation) →
      a.turnGeneration ≤ generation → (generation = a.turnGeneration →
        eventId ∈ a.inflightInputs.map QueuedRoomInput.eventId) → Leaves P c a eventId
  | deleted : deletedIn c.events eventId = true → P.restores a.sessionId →
      Leaves P c a eventId
  | dropped : P.deletes eventId → Leaves P c a eventId
  | cleaned : P.cleans a.sessionId → Leaves P c a eventId

omit [UuidSource] [CaseFold] in
/-- Restoring drops nothing but deleted inputs. -/
theorem leaves_of_restore {a b : DurableAgentSession} {eventId : String}
    (hmem : eventId ∈ a.ownedIds) (hnot : eventId ∉ b.ownedIds)
    (ended : Ended a b (keptInputs c.events a.ownedInputs)) :
    deletedIn c.events eventId = true := by
  by_contra hkept
  obtain ⟨input, hinput, rfl⟩ := List.mem_map.mp hmem
  apply hnot
  have howned : b.ownedInputs = keptInputs c.events a.ownedInputs := by
    rw [DurableAgentSession.ownedInputs, ended.clear.inflight, ended.pending, List.nil_append]
  rw [DurableAgentSession.ownedIds, howned]
  refine List.mem_map_of_mem (List.mem_filter.mpr ⟨hinput, ?_⟩)
  simpa using hkept

omit [UuidSource] [CaseFold] in
theorem SessionChange.leaves {a b : DurableAgentSession} {eventId : String}
    (hmem : eventId ∈ a.ownedIds) (hnot : eventId ∉ b.ownedIds)
    (h : SessionChange P c a b) : Leaves P c a eventId := by
  cases h with
  | touch _ same =>
      rw [DurableAgentSession.ownedIds, same.owned] at hnot
      exact absurd hmem hnot
  | applied _ _ same =>
      rw [DurableAgentSession.ownedIds, same.owned] at hnot
      exact absurd hmem hnot
  | enqueue event kind =>
      refine absurd ?_ hnot
      simp only [DurableAgentSession.ownedIds, DurableAgentSession.ownedInputs,
        List.map_append, List.mem_append] at hmem ⊢
      tauto
  | drop dropped hdeletes =>
      have heq : eventId = dropped := by
        by_contra hne
        apply hnot
        obtain ⟨input, hinput, rfl⟩ := List.mem_map.mp hmem
        refine List.mem_map_of_mem ?_
        rcases List.mem_append.mp hinput with hin | hin
        · exact List.mem_append_left _ hin
        · exact List.mem_append_right _ (List.mem_filter.mpr ⟨hin, by simpa using hne⟩)
      exact .dropped (heq ▸ hdeletes)
  | retire hcleans => exact .cleaned hcleans
  | detach _ hrestores ended => exact .deleted (leaves_of_restore hmem hnot ended) hrestores

omit [UuidSource] [CaseFold] in
theorem Settlement.leaves {a b : DurableAgentSession} {row : ExecutionRow} {eventId : String}
    (hmem : eventId ∈ a.ownedIds) (hnot : eventId ∉ b.ownedIds)
    (h : Settlement P c a b row) : Leaves P c a eventId := by
  cases h with
  | consumed _ hconsumes ended =>
      refine .consumed a.turnGeneration hconsumes (Nat.le_refl _) fun _ => ?_
      have howned : b.ownedIds = a.pendingInputs.map QueuedRoomInput.eventId := by
        rw [DurableAgentSession.ownedIds, DurableAgentSession.ownedInputs,
          ended.clear.inflight, ended.pending, List.nil_append]
      rw [howned] at hnot
      rw [DurableAgentSession.ownedIds, DurableAgentSession.ownedInputs, List.map_append,
        List.mem_append] at hmem
      exact hmem.resolve_right hnot
  | restored hrestores ended => exact .deleted (leaves_of_restore hmem hnot ended) hrestores
  | stopped same =>
      rw [DurableAgentSession.ownedIds, same.owned] at hnot
      exact absurd hmem hnot

theorem Move.leaves (hm : Move P c c') {sid eventId : String}
    {a b : DurableAgentSession} (ha : c.sessions.lookup sid = some a)
    (hb : c'.sessions.lookup sid = some b) (hmem : eventId ∈ a.ownedIds)
    (hnot : eventId ∉ b.ownedIds) : Leaves P c a eventId := by
  rcases hm.session_cases ha hb with rfl | ⟨rfl, change | ⟨row, envelope, guard⟩ |
    ⟨row, row', finished, uuids, guard, -⟩⟩
  · exact absurd hmem hnot
  · exact change.leaves hmem hnot
  · refine absurd ?_ hnot
    rw [DurableAgentSession.ownedIds, DurableAgentSession.ownedInputs, guard.next.queue]
    rwa [DurableAgentSession.ownedIds, DurableAgentSession.ownedInputs, guard.inflight,
      List.nil_append] at hmem
  · exact guard.settlement.leaves hmem hnot

omit [UuidSource] [CaseFold] in
theorem deletedIn_mono {events events' : List RoomEvent} {eventId : String}
    (h : LogStep events events') (hdel : deletedIn events eventId = true) :
    deletedIn events' eventId = true := by
  obtain ⟨e, he, hboth⟩ := List.any_eq_true.mp hdel
  rw [Bool.and_eq_true, beq_iff_eq] at hboth
  obtain ⟨e', he', hid'⟩ := h.kept e he
  refine List.any_eq_true.mpr ⟨e', he', ?_⟩
  rw [Bool.and_eq_true, beq_iff_eq]
  exact ⟨hid'.trans hboth.1, (h.same e he e' he' hid').deleted hboth.2⟩

/-- Over a whole path an input leaves for one of the four reasons. -/
theorem Path.leaves (h : Sound c) (hp : Path P c c') {sid eventId : String}
    {a b : DurableAgentSession} (ha : c.sessions.lookup sid = some a)
    (hb : c'.sessions.lookup sid = some b) (hmem : eventId ∈ a.ownedIds)
    (hnot : eventId ∉ b.ownedIds) : Leaves P c' a eventId := by
  induction hp generalizing b with
  | refl =>
      obtain rfl := Option.some.inj (ha.symm.trans hb)
      exact absurd hmem hnot
  | @tail m c' hpath hlast ih =>
      obtain ⟨x, hx, -⟩ := Path.session_mono hpath ha
      have hsound := Path.sound h hpath
      have hlog := hlast.logStep hsound.log
      by_cases hstill : eventId ∈ x.ownedIds
      · have hsid : x.sessionId = a.sessionId := by
          rw [(hsound.sessions.keyed sid x hx).1, (h.sessions.keyed sid a ha).1]
        cases hlast.leaves hx hb hstill hnot with
        | consumed generation hconsumes hle hinflight =>
            have hcases := Path.inflight_cases hpath ha hx
            have hmono : a.turnGeneration ≤ x.turnGeneration := by
              rcases hcases with hlt | ⟨hsame, -⟩
              · exact Nat.le_of_lt hlt
              · exact Nat.le_of_eq hsame.symm
            refine .consumed generation (hsid ▸ hconsumes) (hmono.trans hle) fun hgen => ?_
            rcases hcases with hlt | ⟨hsame, hcase⟩
            · exact absurd (hgen ▸ hle) (Nat.not_le_of_lt hlt)
            · rcases hcase with heq | hnil
              · exact heq ▸ hinflight (hgen.trans hsame.symm)
              · have := hinflight (hgen.trans hsame.symm)
                rw [hnil] at this
                cases this
        | deleted hdel hrestores => exact .deleted (deletedIn_mono hlog hdel) (hsid ▸ hrestores)
        | dropped hdeletes => exact .dropped hdeletes
        | cleaned hcleans => exact .cleaned (hsid ▸ hcleans)
      · cases ih hx hstill with
        | consumed generation hconsumes hle hinflight =>
            exact .consumed generation hconsumes hle hinflight
        | deleted hdel hrestores => exact .deleted (deletedIn_mono hlog hdel) hrestores
        | dropped hdeletes => exact .dropped hdeletes
        | cleaned hcleans => exact .cleaned hcleans

/-! ## How a turn ends -/

/-- The session still runs the turn of `a` on the same inputs. -/
structure RunsOn (a b : DurableAgentSession) : Prop where
  generation : b.turnGeneration = a.turnGeneration
  turnId : b.activeTurnId = a.activeTurnId
  inflight : b.inflightInputs = a.inflightInputs

/-- A transaction that may neither consume nor restore leaves a running turn running. -/
theorem Path.runs_on (hp : Path P c c') {sid : String} {a b : DurableAgentSession}
    (ha : c.sessions.lookup sid = some a) (hb : c'.sessions.lookup sid = some b)
    (hinflight : a.inflightInputs ≠ []) (hrestores : ¬ P.restores sid)
    (hconsumes : ∀ generation, ¬ P.consumes (sid, generation)) : RunsOn a b := by
  induction hp generalizing b with
  | refl =>
      obtain rfl := Option.some.inj (ha.symm.trans hb)
      exact ⟨rfl, rfl, rfl⟩
  | tail hpath hlast ih =>
      obtain ⟨x, hx, -⟩ := Path.session_mono hpath ha
      have hruns := ih hx
      suffices RunsOn x b from
        ⟨this.generation.trans hruns.generation, this.turnId.trans hruns.turnId,
          this.inflight.trans hruns.inflight⟩
      rcases hlast.session_cases hx hb with rfl | ⟨rfl, change | ⟨row, envelope, guard⟩ |
        ⟨row, row', finished, uuids, guard, -⟩⟩
      · exact ⟨rfl, rfl, rfl⟩
      · cases change with
        | touch _ same => exact ⟨same.generation, same.turnId, same.inflight⟩
        | applied _ _ same => exact ⟨same.generation, same.turnId, same.inflight⟩
        | enqueue => exact ⟨rfl, rfl, rfl⟩
        | drop => exact ⟨rfl, rfl, rfl⟩
        | retire => exact ⟨rfl, rfl, rfl⟩
        | detach _ hrestore => exact absurd hrestore hrestores
      · exact absurd (hruns.inflight.symm.trans guard.inflight) hinflight
      · cases guard.settlement with
        | consumed _ hconsume => exact absurd hconsume (hconsumes _)
        | restored hrestore => exact absurd hrestore hrestores
        | stopped same => exact ⟨same.generation, same.turnId, same.inflight⟩

/-- The input was consumed: the cursor has passed it and the outcome of its turn stands. -/
structure Consumed (c : RoomCore) (key : TurnKey) (eventId : String) : Prop where
  passed : Passed c key.1 eventId
  settled : ∃ row, c.executions.lookup key = some row ∧ row.phase.isBlocking = false

theorem Consumed.move (h : Sound c) (hm : Move P c c') {key : TurnKey} {eventId : String}
    (hconsumed : Consumed c key eventId) : Consumed c' key eventId := by
  obtain ⟨row, hrow, hterminal⟩ := hconsumed.settled
  obtain ⟨row', hrow', hhistory⟩ := hm.row_history hrow
  refine ⟨Path.passed h (Relation.ReflTransGen.single hm) hconsumed.passed, row', hrow', ?_⟩
  rw [hhistory.terminal hterminal]
  exact hterminal

/-- A transaction that may only consume the session leaves a running turn running or
consumes every input it had in flight. -/
theorem Path.consumes (h : Sound c) (hp : Path P c c') {sid eventId : String}
    {a b : DurableAgentSession} (ha : c.sessions.lookup sid = some a)
    (hb : c'.sessions.lookup sid = some b)
    (hmem : eventId ∈ a.inflightInputs.map QueuedRoomInput.eventId)
    (hrestores : ¬ P.restores sid) :
    RunsOn a b ∨ Consumed c' (sid, a.turnGeneration) eventId := by
  induction hp generalizing b with
  | refl =>
      obtain rfl := Option.some.inj (ha.symm.trans hb)
      exact Or.inl ⟨rfl, rfl, rfl⟩
  | @tail d e hpath hlast ih =>
      obtain ⟨x, hx, -⟩ := Path.session_mono hpath ha
      have hsound : Sound d := Path.sound h hpath
      rcases ih hx with hruns | hconsumed
      swap
      · exact Or.inr (hconsumed.move hsound hlast)
      have carry : RunsOn x b → RunsOn a b := fun hstep =>
        ⟨hstep.generation.trans hruns.generation, hstep.turnId.trans hruns.turnId,
          hstep.inflight.trans hruns.inflight⟩
      rcases hlast.session_cases hx hb with rfl | ⟨rfl, change | ⟨row, envelope, guard⟩ |
        ⟨row, row', finished, uuids, guard, hrow'⟩⟩
      · exact Or.inl hruns
      · refine Or.inl (carry ?_)
        cases change with
        | touch _ same => exact ⟨same.generation, same.turnId, same.inflight⟩
        | applied _ _ same => exact ⟨same.generation, same.turnId, same.inflight⟩
        | enqueue => exact ⟨rfl, rfl, rfl⟩
        | drop => exact ⟨rfl, rfl, rfl⟩
        | retire => exact ⟨rfl, rfl, rfl⟩
        | detach _ hrestore => exact absurd hrestore hrestores
      · -- The inputs of a running turn block the next assignment.
        rw [← hruns.inflight, guard.inflight] at hmem
        cases hmem
      · cases guard.settlement with
        | restored hrestore => exact absurd hrestore hrestores
        | stopped same =>
            exact Or.inl (carry ⟨same.generation, same.turnId, same.inflight⟩)
        | consumed source _ ended hsource hid hseq _ hsyncSeq =>
            refine Or.inr ⟨?_, row', ?_, guard.terminal⟩
            · rw [← hruns.inflight] at hmem
              obtain ⟨input, hinput, rfl⟩ := List.mem_map.mp hmem
              have howned : input ∈ x.ownedInputs := List.mem_append_left _ hinput
              obtain ⟨event, hevent, hevid⟩ := (hsound.sessions.queues _ x hx).known input howned
              have hle := hsound.inflight_le hx guard.active hsource hid hinput hevent hevid
              obtain ⟨event', hevent', hevid'⟩ := (hlast.logStep hsound.log).kept event hevent
              have hcontinues :=
                (hlast.logStep hsound.log).same event hevent event' hevent' hevid'
              refine ⟨b, event', hb, hevent', hevid'.trans hevid, ?_⟩
              rw [hcontinues.seq, hsyncSeq, ← hseq]
              exact hle
            · rw [← hruns.generation]
              exact hrow'

/-- Without a deletion the log keeps its tombstones as they are. -/
theorem Move.deletedIn_eq (hl : LogWF c.events c.uuids) (hm : Move P c c')
    (hdeletes : ∀ eventId, ¬ P.deletes eventId) (eventId : String) :
    deletedIn c'.events eventId = deletedIn c.events eventId := by
  cases hm with
  | log added uuids fresh quiet =>
      exact deletedIn_append_quiet fun e he => (quiet e he).kept
  | settle a b row row' finished uuids _ _ _ guard =>
      refine deletedIn_append_quiet fun e he => ?_
      rw [List.mem_singleton.mp he]
      exact guard.kept
  | edit event content now guard =>
      have hcount : (rewriteIn c.events (prepareUpdatedMessage event content now)).countP
          (fun e => e.id == eventId && e.isDeleted) =
            c.events.countP fun e => e.id == eventId && e.isDeleted :=
        countP_rewriteIn hl guard.stored rfl rfl
      rw [Bool.eq_iff_iff, deletedIn, deletedIn, List.any_eq_true, List.any_eq_true,
        ← List.countP_pos_iff, ← List.countP_pos_iff, hcount]
  | tombstone event kind now guard => exact absurd guard.permitted (hdeletes _)
  | session => rfl
  | create => rfl
  | assign => rfl
  | shift => rfl
  | vote => rfl

theorem Path.deletedIn_eq (h : Sound c) (hp : Path P c c')
    (hdeletes : ∀ eventId, ¬ P.deletes eventId) (eventId : String) :
    deletedIn c'.events eventId = deletedIn c.events eventId := by
  induction hp with
  | refl => rfl
  | tail hpath hlast ih =>
      rw [hlast.deletedIn_eq (Path.sound h hpath).log hdeletes, ih]

omit [UuidSource] [CaseFold] in
theorem keptInputs_keptInputs (events : List RoomEvent) (inputs : List QueuedRoomInput) :
    keptInputs events (keptInputs events inputs) = keptInputs events inputs := by
  rw [keptInputs, keptInputs, List.filter_filter]
  simp

omit [CaseFold] in
/-- Pending inputs survive a restore. -/
theorem Sound.keptInputs_pending (h : Sound c) {sid : String} {a : DurableAgentSession}
    (ha : c.sessions.lookup sid = some a) :
    keptInputs c.events a.pendingInputs = a.pendingInputs := by
  rw [keptInputs, List.filter_eq_self]
  intro input hinput
  rw [Bool.not_eq_true', deletedIn, List.any_eq_false]
  intro e he
  rw [Bool.and_eq_true, beq_iff_eq]
  rintro ⟨hid, hdel⟩
  rw [(h.sessions.queues sid a ha).kept input hinput e he hid] at hdel
  cases hdel

/-- A transaction that may only restore the session either leaves its turn running or puts
the undeleted inflight inputs back in front of the pending ones. -/
theorem Path.restores (h : Sound c) (hp : Path P c c') {sid : String}
    {a b : DurableAgentSession} (ha : c.sessions.lookup sid = some a)
    (hb : c'.sessions.lookup sid = some b) (hroutes : ¬ P.routes)
    (hdeletes : ∀ eventId, ¬ P.deletes eventId) (hcleans : ¬ P.cleans sid)
    (hconsumes : ∀ generation, ¬ P.consumes (sid, generation)) :
    RunsOn a b ∨ b.ownedInputs = keptInputs c.events a.inflightInputs ++ a.pendingInputs := by
  have hkept : keptInputs c.events a.inflightInputs ++ a.pendingInputs =
      keptInputs c.events a.ownedInputs := by
    conv_lhs => rw [← h.keptInputs_pending ha]
    rw [DurableAgentSession.ownedInputs, keptInputs, keptInputs, keptInputs,
      List.filter_append]
  rw [hkept]
  suffices (RunsOn a b ∧ b.pendingInputs = a.pendingInputs) ∨
      b.ownedInputs = keptInputs c.events a.ownedInputs from this.imp And.left id
  induction hp generalizing b with
  | refl =>
      obtain rfl := Option.some.inj (ha.symm.trans hb)
      exact Or.inl ⟨⟨rfl, rfl, rfl⟩, rfl⟩
  | @tail m c' hpath hlast ih =>
      obtain ⟨x, hx, -⟩ := Path.session_mono hpath ha
      have hsound := Path.sound h hpath
      have hevents : keptInputs m.events = keptInputs c.events := by
        funext inputs
        rw [keptInputs, keptInputs]
        congr 1
        funext input
        rw [Path.deletedIn_eq h hpath hdeletes]
      have carry : SameTurn x b → (RunsOn a b ∧ b.pendingInputs = a.pendingInputs) ∨
          b.ownedInputs = keptInputs c.events a.ownedInputs := by
        intro same
        rcases ih hx with ⟨hruns, hpending⟩ | howned
        · exact Or.inl ⟨⟨same.generation.trans hruns.generation,
            same.turnId.trans hruns.turnId, same.inflight.trans hruns.inflight⟩,
            same.pending.trans hpending⟩
        · exact Or.inr (same.owned.trans howned)
      have restore : Ended x b (keptInputs m.events x.ownedInputs) →
          b.ownedInputs = keptInputs c.events a.ownedInputs := by
        intro ended
        have hb' : b.ownedInputs = keptInputs c.events x.ownedInputs := by
          rw [DurableAgentSession.ownedInputs, ended.clear.inflight, ended.pending,
            List.nil_append, hevents]
        rcases ih hx with ⟨hruns, hpending⟩ | howned
        · rw [hb', DurableAgentSession.ownedInputs, hruns.inflight, hpending,
            DurableAgentSession.ownedInputs]
        · rw [hb', howned, keptInputs_keptInputs]
      have hsid := (hsound.sessions.keyed sid x hx).1
      rcases hlast.session_cases hx hb with rfl | ⟨-, change | ⟨row, envelope, guard⟩ |
        ⟨row, row', finished, uuids, guard, -⟩⟩
      · exact ih hx
      · cases change with
        | touch _ same => exact carry same
        | applied _ _ same => exact carry same
        | enqueue _ _ hroute => exact absurd hroute hroutes
        | drop eventId hdelete => exact absurd hdelete (hdeletes _)
        | retire hclean => exact absurd (hsid ▸ hclean) hcleans
        | detach _ _ ended => exact Or.inr (restore ended)
      · -- The next turn takes its inputs from a queue that holds no tombstone.
        right
        have howned : b.ownedInputs = x.pendingInputs := guard.next.queue
        have hx' : x.ownedInputs = x.pendingInputs := by
          rw [DurableAgentSession.ownedInputs, guard.inflight, List.nil_append]
        rcases ih hx with ⟨hruns, hpending⟩ | hrestored
        · have hnil : a.inflightInputs = [] := hruns.inflight.symm.trans guard.inflight
          rw [howned, hpending, DurableAgentSession.ownedInputs, hnil, List.nil_append,
            h.keptInputs_pending ha]
        · rw [howned, ← hx', hrestored]
      · cases guard.settlement with
        | consumed _ hconsume => exact absurd (hsid ▸ hconsume) (hconsumes _)
        | restored _ ended => exact Or.inr (restore ended)
        | stopped same => exact carry same

end Machine

end AgentsAssemble.Protocol
