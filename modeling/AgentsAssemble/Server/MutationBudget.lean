import AgentsAssemble.Server.MutationRuns

/-!
# The principal mutation budget: what holds along a run

The log of a principal is read off the trace of a run.  What is stored for the
principal is the end of that log, and what is missing from it has expired.
-/

namespace AgentsAssemble.Server.Mutation

open Foundation MutationState

/-- One call, with what a charge found, answered and left. -/
inductive MutationEvent
  | charged (principalId : String) (identity : MutationIdentity) (payloadBytes now : Nat)
      (before : MutationState) (result : Except Refusal Nat) (after : MutationState)
  | resolved (principalId : String) (identity : MutationIdentity) (chargeId : Nat)

namespace MutationEvent

/-- The charge a call added, with its principal. -/
def fresh : MutationEvent → Option (String × MutationCharge)
  | charged principalId identity payloadBytes now before (.ok chargeId) after =>
      if before.sequence < after.sequence then
        some (principalId, ⟨now, payloadBytes, identity, chargeId⟩)
      else none
  | _ => none

/-- No charge is pruned before the clock is a minute old, and there is a number left. -/
def Timely : MutationEvent → Prop
  | charged principalId _ _ now before _ _ =>
      before.Timely principalId now ∧ before.sequence < wordMax
  | resolved _ _ _ => True

end MutationEvent

/-- The fresh charges of a principal, in their order. -/
def freshCharges (principalId : String) (trace : List MutationEvent) : List MutationCharge :=
  trace.filterMap fun event => event.fresh.bind fun charge =>
    if charge.1 = principalId then some charge.2 else none

/-- The charges of a principal that are still unresolved after a call. -/
def outstandingAfter (principalId : String) (charges : List MutationCharge)
    (event : MutationEvent) : List MutationCharge :=
  match event with
  | .charged _ _ _ _ _ _ _ => charges ++ freshCharges principalId [event]
  | .resolved owner identity chargeId =>
      if owner = principalId then
        charges.filter fun charge => !(charge.identity = identity ∧ charge.chargeId = chargeId)
      else charges

/-- The fresh charges of a principal that no later call resolved under their own number. -/
def outstanding (principalId : String) (trace : List MutationEvent) : List MutationCharge :=
  trace.foldl (outstandingAfter principalId) []

/-- One call at a time of the clock. -/
inductive Serves : MutationEvent → Nat × MutationState → Nat × MutationState → Prop
  | charge (principalId : String) (identity : MutationIdentity) (payloadBytes : Nat)
      {clock now : Nat} (s : MutationState) (hnow : clock ≤ now) :
      Serves
        (.charged principalId identity payloadBytes now s
          (s.charge principalId identity payloadBytes now).1
          (s.charge principalId identity payloadBytes now).2)
        (clock, s) (now, (s.charge principalId identity payloadBytes now).2)
  | resolve (principalId : String) (identity : MutationIdentity) (chargeId clock : Nat)
      (s : MutationState) :
      Serves (.resolved principalId identity chargeId) (clock, s)
        (clock, s.resolve principalId identity chargeId)

/-- One call that prunes no charge before the clock is a minute old. -/
def TimelyServes (event : MutationEvent) (s t : Nat × MutationState) : Prop :=
  Serves event s t ∧ event.Timely

theorem freshCharges_append (principalId : String) (a b : List MutationEvent) :
    freshCharges principalId (a ++ b) = freshCharges principalId a ++ freshCharges principalId b :=
  List.filterMap_append ..

theorem outstanding_snoc (principalId : String) (trace : List MutationEvent)
    (event : MutationEvent) :
    outstanding principalId (trace ++ [event]) =
      outstandingAfter principalId (outstanding principalId trace) event := by
  rw [outstanding, List.foldl_append, outstanding]
  rfl

/-- A call that adds no charge leaves the logs as they are. -/
theorem freshCharges_of_none {event : MutationEvent} (h : event.fresh = none)
    (principalId : String) : freshCharges principalId [event] = [] := by
  rw [freshCharges, List.filterMap_cons, h]
  rfl

theorem freshCharges_of_some {event : MutationEvent} {owner : String} {charge : MutationCharge}
    (h : event.fresh = some (owner, charge)) (principalId : String) :
    freshCharges principalId [event] = if owner = principalId then [charge] else [] := by
  rw [freshCharges, List.filterMap_cons, h, Option.bind_some]
  by_cases howner : owner = principalId
  · rw [if_pos howner, if_pos howner]
    rfl
  · rw [if_neg howner, if_neg howner]
    rfl

/-- How what is stored at a time of the clock agrees with the logs of the run so far. -/
structure Accounted (trace : List MutationEvent) (clock : Nat) (s : MutationState) : Prop where
  sound : s.Sound
  logged : ∀ principalId, ∃ expired,
    freshCharges principalId trace = expired ++ s.stored principalId ∧
      ∀ charge ∈ expired, charge.time + mutationWindow ≤ clock
  ordered : ∀ principalId, Log.InOrder MutationCharge.time (freshCharges principalId trace)
  past : ∀ principalId, ∀ charge ∈ freshCharges principalId trace, charge.time ≤ clock
  numbered : ∀ principalId,
    ((freshCharges principalId trace).map MutationCharge.chargeId).Nodup ∧
      ∀ charge ∈ freshCharges principalId trace, charge.chargeId ≤ s.sequence
  counted : ∀ principalId, Log.Throttled MutationCharge.time (fun _ => 1) mutationWindow
    maxMutationsPerWindow (freshCharges principalId trace)
  weighed : ∀ principalId, Log.Throttled MutationCharge.time MutationCharge.bytes mutationWindow
    maxMutationBytesPerWindow (freshCharges principalId trace)
  retry : ∀ principalId, ∀ charge ∈ outstanding principalId trace,
    charge ∈ freshCharges principalId trace ∧
      (clock < charge.time + mutationWindow →
        s.exempt principalId charge.identity = some charge.chargeId)

section Steps

variable {trace : List MutationEvent} {event : MutationEvent} {clock now : Nat}
  {s t u : MutationState} {principalId : String}

/-- What is young of a log is young of what is stored. -/
theorem Accounted.young (h : Accounted trace clock s) (hnow : clock ≤ now)
    (principalId : String) :
    Log.young MutationCharge.time mutationWindow now (freshCharges principalId trace) =
      Log.expire MutationCharge.time mutationWindow now (s.stored principalId) := by
  obtain ⟨expired, hlog, hexpired⟩ := h.logged principalId
  have hordered := h.ordered principalId
  rw [hlog] at hordered ⊢
  rw [Log.expire_eq_young (List.pairwise_append.mp hordered).2.1, Log.young_append,
    Log.young_eq_nil fun charge hcharge => (hexpired charge hcharge).trans hnow, List.nil_append]

/-- Pruning only takes what has expired. -/
theorem Accounted.pruned (h : Accounted trace clock s) (hnow : clock ≤ now)
    (hpruned : Pruned now s t) (ht : t.Sound) : Accounted trace now t := by
  have hlogged : ∀ principalId, ∃ expired,
      freshCharges principalId trace = expired ++ t.stored principalId ∧
        ∀ charge ∈ expired, charge.time + mutationWindow ≤ now := by
    intro principalId
    obtain ⟨expired, hlog, hexpired⟩ := h.logged principalId
    rcases hpruned.stored principalId with hsame | hlater
    · exact ⟨expired, by rw [hlog, hsame], fun charge hcharge =>
        (hexpired charge hcharge).trans hnow⟩
    · refine ⟨expired ++ (s.stored principalId).takeWhile fun charge =>
        charge.time + mutationWindow ≤ now, ?_, fun charge hcharge => ?_⟩
      · rw [hlog, hlater, Log.expire, List.append_assoc, List.takeWhile_append_dropWhile]
      · rcases List.mem_append.mp hcharge with hold | hnew
        · exact (hexpired charge hold).trans hnow
        · simpa using List.mem_takeWhile_imp hnew
  refine ⟨ht, hlogged, h.ordered, fun principalId charge hcharge =>
    (h.past principalId charge hcharge).trans hnow, ?_, h.counted, h.weighed, ?_⟩
  · intro principalId
    rw [hpruned.sequence]
    exact h.numbered principalId
  · intro principalId charge hcharge
    obtain ⟨hmem, hexempt⟩ := h.retry principalId charge hcharge
    refine ⟨hmem, fun hyoung => ?_⟩
    refine (hpruned.exempt _ _ _).mpr ⟨hexempt (hnow.trans_lt hyoung), charge, ?_, rfl, rfl⟩
    obtain ⟨expired, hlog, hexpired⟩ := hlogged principalId
    rw [hlog] at hmem
    rcases List.mem_append.mp hmem with hgone | hstored
    · exact absurd (hexpired charge hgone) (Nat.not_le.mpr hyoung)
    · exact hstored

/-- A charge that adds nothing changes no log. -/
theorem Accounted.unchanged (h : Accounted trace clock s) (hfresh : event.fresh = none)
    (hcharge : ∀ owner identity chargeId, event ≠ .resolved owner identity chargeId) :
    Accounted (trace ++ [event]) clock s := by
  have hlog : ∀ principalId, freshCharges principalId (trace ++ [event]) =
      freshCharges principalId trace := by
    intro principalId
    rw [freshCharges_append, freshCharges_of_none hfresh, List.append_nil]
  have hout : ∀ principalId, outstanding principalId (trace ++ [event]) =
      outstanding principalId trace := by
    intro principalId
    rw [outstanding_snoc]
    cases event with
    | charged =>
        rw [outstandingAfter, freshCharges_of_none hfresh, List.append_nil]
    | resolved owner identity chargeId => exact absurd rfl (hcharge owner identity chargeId)
  constructor
  case sound => exact h.sound
  case retry =>
    intro principalId
    rw [hlog, hout]
    exact h.retry principalId
  all_goals
    intro principalId
    rw [hlog]
  case logged => exact h.logged principalId
  case ordered => exact h.ordered principalId
  case past => exact h.past principalId
  case numbered => exact h.numbered principalId
  case counted => exact h.counted principalId
  case weighed => exact h.weighed principalId

/-- A fresh charge comes at the end of the log of its principal, where it fits. -/
theorem Accounted.added {charge : MutationCharge} (h : Accounted trace now t)
    (hfresh : event.fresh = some (principalId, charge)) (hcharge : ∀ owner identity chargeId,
      event ≠ .resolved owner identity chargeId) (htime : charge.time = now)
    (hyoung : Log.young MutationCharge.time mutationWindow now (freshCharges principalId trace) =
      t.stored principalId)
    (hnew : t.exempt principalId charge.identity = none)
    (hadds : Adds principalId charge t u) (hsound : u.Sound)
    (hcount : (t.stored principalId).length + 1 ≤ maxMutationsPerWindow)
    (hbytes : Log.total MutationCharge.bytes (t.stored principalId) + charge.bytes ≤
      maxMutationBytesPerWindow) : Accounted (trace ++ [event]) now u := by
  have hlog : ∀ other, freshCharges other (trace ++ [event]) =
      if other = principalId then freshCharges principalId trace ++ [charge]
      else freshCharges other trace := by
    intro other
    rw [freshCharges_append, freshCharges_of_some hfresh]
    by_cases hother : other = principalId
    · rw [if_pos hother.symm, if_pos hother, hother]
    · rw [if_neg (Ne.symm hother), if_neg hother, List.append_nil]
  have hout : ∀ other, outstanding other (trace ++ [event]) =
      if other = principalId then outstanding principalId trace ++ [charge]
      else outstanding other trace := by
    intro other
    rw [outstanding_snoc]
    cases event with
    | charged =>
        rw [outstandingAfter, freshCharges_of_some hfresh]
        by_cases hother : other = principalId
        · rw [if_pos hother.symm, if_pos hother, hother]
        · rw [if_neg (Ne.symm hother), if_neg hother, List.append_nil]
    | resolved owner identity chargeId => exact absurd rfl (hcharge owner identity chargeId)
  have hnumber : t.sequence < charge.chargeId := by
    rw [hadds.next]
    exact Nat.lt_succ_self _
  constructor
  case sound => exact hsound
  case logged =>
    intro other
    rw [hlog, hadds.stored]
    split
    · obtain ⟨expired, hstored, hexpired⟩ := h.logged principalId
      exact ⟨expired, by rw [hstored, List.append_assoc], hexpired⟩
    · exact h.logged other
  case ordered =>
    intro other
    rw [hlog]
    split
    · refine List.pairwise_append.mpr ⟨h.ordered principalId, List.pairwise_singleton _ _, ?_⟩
      intro earlier hearlier last hlast
      rw [List.mem_singleton.mp hlast, htime]
      exact h.past principalId earlier hearlier
    · exact h.ordered other
  case past =>
    intro other later hlater
    rw [hlog] at hlater
    split at hlater
    · rcases List.mem_append.mp hlater with hold | hlast
      · exact h.past principalId later hold
      · rw [List.mem_singleton.mp hlast, htime]
    · exact h.past other later hlater
  case numbered =>
    intro other
    rw [hlog, hadds.sequence]
    split
    · obtain ⟨hnodup, hle⟩ := h.numbered principalId
      constructor
      · rw [List.map_append, List.nodup_append']
        refine ⟨hnodup, List.nodup_singleton _, ?_⟩
        rw [List.map_singleton, List.disjoint_singleton, List.mem_map]
        rintro ⟨earlier, hearlier, hsame⟩
        have hbound := hle earlier hearlier
        omega
      · intro later hlater
        rcases List.mem_append.mp hlater with hold | hlast
        · exact ((hle later hold).trans_lt hnumber).le
        · rw [List.mem_singleton.mp hlast]
    · exact ⟨(h.numbered other).1, fun later hlater =>
        (((h.numbered other).2 later hlater).trans_lt hnumber).le⟩
  case counted =>
    intro other
    rw [hlog]
    split
    · refine (h.counted principalId).snoc ?_
      rw [htime, hyoung, Log.total_one]
      exact hcount
    · exact h.counted other
  case weighed =>
    intro other
    rw [hlog]
    split
    · refine (h.weighed principalId).snoc ?_
      rw [htime, hyoung]
      exact hbytes
    · exact h.weighed other
  case retry =>
    intro other later hlater
    rw [hout] at hlater
    rw [hlog, hadds.exempt]
    by_cases hother : other = principalId
    · rw [if_pos hother] at hlater ⊢
      rcases List.mem_append.mp hlater with hold | hlast
      · obtain ⟨hmem, hexempt⟩ := h.retry principalId later hold
        refine ⟨List.mem_append_left _ hmem, fun hlate => ?_⟩
        -- the request of a young charge would have been answered as a retry
        have hstill := hexempt hlate
        rw [if_neg, hother, hstill]
        rintro ⟨-, hsame⟩
        rw [hsame, hnew] at hstill
        cases hstill
      · obtain rfl := List.mem_singleton.mp hlast
        exact ⟨List.mem_append_right _ hlast, fun _ => if_pos ⟨hother, rfl⟩⟩
    · rw [if_neg hother] at hlater ⊢
      rw [if_neg fun hboth => hother hboth.1]
      exact h.retry other later hlater

/-- A resolution ends no exemption but that of its own charge. -/
theorem Accounted.resolved (h : Accounted trace clock s) (owner : String)
    (identity : MutationIdentity) (chargeId : Nat) :
    Accounted (trace ++ [.resolved owner identity chargeId]) clock
      (s.resolve owner identity chargeId) := by
  have hlog : ∀ principalId,
      freshCharges principalId (trace ++ [.resolved owner identity chargeId]) =
        freshCharges principalId trace := by
    intro principalId
    rw [freshCharges_append, freshCharges_of_none rfl, List.append_nil]
  constructor
  case sound => exact h.sound.resolve owner identity chargeId
  all_goals
    intro principalId
    rw [hlog]
  case logged =>
    rw [stored_resolve]
    exact h.logged principalId
  case ordered => exact h.ordered principalId
  case past => exact h.past principalId
  case numbered =>
    rw [sequence_resolve]
    exact h.numbered principalId
  case counted => exact h.counted principalId
  case weighed => exact h.weighed principalId
  case retry =>
    intro charge hcharge
    rw [outstanding_snoc, outstandingAfter] at hcharge
    have hkept : charge ∈ outstanding principalId trace ∧
        (owner = principalId → ¬ (charge.identity = identity ∧ charge.chargeId = chargeId)) := by
      split at hcharge
      · rw [List.mem_filter] at hcharge
        exact ⟨hcharge.1, fun _ => by
          simpa only [Bool.not_eq_true', decide_eq_false_iff_not] using hcharge.2⟩
      · rename_i howner
        exact ⟨hcharge, fun hsame => absurd hsame howner⟩
    obtain ⟨hmem, hexempt⟩ := h.retry principalId charge hkept.1
    refine ⟨hmem, fun hyoung => ?_⟩
    have hstill := hexempt hyoung
    rw [exempt_resolve, if_neg, hstill]
    rintro ⟨hsame, hidentity, hcurrent⟩
    refine hkept.2 hsame.symm ⟨hidentity, ?_⟩
    rw [← hsame, ← hidentity, hstill] at hcurrent
    exact Option.some.inj hcurrent

/-- One timely call keeps the account. -/
theorem Accounted.step {next : Nat × MutationState} (h : Accounted trace clock s)
    (hstep : TimelyServes event (clock, s) next) :
    Accounted (trace ++ [event]) next.1 next.2 := by
  obtain ⟨hserves, htimely⟩ := hstep
  cases hserves with
  | @charge owner identity payloadBytes _ later _ hnow =>
      have hcharged := h.sound.charged htimely.1 htimely.2 identity payloadBytes
      have hown : mutationWindow ≤ later ∨ s.stored owner = [] := htimely.1.imp id And.left
      revert hcharged
      generalize s.charge owner identity payloadBytes later = answer
      intro hcharged
      cases hcharged with
      | retried hexempt =>
          have hpruned := h.sound.pruned_prunePrincipal hown
          refine (h.pruned hnow hpruned (h.sound.prunePrincipal owner later)).unchanged
            (if_neg ?_) (by rintro _ _ _ ⟨⟩)
          rw [hpruned.sequence]
          exact lt_irrefl _
      | crowded _ _ hpruned hsound _ =>
          exact (h.pruned hnow hpruned hsound).unchanged rfl (by rintro _ _ _ ⟨⟩)
      | exceeded hpruned hsound =>
          exact (h.pruned hnow hpruned hsound).unchanged rfl (by rintro _ _ _ ⟨⟩)
      | fresh hpruned htsound hstored hnew hadds hsound hcount hbytes =>
          refine (h.pruned hnow hpruned htsound).added (if_pos ?_) (by rintro _ _ _ ⟨⟩) rfl ?_ hnew
            hadds hsound hcount hbytes
          · rw [hadds.sequence]
            exact Nat.lt_succ_self _
          · rw [h.young hnow, hstored]
  | resolve owner identity chargeId => exact h.resolved owner identity chargeId

/-- The principals a state has a window for. -/
def trackedPrincipals (s : MutationState) : List String := s.windows.rows.map Prod.fst

theorem nodup_trackedPrincipals (s : MutationState) : (trackedPrincipals s).Nodup :=
  s.windows.nodup_rows

theorem length_trackedPrincipals (s : MutationState) :
    (trackedPrincipals s).length = s.windows.size := by
  rw [trackedPrincipals, List.length_map, Table.rows, List.length_map, Table.size]

theorem mem_trackedPrincipals {other : String} :
    other ∈ trackedPrincipals s ↔ ∃ window, s.windows.lookup other = some window := by
  rw [trackedPrincipals, List.mem_map]
  constructor
  · rintro ⟨⟨_, window⟩, hrow, rfl⟩
    exact ⟨window, Table.mem_rows.mp hrow⟩
  · rintro ⟨window, hlookup⟩
    exact ⟨(other, window), Table.mem_rows.mpr hlookup, rfl⟩

theorem sum_trackedPrincipals (hs : s.Sound) :
    ((trackedPrincipals s).map fun other => (s.stored other).length).sum =
      s.trackedMutations := by
  rw [hs.tracked, Table.total, trackedPrincipals, List.map_map]
  congr 1
  refine List.map_congr_left fun row hrow => ?_
  rw [Function.comp_apply, stored_of_lookup (Table.mem_rows.mp hrow)]

/-- A charge finds no place only while so many others are young. -/
theorem Accounted.crowded (h : Accounted trace clock s) (hnow : clock ≤ now)
    (htimely : s.Timely principalId now) (hsequence : s.sequence < wordMax)
    {identity : MutationIdentity} {payloadBytes : Nat}
    (hrefused : (s.charge principalId identity payloadBytes now).1 = .error capacityExceeded) :
    (∃ others : List String, others.Nodup ∧ principalId ∉ others ∧
      maxTrackedPrincipals ≤ others.length ∧ ∀ other ∈ others,
        Log.young MutationCharge.time mutationWindow now (freshCharges other trace) ≠ []) ∨
    ∃ principals : List String, principals.Nodup ∧
      maxTrackedMutations ≤ (principals.map fun other =>
        (Log.young MutationCharge.time mutationWindow now
          (freshCharges other trace)).length).sum := by
  have hcharged := h.sound.charged htimely hsequence identity payloadBytes
  revert hcharged hrefused
  generalize s.charge principalId identity payloadBytes now = answer
  intro hrefused hcharged
  cases hcharged with
  | retried => cases hrefused
  | fresh => cases hrefused
  | exceeded => exact absurd (Except.error.inj hrefused) (by decide)
  | @crowded t hcleared hstored hpruned hsound hfull =>
      have hyoung : ∀ other,
          Log.young MutationCharge.time mutationWindow now (freshCharges other trace) =
            t.stored other := by
        intro other
        rw [h.young hnow, hstored]
      rcases hfull with hslotless | hmutations
      · rw [slotless, Bool.and_eq_true, Option.isNone_iff_eq_none, decide_eq_true_eq] at hslotless
        refine Or.inl ⟨trackedPrincipals t, nodup_trackedPrincipals t, fun hmem => ?_, ?_,
          fun other hother => ?_⟩
        · obtain ⟨window, hwindow⟩ := mem_trackedPrincipals.mp hmem
          rw [hslotless.1] at hwindow
          cases hwindow
        · rw [length_trackedPrincipals]
          exact hslotless.2
        · obtain ⟨window, hwindow⟩ := mem_trackedPrincipals.mp hother
          obtain ⟨u, rfl⟩ := hcleared
          rw [hyoung, stored_of_lookup hwindow]
          exact stored_ne_nil_of_pruneAll hwindow
      · refine Or.inr ⟨trackedPrincipals t, nodup_trackedPrincipals t, ?_⟩
        simp only [hyoung]
        rw [sum_trackedPrincipals hsound]
        exact hmutations

end Steps

end AgentsAssemble.Server.Mutation
