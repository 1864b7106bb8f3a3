import AgentsAssemble.Persistence.Execution

/-!
# Interrupt effects

The durable effect that interrupts one exact turn: its preparation, the claims
and leases on it, the dispatch fence and the quarantine transitions.  Each
transition updates the effect row by its id and the execution row by its key.
-/

namespace AgentsAssemble.Persistence

open Foundation Domain Tx

/-! ## Preparing an interrupt -/

section Prepare

variable [UuidSource]

/-- `INSERT OR IGNORE`: a turn has one effect, and effect ids are unique. -/
def insertPreparedEffect (key : TurnKey) (effectId : String)
    (cause : ProviderTurnInterruptCause) (s : Store) : Store :=
  if s.effects.lookup key ≠ none ∨
      s.effects.rows.any (fun entry => entry.2.effectId == effectId) then
    s
  else
    { s with effects := s.effects.insert key { effectId, cause, phase := .prepared } }

/-- The phases an interrupt moves to `interrupt_pending`. -/
def ProviderTurnExecutionPhase.isInterruptible : ProviderTurnExecutionPhase → Bool
  | .assigned | .startDispatching | .running => true
  | _ => false

def prepareInterruptEffect (execution : ProviderTurnExecution)
    (cause : ProviderTurnInterruptCause) : RoomTx ProviderTurnInterruptEffect := do
  require (execution.phase.isBlocking = true) staleEffect
  let effectId ← drawUuid
  generationI64 execution.turnGeneration invalidEffect
  write (insertPreparedEffect execution.key effectId cause)
  let effect ← loadEffectIn execution.sessionId execution.turnGeneration
  require (effect.cause = cause) unresolvedEffect
  if execution.phase.isInterruptible then
    updateExecution execution.key
      (fun row => row.executionId == execution.executionId && row.turnId == execution.turnId &&
        row.phase == execution.phase && row.runtime == execution.runtime)
      (fun row => { row with phase := .interruptPending })
      staleEffect
  loadEffectIn execution.sessionId execution.turnGeneration

end Prepare

/-! ## Claims -/

structure ProviderTurnEffectClaim where
  effect : ProviderTurnInterruptEffect
  claimOwner : String
  deriving DecidableEq, Repr

def claimTtlMillis : Nat := 30000

def millisOf (now : Nat) : Nat := now / 1000000

/-- The snapshots agree on everything but the phase. -/
def requireExactEffect (expected current : ProviderTurnInterruptEffect) : RoomTx Unit :=
  require ({ expected with phase := current.phase } = current) staleEffect

section Claim

variable [UuidSource]

def validateClaimOwner (value : String) : RoomTx Unit :=
  require (UuidSource.isUuid value = true) invalidEffect

/-- The lease is free for this owner. -/
def EffectRow.isLeaseExpired (row : EffectRow) (nowMillis : Nat) : Bool :=
  row.claimExpiresAt.any fun expiresAt => decide (expiresAt < nowMillis)

/-- The owner still holds an unexpired lease. -/
def EffectRow.isHeldBy (row : EffectRow) (owner : String) (nowMillis : Nat) : Bool :=
  row.claimOwner == owner &&
    row.claimExpiresAt.any fun expiresAt => decide (nowMillis ≤ expiresAt)

/-- Claims a prepared interrupt without issuing provider I/O. -/
def claimProviderTurnInterrupt (expected : ProviderTurnInterruptEffect) (claimOwner : String)
    (now : Nat) : RoomTx ProviderTurnEffectClaim := do
  validateClaimOwner claimOwner
  let current ← loadEffectIn expected.sessionId expected.turnGeneration
  requireExactEffect expected current
  updateEffect current.effectId
    (fun row => row.phase == .prepared || (row.phase == .claimed &&
      (row.claimOwner == claimOwner || row.isLeaseExpired (millisOf now))))
    (fun row => { row with
      phase := .claimed
      claimOwner
      claimExpiresAt := some (millisOf now + claimTtlMillis) })
    unresolvedEffect
  let effect ← loadEffectIn current.sessionId current.turnGeneration
  pure { effect, claimOwner }

/-- The pairs a recovery may lease. -/
def recoverableInterruptPair :
    ProviderTurnEffectPhase → ProviderTurnExecutionPhase → Bool
  | .prepared, .interruptPending | .prepared, .startAmbiguous
  | .prepared, .recoveryRequired => true
  | .claimed, .interruptPending | .dispatching, .interruptPending => true
  | .issuedWaitingQuiescence, .quiescing => true
  | .interruptAmbiguous, .interruptAmbiguous => true
  | .recoveryRequired, .recoveryRequired => true
  | _, _ => false

/-- The execution carries the effect's custody and was not finalized. -/
def CarriesEffect (execution : ProviderTurnExecution) (effect : ProviderTurnInterruptEffect) :
    Prop :=
  execution.executionId = effect.executionId ∧ execution.runtime = effect.runtime ∧
    execution.requeueFinalized = false

instance (execution : ProviderTurnExecution) (effect : ProviderTurnInterruptEffect) :
    Decidable (CarriesEffect execution effect) :=
  inferInstanceAs (Decidable (_ ∧ _ ∧ _))

/-- Leases an unresolved interrupt before touching live provider control. -/
def claimProviderTurnInterruptRecovery (expected : ProviderTurnInterruptEffect)
    (claimOwner : String) (now : Nat) : RoomTx ProviderTurnEffectClaim := do
  validateClaimOwner claimOwner
  let current ← loadEffectIn expected.sessionId expected.turnGeneration
  requireExactEffect expected current
  let execution ← loadExecutionIn expected.sessionId expected.turnGeneration
  require (recoverableInterruptPair current.phase execution.phase = true ∧
      CarriesEffect execution current) staleEffect
  updateEffect current.effectId
    (fun row => row.phase == current.phase && row.dispatchNonce == current.dispatchNonce &&
      (row.claimOwner == "" || row.claimOwner == claimOwner ||
        row.claimExpiresAt == none || row.isLeaseExpired (millisOf now)))
    (fun row => { row with
      claimOwner
      claimExpiresAt := some (millisOf now + claimTtlMillis) })
    unresolvedEffect
  let effect ← loadEffectIn current.sessionId current.turnGeneration
  pure { effect, claimOwner }

/-- Releases a recovery lease after an attempt that stopped before provider I/O. -/
def releaseProviderInterruptRecoveryClaim (claim : ProviderTurnEffectClaim) : RoomTx Unit := do
  let current ← loadEffectIn claim.effect.sessionId claim.effect.turnGeneration
  requireExactEffect claim.effect current
  updateEffect current.effectId
    (fun row => row.phase == current.phase && row.dispatchNonce == current.dispatchNonce &&
      row.claimOwner == claim.claimOwner)
    (fun row => { row with claimOwner := "", claimExpiresAt := none })
    staleEffect

/-! ## Dispatch -/

/-- Fences the first byte of a provider interrupt. -/
def authorizeProviderInterruptDispatch (claim : ProviderTurnEffectClaim) (now : Nat) :
    RoomTx ProviderTurnInterruptEffect := do
  let dispatchNonce ← drawUuid
  updateEffect claim.effect.effectId
    (fun row => row.phase == .claimed && row.isHeldBy claim.claimOwner (millisOf now))
    (fun row => { row with phase := .dispatching, dispatchNonce })
    staleEffect
  loadEffectIn claim.effect.sessionId claim.effect.turnGeneration

end Claim

/-- The execution row that carries this effect, in the given phase. -/
def ExecutionRow.carries (row : ExecutionRow) (effect : ProviderTurnInterruptEffect)
    (phase : ProviderTurnExecutionPhase) : Bool :=
  row.executionId == effect.executionId && row.phase == phase && row.runtime == effect.runtime

/-- Starts waiting for quiescence, from a claim or from a dispatched effect. -/
def transitionToWaitingIn (expected : ProviderTurnInterruptEffect)
    (claimOwner : Option String) (now : Nat) : RoomTx ProviderTurnInterruptEffect := do
  updateEffect expected.effectId
    (fun row => match claimOwner with
      | some owner => row.phase == .claimed && row.isHeldBy owner (millisOf now)
      | none => row.phase == .dispatching && row.dispatchNonce == expected.dispatchNonce)
    (fun row => { row with phase := .issuedWaitingQuiescence })
    staleEffect
  generationI64 expected.turnGeneration invalidEffect
  updateExecution expected.key (fun row => row.carries expected .interruptPending)
    (fun row => { row with phase := .quiescing })
    staleEffect
  loadEffectIn expected.sessionId expected.turnGeneration

/-- Waits for a turn that was proved not to have started externally. -/
def markUnstartedInterruptWaiting (claim : ProviderTurnEffectClaim) (now : Nat) :
    RoomTx ProviderTurnInterruptEffect :=
  transitionToWaitingIn claim.effect (some claim.claimOwner) now

/-- Records a confirmed interrupt dispatch. -/
def markProviderInterruptIssued (dispatched : ProviderTurnInterruptEffect) (now : Nat) :
    RoomTx ProviderTurnInterruptEffect :=
  transitionToWaitingIn dispatched none now

/-- Quarantines an interrupt whose dispatch result is uncertain. -/
def markProviderInterruptAmbiguous (dispatched : ProviderTurnInterruptEffect) :
    RoomTx Unit := do
  updateEffect dispatched.effectId
    (fun row => row.phase == .dispatching && row.dispatchNonce == dispatched.dispatchNonce)
    (fun row => { row with phase := .interruptAmbiguous })
    staleEffect
  generationI64 dispatched.turnGeneration invalidEffect
  updateExecution dispatched.key (fun row => row.carries dispatched .interruptPending)
    (fun row => { row with phase := .interruptAmbiguous })
    staleEffect

/-! ## Recovery -/

/-- Hands an effect to recovery: a claim that was not issued, or a lost quiescence. -/
def transitionToRecoveryRequired (expected : ProviderTurnInterruptEffect)
    (releaseClaimOwner : Option String) : RoomTx Unit := do
  let current ← loadEffectIn expected.sessionId expected.turnGeneration
  requireExactEffect expected current
  let execution ← loadExecutionIn current.sessionId current.turnGeneration
  let pair : ProviderTurnEffectPhase × ProviderTurnExecutionPhase :=
    if releaseClaimOwner.isSome then (.claimed, .interruptPending)
    else (.issuedWaitingQuiescence, .quiescing)
  require (current.phase = pair.1 ∧ execution.phase = pair.2 ∧
      CarriesEffect execution current) staleEffect
  match releaseClaimOwner with
  | some owner =>
      updateEffect current.effectId
        (fun row => row.phase == .claimed && row.claimOwner == owner)
        (fun row => { row with
          phase := .recoveryRequired, claimOwner := "", claimExpiresAt := none })
        staleEffect
  | none =>
      updateEffect current.effectId (fun row => row.phase == .issuedWaitingQuiescence)
        (fun row => { row with phase := .recoveryRequired })
        staleEffect
  updateExecution execution.key
    (fun row => row.carries current execution.phase && !row.requeueFinalized)
    (fun row => { row with phase := .recoveryRequired })
    staleEffect

/-- Hands an unissued claim back to recovery without keeping its lease. -/
def handoffUnissuedProviderInterruptClaim (claim : ProviderTurnEffectClaim) : RoomTx Unit :=
  transitionToRecoveryRequired claim.effect (some claim.claimOwner)

/-- Quarantines an interrupt whose quiescence proof was lost after dispatch. -/
def markProviderInterruptRecoveryRequired (expected : ProviderTurnInterruptEffect) :
    RoomTx Unit :=
  transitionToRecoveryRequired expected none

/-- Rebinds an unresolved interrupt to an exact live turn control. -/
def authorizeProviderInterruptRecoveryWait (claim : ProviderTurnEffectClaim) (now : Nat) :
    RoomTx ProviderTurnInterruptEffect := do
  let current ← loadEffectIn claim.effect.sessionId claim.effect.turnGeneration
  requireExactEffect claim.effect current
  let execution ← loadExecutionIn claim.effect.sessionId claim.effect.turnGeneration
  require (recoverableInterruptPair current.phase execution.phase = true ∧
      CarriesEffect execution current) staleEffect
  updateEffect current.effectId
    (fun row => row.phase == current.phase && row.dispatchNonce == current.dispatchNonce &&
      row.isHeldBy claim.claimOwner (millisOf now))
    (fun row => { row with phase := .issuedWaitingQuiescence })
    staleEffect
  updateExecution execution.key
    (fun row => row.carries current execution.phase && !row.requeueFinalized)
    (fun row => { row with phase := .quiescing })
    staleEffect
  pure { current with phase := .issuedWaitingQuiescence }

end AgentsAssemble.Persistence
