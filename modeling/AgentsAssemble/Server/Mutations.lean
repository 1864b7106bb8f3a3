import AgentsAssemble.Foundation.Counters
import AgentsAssemble.Foundation.Totals

/-!
# The principal mutation budget

What a principal writes is charged to a window of one minute.  A charge that
has not been resolved is answered again without a new one.  Windows are pruned
from the front, at a cutoff that falls back to the present while the clock is
younger than the window.
-/

namespace AgentsAssemble.Server.Mutation

open Foundation

/-- One minute, in nanoseconds. -/
def mutationWindow : Nat := 60 * 1000000000

def maxMutationsPerWindow : Nat := 3600

def maxMutationBytesPerWindow : Nat := 8 * 1024 * 1024

def maxTrackedPrincipals : Nat := 512

def maxTrackedMutations : Nat := 32768

/-- A digest of the room, the request, the action and the payload. -/
structure MutationIdentity where
  digest : Vector UInt8 32
deriving DecidableEq

/-- A charge; `time` is the source's `at`. -/
structure MutationCharge where
  time : Nat
  bytes : Nat
  identity : MutationIdentity
  chargeId : Nat
deriving DecidableEq

structure PrincipalWindow where
  recent : List MutationCharge
  bytes : Nat
  retryable : Table MutationIdentity Nat

structure Refusal where
  code : String
  message : String
deriving DecidableEq, Repr

def budgetExceeded : Refusal where
  code := "write_budget_exceeded"
  message := "Authenticated principal write budget exceeded."

def capacityExceeded : Refusal where
  code := "write_budget_capacity_exceeded"
  message := "Authenticated write admission capacity is unavailable."

/-- `Instant::checked_sub`: there is no time before the origin of the clock. -/
def checkedSub (now duration : Nat) : Option Nat :=
  if duration ≤ now then some (now - duration) else none

namespace PrincipalWindow

def new : PrincipalWindow := ⟨[], 0, ∅⟩

/-- Charges leave from the front; the retry exemption of one goes with it. -/
def popUntil (cutoff : Nat) : List MutationCharge → Nat → Table MutationIdentity Nat →
    PrincipalWindow
  | [], bytes, retryable => ⟨[], bytes, retryable⟩
  | expired :: recent, bytes, retryable =>
      if expired.time ≤ cutoff then
        popUntil cutoff recent (bytes - expired.bytes)
          (if retryable.lookup expired.identity = some expired.chargeId then
            retryable.erase expired.identity
          else retryable)
      else ⟨expired :: recent, bytes, retryable⟩

/-- The window without its expired charges. -/
def pruned (window : PrincipalWindow) (now : Nat) : PrincipalWindow :=
  let cutoff := (checkedSub now mutationWindow).getD now
  popUntil cutoff window.recent window.bytes window.retryable

/-- How many charges `prune` removes. -/
def prune (window : PrincipalWindow) (now : Nat) : Nat :=
  window.recent.length - (window.pruned now).recent.length

def charge (window : PrincipalWindow) (now : Nat) (identity : MutationIdentity)
    (payloadBytes chargeId : Nat) : Except Refusal Unit × PrincipalWindow :=
  let nextBytes := saturatingAdd window.bytes payloadBytes
  if maxMutationsPerWindow < saturatingAdd window.recent.length 1 ∨
      maxMutationBytesPerWindow < nextBytes then
    (.error budgetExceeded, window)
  else
    (.ok (),
      { bytes := nextBytes
        retryable := window.retryable.insert identity chargeId
        recent := window.recent ++ [⟨now, payloadBytes, identity, chargeId⟩] })

end PrincipalWindow

structure MutationState where
  sequence : Nat
  windows : Table String PrincipalWindow
  trackedMutations : Nat

namespace MutationState

def default : MutationState := ⟨0, ∅, 0⟩

def prunePrincipal (state : MutationState) (principalId : String) (now : Nat) : MutationState :=
  match state.windows.lookup principalId with
  | none => state
  | some window =>
      { state with
        windows := state.windows.insert principalId (window.pruned now)
        trackedMutations := state.trackedMutations - window.prune now }

def pruneAll (state : MutationState) (now : Nat) : MutationState :=
  let removed := state.windows.total fun _ window => window.prune now
  { state with
    windows := (state.windows.update (fun _ _ => true) fun window => window.pruned now).retain
      fun _ window => !window.recent.isEmpty
    trackedMutations := state.trackedMutations - removed }

/-- A principal that is not tracked while there is no slot for it. -/
def slotless (state : MutationState) (principalId : String) : Bool :=
  (state.windows.lookup principalId).isNone && maxTrackedPrincipals ≤ state.windows.size

/-- A charge that is no retry, once every window has been pruned that had to be. -/
def chargeTracked (state : MutationState) (principalId : String) (identity : MutationIdentity)
    (payloadBytes now : Nat) : Except Refusal Nat × MutationState :=
  if state.slotless principalId then (.error capacityExceeded, state)
  else if maxTrackedMutations ≤ state.trackedMutations then (.error capacityExceeded, state)
  else
    match checkedAdd state.sequence 1 with
    | none => (.error capacityExceeded, state)
    | some chargeId =>
        let window := (state.windows.lookup principalId).getD .new
        let charged := window.charge now identity payloadBytes chargeId
        let windows := state.windows.insert principalId charged.2
        match charged.1 with
        | .error refusal => (.error refusal, { state with windows })
        | .ok () =>
            (.ok chargeId,
              { sequence := chargeId, windows, trackedMutations := state.trackedMutations + 1 })

/-- The state in which a charge that is no retry is looked at. -/
def makeRoom (state : MutationState) (principalId : String) (now : Nat) : MutationState :=
  if state.slotless principalId || maxTrackedMutations ≤ state.trackedMutations then
    state.pruneAll now
  else state

def charge (state : MutationState) (principalId : String) (identity : MutationIdentity)
    (payloadBytes now : Nat) : Except Refusal Nat × MutationState :=
  let state := state.prunePrincipal principalId now
  match (state.windows.lookup principalId).bind fun window => window.retryable.lookup identity with
  | some chargeId => (.ok chargeId, state)
  | none => (state.makeRoom principalId now).chargeTracked principalId identity payloadBytes now

def resolve (state : MutationState) (principalId : String) (identity : MutationIdentity)
    (chargeId : Nat) : MutationState :=
  match state.windows.lookup principalId with
  | none => state
  | some window =>
      if window.retryable.lookup identity = some chargeId then
        { state with
          windows := state.windows.insert principalId
            { window with retryable := window.retryable.erase identity } }
      else state

end MutationState

/-! ## One window -/

namespace PrincipalWindow

/-- The total is that of the charges, and an exemption is that of a stored charge. -/
structure Sound (window : PrincipalWindow) : Prop where
  bytes : window.bytes = Log.total MutationCharge.bytes window.recent
  exempt : ∀ identity chargeId, window.retryable.lookup identity = some chargeId →
    ∃ charge ∈ window.recent, charge.identity = identity ∧ charge.chargeId = chargeId
  numbered : (window.recent.map MutationCharge.chargeId).Nodup

theorem sound_new : Sound new where
  bytes := rfl
  exempt := by rintro _ _ ⟨⟩
  numbered := List.nodup_nil

variable {window : PrincipalWindow}

theorem popUntil_recent (cutoff : Nat) (recent : List MutationCharge) (bytes : Nat)
    (retryable : Table MutationIdentity Nat) :
    (popUntil cutoff recent bytes retryable).recent =
      recent.dropWhile fun charge => charge.time ≤ cutoff := by
  induction recent generalizing bytes retryable with
  | nil => rfl
  | cons charge recent ih =>
      rw [popUntil]
      by_cases hold : charge.time ≤ cutoff
      · rw [if_pos hold, List.dropWhile_cons_of_pos (by simpa using hold)]
        exact ih _ _
      · rw [if_neg hold, List.dropWhile_cons_of_neg (by simpa using hold)]

/-- The window after its first charge expired. -/
theorem Sound.popFirst {charge : MutationCharge} {recent : List MutationCharge} {bytes : Nat}
    {retryable : Table MutationIdentity Nat} (h : Sound ⟨charge :: recent, bytes, retryable⟩) :
    Sound ⟨recent, bytes - charge.bytes,
      if retryable.lookup charge.identity = some charge.chargeId then
        retryable.erase charge.identity
      else retryable⟩ := by
  constructor
  case bytes =>
    have hbytes : bytes = Log.total MutationCharge.bytes (charge :: recent) := h.bytes
    rw [Log.total_cons] at hbytes
    show bytes - charge.bytes = Log.total MutationCharge.bytes recent
    omega
  case exempt =>
    intro identity chargeId hlookup
    dsimp only at hlookup
    split at hlookup
    · rw [Table.lookup_erase_ite] at hlookup
      split at hlookup
      · cases hlookup
      · rename_i hne
        obtain ⟨found, hfound, rfl, rfl⟩ := h.exempt identity chargeId hlookup
        rcases List.mem_cons.mp hfound with rfl | hfound
        · exact absurd rfl hne
        · exact ⟨found, hfound, rfl, rfl⟩
    · rename_i hkept
      obtain ⟨found, hfound, rfl, rfl⟩ := h.exempt identity chargeId hlookup
      rcases List.mem_cons.mp hfound with rfl | hfound
      · exact absurd hlookup hkept
      · exact ⟨found, hfound, rfl, rfl⟩
  case numbered => exact (List.nodup_cons.mp h.numbered).2

/-- Expiry keeps a window sound and takes the exemptions of the expired charges alone. -/
theorem Sound.popUntil {recent : List MutationCharge} {bytes : Nat}
    {retryable : Table MutationIdentity Nat} (h : Sound ⟨recent, bytes, retryable⟩)
    (cutoff : Nat) :
    Sound (popUntil cutoff recent bytes retryable) ∧
      ∀ identity chargeId,
        (popUntil cutoff recent bytes retryable).retryable.lookup identity = some chargeId ↔
          retryable.lookup identity = some chargeId ∧
            ∃ charge ∈ (popUntil cutoff recent bytes retryable).recent,
              charge.identity = identity ∧ charge.chargeId = chargeId := by
  induction recent generalizing bytes retryable with
  | nil => exact ⟨h, fun identity chargeId => ⟨fun hl => ⟨hl, h.exempt _ _ hl⟩, And.left⟩⟩
  | cons charge recent ih =>
      rw [PrincipalWindow.popUntil]
      by_cases hold : charge.time ≤ cutoff
      · rw [if_pos hold]
        obtain ⟨hsound, hlookup⟩ := ih h.popFirst
        refine ⟨hsound, fun identity chargeId => (hlookup identity chargeId).trans ?_⟩
        refine and_congr_left fun ⟨kept, hkept, hidentity, hid⟩ => ?_
        split
        · rename_i hexempt
          rw [Table.lookup_erase_ite]
          split
          · -- the kept charge has a number of its own, so the exemption was not its
            rename_i hsame
            refine ⟨by rintro ⟨⟩, fun hlater => ?_⟩
            rw [hsame, hexempt] at hlater
            rw [popUntil_recent] at hkept
            have hmem := (List.dropWhile_suffix _).subset hkept
            refine absurd ?_ (List.nodup_cons.mp h.numbered).1
            rw [Option.some.inj hlater, ← hid]
            exact List.mem_map_of_mem hmem
          · exact Iff.rfl
        · exact Iff.rfl
      · rw [if_neg hold]
        exact ⟨h, fun identity chargeId => ⟨fun hl => ⟨hl, h.exempt _ _ hl⟩, And.left⟩⟩

theorem Sound.pruned (h : Sound window) (now : Nat) : Sound (window.pruned now) :=
  (Sound.popUntil h _).1

theorem Sound.lookup_pruned (h : Sound window) (now : Nat) (identity : MutationIdentity)
    (chargeId : Nat) :
    (window.pruned now).retryable.lookup identity = some chargeId ↔
      window.retryable.lookup identity = some chargeId ∧
        ∃ charge ∈ (window.pruned now).recent,
          charge.identity = identity ∧ charge.chargeId = chargeId :=
  (Sound.popUntil h _).2 identity chargeId

theorem pruned_suffix (window : PrincipalWindow) (now : Nat) :
    (window.pruned now).recent <:+ window.recent := by
  rw [pruned, popUntil_recent]
  exact List.dropWhile_suffix _

/-- Once the clock is as old as the window, exactly the charges of a minute ago expire. -/
theorem pruned_recent {now : Nat} (h : mutationWindow ≤ now ∨ window.recent = []) :
    (window.pruned now).recent =
      Log.expire MutationCharge.time mutationWindow now window.recent := by
  rw [pruned, popUntil_recent]
  rcases h with hlate | hempty
  · have hcutoff : (fun charge : MutationCharge =>
        decide (charge.time ≤ (checkedSub now mutationWindow).getD now)) =
          fun charge => decide (charge.time + mutationWindow ≤ now) := by
      funext charge
      rw [checkedSub, if_pos hlate, Option.getD_some, decide_eq_decide]
      omega
    rw [hcutoff, Log.expire]
  · rw [hempty, Log.expire, List.dropWhile_nil, List.dropWhile_nil]

theorem prune_add (window : PrincipalWindow) (now : Nat) :
    (window.pruned now).recent.length + window.prune now = window.recent.length := by
  have hle := (window.pruned_suffix now).length_le
  rw [prune]
  omega

/-- A charge fits the window and is stored, or it is refused and changes nothing. -/
theorem charge_cases (window : PrincipalWindow) (now : Nat) (identity : MutationIdentity)
    (payloadBytes chargeId : Nat) :
    window.charge now identity payloadBytes chargeId = (.error budgetExceeded, window) ∨
      window.charge now identity payloadBytes chargeId =
          (.ok (), ⟨window.recent ++ [⟨now, payloadBytes, identity, chargeId⟩],
            window.bytes + payloadBytes, window.retryable.insert identity chargeId⟩) ∧
        window.recent.length + 1 ≤ maxMutationsPerWindow ∧
        window.bytes + payloadBytes ≤ maxMutationBytesPerWindow := by
  by_cases hfits : maxMutationsPerWindow < saturatingAdd window.recent.length 1 ∨
      maxMutationBytesPerWindow < saturatingAdd window.bytes payloadBytes
  · exact Or.inl (if_pos hfits)
  · rw [charge, if_neg hfits]
    rw [not_or, Nat.not_lt, Nat.not_lt, saturatingAdd_le (by decide),
      saturatingAdd_le (by decide)] at hfits
    obtain ⟨hcount, hbytes⟩ := hfits
    refine Or.inr ⟨?_, hcount, hbytes⟩
    rw [saturatingAdd_eq (hbytes.trans (by decide))]

theorem Sound.charged (h : Sound window) {now payloadBytes chargeId : Nat}
    {identity : MutationIdentity}
    (hnew : ∀ charge ∈ window.recent, charge.chargeId ≠ chargeId) :
    Sound ⟨window.recent ++ [⟨now, payloadBytes, identity, chargeId⟩],
      window.bytes + payloadBytes, window.retryable.insert identity chargeId⟩ := by
  constructor
  case bytes =>
    rw [Log.total_append, ← h.bytes]
    rfl
  case exempt =>
    intro identity' chargeId' hlookup
    rcases (Table.sets_insert window.retryable identity chargeId).cases hlookup with
      ⟨rfl, hid⟩ | ⟨-, hold⟩
    · obtain rfl := Option.some.inj hid
      exact ⟨_, List.mem_append_right _ (List.mem_singleton_self _), rfl, rfl⟩
    · obtain ⟨found, hfound, hsame⟩ := h.exempt identity' chargeId' hold
      exact ⟨found, List.mem_append_left _ hfound, hsame⟩
  case numbered =>
    rw [List.map_append, List.nodup_append']
    refine ⟨h.numbered, List.nodup_singleton _, ?_⟩
    rw [List.map_singleton, List.disjoint_singleton]
    rw [List.mem_map]
    rintro ⟨charge, hcharge, hsame⟩
    exact hnew charge hcharge hsame

end PrincipalWindow

end AgentsAssemble.Server.Mutation
