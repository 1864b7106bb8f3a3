import AgentsAssemble.Domain.Cleaning
import AgentsAssemble.Foundation.Errors
import AgentsAssemble.Provider.OpenAiStream

/-!
# Where the network cuts a completion

The pieces of a streamed completion are read as whole texts: what a stream says
as a whole, whichever chunk a piece came in.  A stream is completed exactly if
the whole texts make a completion and every tool name was valid each time a
piece of it had arrived, so the cuts matter for tool names alone.
-/

namespace AgentsAssemble.Provider

open Domain Foundation
open Foundation.Merging
open Result (bind_eq_ok pure_eq_ok throw_eq_ok)

/-! ## The only error -/

abbrev IsInvalid (e : OpenAiStreamError) : Prop :=
  e = .invalidResponse

theorem mergeIdentifier_invalid (target : String) (value : Option String) :
    Result.FailsWithin IsInvalid (mergeIdentifier target value) := by
  unfold mergeIdentifier
  split
  · exact Result.failsWithin_ok _
  · exact Result.failsWithin_ite (Result.failsWithin_error rfl) (Result.failsWithin_ok _)

theorem appendOptionalText_invalid (value : Option Json) (target : String) :
    Result.FailsWithin IsInvalid (appendOptionalText value target) := by
  unfold appendOptionalText
  split
  · exact Result.failsWithin_ok _
  · exact Result.failsWithin_ok _
  · exact Result.failsWithin_ok _
  · exact Result.failsWithin_error rfl

theorem replaceUsage_invalid (prior usage : Option OpenAiUsage) :
    Result.FailsWithin IsInvalid (replaceUsage prior usage) := by
  unfold replaceUsage
  split
  · exact Result.failsWithin_ok _
  · exact Result.failsWithin_ite (Result.failsWithin_error rfl) (Result.failsWithin_ok _)

theorem mergeFinishReason_invalid (finishReason : String) (reason : Option String) :
    Result.FailsWithin IsInvalid (mergeFinishReason finishReason reason) := by
  unfold mergeFinishReason
  split
  · exact Result.failsWithin_ok _
  · exact Result.failsWithin_ite (Result.failsWithin_error rfl) (Result.failsWithin_ok _)

theorem reasoningValue_invalid (delta : List (String × Json)) :
    Result.FailsWithin IsInvalid (reasoningValue delta) := by
  unfold reasoningValue
  split
  · exact Result.failsWithin_ok _
  · exact Result.failsWithin_ok _
  · exact Result.failsWithin_error rfl

theorem appendPiece_invalid (p : String → Bool) (text : String) (piece : Option String) :
    Result.FailsWithin IsInvalid (appendPiece p text piece) := by
  unfold appendPiece appendChecked
  split
  · exact Result.failsWithin_ok _
  · exact Result.failsWithin_ite (Result.failsWithin_ok _) (Result.failsWithin_error rfl)

theorem orInvalid_invalid {α : Type} (value : Option α) :
    Result.FailsWithin IsInvalid (orInvalid value) := by
  cases value with
  | none => exact Result.failsWithin_error rfl
  | some a => exact Result.failsWithin_ok a

theorem foldlM_invalid {σ α : Type} {f : σ → α → Except OpenAiStreamError σ}
    (hf : ∀ s a, Result.FailsWithin IsInvalid (f s a)) (as : List α) (s : σ) :
    Result.FailsWithin IsInvalid (as.foldlM f s) := by
  induction as generalizing s with
  | nil => exact Result.failsWithin_pure s
  | cons a as ih =>
      rw [List.foldlM_cons]
      exact Result.failsWithin_bind (hf s a) fun mid _ => ih mid

theorem pushToolDelta_invalid (tools : Table Nat ToolCallAccumulator) (delta : ToolCallDelta) :
    Result.FailsWithin IsInvalid (pushToolDelta tools delta) := by
  unfold pushToolDelta ToolCallAccumulator.push
  refine Result.failsWithin_ite (Result.failsWithin_error rfl)
    (Result.failsWithin_ite (Result.failsWithin_error rfl) ?_)
  refine Result.failsWithin_bind ?_ fun _ _ => Result.failsWithin_pure _
  refine Result.failsWithin_bind (mergeIdentifier_invalid _ _) fun _ _ => ?_
  refine Result.failsWithin_bind (appendPiece_invalid _ _ _) fun _ _ => ?_
  exact Result.failsWithin_bind (appendPiece_invalid _ _ _) fun _ _ => Result.failsWithin_pure _

theorem pushToolCalls_invalid (tools : Table Nat ToolCallAccumulator) (value : Option Json) :
    Result.FailsWithin IsInvalid (pushToolCalls tools value) := by
  cases value with
  | none => exact Result.failsWithin_ok _
  | some value =>
      exact Result.failsWithin_bind (orInvalid_invalid _) fun _ _ =>
        foldlM_invalid pushToolDelta_invalid _ _

theorem pushChoice_invalid (s : CompletionAccumulator) (choice : StreamChoice) :
    Result.FailsWithin IsInvalid (s.pushChoice choice) := by
  unfold CompletionAccumulator.pushChoice
  refine Result.failsWithin_ite (Result.failsWithin_error rfl) ?_
  refine Result.failsWithin_bind (mergeFinishReason_invalid _ _) fun _ _ => ?_
  refine Result.failsWithin_bind (orInvalid_invalid _) fun _ _ => ?_
  refine Result.failsWithin_check rfl ?_
  refine Result.failsWithin_bind (appendOptionalText_invalid _ _) fun _ _ => ?_
  refine Result.failsWithin_bind (reasoningValue_invalid _) fun _ _ => ?_
  refine Result.failsWithin_bind (appendOptionalText_invalid _ _) fun _ _ => ?_
  exact Result.failsWithin_bind (pushToolCalls_invalid _ _) fun _ _ => Result.failsWithin_pure _

theorem push_invalid (s : CompletionAccumulator) (chunk : StreamChunk) :
    Result.FailsWithin IsInvalid (s.push chunk) := by
  unfold CompletionAccumulator.push
  refine Result.failsWithin_bind (mergeIdentifier_invalid _ _) fun _ _ => ?_
  refine Result.failsWithin_bind (mergeIdentifier_invalid _ _) fun _ _ => ?_
  refine Result.failsWithin_bind (replaceUsage_invalid _ _) fun _ _ => ?_
  split
  · exact Result.failsWithin_pure _
  · exact pushChoice_invalid _ _
  · exact Result.failsWithin_throw rfl

theorem collectCalls_invalid (expected : Nat) (seen : List String)
    (entries : List (Nat × ToolCallAccumulator)) :
    Result.FailsWithin IsInvalid (collectCalls expected seen entries) := by
  induction entries generalizing expected seen with
  | nil => exact Result.failsWithin_ok _
  | cons entry entries ih =>
      unfold collectCalls
      refine Result.failsWithin_ite (Result.failsWithin_error rfl) ?_
      exact Result.failsWithin_bind (ih _ _) fun _ _ => Result.failsWithin_pure _

/-- A stream that is not completed is an invalid response. -/
theorem completeStream_invalid (chunks : List StreamChunk) :
    Result.FailsWithin IsInvalid (completeStream chunks) := by
  refine Result.failsWithin_bind (foldlM_invalid push_invalid _ _) fun s _ => ?_
  unfold CompletionAccumulator.finish
  refine Result.failsWithin_ite (Result.failsWithin_error rfl) ?_
  exact Result.failsWithin_bind (collectCalls_invalid _ _ _) fun _ _ => Result.failsWithin_pure _

/-! ## What a chunk carries -/

structure ChunkDelta where
  finishReason : Option String
  content : String
  reasoning : String
  calls : List ToolCallDelta

/-- The text under a member that may be missing or `null`. -/
def optionalText : Option Json → Option String
  | none => some ""
  | some .null => some ""
  | some (.string value) => some value
  | some _ => none

def optionalCalls : Option Json → Option (List ToolCallDelta)
  | none => some []
  | some value => toolCallDeltas value

def choiceDelta (choice : StreamChoice) : Option ChunkDelta := do
  let delta ← choice.delta.asObject
  let content ← optionalText (Json.get delta "content")
  let value ← (reasoningValue delta).toOption
  let reasoning ← optionalText value
  let calls ← optionalCalls (Json.get delta "tool_calls")
  if choice.index = 0 ∧ (Json.get delta "role").all (·.asStr = some "assistant") then
    return ⟨choice.finishReason, content, reasoning, calls⟩
  else
    none

/-- The pieces of a chunk, if it has the form of one. -/
def chunkDelta (chunk : StreamChunk) : Option ChunkDelta :=
  match chunk.choices with
  | [] => some ⟨none, "", "", []⟩
  | [choice] => choiceDelta choice
  | _ => none

theorem appendOptionalText_eq_ok {value : Option Json} {target text : String} :
    appendOptionalText value target = .ok text ↔
      ∃ piece, optionalText value = some piece ∧ text = target ++ piece := by
  unfold appendOptionalText optionalText
  split <;> simp [eq_comm]

theorem orInvalid_eq_ok {α : Type} {value : Option α} {a : α} :
    orInvalid value = .ok a ↔ value = some a := by
  cases value <;> simp [orInvalid]

theorem pushToolCalls_eq_ok {tools tools' : Table Nat ToolCallAccumulator} {value : Option Json} :
    pushToolCalls tools value = .ok tools' ↔
      ∃ calls, optionalCalls value = some calls ∧ calls.foldlM pushToolDelta tools = .ok tools' := by
  cases value with
  | none => simp [pushToolCalls, optionalCalls]
  | some value => simp [pushToolCalls, optionalCalls, bind_eq_ok, orInvalid_eq_ok]

/-- What a chunk does to the accumulator, one field at a time. -/
structure Advances (s : CompletionAccumulator) (chunk : StreamChunk) (delta : ChunkDelta)
    (s' : CompletionAccumulator) : Prop where
  id : mergeIdentifier s.id chunk.id = .ok s'.id
  model : mergeIdentifier s.model chunk.model = .ok s'.model
  usage : replaceUsage s.usage chunk.usage = .ok s'.usage
  finishReason : mergeFinishReason s.finishReason delta.finishReason = .ok s'.finishReason
  content : s'.content = s.content ++ delta.content
  reasoning : s'.reasoning = s.reasoning ++ delta.reasoning
  tools : delta.calls.foldlM pushToolDelta s.tools = .ok s'.tools

theorem toOption_eq_some {α ε : Type} {x : Except ε α} {a : α} :
    x.toOption = some a ↔ x = .ok a := by
  cases x <;> simp [Except.toOption]

theorem choiceDelta_eq_some {choice : StreamChoice} {d : ChunkDelta} :
    choiceDelta choice = some d ↔
      choice.index = 0 ∧ ∃ delta, choice.delta.asObject = some delta ∧
        (Json.get delta "role").any (·.asStr ≠ some "assistant") = false ∧
        optionalText (Json.get delta "content") = some d.content ∧
        (∃ value, reasoningValue delta = .ok value ∧ optionalText value = some d.reasoning) ∧
        optionalCalls (Json.get delta "tool_calls") = some d.calls ∧
        choice.finishReason = d.finishReason := by
  have hrole : ∀ role : Option Json, role.any (·.asStr ≠ some "assistant") = false ↔
      role.all (·.asStr = some "assistant") = true := by
    intro role
    cases role <;> simp
  simp only [choiceDelta, Option.bind_eq_bind, Option.bind_eq_some_iff, toOption_eq_some, hrole]
  constructor
  · rintro ⟨delta, hdelta, content, hcontent, value, hvalue, reasoning, hreasoning, calls, hcalls, h⟩
    split at h
    · next hshape =>
        obtain rfl := Option.some.inj h
        exact ⟨hshape.1, delta, hdelta, hshape.2, hcontent, ⟨value, hvalue, hreasoning⟩, hcalls, rfl⟩
    · cases h
  · rintro ⟨hindex, delta, hdelta, hassistant, hcontent, ⟨value, hvalue, hreasoning⟩, hcalls, hreason⟩
    refine ⟨delta, hdelta, _, hcontent, value, hvalue, _, hreasoning, _, hcalls, ?_⟩
    rw [if_pos ⟨hindex, hassistant⟩, hreason]
    rfl

theorem pushChoice_eq_ok {s s' : CompletionAccumulator} {choice : StreamChoice} :
    s.pushChoice choice = .ok s' ↔
      ∃ d, choiceDelta choice = some d ∧
        mergeFinishReason s.finishReason d.finishReason = .ok s'.finishReason ∧
        s'.content = s.content ++ d.content ∧ s'.reasoning = s.reasoning ++ d.reasoning ∧
        d.calls.foldlM pushToolDelta s.tools = .ok s'.tools ∧
        s'.id = s.id ∧ s'.model = s.model ∧ s'.usage = s.usage := by
  unfold CompletionAccumulator.pushChoice
  simp only [choiceDelta_eq_some]
  by_cases hindex : choice.index = 0
  · rw [if_neg (not_not.mpr hindex)]
    simp only [bind_eq_ok, Result.check_eq_ok, orInvalid_eq_ok, appendOptionalText_eq_ok,
      pushToolCalls_eq_ok, pure_eq_ok, Bool.not_eq_true]
    constructor
    · rintro ⟨reason, hreason, delta, hdelta, hrole, _, ⟨content, hcontent, rfl⟩, value, hvalue, _,
        ⟨reasoning, hreasoning, rfl⟩, tools, ⟨calls, hcalls, hfold⟩, rfl⟩
      exact ⟨⟨choice.finishReason, content, reasoning, calls⟩, ⟨hindex, delta, hdelta, hrole,
        hcontent, ⟨value, hvalue, hreasoning⟩, hcalls, rfl⟩, hreason, rfl, rfl, hfold, rfl, rfl, rfl⟩
    · rintro ⟨d, ⟨-, delta, hdelta, hrole, hcontent, ⟨value, hvalue, hreasoning⟩, hcalls, hsame⟩,
        hreason, htext, hthought, hfold, hid, hmodel, husage⟩
      refine ⟨s'.finishReason, hsame ▸ hreason, delta, hdelta, hrole, _, ⟨_, hcontent, rfl⟩, value,
        hvalue, _, ⟨_, hreasoning, rfl⟩, s'.tools, ⟨_, hcalls, hfold⟩, ?_⟩
      rw [← htext, ← hthought, ← hid, ← hmodel, ← husage]
  · rw [if_pos hindex]
    constructor
    · rintro ⟨⟩
    · rintro ⟨d, ⟨hzero, -⟩, -⟩
      exact absurd hzero hindex

/-- A push succeeds if the chunk has its form and every field takes its piece. -/
theorem push_eq_ok {s s' : CompletionAccumulator} {chunk : StreamChunk} :
    s.push chunk = .ok s' ↔ ∃ d, chunkDelta chunk = some d ∧ Advances s chunk d s' := by
  unfold CompletionAccumulator.push chunkDelta
  simp only [bind_eq_ok]
  rcases hchoices : chunk.choices with _ | ⟨choice, _ | ⟨second, rest⟩⟩
  · simp only [pure_eq_ok, Option.some.injEq]
    constructor
    · rintro ⟨id, hid, model, hmodel, usage, husage, rfl⟩
      exact ⟨_, rfl, hid, hmodel, husage, rfl, by simp, by simp, rfl⟩
    · rintro ⟨_, rfl, hid, hmodel, husage, hreason, hcontent, hreasoning, htools⟩
      refine ⟨_, hid, _, hmodel, _, husage, ?_⟩
      cases s'
      simp only [mergeFinishReason, Except.ok.injEq, String.append_empty,
        foldlM_nil_eq_ok] at hreason hcontent hreasoning htools
      subst hreason hcontent hreasoning htools
      rfl
  · simp only [pushChoice_eq_ok]
    constructor
    · rintro ⟨id, hid, model, hmodel, usage, husage, d, hd, hreason, hcontent, hreasoning, htools,
        rfl, rfl, rfl⟩
      exact ⟨d, hd, hid, hmodel, husage, hreason, hcontent, hreasoning, htools⟩
    · rintro ⟨d, hd, hid, hmodel, husage, hreason, hcontent, hreasoning, htools⟩
      exact ⟨_, hid, _, hmodel, _, husage, d, hd, hreason, hcontent, hreasoning, htools, rfl, rfl,
        rfl⟩
  · constructor
    · rintro ⟨_, -, _, -, _, -, h⟩
      cases h
    · rintro ⟨_, h, -⟩
      cases h

/-! ## What a stream says -/

/-- The pieces of a chunk; a chunk without the form of one carries none. -/
def deltaOf (chunk : StreamChunk) : ChunkDelta :=
  (chunkDelta chunk).getD ⟨none, "", "", []⟩

def contentText (chunks : List StreamChunk) : String :=
  String.join (chunks.map fun chunk => (deltaOf chunk).content)

def reasoningText (chunks : List StreamChunk) : String :=
  String.join (chunks.map fun chunk => (deltaOf chunk).reasoning)

def finishReasons (chunks : List StreamChunk) : List String :=
  chunks.filterMap fun chunk => (deltaOf chunk).finishReason

def streamCalls (chunks : List StreamChunk) : List ToolCallDelta :=
  chunks.flatMap fun chunk => (deltaOf chunk).calls

/-- The pieces of the call under an index, from whichever chunks they came. -/
def callsAt (index : Nat) (chunks : List StreamChunk) : List ToolCallDelta :=
  (streamCalls chunks).filter (·.index = index)

def nonEmpty (value : Option String) : Option String :=
  value.filter (· ≠ "")

def toolIds (index : Nat) (chunks : List StreamChunk) : List String :=
  (callsAt index chunks).filterMap fun delta => nonEmpty delta.id

def toolKinds (chunks : List StreamChunk) : List String :=
  (streamCalls chunks).filterMap fun delta => nonEmpty delta.kind

def namePieces (index : Nat) (chunks : List StreamChunk) : List String :=
  (callsAt index chunks).filterMap ToolCallDelta.name

def argumentPieces (index : Nat) (chunks : List StreamChunk) : List String :=
  (callsAt index chunks).filterMap ToolCallDelta.arguments

/-- What a run over the chunks does to the accumulator, one field at a time. -/
structure RunsTo (s : CompletionAccumulator) (chunks : List StreamChunk)
    (s' : CompletionAccumulator) : Prop where
  forms : ∀ chunk ∈ chunks, (chunkDelta chunk).isSome
  id : (chunks.map StreamChunk.id).foldlM mergeIdentifier s.id = .ok s'.id
  model : (chunks.map StreamChunk.model).foldlM mergeIdentifier s.model = .ok s'.model
  usage : (chunks.map StreamChunk.usage).foldlM replaceUsage s.usage = .ok s'.usage
  finishReason : (chunks.map fun chunk => (deltaOf chunk).finishReason).foldlM mergeFinishReason
    s.finishReason = .ok s'.finishReason
  content : s'.content = s.content ++ contentText chunks
  reasoning : s'.reasoning = s.reasoning ++ reasoningText chunks
  tools : (streamCalls chunks).foldlM pushToolDelta s.tools = .ok s'.tools

theorem foldlM_append_eq_ok {σ α ε : Type} {f : σ → α → Except ε σ} {as bs : List α} {s s' : σ} :
    (as ++ bs).foldlM f s = .ok s' ↔ ∃ mid, as.foldlM f s = .ok mid ∧ bs.foldlM f mid = .ok s' := by
  rw [List.foldlM_append, bind_eq_ok]

theorem runsTo_nil {s s' : CompletionAccumulator} : RunsTo s [] s' ↔ s' = s := by
  constructor
  · rintro ⟨-, hid, hmodel, husage, hreason, hcontent, hreasoning, htools⟩
    cases s
    cases s'
    simp only [List.map_nil, streamCalls, List.flatMap_nil, foldlM_nil_eq_ok] at *
    simp only [contentText, reasoningText, List.map_nil, String.join_nil,
      String.append_empty] at hcontent hreasoning
    subst hid hmodel husage hreason hcontent hreasoning htools
    rfl
  · rintro rfl
    refine ⟨nofun, ?_, ?_, ?_, ?_, ?_, ?_, ?_⟩
    all_goals simp [contentText, reasoningText, streamCalls]

theorem runsTo_cons {s s' : CompletionAccumulator} {chunk : StreamChunk}
    {chunks : List StreamChunk} :
    RunsTo s (chunk :: chunks) s' ↔
      ∃ mid, (∃ d, chunkDelta chunk = some d ∧ Advances s chunk d mid) ∧ RunsTo mid chunks s' := by
  constructor
  · rintro ⟨hforms, hid, hmodel, husage, hreason, hcontent, hreasoning, htools⟩
    simp only [List.map_cons, foldlM_cons_eq_ok] at hid hmodel husage hreason
    obtain ⟨id, hid, hids⟩ := hid
    obtain ⟨model, hmodel, hmodels⟩ := hmodel
    obtain ⟨usage, husage, husages⟩ := husage
    obtain ⟨reason, hreason, hreasons⟩ := hreason
    rw [streamCalls, List.flatMap_cons, foldlM_append_eq_ok] at htools
    obtain ⟨tools, htool, htools⟩ := htools
    rw [List.forall_mem_cons] at hforms
    obtain ⟨d, hd⟩ := Option.isSome_iff_exists.mp hforms.1
    have hdelta : deltaOf chunk = d := by rw [deltaOf, hd, Option.getD_some]
    rw [hdelta] at hreason htool
    refine ⟨⟨id, model, reason, s.content ++ d.content, s.reasoning ++ d.reasoning, tools, usage⟩,
      ⟨d, hd, hid, hmodel, husage, hreason, rfl, rfl, htool⟩,
      hforms.2, hids, hmodels, husages, hreasons, ?_, ?_, htools⟩
    · rw [hcontent, contentText, List.map_cons, String.join_cons, hdelta, String.append_assoc]
      rfl
    · rw [hreasoning, reasoningText, List.map_cons, String.join_cons, hdelta, String.append_assoc]
      rfl
  · rintro ⟨mid, ⟨d, hd, hfirst⟩, hrest⟩
    have hdelta : deltaOf chunk = d := by rw [deltaOf, hd, Option.getD_some]
    refine ⟨List.forall_mem_cons.mpr ⟨hd ▸ rfl, hrest.forms⟩, ?_, ?_, ?_, ?_, ?_, ?_, ?_⟩
    · exact foldlM_cons_eq_ok.mpr ⟨_, hfirst.id, hrest.id⟩
    · exact foldlM_cons_eq_ok.mpr ⟨_, hfirst.model, hrest.model⟩
    · exact foldlM_cons_eq_ok.mpr ⟨_, hfirst.usage, hrest.usage⟩
    · rw [List.map_cons, hdelta, foldlM_cons_eq_ok]
      exact ⟨_, hfirst.finishReason, hrest.finishReason⟩
    · rw [hrest.content, hfirst.content, contentText, contentText, List.map_cons, String.join_cons,
        hdelta, String.append_assoc]
    · rw [hrest.reasoning, hfirst.reasoning, reasoningText, reasoningText, List.map_cons,
        String.join_cons, hdelta, String.append_assoc]
    · rw [streamCalls, List.flatMap_cons, foldlM_append_eq_ok, hdelta]
      exact ⟨_, hfirst.tools, hrest.tools⟩

/-- The run over a stream, by induction on its chunks. -/
theorem run_eq_ok {chunks : List StreamChunk} {s s' : CompletionAccumulator} :
    chunks.foldlM CompletionAccumulator.push s = .ok s' ↔ RunsTo s chunks s' := by
  induction chunks generalizing s with
  | nil => rw [foldlM_nil_eq_ok, runsTo_nil]
  | cons chunk chunks ih =>
      rw [foldlM_cons_eq_ok, runsTo_cons]
      simp only [push_eq_ok, ih]

/-! ## Values that must agree -/

theorem present_injective : Function.Injective fun value : String => nonEmpty (some value) := by
  intro a b h
  by_cases ha : a = ""
  · by_cases hb : b = ""
    · rw [ha, hb]
    · simp [nonEmpty, Option.filter, ha, hb] at h
  · by_cases hb : b = ""
    · simp [nonEmpty, Option.filter, ha, hb] at h
    · simpa [nonEmpty, Option.filter, ha, hb] using h

theorem nonEmpty_eq_some {value : Option String} {v : String} :
    nonEmpty value = some v ↔ value = some v ∧ v ≠ "" := by
  rw [nonEmpty, Option.filter_eq_some_iff, decide_eq_true_eq]

theorem validText_ne {value : String} {maxBytes : Nat} (h : validText value maxBytes = true) :
    value ≠ "" := by
  rintro rfl
  simp [validText] at h

theorem mergeIdentifier_keeps :
    Keeps (fun value : String => nonEmpty (some value)) nonEmpty
      (fun v => validText v maxIdentifierBytes = true) mergeIdentifier := by
  intro s b s'
  have hfilter : b.filter (· ≠ "") = nonEmpty b := rfl
  unfold mergeIdentifier
  rw [hfilter]
  cases hb : nonEmpty b with
  | none =>
      simp
      exact eq_comm
  | some v =>
      obtain ⟨-, hv⟩ := nonEmpty_eq_some.mp hb
      by_cases hs : s = ""
      · subst hs
        by_cases hvalid : validText v maxIdentifierBytes = true
        · simp [hvalid, hv, nonEmpty]
          exact eq_comm
        · simp [hvalid]
      · have hheld : nonEmpty (some s) = some s := nonEmpty_eq_some.mpr ⟨rfl, hs⟩
        by_cases hvalid : validText v maxIdentifierBytes = true
        · by_cases hsame : s = v
          · subst hsame
            simp [hvalid, hs, nonEmpty_eq_some]
            exact eq_comm
          · simp [hvalid, hs, hsame, hheld]
        · simp [hvalid]

theorem mergeFinishReason_keeps :
    Keeps (fun value : String => nonEmpty (some value)) id
      (fun v => validText v maxFinishReasonBytes = true) mergeFinishReason := by
  intro s b s'
  unfold mergeFinishReason
  cases b with
  | none =>
      simp
      exact eq_comm
  | some v =>
      by_cases hvalid : validText v maxFinishReasonBytes = true
      · have hv : v ≠ "" := validText_ne hvalid
        by_cases hs : s = ""
        · subst hs
          simp [hvalid, hv, nonEmpty]
          exact eq_comm
        · have hheld : nonEmpty (some s) = some s := nonEmpty_eq_some.mpr ⟨rfl, hs⟩
          by_cases hsame : s = v
          · subst hsame
            simp [hvalid, hs, nonEmpty_eq_some]
            exact eq_comm
          · simp [hvalid, hs, hsame, hheld]
      · simp [hvalid]

theorem replaceUsage_keeps : Keeps id id (fun _ => True) replaceUsage := by
  intro s b s'
  unfold replaceUsage
  cases b with
  | none =>
      simp
      exact eq_comm
  | some usage =>
      cases s with
      | none =>
          simp
          exact eq_comm
      | some prior =>
          by_cases hsame : prior = usage
          · simp [hsame]
            exact eq_comm
          · simp [hsame]

/-- Identifiers that are merged agree, empty ones aside. -/
theorem mergeIdentifiers_eq_ok {values : List (Option String)} {text : String} :
    values.foldlM mergeIdentifier "" = .ok text ↔
      Agreed (fun v => validText v maxIdentifierBytes = true) (values.filterMap nonEmpty)
        (nonEmpty (some text)) :=
  mergeIdentifier_keeps.foldlM_fresh present_injective rfl

theorem mergeFinishReasons_eq_ok {values : List (Option String)} {text : String} :
    values.foldlM mergeFinishReason "" = .ok text ↔
      Agreed (fun v => validText v maxFinishReasonBytes = true) (values.filterMap id)
        (nonEmpty (some text)) :=
  mergeFinishReason_keeps.foldlM_fresh present_injective rfl

theorem replaceUsages_eq_ok {values : List (Option OpenAiUsage)} {usage : Option OpenAiUsage} :
    values.foldlM replaceUsage none = .ok usage ↔
      Agreed (fun _ => True) (values.filterMap id) usage :=
  replaceUsage_keeps.foldlM_fresh Function.injective_id rfl

/-! ## The calls -/

theorem appendPieces_eq_ok {p : String → Bool} {pieces : List (Option String)}
    {text text' : String} :
    pieces.foldlM (appendPiece p) text = .ok text' ↔
      (∀ arrived, arrived <+: pieces.filterMap id → arrived ≠ [] →
        p (text ++ String.join arrived) = true) ∧
        text' = text ++ String.join (pieces.filterMap id) := by
  rw [← foldlM_appendChecked (e := OpenAiStreamError.invalidResponse)]
  induction pieces generalizing text with
  | nil => rfl
  | cons piece pieces ih =>
      cases piece with
      | none =>
          rw [foldlM_cons_eq_ok, List.filterMap_cons_none rfl, ← ih]
          simp [appendPiece]
      | some piece =>
          have hkept : (some piece :: pieces).filterMap id = piece :: pieces.filterMap id := rfl
          rw [foldlM_cons_eq_ok, hkept, foldlM_cons_eq_ok]
          simp only [ih]
          rfl

theorem call_push_eq_ok {call call' : ToolCallAccumulator} {delta : ToolCallDelta} :
    call.push delta = .ok call' ↔
      mergeIdentifier call.id delta.id = .ok call'.id ∧
        appendPiece validName call.name delta.name = .ok call'.name ∧
        appendPiece validArguments call.arguments delta.arguments = .ok call'.arguments := by
  simp only [ToolCallAccumulator.push, bind_eq_ok, pure_eq_ok]
  constructor
  · rintro ⟨id, hid, name, hname, arguments, harguments, rfl⟩
    exact ⟨hid, hname, harguments⟩
  · rintro ⟨hid, hname, harguments⟩
    exact ⟨_, hid, _, hname, _, harguments, rfl⟩

theorem calls_push_eq_ok {deltas : List ToolCallDelta} {call call' : ToolCallAccumulator} :
    deltas.foldlM ToolCallAccumulator.push call = .ok call' ↔
      (deltas.map ToolCallDelta.id).foldlM mergeIdentifier call.id = .ok call'.id ∧
        (deltas.map ToolCallDelta.name).foldlM (appendPiece validName) call.name =
          .ok call'.name ∧
        (deltas.map ToolCallDelta.arguments).foldlM (appendPiece validArguments) call.arguments =
          .ok call'.arguments := by
  induction deltas generalizing call with
  | nil =>
      simp only [List.map_nil, foldlM_nil_eq_ok]
      constructor
      · rintro rfl
        exact ⟨rfl, rfl, rfl⟩
      · rintro ⟨hid, hname, harguments⟩
        cases call
        cases call'
        dsimp only at hid hname harguments
        rw [hid, hname, harguments]
  | cons delta deltas ih =>
      simp only [List.map_cons, foldlM_cons_eq_ok, call_push_eq_ok, ih]
      constructor
      · rintro ⟨mid, ⟨hid, hname, harguments⟩, hids, hnames, hpieces⟩
        exact ⟨⟨_, hid, hids⟩, ⟨_, hname, hnames⟩, ⟨_, harguments, hpieces⟩⟩
      · rintro ⟨⟨id, hid, hids⟩, ⟨name, hname, hnames⟩, ⟨arguments, harguments, hpieces⟩⟩
        exact ⟨⟨id, name, arguments⟩, ⟨hid, hname, harguments⟩, hids, hnames, hpieces⟩

theorem utf8ByteSize_join_le {pieces more : List String} (h : pieces <+: more) :
    (String.join pieces).utf8ByteSize ≤ (String.join more).utf8ByteSize := by
  obtain ⟨rest, rfl⟩ := h
  rw [String.join_append, String.utf8ByteSize_append]
  omega

/-- The pieces of one call, pushed in order into a fresh one. -/
theorem fresh_push_eq_ok {deltas : List ToolCallDelta} {call : ToolCallAccumulator} :
    deltas.foldlM ToolCallAccumulator.push .fresh = .ok call ↔
      Agreed (fun v => validText v maxIdentifierBytes = true)
          (deltas.filterMap fun delta => nonEmpty delta.id) (nonEmpty (some call.id)) ∧
        ((∀ arrived, arrived <+: deltas.filterMap ToolCallDelta.name → arrived ≠ [] →
            validName (String.join arrived) = true) ∧
          call.name = String.join (deltas.filterMap ToolCallDelta.name)) ∧
        validArguments call.arguments = true ∧
          call.arguments = String.join (deltas.filterMap ToolCallDelta.arguments) := by
  rw [calls_push_eq_ok, ToolCallAccumulator.fresh, mergeIdentifiers_eq_ok, appendPieces_eq_ok,
    appendPieces_eq_ok, List.filterMap_map, List.filterMap_map, List.filterMap_map]
  simp only [String.empty_append, Function.comp_def, id_eq]
  refine and_congr_right fun _ => and_congr_right fun _ => and_congr_left ?_
  intro harguments
  rw [harguments]
  constructor
  · intro hall
    by_cases hnil : deltas.filterMap ToolCallDelta.arguments = []
    · rw [hnil]
      rfl
    · exact hall _ (List.prefix_refl _) hnil
  · intro hfits arrived hinitial _
    rw [validArguments, decide_eq_true_eq] at hfits ⊢
    exact (utf8ByteSize_join_le hinitial).trans hfits

theorem pushToolDelta_eq_ok {tools tools' : Table Nat ToolCallAccumulator}
    {delta : ToolCallDelta} :
    pushToolDelta tools delta = .ok tools' ↔
      (delta.index < maxToolCalls ∧ ∀ kind, nonEmpty delta.kind = some kind → kind = "function") ∧
        stepRow ToolCallDelta.index .fresh ToolCallAccumulator.push tools delta = .ok tools' := by
  have hkind : (delta.kind.filter (· ≠ "")).any (· ≠ "function") = true ↔
      ¬ ∀ kind, nonEmpty delta.kind = some kind → kind = "function" := by
    rw [show delta.kind.filter (· ≠ "") = nonEmpty delta.kind from rfl]
    cases nonEmpty delta.kind <;> simp
  unfold pushToolDelta
  by_cases hindex : maxToolCalls ≤ delta.index
  · rw [if_pos hindex]
    simp [Nat.not_lt.mpr hindex]
  · rw [if_neg hindex]
    by_cases hbad : (delta.kind.filter (· ≠ "")).any (· ≠ "function") = true
    · rw [if_pos hbad]
      simp [hkind.mp hbad]
    · rw [if_neg hbad]
      rw [hkind, not_not] at hbad
      exact ⟨fun h => ⟨⟨Nat.not_le.mp hindex, hbad⟩, h⟩, fun h => h.2⟩

/-! ## Finishing -/

def ValidCall (call : ToolCallAccumulator) : Prop :=
  validText call.id maxIdentifierBytes = true ∧ validName call.name = true ∧
    validArguments call.arguments = true

theorem collectCalls_eq_ok {entries : List (Nat × ToolCallAccumulator)} {expected : Nat}
    {seen : List String} {calls : List ToolCall} :
    collectCalls expected seen entries = .ok calls ↔
      entries.map Prod.fst = List.range' expected entries.length ∧
        (∀ entry ∈ entries, ValidCall entry.2) ∧
        calls = entries.map (·.2.toolCall) ∧
        (calls.map ToolCall.id).Nodup ∧ ∀ id ∈ calls.map ToolCall.id, id ∉ seen := by
  induction entries generalizing expected seen calls with
  | nil =>
      rw [collectCalls]
      constructor
      · intro h
        obtain rfl := Except.ok.inj h
        simp
      · rintro ⟨-, -, rfl, -⟩
        rfl
  | cons entry entries ih =>
      obtain ⟨index, call⟩ := entry
      unfold collectCalls
      by_cases hcheck : (index ≠ expected || !validText call.id maxIdentifierBytes ||
          seen.contains call.id || !validName call.name || !validArguments call.arguments) = true
      · rw [if_pos hcheck]
        refine ⟨nofun, ?_⟩
        rintro ⟨hkeys, hvalid, rfl, -, hseen⟩
        rw [List.length_cons, List.range'_succ, List.map_cons, List.cons.injEq] at hkeys
        obtain ⟨hid, hname, harguments⟩ := hvalid _ List.mem_cons_self
        have hnew : call.id ∉ seen := hseen _ (by simp [ToolCallAccumulator.toolCall])
        simp only at hkeys hid hname harguments
        simp [hkeys.1, hid, hname, harguments, hnew] at hcheck
      · rw [if_neg hcheck]
        simp only [Bool.or_eq_true, Bool.not_eq_true', decide_eq_true_eq, List.contains_iff_mem,
          not_or, not_not, Bool.not_eq_false] at hcheck
        obtain ⟨⟨⟨⟨hindex, hid⟩, hnew⟩, hname⟩, harguments⟩ := hcheck
        simp only [bind_eq_ok, pure_eq_ok, ih]
        constructor
        · rintro ⟨rest, ⟨hkeys, hvalid, rfl, hnodup, hseen⟩, rfl⟩
          refine ⟨?_, ?_, rfl, ?_, ?_⟩
          · rw [List.map_cons, hkeys, List.length_cons, List.range'_succ, hindex]
          · exact List.forall_mem_cons.mpr ⟨⟨hid, hname, harguments⟩, hvalid⟩
          · refine List.nodup_cons.mpr ⟨fun hmem => ?_, hnodup⟩
            exact hseen _ hmem List.mem_cons_self
          · refine List.forall_mem_cons.mpr ⟨hnew, fun other hother => ?_⟩
            exact fun hmem => hseen other hother (List.mem_cons_of_mem _ hmem)
        · rintro ⟨hkeys, hvalid, rfl, hnodup, hseen⟩
          rw [List.map_cons, List.length_cons, List.range'_succ, List.cons.injEq] at hkeys
          rw [List.map_cons, List.map_cons] at hnodup hseen
          refine ⟨_, ⟨hkeys.2, (List.forall_mem_cons.mp hvalid).2, rfl,
            (List.nodup_cons.mp hnodup).2, fun other hother => ?_⟩, rfl⟩
          rintro (_ | ⟨_, hmem⟩)
          · exact (List.nodup_cons.mp hnodup).1 hother
          · exact (List.forall_mem_cons.mp hseen).2 other hother hmem

end AgentsAssemble.Provider
