import AgentsAssemble.Provider.Fragments
import Mathlib.Data.List.Dedup

/-!
# The completion of a stream

The completion that the whole texts of a stream make, and that the accumulator
builds exactly it.  Two streams that say the same are completed alike, wherever
their contents, reasonings and arguments are cut, and wherever their tool names
are cut as long as no piece ends in the middle of a space.
-/

namespace AgentsAssemble.Provider

open Domain Foundation
open Foundation.Merging
open Result (bind_eq_ok pure_eq_ok)

/-! ## Finishing -/

/-- The calls are the ones the accumulator holds, in order of their index. -/
structure ListsCalls (tools : Table Nat ToolCallAccumulator) (calls : List ToolCall) : Prop where
  indexes : ∀ i, (tools.lookup i).isSome ↔ i < calls.length
  held : ∀ i call, calls[i]? = some call →
    ∃ held, tools.lookup i = some held ∧ ValidCall held ∧ call = held.toolCall
  distinct : (calls.map ToolCall.id).Nodup

theorem getElem_sorted {tools : Table Nat ToolCallAccumulator} {n i : Nat}
    (hkeys : (tools.sorted (· ≤ ·)).map Prod.fst = List.range n) (hi : i < n) :
    ∃ held, (tools.sorted (· ≤ ·))[i]? = some (i, held) ∧ tools.lookup i = some held := by
  have hkey : ((tools.sorted (· ≤ ·)).map Prod.fst)[i]? = some i := by
    rw [hkeys, List.getElem?_range hi]
  rw [List.getElem?_map, Option.map_eq_some_iff] at hkey
  obtain ⟨⟨_, held⟩, hentry, rfl⟩ := hkey
  exact ⟨held, hentry, (Table.mem_sorted _).mp (List.mem_of_getElem? hentry)⟩

theorem collectCalls_sorted {tools : Table Nat ToolCallAccumulator} {calls : List ToolCall} :
    collectCalls 0 [] (tools.sorted (· ≤ ·)) = .ok calls ↔ ListsCalls tools calls := by
  rw [collectCalls_eq_ok, ← List.range_eq_range']
  constructor
  · rintro ⟨hkeys, hvalid, rfl, hdistinct, -⟩
    have hlength : ((tools.sorted (· ≤ ·)).map (·.2.toolCall)).length =
      (tools.sorted (· ≤ ·)).length := List.length_map ..
    refine ⟨hlength ▸ Table.keys_sorted_eq_range.mp hkeys, fun i call hcall => ?_, hdistinct⟩
    have hi : i < (tools.sorted (· ≤ ·)).length := by
      rw [← hlength]
      exact (List.getElem?_eq_some_iff.mp hcall).1
    obtain ⟨held, hentry, hheld⟩ := getElem_sorted hkeys hi
    rw [List.getElem?_map, hentry] at hcall
    exact ⟨held, hheld, hvalid _ (List.mem_of_getElem? hentry), (Option.some.inj hcall).symm⟩
  · rintro ⟨hindexes, hheld, hdistinct⟩
    have hkeys := Table.keys_sorted_eq_range.mpr hindexes
    have hlength : (tools.sorted (· ≤ ·)).length = calls.length := by
      rw [← List.length_map (f := Prod.fst), hkeys, List.length_range]
    refine ⟨hlength ▸ hkeys, ?_, ?_, hdistinct, fun _ _ => List.not_mem_nil⟩
    · rintro ⟨i, held⟩ hentry
      have hlookup := (Table.mem_sorted _).mp hentry
      have hi : i < calls.length := (hindexes i).mp (hlookup ▸ rfl)
      obtain ⟨other, hother, hvalid, -⟩ := hheld i _ (List.getElem?_eq_getElem hi)
      rw [hlookup] at hother
      rw [Option.some.inj hother]
      exact hvalid
    · refine List.ext_getElem? fun i => ?_
      rw [List.getElem?_map]
      by_cases hi : i < calls.length
      · obtain ⟨held, hentry, hlookup⟩ := getElem_sorted hkeys hi
        obtain ⟨other, hother, -, hcall⟩ := hheld i _ (List.getElem?_eq_getElem hi)
        obtain rfl := Option.some.inj (hlookup.symm.trans hother)
        rw [hentry, List.getElem?_eq_getElem hi, hcall]
        rfl
      · rw [List.getElem?_eq_none (Nat.not_lt.mp hi),
          List.getElem?_eq_none (hlength ▸ Nat.not_lt.mp hi)]
        rfl

theorem finish_eq_ok {s : CompletionAccumulator} {c : OpenAiStreamCompletion} :
    s.finish = .ok c ↔
      (validText s.id maxIdentifierBytes = true ∧ validText s.model maxIdentifierBytes = true ∧
        validText s.finishReason maxFinishReasonBytes = true) ∧
      ListsCalls s.tools c.message.toolCalls ∧
      c = ⟨s.id, s.model, s.finishReason, ⟨"assistant", nonEmpty (some s.content),
        nonEmpty (some s.reasoning), c.message.toolCalls⟩, s.usage⟩ := by
  have hvisible : ∀ text : String, nonEmpty (some text) = if text = "" then none else some text := by
    intro text
    by_cases h : text = "" <;> simp [nonEmpty, h]
  unfold CompletionAccumulator.finish
  by_cases hcheck : (!validText s.id maxIdentifierBytes || !validText s.model maxIdentifierBytes ||
      !validText s.finishReason maxFinishReasonBytes) = true
  · rw [if_pos hcheck]
    refine ⟨(by rintro ⟨⟩), ?_⟩
    rintro ⟨⟨hid, hmodel, hreason⟩, -⟩
    simp [hid, hmodel, hreason] at hcheck
  · rw [if_neg hcheck]
    simp only [Bool.or_eq_true, Bool.not_eq_true', not_or, Bool.not_eq_false, and_assoc] at hcheck
    simp only [bind_eq_ok, pure_eq_ok, collectCalls_sorted, hvisible]
    constructor
    · rintro ⟨calls, hcalls, rfl⟩
      exact ⟨hcheck, hcalls, rfl⟩
    · rintro ⟨-, hcalls, hc⟩
      exact ⟨_, hcalls, hc.symm⟩

/-! ## The completion of the whole texts -/

/-- `call` is what the stream says about the call under `index`. -/
structure CallOf (chunks : List StreamChunk) (index : Nat) (call : ToolCall) : Prop where
  id : Agreed (fun v => validText v maxIdentifierBytes = true) (toolIds index chunks) (some call.id)
  kind : call.kind = "function"
  name : call.function.name = String.join (namePieces index chunks)
  validName : validName call.function.name = true
  arguments : call.function.arguments = String.join (argumentPieces index chunks)
  validArguments : validArguments call.function.arguments = true

/-- `completion` is what the whole texts of the stream make. -/
structure Completes (chunks : List StreamChunk) (completion : OpenAiStreamCompletion) : Prop where
  forms : ∀ chunk ∈ chunks, (chunkDelta chunk).isSome
  id : Agreed (fun v => validText v maxIdentifierBytes = true)
    ((chunks.map StreamChunk.id).filterMap nonEmpty) (some completion.id)
  model : Agreed (fun v => validText v maxIdentifierBytes = true)
    ((chunks.map StreamChunk.model).filterMap nonEmpty) (some completion.model)
  usage : Agreed (fun _ => True) (chunks.filterMap StreamChunk.usage) completion.usage
  finishReason : Agreed (fun v => validText v maxFinishReasonBytes = true) (finishReasons chunks)
    (some completion.finishReason)
  role : completion.message.role = "assistant"
  content : completion.message.content = nonEmpty (some (contentText chunks))
  reasoning : completion.message.reasoningContent = nonEmpty (some (reasoningText chunks))
  kinds : ∀ kind ∈ toolKinds chunks, kind = "function"
  count : completion.message.toolCalls.length ≤ maxToolCalls
  indexes : ∀ i, i ∈ (streamCalls chunks).map ToolCallDelta.index ↔
    i < completion.message.toolCalls.length
  calls : ∀ i call, completion.message.toolCalls[i]? = some call → CallOf chunks i call
  distinct : (completion.message.toolCalls.map ToolCall.id).Nodup

/-- Every tool name was valid each time a piece of it had arrived. -/
def NamesArrive (chunks : List StreamChunk) : Prop :=
  ∀ i arrived, arrived <+: namePieces i chunks → arrived ≠ [] →
    validName (String.join arrived) = true

theorem agreed_some {α : Type} {p : α → Prop} {values : List α} {v : α}
    (h : Agreed p values (some v)) : p v := by
  obtain ⟨hall, hnone⟩ := h
  cases values with
  | nil => exact absurd (hnone rfl) nofun
  | cons w values =>
      obtain ⟨hp, hv⟩ := hall w List.mem_cons_self
      rw [Option.some.inj hv]
      exact hp

theorem nonEmpty_of_valid {value : String} {maxBytes : Nat}
    (h : validText value maxBytes = true) : nonEmpty (some value) = some value :=
  nonEmpty_eq_some.mpr ⟨rfl, validText_ne h⟩

/-- What a run from a fresh accumulator leaves, by the whole texts. -/
theorem runsTo_fresh {chunks : List StreamChunk} {s : CompletionAccumulator} :
    RunsTo .fresh chunks s ↔
      (∀ chunk ∈ chunks, (chunkDelta chunk).isSome) ∧
        Agreed (fun v => validText v maxIdentifierBytes = true)
          ((chunks.map StreamChunk.id).filterMap nonEmpty) (nonEmpty (some s.id)) ∧
        Agreed (fun v => validText v maxIdentifierBytes = true)
          ((chunks.map StreamChunk.model).filterMap nonEmpty) (nonEmpty (some s.model)) ∧
        Agreed (fun _ => True) (chunks.filterMap StreamChunk.usage) s.usage ∧
        Agreed (fun v => validText v maxFinishReasonBytes = true) (finishReasons chunks)
          (nonEmpty (some s.finishReason)) ∧
        s.content = contentText chunks ∧ s.reasoning = reasoningText chunks ∧
        (streamCalls chunks).foldlM pushToolDelta ∅ = .ok s.tools := by
  have husages : (chunks.map StreamChunk.usage).filterMap id =
      chunks.filterMap StreamChunk.usage := List.filterMap_map ..
  have hreasons : (chunks.map fun chunk => (deltaOf chunk).finishReason).filterMap id =
      finishReasons chunks := List.filterMap_map ..
  rw [← husages, ← hreasons, ← mergeIdentifiers_eq_ok, ← mergeIdentifiers_eq_ok,
    ← replaceUsages_eq_ok, ← mergeFinishReasons_eq_ok]
  constructor
  · rintro ⟨hforms, hid, hmodel, husage, hreason, hcontent, hreasoning, htools⟩
    exact ⟨hforms, hid, hmodel, husage, hreason, hcontent.trans String.empty_append,
      hreasoning.trans String.empty_append, htools⟩
  · rintro ⟨hforms, hid, hmodel, husage, hreason, hcontent, hreasoning, htools⟩
    exact ⟨hforms, hid, hmodel, husage, hreason, hcontent.trans String.empty_append.symm,
      hreasoning.trans String.empty_append.symm, htools⟩

/-- `held` is what the stream says about the call under `index`, so far as it was said. -/
structure Holds (chunks : List StreamChunk) (index : Nat) (held : ToolCallAccumulator) : Prop where
  id : Agreed (fun v => validText v maxIdentifierBytes = true) (toolIds index chunks)
    (nonEmpty (some held.id))
  names : ∀ arrived, arrived <+: namePieces index chunks → arrived ≠ [] →
    validName (String.join arrived) = true
  name : held.name = String.join (namePieces index chunks)
  validArguments : validArguments held.arguments = true
  arguments : held.arguments = String.join (argumentPieces index chunks)

theorem holds_ofList_iff {chunks : List StreamChunk} {index : Nat} {held : ToolCallAccumulator} :
    (callsAt index chunks).foldlM ToolCallAccumulator.push .fresh = .ok held ↔
      Holds chunks index held := by
  rw [fresh_push_eq_ok]
  constructor
  · rintro ⟨hid, ⟨hnames, hname⟩, hvalid, harguments⟩
    exact ⟨hid, hnames, hname, hvalid, harguments⟩
  · rintro ⟨hid, hnames, hname, hvalid, harguments⟩
    exact ⟨hid, ⟨hnames, hname⟩, hvalid, harguments⟩

/-- Each delta names one of the allowed indexes and no kind but `function`. -/
def Admissible (chunks : List StreamChunk) : Prop :=
  ∀ delta ∈ streamCalls chunks, delta.index < maxToolCalls ∧
    ∀ kind, nonEmpty delta.kind = some kind → kind = "function"

theorem pushToolDeltas_eq_ok {chunks : List StreamChunk} {tools : Table Nat ToolCallAccumulator} :
    (streamCalls chunks).foldlM pushToolDelta ∅ = .ok tools ↔
      Admissible chunks ∧
        (streamCalls chunks).foldlM (stepRow ToolCallDelta.index .fresh ToolCallAccumulator.push) ∅ =
          .ok tools :=
  foldlM_guarded (f := pushToolDelta)
    (g := stepRow ToolCallDelta.index .fresh ToolCallAccumulator.push)
    (q := fun delta => delta.index < maxToolCalls ∧
      ∀ kind, nonEmpty delta.kind = some kind → kind = "function")
    fun _ _ _ => pushToolDelta_eq_ok

section Tools

variable {chunks : List StreamChunk} {tools : Table Nat ToolCallAccumulator}

theorem lookup_tools
    (h : (streamCalls chunks).foldlM (stepRow ToolCallDelta.index .fresh ToolCallAccumulator.push) ∅ =
      .ok tools) (i : Nat) : Holds chunks i ((tools.lookup i).getD .fresh) :=
  holds_ofList_iff.mp (foldlM_stepRow h i)

theorem mem_tools
    (h : (streamCalls chunks).foldlM (stepRow ToolCallDelta.index .fresh ToolCallAccumulator.push) ∅ =
      .ok tools) (i : Nat) :
    (tools.lookup i).isSome ↔ i ∈ (streamCalls chunks).map ToolCallDelta.index := by
  rw [mem_foldlM_stepRow h i]
  simp

theorem exists_tools (h : ∀ i, ∃ held, Holds chunks i held) :
    ∃ tools, (streamCalls chunks).foldlM
      (stepRow ToolCallDelta.index .fresh ToolCallAccumulator.push) ∅ = .ok tools :=
  exists_foldlM_stepRow fun i => by
    obtain ⟨held, hheld⟩ := h i
    exact ⟨held, holds_ofList_iff.mpr hheld⟩

end Tools

theorem holds_unique {chunks : List StreamChunk} {i : Nat} {held held' : ToolCallAccumulator}
    (h : Holds chunks i held) (h' : Holds chunks i held') : held = held' :=
  Except.ok.inj ((holds_ofList_iff.mpr h).symm.trans (holds_ofList_iff.mpr h'))

/-- Nothing is held under an index that the stream never names. -/
theorem holds_fresh {chunks : List StreamChunk} {i : Nat}
    (h : i ∉ (streamCalls chunks).map ToolCallDelta.index) : Holds chunks i .fresh := by
  refine holds_ofList_iff.mp ?_
  have hnone : callsAt i chunks = [] := by
    refine List.filter_eq_nil_iff.mpr fun delta hdelta hindex => h ?_
    exact List.mem_map.mpr ⟨delta, hdelta, of_decide_eq_true hindex⟩
  rw [hnone]
  rfl

theorem CallOf.validId {chunks : List StreamChunk} {i : Nat} {call : ToolCall}
    (h : CallOf chunks i call) : validText call.id maxIdentifierBytes = true :=
  agreed_some (p := fun v => validText v maxIdentifierBytes = true) h.id

theorem callOf_of_holds {chunks : List StreamChunk} {i : Nat} {held : ToolCallAccumulator}
    (h : Holds chunks i held) (hvalid : ValidCall held) : CallOf chunks i held.toolCall :=
  ⟨nonEmpty_of_valid hvalid.1 ▸ h.id, rfl, h.name, hvalid.2.1, h.arguments, hvalid.2.2⟩

theorem holds_of_callOf {chunks : List StreamChunk} {i : Nat} {call : ToolCall}
    (h : CallOf chunks i call) (hnames : NamesArrive chunks) :
    Holds chunks i ⟨call.id, call.function.name, call.function.arguments⟩ := by
  have hid : nonEmpty (some call.id) = some call.id := nonEmpty_of_valid h.validId
  exact ⟨hid.symm ▸ h.id, hnames i, h.name, h.validArguments, h.arguments⟩

/-- A stream is completed exactly if every name arrived well and its whole texts make
the completion. -/
theorem completeStream_eq_ok {chunks : List StreamChunk} {completion : OpenAiStreamCompletion} :
    completeStream chunks = .ok completion ↔ NamesArrive chunks ∧ Completes chunks completion := by
  simp only [completeStream, bind_eq_ok, run_eq_ok, runsTo_fresh, finish_eq_ok,
    pushToolDeltas_eq_ok]
  constructor
  · rintro ⟨s, ⟨hforms, hid, hmodel, husage, hreason, hcontent, hreasoning, hadmissible, htools⟩,
      ⟨hvalidId, hvalidModel, hvalidReason⟩, hlists, hc⟩
    have hindexes := fun i => (mem_tools htools i).symm.trans (hlists.indexes i)
    refine ⟨fun i => (lookup_tools htools i).names, ?_⟩
    rw [nonEmpty_of_valid hvalidId] at hid
    rw [nonEmpty_of_valid hvalidModel] at hmodel
    rw [nonEmpty_of_valid hvalidReason] at hreason
    rw [hcontent, hreasoning] at hc
    refine ⟨hforms, ?_, ?_, ?_, ?_, ?_, ?_, ?_, ?_, ?_, hindexes, ?_, hlists.distinct⟩
    · rw [hc]
      exact hid
    · rw [hc]
      exact hmodel
    · rw [hc]
      exact husage
    · rw [hc]
      exact hreason
    · rw [hc]
    · rw [hc]
    · rw [hc]
    · intro kind hkind
      obtain ⟨delta, hdelta, hsome⟩ := List.mem_filterMap.mp hkind
      exact (hadmissible delta hdelta).2 kind hsome
    · -- the last index is one a delta names
      by_contra hmany
      have hlast := (hindexes maxToolCalls).mpr (Nat.not_le.mp hmany)
      obtain ⟨delta, hdelta, hindex⟩ := List.mem_map.mp hlast
      have hlt := (hadmissible delta hdelta).1
      rw [hindex] at hlt
      exact Nat.lt_irrefl _ hlt
    · intro i call hcall
      obtain ⟨held, hlookup, hvalid, rfl⟩ := hlists.held i call hcall
      have hholds := lookup_tools htools i
      rw [hlookup, Option.getD_some] at hholds
      exact callOf_of_holds hholds hvalid
  · rintro ⟨hnames, h⟩
    have hheld : ∀ i, ∃ held, Holds chunks i held := by
      intro i
      by_cases hi : i < completion.message.toolCalls.length
      · exact ⟨_, holds_of_callOf (h.calls i _ (List.getElem?_eq_getElem hi)) hnames⟩
      · exact ⟨_, holds_fresh (mt (h.indexes i).mp hi)⟩
    obtain ⟨tools, htools⟩ := exists_tools hheld
    have hid := agreed_some h.id
    have hmodel := agreed_some h.model
    have hreason := agreed_some h.finishReason
    refine ⟨⟨completion.id, completion.model, completion.finishReason, contentText chunks,
      reasoningText chunks, tools, completion.usage⟩, ⟨h.forms, ?_, ?_, h.usage, ?_, rfl, rfl, ?_,
      htools⟩, ⟨hid, hmodel, hreason⟩, ⟨?_, ?_, h.distinct⟩, ?_⟩
    · rw [nonEmpty_of_valid hid]
      exact h.id
    · rw [nonEmpty_of_valid hmodel]
      exact h.model
    · rw [nonEmpty_of_valid hreason]
      exact h.finishReason
    · intro delta hdelta
      have hindex := (h.indexes delta.index).mp (List.mem_map_of_mem hdelta)
      refine ⟨Nat.lt_of_lt_of_le hindex h.count, fun kind hkind => ?_⟩
      exact h.kinds kind (List.mem_filterMap.mpr ⟨delta, hdelta, hkind⟩)
    · intro i
      rw [mem_tools htools i, h.indexes]
    · intro i call hcall
      have hof := h.calls i call hcall
      have hi : (tools.lookup i).isSome := by
        rw [mem_tools htools i, h.indexes]
        exact (List.getElem?_eq_some_iff.mp hcall).1
      obtain ⟨held, hlookup⟩ := Option.isSome_iff_exists.mp hi
      have hholds := lookup_tools htools i
      rw [hlookup, Option.getD_some] at hholds
      obtain rfl := holds_unique hholds (holds_of_callOf hof hnames)
      refine ⟨_, hlookup, ⟨hof.validId, hof.validName, hof.validArguments⟩, ?_⟩
      obtain ⟨id, kind, function⟩ := call
      have hkind : kind = "function" := hof.kind
      rw [hkind]
      rfl
    · have hrole := h.role
      have hcontent := h.content
      have hreasoning := h.reasoning
      obtain ⟨id, model, reason, ⟨role, content, reasoning, calls⟩, usage⟩ := completion
      dsimp only at hrole hcontent hreasoning ⊢
      rw [hrole, hcontent, hreasoning]

/-! ## Cutting elsewhere -/

/-- Two streams that agree in all but the texts: the form of their chunks, the
identifiers, usages and finish reasons they state, and the calls they name. -/
structure SameFrame (chunks others : List StreamChunk) : Prop where
  forms : (∀ chunk ∈ chunks, (chunkDelta chunk).isSome) ↔
    ∀ chunk ∈ others, (chunkDelta chunk).isSome
  ids : ∀ id, id ∈ (chunks.map StreamChunk.id).filterMap nonEmpty ↔
    id ∈ (others.map StreamChunk.id).filterMap nonEmpty
  models : ∀ model, model ∈ (chunks.map StreamChunk.model).filterMap nonEmpty ↔
    model ∈ (others.map StreamChunk.model).filterMap nonEmpty
  usages : ∀ usage, usage ∈ chunks.filterMap StreamChunk.usage ↔
    usage ∈ others.filterMap StreamChunk.usage
  finishReasons : ∀ reason, reason ∈ finishReasons chunks ↔ reason ∈ finishReasons others
  kinds : ∀ kind, kind ∈ toolKinds chunks ↔ kind ∈ toolKinds others
  indexes : ∀ i, i ∈ (streamCalls chunks).map ToolCallDelta.index ↔
    i ∈ (streamCalls others).map ToolCallDelta.index

/-- Two streams whose pieces make the same texts. -/
structure SameTexts (chunks others : List StreamChunk) : Prop where
  content : contentText chunks = contentText others
  reasoning : reasoningText chunks = reasoningText others
  names : ∀ i, String.join (namePieces i chunks) = String.join (namePieces i others)
  arguments : ∀ i, String.join (argumentPieces i chunks) = String.join (argumentPieces i others)

/-- Two streams that state the same ids for each call. -/
def SameIds (chunks others : List StreamChunk) : Prop :=
  ∀ i id, id ∈ toolIds i chunks ↔ id ∈ toolIds i others

/-- Where a name is cut, a text is left that does not end in a space. -/
def NameCuts (chunks : List StreamChunk) : Prop :=
  ∀ i before after, namePieces i chunks = before ++ after → before ≠ [] → after ≠ [] →
    String.join before ≠ "" ∧ ∀ c ∈ (String.join before).toList.getLast?, isWhitespace c = false

theorem trim_eq_self_iff {value : String} :
    trim value = value ↔ (∀ c ∈ value.toList.head?, isWhitespace c = false) ∧
      ∀ c ∈ value.toList.getLast?, isWhitespace c = false := by
  have htext : trim value = value ↔ trimMatches isWhitespace value.toList = value.toList := by
    rw [trim, ← String.toList_inj, String.toList_ofList]
  rw [htext]
  constructor
  · intro h
    rw [← h]
    exact ⟨fun c hc => head_trimMatches hc, fun c hc => getLast_trimMatches hc⟩
  · rintro ⟨hfirst, hlast⟩
    rw [trimMatches_of_head hfirst, List.rdropWhile_eq_self_iff]
    intro hne
    simp [hlast _ (List.getLast?_eq_some_getLast hne)]

theorem validText_iff {value : String} {maxBytes : Nat} :
    validText value maxBytes = true ↔
      value ≠ "" ∧ value.utf8ByteSize ≤ maxBytes ∧ trim value = value ∧
        ∀ c ∈ value.toList, isControl c = false := by
  simp only [validText, Bool.and_eq_true, bne_iff_ne, decide_eq_true_eq, beq_iff_eq,
    Bool.not_eq_true', List.any_eq_false, Bool.not_eq_true, and_assoc]

/-- The beginning of a valid text is valid unless it is empty or ends in a space. -/
theorem validText_of_append {before after : String} {maxBytes : Nat}
    (h : validText (before ++ after) maxBytes = true) (hne : before ≠ "")
    (hlast : ∀ c ∈ before.toList.getLast?, isWhitespace c = false) :
    validText before maxBytes = true := by
  obtain ⟨-, hsize, htrim, hcontrol⟩ := validText_iff.mp h
  rw [String.utf8ByteSize_append] at hsize
  rw [String.toList_append] at hcontrol
  refine validText_iff.mpr ⟨hne, by omega, trim_eq_self_iff.mpr ⟨fun c hc => ?_, hlast⟩,
    fun c hc => hcontrol c (List.mem_append_left _ hc)⟩
  have hfirst : c ∈ (before ++ after).toList.head? := by
    rw [String.toList_append, List.head?_append, hc]
    rfl
  exact (trim_eq_self_iff.mp htrim).1 c hfirst

/-- The names of a stream that makes a completion arrive well if they are cut well. -/
theorem namesArrive_of_cuts {chunks : List StreamChunk} {completion : OpenAiStreamCompletion}
    (h : Completes chunks completion) (hcuts : NameCuts chunks) : NamesArrive chunks := by
  rintro i arrived ⟨later, hpieces⟩ hne
  have hnamed : i < completion.message.toolCalls.length := by
    refine (h.indexes i).mp ?_
    obtain ⟨piece, hpiece⟩ := List.exists_mem_of_ne_nil arrived hne
    have hmem : piece ∈ namePieces i chunks := by
      rw [← hpieces]
      exact List.mem_append_left _ hpiece
    obtain ⟨delta, hdelta, -⟩ := List.mem_filterMap.mp hmem
    obtain ⟨hcall, hindex⟩ := List.mem_filter.mp hdelta
    exact List.mem_map.mpr ⟨delta, hcall, of_decide_eq_true hindex⟩
  have hof := h.calls i _ (List.getElem?_eq_getElem hnamed)
  have hvalid : validName (String.join (namePieces i chunks)) = true := hof.name ▸ hof.validName
  by_cases hlater : later = []
  · rw [hlater, List.append_nil] at hpieces
    rw [hpieces]
    exact hvalid
  · obtain ⟨htext, hlast⟩ := hcuts i arrived later hpieces.symm hne hlater
    rw [← hpieces, String.join_append] at hvalid
    exact validText_of_append hvalid htext hlast

/-- The completion depends on the whole texts alone. -/
theorem Completes.congr {chunks others : List StreamChunk} {completion : OpenAiStreamCompletion}
    (h : Completes chunks completion) (hframe : SameFrame chunks others)
    (htexts : SameTexts chunks others) (hids : SameIds chunks others) :
    Completes others completion := by
  refine ⟨hframe.forms.mp h.forms, (agreed_congr hframe.ids).mp h.id,
    (agreed_congr hframe.models).mp h.model, (agreed_congr hframe.usages).mp h.usage,
    (agreed_congr hframe.finishReasons).mp h.finishReason, h.role, htexts.content ▸ h.content,
    htexts.reasoning ▸ h.reasoning, fun kind hkind => h.kinds kind ((hframe.kinds kind).mpr hkind),
    h.count, fun i => (hframe.indexes i).symm.trans (h.indexes i), fun i call hcall => ?_,
    h.distinct⟩
  have hof := h.calls i call hcall
  exact ⟨(agreed_congr (hids i)).mp hof.id, hof.kind, htexts.names i ▸ hof.name, hof.validName,
    htexts.arguments i ▸ hof.arguments, hof.validArguments⟩

theorem SameFrame.symm {chunks others : List StreamChunk} (h : SameFrame chunks others) :
    SameFrame others chunks :=
  ⟨h.forms.symm, fun id => (h.ids id).symm, fun model => (h.models model).symm,
    fun usage => (h.usages usage).symm, fun reason => (h.finishReasons reason).symm,
    fun kind => (h.kinds kind).symm, fun i => (h.indexes i).symm⟩

theorem SameTexts.symm {chunks others : List StreamChunk} (h : SameTexts chunks others) :
    SameTexts others chunks :=
  ⟨h.content.symm, h.reasoning.symm, fun i => (h.names i).symm, fun i => (h.arguments i).symm⟩

theorem completeStream_congr {chunks others : List StreamChunk}
    {completion : OpenAiStreamCompletion} (h : completeStream chunks = .ok completion)
    (hframe : SameFrame chunks others) (htexts : SameTexts chunks others)
    (hids : SameIds chunks others) (hcuts : NameCuts others) :
    completeStream others = .ok completion := by
  have hother := (completeStream_eq_ok.mp h).2.congr hframe htexts hids
  exact completeStream_eq_ok.mpr ⟨namesArrive_of_cuts hother hcuts, hother⟩

/-- Wherever its texts are cut, a stream has one outcome; and a completion is what the
whole texts make, its calls under the first indexes and with ids of their own. -/
theorem fragments_complete_alike (chunks : List StreamChunk) :
    (∀ others, SameFrame chunks others → SameTexts chunks others → SameIds chunks others →
      NameCuts chunks → NameCuts others → completeStream chunks = completeStream others) ∧
    ∀ completion, completeStream chunks = .ok completion → Completes chunks completion := by
  refine ⟨fun others hframe htexts hids hcuts hothers => ?_, fun completion h =>
    (completeStream_eq_ok.mp h).2⟩
  cases hfirst : completeStream chunks with
  | ok completion => exact (completeStream_congr hfirst hframe htexts hids hothers).symm
  | error e =>
      cases hsecond : completeStream others with
      | ok completion =>
          have hback := completeStream_congr hsecond hframe.symm htexts.symm
            (fun i id => (hids i id).symm) hcuts
          rw [hfirst] at hback
          cases hback
      | error d =>
          rw [completeStream_invalid chunks e hfirst, completeStream_invalid others d hsecond]

/-! ## Two streams -/

def chatChunk (delta : List (String × Json)) : StreamChunk :=
  ⟨some "chat-1", some "model-1", [⟨0, .object delta, some "tool_calls"⟩], none⟩

/-- The delta of the first call: an id, if it is not empty, and a piece of its function. -/
def firstCall (id name arguments : String) : Json :=
  .object [("index", .number (.posInt 0)), ("id", .string id), ("type", .string "function"),
    ("function", .object [("name", .string name), ("arguments", .string arguments)])]

def wholeStream : List StreamChunk :=
  [chatChunk [("role", .string "assistant"), ("content", .string "hi"),
    ("reasoning_content", .string "private"),
    ("tool_calls", .array [firstCall "call-1" "read_discussion" "\x7b\x7d"])]]

def fragmentedStream : List StreamChunk :=
  [chatChunk [("content", .string ""), ("thinking", .string "priv"),
      ("tool_calls", .array [firstCall "call-1" "read_" "\x7b", firstCall "" "discuss" ""])],
    chatChunk [("content", .string "h"),
      ("tool_calls", .array [firstCall "call-1" "ion" "\x7d"])],
    chatChunk [("content", .string "i"), ("reasoning", .string "ate")]]

/-- A stream of one call has its pieces under the first index. -/
theorem callsAt_first {chunks : List StreamChunk}
    (h : ∀ delta ∈ streamCalls chunks, delta.index = 0) (i : Nat) :
    callsAt i chunks = if i = 0 then streamCalls chunks else [] := by
  by_cases hi : i = 0
  · rw [if_pos hi, callsAt, List.filter_eq_self]
    intro delta hdelta
    rw [h delta hdelta, hi]
    rfl
  · rw [if_neg hi, callsAt, List.filter_eq_nil_iff]
    intro delta hdelta hindex
    exact hi ((of_decide_eq_true hindex).symm.trans (h delta hdelta))

theorem callsAt_wholeStream (i : Nat) :
    callsAt i wholeStream = if i = 0 then streamCalls wholeStream else [] :=
  callsAt_first (by decide) i

theorem callsAt_fragmentedStream (i : Nat) :
    callsAt i fragmentedStream = if i = 0 then streamCalls fragmentedStream else [] :=
  callsAt_first (by decide) i

/-- Lists that differ in repetitions have the same members. -/
theorem mem_iff_of_dedup {α : Type} [DecidableEq α] {values others : List α}
    (h : values.dedup = others.dedup) (v : α) : v ∈ values ↔ v ∈ others := by
  rw [← List.mem_dedup, h, List.mem_dedup]

theorem fragmented_sameFrame : SameFrame wholeStream fragmentedStream :=
  ⟨by decide, mem_iff_of_dedup (by decide), mem_iff_of_dedup (by decide),
    mem_iff_of_dedup (by decide), mem_iff_of_dedup (by decide), mem_iff_of_dedup (by decide),
    mem_iff_of_dedup (by decide)⟩

theorem fragmented_sameTexts : SameTexts wholeStream fragmentedStream := by
  refine ⟨by decide, by decide, fun i => ?_, fun i => ?_⟩
  · rw [namePieces, namePieces, callsAt_wholeStream, callsAt_fragmentedStream]
    split
    · decide
    · rfl
  · rw [argumentPieces, argumentPieces, callsAt_wholeStream, callsAt_fragmentedStream]
    split
    · decide
    · rfl

theorem fragmented_sameIds : SameIds wholeStream fragmentedStream := by
  intro i
  rw [toolIds, toolIds, callsAt_wholeStream, callsAt_fragmentedStream]
  split
  · exact mem_iff_of_dedup (by decide)
  · exact fun _ => Iff.rfl

theorem whole_nameCuts : NameCuts wholeStream := by
  intro i before after hpieces hbefore hafter
  have hfew : (namePieces i wholeStream).length ≤ 1 := by
    rw [namePieces, callsAt_wholeStream]
    split <;> decide
  have hmore := List.length_pos_of_ne_nil hbefore
  have hrest := List.length_pos_of_ne_nil hafter
  rw [hpieces, List.length_append] at hfew
  omega

theorem fragmented_nameCuts : NameCuts fragmentedStream := by
  have hcuts : ∀ k ∈ List.range 4, k ≠ 0 →
      String.join (["read_", "discuss", "ion"].take k) ≠ "" ∧
        ((String.join (["read_", "discuss", "ion"].take k)).toList.getLast?.any
          isWhitespace) = false := by decide +kernel
  intro i before after hpieces hbefore hafter
  rw [namePieces, callsAt_fragmentedStream] at hpieces
  split at hpieces
  · have hnames : (streamCalls fragmentedStream).filterMap ToolCallDelta.name =
        ["read_", "discuss", "ion"] := by decide
    rw [hnames] at hpieces
    have htake : before = ["read_", "discuss", "ion"].take before.length := by
      rw [hpieces, List.take_left]
    have hlength : before.length < 4 := by
      have hsum := congrArg List.length hpieces
      rw [List.length_append] at hsum
      simp only [List.length_cons, List.length_nil] at hsum
      omega
    rw [htake]
    obtain ⟨hnonempty, hlast⟩ := hcuts _ (List.mem_range.mpr hlength)
      (Nat.ne_of_gt (List.length_pos_of_ne_nil hbefore))
    refine ⟨hnonempty, fun c hc => ?_⟩
    rw [Option.mem_def.mp hc] at hlast
    exact hlast
  · exact absurd (List.append_eq_nil_iff.mp hpieces.symm).1 hbefore

theorem fragmented_stream_completed :
    completeStream wholeStream = completeStream fragmentedStream ∧
      completeStream fragmentedStream = .ok ⟨"chat-1", "model-1", "tool_calls",
        ⟨"assistant", some "hi", some "private",
          [⟨"call-1", "function", "read_discussion", "\x7b\x7d"⟩]⟩, none⟩ := by
  have halike := (fragments_complete_alike wholeStream).1 fragmentedStream fragmented_sameFrame
    fragmented_sameTexts fragmented_sameIds whole_nameCuts fragmented_nameCuts
  refine ⟨halike, halike.symm.trans ?_⟩
  decide +kernel

/-- The first stream with the id of its call cut in two. -/
def splitIdStream : List StreamChunk :=
  [chatChunk [("content", .string "hi"), ("reasoning", .string "private"),
      ("tool_calls", .array [firstCall "call-" "read_discussion" "\x7b\x7d"])],
    chatChunk [("tool_calls", .array [firstCall "1" "" ""])]]

theorem callsAt_splitIdStream (i : Nat) :
    callsAt i splitIdStream = if i = 0 then streamCalls splitIdStream else [] :=
  callsAt_first (by decide) i

theorem splitId_sameFrame : SameFrame wholeStream splitIdStream :=
  ⟨by decide, mem_iff_of_dedup (by decide), mem_iff_of_dedup (by decide),
    mem_iff_of_dedup (by decide), mem_iff_of_dedup (by decide), mem_iff_of_dedup (by decide),
    mem_iff_of_dedup (by decide)⟩

theorem splitId_sameTexts : SameTexts wholeStream splitIdStream := by
  refine ⟨by decide, by decide, fun i => ?_, fun i => ?_⟩
  · rw [namePieces, namePieces, callsAt_wholeStream, callsAt_splitIdStream]
    split
    · decide
    · rfl
  · rw [argumentPieces, argumentPieces, callsAt_wholeStream, callsAt_splitIdStream]
    split
    · decide
    · rfl

/-- An id is compared, not appended to: cut in two, it is refused. -/
theorem split_id_refused :
    SameFrame wholeStream splitIdStream ∧ SameTexts wholeStream splitIdStream ∧
      (∀ i, String.join (toolIds i wholeStream) = String.join (toolIds i splitIdStream)) ∧
      (∃ completion, completeStream wholeStream = .ok completion) ∧
      completeStream splitIdStream = .error .invalidResponse := by
  refine ⟨splitId_sameFrame, splitId_sameTexts, fun i => ?_, ?_, ?_⟩
  · rw [toolIds, toolIds, callsAt_wholeStream, callsAt_splitIdStream]
    split
    · decide
    · rfl
  · exact ⟨⟨"chat-1", "model-1", "tool_calls", ⟨"assistant", some "hi", some "private",
      [⟨"call-1", "function", "read_discussion", "\x7b\x7d"⟩]⟩, none⟩, by decide +kernel⟩
  · decide +kernel

end AgentsAssemble.Provider
