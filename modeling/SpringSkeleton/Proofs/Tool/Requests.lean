import SpringSkeleton.Proofs.Json.RoundTrip
import SpringSkeleton.Proofs.Tool.Answers

namespace SpringSkeleton
open Json Record

theorem ProjectSpec.plain : Plain ProjectSpec.record.members :=
  ⟨by decide, by simp [Member.required, Member.withDefault]⟩

namespace Tool

theorem plain (tool : Tool) : Plain tool.arguments.members := by
  cases tool with
  | bootstrapProject => exact ⟨by decide, by simp [arguments, Member.required, Member.withDefault]⟩
  | enhanceDomain => exact ⟨by decide, by simp [arguments, Member.required, Member.withDefault]⟩
  | generateTests => exact ⟨by decide, by simp [arguments, Member.required]⟩

-- What stands for an absent member is in order, as all that is read is.
theorem sources (tool : Tool) : Sources Shape.Orderly tool.arguments.members := by
  have absent : ∀ member ∈ tool.arguments.members,
      (∀ value, member.absentInObject = some value → member.shape.Orderly value) ∧
      ∀ value, member.absentInList = some value → member.shape.Orderly value := by
    cases tool <;>
      simp [arguments, Member.required, Member.withDefault, Shape.Orderly, Keyed.Ascending]
  exact ⟨Shape.read_orderly, fun member inside => (absent member inside).1,
    fun member inside => (absent member inside).2⟩

theorem ofValue_toValue (tool : Tool) {arguments : Value} {slots : Slots tool.arguments.members}
    (read : tool.arguments.ofValue arguments = .ok slots) :
    tool.arguments.ofValue (tool.arguments.toValue slots) = .ok slots :=
  Record.ofValue_toValue tool.plain (ofValue_each Shape.ofValue_orderly tool.sources read)

end Tool

theorem ToolCall.ofArguments_arguments {tool : Tool} {arguments : Value} {call : ToolCall}
    (read : ofArguments tool arguments = .ok call) : ofArguments tool call.arguments = .ok call := by
  cases tool with
  | bootstrapProject =>
    obtain ⟨request, made, rfl⟩ := ok_of_map read
    obtain ⟨slots, found, rfl⟩ := ok_of_map made
    have again := Tool.ofValue_toValue .bootstrapProject found
    exact congrArg (fun result => (result.map ProjectRequest.ofSlots).map bootstrapProject) again
  | enhanceDomain =>
    obtain ⟨request, made, rfl⟩ := ok_of_map read
    obtain ⟨slots, found, rfl⟩ := ok_of_map made
    have again := Tool.ofValue_toValue .enhanceDomain found
    exact congrArg (fun result => (result.map ModuleRequest.ofSlots).map enhanceDomain) again
  | generateTests =>
    obtain ⟨request, made, rfl⟩ := ok_of_map read
    obtain ⟨slots, found, rfl⟩ := ok_of_map made
    have again := Tool.ofValue_toValue .generateTests found
    exact congrArg (fun result => (result.map TestRequest.ofSlots).map generateTests) again

theorem ToolCall.parse_arguments {name : String} {arguments : Value} {call : ToolCall}
    (parsed : parse name arguments = .ok call) : parse name call.arguments = .ok call := by
  obtain ⟨tool, rfl, read⟩ := Session.parseCall_ok parsed
  rw [parse, Tool.ofName?_eq_some_iff.mpr rfl]
  simp only [ofArguments_arguments read]
  rfl

-- Writing loses nothing.
theorem requests_recovered :
    (∀ spec : ProjectSpec, (∀ packages, spec.structure_ = some packages → Keyed.Ascending packages) →
      ProjectSpec.parse spec.write = .ok spec) ∧
    (∀ request : ProjectRequest, ProjectRequest.parse request.write = .ok request) ∧
    (∀ request : ModuleRequest, Keyed.Ascending request.fields →
      ModuleRequest.parse request.write = .ok request) ∧
    (∀ request : TestRequest, TestRequest.parse request.write = .ok request) ∧
    ∀ name arguments call, ToolCall.parse name arguments = .ok call →
      ToolCall.parse name call.arguments = .ok call := by
  refine ⟨fun spec ordered => ?_, fun request => ?_, fun request ordered => ?_, fun request => ?_,
    fun name arguments call => ToolCall.parse_arguments⟩
  · have orderly : Each Shape.Orderly ProjectSpec.record.members spec.slots :=
      ⟨trivial, trivial, trivial, trivial, ordered, trivial⟩
    exact congrArg (Except.map ProjectSpec.ofSlots) (read_written ProjectSpec.plain orderly)
  · have orderly : Each Shape.Orderly ProjectRequest.record.members request.slots :=
      ⟨trivial, trivial, trivial, trivial, trivial⟩
    exact congrArg (Except.map ProjectRequest.ofSlots)
      (read_written (Tool.plain .bootstrapProject) orderly)
  · have orderly : Each Shape.Orderly ModuleRequest.record.members request.slots :=
      ⟨trivial, ordered, trivial, trivial, trivial⟩
    exact congrArg (Except.map ModuleRequest.ofSlots)
      (read_written (Tool.plain .enhanceDomain) orderly)
  · have orderly : Each Shape.Orderly TestRequest.record.members request.slots :=
      ⟨trivial, trivial, trivial⟩
    exact congrArg (Except.map TestRequest.ofSlots) (read_written (Tool.plain .generateTests) orderly)

-- Quotes, a control character and an empty option; packages without classes; a call that leaves out what
-- it may.
def quoted : ModuleRequest := ⟨"\"Order\"", [("a\\", "é"), ("b", "\x01\n")], [""], some ""⟩

def packaged : ProjectSpec := ⟨"demo", "com.acme", none, some "", some [("api", []), ("model", ["A", "B"])]⟩

theorem requests_recovered_quoted : ModuleRequest.parse quoted.write = .ok quoted ∧
    ProjectSpec.parse packaged.write = .ok packaged ∧
    ∃ call, ToolCall.parse "enhance_domain" (Value.record [("entityName", .text "Order")]) = .ok call ∧
      ToolCall.parse "enhance_domain" call.arguments = .ok call := by
  obtain ⟨specs, _, modules, _, calls⟩ := requests_recovered
  have fields : Keyed.Ascending quoted.fields := by
    unfold Keyed.Ascending
    decide
  have packages : ∀ packages, packaged.structure_ = some packages → Keyed.Ascending packages := by
    rintro _ ⟨⟩
    unfold Keyed.Ascending
    decide
  have parsed : ToolCall.parse "enhance_domain" (Value.record [("entityName", .text "Order")]) =
      .ok (.enhanceDomain ⟨"Order", [], [], none⟩) := by decide
  exact ⟨modules quoted fields, specs packaged packages, _, parsed, calls _ _ _ parsed⟩

end SpringSkeleton
