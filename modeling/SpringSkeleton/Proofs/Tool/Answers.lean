import SpringSkeleton.Proofs.Json.Record
import SpringSkeleton.Tool.Session

namespace SpringSkeleton

namespace Rpc

-- The number of the error that a response carries; a result has none.
def Response.errorNumber? (response : Response) : Option Int :=
  match response.outcome with
  | .ok _ => none
  | .error error => some error.code.number

-- A request without an id whose method is that of a notification.
def Request.Silent (request : Request) : Prop :=
  (request.id = none ∨ request.id = some .null) ∧ ∃ rest, request.method = "notifications/" ++ rest

theorem Request.parse_present {text : String} {request : Request} (parsed : parse text = .ok request) :
    request.id ≠ some .null ∧ request.params ≠ some .null := by
  obtain ⟨slots, read, rfl⟩ := Json.ok_of_map parsed
  have sources : Json.Record.Sources Json.Shape.Present record.members := by
    refine ⟨Json.Shape.read_present, ?_, ?_⟩
    all_goals
      simp only [Json.Member.required, List.forall_mem_cons, List.not_mem_nil]
      simp [Json.Shape.Present]
  have each := Json.Record.parse_each sources read
  obtain ⟨version, id, method, params, _⟩ := slots
  exact ⟨each.2.1, each.2.2.2.1⟩

theorem Request.isNotification_iff {text : String} {request : Request}
    (parsed : parse text = .ok request) : request.isNotification = true ↔ request.Silent := by
  obtain ⟨id, _⟩ := parse_present parsed
  have marked : Text.startsWith notificationMark request.method = true ↔
      ∃ rest, request.method = "notifications/" ++ rest := by
    rw [Text.startsWith, List.isPrefixOf_iff_prefix]
    constructor
    · rintro ⟨rest, chars⟩
      exact ⟨String.ofList rest, String.toList_inj.mp (by simp [← chars, notificationMark])⟩
    · rintro ⟨rest, method⟩
      exact ⟨rest.toList, by rw [method]; simp [notificationMark]⟩
  rw [isNotification, Bool.and_eq_true, marked, Option.isNone_iff_eq_none, Silent]
  simp [id]

-- A response is written with its id, and with its result or its error but not with both.
theorem Response.write_members (response : Response) :
    (∃ result, response.outcome = .ok result ∧ response.errorNumber? = none ∧
      response.write = String.ofList (Json.writtenMembers
        [("jsonrpc", Json.writtenText "2.0"), ("id", Json.writtenChars (response.id.getD .null)),
          ("result", Json.writtenChars result)])) ∨
    ∃ error, response.outcome = .error error ∧ response.errorNumber? = some error.code.number ∧
      response.write = String.ofList (Json.writtenMembers
        [("jsonrpc", Json.writtenText "2.0"), ("id", Json.writtenChars (response.id.getD .null)),
          ("error", Json.writtenMembers [("code", Json.writtenInt error.code.number),
            ("message", Json.writtenText error.message)])]) := by
  obtain ⟨id, outcome⟩ := response
  cases outcome with
  | ok result => exact .inl ⟨result, rfl, rfl, rfl⟩
  | error error => exact .inr ⟨error, rfl, rfl, rfl⟩

end Rpc

theorem Tool.ofName?_eq_some_iff {name : String} {tool : Tool} :
    Tool.ofName? name = some tool ↔ tool.name = name := by
  constructor
  · intro found
    have named := List.find?_some found
    simpa using named
  · rintro rfl
    cases tool <;> decide

namespace Session

variable {workspace : Workspace} {disk : Disk}

-- Arguments may be left out of a call.
def argumentsOf (params : Json.Value) : Json.Value :=
  (params.member? "arguments").getD (Json.Value.record [])

def UnknownTool (params : Option Json.Value) : Prop :=
  ∃ given name, params = some given ∧ given.member? "name" = some (.text name) ∧
    ∀ tool : Tool, tool.name ≠ name

-- A call without parameters, without the name of a tool, or with arguments that are none of it.
def BadParams (params : Option Json.Value) : Prop :=
  params = none ∨ ∃ given, params = some given ∧
    ((∀ name, given.member? "name" ≠ some (.text name)) ∨
      ∃ tool : Tool, given.member? "name" = some (.text tool.name) ∧
        ∀ call, ToolCall.ofArguments tool (argumentsOf given) ≠ .ok call)

-- What no session offers: another method, or a call of another tool.
def Unoffered (request : Rpc.Request) : Prop :=
  request.method ∉ ["initialize", "tools/list", "tools/call"] ∨
    request.method = "tools/call" ∧ UnknownTool request.params

def Malformed (request : Rpc.Request) : Prop :=
  request.method = "tools/call" ∧ BadParams request.params

theorem UnknownTool.not_badParams {params : Option Json.Value} (unknown : UnknownTool params) :
    ¬BadParams params := by
  obtain ⟨given, name, rfl, named, none⟩ := unknown
  rintro (missing | ⟨_, same, nameless | ⟨tool, called, _⟩⟩)
  · cases missing
  · cases same
    exact nameless name named
  · cases same
    rw [named] at called
    cases called
    exact none tool rfl

theorem Unoffered.not_malformed {request : Rpc.Request} (unoffered : Unoffered request) :
    ¬Malformed request := by
  rintro ⟨called, bad⟩
  rcases unoffered with other | ⟨_, unknown⟩
  · simp [called] at other
  · exact unknown.not_badParams bad

theorem toolName_ok {given : Json.Value} {name : String} (chosen : toolName given = .ok name) :
    given.member? "name" = some (.text name) := by
  unfold toolName at chosen
  split at chosen
  · rename_i found
    cases chosen
    exact found
  · cases chosen

theorem toolName_error {given : Json.Value} {error : Rpc.Error} (refused : toolName given = .error error) :
    error.code = .invalidParams ∧ ∀ name, given.member? "name" ≠ some (.text name) := by
  unfold toolName at refused
  split at refused
  · cases refused
  · rename_i other
    cases refused
    exact ⟨rfl, other⟩

variable {name : String} {arguments : Json.Value} {call : ToolCall} {error : Rpc.Error}

theorem parseCall_ok (parsed : ToolCall.parse name arguments = .ok call) :
    ∃ tool : Tool, tool.name = name ∧ ToolCall.ofArguments tool arguments = .ok call := by
  unfold ToolCall.parse at parsed
  split at parsed
  · cases parsed
  · rename_i tool found
    refine ⟨tool, Tool.ofName?_eq_some_iff.mp found, ?_⟩
    cases read : ToolCall.ofArguments tool arguments with
    | error complaint =>
      rw [read] at parsed
      cases parsed
    | ok call =>
      rw [read] at parsed
      cases parsed
      rfl

theorem parseCall_error (refused : ToolCall.parse name arguments = .error error) :
    (error.code = .methodNotFound ∧ ∀ tool : Tool, tool.name ≠ name) ∨
      (error.code = .invalidParams ∧ ∃ tool : Tool, tool.name = name ∧
        ∀ call, ToolCall.ofArguments tool arguments ≠ .ok call) := by
  unfold ToolCall.parse at refused
  split at refused
  · rename_i none
    cases refused
    refine .inl ⟨rfl, fun tool named => ?_⟩
    rw [Tool.ofName?_eq_some_iff.mpr named] at none
    cases none
  · rename_i tool found
    cases read : ToolCall.ofArguments tool arguments with
    | ok call =>
      rw [read] at refused
      cases refused
    | error complaint =>
      rw [read] at refused
      cases refused
      exact .inr ⟨rfl, tool, Tool.ofName?_eq_some_iff.mp found, fun call taken => by
        rw [read] at taken
        cases taken⟩

variable {params : Option Json.Value}

theorem requestedCall_ok (taken : requestedCall params = .ok call) :
    ¬UnknownTool params ∧ ¬BadParams params := by
  unfold requestedCall at taken
  split at taken
  · cases taken
  · rename_i given
    split at taken
    · cases taken
    · rename_i name chosen
      have named := toolName_ok chosen
      obtain ⟨tool, rfl, read⟩ := parseCall_ok taken
      constructor
      · rintro ⟨_, name, same, called, none⟩
        cases same
        rw [named] at called
        cases called
        exact none tool rfl
      · rintro (missing | ⟨_, same, nameless | ⟨other, called, refused⟩⟩)
        · cases missing
        · cases same
          exact nameless _ named
        · cases same
          have text : tool.name = other.name := by simpa [named] using called
          have one := Tool.ofName?_eq_some_iff.mpr text
          rw [Tool.ofName?_eq_some_iff.mpr rfl] at one
          cases one
          exact refused call read

theorem requestedCall_error (refused : requestedCall params = .error error) :
    error.code = .methodNotFound ∧ UnknownTool params ∨
      error.code = .invalidParams ∧ BadParams params := by
  unfold requestedCall at refused
  split at refused
  · cases refused
    exact .inr ⟨rfl, .inl rfl⟩
  · rename_i given
    split at refused
    · rename_i error chosen
      cases refused
      obtain ⟨code, nameless⟩ := toolName_error chosen
      exact .inr ⟨code, .inr ⟨given, rfl, .inl nameless⟩⟩
    · rename_i name chosen
      have named := toolName_ok chosen
      rcases parseCall_error refused with ⟨code, none⟩ | ⟨code, tool, rfl, unread⟩
      · exact .inl ⟨code, given, name, rfl, named, none⟩
      · exact .inr ⟨code, .inr ⟨given, rfl, .inr ⟨tool, named, unread⟩⟩⟩

variable {request : Rpc.Request} {after : Disk}

theorem dispatch_ok {result : Json.Value} (done : dispatch workspace disk request = (.ok result, after)) :
    ¬Unoffered request ∧ ¬Malformed request := by
  unfold dispatch at done
  split at done
  · rename_i method
    simp [Unoffered, Malformed, method]
  · rename_i method
    simp [Unoffered, Malformed, method]
  · rename_i method
    unfold callTool at done
    split at done
    · cases done
    · rename_i call taken
      simpa [Unoffered, Malformed, method] using requestedCall_ok taken
  · cases done

-- A refusal comes before anything is done.
theorem dispatch_error (refused : dispatch workspace disk request = (.error error, after)) :
    after = disk ∧ (error.code = .methodNotFound ∧ Unoffered request ∨
      error.code = .invalidParams ∧ Malformed request) := by
  unfold dispatch at refused
  split at refused
  · cases refused
  · cases refused
  · rename_i method
    unfold callTool at refused
    split at refused
    · rename_i error taken
      cases refused
      refine ⟨rfl, ?_⟩
      simpa [Unoffered, Malformed, method] using requestedCall_error taken
    · cases refused
  · rename_i notGreeting notList notCall
    cases refused
    refine ⟨rfl, .inl ⟨rfl, .inl ?_⟩⟩
    simpa using ⟨notGreeting, notList, notCall⟩

-- The number in the answer to a request tells what is wrong with it.
theorem errorNumber?_dispatch {outcome : Except Rpc.Error Json.Value} (id : Option Json.Value)
    (done : dispatch workspace disk request = (outcome, after)) :
    (⟨id, outcome⟩ : Rpc.Response).errorNumber? ≠ some (-32700) ∧
    ((⟨id, outcome⟩ : Rpc.Response).errorNumber? = some (-32601) ↔ Unoffered request) ∧
    ((⟨id, outcome⟩ : Rpc.Response).errorNumber? = some (-32602) ↔ Malformed request) ∧
    ((⟨id, outcome⟩ : Rpc.Response).errorNumber? = none ↔ ¬Unoffered request ∧ ¬Malformed request) := by
  cases outcome with
  | ok result =>
    obtain ⟨offered, formed⟩ := dispatch_ok done
    simp [Rpc.Response.errorNumber?, offered, formed]
  | error error =>
    obtain ⟨_, ⟨code, unoffered⟩ | ⟨code, malformed⟩⟩ := dispatch_error done
    · have formed := unoffered.not_malformed
      simp [Rpc.Response.errorNumber?, code, Rpc.ErrorCode.number, unoffered, formed]
    · have offered : ¬Unoffered request := fun unoffered => unoffered.not_malformed malformed
      simp [Rpc.Response.errorNumber?, code, Rpc.ErrorCode.number, malformed, offered]

-- The four ways of a line.
theorem answer_cases (workspace : Workspace) (disk : Disk) (line : String) :
    (Text.isBlankText line = true ∧ answer workspace disk line = (none, disk)) ∨
    Text.isBlankText line = false ∧
      ((∃ fault, Rpc.Request.parse line = .error fault ∧
        answer workspace disk line = (some (unreadable fault), disk)) ∨
      ∃ request, Rpc.Request.parse line = .ok request ∧
        ((request.Silent ∧ answer workspace disk line = (none, disk)) ∨
        ∃ outcome after, ¬request.Silent ∧ dispatch workspace disk request = (outcome, after) ∧
          answer workspace disk line = (some ⟨request.id, outcome⟩, after))) := by
  unfold answer
  cases blank : Text.isBlankText line with
  | true => exact .inl ⟨rfl, rfl⟩
  | false =>
    refine .inr ⟨rfl, ?_⟩
    cases parsed : Rpc.Request.parse line with
    | error fault => exact .inl ⟨fault, rfl, rfl⟩
    | ok request =>
      refine .inr ⟨request, rfl, ?_⟩
      have silent := Rpc.Request.isNotification_iff parsed
      cases notified : request.isNotification with
      | true => exact .inl ⟨silent.mp notified, by simp [notified]⟩
      | false =>
        refine .inr ⟨(dispatch workspace disk request).1, (dispatch workspace disk request).2,
          fun quiet => ?_, rfl, by simp only [notified, Bool.false_eq_true, if_false]⟩
        rw [silent.mpr quiet] at notified
        cases notified

variable {line : String} {response : Rpc.Response}

theorem answer_eq_none_iff : (answer workspace disk line).1 = none ↔ Text.isBlankText line = true ∨
    ∃ request, Rpc.Request.parse line = .ok request ∧ request.Silent := by
  rcases answer_cases workspace disk line with ⟨blank, run⟩ | ⟨filled, ⟨fault, unread, run⟩ |
    ⟨request, parsed, ⟨silent, run⟩ | ⟨outcome, after, loud, _, run⟩⟩⟩
  · simp [run, blank]
  · simp [run, filled, unread]
  · simp [run, parsed, silent]
  · simp [run, filled, parsed, loud]

-- An answer tells that the line is no request, or what became of the request.
theorem answer_some (answered : (answer workspace disk line).1 = some response) :
    (∃ fault, Rpc.Request.parse line = .error fault ∧ response = unreadable fault) ∨
      ∃ request outcome after, Rpc.Request.parse line = .ok request ∧
        dispatch workspace disk request = (outcome, after) ∧ response = ⟨request.id, outcome⟩ := by
  rcases answer_cases workspace disk line with ⟨_, run⟩ | ⟨_, ⟨fault, unread, run⟩ |
    ⟨request, parsed, ⟨_, run⟩ | ⟨outcome, after, _, done, run⟩⟩⟩
  all_goals
    rw [run] at answered
    cases answered
  · exact .inl ⟨fault, unread, rfl⟩
  · exact .inr ⟨request, outcome, after, parsed, done, rfl⟩

theorem answer_unread (answered : (answer workspace disk line).1 = some response) :
    (response.errorNumber? = some (-32700) ↔ ∀ request, Rpc.Request.parse line ≠ .ok request) ∧
      (response.errorNumber? = some (-32700) → response.id = none) := by
  rcases answer_some answered with ⟨fault, unread, rfl⟩ | ⟨request, outcome, after, parsed, done, rfl⟩
  · exact ⟨⟨fun _ request => by simp [unread], fun _ => rfl⟩, fun _ => rfl⟩
  · obtain ⟨readable, _⟩ := errorNumber?_dispatch request.id done
    exact ⟨⟨fun number => absurd number readable, fun none => absurd parsed (none request)⟩,
      fun number => absurd number readable⟩

theorem answer_request (answered : (answer workspace disk line).1 = some response)
    (parsed : Rpc.Request.parse line = .ok request) :
    response.id = request.id ∧ (response.errorNumber? = some (-32601) ↔ Unoffered request) ∧
      (response.errorNumber? = some (-32602) ↔ Malformed request) ∧
      (response.errorNumber? = none ↔ ¬Unoffered request ∧ ¬Malformed request) := by
  rcases answer_some answered with ⟨fault, unread, _⟩ | ⟨other, outcome, after, same, done, rfl⟩
  · rw [parsed] at unread
    cases unread
  · rw [parsed] at same
    cases same
    exact ⟨rfl, (errorNumber?_dispatch request.id done).2⟩

theorem answer_unmoved (failed : ∀ response, (answer workspace disk line).1 = some response →
    response.errorNumber? ≠ none) : (answer workspace disk line).2 = disk := by
  rcases answer_cases workspace disk line with ⟨_, run⟩ | ⟨_, ⟨fault, _, run⟩ |
    ⟨request, _, ⟨_, run⟩ | ⟨outcome, after, _, done, run⟩⟩⟩
  · rw [run]
  · rw [run]
  · rw [run]
  · rw [run] at failed ⊢
    cases outcome with
    | ok result => exact absurd rfl (failed _ rfl)
    | error error => exact (dispatch_error done).1

-- A line that is blank or a notification gets no answer, any other line gets one. A line that is no
-- request is told so; the answer to a request carries its id, and it is an error exactly when the
-- request is for nothing that is offered or is malformed. Without a result nothing is changed.
theorem answer_classified (workspace : Workspace) (disk : Disk) (line : String) :
    let answered := (answer workspace disk line).1
    let after := (answer workspace disk line).2
    (answered = none ↔ Text.isBlankText line = true ∨
      ∃ request, Rpc.Request.parse line = .ok request ∧ request.Silent) ∧
    (∀ response, answered = some response →
      ((∃ result, response.outcome = .ok result ∧ response.errorNumber? = none ∧
          response.write = String.ofList (Json.writtenMembers
            [("jsonrpc", Json.writtenText "2.0"), ("id", Json.writtenChars (response.id.getD .null)),
              ("result", Json.writtenChars result)])) ∨
        ∃ error, response.outcome = .error error ∧ response.errorNumber? = some error.code.number ∧
          response.write = String.ofList (Json.writtenMembers
            [("jsonrpc", Json.writtenText "2.0"), ("id", Json.writtenChars (response.id.getD .null)),
              ("error", Json.writtenMembers [("code", Json.writtenInt error.code.number),
                ("message", Json.writtenText error.message)])])) ∧
      (response.errorNumber? = some (-32700) ↔ ∀ request, Rpc.Request.parse line ≠ .ok request) ∧
      (response.errorNumber? = some (-32700) → response.id = none) ∧
      ∀ request, Rpc.Request.parse line = .ok request →
        response.id = request.id ∧
        (response.errorNumber? = some (-32601) ↔ Unoffered request) ∧
        (response.errorNumber? = some (-32602) ↔ Malformed request) ∧
        (response.errorNumber? = none ↔ ¬Unoffered request ∧ ¬Malformed request)) ∧
    ((∀ response, answered = some response → response.errorNumber? ≠ none) → after = disk) := by
  intro answered after
  refine ⟨answer_eq_none_iff, fun response given => ?_, answer_unmoved⟩
  obtain ⟨unread, anonymous⟩ := answer_unread given
  exact ⟨Rpc.Response.write_members response, unread, anonymous,
    fun request parsed => answer_request given parsed⟩

-- A call without arguments, where the tool needs one.
def bareCall : String :=
  "\x7b\"jsonrpc\":\"2.0\",\"id\":7,\"method\":\"tools/call\",\"params\":\x7b\"name\":\"enhance_domain\"\x7d\x7d"

theorem answer_classified_call : ∃ response request,
    (answer ⟨⟨""⟩, {}⟩ ⟨Tree.empty, []⟩ bareCall).1 = some response ∧
    Rpc.Request.parse bareCall = .ok request ∧ response.id = request.id ∧ Malformed request ∧
    (answer ⟨⟨""⟩, {}⟩ ⟨Tree.empty, []⟩ bareCall).2 = ⟨Tree.empty, []⟩ := by
  obtain ⟨_, answered, unchanged⟩ := answer_classified ⟨⟨""⟩, {}⟩ ⟨Tree.empty, []⟩ bareCall
  have number : ((answer ⟨⟨""⟩, {}⟩ ⟨Tree.empty, []⟩ bareCall).1.bind Rpc.Response.errorNumber?) =
      some (-32602) := by decide +kernel
  obtain ⟨response, given, refused⟩ := Option.bind_eq_some_iff.mp number
  obtain ⟨_, unreadable, _, classified⟩ := answered response given
  cases parsed : Rpc.Request.parse bareCall with
  | error fault =>
    have other := unreadable.mpr fun request same => by
      rw [parsed] at same
      cases same
    rw [refused] at other
    cases other
  | ok request =>
    obtain ⟨id, _, malformed, _⟩ := classified request parsed
    refine ⟨response, request, given, rfl, id, malformed.mp refused, unchanged fun other same => ?_⟩
    rw [given] at same
    cases same
    rw [refused]
    exact Option.some_ne_none _

end Session
end SpringSkeleton
