import SpringSkeleton.CommandLine.Run
import SpringSkeleton.Proofs.ClassModel.Confinement
import SpringSkeleton.Proofs.FeatureModule.Confinement
import SpringSkeleton.Proofs.Tool.Answers

namespace SpringSkeleton

variable {workspace : Workspace} {disk : Disk}

namespace Text

theorem startsWith_iff {start s : String} : startsWith start s = true ↔ ∃ rest, s = start ++ rest := by
  rw [startsWith, List.isPrefixOf_iff_prefix]
  constructor
  · rintro ⟨rest, chars⟩
    exact ⟨String.ofList rest, String.toList_inj.mp (by simp [← chars])⟩
  · rintro ⟨rest, rfl⟩
    exact ⟨rest.toList, String.toList_append.symm⟩

-- Two texts that begin with different characters.
theorem startsWith_append {start fixed rest : String} {c d : Char} (first : start.toList.head? = some c)
    (second : fixed.toList.head? = some d) (other : c ≠ d) : startsWith start (fixed ++ rest) = false := by
  obtain ⟨cs, start⟩ := List.head?_eq_some_iff.mp first
  obtain ⟨ds, fixed⟩ := List.head?_eq_some_iff.mp second
  rw [startsWith, String.toList_append, start, fixed, List.cons_append, List.isPrefixOf]
  simp [other]

end Text

namespace Status

theorem isFailure_append {fixed rest : String} {c : Char} (first : fixed.toList.head? = some c)
    (other : 'F' ≠ c) : isFailure (fixed ++ rest) = false :=
  Text.startsWith_append (by decide) first other

theorem isFailure_projectExists (path : Path) : isFailure (projectExists path) = false := by
  have first : "Project directory already exists: ".toList.head? = some 'P' := by simp
  exact isFailure_append first (by decide)

theorem isFailure_projectCreated (name : String) (path : Path) :
    isFailure (projectCreated name path) = false := by
  have first : "Project ".toList.head? = some 'P' := by simp
  unfold projectCreated
  rw [String.append_assoc, String.append_assoc]
  exact isFailure_append first (by decide)

theorem isFailure_domainEnhanced (entity package : String) (directory : Path) :
    isFailure (domainEnhanced entity package directory) = false := by
  have first : "Enhanced domain for ".toList.head? = some 'E' := by simp
  unfold domainEnhanced
  rw [String.append_assoc, String.append_assoc, String.append_assoc, String.append_assoc]
  exact isFailure_append first (by decide)

end Status

namespace Operation

-- Something went wrong inside an operation.
def Erred {α : Type} (outcome : Outcome α) : Prop := ∃ problem, outcome.1 = .error problem

theorem isFailure_report {α : Type} {success : α → String}
    (plain : ∀ value, Status.isFailure (success value) = false) (action : String) (outcome : Outcome α) :
    Status.isFailure (report action success outcome).1 = true ↔ Erred outcome := by
  obtain ⟨result, after⟩ := outcome
  cases result with
  | ok value => simp [report, plain, Erred]
  | error problem => simp [report, isFailure_failure, Erred]

theorem isFailure_projectStatus (outcome : Project.Outcome) :
    Status.isFailure (projectStatus outcome) = false := by
  cases outcome with
  | created name path _ => exact Status.isFailure_projectCreated name path
  | alreadyExists path => exact Status.isFailure_projectExists path

theorem isFailure_bootstrap (request : ProjectRequest) :
    Status.isFailure (bootstrap workspace disk request).1 = true ↔
      Erred (createProject workspace disk request) :=
  isFailure_report isFailure_projectStatus _ _

theorem isFailure_enhance (request : ModuleRequest) :
    Status.isFailure (enhance workspace disk request).1 = true ↔
      Erred (addModule workspace disk request) :=
  isFailure_report (fun _ => Status.isFailure_domainEnhanced _ _ _) _ _

theorem isFailure_generateTestsBy (extractor : Extractor) (request : TestRequest) :
    Status.isFailure (generateTestsBy extractor workspace disk request).1 = true ↔
      Erred (addTest extractor workspace disk request) :=
  isFailure_report (fun _ => isFailure_testsGenerated _ _) _ _

end Operation

-- Something goes wrong inside the operation that is called.
def ToolCall.Errs (workspace : Workspace) (disk : Disk) : ToolCall → Prop
  | bootstrapProject request => Operation.Erred (Operation.createProject workspace disk request)
  | enhanceDomain request => Operation.Erred (Operation.addModule workspace disk request)
  | generateTests request =>
    Operation.Erred
      (Operation.addTest (ClassModel.extract workspace.settings.fallbackPackage) workspace disk request)

theorem ToolCall.isFailure_run (call : ToolCall) :
    Status.isFailure (call.run workspace disk).1 = true ↔ call.Errs workspace disk := by
  cases call with
  | bootstrapProject request => exact Operation.isFailure_bootstrap request
  | enhanceDomain request => exact Operation.isFailure_enhance request
  | generateTests request => exact Operation.isFailure_generateTestsBy _ request

namespace Json

theorem Cursor.suffix_skipSpaces {cs : List Char} {cursor : Cursor} (chars : cursor.rest = cs) :
    (skipSpaces cs cursor).rest <:+ cs := by
  induction cs generalizing cursor with
  | nil => simp [skipSpaces, chars]
  | cons c rest ih =>
    unfold skipSpaces
    split
    · exact (ih (rest_next chars)).trans (List.suffix_cons c rest)
    · exact chars ▸ List.suffix_rfl

-- A record begins with a bracket, which no blank text has.
theorem Record.not_parse_blank {record : Record} {text : String} (blank : Text.isBlankText text = true)
    (slots : Slots record.members) : record.parse text ≠ .ok slots := by
  have part : (Cursor.ofText text).pastSpace.rest <:+ text.toList :=
    Cursor.suffix_skipSpaces (rfl : (Cursor.ofText text).rest = text.toList)
  have only : ∀ c ∈ (Cursor.ofText text).pastSpace.rest, Text.isBlank c = true :=
    fun c inside => List.all_eq_true.mp blank c (part.subset inside)
  intro parsed
  unfold parse read at parsed
  simp only at parsed
  split at parsed
  · cases parsed
  · rename_i found
    split at found
    · rename_i rest chars
      exact absurd (only _ (chars ▸ List.mem_cons_self)) (by decide)
    · rename_i rest chars
      exact absurd (only _ (chars ▸ List.mem_cons_self)) (by decide)
    · cases found

end Json

namespace Session

-- The result of a call says whether the call failed.
theorem member?_callResult (status : String) :
    (callResult status).member? "isError" = some (.boolean (Status.isFailure status)) := by
  rw [callResult, Json.Value.record, Json.Value.member?]
  simp [Keyed.ofList, Keyed.find?_insert]

theorem answer_call {line : String} {request : Rpc.Request} {call : ToolCall}
    (parsed : Rpc.Request.parse line = .ok request) (method : request.method = "tools/call")
    (taken : requestedCall request.params = .ok call) :
    (answer workspace disk line).1 =
      some ⟨request.id, .ok (callResult (call.run workspace disk).1)⟩ := by
  have dispatched : dispatch workspace disk request =
      (.ok (callResult (call.run workspace disk).1), (call.run workspace disk).2) := by
    rw [dispatch, method]
    simp [callTool, taken]
  rcases answer_cases workspace disk line with ⟨blank, _⟩ | ⟨_, ⟨fault, unread, _⟩ |
    ⟨other, same, silent | ⟨outcome, after, _, done, run⟩⟩⟩
  · obtain ⟨slots, read, _⟩ := Json.ok_of_map parsed
    exact absurd read (Json.Record.not_parse_blank blank slots)
  · rw [unread] at parsed
    cases parsed
  · rw [parsed] at same
    cases same
    obtain ⟨⟨_, rest, notified⟩, _⟩ := silent
    rw [method] at notified
    have chars := congrArg (fun text => text.toList.head?) notified
    simp at chars
  · rw [parsed] at same
    cases same
    rw [dispatched] at done
    cases done
    rw [run]

end Session

namespace CommandLine

-- The call that a command stands for; the source of a test has to be read for it.
def Command.call? (workspace : Workspace) (disk : Disk) : Command → Option ToolCall
  | bootstrap name package requirements spec =>
    some (.bootstrapProject ⟨name, package, requirements, spec.map (·.text)⟩)
  | enhance entity fields methods root =>
    some (.enhanceDomain ⟨entity, Keyed.ofList fields, methods, root.map (·.text)⟩)
  | generateTests className source _ =>
    (disk.readText (workspace.root.join source)).toOption.map fun text =>
      .generateTests ⟨className, text⟩
  | serve => none
  | describe => none

-- A report that tells a failure by its code, and nothing but success otherwise.
def Report.Tells (report : Report) (failed : Prop) : Prop :=
  (report.code = 1 ↔ failed) ∧ (report.code = 0 ↔ ¬failed)

theorem Report.tells_ofStatus (output : List String) (status : String) :
    (Report.ofStatus output status).Tells (Status.isFailure status = true) := by
  unfold ofStatus
  split
  · rename_i failed
    simp [Tells, Report.failed, failed]
  · rename_i succeeded
    simp [Tells, Report.succeeded, succeeded]

theorem tells_testReport (output : List String) (print : Bool) (status : String) :
    (testReport output print status).Tells (Status.isFailure status = true) := by
  unfold testReport
  split
  · exact Report.tells_ofStatus output status
  · rename_i succeeded
    simp [Report.Tells, Report.succeeded, succeeded]

theorem perform_call {command : Command} {call : ToolCall}
    (called : command.call? workspace disk = some call) :
    ∃ report after, perform workspace disk command = (.finished report, after) ∧
      report.Tells (call.Errs workspace disk) := by
  rw [← call.isFailure_run]
  cases command with
  | bootstrap name package requirements spec =>
    obtain rfl := Option.some.inj called
    refine ⟨_, _, rfl, ?_⟩
    simpa only [runBootstrap, ToolCall.run] using Report.tells_ofStatus _ _
  | enhance entity fields methods root =>
    obtain rfl := Option.some.inj called
    refine ⟨_, _, rfl, ?_⟩
    simpa only [runEnhance, ToolCall.run] using Report.tells_ofStatus _ _
  | generateTests className source print =>
    cases read : disk.readText (workspace.root.join source) with
    | error cause => simp [Command.call?, read, Except.toOption] at called
    | ok text =>
      obtain rfl : ToolCall.generateTests ⟨className, text⟩ = call := by
        simpa [Command.call?, read, Except.toOption] using called
      refine ⟨_, _, rfl, ?_⟩
      simpa only [runGenerateTests, read, ToolCall.run] using tells_testReport _ _ _
  | serve => cases called
  | describe => cases called

end CommandLine

-- A failure is told at every edge: by the status of each operation, by the result of a call and by the
-- code of a run whose arguments, settings and source could be read.
theorem failures_told (workspace : Workspace) (disk : Disk) :
    (∀ request, (∃ rest, (Operation.bootstrap workspace disk request).1 = "Failed to" ++ rest) ↔
      Operation.Erred (Operation.createProject workspace disk request)) ∧
    (∀ request, (∃ rest, (Operation.enhance workspace disk request).1 = "Failed to" ++ rest) ↔
      Operation.Erred (Operation.addModule workspace disk request)) ∧
    (∀ extractor request,
      (∃ rest, (Operation.generateTestsBy extractor workspace disk request).1 = "Failed to" ++ rest) ↔
        Operation.Erred (Operation.addTest extractor workspace disk request)) ∧
    (∀ line request call, Rpc.Request.parse line = .ok request → request.method = "tools/call" →
      Session.requestedCall request.params = .ok call →
        ∃ result failed, (Session.answer workspace disk line).1 = some ⟨request.id, .ok result⟩ ∧
          result.member? "isError" = some (.boolean failed) ∧
          (failed = true ↔ call.Errs workspace disk)) ∧
    ∀ arguments input invocation logged settings call,
      CommandLine.Invocation.parse arguments = .ok invocation →
      CommandLine.openLogs disk invocation.options = (.ok (), logged) →
      CommandLine.loadSettings logged invocation.options = .ok settings →
      let place : Workspace := ⟨CommandLine.projectDirectory logged invocation.options, settings⟩
      invocation.command.call? place logged = some call →
        ((CommandLine.run disk arguments input).1.code = 1 ↔ call.Errs place logged) ∧
        ((CommandLine.run disk arguments input).1.code = 0 ↔ ¬call.Errs place logged) := by
  refine ⟨fun request => ?_, fun request => ?_, fun extractor request => ?_, ?_, ?_⟩
  · rw [← Operation.isFailure_bootstrap, Status.isFailure, Text.startsWith_iff, Status.failureMark]
  · rw [← Operation.isFailure_enhance, Status.isFailure, Text.startsWith_iff, Status.failureMark]
  · rw [← Operation.isFailure_generateTestsBy, Status.isFailure, Text.startsWith_iff,
      Status.failureMark]
  · intro line request call parsed method taken
    exact ⟨_, _, Session.answer_call parsed method taken, Session.member?_callResult _,
      call.isFailure_run⟩
  · intro arguments input invocation logged settings call parsed opened loaded place called
    obtain ⟨report, after, performed, tells⟩ := CommandLine.perform_call called
    have begun : CommandLine.begin disk arguments = (.finished report, after) := by
      rw [CommandLine.begin, parsed]
      simp only [opened, loaded]
      exact performed
    rw [CommandLine.run, begun]
    exact tells

def testCall : String :=
  "\x7b\"jsonrpc\":\"2.0\",\"id\":1,\"method\":\"tools/call\",\"params\":\x7b\"name\":\"generate_tests\"," ++
    "\"arguments\":\x7b\"className\":\" C \",\"sourceCode\":\"class C \x7b\x7d\"\x7d\x7d\x7d"

def enhancing : CommandLine.Invocation := ⟨⟨false, none, none, none⟩, .enhance "Order" [] [] none⟩

-- A call that succeeds, and a run that fails for want of an application class.
theorem failures_told_lab :
    (∃ request call result, Rpc.Request.parse testCall = .ok request ∧ request.method = "tools/call" ∧
      Session.requestedCall request.params = .ok call ∧
      (Session.answer Operation.lab Operation.vacant testCall).1 = some ⟨request.id, .ok result⟩ ∧
      result.member? "isError" = some (.boolean false)) ∧
    CommandLine.Invocation.parse ["enhance", "Order"] = .ok enhancing ∧
    (CommandLine.run Operation.vacant ["enhance", "Order"] "").1.code = 1 := by
  obtain ⟨_, _, _, called, ran⟩ := failures_told Operation.lab Operation.vacant
  refine ⟨?_, ?_⟩
  · have taken : ((Rpc.Request.parse testCall).toOption.bind fun request =>
        if request.method = "tools/call" then (Session.requestedCall request.params).toOption else none) =
        some (.generateTests Operation.bareClass) := by decide +kernel
    have done : (Operation.addTest (ClassModel.extract Operation.lab.settings.fallbackPackage)
        Operation.lab Operation.vacant Operation.bareClass).1.toBool = true := by decide +kernel
    cases parsed : Rpc.Request.parse testCall with
    | error fault => simp [parsed, Except.toOption] at taken
    | ok request =>
      by_cases method : request.method = "tools/call"
      · cases made : Session.requestedCall request.params with
        | error error => simp [parsed, method, made, Except.toOption] at taken
        | ok call =>
          obtain rfl : call = .generateTests Operation.bareClass := by
            simpa [parsed, method, made, Except.toOption] using taken
          obtain ⟨result, failed, answered, told, erred⟩ := called testCall request _ parsed method made
          have fine : ¬(ToolCall.generateTests Operation.bareClass).Errs Operation.lab Operation.vacant := by
            rintro ⟨problem, wrong⟩
            rw [wrong] at done
            cases done
          obtain rfl : failed = false := by
            cases failed with
            | false => rfl
            | true => exact absurd (erred.mp rfl) fine
          exact ⟨request, _, result, rfl, method, made, answered, told⟩
      · simp [parsed, method, Except.toOption] at taken
  · have parsed : CommandLine.Invocation.parse ["enhance", "Order"] = .ok enhancing := by decide
    have loaded : CommandLine.loadSettings Operation.vacant enhancing.options = .ok {} := by decide +kernel
    have wrong : (Operation.addModule ⟨CommandLine.projectDirectory Operation.vacant enhancing.options, {}⟩
        Operation.vacant ⟨"Order", [], [], none⟩).1.toBool = false := by decide +kernel
    refine ⟨parsed, (ran _ "" enhancing Operation.vacant {} _ parsed rfl loaded rfl).1.mpr ?_⟩
    cases run : (Operation.addModule ⟨CommandLine.projectDirectory Operation.vacant enhancing.options, {}⟩
        Operation.vacant ⟨"Order", [], [], none⟩).1 with
    | error problem => exact ⟨problem, run⟩
    | ok spec =>
      rw [run] at wrong
      cases wrong

end SpringSkeleton
