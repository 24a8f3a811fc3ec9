import SpringSkeleton.CommandLine.Run
import SpringSkeleton.Proofs.Json.Written
import SpringSkeleton.Proofs.Text.Lines

namespace SpringSkeleton

namespace Rpc

theorem printed_outcomeMember (outcome : Except Error Json.Value) :
    Json.Printed (Response.outcomeMember outcome).2 := by
  cases outcome with
  | ok result => exact Json.printed_writtenChars result
  | error error =>
    refine Json.printed_writtenMembers (List.forall_mem_cons.mpr ⟨?_, ?_⟩)
    · exact Json.printed_writtenInt error.code.number
    · exact List.forall_mem_singleton.mpr (Json.printed_writtenText error.message)

theorem Response.printed_write (response : Response) : Json.Printed response.write.toList := by
  rw [write, String.toList_ofList]
  refine Json.printed_writtenMembers (List.forall_mem_cons.mpr ⟨Json.printed_writtenText "2.0", ?_⟩)
  refine List.forall_mem_cons.mpr ⟨Json.printed_writtenChars _, ?_⟩
  exact List.forall_mem_singleton.mpr (printed_outcomeMember response.outcome)

end Rpc

namespace Session
variable {workspace : Workspace} {disk middle after : Disk}
variable {line : String} {lines first second texts : List String}

-- Lines that are read on a disk, the texts that answer some of them, and the disk that is left. From
-- one line to the next nothing is handed on but the disk.
inductive Exchange (workspace : Workspace) : Disk → List String → List String → Disk → Prop where
  | done {disk : Disk} : Exchange workspace disk [] [] disk
  | silent {disk middle after : Disk} {line : String} {lines texts : List String} :
    answer workspace disk line = (none, middle) → Exchange workspace middle lines texts after →
      Exchange workspace disk (line :: lines) texts after
  | answered {disk middle after : Disk} {line : String} {lines texts : List String}
    {response : Rpc.Response} :
    answer workspace disk line = (some response, middle) →
      Exchange workspace middle lines texts after →
        Exchange workspace disk (line :: lines) (response.write :: texts) after

theorem exchange_answers (workspace : Workspace) (disk : Disk) (lines : List String) :
    Exchange workspace disk lines ((answers workspace disk lines).1.map Rpc.Response.write)
      (answers workspace disk lines).2 := by
  induction lines generalizing disk with
  | nil => exact .done
  | cons line rest ih =>
    cases run : answer workspace disk line with
    | mk response middle =>
      simp only [answers, run]
      cases response with
      | none => exact .silent run (ih middle)
      | some response => exact .answered run (ih middle)

theorem answers_append (workspace : Workspace) (disk : Disk) (first second : List String) :
    answers workspace disk (first ++ second) =
      ((answers workspace disk first).1 ++
          (answers workspace (answers workspace disk first).2 second).1,
        (answers workspace (answers workspace disk first).2 second).2) := by
  induction first generalizing disk with
  | nil => rfl
  | cons line rest ih => simp only [List.cons_append, answers, ih, List.append_assoc]

-- The piece after the last line feed is a line only if there is something in it.
theorem linesOf_pieces {input last : String} {ended : List String}
    (cut : Text.pieces '\n' input = ended ++ [last]) :
    linesOf input = ended.map withoutReturn ++ if last = "" then [] else [last] := by
  simp [linesOf, cut]

theorem pieces_unlines (whole : ∀ line ∈ lines, Text.Unbroken line) (rest : String) :
    Text.pieces '\n' (CommandLine.unlines lines ++ rest) = lines ++ Text.pieces '\n' rest := by
  induction lines with
  | nil =>
    have empty : CommandLine.unlines [] = "" := rfl
    rw [empty, String.empty_append, List.nil_append]
  | cons line others ih =>
    obtain ⟨first, more⟩ := List.forall_mem_cons.mp whole
    have chars : (CommandLine.unlines (line :: others) ++ rest).toList =
        line.toList ++ '\n' :: (CommandLine.unlines others ++ rest).toList := by
      simp [CommandLine.unlines]
    rw [Text.pieces_of_cut chars, Text.pieces_of_not_mem first, ih more, List.singleton_append,
      List.cons_append]

-- Whole lines at the beginning of an input are lines of it, whatever follows them.
theorem linesOf_unlines (whole : ∀ line ∈ lines, Text.Unbroken line) (rest : String) :
    linesOf (CommandLine.unlines lines ++ rest) = lines.map withoutReturn ++ linesOf rest := by
  have some_ : Text.pieces '\n' rest ≠ [] := Text.pieces_ne_nil rest
  obtain ⟨ended, last, cut⟩ := (List.eq_nil_or_concat' (Text.pieces '\n' rest)).resolve_left some_
  have joined : Text.pieces '\n' (CommandLine.unlines lines ++ rest) = (lines ++ ended) ++ [last] := by
    rw [pieces_unlines whole, cut, List.append_assoc]
  rw [linesOf_pieces joined, linesOf_pieces cut, List.map_append, List.append_assoc]

end Session

namespace CommandLine

theorem unlines_append (first second : List String) :
    unlines (first ++ second) = unlines first ++ unlines second := by
  apply String.toList_inj.mp
  simp [unlines]

-- Every answer is one line of the output, in the order of the lines that are answered, whatever the
-- answers hold; so the texts can be told apart again. A session may be cut between any two lines of
-- its input: a new server on the disk that is left prints the rest and leaves the same disk.
theorem serve_stream (banner : String) (workspace : Workspace) (disk : Disk) :
    (∀ lines,
      let served := serve banner workspace disk lines
      let texts := (Session.answers workspace disk lines).1.map Rpc.Response.write
      Session.Exchange workspace disk lines texts served.2 ∧
      served.1.output = unlines texts ∧
      (∀ text ∈ texts, '\n' ∉ text.toList ∧ '\r' ∉ text.toList) ∧
      Text.pieces '\n' served.1.output = texts ++ [""]) ∧
    (∀ first second,
      let whole := serve banner workspace disk (first ++ second)
      let begun := serve banner workspace disk first
      let resumed := serve banner workspace begun.2 second
      whole.1.output = begun.1.output ++ resumed.1.output ∧ whole.2 = resumed.2) ∧
    ∀ lines rest, (∀ line ∈ lines, Text.Unbroken line) →
      Session.linesOf (unlines lines ++ rest) =
        lines.map Session.withoutReturn ++ Session.linesOf rest := by
  refine ⟨fun lines => ?_, fun first second => ?_, fun lines rest whole =>
    Session.linesOf_unlines whole rest⟩
  · intro served texts
    have closed : ∀ text ∈ texts, '\n' ∉ text.toList ∧ '\r' ∉ text.toList := by
      intro text member
      obtain ⟨response, _, rfl⟩ := List.mem_map.mp member
      have printed := response.printed_write
      exact ⟨printed.excludes (by decide), printed.excludes (by decide)⟩
    refine ⟨Session.exchange_answers workspace disk lines, rfl, closed, ?_⟩
    exact pieces_sourceText fun text member => (closed text member).1
  · simp only [serve, Session.answers_append, List.map_append, unlines_append, and_self]

-- A request for what is not offered, with a line feed in its id.
def ping : String := "\x7b\"jsonrpc\":\"2.0\",\"id\":\"a\\nb\",\"method\":\"ping\"\x7d"

def pong : String :=
  "\x7b\"jsonrpc\":\"2.0\",\"id\":\"a\\nb\",\"error\":\x7b\"code\":-32601,"
    ++ "\"message\":\"Method not found: ping\"\x7d\x7d"

theorem serve_stream_ping :
    pong ∈ (Session.answers ⟨⟨""⟩, {}⟩ ⟨Tree.empty, []⟩ [ping]).1.map Rpc.Response.write ∧
    ('\n' ∉ pong.toList ∧ '\r' ∉ pong.toList) ∧
    (∀ line ∈ [ping], Text.Unbroken line) ∧
    Session.linesOf (unlines [ping] ++ "") = [ping].map Session.withoutReturn ++ Session.linesOf "" := by
  obtain ⟨printed, _, cut⟩ := serve_stream "" ⟨⟨""⟩, {}⟩ ⟨Tree.empty, []⟩
  obtain ⟨_, _, closed, _⟩ := printed [ping]
  have answered : pong ∈ (Session.answers ⟨⟨""⟩, {}⟩ ⟨Tree.empty, []⟩ [ping]).1.map
      Rpc.Response.write := by
    decide +kernel
  have whole : ∀ line ∈ [ping], Text.Unbroken line :=
    List.forall_mem_singleton.mpr (by decide +kernel)
  exact ⟨answered, closed pong answered, whole, cut [ping] "" whole⟩

end CommandLine
end SpringSkeleton
