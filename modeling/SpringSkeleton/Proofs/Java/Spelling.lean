import Mathlib.Data.List.Basic
import SpringSkeleton.Java.Program
import SpringSkeleton.Proofs.Java.Scanning

namespace SpringSkeleton.Java

section Gaps

-- Blanks and comments end in one of these.
def EndsGap (c : Char) : Prop := isGapChar c = true ∨ c = '/'

theorem EndsGap.other {c : Char} (ends : EndsGap c) : c ∈ otherStarts := by
  rcases ends with blank | rfl
  · simp only [isGapChar, Bool.or_eq_true, beq_iff_eq] at blank
    rcases blank with ((((rfl | rfl) | rfl) | rfl) | rfl) | rfl <;> decide
  · decide

def Gap (cs : List Char) : Prop := ∀ c, cs.getLast? = some c → EndsGap c

theorem gap_nil : Gap [] := nofun

-- How the last part ends, if it is something, is how the whole ends.
theorem Gap.behind {back : List Char} (ends : Gap back) (some_ : back ≠ []) (front : List Char) :
    Gap (front ++ back) := by
  intro c last
  rw [List.getLast?_append_of_ne_nil front some_] at last
  exact ends c last

theorem Gap.append {front back : List Char} (first : Gap front) (second : Gap back) : Gap (front ++ back) := by
  by_cases some_ : back = []
  · simpa [some_] using first
  · exact second.behind some_ front

theorem gap_single {c : Char} (ends : EndsGap c) : Gap [c] := by
  intro d last
  cases last
  exact ends

theorem pastLine_parts (cs : List Char) : ∃ comment, cs = comment ++ pastLine cs ∧
    ∀ c, (pastLine cs).head? = some c → c = '\n' := by
  induction cs with
  | nil => exact ⟨[], rfl, nofun⟩
  | cons c rest ih =>
    unfold pastLine
    split
    · next feed => exact ⟨[], rfl, fun d head => (Option.some.inj head).symm.trans feed⟩
    · obtain ⟨comment, whole, head⟩ := ih
      exact ⟨c :: comment, congrArg (c :: ·) whole, head⟩

theorem pastComment_parts {cs rest : List Char} (closed : pastComment? cs = some rest) :
    ∃ comment, cs = comment ++ '*' :: '/' :: rest := by
  induction cs with
  | nil => cases closed
  | cons c others ih =>
    unfold pastComment? at closed
    split at closed
    · next none => cases none
    · next same =>
      cases same
      cases closed
      exact ⟨[], rfl⟩
    · next same =>
      cases same
      obtain ⟨comment, whole⟩ := ih closed
      exact ⟨c :: comment, congrArg (c :: ·) whole⟩

-- What is skipped is a gap, and no blank follows it. The bound is never reached.
theorem pastGap_parts {cs : List Char} {bound : Nat} (enough : cs.length < bound) :
    ∃ gap, cs = gap ++ pastGap bound cs ∧ (pastGap bound cs ≠ [] → Gap gap) ∧
      ∀ c, (pastGap bound cs).head? = some c → isGapChar c = false := by
  induction bound generalizing cs with
  | zero => omega
  | succ bound ih =>
    cases cs with
    | nil => exact ⟨[], rfl, fun _ => gap_nil, nofun⟩
    | cons c rest =>
      rw [List.length_cons] at enough
      unfold pastGap
      split
      · next after =>
        obtain ⟨comment, line, feed⟩ := pastLine_parts after
        have parts := congrArg List.length line
        rw [List.length_append] at parts
        rw [List.length_cons] at enough
        have shorter : (pastLine after).length < bound := by omega
        obtain ⟨gap, whole, ends, glyph⟩ := ih shorter
        refine ⟨'/' :: '/' :: (comment ++ gap), ?_, ?_, glyph⟩
        · rw [List.cons_append, List.cons_append, List.append_assoc, ← whole, ← line]
        · intro some_
          -- The line ends in a line feed, and that is a blank.
          have more : gap ≠ [] := by
            rintro rfl
            obtain ⟨e, left, found⟩ := List.exists_cons_of_ne_nil some_
            rw [List.nil_append] at whole
            have blank : e = '\n' := feed e (by rw [whole, found]; rfl)
            have apart := glyph e (by rw [found]; rfl)
            rw [blank] at apart
            cases apart
          exact (ends some_).behind more ('/' :: '/' :: comment)
      · next after =>
        split
        · next left closed =>
          obtain ⟨comment, inside⟩ := pastComment_parts closed
          have shorter : left.length < bound := by
            rw [inside, List.length_cons, List.length_append, List.length_cons, List.length_cons] at enough
            omega
          obtain ⟨gap, whole, ends, glyph⟩ := ih shorter
          refine ⟨('/' :: '*' :: (comment ++ ['*'])) ++ (['/'] ++ gap), ?_, fun some_ => ?_, glyph⟩
          · simp only [inside, List.cons_append, List.append_assoc, List.nil_append, ← whole]
          · have closing : Gap (['/'] ++ gap) := (gap_single (.inr rfl)).append (ends some_)
            exact closing.behind (List.cons_ne_nil _ _) _
        · exact ⟨[], rfl, fun _ => gap_nil, fun d head => by cases head; rfl⟩
      · split
        · next blank =>
          have shorter : rest.length < bound := by omega
          obtain ⟨gap, whole, ends, glyph⟩ := ih shorter
          refine ⟨[c] ++ gap, ?_, fun some_ => (gap_single (.inl blank)).append (ends some_), glyph⟩
          rw [List.append_assoc, ← whole]
          rfl
        · next glyph => exact ⟨[], rfl, fun _ => gap_nil, fun d head => by cases head; simpa using glyph⟩

end Gaps

section Tokens

-- A token stands at the beginning of some characters as it is spelled, and the rest follows.
def Stands (token : Token) (cs rest : List Char) : Prop :=
  match token with
  | .word word => cs = word.text.toList ++ rest
  | .mark mark => ∃ text, (text, mark) ∈ markTexts ∧ cs = text.toList ++ rest
  | _ => True

theorem findMark?_parts {cs : List Char} {entries : List (String × Mark)} {mark : Mark} {length : Nat}
    (found : findMark? cs entries = some (mark, length)) : ∃ text, (text, mark) ∈ entries ∧
      text.toList <+: cs ∧ length = text.toList.length := by
  induction entries with
  | nil => cases found
  | cons entry others ih =>
    unfold findMark? at found
    split at found
    · next begins =>
      cases found
      exact ⟨entry.1, List.mem_cons_self, List.isPrefixOf_iff_prefix.mp begins, rfl⟩
    · obtain ⟨text, among, begins, long⟩ := ih found
      exact ⟨text, List.mem_cons_of_mem _ among, begins, long⟩

theorem Word.read?_parts {cs rest : List Char} {word : Word} (read : Word.read? cs = some (word, rest)) :
    cs = word.text.toList ++ rest := by
  cases cs with
  | nil => cases read
  | cons c more =>
    by_cases start : isWordStart c = true
    · simp only [Word.read?, start, dite_true, Option.some.injEq, Prod.mk.injEq] at read
      obtain ⟨rfl, rfl⟩ := read
      rw [String.toList_ofList, List.cons_append, List.takeWhile_append_dropWhile]
    · simp [Word.read?, start] at read

theorem readText_token {quote : Quote} {whole part : Token} {outer : List Interruption} {cs : List Char}
    {reading : Reading} (read : readText quote whole part outer cs = some reading) :
    reading.token = whole ∨ reading.token = part ∨ reading.token = .stray := by
  obtain ⟨⟨stop, rest⟩, _, same⟩ := Option.map_eq_some_iff.mp read
  cases stop with
  | closed => exact .inl (same ▸ rfl)
  | interrupted => exact .inr (.inl (same ▸ rfl))
  | unclosed => exact .inr (.inr (same ▸ rfl))

theorem readStartOfText_token {outer : List Interruption} {cs : List Char} {reading : Reading}
    (read : readStartOfText outer cs = some reading) :
    reading.token = .text ∨ reading.token = .textStart ∨ reading.token = .stray := by
  unfold readStartOfText at read
  split at read
  · exact readText_token read
  · exact readText_token read
  · cases read

theorem readPlain_stands {interruptions : List Interruption} {cs : List Char} {reading : Reading}
    (read : readPlain interruptions cs = some reading) : Stands reading.token cs reading.rest := by
  unfold readPlain at read
  split at read
  · obtain ⟨rest, _, rfl⟩ := Option.map_eq_some_iff.mp read
    exact trivial
  · split at read
    · next mark length found =>
      cases read
      obtain ⟨text, among, ⟨rest, whole⟩, long⟩ := findMark?_parts found
      refine ⟨text, among, ?_⟩
      rw [← whole, long, List.drop_left]
    · obtain ⟨⟨word, rest⟩, found, rfl⟩ := Option.map_eq_some_iff.mp read
      exact Word.read?_parts found

theorem readToken?_stands {interruptions : List Interruption} {cs : List Char} {reading : Reading}
    (read : readToken? interruptions cs = some reading) : Stands reading.token cs reading.rest := by
  unfold readToken? at read
  split at read
  · rcases readText_token read with token | token | token <;> exact token ▸ trivial
  · rcases readStartOfText_token read with token | token | token <;> exact token ▸ trivial
  · obtain ⟨rest, _, rfl⟩ := Option.map_eq_some_iff.mp read
    exact trivial
  · cases read
    exact trivial
  · exact readPlain_stands read

theorem readToken_stands (interruptions : List Interruption) (cs : List Char) :
    Stands (readToken interruptions cs).token cs (readToken interruptions cs).rest := by
  unfold readToken
  cases read : readToken? interruptions cs with
  | none => exact trivial
  | some reading => exact readToken?_stands read

-- A lexeme as sources have them.
structure Lexeme.Genuine (lexeme : Lexeme) : Prop where
  gap : Gap lexeme.gap
  token : Stands lexeme.token lexeme.text []

theorem Stands.taken {token : Token} {cs rest : List Char} (stands : Stands token cs rest) :
    Stands token (taken cs rest) [] := by
  cases token with
  | word word =>
    have whole : cs = word.text.toList ++ rest := stands
    rw [whole, taken_append]
    exact (List.append_nil _).symm
  | mark mark =>
    obtain ⟨text, among, whole⟩ := stands
    rw [whole, taken_append]
    exact ⟨text, among, (List.append_nil _).symm⟩
  | _ => exact trivial

theorem lexemesFrom_genuine (bound : Nat) (interruptions : List Interruption) (cs : List Char) :
    ∀ lexeme ∈ lexemesFrom bound interruptions cs, lexeme.Genuine := by
  induction bound generalizing interruptions cs with
  | zero => exact List.forall_mem_nil _
  | succ bound ih =>
    unfold lexemesFrom
    obtain ⟨gap, whole, ends, _⟩ := pastGap_parts (Nat.lt_succ_self cs.length)
    split
    · exact List.forall_mem_nil _
    · next c after past =>
      rw [past] at whole ends
      refine List.forall_mem_cons.mpr ⟨⟨?_, (readToken_stands interruptions (c :: after)).taken⟩, ih _ _⟩
      rw [whole, taken_append]
      exact ends (List.cons_ne_nil c after)

theorem lexemes_genuine (source : String) : ∀ lexeme ∈ lexemes source, lexeme.Genuine :=
  lexemesFrom_genuine _ _ _

theorem Lexeme.Genuine.word {lexeme : Lexeme} (genuine : lexeme.Genuine) {word : Word}
    (token : lexeme.token = .word word) : lexeme.text = word.text.toList := by
  have stands := genuine.token
  rw [token] at stands
  exact stands.trans (List.append_nil _)

theorem Lexeme.Genuine.mark {lexeme : Lexeme} (genuine : lexeme.Genuine) {mark : Mark}
    (token : lexeme.token = .mark mark) : ∃ text, (text, mark) ∈ markTexts ∧ lexeme.text = text.toList := by
  have stands := genuine.token
  rw [token] at stands
  obtain ⟨text, among, whole⟩ := stands
  exact ⟨text, among, whole.trans (List.append_nil _)⟩

end Tokens

section Stretches
variable {program : Program} {span : Span}

-- The lexemes of a stretch.
def Program.stretch (program : Program) (span : Span) : List Lexeme :=
  (program.lexemes.drop (program.lexemes.length - span.before)).take (span.before - span.after)

theorem Program.written_eq (program : Program) (span : Span) :
    program.written span = Java.written (program.stretch span) := rfl

-- Behind other lexemes a lexeme is written with its gap.
theorem written_append {front : List Lexeme} (some_ : front ≠ []) (back : List Lexeme) :
    written (front ++ back) =
      String.ofList ((written front).toList ++ back.flatMap fun lexeme => lexeme.gap ++ lexeme.text) := by
  obtain ⟨first, more, rfl⟩ := List.exists_cons_of_ne_nil some_
  simp [written]

theorem Program.stretch_subset (program : Program) (span : Span) : program.stretch span ⊆ program.lexemes :=
  fun _ member => List.mem_of_mem_drop (List.mem_of_mem_take member)

theorem suffix_parts {lexemes : List Lexeme} {left : Tokens} (inside : left <:+ tokensOf lexemes) :
    ∃ part rest, lexemes = part ++ rest ∧ tokensOf rest = left := by
  obtain ⟨front, whole⟩ := inside
  obtain ⟨part, rest, same, _, behind⟩ := List.map_eq_append_iff.mp whole.symm
  exact ⟨part, rest, same, behind⟩

theorem Program.stretch_part {part rest : List Lexeme} (inside : part ++ rest <:+ program.lexemes) :
    program.stretch ⟨(part ++ rest).length, rest.length⟩ = part := by
  obtain ⟨front, whole⟩ := inside
  have skipped : (front ++ (part ++ rest)).length - (part ++ rest).length = front.length := by
    rw [List.length_append, Nat.add_sub_cancel]
  have kept : (part ++ rest).length - rest.length = part.length := by
    rw [List.length_append, Nat.add_sub_cancel]
  rw [Program.stretch, ← whole]
  simp only [skipped, kept, List.drop_left, List.take_left]

-- What was read between two places are the tokens of the stretch between them.
theorem Program.tokensOf_stretch {read rest : Tokens} (inside : read ++ rest <:+ tokensOf program.lexemes) :
    tokensOf (program.stretch ⟨(read ++ rest).length, rest.length⟩) = read := by
  obtain ⟨front, behind, whole, tokens⟩ := suffix_parts inside
  obtain ⟨part, others, rfl, before, after⟩ := List.map_eq_append_iff.mp tokens
  have stands : part ++ others <:+ program.lexemes := whole ▸ List.suffix_append _ _
  have stretched := Program.stretch_part stands
  rw [← before, ← after, ← List.map_append, List.length_map, List.length_map, stretched]
  rfl

end Stretches
end SpringSkeleton.Java
