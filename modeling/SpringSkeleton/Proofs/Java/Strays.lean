import SpringSkeleton.Java.Program
import SpringSkeleton.Proofs.Java.Casing
import SpringSkeleton.Proofs.Java.Scanning
import SpringSkeleton.Proofs.Text.Pieces

namespace SpringSkeleton.Java

theorem ne_of_above {c d : Char} (above : 128 ≤ c.toNat) (basic : d.toNat < 128) : c ≠ d := by
  rintro rfl
  exact absurd above (Nat.not_le.mpr basic)

theorem isDigit_of_above {c : Char} (above : 128 ≤ c.toNat) : Number.isDigit c = false := by
  refine Bool.eq_false_iff.mpr fun digit => ?_
  simp only [Number.isDigit, Bool.and_eq_true, decide_eq_true_eq] at digit
  have high : c.toNat ≤ 57 := digit.2
  omega

-- No mark, number, text or gap begins outside the basic alphabet.
structure Strange (c : Char) : Prop where
  above : 128 ≤ c.toNat
  other : isWordStart c = false

namespace Strange
variable {c : Char}

theorem isGapChar (strange : Strange c) : isGapChar c = false := by
  have gaps : ∀ d ∈ [' ', '\t', '\n', '\x0b', '\x0c', '\x0d'], c ≠ d := by
    have basic : ∀ d ∈ [' ', '\t', '\n', '\x0b', '\x0c', '\x0d'], d.toNat < 128 := by simp
    exact fun d member => ne_of_above strange.above (basic d member)
  simpa [Java.isGapChar, and_assoc] using gaps

theorem startsNumber (strange : Strange c) (rest : List Char) : startsNumber (c :: rest) = false := by
  have dot : c ≠ '.' := ne_of_above strange.above (by decide)
  unfold Java.startsNumber
  split
  · rename_i same
    exact absurd (List.cons.inj same).1 dot
  · rename_i same
    rw [← (List.cons.inj same).1]
    exact isDigit_of_above strange.above
  · rfl

theorem read? (strange : Strange c) (rest : List Char) : Mark.read? (c :: rest) = none := by
  have heads : ∀ entry ∈ markTexts,
      (entry.1.toList.head?.any fun d => Nat.blt d.toNat 128) = true := by decide
  refine findMark?_eq_none fun entry member => ?_
  obtain ⟨d, head, basic⟩ := (Option.any_eq_true _ _).mp (heads entry member)
  obtain ⟨more, text⟩ := List.head?_eq_some_iff.mp head
  simp [text, List.isPrefixOf, (ne_of_above strange.above (Nat.blt_eq.mp basic)).symm]

theorem readToken (strange : Strange c) (rest : List Char) :
    readToken [] (c :: rest) = ⟨.stray, rest, []⟩ := by
  have basic : ∀ d ∈ ['\x7d', '"', '\'', '>'], d.toNat < 128 := by simp
  have other : c ∉ ['\x7d', '"', '\'', '>'] := fun member => ne_of_above strange.above (basic c member) rfl
  have none : readToken? [] (c :: rest) = .none := by
    rw [readToken?_plain other, readPlain, strange.startsNumber, strange.read?]
    simp [Word.read?, strange.other]
  rw [Java.readToken, none]
  rfl

end Strange

-- Reading gives some tokens, and then leaves the rest behind a gap.
def Reads (cs : List Char) (tokens : Tokens) (rest : List Char) : Prop :=
  ∃ found gap, (∀ d ∈ gap, isGapChar d = true) ∧ Scans cs found (gap ++ rest) ∧ tokensOf found = tokens

namespace Reads
variable {cs rest left : List Char} {ones others : Tokens}

theorem append (first : Reads cs ones rest) (second : Reads rest others left) :
    Reads cs (ones ++ others) left := by
  obtain ⟨front, gap, blank, before, rfl⟩ := first
  obtain ⟨back, last, space, after, rfl⟩ := second
  cases back with
  | nil =>
    cases after
    refine ⟨front, gap ++ last, fun d member => ?_, ?_, ?_⟩
    · exact (List.mem_append.mp member).elim (blank d) (space d)
    · rw [List.append_assoc]
      exact before
    · exact (List.append_nil _).symm
  | cons lexeme more =>
    refine ⟨front ++ { lexeme with gap := gap ++ lexeme.gap } :: more, last, space, ?_, ?_⟩
    · exact before.append (after.widen blank)
    · rw [tokensOf, List.map_append]
      rfl

theorem blank {gap : List Char} (space : ∀ d ∈ gap, isGapChar d = true) (rest : List Char) :
    Reads (gap ++ rest) [] rest := ⟨[], gap, space, .nothing _, rfl⟩

theorem glyph {glyph : Glyph} {c : Char} (stops : glyph.stopsAt c = true) (rest : List Char) :
    Reads (glyph.chars ++ c :: rest) [glyph.token] (c :: rest) :=
  ⟨[⟨[], glyph.token, glyph.chars⟩], [], List.forall_mem_nil _,
    .lexeme (List.forall_mem_nil _) glyph.starts (readToken_glyph stops rest) (.nothing _), rfl⟩

theorem lines {lines : List Line} (fit : ∀ line ∈ lines, line.spaced = true) (rest : List Char) :
    Reads (linesChars lines ++ rest) (linesTokens lines) rest :=
  ⟨sourceLexemes [] lines, gapAfter [] lines, gapAfter_blank (List.forall_mem_nil _),
    scans_lines fit (List.forall_mem_nil _) rest, tokensOf_sourceLexemes _ _⟩

-- A word and the space behind it.
theorem word (found : Word) (rest : List Char) :
    Reads (found.text.toList ++ ' ' :: rest) [.word found] rest := by
  have space : ∀ d ∈ [' '], isGapChar d = true := List.forall_mem_singleton.mpr rfl
  have read := Reads.glyph (Glyph.stopsAt_blank (.word found) (.inl rfl)) rest
  exact read.append (.blank space rest)

end Reads

-- Such a character begins a token that no rule admits, whatever follows.
theorem tokens_stray {text : String} {tokens : Tokens} {after : List Char} {c : Char}
    (plain : text.toList.head? ≠ some byteOrderMark) (strange : Strange c)
    (reads : Reads text.toList tokens (c :: after)) :
    ∃ later, tokensOf (lexemes text) = tokens ++ .stray :: later := by
  obtain ⟨found, gap, blank, scans, rfl⟩ := reads
  obtain ⟨bound, enough, same⟩ := lexemesFrom_scans scans (Nat.lt_succ_self _)
  obtain ⟨bound, rfl⟩ : ∃ less, bound = less + 1 := ⟨bound - 1, by omega⟩
  have past : pastGap ((gap ++ c :: after).length + 1) (gap ++ c :: after) = c :: after := by
    rw [List.length_append, Nat.add_assoc, pastGap_blank blank,
      pastGap_stop strange.isGapChar (ne_of_above strange.above (by decide))]
  refine ⟨tokensOf (lexemesFrom bound [] after), ?_⟩
  rw [lexemes, withoutByteOrderMark_plain plain, same, lexemesFrom, past]
  simp only [strange.readToken, tokensOf, List.map_append, List.map_cons]

-- Nothing, or one word.
def AtMostWord (tokens : Tokens) : Prop := tokens = [] ∨ ∃ word, tokens = [.word word]

-- A name that is no word is read up to a character that no word goes on with.
theorem LikeName.reads {text : String} (like : LikeName text) (other : isWord text = false)
    (rest : List Char) : ∃ tokens c after, AtMostWord tokens ∧ Strange c ∧
      Reads (text.toList ++ rest) tokens (c :: after) := by
  obtain ⟨c, more, chars, begins, inside⟩ := like
  by_cases start : isWordStart c = true
  · cases found : more.find? fun d => !isWordPart d with
    | none =>
      have parts : ∀ d ∈ more, isWordPart d = true := by simpa using found
      rw [isWord, chars, isWordChars, start, List.all_eq_true.mpr parts] at other
      cases other
    | some d =>
      obtain ⟨stops, front, after, parted, parts⟩ := List.find?_eq_some_iff_append.mp found
      simp only [Bool.not_eq_true', Bool.not_not] at stops parts
      have above : 128 ≤ d.toNat :=
        (inside d (by rw [parted]; simp)).resolve_left (Bool.eq_false_iff.mp stops)
      have starts : isWordStart d = false := Bool.eq_false_iff.mpr fun start => by
        rw [isWordPart_of_start start] at stops
        cases stops
      have strange : Strange d := ⟨above, starts⟩
      let word : Word := ⟨String.ofList (c :: front), by
        rw [isWord, String.toList_ofList, isWordChars, start, List.all_eq_true.mpr parts]
        rfl⟩
      have ends : (Glyph.word word).stopsAt d = true := by
        simp [Glyph.stopsAt, stops, ne_of_above above (show '-'.toNat < 128 by decide)]
      have whole : text.toList ++ rest = (Glyph.word word).chars ++ d :: (after ++ rest) := by
        simp [chars, parted, Glyph.chars, word]
      exact ⟨[.word word], d, after ++ rest, .inr ⟨word, rfl⟩, strange, whole ▸ .glyph ends _⟩
  · have strange : Strange c := ⟨begins.resolve_left start, by simpa using start⟩
    refine ⟨[], c, more ++ rest, .inl rfl, strange, ?_⟩
    rw [chars]
    exact .blank (List.forall_mem_nil _) _

-- Words with a dot behind each of them.
def dottedChars (words : List Word) : List Char := words.flatMap fun word => word.text.toList ++ ['.']

def dottedTokens (words : List Word) : Tokens := words.flatMap fun word => [.word word, .mark .dot]

theorem dottedChars_cons (word : Word) (more : List Word) (rest : List Char) :
    dottedChars (word :: more) ++ rest = word.text.toList ++ '.' :: (dottedChars more ++ rest) := by
  simp [dottedChars]

theorem BeginsName.behindDot {c : Char} (begins : BeginsName c) :
    (Glyph.mark .dot (by decide)).stopsAt c = true := by
  have other : c ≠ '.' ∧ Number.isDigit c = false := by
    rcases begins with start | above
    · exact ⟨isWordStart_ne start (by decide), isWordStart_not_digit start⟩
    · exact ⟨ne_of_above above (by decide), isDigit_of_above above⟩
  simp [Glyph.stopsAt, Mark.goesOn, other]

theorem dottedChars_begins (words : List Word) {c : Char} (begins : BeginsName c) (rest : List Char) :
    ∃ d after, dottedChars words ++ c :: rest = d :: after ∧ BeginsName d := by
  cases words with
  | nil => exact ⟨c, rest, rfl, begins⟩
  | cons word more =>
    obtain ⟨d, tail, chars, start, _⟩ := word.chars
    rw [dottedChars_cons, chars]
    exact ⟨d, _, rfl, .inl start⟩

theorem Reads.dotted (words : List Word) {c : Char} (begins : BeginsName c) (rest : List Char) :
    Reads (dottedChars words ++ c :: rest) (dottedTokens words) (c :: rest) := by
  induction words with
  | nil => exact .blank (List.forall_mem_nil _) _
  | cons word more ih =>
    obtain ⟨d, after, next, first⟩ := dottedChars_begins more begins rest
    have name := Reads.glyph (Glyph.stopsAt_word word (show '.' ∈ wordEnds by decide))
      (dottedChars more ++ c :: rest)
    have dot := Reads.glyph first.behindDot after
    rw [← next] at dot
    rw [dottedChars_cons]
    exact name.append (dot.append ih)

theorem joined_front (words : List Word) (name : String) (others : List String) : ∃ tail,
    (Text.joined '.' (words.map (·.text) ++ name :: others)).toList =
      dottedChars words ++ (name.toList ++ tail) := by
  induction words with
  | nil =>
    cases others with
    | nil => exact ⟨[], by simp [Text.joined, Text.glue, dottedChars]⟩
    | cons next more => exact ⟨_, Text.joined_cons name next more⟩
  | cons word more ih =>
    obtain ⟨tail, chars⟩ := ih
    refine ⟨tail, ?_⟩
    obtain ⟨next, later, parts⟩ : ∃ next later, more.map (·.text) ++ name :: others = next :: later := by
      cases more <;> exact ⟨_, _, rfl⟩
    rw [dottedChars_cons, ← chars, List.map_cons, List.cons_append, parts, Text.joined_cons]

end SpringSkeleton.Java
