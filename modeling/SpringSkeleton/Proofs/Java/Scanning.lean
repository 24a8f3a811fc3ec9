import SpringSkeleton.Artifact
import SpringSkeleton.Java.Lexeme
import Mathlib.Data.Bool.AllAny

namespace SpringSkeleton.Java

-- Reading gives some lexemes and leaves the rest. The rest stands there while they are read, so the
-- end of a word is where it really ends.
inductive Scans : List Char → List Lexeme → List Char → Prop where
  | nothing (rest : List Char) : Scans rest [] rest
  | lexeme {gap text rest left : List Char} {token : Token} {others : List Lexeme}
    (blank : ∀ c ∈ gap, isGapChar c = true)
    (starts : ∃ c more, text = c :: more ∧ isGapChar c = false ∧ c ≠ '/')
    (reads : readToken [] (text ++ rest) = ⟨token, rest, []⟩) (more : Scans rest others left) :
    Scans (gap ++ (text ++ rest)) (⟨gap, token, text⟩ :: others) left

namespace Scans
variable {cs rest left : List Char} {ones others : List Lexeme}

theorem append (first : Scans cs ones rest) (second : Scans rest others left) :
    Scans cs (ones ++ others) left := by
  induction first with
  | nothing => exact second
  | lexeme blank starts reads _ ih => exact .lexeme blank starts reads (ih second)

-- A longer gap before the first lexeme.
theorem widen {gap : List Char} {first : Lexeme} (blank : ∀ c ∈ gap, isGapChar c = true)
    (scans : Scans cs (first :: others) left) :
    Scans (gap ++ cs) ({ first with gap := gap ++ first.gap } :: others) left := by
  cases scans with
  | lexeme inner starts reads more =>
    rw [← List.append_assoc]
    refine .lexeme (fun c member => ?_) starts reads more
    exact (List.mem_append.mp member).elim (blank c) (inner c)

end Scans

theorem pastGap_blank {gap cs : List Char} (blank : ∀ c ∈ gap, isGapChar c = true) (extra : Nat) :
    pastGap (gap.length + extra) (gap ++ cs) = pastGap extra cs := by
  induction gap with
  | nil => simp
  | cons c rest ih =>
    obtain ⟨first, others⟩ := List.forall_mem_cons.mp blank
    have slash : c ≠ '/' := by
      rintro rfl
      exact absurd first (by decide)
    rw [List.length_cons, Nat.add_right_comm, List.cons_append, pastGap, if_pos first, ih others]
    · exact fun _ same => absurd same slash
    · exact fun _ same => absurd same slash

theorem pastGap_stop {c : Char} (glyph : isGapChar c = false) (slash : c ≠ '/') (bound : Nat)
    (cs : List Char) : pastGap bound (c :: cs) = c :: cs := by
  cases bound with
  | zero => rfl
  | succ bound =>
    rw [pastGap, glyph]
    · rfl
    · exact fun _ same => absurd same slash
    · exact fun _ same => absurd same slash

theorem taken_append (front rest : List Char) : taken (front ++ rest) rest = front := by
  simp [taken]

theorem lexemesFrom_scans {cs rest : List Char} {found : List Lexeme} (scans : Scans cs found rest)
    {bound : Nat} (enough : cs.length < bound) : ∃ less, rest.length < less ∧
      lexemesFrom bound [] cs = found ++ lexemesFrom less [] rest := by
  induction scans generalizing bound with
  | nothing rest => exact ⟨bound, enough, rfl⟩
  | @lexeme gap text after left token others blank starts reads more ih =>
    obtain ⟨c, tail, rfl, glyph, slash⟩ := starts
    obtain ⟨bound, rfl⟩ : ∃ less, bound = less + 1 := ⟨bound - 1, by omega⟩
    simp only [List.length_append, List.length_cons] at enough
    obtain ⟨less, further, same⟩ := @ih bound (by omega)
    refine ⟨less, further, ?_⟩
    have past : pastGap ((gap ++ (c :: tail ++ after)).length + 1) (gap ++ (c :: tail ++ after)) =
        c :: (tail ++ after) := by
      rw [List.length_append, Nat.add_assoc, pastGap_blank blank, List.cons_append,
        pastGap_stop glyph slash]
    have before : taken (gap ++ c :: (tail ++ after)) (c :: (tail ++ after)) = gap := taken_append gap _
    have text : taken (c :: (tail ++ after)) after = c :: tail := taken_append (c :: tail) after
    rw [List.cons_append] at reads
    rw [lexemesFrom, past]
    simp only [reads, before, text, same, List.cons_append]

-- Where nothing but blanks is left, reading ends.
theorem lexemesFrom_blank {gap : List Char} (blank : ∀ c ∈ gap, isGapChar c = true) (bound : Nat) :
    lexemesFrom bound [] gap = [] := by
  cases bound with
  | zero => rfl
  | succ bound =>
    have past : pastGap (gap.length + 1) gap = [] := by
      simpa [pastGap] using @pastGap_blank gap [] blank 1
    rw [lexemesFrom, past]

-- The range lies between two codes.
def within (low high : Nat) (range : Nat × Nat) : Bool := Nat.ble low range.1 && Nat.ble range.2 high

theorem within_contains {low high : Nat} {range : Nat × Nat} (inside : within low high range = true)
    {code : Nat} (from_ : range.1 ≤ code) (upTo : code ≤ range.2) : low ≤ code ∧ code ≤ high := by
  simp only [within, Bool.and_eq_true, Nat.ble_eq] at inside
  omega

-- Among the characters of the basic alphabet only letters and two signs begin a word.
theorem isWordStart_cases {c : Char} (start : isWordStart c = true) : c = '_' ∨ c = '$' ∨
    128 ≤ c.toNat ∨ (65 ≤ c.toNat ∧ c.toNat ≤ 90) ∨ (97 ≤ c.toNat ∧ c.toNat ≤ 122) := by
  have ranges : Text.wordStart.all (fun range =>
      Nat.ble 128 range.1 || within 65 90 range || within 97 122 range) = true := by decide +kernel
  simp only [isWordStart, Bool.or_eq_true, beq_iff_eq, Text.CodeRanges.contains_iff] at start
  rcases start with (⟨range, member, low, high⟩ | rfl) | rfl
  · have kind := List.all_eq_true.mp ranges range member
    simp only [Bool.or_eq_true, Nat.ble_eq] at kind
    rcases kind with (above | capital) | small
    · exact .inr (.inr (.inl (Nat.le_trans above low)))
    · exact .inr (.inr (.inr (.inl (within_contains capital low high))))
    · exact .inr (.inr (.inr (.inr (within_contains small low high))))
  · exact .inl rfl
  · exact .inr (.inl rfl)

-- Digits and letters go on a word, and the same two signs.
theorem isWordPart_cases {c : Char} (part : isWordPart c = true) : c = '$' ∨ 128 ≤ c.toNat ∨
    (48 ≤ c.toNat ∧ c.toNat ≤ 57) ∨ (65 ≤ c.toNat ∧ c.toNat ≤ 90) ∨ c.toNat = 95 ∨
      (97 ≤ c.toNat ∧ c.toNat ≤ 122) := by
  have ranges : Text.wordPart.all (fun range => Nat.ble 128 range.1 || within 48 57 range
      || within 65 90 range || within 95 95 range || within 97 122 range) = true := by decide +kernel
  simp only [isWordPart, Bool.or_eq_true, beq_iff_eq, Text.CodeRanges.contains_iff] at part
  rcases part with ((⟨range, member, low, high⟩ | rfl) | rfl) | rfl
  · have kind := List.all_eq_true.mp ranges range member
    simp only [Bool.or_eq_true, Nat.ble_eq] at kind
    rcases kind with (((above | digit) | capital) | line) | small
    · exact .inr (.inl (Nat.le_trans above low))
    · exact .inr (.inr (.inl (within_contains digit low high)))
    · exact .inr (.inr (.inr (.inl (within_contains capital low high))))
    · have both := within_contains line low high
      exact .inr (.inr (.inr (.inr (.inl (by omega)))))
    · exact .inr (.inr (.inr (.inr (.inr (within_contains small low high)))))
  · decide
  · decide
  · decide

-- Characters that begin something other than a word, and do not belong to one.
def otherStarts : List Char :=
  [' ', '\t', '\n', '\x0b', '\x0c', '\x0d', '"', '\'', '>', '\x7d', '@', '<', '.', '-', ':', '+', '=',
   '!', '&', '|', '*', '/', '%', '^', '(', ')', '\x7b', '[', ']', ';', ',', '?', '~',
   '\\']

theorem isWordStart_ne {c other : Char} (start : isWordStart c = true) (member : other ∈ otherStarts) :
    c ≠ other := by
  have none : ∀ other ∈ otherStarts, other ≠ '_' ∧ other ≠ '$' ∧ ¬ 128 ≤ other.toNat ∧
      ¬ (65 ≤ other.toNat ∧ other.toNat ≤ 90) ∧ ¬ (97 ≤ other.toNat ∧ other.toNat ≤ 122) :=
    List.all_iff_forall_prop.mp (by decide)
  rintro rfl
  obtain ⟨line, dollar, above, capital, small⟩ := none c member
  rcases isWordStart_cases start with same | same | same | same | same
  · exact line same
  · exact dollar same
  · exact above same
  · exact capital same
  · exact small same

theorem isWordPart_other {c : Char} (member : c ∈ otherStarts) : isWordPart c = false := by
  have none : ∀ other ∈ otherStarts, other ≠ '$' ∧ ¬ 128 ≤ other.toNat ∧
      ¬ (48 ≤ other.toNat ∧ other.toNat ≤ 57) ∧ ¬ (65 ≤ other.toNat ∧ other.toNat ≤ 90) ∧
        other.toNat ≠ 95 ∧ ¬ (97 ≤ other.toNat ∧ other.toNat ≤ 122) :=
    List.all_iff_forall_prop.mp (by decide)
  obtain ⟨dollar, above, digit, capital, line, small⟩ := none c member
  refine Bool.eq_false_iff.mpr fun part => ?_
  rcases isWordPart_cases part with same | same | same | same | same | same
  · exact dollar same
  · exact above same
  · exact digit same
  · exact capital same
  · exact line same
  · exact small same

theorem isWordStart_not_digit {c : Char} (start : isWordStart c = true) : Number.isDigit c = false := by
  refine Bool.eq_false_iff.mpr fun digit => ?_
  simp only [Number.isDigit, Bool.and_eq_true, decide_eq_true_eq] at digit
  have low : 48 ≤ c.toNat := digit.1
  have high : c.toNat ≤ 57 := digit.2
  rcases isWordStart_cases start with rfl | rfl | same | same | same
  · exact absurd high (by decide)
  · exact absurd low (by decide)
  · omega
  · omega
  · omega

-- No word goes on here, and no hyphen makes a longer mark of it.
def endsWord : List Char → Bool
  | [] => true
  | c :: _ => !isWordPart c && c != '-'

theorem takeWhile_word {cs rest : List Char} (parts : ∀ c ∈ cs, isWordPart c = true)
    (ends : endsWord rest = true) :
    (cs ++ rest).takeWhile isWordPart = cs ∧ (cs ++ rest).dropWhile isWordPart = rest := by
  rw [List.takeWhile_append_of_pos parts, List.dropWhile_append_of_pos parts]
  cases rest with
  | nil => simp
  | cons c more =>
    have stop : isWordPart c = false := by
      simp only [endsWord, Bool.and_eq_true, Bool.not_eq_true'] at ends
      exact ends.1
    simp [stop]

-- One mark begins like a word, and it goes on with a hyphen.
theorem not_nonSealed {c : Char} {cs rest : List Char} (parts : ∀ d ∈ cs, isWordPart d = true)
    (ends : endsWord rest = true) : "non-sealed".toList.isPrefixOf (c :: (cs ++ rest)) = false := by
  refine Bool.eq_false_iff.mpr fun found => ?_
  obtain ⟨tail, whole⟩ := List.isPrefixOf_iff_prefix.mp found
  have text : "non-sealed".toList = 'n' :: 'o' :: 'n' :: '-' :: "sealed".toList := by decide
  have word : isWordPart 'o' = true ∧ isWordPart 'n' = true ∧ isWordPart '-' = false :=
    ⟨by decide, by decide, isWordPart_other (by decide)⟩
  have left := (takeWhile_word parts ends).2
  simp only [text, List.cons_append] at whole
  rw [← (List.cons.inj whole).2] at left
  simp only [List.dropWhile_cons, word, if_true, Bool.false_eq_true, if_false] at left
  rw [← left] at ends
  simp [endsWord] at ends

theorem findMark?_eq_none {cs : List Char} {entries : List (String × Mark)}
    (missed : ∀ entry ∈ entries, entry.1.toList.isPrefixOf cs = false) : findMark? cs entries = none := by
  induction entries with
  | nil => rfl
  | cons entry more ih =>
    obtain ⟨first, others⟩ := List.forall_mem_cons.mp missed
    rw [findMark?, first]
    exact ih others

-- The other marks begin with characters that begin no word.
theorem read?_word {c : Char} {cs rest : List Char} (start : isWordStart c = true)
    (parts : ∀ d ∈ cs, isWordPart d = true) (ends : endsWord rest = true) :
    Mark.read? (c :: (cs ++ rest)) = none := by
  have heads : ∀ entry ∈ markTexts, entry.1 = "non-sealed" ∨
      entry.1.toList.head?.any otherStarts.contains = true := by decide
  have missed : ∀ entry ∈ markTexts, entry.1.toList.isPrefixOf (c :: (cs ++ rest)) = false := by
    intro entry member
    rcases heads entry member with hyphened | headed
    · rw [hyphened]
      exact not_nonSealed parts ends
    · obtain ⟨d, head, other⟩ := (Option.any_eq_true _ _).mp headed
      obtain ⟨more, text⟩ := List.head?_eq_some_iff.mp head
      have apart : d ≠ c := (isWordStart_ne start (List.contains_iff_mem.mp other)).symm
      simp [text, List.isPrefixOf, apart]
  exact findMark?_eq_none missed

theorem startsNumber_word {c : Char} (start : isWordStart c = true) (cs : List Char) :
    startsNumber (c :: cs) = false := by
  have dot : c ≠ '.' := isWordStart_ne start (by decide)
  unfold startsNumber
  split
  · rename_i same
    exact absurd (List.cons.inj same).1 dot
  · rename_i same
    rw [← (List.cons.inj same).1]
    exact isWordStart_not_digit start
  · rfl

-- What begins like a word, or like no text and no closing bracket, is read as it would be outside texts.
theorem readToken?_plain {c : Char} (other : c ∉ ['\x7d', '"', '\'', '>']) (cs : List Char) :
    readToken? [] (c :: cs) = readPlain [] (c :: cs) := by
  simp only [List.mem_cons, List.not_mem_nil, or_false, not_or] at other
  obtain ⟨brace, quote, tick, angle⟩ := other
  rw [readToken?]
  · exact fun _ same => quote (List.cons.inj same).1
  · exact fun _ same => tick (List.cons.inj same).1
  · exact fun _ same => angle (List.cons.inj same).1
  · exact fun _ _ _ same => (nomatch ·)

theorem Word.chars (word : Word) : ∃ c cs, word.text.toList = c :: cs ∧ isWordStart c = true ∧
    ∀ d ∈ cs, isWordPart d = true := by
  have valid := word.valid
  unfold isWord at valid
  cases chars : word.text.toList with
  | nil => simp [chars, isWordChars] at valid
  | cons c cs =>
    simp only [chars, isWordChars, Bool.and_eq_true, List.all_eq_true] at valid
    exact ⟨c, cs, rfl, valid⟩

theorem Word.not_mem (word : Word) {other : Char} (member : other ∈ otherStarts) :
    other ∉ word.text.toList := by
  obtain ⟨c, cs, chars, start, parts⟩ := word.chars
  rw [chars]
  intro inside
  rcases List.mem_cons.mp inside with rfl | later
  · exact isWordStart_ne start member rfl
  · have part := parts other later
    rw [isWordPart_other member] at part
    cases part

theorem readToken_word (word : Word) {rest : List Char} (ends : endsWord rest = true) :
    readToken [] (word.text.toList ++ rest) = ⟨.word word, rest, []⟩ := by
  obtain ⟨c, cs, chars, start, parts⟩ := word.chars
  obtain ⟨front, back⟩ := takeWhile_word parts ends
  have other : c ∉ ['\x7d', '"', '\'', '>'] := by
    intro member
    have among : c ∈ otherStarts := by
      simp only [List.mem_cons, List.not_mem_nil, or_false] at member
      rcases member with rfl | rfl | rfl | rfl <;> decide
    exact isWordStart_ne start among rfl
  have text : String.ofList (c :: cs) = word.text := by rw [← chars, String.ofList_toList]
  rw [chars, List.cons_append, readToken, readToken?_plain other, readPlain, startsNumber_word start,
    read?_word start parts ends]
  simp [Word.read?, start, front, back, text]

namespace Mark

-- The spelling of a mark that has one only.
def spelling : Mark → List Char
  | .openRound => ['(']
  | .closeRound => [')']
  | .openBrace => ['\x7b']
  | .closeBrace => ['\x7d']
  | .semicolon => [';']
  | .comma => [',']
  | .dot => ['.']
  | .sign => ['@']
  | .equals => ['=']
  | .less => ['<']
  | .doubleColon => [':', ':']
  | _ => []

-- Whether a character behind the mark could make something longer of it.
def goesOn : Mark → Char → Bool
  | .dot, c => c == '.' || Number.isDigit c
  | .sign, c => c == 'i'
  | .equals, c => c == '='
  | .less, c => c == '<' || c == '='
  | _, _ => false

end Mark

-- No longer mark is there.
theorem read?_mark {mark : Mark} (spelled : mark.spelling ≠ []) {c : Char}
    (stops : mark.goesOn c = false) (rest : List Char) :
    Mark.read? (mark.spelling ++ c :: rest) = some (mark, mark.spelling.length) := by
  cases mark with
  | dot =>
    have other : '.' ≠ c := fun same => by simp [Mark.goesOn, ← same] at stops
    simp [Mark.read?, Mark.spelling, markTexts, findMark?, List.isPrefixOf, other]
  | sign =>
    have other : 'i' ≠ c := fun same => by simp [Mark.goesOn, ← same] at stops
    simp [Mark.read?, Mark.spelling, markTexts, findMark?, List.isPrefixOf, other]
  | equals =>
    have other : '=' ≠ c := fun same => by simp [Mark.goesOn, ← same] at stops
    simp [Mark.read?, Mark.spelling, markTexts, findMark?, List.isPrefixOf, other]
  | less =>
    have other : '<' ≠ c ∧ '=' ≠ c := by
      constructor <;> exact fun same => by simp [Mark.goesOn, ← same] at stops
    simp [Mark.read?, Mark.spelling, markTexts, findMark?, List.isPrefixOf, other]
  | _ => first | rfl | exact absurd rfl spelled

theorem startsNumber_mark {mark : Mark} (spelled : mark.spelling ≠ []) {c : Char}
    (stops : mark.goesOn c = false) (rest : List Char) :
    startsNumber (mark.spelling ++ c :: rest) = false := by
  cases mark with
  | dot =>
    simp only [Mark.goesOn, Bool.or_eq_false_iff] at stops
    exact stops.2
  | _ => first | rfl | exact absurd rfl spelled

theorem readToken_mark {mark : Mark} (spelled : mark.spelling ≠ []) {c : Char}
    (stops : mark.goesOn c = false) (rest : List Char) :
    readToken [] (mark.spelling ++ c :: rest) = ⟨.mark mark, c :: rest, []⟩ := by
  have plain : readToken? [] (mark.spelling ++ c :: rest) = readPlain [] (mark.spelling ++ c :: rest) := by
    cases mark with
    | _ => first | rfl | exact absurd rfl spelled
  have after : afterMark mark [] = [] := by cases mark <;> rfl
  rw [readToken, plain, readPlain, startsNumber_mark spelled stops, read?_mark spelled stops]
  simp [after]

theorem readSingle_closed {content : List Char} (quote : '"' ∉ content) (escape : '\\' ∉ content)
    (rest : List Char) {bound : Nat} (enough : content.length < bound) :
    readSingle bound (content ++ '"' :: rest) = some (.closed, rest) := by
  induction content generalizing bound with
  | nil =>
    obtain ⟨bound, rfl⟩ : ∃ less, bound = less + 1 := ⟨bound - 1, by omega⟩
    rfl
  | cons c more ih =>
    obtain ⟨bound, rfl⟩ : ∃ less, bound = less + 1 := ⟨bound - 1, by omega⟩
    simp only [List.mem_cons, not_or] at quote escape
    rw [List.cons_append, readSingle, ih quote.2 escape.2 (by simp at enough; omega)]
    · exact fun same => quote.1 same.symm
    · exact fun same => escape.1 same.symm
    · exact fun _ same => absurd same.symm escape.1

-- What can stand between two quotes: something, and nothing that would end or interrupt the text.
structure Quotation where
  chars : List Char
  some_ : chars ≠ []
  unquoted : '"' ∉ chars
  unescaped : '\\' ∉ chars

-- A word with a text before it and a text behind it.
def Quotation.around (before : String) (word : Word) (after : String)
    (some_ : before.toList ≠ [] := by decide)
    (clean : ∀ c ∈ ['"', '\\'], c ∉ before.toList ∧ c ∉ after.toList :=
      by exact List.all_iff_forall_prop.mp (by decide)) : Quotation where
  chars := before.toList ++ (word.text.toList ++ after.toList)
  some_ := fun none => some_ (List.append_eq_nil_iff.mp none).1
  unquoted := by
    have quote := clean '"' (by decide)
    simp [quote, word.not_mem (show '"' ∈ otherStarts by decide)]
  unescaped := by
    have escape := clean '\\' (by decide)
    simp [escape, word.not_mem (show '\\' ∈ otherStarts by decide)]

theorem readToken_text (content : Quotation) (rest : List Char) :
    readToken [] ('"' :: (content.chars ++ '"' :: rest)) = ⟨.text, rest, []⟩ := by
  obtain ⟨chars, some_, unquoted, unescaped⟩ := content
  obtain ⟨c, more, rfl⟩ := List.exists_cons_of_ne_nil some_
  have first : c ≠ '"' := fun same => unquoted (same ▸ List.mem_cons_self)
  have closed := readSingle_closed unquoted unescaped rest
    (show (c :: more).length < (c :: more ++ '"' :: rest).length + 1 by
      rw [List.length_append]
      omega)
  rw [readToken, readToken?, readStartOfText, readText, Quote.read?, closed]
  · rfl
  · exact fun _ same => first (List.cons.inj same).1

-- What a line is spelled with.
inductive Glyph where
  | word (word : Word)
  | mark (mark : Mark) (spelled : mark.spelling ≠ [])
  | greater
  | text (content : Quotation)

namespace Glyph

def token : Glyph → Token
  | word found => .word found
  | mark found _ => .mark found
  | greater => .greater false
  | text _ => .text

def chars : Glyph → List Char
  | word found => found.text.toList
  | mark found _ => found.spelling
  | greater => ['>']
  | text content => '"' :: (content.chars ++ ['"'])

-- The glyph ends before a character.
def stopsAt : Glyph → Char → Bool
  | word _, c => !isWordPart c && c != '-'
  | mark found _, c => !found.goesOn c
  | greater, c => c != '>' && c != '='
  | text _, _ => true

-- The glyph can stand right before another one. Two words cannot, and of two marks the first must not
-- be the beginning of a longer one.
def apart : Glyph → Glyph → Bool
  | word _, word _ => false
  | word _, _ => true
  | mark .equals _, _ => false
  | mark .sign _, word next => next.text.toList.head? != some 'i'
  | mark .sign _, _ => false
  | mark .dot _, word _ => true
  | mark .dot _, _ => false
  | mark .less _, word _ => true
  | mark .less _, _ => false
  | mark _ _, _ => true
  | greater, _ => false
  | text _, _ => true

end Glyph

section Glyphs
variable {glyph next : Glyph} {c : Char}

theorem readToken_glyph (stops : glyph.stopsAt c = true) (rest : List Char) :
    readToken [] (glyph.chars ++ c :: rest) = ⟨glyph.token, c :: rest, []⟩ := by
  cases glyph with
  | word found => exact readToken_word found stops
  | mark found spelled => exact readToken_mark spelled (by simpa [Glyph.stopsAt] using stops) rest
  | greater =>
    have alone : isJoined (c :: rest) = false := by
      simp only [Glyph.stopsAt, Bool.and_eq_true, bne_iff_ne] at stops
      unfold isJoined
      split
      · rename_i same
        exact absurd (List.cons.inj same).1 stops.1
      · rename_i same
        exact absurd (List.cons.inj same).1 stops.2
      · rfl
    have read : readToken [] ('>' :: c :: rest) = ⟨.greater (isJoined (c :: rest)), c :: rest, []⟩ := rfl
    rw [alone] at read
    exact read
  | text content =>
    have read := readToken_text content (c :: rest)
    simpa [Glyph.chars, Glyph.token] using read

theorem Word.isGapChar_head {c : Char} (start : isWordStart c = true) : isGapChar c = false := by
  have among : ∀ other ∈ [' ', '\t', '\n', '\x0b', '\x0c', '\x0d'], other ∈ otherStarts :=
    List.all_iff_forall_prop.mp (by decide)
  have gaps : ∀ other ∈ [' ', '\t', '\n', '\x0b', '\x0c', '\x0d'], c ≠ other :=
    fun other member => isWordStart_ne start (among other member)
  simpa [isGapChar, and_assoc] using gaps

theorem Glyph.starts (glyph : Glyph) :
    ∃ c more, glyph.chars = c :: more ∧ isGapChar c = false ∧ c ≠ '/' := by
  cases glyph with
  | word found =>
    obtain ⟨c, cs, chars, start, _⟩ := found.chars
    exact ⟨c, cs, chars, Word.isGapChar_head start, isWordStart_ne start (by decide)⟩
  | mark found spelled => cases found with
    | _ => first | exact absurd rfl spelled | exact ⟨_, _, rfl, by decide, by decide⟩
  | greater => exact ⟨_, _, rfl, by decide, by decide⟩
  | text content => exact ⟨_, _, rfl, by decide, by decide⟩

-- Characters that end a word when they stand behind it.
def wordEnds : List Char :=
  [' ', '\n', '(', ')', '\x7b', '\x7d', ';', ',', '.', '@', '=', '<', ':', '>', '"']

theorem Glyph.stopsAt_word (found : Word) (member : c ∈ wordEnds) :
    (Glyph.word found).stopsAt c = true := by
  have among : ∀ c ∈ wordEnds, c ∈ otherStarts ∧ c ≠ '-' := List.all_iff_forall_prop.mp (by decide)
  simp [Glyph.stopsAt, isWordPart_other (among c member).1, (among c member).2]

theorem Glyph.stopsAt_blank (glyph : Glyph) (blank : c = ' ' ∨ c = '\n') : glyph.stopsAt c = true := by
  cases glyph with
  | word found => exact Glyph.stopsAt_word found (by rcases blank with rfl | rfl <;> decide)
  | mark found _ => rcases blank with rfl | rfl <;> cases found <;> rfl
  | greater => rcases blank with rfl | rfl <;> rfl
  | text _ => rfl

theorem Mark.stopsAt_word {mark : Mark} {spelled : mark.spelling ≠ []} {found : Word}
    (apart : (Glyph.mark mark spelled).apart (.word found) = true) :
    ∃ c more, found.text.toList = c :: more ∧ (Glyph.mark mark spelled).stopsAt c = true := by
  obtain ⟨c, more, chars, start, _⟩ := found.chars
  refine ⟨c, more, chars, ?_⟩
  have dot : c ≠ '.' := isWordStart_ne start (by decide)
  have less : c ≠ '<' := isWordStart_ne start (by decide)
  have equals : c ≠ '=' := isWordStart_ne start (by decide)
  cases mark with
  | dot => simp [Glyph.stopsAt, Mark.goesOn, dot, isWordStart_not_digit start]
  | less => simp [Glyph.stopsAt, Mark.goesOn, less, equals]
  | equals => cases apart
  | sign =>
    simp only [Glyph.apart, chars, List.head?_cons, bne_iff_ne, ne_eq, Option.some.injEq] at apart
    simp [Glyph.stopsAt, Mark.goesOn, apart]
  | _ => rfl

theorem Glyph.stopsAt_next (apart : glyph.apart next = true) :
    ∃ c more, next.chars = c :: more ∧ glyph.stopsAt c = true := by
  cases glyph with
  | text content =>
    obtain ⟨c, more, chars, _⟩ := next.starts
    exact ⟨c, more, chars, rfl⟩
  | greater => cases apart
  | word found => cases next with
    | word _ => cases apart
    | mark other spelled => cases other with
      | _ => first | exact absurd rfl spelled | exact ⟨_, _, rfl, Glyph.stopsAt_word found (by decide)⟩
    | greater => exact ⟨_, _, rfl, Glyph.stopsAt_word found (by decide)⟩
    | text _ => exact ⟨_, _, rfl, Glyph.stopsAt_word found (by decide)⟩
  | mark found _ => cases next with
    | word other => exact Mark.stopsAt_word apart
    | _ =>
      obtain ⟨c, more, chars, _⟩ := Glyph.starts _
      refine ⟨c, more, chars, ?_⟩
      cases found <;> first | rfl | cases apart

end Glyphs

-- A line: glyphs, each with the number of spaces before it.
abbrev Line := List (Nat × Glyph)

namespace Line

def chars : Line → List Char
  | [] => []
  | (spaces, glyph) :: rest => List.replicate spaces ' ' ++ (glyph.chars ++ chars rest)

def lexemes (line : Line) : List Lexeme :=
  line.map fun (spaces, glyph) => ⟨List.replicate spaces ' ', glyph.token, glyph.chars⟩

def tokens (line : Line) : List Token := line.map fun part => part.2.token

theorem chars_append (one two : Line) : chars (one ++ two) = chars one ++ chars two := by
  induction one with
  | nil => rfl
  | cons part rest ih => simp [chars, ih]

theorem tokens_append (one two : Line) : tokens (one ++ two) = tokens one ++ tokens two :=
  List.map_append

-- No glyph runs into the next one.
def spaced : Line → Bool
  | (_, glyph) :: (spaces, next) :: rest =>
    (spaces != 0 || glyph.apart next) && spaced ((spaces, next) :: rest)
  | _ => true

-- The last glyph ends before a character.
def endsAt (line : Line) (c : Char) : Bool := line.getLast?.all fun part => part.2.stopsAt c

theorem endsAt_blank (line : Line) {c : Char} (blank : c = ' ' ∨ c = '\n') : line.endsAt c = true := by
  cases last : line.getLast? with
  | none => simp [endsAt, last]
  | some part => simpa [endsAt, last] using part.2.stopsAt_blank blank

theorem scans {line : Line} (fits : line.spaced = true) {c : Char} (ends : line.endsAt c = true)
    (rest : List Char) : Scans (line.chars ++ c :: rest) line.lexemes (c :: rest) := by
  induction line with
  | nil => exact .nothing _
  | cons part others ih =>
    obtain ⟨spaces, glyph⟩ := part
    have blank : ∀ d ∈ List.replicate spaces ' ', isGapChar d = true := by
      intro d member
      rw [List.eq_of_mem_replicate member]
      decide
    -- What stands behind the glyph: the end of the line, a space or the next glyph.
    have stops : ∃ d more, Line.chars others ++ c :: rest = d :: more ∧ glyph.stopsAt d = true := by
      cases others with
      | nil => exact ⟨_, _, rfl, ends⟩
      | cons next after =>
        obtain ⟨_ | gap, following⟩ := next
        · have apart : glyph.apart following = true := (Bool.and_eq_true _ _ ▸ fits).1
          obtain ⟨d, more, chars, stop⟩ := Glyph.stopsAt_next apart
          exact ⟨d, more ++ (Line.chars after ++ c :: rest), by simp [Line.chars, chars], stop⟩
        · exact ⟨_, _, rfl, glyph.stopsAt_blank (.inl rfl)⟩
    obtain ⟨d, more, whole, stop⟩ := stops
    have reads := readToken_glyph stop more
    rw [← whole] at reads
    have inner : spaced others = true ∧ endsAt others c = true := by
      cases others with
      | nil => exact ⟨rfl, rfl⟩
      | cons next after =>
        rw [endsAt, List.getLast?_cons_cons] at ends
        exact ⟨(Bool.and_eq_true _ _ ▸ fits).2, ends⟩
    rw [Line.chars, List.append_assoc, List.append_assoc]
    exact .lexeme blank glyph.starts reads (ih inner.1 inner.2)

end Line

def linesChars (lines : List Line) : List Char := lines.flatMap fun line => line.chars ++ ['\n']

def linesTokens (lines : List Line) : List Token := lines.flatMap Line.tokens

theorem linesTokens_cons (line : Line) (lines : List Line) :
    linesTokens (line :: lines) = line.tokens ++ linesTokens lines := List.flatMap_cons

theorem linesTokens_append (one two : List Line) :
    linesTokens (one ++ two) = linesTokens one ++ linesTokens two := List.flatMap_append

-- Blank lines and the breaks between lines belong to the gap before the next glyph.
def gapAfter : List Char → List Line → List Char
  | gap, [] => gap
  | gap, [] :: lines => gapAfter (gap ++ ['\n']) lines
  | _, (_ :: _) :: lines => gapAfter ['\n'] lines

def sourceLexemes : List Char → List Line → List Lexeme
  | _, [] => []
  | gap, [] :: lines => sourceLexemes (gap ++ ['\n']) lines
  | gap, ((spaces, glyph) :: others) :: lines =>
    ⟨gap ++ List.replicate spaces ' ', glyph.token, glyph.chars⟩ ::
      (Line.lexemes others ++ sourceLexemes ['\n'] lines)

theorem gapAfter_blank {lines : List Line} {gap : List Char} (blank : ∀ c ∈ gap, isGapChar c = true) :
    ∀ c ∈ gapAfter gap lines, isGapChar c = true := by
  have breaks : ∀ c ∈ ['\n'], isGapChar c = true := List.forall_mem_singleton.mpr rfl
  induction lines generalizing gap with
  | nil => exact blank
  | cons line others ih => cases line with
    | nil => exact ih fun c member => (List.mem_append.mp member).elim (blank c) (breaks c)
    | cons => exact ih breaks

theorem tokensOf_sourceLexemes (gap : List Char) (lines : List Line) :
    (sourceLexemes gap lines).map (·.token) = linesTokens lines := by
  induction lines generalizing gap with
  | nil => rfl
  | cons line others ih => cases line with
    | nil => exact ih _
    | cons part parts => simp [sourceLexemes, linesTokens, Line.tokens, Line.lexemes, ih, Function.comp_def]

theorem scans_lines {lines : List Line} (fit : ∀ line ∈ lines, line.spaced = true) {gap : List Char}
    (blank : ∀ c ∈ gap, isGapChar c = true) (rest : List Char) :
    Scans (gap ++ (linesChars lines ++ rest)) (sourceLexemes gap lines) (gapAfter gap lines ++ rest) := by
  induction lines generalizing gap with
  | nil => exact .nothing _
  | cons line others ih =>
    obtain ⟨one, more⟩ := List.forall_mem_cons.mp fit
    have breaks : ∀ c ∈ ['\n'], isGapChar c = true := List.forall_mem_singleton.mpr rfl
    cases line with
    | nil =>
      have wider : ∀ c ∈ gap ++ ['\n'], isGapChar c = true := by
        intro c member
        exact (List.mem_append.mp member).elim (blank c) (breaks c)
      have scanned := ih more wider
      rw [List.append_assoc] at scanned
      exact scanned
    | cons part parts =>
      have line := Line.scans one (Line.endsAt_blank _ (.inr rfl)) (linesChars others ++ rest)
      have scanned := (line.append (ih more breaks)).widen blank
      simp only [linesChars, List.flatMap_cons, List.append_assoc, List.singleton_append] at scanned ⊢
      exact scanned

theorem withoutByteOrderMark_plain {cs : List Char} (plain : cs.head? ≠ some byteOrderMark) :
    withoutByteOrderMark cs = cs := by
  cases cs with
  | nil => rfl
  | cons c rest => exact if_neg fun same => plain (congrArg some same)

-- The lexemes of a text of lines are those of its lines.
theorem lexemes_lines {lines : List Line} (fit : ∀ line ∈ lines, line.spaced = true)
    (plain : (linesChars lines).head? ≠ some byteOrderMark) {text : String}
    (spelled : text.toList = linesChars lines) : lexemes text = sourceLexemes [] lines := by
  have scanned := scans_lines fit (List.forall_mem_nil _) []
  rw [List.nil_append, List.append_nil, List.append_nil] at scanned
  obtain ⟨bound, _, same⟩ := lexemesFrom_scans scanned (Nat.lt_succ_self _)
  have ended : ∀ c ∈ gapAfter [] lines, isGapChar c = true := gapAfter_blank (List.forall_mem_nil _)
  rw [lexemes, spelled, withoutByteOrderMark_plain plain, same, lexemesFrom_blank ended, List.append_nil]

end SpringSkeleton.Java
