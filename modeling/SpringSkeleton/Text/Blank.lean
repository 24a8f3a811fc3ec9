import SpringSkeleton.Text.CodeRanges

namespace SpringSkeleton.Text

-- The Unicode property White_Space.
def whiteSpace : CodeRanges :=
  [(9,13), (32,32), (133,133), (160,160), (5760,5760), (8192,8202), (8232,8233), (8239,8239),
   (8287,8287), (12288,12288)]

def isBlank (c : Char) : Bool := whiteSpace.contains c

def trimStart (cs : List Char) : List Char := cs.dropWhile isBlank

def trimEnd (cs : List Char) : List Char := (cs.reverse.dropWhile isBlank).reverse

def trimChars (cs : List Char) : List Char := trimEnd (trimStart cs)

def trim (s : String) : String := String.ofList (trimChars s.toList)

-- A text of white space alone, the empty one included.
def isBlankText (s : String) : Bool := s.toList.all isBlank

theorem trimStart_eq_self {cs : List Char} (h : ∀ c, cs.head? = some c → isBlank c = false) :
    trimStart cs = cs := by
  cases cs with
  | nil => rfl
  | cons c rest => simp [trimStart, List.dropWhile, h c rfl]

theorem head_trimStart (cs : List Char) (c : Char) (h : (trimStart cs).head? = some c) :
    isBlank c = false := by
  induction cs with
  | nil => simp [trimStart] at h
  | cons d rest ih =>
    by_cases blank : isBlank d = true
    · exact ih (by simpa [trimStart, List.dropWhile, blank] using h)
    · simp [trimStart, List.dropWhile, blank] at h
      subst h; simpa using blank

theorem trimEnd_eq_reverse (cs : List Char) : trimEnd cs = (trimStart cs.reverse).reverse := rfl

theorem last_trimEnd (cs : List Char) (c : Char) (h : (trimEnd cs).getLast? = some c) :
    isBlank c = false :=
  head_trimStart cs.reverse c (by simpa [trimEnd_eq_reverse] using h)

theorem trimEnd_eq_self {cs : List Char} (h : ∀ c, cs.getLast? = some c → isBlank c = false) :
    trimEnd cs = cs := by
  rw [trimEnd_eq_reverse, trimStart_eq_self (fun c hc => h c (by simpa using hc)), List.reverse_reverse]

theorem head_trimEnd {cs : List Char} (h : ∀ c, cs.head? = some c → isBlank c = false) :
    ∀ c, (trimEnd cs).head? = some c → isBlank c = false := by
  intro c first
  have kept : trimEnd cs <+: cs := by
    rw [trimEnd, ← List.reverse_suffix, List.reverse_reverse]
    exact List.dropWhile_suffix isBlank
  obtain ⟨dropped, eq⟩ := kept
  refine h c ?_
  rw [← eq, List.head?_append, first]
  rfl

theorem head_trimChars (cs : List Char) (c : Char) (h : (trimChars cs).head? = some c) :
    isBlank c = false :=
  head_trimEnd (head_trimStart cs) c h

theorem last_trimChars (cs : List Char) (c : Char) (h : (trimChars cs).getLast? = some c) :
    isBlank c = false :=
  last_trimEnd (trimStart cs) c h

theorem trimChars_trimChars (cs : List Char) : trimChars (trimChars cs) = trimChars cs := by
  have start := trimStart_eq_self (head_trimChars cs)
  have ending := trimEnd_eq_self (last_trimChars cs)
  calc trimChars (trimChars cs) = trimEnd (trimStart (trimChars cs)) := rfl
    _ = trimEnd (trimChars cs) := by rw [start]
    _ = trimChars cs := ending

theorem trim_trim (s : String) : trim (trim s) = trim s := by
  simp [trim, trimChars_trimChars]

theorem trim_eq_self {s : String} (first : ∀ c, s.toList.head? = some c → isBlank c = false)
    (last : ∀ c, s.toList.getLast? = some c → isBlank c = false) : trim s = s := by
  rw [trim, trimChars, trimStart_eq_self first, trimEnd_eq_self last, String.ofList_toList]

end SpringSkeleton.Text
