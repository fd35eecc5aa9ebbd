import DirectImports.ImportStatement.Printer
import DirectImports.Source.Token

/-!
# Reading tokens back

What is printed is read again token by token. `Reads` says that a text begins with a token and what
follows it, wherever in a file the text stands, and `Lexes` strings such tokens together. A token
that is set off by a blank is read like one that is not (`Reads.blank`).

Main statements:

* `reads_word`: a word is read back if what follows does not continue it;
* `reads_literal`: a string literal is read back if its text has no line feed and no carriage return
  in it, and otherwise begins no token;
* `lexes_of_isName`: a name that can be printed without quotes and is no word leads to a place where
  no token begins.
-/

namespace DirectImports

/-! ## Characters -/

namespace Text

theorem isIdentifierPart_of_isIdentifierStart {c : Char} (h : isIdentifierStart c = true) :
    isIdentifierPart c = true := by
  unfold isIdentifierPart
  split
  · next hascii =>
    unfold isIdentifierStart at h
    rw [if_pos hascii] at h
    simp only [Bool.or_eq_true] at h ⊢
    rcases h with (h | h) | h
    · exact Or.inl (Or.inl (Or.inl h))
    · exact Or.inl (Or.inr h)
    · exact Or.inr h
  · simp [h]

theorem isAsciiDigit_of_isIdentifierStart {c : Char} (h : isIdentifierStart c = true) :
    isAsciiDigit c = false := by
  rw [← Bool.not_eq_true]
  intro hdigit
  simp only [isAsciiDigit, Bool.and_eq_true, decide_eq_true_eq, Char.le_def,
    UInt32.le_iff_toNat_le] at hdigit
  have hlow : 48 ≤ c.toNat := hdigit.1
  have hhigh : c.toNat ≤ 57 := hdigit.2
  have hnone : ∀ k < 10, isIdentifierStart (Char.ofNat (48 + k)) = false := by decide
  have hcode : 48 + (c.toNat - 48) = c.toNat := by omega
  have hfalse := hnone (c.toNat - 48) (by omega)
  rw [hcode, Char.ofNat_toNat, h] at hfalse
  cases hfalse

/-- A letter that begins no identifier is not in ASCII. -/
theorem le_toNat_of_isAlphabetic {c : Char} (h : isAlphabetic c = true)
    (hstart : isIdentifierStart c = false) : 0x80 ≤ c.toNat := by
  refine Nat.le_of_not_lt fun hascii => ?_
  unfold isAlphabetic at h
  unfold isIdentifierStart at hstart
  rw [if_pos hascii] at h hstart
  simp [h] at hstart

/-- A letter or digit that continues no identifier is not in ASCII. -/
theorem le_toNat_of_isAlphanumeric {c : Char} (h : isAlphanumeric c = true)
    (hpart : isIdentifierPart c = false) : 0x80 ≤ c.toNat := by
  refine Nat.le_of_not_lt fun hascii => ?_
  unfold isAlphanumeric at h
  unfold isIdentifierPart at hpart
  rw [if_pos hascii] at h hpart
  rw [h] at hpart
  simp at hpart

theorem isAlphanumeric_of_isAlphabetic {c : Char} (h : isAlphabetic c = true) :
    isAlphanumeric c = true := by
  unfold isAlphanumeric
  split
  · next hascii =>
    unfold isAlphabetic at h
    rw [if_pos hascii] at h
    simp [h]
  · simp [h]

end Text

namespace Source

open Text

/-! ## Where tokens begin -/

/-- The character is not skipped before a token. -/
def begins (c : Char) : Bool :=
  c != '/' && !isLineBreak c && !isBlank c

/-- The characters beyond ASCII that are skipped before a token. -/
def skippedRanges : List CodeRange :=
  [(0x85, 0x85), (0xA0, 0xA0), (0x1680, 0x1680), (0x180E, 0x180E), (0x2000, 0x200B),
   (0x2028, 0x2029), (0x202F, 0x202F), (0x205F, 0x205F), (0x3000, 0x3000), (0xFEFF, 0xFEFF)]

/-- The characters in ASCII that are skipped before a token, or may begin a comment. -/
def skippedAscii : List Char :=
  ['/', '\t', '\n', Char.ofNat 0x0B, Char.ofNat 0x0C, '\r', ' ']

theorem mem_skipped_of_begins {c : Char} (h : begins c = false) :
    c ∈ skippedAscii ∨ CodeRange.holds skippedRanges c.toNat = true := by
  have hcode (code : Nat) (heq : c.toNat = code) (hmem : Char.ofNat code ∈ skippedAscii) :
      c ∈ skippedAscii := by
    rw [← heq, Char.ofNat_toNat] at hmem
    exact hmem
  simp only [begins, Bool.and_eq_false_iff, Bool.not_eq_false', bne_eq_false_iff_eq] at h
  unfold isLineBreak isBlank at h
  simp only [Bool.or_eq_true, beq_iff_eq, Bool.and_eq_true, decide_eq_true_eq] at h
  simp only [CodeRange.holds, skippedRanges, List.any_cons, List.any_nil, Bool.or_eq_true,
    Bool.and_eq_true, decide_eq_true_eq]
  rcases h with (rfl | ((rfl | rfl) | h) | h)
    | ((((((((((((rfl | rfl) | h) | h) | h) | h) | h) | h) | ⟨hlow, hhigh⟩) | h) | h) | h) | h)
  all_goals first
    | exact Or.inl (by decide)
    | exact Or.inl (hcode _ h (by decide))
    | exact Or.inr (by omega)

/-- Two lists of ranges have no code point in common. -/
def disjointRanges (ranges others : List CodeRange) : Bool :=
  ranges.all fun range => others.all fun other =>
    decide (range.2 < other.1) || decide (other.2 < range.1)

theorem holds_of_disjointRanges {ranges others : List CodeRange} {code : Nat}
    (hdisjoint : disjointRanges ranges others = true) (h : CodeRange.holds others code = true) :
    CodeRange.holds ranges code = false := by
  rw [← Bool.not_eq_true]
  intro hheld
  unfold CodeRange.holds at h hheld
  obtain ⟨other, hother, hin⟩ := List.any_eq_true.mp h
  obtain ⟨range, hrange, hwithin⟩ := List.any_eq_true.mp hheld
  have hapart := List.all_eq_true.mp (List.all_eq_true.mp hdisjoint range hrange) other hother
  simp only [Bool.or_eq_true, Bool.and_eq_true, decide_eq_true_eq] at hin hwithin hapart
  omega

theorem le_of_holds_skippedRanges {code : Nat} (h : CodeRange.holds skippedRanges code = true) :
    0x80 ≤ code ∧ code ≠ 0x200C ∧ code ≠ 0x200D := by
  simp only [CodeRange.holds, skippedRanges, List.any_cons, List.any_nil, Bool.or_eq_true,
    Bool.and_eq_true, decide_eq_true_eq, Bool.false_eq_true, or_false] at h
  omega

theorem disjointRanges_letterRanges : disjointRanges letterRanges skippedRanges = true := by
  decide +kernel

/-- What identifiers hold is not skipped. -/
theorem begins_of_isIdentifierPart {c : Char} (h : isIdentifierPart c = true) :
    begins c = true := by
  rw [← Bool.not_eq_false]
  intro hbegins
  rcases mem_skipped_of_begins hbegins with hmem | hheld
  · have hnone : skippedAscii.all (!isIdentifierPart ·) = true := by decide
    have hnot := List.all_eq_true.mp hnone c hmem
    rw [h] at hnot
    cases hnot
  · obtain ⟨hascii, hjoiner, hother⟩ := le_of_holds_skippedRanges hheld
    have hletter := holds_of_disjointRanges disjointRanges_letterRanges hheld
    have hextra := holds_of_disjointRanges
      (show disjointRanges identifierStartExtraRanges skippedRanges = true by decide) hheld
    have hpart := holds_of_disjointRanges
      (show disjointRanges identifierPartExtraRanges skippedRanges = true by decide +kernel) hheld
    unfold isIdentifierPart isIdentifierStart at h
    rw [if_neg (by omega), if_neg (by omega), hletter, hextra, hpart] at h
    simp [hjoiner, hother] at h

/-- Letters and digits are not skipped. -/
theorem begins_of_isAlphanumeric {c : Char} (h : isAlphanumeric c = true) : begins c = true := by
  rw [← Bool.not_eq_false]
  intro hbegins
  rcases mem_skipped_of_begins hbegins with hmem | hheld
  · have hnone : skippedAscii.all (!isAlphanumeric ·) = true := by decide
    have hnot := List.all_eq_true.mp hnone c hmem
    rw [h] at hnot
    cases hnot
  · obtain ⟨hascii, -, -⟩ := le_of_holds_skippedRanges hheld
    have hletter := holds_of_disjointRanges disjointRanges_letterRanges hheld
    have hextra := holds_of_disjointRanges
      (show disjointRanges alphabeticExtraRanges skippedRanges = true by decide +kernel) hheld
    have hnumber := holds_of_disjointRanges
      (show disjointRanges numberRanges skippedRanges = true by decide +kernel) hheld
    unfold isAlphanumeric isAlphabetic at h
    rw [if_neg (by omega), if_neg (by omega), hletter, hextra, hnumber] at h
    cases h

/-- A text that begins with a token and what follows it, wherever the text stands. -/
def Reads (text : List Char) (token : Token) (rest : List Char) : Prop :=
  ∀ offset, (Lexeme.next offset text).token = token ∧ (Lexeme.next offset text).rest = rest

theorem skipTrivia_of_begins {c : Char} (hc : begins c = true) (rest : List Char) (n : Nat)
    (lineBreak : Bool) :
    skipTrivia .blank n lineBreak (c :: rest) = some (n, lineBreak, c :: rest) := by
  simp only [begins, Bool.and_eq_true, bne_iff_ne, ne_eq, Bool.not_eq_true'] at hc
  obtain ⟨⟨hslash, hline⟩, hblank⟩ := hc
  simp [skipTrivia, hslash, hline, hblank]

theorem skipTrivia_blank {c : Char} (hc : begins c = true) (rest : List Char) :
    skipTrivia .blank 0 false (' ' :: c :: rest) = some (1, false, c :: rest) :=
  skipTrivia_of_begins hc rest 1 false

theorem next_of_begins {c : Char} (hc : begins c = true) (rest : List Char) (offset : Nat) :
    Lexeme.next offset (c :: rest)
      = Lexeme.ofScan false offset (c :: rest) (scanToken (c :: rest)) := by
  unfold Lexeme.next
  rw [skipTrivia_of_begins hc]
  rfl

theorem next_blank {c : Char} (hc : begins c = true) (rest : List Char) (offset : Nat) :
    Lexeme.next offset (' ' :: c :: rest) = Lexeme.next (offset + 1) (c :: rest) := by
  rw [next_of_begins hc]
  unfold Lexeme.next
  rw [skipTrivia_blank hc]

theorem Reads.blank {text rest : List Char} {token : Token} (h : Reads text token rest)
    (hbegins : text.head?.any begins = true) : Reads (' ' :: text) token rest := by
  cases text with
  | nil => cases hbegins
  | cons c text =>
    intro offset
    rw [next_blank hbegins]
    exact h (offset + 1)

theorem reads_of_scanToken {c : Char} {text rest : List Char} {token : Token} {n : Nat}
    (hc : begins c = true) (h : scanToken (c :: text) = some (token, n, rest)) :
    Reads (c :: text) token rest := by
  intro offset
  rw [next_of_begins hc, h]
  exact ⟨rfl, rfl⟩

theorem reads_invalid {c : Char} {text : List Char} (hc : begins c = true)
    (h : scanToken (c :: text) = none) : Reads (c :: text) .invalid (c :: text) := by
  intro offset
  rw [next_of_begins hc, h]
  exact ⟨rfl, rfl⟩

/-- The tokens of a text, one after the other. -/
def Lexes : List Char → List Token → Prop
  | _, [] => True
  | text, token :: tokens => ∃ rest, Reads text token rest ∧ Lexes rest tokens

/-- A blank before the first token changes nothing. -/
theorem Lexes.blank {text : List Char} {tokens : List Token} (h : Lexes text tokens)
    (hbegins : text.head?.any begins = true) : Lexes (' ' :: text) tokens := by
  cases tokens with
  | nil => trivial
  | cons token tokens =>
    obtain ⟨rest, hreads, hrest⟩ := h
    exact ⟨rest, hreads.blank hbegins, hrest⟩

/-! ## Words -/

/-- The text is an identifier of the source language, or a word that is written like one. -/
def isWord (text : String) : Bool :=
  match text.toList with
  | [] => false
  | first :: rest => isIdentifierStart first && rest.all isIdentifierPart

/-- The text does not continue a word. -/
def endsWord (text : List Char) : Bool :=
  text.head?.all fun c => !isIdentifierPart c && c != '\\'

theorem ne_backslash_of_isIdentifierPart {c : Char} (h : isIdentifierPart c = true) : c ≠ '\\' := by
  rintro rfl
  revert h
  decide

theorem wordChars_cons {c : Char} (hc : c ≠ '\\') (first : Bool)
    (haccepts : (if first then isIdentifierStart else isIdentifierPart) c = true)
    (done rest : List Char) (n : Nat) :
    wordChars 0 first done false n (c :: rest)
      = wordChars 0 false (c :: done) false (n + 1) rest := by
  conv => lhs; unfold wordChars
  simp only [hc, if_false, haccepts, if_true]

theorem wordChars_append {word : List Char} (hword : word.all isIdentifierPart = true)
    {rest : List Char} (hrest : endsWord rest = true) (done : List Char) (n : Nat) :
    wordChars 0 false done false n (word ++ rest)
      = some ((done.reverse ++ word, false), n + word.length, rest) := by
  induction word generalizing done n with
  | nil =>
    cases rest with
    | nil => simp [wordChars]
    | cons c rest =>
      simp only [endsWord, List.head?_cons, Option.all_some, Bool.and_eq_true, Bool.not_eq_true',
        bne_iff_ne, ne_eq] at hrest
      simp [wordChars, hrest]
  | cons c word ih =>
    rw [List.all_cons, Bool.and_eq_true] at hword
    have hnext : n + 1 + word.length = n + (c :: word).length := by
      rw [List.length_cons]
      omega
    rw [List.cons_append, wordChars_cons (ne_backslash_of_isIdentifierPart hword.1) false hword.1,
      ih hword.2, List.reverse_cons, List.append_assoc, hnext]
    rfl

/-- A word is scanned up to what does not continue it. -/
theorem scanWord_append {first : Char} {word : List Char} (hfirst : isIdentifierStart first = true)
    (hword : word.all isIdentifierPart = true) {rest : List Char} (hrest : endsWord rest = true) :
    scanWord (first :: word ++ rest)
      = some ((String.ofList (first :: word), false), 1 + word.length, rest) := by
  have hescape := ne_backslash_of_isIdentifierPart (isIdentifierPart_of_isIdentifierStart hfirst)
  unfold scanWord
  rw [List.cons_append, wordChars_cons hescape true hfirst, wordChars_append hword hrest]
  simp

theorem scanToken_of_isIdentifierStart {c : Char} (h : isIdentifierStart c = true)
    (rest : List Char) :
    scanToken (c :: rest)
      = (scanWord (c :: rest)).map
        fun ((name, escaped), n, tail) => (.word name escaped, n, tail) := by
  have hnone : ['"', '\'', '\x60', '#', '.'].all (!isIdentifierStart ·) = true := by decide
  have hne (d : Char) (hd : d ∈ ['"', '\'', '\x60', '#', '.']) : c ≠ d := by
    rintro rfl
    have hnot := List.all_eq_true.mp hnone c hd
    rw [h] at hnot
    cases hnot
  have hdigit := isAsciiDigit_of_isIdentifierStart h
  unfold scanToken
  simp [hne '"' (by simp), hne '\'' (by simp), hne '\x60' (by simp), hne '#' (by simp),
    hne '.' (by simp), hdigit, h]

/-- A word is read back where nothing continues it. -/
theorem reads_word {word : String} (hword : isWord word = true) {rest : List Char}
    (hrest : endsWord rest = true) : Reads (word.toList ++ rest) (.word word false) rest := by
  unfold isWord at hword
  cases htext : word.toList with
  | nil => rw [htext] at hword; cases hword
  | cons first tail =>
    rw [htext] at hword
    obtain ⟨hfirst, htail⟩ := Bool.and_eq_true_iff.mp hword
    have hname : String.ofList (first :: tail) = word := by
      rw [← htext, String.ofList_toList]
    have hscan : scanToken (first :: (tail ++ rest))
        = some (.word word false, 1 + tail.length, rest) := by
      rw [scanToken_of_isIdentifierStart hfirst, ← List.cons_append,
        scanWord_append hfirst htail hrest, hname]
      rfl
    exact reads_of_scanToken
      (begins_of_isIdentifierPart (isIdentifierPart_of_isIdentifierStart hfirst)) hscan

/-! ## Names that are no words -/

/-- Every punctuator is written in ASCII. -/
theorem scan_eq_none {c : Char} (hc : 0x80 ≤ c.toNat) (rest : List Char) :
    Symbol.scan (c :: rest) = none := by
  have htable : ∀ entry ∈ Symbol.table, entry.1.head?.any (·.toNat < 0x80) = true := by decide
  have hfind : Symbol.table.find? (fun entry => entry.1.isPrefixOf (c :: rest)) = none := by
    rw [List.find?_eq_none]
    intro entry hentry hprefix
    have hhead := htable entry hentry
    cases hsymbol : entry.1 with
    | nil =>
      rw [hsymbol] at hhead
      cases hhead
    | cons d ds =>
      rw [hsymbol, List.isPrefixOf_cons_cons] at hprefix
      have heq : d = c := eq_of_beq (Bool.and_eq_true_iff.mp hprefix).1
      rw [hsymbol, List.head?_cons, Option.any_some, decide_eq_true_eq, heq] at hhead
      omega
  unfold Symbol.scan Symbol.scanIn
  rw [hfind]
  rfl

/-- No token begins with a character beyond ASCII that begins no identifier. -/
theorem scanToken_eq_none {c : Char} (hc : 0x80 ≤ c.toNat) (hstart : isIdentifierStart c = false)
    (rest : List Char) : scanToken (c :: rest) = none := by
  have hne (d : Char) (hd : d.toNat < 0x80) : c ≠ d := by
    rintro rfl
    omega
  have hdigit : isAsciiDigit c = false := by
    rw [← Bool.not_eq_true]
    intro hdigit
    simp only [isAsciiDigit, Bool.and_eq_true, decide_eq_true_eq, Char.le_def,
      UInt32.le_iff_toNat_le] at hdigit
    have hhigh : c.toNat ≤ 57 := hdigit.2
    omega
  unfold scanToken
  simp [hne '"' (by decide), hne '\'' (by decide), hne '\x60' (by decide), hne '#' (by decide),
    hne '.' (by decide), hne '\\' (by decide), hdigit, hstart, scan_eq_none hc]

/-- A place where no token begins: at once, or after a word. -/
def stuckTokens : Option String → List Token
  | none => [.invalid]
  | some word => [.word word false, .invalid]

/-- A name that can be printed without quotes, but is no word, leads to a place where no token
begins. -/
theorem lexes_of_isName {name : String} (hname : Quoted.isName name = true)
    (hword : isWord name = false) (rest : List Char) :
    ∃ word?, Lexes (name.toList ++ rest) (stuckTokens word?) := by
  unfold Quoted.isName at hname
  unfold isWord at hword
  cases htext : name.toList with
  | nil => rw [htext] at hname; cases hname
  | cons first tail =>
    rw [htext] at hname hword
    simp only [Bool.and_eq_true, Bool.or_eq_true, beq_iff_eq, List.all_eq_true] at hname
    obtain ⟨hfirst, htail⟩ := hname
    cases hstart : isIdentifierStart first with
    | false =>
      have halphabetic : isAlphabetic first = true := by
        rcases hfirst with (h | rfl) | rfl
        · exact h
        · cases hstart
        · cases hstart
      exact ⟨none, _, reads_invalid
        (begins_of_isAlphanumeric (isAlphanumeric_of_isAlphabetic halphabetic))
        (scanToken_eq_none (le_toNat_of_isAlphabetic halphabetic hstart) hstart _), trivial⟩
    | true =>
      -- the word goes on up to the first character that cannot continue one
      dsimp only at hword
      rw [hstart, Bool.true_and, List.all_eq_false] at hword
      obtain ⟨stop, hstop, hnot⟩ := hword
      obtain ⟨c, hfind⟩ := Option.isSome_iff_exists.mp
        (List.find?_isSome (p := (!isIdentifierPart ·)).mpr ⟨stop, hstop, by simpa using hnot⟩)
      obtain ⟨hc, front, back, rfl, hfront⟩ := List.find?_eq_some_iff_append.mp hfind
      have hpart : isIdentifierPart c = false := by simpa using hc
      have hparts : front.all isIdentifierPart = true := by simpa using hfront
      have halphanumeric : isAlphanumeric c = true := by
        rcases htail c (by simp) with (h | rfl) | rfl
        · exact h
        · cases hpart
        · cases hpart
      have hascii := le_toNat_of_isAlphanumeric halphanumeric hpart
      have hnostart : isIdentifierStart c = false := by
        rw [← Bool.not_eq_true]
        intro h
        rw [isIdentifierPart_of_isIdentifierStart h] at hpart
        cases hpart
      -- an escape could continue the word, but no letter or digit is a backslash
      have hends : endsWord (c :: (back ++ rest)) = true := by
        have hescape : c ≠ '\\' := by
          rintro rfl
          exact absurd hascii (by decide)
        simp [endsWord, hpart, hescape]
      have hisWord : isWord (String.ofList (first :: front)) = true := by
        simp [isWord, hstart, hparts]
      refine ⟨some (String.ofList (first :: front)), c :: (back ++ rest), ?_, _,
        reads_invalid (begins_of_isAlphanumeric halphanumeric)
          (scanToken_eq_none hascii hnostart _), trivial⟩
      simpa using reads_word hisWord hends

/-! ## String literals -/

/-- The text can stand in a string literal without escapes for line ends. -/
def isOneLine (text : List Char) : Bool :=
  text.all fun c => c != '\n' && c != '\r'

/-- The quotes of string literals. -/
def IsQuote (quote : Char) : Prop := quote = '"' ∨ quote = '\''

theorem escapeUnits_of_escaped {c quote : Char} (hquote : IsQuote quote) (hc : c = '\\' ∨ c = quote)
    (rest : List Char) : escapeUnits (c :: rest) = some ([c.toNat], 1, rest) := by
  rcases hc with rfl | rfl
  · rfl
  · rcases hquote with rfl | rfl <;> rfl

/-- A text with its escapes is scanned up to the closing quote, or fails at the end of a line. -/
theorem stringUnits_escape {quote : Char} (hquote : IsQuote quote) (text rest : List Char)
    (done : List Nat) (n : Nat) :
    stringUnits quote 0 done n (Quoted.escape quote text ++ quote :: rest)
      = if isOneLine text then
          some (done.reverse ++ text.map Char.toNat,
            n + (Quoted.escape quote text).length + 1, rest)
        else none := by
  have hslash : '\\' ≠ quote := by rcases hquote with rfl | rfl <;> decide
  induction text generalizing done n with
  | nil => simp [Quoted.escape, stringUnits, isOneLine]
  | cons c text ih =>
    unfold Quoted.escape
    by_cases hescaped : c = '\\' ∨ c = quote
    -- what is escaped never ends a line, so only the other characters can end the literal early
    · have hline : c ≠ '\n' ∧ c ≠ '\r' := by
        rcases hescaped with rfl | rfl
        · decide
        · rcases hquote with rfl | rfl <;> decide
      rw [if_pos hescaped, List.cons_append, List.cons_append, stringUnits, if_neg hslash,
        if_pos rfl, escapeUnits_of_escaped hquote hescaped]
      have hsame : isOneLine (c :: text) = isOneLine text := by simp [isOneLine, hline]
      have hlength : n + 1 + 1 + (Quoted.escape quote text).length
          = n + ('\\' :: c :: Quoted.escape quote text).length := by
        simp only [List.length_cons]
        omega
      show stringUnits quote 0 (c.toNat :: done) (n + 1 + 1) _ = _
      rw [ih, hsame, hlength, List.reverse_cons, List.append_assoc]
      rfl
    · rw [not_or] at hescaped
      rw [if_neg (by simp [hescaped]), List.cons_append, stringUnits, if_neg hescaped.2,
        if_neg hescaped.1]
      by_cases hline : c = '\n' ∨ c = '\r'
      · rw [if_pos hline]
        rcases hline with rfl | rfl <;> simp [isOneLine]
      · rw [not_or] at hline
        have hsame : isOneLine (c :: text) = isOneLine text := by simp [isOneLine, hline]
        have hlength : n + 1 + (Quoted.escape quote text).length
            = n + (c :: Quoted.escape quote text).length := by
          rw [List.length_cons]
          omega
        rw [if_neg (by simp [hline]), ih, hsame, hlength, List.reverse_cons, List.append_assoc]
        rfl

theorem isSurrogate_toNat (c : Char) : isSurrogate c.toNat = false := by
  have hvalid : c.toNat < 0xD800 ∨ 0xDFFF < c.toNat ∧ c.toNat < 0x110000 := c.valid
  simp only [isSurrogate, isHighSurrogate, isLowSurrogate, Bool.or_eq_false_iff,
    Bool.and_eq_false_iff, decide_eq_false_iff_not]
  omega

theorem joinSurrogates_toNat (text : List Char) :
    joinSurrogates (text.map Char.toNat) = text.map Char.toNat := by
  induction text with
  | nil => rfl
  | cons c text ih =>
    cases text with
    | nil => rfl
    | cons d text =>
      have hhigh : isHighSurrogate c.toNat = false :=
        (Bool.or_eq_false_iff.mp (isSurrogate_toNat c)).1
      rw [List.map_cons, List.map_cons, joinSurrogates, hhigh]
      exact congrArg (c.toNat :: ·) ih

/-- Characters are no surrogates, so their units are their text. -/
theorem unitsText_toNat (text : List Char) :
    unitsText (text.map Char.toNat) = (String.ofList text, true) := by
  have hnone : (text.map Char.toNat).any isSurrogate = false := by
    simp [isSurrogate_toNat]
  have hback : (text.map Char.toNat).map Char.ofNat = text := by
    rw [List.map_map]
    exact (List.map_congr_left fun c _ => Char.ofNat_toNat c).trans (List.map_id text)
  unfold unitsText
  simp only [joinSurrogates_toNat, hnone, hback, Bool.false_eq_true, if_false]

/-- A string literal is read back exactly if its text is within one line; otherwise no token begins
with it. -/
theorem reads_literal {quote : Char} (hquote : IsQuote quote) (text : String) (rest : List Char) :
    if isOneLine text.toList then
      Reads ((Quoted.literal quote text).toList ++ rest) (.string text true) rest
    else
      Reads ((Quoted.literal quote text).toList ++ rest) .invalid
        ((Quoted.literal quote text).toList ++ rest) := by
  have hbegins : begins quote = true := by rcases hquote with rfl | rfl <;> decide
  have htext : (Quoted.literal quote text).toList ++ rest
      = quote :: (Quoted.escape quote text.toList ++ quote :: rest) := by
    simp [Quoted.literal]
  have hscan : scanToken (quote :: (Quoted.escape quote text.toList ++ quote :: rest))
      = if isOneLine text.toList then
          some (.string text true, (Quoted.escape quote text.toList).length + 1 + 1, rest)
        else none := by
    unfold scanToken
    dsimp only
    rw [if_pos (show quote = '"' ∨ quote = '\'' from hquote), scanString,
      stringUnits_escape hquote]
    split
    · simp [unitsText_toNat]
    · rfl
  rw [htext]
  split
  · next hline =>
    rw [if_pos hline] at hscan
    exact reads_of_scanToken hbegins hscan
  · next hline =>
    rw [if_neg hline] at hscan
    exact reads_invalid hbegins hscan

/-! ## Punctuation and the end -/

theorem reads_openBrace (rest : List Char) : Reads ('\x7b' :: rest) (.symbol .openBrace) rest :=
  reads_of_scanToken (by decide) (show scanToken _ = some (_, 1, _) from rfl)

theorem reads_closeBrace (rest : List Char) : Reads ('\x7d' :: rest) (.symbol .closeBrace) rest :=
  reads_of_scanToken (by decide) (show scanToken _ = some (_, 1, _) from rfl)

theorem reads_semicolon (rest : List Char) : Reads (';' :: rest) (.symbol .semicolon) rest :=
  reads_of_scanToken (by decide) (show scanToken _ = some (_, 1, _) from rfl)

theorem reads_eof : Reads [] .eof [] := fun _ => ⟨rfl, rfl⟩

end Source

end DirectImports
