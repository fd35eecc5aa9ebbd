import DirectImports.Proofs.Source.Imports

/-!
# Reading printed imports back

A redirected import has one name in braces. Here its text is read again as a module. The text is
split as it is printed (`toList_render`), its tokens are found from the end to the front (`Lexes`),
and the grammar is followed along them.

Main statement: `ImportStatement.readsBack_render_iff`. The statement comes back if and only if its
module specifier is within one line and the imported name is the binding itself or is legible
(`Quoted.isLegible`): what is printed without quotes is a word, and what is printed as a literal is
within one line. Whether a name is one of the words `type`, `as`, `from` or `default` does not
matter.

Two things stand in the way of the other statements. Only backslashes and quotes are escaped, so a
line feed or carriage return ends a literal too early; and the names that are printed without quotes
are told by their letters and digits, which are more than those of identifiers.
-/

namespace DirectImports

open Source

/-! ## Specifiers -/

/-- The name of an export as a name in a clause. -/
def Quoted.clauseName (name : String) : Grammar.ClauseName := ⟨name, !isName name⟩

/-- The names of a specifier, as text. -/
def namesText (quote : Char) (imported binding : String) : List Char :=
  if imported = binding then binding.toList
  else (Quoted.exportName quote imported).toList ++ ' ' :: ("as".toList ++ ' ' :: binding.toList)

/-- The names of a specifier, as tokens. -/
def namesTokens (imported binding : String) : List Token :=
  if imported = binding then [.word binding false]
  else [(Quoted.clauseName imported).token, .word "as" false, .word binding false]

/-- The mark `type`, as text. -/
def markText (marked : Bool) : List Char :=
  if marked then "type".toList ++ [' '] else []

/-- The text of an import statement with one name in braces. -/
theorem toList_render (quote : Char) (source imported binding : String) (isType typeOnly : Bool) :
    ((⟨source, [.named imported binding isType], typeOnly⟩ : ImportStatement).render quote).toList
      = "import".toList ++ ' ' :: (markText typeOnly
        ++ '\x7b' :: ' ' :: (markText (isType && !typeOnly) ++ (namesText quote imported binding
          ++ ' ' :: '\x7d' :: ' ' :: ("from".toList
            ++ ' ' :: ((Quoted.literal quote source).toList ++ [';']))))) := by
  unfold ImportStatement.render ImportStatement.renderBindings namesText markText
  simp only [List.filterMap_cons, List.filterMap_nil, ImportSpecifier.renderWhole?,
    ImportSpecifier.renderNamed?]
  cases typeOnly <;> cases isType <;> by_cases hsame : imported = binding <;> simp [hsame]

/-- A printed specifier is read as it was. -/
theorem exists_clauseEntry {context : Context} {state : State}
    (hlanguage : context.dialect.typescript = true) {imported binding : String}
    {marked typeOnly : Bool} (hmark : marked = true → typeOnly = false) {stop : Token}
    (hstop : stop.isClauseName = false)
    (h : state.Sees (markTokens marked ++ namesTokens imported binding ++ [stop])) :
    ∃ entry, Grammar.clauseEntry typeOnly context state
        = some (entry, state.after (markTokens marked ++ namesTokens imported binding))
      ∧ entry.left.name = imported ∧ entry.right = ⟨binding, false⟩ ∧ entry.isType = marked := by
  unfold namesTokens markTokens at h ⊢
  by_cases hsame : imported = binding
  · subst hsame
    cases marked with
    | false =>
      simp only [Bool.false_eq_true, if_false, if_true, List.nil_append] at h ⊢
      exact ⟨_, run_clauseEntry hstop h typeOnly, rfl, rfl, rfl⟩
    | true =>
      rw [hmark rfl]
      simp only [if_true] at h ⊢
      exact ⟨_, run_clauseEntry_marked hlanguage hstop h, rfl, rfl, rfl⟩
  · simp only [hsame, if_false] at h ⊢
    cases marked with
    | false =>
      exact ⟨_, run_clauseEntry_renamed hstop h typeOnly, rfl, rfl, rfl⟩
    | true =>
      rw [hmark rfl]
      obtain ⟨htype, hleft, has, hright, -⟩ := h
      exact ⟨_, run_clauseEntry_marked_renamed hlanguage ⟨htype, hleft, has, hright, trivial⟩,
        rfl, rfl, rfl⟩

/-! ## Reading the text of a specifier -/

/-- The name of an export is printed so that it can be read again. -/
def Quoted.isLegible (name : String) : Bool :=
  if isName name then isWord name else isOneLine name.toList

theorem head?_of_isName {name : String} (h : Quoted.isName name = true) (rest : List Char) :
    (name.toList ++ rest).head?.any begins = true := by
  unfold Quoted.isName at h
  cases htext : name.toList with
  | nil => rw [htext] at h; cases h
  | cons first tail =>
    rw [htext] at h
    simp only [Bool.and_eq_true, Bool.or_eq_true, beq_iff_eq] at h
    show begins first = true
    rcases h.1 with (halphabetic | rfl) | rfl
    · exact begins_of_isAlphanumeric (Text.isAlphanumeric_of_isAlphabetic halphabetic)
    · decide
    · decide

theorem head?_of_isWord {word : String} (h : isWord word = true) (rest : List Char) :
    (word.toList ++ rest).head?.any begins = true := by
  unfold isWord at h
  cases htext : word.toList with
  | nil => rw [htext] at h; cases h
  | cons first tail =>
    rw [htext] at h
    exact begins_of_isIdentifierPart
      (Text.isIdentifierPart_of_isIdentifierStart (Bool.and_eq_true_iff.mp h).1)

theorem head?_literal {quote : Char} (hquote : IsQuote quote) (text : String) (rest : List Char) :
    ((Quoted.literal quote text).toList ++ rest).head?.any begins = true := by
  rcases hquote with rfl | rfl <;> simp [Quoted.literal] <;> decide

/-- Whatever the names are, no blank begins their text. -/
theorem head?_namesText {quote : Char} (hquote : IsQuote quote) (imported : String)
    {binding : String} (hbinding : isWord binding = true) (rest : List Char) :
    (namesText quote imported binding ++ rest).head?.any begins = true := by
  unfold namesText
  split
  · exact head?_of_isWord hbinding rest
  · rw [List.append_assoc]
    unfold Quoted.exportName
    split
    · next hname => exact head?_of_isName hname _
    · exact head?_literal hquote imported _

theorem lexes_word {word : String} (hword : isWord word = true) {rest : List Char}
    {tokens : List Token} (h : Lexes (' ' :: rest) tokens) :
    Lexes (word.toList ++ ' ' :: rest) (.word word false :: tokens) :=
  ⟨' ' :: rest, reads_word hword rfl, h⟩

theorem lexes_mark (marked : Bool) {text : List Char} {tokens : List Token} (h : Lexes text tokens)
    (hbegins : text.head?.any begins = true) :
    Lexes (markText marked ++ text) (markTokens marked ++ tokens) := by
  cases marked with
  | false => exact h
  | true =>
    show Lexes ("type".toList ++ [' '] ++ text) (.word "type" false :: tokens)
    rw [List.append_assoc]
    exact lexes_word (by decide) (h.blank hbegins)

theorem head?_mark (marked : Bool) {text : List Char} (hbegins : text.head?.any begins = true) :
    (markText marked ++ text).head?.any begins = true := by
  cases marked with
  | false => exact hbegins
  | true => rfl

section Names

variable {quote : Char} {imported binding : String} {rest : List Char} {tokens : List Token}

/-- The names of a specifier are read back if the first one is legible. -/
theorem lexes_namesText (hquote : IsQuote quote) (hbinding : isWord binding = true)
    (hlegible : imported = binding ∨ Quoted.isLegible imported = true)
    (h : Lexes (' ' :: rest) tokens) :
    Lexes (namesText quote imported binding ++ ' ' :: rest)
      (namesTokens imported binding ++ tokens) := by
  have hlast := lexes_word hbinding h
  unfold namesText namesTokens
  by_cases hsame : imported = binding
  · rw [if_pos hsame, if_pos hsame]
    exact hlast
  · rw [if_neg hsame, if_neg hsame]
    have hrenamed : Lexes (' ' :: ("as".toList ++ ' ' :: (binding.toList ++ ' ' :: rest)))
        (.word "as" false :: .word binding false :: tokens) :=
      (lexes_word (by decide) (hlast.blank (head?_of_isWord hbinding _))).blank rfl
    have hlegible := hlegible.resolve_left hsame
    have htext : (Quoted.exportName quote imported).toList
          ++ ' ' :: ("as".toList ++ ' ' :: binding.toList) ++ ' ' :: rest
        = (Quoted.exportName quote imported).toList
          ++ ' ' :: ("as".toList ++ ' ' :: (binding.toList ++ ' ' :: rest)) := by simp
    rw [htext]
    unfold Quoted.isLegible at hlegible
    unfold Quoted.exportName Quoted.clauseName
    by_cases hname : Quoted.isName imported = true
    · rw [if_pos hname] at hlegible ⊢
      rw [hname]
      exact lexes_word hlegible hrenamed
    · rw [if_neg hname] at hlegible ⊢
      have hreads := reads_literal hquote imported
        (' ' :: ("as".toList ++ ' ' :: (binding.toList ++ ' ' :: rest)))
      rw [if_pos hlegible] at hreads
      have hfalse : Quoted.isName imported = false := by simpa using hname
      rw [hfalse]
      exact ⟨_, hreads, hrenamed⟩

/-- The text of a name that is not legible leads to a place where no token begins. -/
theorem lexes_namesText_of_not_isLegible (hquote : IsQuote quote) (hdiffer : imported ≠ binding)
    (hlegible : Quoted.isLegible imported = false) (rest : List Char) :
    ∃ word?, Lexes (namesText quote imported binding ++ rest) (stuckTokens word?) := by
  unfold namesText
  rw [if_neg hdiffer, List.append_assoc]
  unfold Quoted.isLegible at hlegible
  unfold Quoted.exportName
  by_cases hname : Quoted.isName imported = true
  · rw [if_pos hname] at hlegible ⊢
    exact lexes_of_isName hname hlegible _
  · rw [if_neg hname] at hlegible ⊢
    have hreads := reads_literal hquote imported
      (' ' :: ("as".toList ++ ' ' :: binding.toList) ++ rest)
    rw [if_neg (by simp [hlegible])] at hreads
    exact ⟨none, _, hreads, trivial⟩

end Names

/-! ## Reading the text of a statement -/

/-- What follows the names of a specifier, up to the end of the statement. -/
def endText (quote : Char) (source : String) : List Char :=
  ' ' :: '\x7d' :: ' ' :: ("from".toList ++ ' ' :: ((Quoted.literal quote source).toList ++ [';']))

theorem lexes_endText {quote : Char} (hquote : IsQuote quote) {source : String}
    (hline : isOneLine source.toList = true) :
    Lexes (endText quote source)
      [.symbol .closeBrace, .word "from" false, .string source true, .symbol .semicolon, .eof] := by
  have hreads := reads_literal hquote source [';']
  rw [if_pos hline] at hreads
  have hsource : Lexes ((Quoted.literal quote source).toList ++ [';'])
      [.string source true, .symbol .semicolon, .eof] :=
    ⟨_, hreads, _, reads_semicolon [], _, reads_eof, trivial⟩
  have hfrom := lexes_word (show isWord "from" = true by decide)
    (hsource.blank (head?_literal hquote source _))
  exact Lexes.blank ⟨_, reads_closeBrace _, hfrom.blank rfl⟩ rfl

theorem lexes_endText_of_not_isOneLine {quote : Char} (hquote : IsQuote quote) {source : String}
    (hline : isOneLine source.toList = false) :
    Lexes (endText quote source) [.symbol .closeBrace, .word "from" false, .invalid] := by
  have hreads := reads_literal hquote source [';']
  rw [if_neg (by simp [hline])] at hreads
  have hsource : Lexes ((Quoted.literal quote source).toList ++ [';']) [.invalid] :=
    ⟨_, hreads, trivial⟩
  have hfrom := lexes_word (show isWord "from" = true by decide)
    (hsource.blank (head?_literal hquote source _))
  exact Lexes.blank ⟨_, reads_closeBrace _, hfrom.blank rfl⟩ rfl

/-- Read as a module, the text is one import declaration, which makes the statement. -/
def ImportStatement.ReadsBack (dialect : Dialect) (text : String) (statement : ImportStatement) :
    Prop :=
  ∃ declaration, readItems? dialect text = some [.importDeclaration declaration]
    ∧ declaration.statement? = some statement

/-- The text can name a binding. -/
def isBindingName (name : String) : Bool :=
  isWord name && !Parser.isReserved name

section Statement

variable {dialect : Dialect} {quote : Char} {source imported binding : String}
  {marked typeOnly : Bool} {context : Context} {state : State}

/-- What is read of a printed statement. -/
theorem sees_render (hquote : IsQuote quote) (hbinding : isWord binding = true)
    (isType typeOnly : Bool) {tokens : List Token}
    (h : Lexes (namesText quote imported binding ++ endText quote source) tokens) :
    (State.start ((⟨source, [.named imported binding isType], typeOnly⟩ :
        ImportStatement).render quote).toList).Sees
      (headTokens typeOnly ++ (markTokens (isType && !typeOnly) ++ tokens)) := by
  refine State.sees_of_lexes ?_ 0 rfl
  -- from the names outwards, as every blank is followed by the beginning of a token
  have hnames := head?_namesText hquote imported hbinding (endText quote source)
  have hinside := lexes_mark (isType && !typeOnly) h hnames
  have hbraces : Lexes ('\x7b' :: ' ' :: (markText (isType && !typeOnly)
      ++ (namesText quote imported binding ++ endText quote source)))
        (.symbol .openBrace :: (markTokens (isType && !typeOnly) ++ tokens)) :=
    ⟨_, reads_openBrace _, hinside.blank (head?_mark _ hnames)⟩
  have hall := lexes_word (show isWord "import" = true by decide)
    ((lexes_mark typeOnly hbraces rfl).blank (head?_mark typeOnly rfl))
  rw [toList_render, headTokens_append]
  exact hall

/-- The bindings of a printed statement are read up to `from`. -/
theorem run_importBindings_names (hlanguage : context.dialect.typescript = true)
    (hfuel : 2 ≤ context.fuel) (hbinding : isBindingName binding = true)
    (hmark : marked = true → typeOnly = false) (hopen : state.lexeme.token = .symbol .openBrace)
    (h : state.next.Sees (markTokens marked ++ namesTokens imported binding
      ++ [.symbol .closeBrace])) :
    Grammar.importBindings typeOnly context state
      = some ([.named imported binding marked],
        (state.next.after (markTokens marked ++ namesTokens imported binding)).next) := by
  obtain ⟨entry, hentry, hleft, hright, hisType⟩ := exists_clauseEntry hlanguage hmark rfl h
  have hreserved : Parser.isReserved binding = false := by
    simpa using (Bool.and_eq_true_iff.mp hbinding).2
  have hclose := (State.sees_append.mp h).2.1
  rw [run_importBindings_single hfuel hopen hentry hclose (by rw [hright])
    (by rw [hright]; exact hreserved), hleft, hright, hisType]

/-- A name that leads to a place where no token begins cannot be read. -/
theorem run_importBindings_eq_none_of_stuck (hlanguage : context.dialect.typescript = true)
    (hmark : marked = true → typeOnly = false) (hopen : state.lexeme.token = .symbol .openBrace)
    {word? : Option String} (h : state.next.Sees (markTokens marked ++ stuckTokens word?)) :
    Grammar.importBindings typeOnly context state = none := by
  have hinside : state.next.lexeme.token ≠ .symbol .closeBrace := by
    cases marked <;> cases word? <;> simp [show state.next.lexeme.token = _ from h.1]
  refine run_importBindings_eq_none hopen hinside fun entry after hentry => ?_
  -- the mark is read as a name where no name follows it
  cases marked with
  | false =>
    cases word? with
    | none =>
      have hinvalid : state.next.lexeme.token = .invalid := h.1
      rw [run_clauseEntry_eq_none (by rw [hinvalid]; rfl)] at hentry
      cases hentry
    | some word =>
      rw [run_clauseEntry rfl h] at hentry
      cases hentry
      exact h.2.1
  | true =>
    cases word? with
    | none =>
      rw [run_clauseEntry rfl h] at hentry
      cases hentry
      exact h.2.1
    | some word =>
      rw [hmark rfl, run_clauseEntry_marked hlanguage rfl h] at hentry
      cases hentry
      exact h.2.2.1

/-- What follows the braces of a printed statement. -/
theorem sees_after_head {tokens : List Token}
    (h : state.Sees (headTokens typeOnly ++ tokens)) :
    state.Sees (headTokens typeOnly)
      ∧ (state.next.after (markTokens typeOnly)).lexeme.token = .symbol .openBrace
      ∧ (state.next.after (markTokens typeOnly)).next.Sees tokens := by
  refine ⟨(State.sees_append.mp h).1, ?_⟩
  rw [headTokens_append] at h
  exact (State.sees_append.mp h.2).2

theorem exists_toList_render (quote : Char) (source imported binding : String)
    (isType typeOnly : Bool) :
    ∃ tail, ((⟨source, [.named imported binding isType], typeOnly⟩ :
      ImportStatement).render quote).toList = 'i' :: tail := by
  rw [toList_render]
  exact ⟨_, rfl⟩

/-- A name has a mark of its own only if the statement has none. -/
theorem typeOnly_of_marked (isType typeOnly : Bool) :
    (isType && !typeOnly) = true → typeOnly = false := by
  cases typeOnly <;> simp

variable {isType : Bool}

theorem readItems?_render_of_not_isLegible (hlanguage : dialect.typescript = true)
    (hquote : IsQuote quote) (hbinding : isBindingName binding = true)
    (hdiffer : imported ≠ binding) (hlegible : Quoted.isLegible imported = false) :
    readItems? dialect ((⟨source, [.named imported binding isType], typeOnly⟩ :
      ImportStatement).render quote) = none := by
  have hword := (Bool.and_eq_true_iff.mp hbinding).1
  have hmark := typeOnly_of_marked isType typeOnly
  obtain ⟨tail, htext⟩ := exists_toList_render quote source imported binding isType typeOnly
  obtain ⟨word?, hlexes⟩ :=
    lexes_namesText_of_not_isLegible hquote hdiffer hlegible (endText quote source)
  obtain ⟨hhead, hopen, hinside⟩ :=
    sees_after_head (sees_render hquote hword isType typeOnly hlexes)
  refine readItems?_eq_none_of_run htext hhead fun context hcontext _ => ?_
  have hcontext : context.dialect.typescript = true := hcontext ▸ hlanguage
  rw [run_importDeclaration hcontext hhead,
    run_importBindings_eq_none_of_stuck hcontext hmark hopen hinside]
  rfl

theorem readItems?_render_of_not_isOneLine (hlanguage : dialect.typescript = true)
    (hquote : IsQuote quote) (hbinding : isBindingName binding = true)
    (hlegible : imported = binding ∨ Quoted.isLegible imported = true)
    (hline : isOneLine source.toList = false) :
    readItems? dialect ((⟨source, [.named imported binding isType], typeOnly⟩ :
      ImportStatement).render quote) = none := by
  have hword := (Bool.and_eq_true_iff.mp hbinding).1
  have hmark := typeOnly_of_marked isType typeOnly
  obtain ⟨tail, htext⟩ := exists_toList_render quote source imported binding isType typeOnly
  have hlexes := lexes_namesText hquote hword hlegible (lexes_endText_of_not_isOneLine hquote hline)
  obtain ⟨hhead, hopen, hinside⟩ :=
    sees_after_head (sees_render hquote hword isType typeOnly hlexes)
  rw [← List.append_assoc] at hinside
  obtain ⟨hnames, hclose, hfrom, hstuck, -⟩ := State.sees_append.mp hinside
  refine readItems?_eq_none_of_run htext hhead fun context hcontext hfuel => ?_
  have hcontext : context.dialect.typescript = true := hcontext ▸ hlanguage
  have hbindings := run_importBindings_names hcontext hfuel hbinding hmark hopen
    (State.sees_append.mpr ⟨hnames, hclose, trivial⟩)
  rw [run_importDeclaration_of_bindings hcontext hhead hbindings hfrom]
  exact run_importSource_eq_none hstuck _ _ _

theorem readsBack_of_isLegible (hlanguage : dialect.typescript = true)
    (hquote : IsQuote quote) (hbinding : isBindingName binding = true)
    (hlegible : imported = binding ∨ Quoted.isLegible imported = true)
    (hline : isOneLine source.toList = true) :
    ImportStatement.ReadsBack dialect ((⟨source, [.named imported binding isType], typeOnly⟩ :
      ImportStatement).render quote)
        ⟨source, [.named imported binding (isType && !typeOnly)], typeOnly⟩ := by
  have hword := (Bool.and_eq_true_iff.mp hbinding).1
  have hmark := typeOnly_of_marked isType typeOnly
  obtain ⟨tail, htext⟩ := exists_toList_render quote source imported binding isType typeOnly
  have hlexes := lexes_namesText hquote hword hlegible (lexes_endText hquote hline)
  obtain ⟨hhead, hopen, hinside⟩ :=
    sees_after_head (sees_render hquote hword isType typeOnly hlexes)
  rw [← List.append_assoc] at hinside
  obtain ⟨hnames, hclose, hfrom, hsource, hsemicolon, hend, -⟩ := State.sees_append.mp hinside
  have hrun (context : Context) (hcontext : context.dialect = dialect) (hfuel : 2 ≤ context.fuel) :=
    have hcontext : context.dialect.typescript = true := hcontext ▸ hlanguage
    have hbindings := run_importBindings_names hcontext hfuel hbinding hmark hopen
      (State.sees_append.mpr ⟨hnames, hclose, trivial⟩)
    (run_importDeclaration_of_bindings hcontext hhead hbindings hfrom).trans
      (run_importSource ⟨hsource, hsemicolon, trivial⟩ _ _ _)
  exact ⟨_, readItems?_of_run hlanguage htext hhead hrun hend (by simp [State.start]), rfl⟩

/-- A printed import of one name is read back exactly if its module specifier is within one line,
and the imported name is the binding itself or legible. -/
theorem ImportStatement.readsBack_render_iff (hlanguage : dialect.typescript = true)
    (hquote : IsQuote quote) (hbinding : isBindingName binding = true)
    (hmark : ¬(isType = true ∧ typeOnly = true)) :
    ReadsBack dialect ((⟨source, [.named imported binding isType], typeOnly⟩ :
        ImportStatement).render quote) ⟨source, [.named imported binding isType], typeOnly⟩
      ↔ isOneLine source.toList = true
        ∧ (imported = binding ∨ Quoted.isLegible imported = true) := by
  have hmarked : (isType && !typeOnly) = isType := by
    cases isType <;> cases typeOnly <;> simp_all
  constructor
  · rintro ⟨declaration, hread, -⟩
    have hlegible : imported = binding ∨ Quoted.isLegible imported = true := by
      refine Decidable.or_iff_not_imp_left.mpr fun hdiffer => ?_
      rw [← Bool.not_eq_false]
      intro hlegible
      rw [readItems?_render_of_not_isLegible hlanguage hquote hbinding hdiffer hlegible] at hread
      cases hread
    refine ⟨?_, hlegible⟩
    rw [← Bool.not_eq_false]
    intro hline
    rw [readItems?_render_of_not_isOneLine hlanguage hquote hbinding hlegible hline] at hread
    cases hread
  · rintro ⟨hline, hlegible⟩
    have hback : ReadsBack dialect ((⟨source, [.named imported binding isType], typeOnly⟩ :
        ImportStatement).render quote)
          ⟨source, [.named imported binding (isType && !typeOnly)], typeOnly⟩ :=
      readsBack_of_isLegible hlanguage hquote hbinding hlegible hline
    rw [hmarked] at hback
    exact hback

/-- The words `type` and `as` are read back as names, also behind the mark `type`. -/
theorem ImportStatement.readsBack_render_contextual :
    isBindingName "type" = true
      ∧ ReadsBack .typescriptModule
        ((⟨"./it's", [.named "as" "type" true], false⟩ : ImportStatement).render '\'')
        ⟨"./it's", [.named "as" "type" true], false⟩ := by
  refine ⟨by decide, (readsBack_render_iff rfl (Or.inr rfl) (by decide) (by decide)).mpr ⟨?_, ?_⟩⟩
  · decide
  · exact Or.inr (by decide)

/-- A line feed in a module specifier is printed as it is, which ends the literal; and `ⓐ`, a letter
that no identifier can have in it, is printed without quotes. -/
theorem ImportStatement.not_readsBack_render :
    ¬ReadsBack .typescriptModule
        ((⟨"p\nq", [.named "A" "A" false], false⟩ : ImportStatement).render '\'')
        ⟨"p\nq", [.named "A" "A" false], false⟩
      ∧ ¬ReadsBack .typescriptModule
        ((⟨"p", [.named "ⓐ" "A" false], false⟩ : ImportStatement).render '\'')
        ⟨"p", [.named "ⓐ" "A" false], false⟩ := by
  constructor
  · rintro ⟨declaration, hread, -⟩
    rw [readItems?_render_of_not_isOneLine rfl (Or.inr rfl) (by decide) (Or.inl rfl) (by decide)]
      at hread
    cases hread
  · rintro ⟨declaration, hread, -⟩
    rw [readItems?_render_of_not_isLegible rfl (Or.inr rfl) (by decide) (by decide)
      (by decide +kernel)] at hread
    cases hread

end Statement

end DirectImports
