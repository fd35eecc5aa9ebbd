import DirectImports.Proofs.Source.Lexing
import DirectImports.Source.Reader

/-!
# Reading import declarations

Import declarations with nothing but braces, one name in them, are followed through the grammar from
token to token. `State.Sees` says which tokens come from a state on; the lemmas `run_…` say where a
rule of the grammar leads from there, or that it rejects.

The words `type` and `as` inside the braces can be marks or names, and which of them they are is
known two tokens later. The four shapes of an entry have a lemma each: `run_clauseEntry`,
`run_clauseEntry_renamed`, `run_clauseEntry_marked` and `run_clauseEntry_marked_renamed`. None of
them asks what the names are.

`readItems?_of_run` and `readItems?_eq_none_of_run` lead from a declaration to the module that
consists of it.
-/

namespace DirectImports.Source

/-! ## Running parsers -/

/-- The state at the next token. -/
def State.next (state : State) : State :=
  ⟨Lexeme.next state.lexeme.stop state.lexeme.rest, state.lexeme.stop, state.faulty⟩

/-- The tokens from the current one on. -/
def State.Sees : State → List Token → Prop
  | _, [] => True
  | state, token :: tokens => state.lexeme.token = token ∧ state.next.Sees tokens

theorem State.sees_of_lexes {text : List Char} {tokens : List Token} (h : Lexes text tokens)
    {state : State} (offset : Nat) (hstate : state.lexeme = Lexeme.next offset text) :
    state.Sees tokens := by
  induction tokens generalizing text state offset with
  | nil => trivial
  | cons token tokens ih =>
    obtain ⟨rest, hreads, hrest⟩ := h
    obtain ⟨htoken, htail⟩ := hreads offset
    refine ⟨by rw [hstate, htoken], ih hrest state.lexeme.stop ?_⟩
    show Lexeme.next state.lexeme.stop state.lexeme.rest = _
    rw [hstate, htail]

namespace Parser

variable {α β : Type} (context : Context) (state : State)

theorem run_pure (a : α) : (pure a : Parser α) context state = some (a, state) := rfl

theorem run_bind (p : Parser α) (f : α → Parser β) :
    (p >>= f) context state
      = (p context state).bind fun result => f result.1 context result.2 := rfl

theorem run_ite (c : Prop) [Decidable c] (p q : Parser α) :
    (if c then p else q) context state = if c then p context state else q context state := by
  split <;> rfl

theorem run_token : token context state = some (state.lexeme.token, state) := rfl

theorem run_lexeme : lexeme context state = some (state.lexeme, state) := rfl

theorem run_peek : peek context state = some (state.next.lexeme, state) := rfl

theorem run_isAt (symbol : Symbol) :
    isAt symbol context state = some (state.lexeme.token == .symbol symbol, state) := rfl

theorem run_atWord (name : String) :
    atWord name context state = some (state.lexeme.token == .word name false, state) := rfl

theorem run_advance : advance context state = some ((), state.next) := rfl

theorem run_typescript : typescript context state = some (context.dialect.typescript, state) := rfl

theorem run_expect (symbol : Symbol) :
    expect symbol context state
      = if state.lexeme.token == .symbol symbol then some ((), state.next) else none := by
  unfold expect
  rw [run_bind, run_isAt, Option.bind_some, run_ite]
  rfl

theorem run_expectWord (name : String) :
    expectWord name context state
      = if state.lexeme.token == .word name false then some ((), state.next) else none := by
  unfold expectWord
  rw [run_bind, run_atWord, Option.bind_some, run_ite]
  rfl

theorem run_eat (symbol : Symbol) :
    eat symbol context state
      = if state.lexeme.token == .symbol symbol then some (true, state.next)
        else some (false, state) := by
  unfold eat
  rw [run_bind, run_isAt, Option.bind_some, run_ite]
  rfl

theorem run_eatWord (name : String) :
    eatWord name context state
      = if state.lexeme.token == .word name false then some (true, state.next)
        else some (false, state) := by
  unfold eatWord
  rw [run_bind, run_atWord, Option.bind_some, run_ite]
  rfl

theorem run_require_true : require true context state = some ((), state) := rfl

theorem run_ensure_true : ensure true context state = some ((), state) := rfl

end Parser

open DirectImports.Source.Parser DirectImports.Source.Grammar

/-! ## Names in clauses -/

/-- The token of a name in a clause. -/
def Grammar.ClauseName.token (name : ClauseName) : Token :=
  if name.isString then .string name.name true else .word name.name false

/-- The token can be a name in a clause. -/
def Token.isClauseName : Token → Bool
  | .word .. => true
  | .string .. => true
  | _ => false

theorem isClauseName_token (name : ClauseName) : name.token.isClauseName = true := by
  unfold ClauseName.token
  split <;> rfl

theorem token_eq_word_iff {name : ClauseName} {word : String} :
    name.token = .word word false ↔ name = ⟨word, false⟩ := by
  obtain ⟨text, isString⟩ := name
  cases isString <;> simp [ClauseName.token]

theorem beq_word_of_isClauseName {token : Token} (h : token.isClauseName = false) (word : String) :
    (token == .word word false) = false := by
  rw [beq_eq_false_iff_ne]
  rintro rfl
  cases h

variable {context : Context} {state : State}

theorem run_atClauseName :
    atClauseName context state = some (state.lexeme.token.isClauseName, state) := by
  unfold atClauseName
  rw [run_bind, run_token, Option.bind_some]
  cases state.lexeme.token <;> rfl

theorem run_clauseName (context : Context) {name : ClauseName}
    (h : state.lexeme.token = name.token) :
    clauseName context state = some (name, state.next) := by
  obtain ⟨text, isString⟩ := name
  unfold clauseName
  rw [run_bind, run_token, Option.bind_some, h]
  cases isString <;> rfl

theorem run_clauseName_eq_none (h : state.lexeme.token.isClauseName = false) :
    clauseName context state = none := by
  unfold clauseName
  rw [run_bind, run_token, Option.bind_some]
  cases htoken : state.lexeme.token with
  | word name escaped => rw [htoken] at h; cases h
  | string value wellFormed => rw [htoken] at h; cases h
  | _ => rfl

/-! ## Entries of clauses -/

theorem run_renamedEntry (left : ClauseName) (isType : Bool) {right : ClauseName}
    (h : state.Sees [.word "as" false, right.token]) :
    renamedEntry left isType context state = some (⟨left, right, isType⟩, state.next.next) := by
  obtain ⟨has, hright, -⟩ := h
  unfold renamedEntry
  rw [run_bind, run_eatWord, has]
  simp only [beq_self_eq_true, if_true, Option.bind_some, run_bind, run_clauseName context hright,
    run_pure]

theorem run_renamedEntry_plain (context : Context) (left : ClauseName) (isType : Bool)
    (h : state.lexeme.token.isClauseName = false) :
    renamedEntry left isType context state = some (⟨left, left, isType⟩, state) := by
  unfold renamedEntry
  rw [run_bind, run_eatWord, beq_word_of_isClauseName h]
  rfl

/-- Two names after `type`, the first of them `as`. -/
theorem run_typeAsEntry {right : ClauseName} {stop : Token} (hstop : stop.isClauseName = false)
    (h : state.Sees [right.token, stop]) :
    typeAsEntry ⟨"type", false⟩ ⟨"as", false⟩ context state
      = some (⟨⟨"type", false⟩, right, false⟩, state.next) := by
  obtain ⟨hright, hnext, -⟩ := h
  have hname : state.lexeme.token.isClauseName = true := by
    rw [hright]
    exact isClauseName_token right
  rw [← hnext] at hstop
  unfold typeAsEntry
  simp only [run_bind, run_atWord, Option.bind_some, run_ite, run_atClauseName, hname,
    run_clauseName context hright, hstop, Bool.false_eq_true, if_false, if_true, run_pure, ite_self]

/-- The end of an entry with the mark. -/
theorem run_mark (hlanguage : context.dialect.typescript = true) (entry : ClauseEntry) :
    (do ensure (← typescript)
        require !false
        return entry : Parser ClauseEntry) context state = some (entry, state) := by
  simp only [run_bind, run_typescript, hlanguage, Option.bind_some, Bool.not_false, run_ensure_true,
    run_require_true, run_pure]

theorem run_clauseEntry_eq_none (h : state.lexeme.token.isClauseName = false) (typeOnly : Bool) :
    clauseEntry typeOnly context state = none := by
  unfold clauseEntry
  rw [run_bind, run_clauseName_eq_none h]
  rfl

/-- A name by itself, be it `type`. -/
theorem run_clauseEntry {name : String} {stop : Token} (hstop : stop.isClauseName = false)
    (h : state.Sees [.word name false, stop]) (typeOnly : Bool) :
    clauseEntry typeOnly context state
      = some (⟨⟨name, false⟩, ⟨name, false⟩, false⟩, state.next) := by
  obtain ⟨hname, hnext, -⟩ := h
  rw [← hnext] at hstop
  have hfirst : clauseName context state = some (⟨name, false⟩, state.next) :=
    run_clauseName context hname
  have has := beq_word_of_isClauseName hstop "as"
  unfold clauseEntry
  simp only [run_bind, hfirst, Option.bind_some, run_ite, run_atWord, has, run_atClauseName, hstop,
    run_renamedEntry_plain context _ _ hstop, Bool.false_eq_true, if_false, ite_self]
  rfl

/-- A name and its new name, be the first one `type`. -/
theorem run_clauseEntry_renamed {left : ClauseName} {right : String} {stop : Token}
    (hstop : stop.isClauseName = false)
    (h : state.Sees [left.token, .word "as" false, .word right false, stop]) (typeOnly : Bool) :
    clauseEntry typeOnly context state
      = some (⟨left, ⟨right, false⟩, false⟩, state.next.next.next) := by
  obtain ⟨hleft, hrest⟩ := h
  obtain ⟨has, hright⟩ := hrest
  have hfirst := run_clauseName context hleft
  have hsecond : clauseName context state.next = some (⟨"as", false⟩, state.next.next) :=
    run_clauseName context has
  have hlast : typeAsEntry ⟨"type", false⟩ ⟨"as", false⟩ context state.next.next
      = some (⟨⟨"type", false⟩, ⟨right, false⟩, false⟩, state.next.next.next) :=
    run_typeAsEntry hstop hright
  have hrenamed : renamedEntry left false context state.next
      = some (⟨left, ⟨right, false⟩, false⟩, state.next.next.next) :=
    run_renamedEntry left false ⟨has, hright.1, trivial⟩
  unfold clauseEntry
  rw [run_bind, hfirst, Option.bind_some]
  -- `type as x` could still be `as x` with the mark, had the entry not ended after `x`
  by_cases htype : left = ⟨"type", false⟩
  · subst htype
    simp only [run_bind, run_ite, run_atWord, has, beq_self_eq_true, Bool.not_false, Bool.and_self,
      if_true, Option.bind_some, hsecond, hlast, Bool.false_eq_true, if_false, run_pure]
  · have hother : (left.name == "type" && !left.isString) = false := by
      obtain ⟨text, isString⟩ := left
      cases isString <;> simp_all
    simp only [run_bind, run_ite, hother, Bool.false_eq_true, if_false, hrenamed, Option.bind_some,
      run_pure]

/-- A name with the mark, be it `as`. -/
theorem run_clauseEntry_marked (hlanguage : context.dialect.typescript = true) {name : String}
    {stop : Token} (hstop : stop.isClauseName = false)
    (h : state.Sees [.word "type" false, .word name false, stop]) :
    clauseEntry false context state
      = some (⟨⟨name, false⟩, ⟨name, false⟩, true⟩, state.next.next) := by
  obtain ⟨htype, hname, hnext, -⟩ := h
  rw [← hnext] at hstop
  have hfirst : clauseName context state = some (⟨"type", false⟩, state.next) :=
    run_clauseName context htype
  have hsecond : clauseName context state.next = some (⟨name, false⟩, state.next.next) :=
    run_clauseName context hname
  have has := beq_word_of_isClauseName hstop "as"
  have hmark : state.next.lexeme.token.isClauseName = true := by rw [hname]; rfl
  have hlast : typeAsEntry ⟨"type", false⟩ ⟨"as", false⟩ context state.next.next
      = some (⟨⟨"as", false⟩, ⟨"as", false⟩, true⟩, state.next.next) := by
    unfold typeAsEntry
    simp only [run_bind, run_atWord, has, Option.bind_some, run_ite, run_atClauseName, hstop,
      Bool.false_eq_true, if_false, run_pure]
  have hrenamed := run_renamedEntry_plain context ⟨name, false⟩ true hstop
  unfold clauseEntry
  rw [run_bind, hfirst, Option.bind_some]
  -- after `type`, the word `as` is a name only because nothing follows it
  by_cases heq : name = "as"
  · subst heq
    simp only [run_bind, run_ite, run_atWord, hname, beq_self_eq_true, Bool.not_false,
      Bool.and_self, if_true, Option.bind_some, hsecond, hlast]
    exact run_mark hlanguage _
  · have hother : (Token.word name false == .word "as" false) = false := by simp [heq]
    simp only [run_bind, run_ite, run_atWord, hname, hother, beq_self_eq_true, Bool.not_false,
      Bool.and_self, if_true, Option.bind_some, hsecond, Bool.false_eq_true, if_false,
      run_atClauseName, Token.isClauseName, hrenamed]
    exact run_mark hlanguage _

/-- A name with the mark and its new name, be the first one `as`. -/
theorem run_clauseEntry_marked_renamed (hlanguage : context.dialect.typescript = true)
    {left : ClauseName} {right : String}
    (h : state.Sees [.word "type" false, left.token, .word "as" false, .word right false]) :
    clauseEntry false context state
      = some (⟨left, ⟨right, false⟩, true⟩, state.next.next.next.next) := by
  obtain ⟨htype, hleft, hrest⟩ := h
  obtain ⟨has, hright, -⟩ := hrest
  have hfirst : clauseName context state = some (⟨"type", false⟩, state.next) :=
    run_clauseName context htype
  have hsecond := run_clauseName context hleft
  have hthird : clauseName context state.next.next
      = some (⟨"as", false⟩, state.next.next.next) := run_clauseName context has
  have hfourth : clauseName context state.next.next.next
      = some (⟨right, false⟩, state.next.next.next.next) := run_clauseName context hright
  have hmark := isClauseName_token left
  have hlast : typeAsEntry ⟨"type", false⟩ ⟨"as", false⟩ context state.next.next
      = some (⟨⟨"as", false⟩, ⟨right, false⟩, true⟩, state.next.next.next.next) := by
    unfold typeAsEntry
    simp only [run_bind, run_atWord, has, beq_self_eq_true, Option.bind_some, run_ite, if_true,
      hthird, run_atClauseName, hright, Token.isClauseName, hfourth, run_pure]
  have hrenamed : renamedEntry left true context state.next.next
      = some (⟨left, ⟨right, false⟩, true⟩, state.next.next.next.next) :=
    run_renamedEntry left true ⟨has, hright, trivial⟩
  unfold clauseEntry
  rw [run_bind, hfirst, Option.bind_some]
  -- of the words in `type as as x`, the first is the mark and the second the name
  by_cases heq : left = ⟨"as", false⟩
  · subst heq
    have htoken : state.next.lexeme.token = .word "as" false := hleft
    simp only [run_bind, run_ite, run_atWord, htoken, beq_self_eq_true, Bool.not_false,
      Bool.and_self, if_true, Option.bind_some, hsecond, hlast]
    exact run_mark hlanguage _
  · have hother : (left.token == .word "as" false) = false := by
      rw [beq_eq_false_iff_ne, ne_eq, token_eq_word_iff]
      exact heq
    simp only [run_bind, run_ite, run_atWord, hleft, hother, beq_self_eq_true, Bool.not_false,
      Bool.and_self, if_true, Option.bind_some, hsecond, Bool.false_eq_true, if_false,
      run_atClauseName, hmark, hrenamed]
    exact run_mark hlanguage _

/-! ## Repetition -/

section Lists

variable {α : Type} {closing : Symbol} {item : Parser α}

theorem run_collectFor_some {step : Parser (Option α)} {value : α} {after : State}
    (h : step context state = some (some value, after)) (fuel : Nat) :
    collectFor step (fuel + 1) context state
      = (collectFor step fuel context after).bind fun rest => some (value :: rest.1, rest.2) := by
  show (step context state).bind _ = _
  rw [h]
  rfl

theorem run_collectFor_none {step : Parser (Option α)} {after : State}
    (h : step context state = some (none, after)) (fuel : Nat) :
    collectFor step (fuel + 1) context state = some ([], after) := by
  show (step context state).bind _ = _
  rw [h]
  rfl

theorem run_collectFor_eq_none {step : Parser (Option α)} (h : step context state = none)
    (fuel : Nat) : collectFor step fuel context state = none := by
  cases fuel with
  | zero => rfl
  | succ fuel =>
    show (step context state).bind _ = _
    rw [h]
    rfl

/-- One step of a list. -/
def listStep (closing : Symbol) (item : Parser α) : Parser (Option α) := do
  if ← isAt closing then return none
  else
    let value ← item
    if ← isAt closing then pure () else expect .comma
    return some value

theorem run_commaList (context : Context) (state : State) (closing : Symbol) (item : Parser α) :
    commaList closing item context state
      = (collectFor (listStep closing item) context.fuel context state).bind fun result =>
        (expect closing context result.2).bind fun after => some (result.1, after.2) := rfl

/-- A list of one item. -/
theorem run_commaList_single (hfuel : 2 ≤ context.fuel)
    (hopen : state.lexeme.token ≠ .symbol closing) {value : α} {after : State}
    (hitem : item context state = some (value, after))
    (hclose : after.lexeme.token = .symbol closing) :
    commaList closing item context state = some ([value], after.next) := by
  have hfirst : listStep closing item context state = some (some value, after) := by
    unfold listStep
    simp only [run_bind, run_isAt, Option.bind_some, run_ite, beq_iff_eq, hopen, if_false, hitem,
      hclose, if_true, run_pure]
  have hsecond : listStep closing item context after = some (none, after) := by
    unfold listStep
    simp only [run_bind, run_isAt, Option.bind_some, run_ite, beq_iff_eq, hclose, if_true, run_pure]
  obtain ⟨fuel, hsucc⟩ : ∃ fuel, context.fuel = fuel + 1 + 1 := ⟨context.fuel - 2, by omega⟩
  rw [run_commaList, hsucc, run_collectFor_some hfirst, run_collectFor_none hsecond,
    Option.bind_some, Option.bind_some, run_expect, hclose, beq_self_eq_true, if_pos rfl]
  rfl

/-- A list stops where neither a comma nor its end follows an item. -/
theorem run_commaList_eq_none (hopen : state.lexeme.token ≠ .symbol closing)
    (hitem : ∀ value after, item context state = some (value, after) →
      after.lexeme.token ≠ .symbol closing ∧ after.lexeme.token ≠ .symbol .comma) :
    commaList closing item context state = none := by
  have hstep : listStep closing item context state = none := by
    unfold listStep
    simp only [run_bind, run_isAt, Option.bind_some, run_ite, beq_iff_eq, hopen, if_false]
    cases hrun : item context state with
    | none => rfl
    | some result =>
      obtain ⟨hclosing, hcomma⟩ := hitem result.1 result.2 hrun
      simp only [Option.bind_some, hclosing, if_false, run_expect, beq_iff_eq, hcomma,
        Option.bind_none]
  rw [run_commaList, run_collectFor_eq_none hstep]
  rfl

end Lists

/-! ## Import declarations -/

theorem run_importSpecifier {entry : ClauseEntry} (hword : entry.right.isString = false)
    (hreserved : isReserved entry.right.name = false) :
    importSpecifier entry context state
      = some (.named entry.left.name entry.right.name entry.isType, state) := by
  unfold importSpecifier
  simp only [run_bind, hword, hreserved, Bool.not_false, Bool.and_self, run_require_true,
    Option.bind_some, run_pure]

theorem run_importBindings (hopen : state.lexeme.token = .symbol .openBrace) (typeOnly : Bool) :
    importBindings typeOnly context state
      = (commaList .closeBrace (clauseEntry typeOnly) context state.next).bind fun entries =>
        (entries.1.mapM importSpecifier : Parser _) context entries.2 := by
  have hstar : (Token.symbol .openBrace == .symbol .star) = false := rfl
  unfold importBindings clause
  simp only [run_bind, run_eat, hopen, hstar, Bool.false_eq_true, if_false, Option.bind_some,
    run_ite, run_expect, beq_self_eq_true, if_true]

/-- Braces around one entry. -/
theorem run_importBindings_single (hfuel : 2 ≤ context.fuel) {typeOnly : Bool} {entry : ClauseEntry}
    {after : State} (hopen : state.lexeme.token = .symbol .openBrace)
    (hentry : clauseEntry typeOnly context state.next = some (entry, after))
    (hclose : after.lexeme.token = .symbol .closeBrace) (hword : entry.right.isString = false)
    (hreserved : isReserved entry.right.name = false) :
    importBindings typeOnly context state
      = some ([.named entry.left.name entry.right.name entry.isType], after.next) := by
  have hinside : state.next.lexeme.token ≠ .symbol .closeBrace := by
    intro hempty
    rw [run_clauseEntry_eq_none (by rw [hempty]; rfl)] at hentry
    cases hentry
  rw [run_importBindings hopen, run_commaList_single hfuel hinside hentry hclose, Option.bind_some,
    List.mapM_cons, List.mapM_nil, run_bind, run_importSpecifier hword hreserved]
  rfl

/-- Braces with an entry that no comma or brace follows. -/
theorem run_importBindings_eq_none {typeOnly : Bool}
    (hopen : state.lexeme.token = .symbol .openBrace)
    (hinside : state.next.lexeme.token ≠ .symbol .closeBrace)
    (hentry : ∀ entry after, clauseEntry typeOnly context state.next = some (entry, after) →
      after.lexeme.token = .invalid) :
    importBindings typeOnly context state = none := by
  have hlist : commaList .closeBrace (clauseEntry typeOnly) context state.next = none := by
    refine run_commaList_eq_none hinside fun entry after hrun => ?_
    rw [hentry entry after hrun]
    simp
  rw [run_importBindings hopen, hlist]
  rfl

/-- The mark `type`, before the braces or before a name inside them. -/
def markTokens (marked : Bool) : List Token :=
  if marked then [.word "type" false] else []

/-- The state after some tokens. -/
def State.after : State → List Token → State
  | state, [] => state
  | state, _ :: tokens => state.next.after tokens

theorem State.sees_append {state : State} {first rest : List Token} :
    state.Sees (first ++ rest) ↔ state.Sees first ∧ (state.after first).Sees rest := by
  induction first generalizing state with
  | nil => simp [State.Sees, State.after]
  | cons token first ih => simp [State.Sees, State.after, ih, and_assoc]

@[simp] theorem State.faulty_next (state : State) : state.next.faulty = state.faulty := rfl

@[simp] theorem State.faulty_after (state : State) (tokens : List Token) :
    (state.after tokens).faulty = state.faulty := by
  induction tokens generalizing state with
  | nil => rfl
  | cons token tokens ih => exact ih state.next

theorem run_importHead (hlanguage : context.dialect.typescript = true) {typeOnly : Bool}
    (h : state.Sees (markTokens typeOnly ++ [.symbol .openBrace])) :
    importHead context state
      = some (⟨none, typeOnly, false⟩, state.after (markTokens typeOnly)) := by
  have hnone {state : State} (hopen : state.lexeme.token = .symbol .openBrace) :
      optionalBinding context state = some (none, state) := by
    unfold optionalBinding atBindingName
    simp only [run_bind, run_token, hopen, Option.bind_some, run_pure, Bool.false_eq_true, run_ite,
      if_false]
  cases typeOnly with
  | false =>
    obtain ⟨hopen, -⟩ := h
    unfold importHead
    rw [run_bind, hnone hopen]
    rfl
  | true =>
    obtain ⟨htype, hopen, -⟩ := h
    have hname : optionalBinding context state = some (some "type", state.next) := by
      unfold optionalBinding atBindingName bindingName
      have hreserved : isReserved "type" = false := by decide
      have hawait : ("type" == "await") = false := by decide
      have hyield : ("type" == "yield") = false := by decide
      simp only [run_bind, run_token, htype, Option.bind_some, run_pure, run_ite, hreserved,
        Bool.not_false, if_true, run_ensure_true, hawait, hyield, Bool.false_and, run_require_true,
        run_advance]
      rfl
    have htyped : atTypedImport context state.next = some (true, state.next) := by
      unfold atTypedImport atBindingName
      simp only [run_bind, run_atWord, hopen, run_token, Option.bind_some, run_pure, run_ite,
        run_isAt]
      rfl
    unfold importHead
    rw [run_bind, hname, Option.bind_some]
    simp only [run_bind, run_typescript, hlanguage, Option.bind_some, htyped, run_ite, hnone hopen,
      run_pure]
    rfl

/-- The module specifier and the semicolon. -/
theorem run_importSource {source : String}
    (h : state.Sees [.string source true, .symbol .semicolon]) (start : Nat) (head : ImportHead)
    (specifiers : Option (List ImportSpecifier)) :
    importSource start head specifiers context state
      = some (.importDeclaration ⟨start, state.next.lexeme.stop, source,
          state.lexeme.here.headD '\'', specifiers, head.typeOnly, false, head.hasPhase⟩,
        state.next.next) := by
  obtain ⟨hsource, hend, -⟩ := h
  have hliteral : stringLiteral context state = some (source, state.next) := by
    unfold stringLiteral
    rw [run_bind, run_token, hsource]
    rfl
  have hattributes : attributes context state.next = some (false, state.next) := by
    unfold attributes
    simp only [run_bind, run_atWord, hend, Option.bind_some, run_ite]
    rfl
  have hsemicolon : semicolon context state.next = some ((), state.next.next) := by
    unfold semicolon
    simp only [run_bind, run_lexeme, hend, Option.bind_some, beq_self_eq_true, run_ite, if_true,
      run_advance]
  unfold importSource
  simp only [run_bind, run_lexeme, Option.bind_some, hliteral, hattributes, hsemicolon]
  rfl

theorem run_importSource_eq_none (h : state.lexeme.token = .invalid) (start : Nat)
    (head : ImportHead) (specifiers : Option (List ImportSpecifier)) :
    importSource start head specifiers context state = none := by
  have hliteral : stringLiteral context state = none := by
    unfold stringLiteral
    rw [run_bind, run_token, h]
    rfl
  unfold importSource
  simp only [run_bind, run_lexeme, Option.bind_some, hliteral, Option.bind_none]

/-- What an import with nothing but braces begins with. -/
def headTokens (typeOnly : Bool) : List Token :=
  .word "import" false :: markTokens typeOnly ++ [.symbol .openBrace]

theorem headTokens_append (typeOnly : Bool) (tokens : List Token) :
    headTokens typeOnly ++ tokens
      = .word "import" false :: (markTokens typeOnly ++ .symbol .openBrace :: tokens) := by
  simp [headTokens]

/-- An import with nothing but braces is its bindings and what follows `from`. -/
theorem run_importDeclaration (hlanguage : context.dialect.typescript = true) {typeOnly : Bool}
    (h : state.Sees (headTokens typeOnly)) :
    importDeclaration context state
      = (importBindings typeOnly context (state.next.after (markTokens typeOnly))).bind
        fun bindings =>
          (expectWord "from" context bindings.2).bind fun after =>
            importSource state.lexeme.start ⟨none, typeOnly, false⟩ (some bindings.1) context
              after.2 := by
  obtain ⟨himport, hrest⟩ := h
  have hhead := run_importHead hlanguage hrest
  have hopen : (state.next.after (markTokens typeOnly)).lexeme.token = .symbol .openBrace :=
    ((State.sees_append.mp hrest).2).1
  have hbindings (after : State) : importSpecifiers ⟨none, typeOnly, false⟩ context after
      = importBindings typeOnly context after := rfl
  have hword : expectWord "import" context state = some ((), state.next) := by
    rw [run_expectWord, himport, beq_self_eq_true, if_pos rfl]
  unfold importDeclaration
  simp only [run_bind, run_lexeme, Option.bind_some, hword, run_token, Bool.false_eq_true, run_ite,
    if_false, hhead, run_isAt, run_atWord, hopen, Option.isSome_none, Bool.false_and, hbindings]
  -- what follows `import` is no string
  cases typeOnly with
  | false => rw [show state.next.lexeme.token = _ from hrest.1]; rfl
  | true => rw [show state.next.lexeme.token = _ from hrest.1]; rfl

/-- The bindings of an import with nothing but braces, up to its module specifier. -/
theorem run_importDeclaration_of_bindings (hlanguage : context.dialect.typescript = true)
    {typeOnly : Bool}
    (h : state.Sees (headTokens typeOnly))
    {bindings : List ImportSpecifier} {after : State}
    (hbindings : importBindings typeOnly context (state.next.after (markTokens typeOnly))
      = some (bindings, after))
    (hfrom : after.lexeme.token = .word "from" false) :
    importDeclaration context state
      = importSource state.lexeme.start ⟨none, typeOnly, false⟩ (some bindings) context
        after.next := by
  rw [run_importDeclaration hlanguage h, hbindings, Option.bind_some, run_expectWord, hfrom,
    beq_self_eq_true, if_pos rfl, Option.bind_some]

/-! ## Modules of one import -/

/-- A statement that begins like an import with braces is one. -/
theorem run_statementRule (g : Grammar) {typeOnly : Bool}
    (h : state.Sees (headTokens typeOnly)) :
    g.statementRule context state = importDeclaration context state := by
  obtain ⟨himport, hrest⟩ := h
  have hnext : (state.next.lexeme.token == .symbol .openParen
      || state.next.lexeme.token == .symbol .dot) = false := by
    cases typeOnly with
    | false => rw [show state.next.lexeme.token = _ from hrest.1]; rfl
    | true => rw [show state.next.lexeme.token = _ from hrest.1]; rfl
  unfold statementRule
  rw [run_bind, run_token, himport, Option.bind_some]
  show g.wordStatement "import" context state = _
  have hcontrol : g.controlStatement? "import" = none := rfl
  unfold wordStatement
  rw [hcontrol]
  simp only [beq_self_eq_true, if_true, run_bind, run_peek, Option.bind_some, hnext,
    Bool.false_eq_true, if_false]

/-- One top-level statement, or none at the end. -/
def itemStep (g : Grammar) : Parser (Option Item) := do
  if (← token) == .eof then return none else return some (← g .statement)

theorem run_items (g : Grammar) (context : Context) (state : State) :
    items g context state = collectFor (itemStep g) context.fuel context state := rfl

theorem run_itemStep (g : Grammar) (h : state.lexeme.token ≠ .eof) :
    itemStep g context state
      = (g .statement context state).map fun result => (some result.1, result.2) := by
  unfold itemStep
  simp only [run_bind, run_token, Option.bind_some, beq_iff_eq, run_ite, h, if_false]
  cases g .statement context state <;> rfl

/-- The beginning of a text. -/
def State.start (text : List Char) : State :=
  ⟨Lexeme.next 0 text, (Lexeme.next 0 text).start, false⟩

/-- A text that begins with `import` is read from its first character on. -/
theorem readItems_eq (dialect : Dialect) {source : String} {tail : List Char}
    (h : source.toList = 'i' :: tail) :
    readItems dialect source
      = match items (grammar (8 * (source.toList.length + 8)))
            (topLevel dialect (8 * (source.toList.length + 8))) (State.start source.toList) with
        | some (found, state) =>
          let kept := dropDirectives found
          let again := if dialect.typescript then []
            else repeated (kept.flatMap Item.exportedNames)
          if state.faulty then .error [syntaxFault]
          else if again.isEmpty then .ok kept
          else .error (again.map repeatedFault)
        | none => .error [syntaxFault] := by
  have hmark : skipMark source.toList = source.toList := by
    rw [h]
    rfl
  have hline : skipInterpreter source.toList = source.toList := by
    rw [h]
    rfl
  unfold readItems
  simp only [hmark, hline, Nat.sub_self]
  rfl

section Module

variable {dialect : Dialect} {source : String} {tail : List Char} {typeOnly : Bool}

theorem run_grammar_statement (fuel : Nat)
    (h : state.Sees (headTokens typeOnly)) :
    grammar (fuel + 1) .statement context state = importDeclaration context state :=
  run_statementRule (grammar fuel) h

/-- A text that is one import declaration. -/
theorem readItems?_of_run (hlanguage : dialect.typescript = true)
    (htext : source.toList = 'i' :: tail)
    (hhead : (State.start source.toList).Sees (headTokens typeOnly))
    {declaration : ImportDeclaration} {after : State}
    (hrun : ∀ context : Context, context.dialect = dialect → 2 ≤ context.fuel →
      importDeclaration context (State.start source.toList)
        = some (.importDeclaration declaration, after))
    (hend : after.lexeme.token = .eof) (hfaulty : after.faulty = false) :
    readItems? dialect source = some [.importDeclaration declaration] := by
  rw [readItems?_eq_some_iff, readItems_eq dialect htext]
  -- one step for the import, one for the end of the text
  generalize hfuel : 8 * (source.toList.length + 8) = fuel
  obtain ⟨less, rfl⟩ : ∃ less, fuel = less + 1 + 1 := ⟨fuel - 2, by omega⟩
  have hneof : (State.start source.toList).lexeme.token ≠ .eof := by
    rw [show _ = _ from hhead.1]
    simp
  have hfirst : itemStep (grammar (less + 1 + 1)) (topLevel dialect (less + 1 + 1))
      (State.start source.toList) = some (some (.importDeclaration declaration), after) := by
    rw [run_itemStep _ hneof, run_grammar_statement _ hhead,
      hrun _ rfl (show 2 ≤ less + 1 + 1 by omega)]
    rfl
  have hsecond : itemStep (grammar (less + 1 + 1)) (topLevel dialect (less + 1 + 1)) after
      = some (none, after) := by
    unfold itemStep
    simp only [run_bind, run_token, hend, Option.bind_some, beq_self_eq_true, run_ite, if_true,
      run_pure]
  have hitems : items (grammar (less + 1 + 1)) (topLevel dialect (less + 1 + 1))
      (State.start source.toList) = some ([.importDeclaration declaration], after) := by
    rw [run_items, show (topLevel dialect (less + 1 + 1)).fuel = less + 1 + 1 from rfl,
      run_collectFor_some hfirst, run_collectFor_none hsecond]
    rfl
  rw [hitems]
  simp only [hfaulty, hlanguage, Bool.false_eq_true, if_false, if_true]
  rfl

/-- A text whose only import declaration is malformed. -/
theorem readItems?_eq_none_of_run (htext : source.toList = 'i' :: tail)
    (hhead : (State.start source.toList).Sees (headTokens typeOnly))
    (hrun : ∀ context : Context, context.dialect = dialect → 2 ≤ context.fuel →
      importDeclaration context (State.start source.toList) = none) :
    readItems? dialect source = none := by
  unfold readItems?
  rw [readItems_eq dialect htext]
  generalize hfuel : 8 * (source.toList.length + 8) = fuel
  obtain ⟨less, rfl⟩ : ∃ less, fuel = less + 1 := ⟨fuel - 1, by omega⟩
  have hneof : (State.start source.toList).lexeme.token ≠ .eof := by
    rw [show _ = _ from hhead.1]
    simp
  have hstep : itemStep (grammar (less + 1)) (topLevel dialect (less + 1))
      (State.start source.toList) = none := by
    rw [run_itemStep _ hneof, run_grammar_statement _ hhead,
      hrun _ rfl (show 2 ≤ less + 1 by omega)]
    rfl
  rw [run_items, run_collectFor_eq_none hstep]
  rfl

end Module

end DirectImports.Source
