import DirectImports.ImportStatement.Printer

/-!
# Text between quotes

A reader of quoted text takes the character after a backslash as it is, and stops at the first quote
that has no backslash before it (`Quoted.scan`). What `Quoted.escape` has written is found again,
whatever comes after the closing quote, and the reader stops at no earlier place
(`Quoted.scan_escape`, `Quoted.scan_of_isPrefix`). So a name or a module specifier cannot leave its
literal, in an export's name as in a whole statement (`ImportStatement.staysQuoted_render`).

Only a backslash cannot serve as the quote: it would have to be the first character of each pair and
the end of the text at once.
-/

namespace DirectImports

namespace Quoted

/-! ## Reading -/

/-- Reads up to the first quote without a backslash: the text found, and what comes after the
quote. -/
def scan (quote : Char) : List Char → Option (List Char × List Char)
  | '\\' :: next :: rest => (scan quote rest).map fun (text, after) => (next :: text, after)
  | c :: rest =>
    if c = quote then some ([], rest)
    else (scan quote rest).map fun (text, after) => (c :: text, after)
  | [] => none

/-- Reads a literal with both of its quotes. -/
def scanLiteral (quote : Char) : List Char → Option (List Char × List Char)
  | [] => none
  | c :: rest => if c = quote then scan quote rest else none

variable {quote : Char}

theorem scan_backslash (next : Char) (rest : List Char) :
    scan quote ('\\' :: next :: rest)
      = (scan quote rest).map fun (text, after) => (next :: text, after) := by
  rw [scan]

theorem scan_quote (hquote : quote ≠ '\\') (rest : List Char) :
    scan quote (quote :: rest) = some ([], rest) := by
  rw [scan, if_pos rfl]
  exact fun _ _ h _ => hquote h

theorem scan_cons {c : Char} (hslash : c ≠ '\\') (hc : c ≠ quote) (rest : List Char) :
    scan quote (c :: rest) = (scan quote rest).map fun (text, after) => (c :: text, after) := by
  rw [scan, if_neg hc]
  exact fun _ _ h _ => hslash h

/-- More text at the end comes after the quote that was found. -/
theorem scan_append (hquote : quote ≠ '\\') {input text after : List Char} (more : List Char)
    (h : scan quote input = some (text, after)) :
    scan quote (input ++ more) = some (text, after ++ more) := by
  fun_induction scan quote input generalizing text after with
  | case1 next rest ih =>
    obtain ⟨⟨inner, left⟩, hinner, heq⟩ := Option.map_eq_some_iff.mp h
    cases heq
    rw [List.cons_append, List.cons_append, scan_backslash, ih hinner]
    rfl
  | case2 rest hpair =>
    cases h
    exact scan_quote hquote _
  | case3 c rest hpair hc ih =>
    obtain ⟨⟨inner, left⟩, hinner, heq⟩ := Option.map_eq_some_iff.mp h
    cases heq
    -- a backslash here would be the last character, and no quote is found after it
    have hslash : c ≠ '\\' := by
      intro hslash
      cases rest with
      | nil => cases hinner
      | cons next rest => exact hpair next rest hslash rfl
    rw [List.cons_append, scan_cons hslash hc, ih hinner]
    rfl
  | case4 => cases h

/-! ## What was written is found -/

/-- An escaped text is found up to its closing quote. -/
theorem scan_escape (hquote : quote ≠ '\\') (text rest : List Char) :
    scan quote (escape quote text ++ quote :: rest) = some (text, rest) := by
  induction text with
  | nil => exact scan_quote hquote rest
  | cons c text ih =>
    unfold escape
    by_cases hescaped : c = '\\' ∨ c = quote
    · rw [if_pos hescaped, List.cons_append, List.cons_append, scan_backslash, ih]
      rfl
    · obtain ⟨hslash, hc⟩ := not_or.mp hescaped
      rw [if_neg hescaped, List.cons_append, scan_cons hslash hc, ih]
      rfl

/-- Inside an escaped text no quote is found. -/
theorem scan_of_isPrefix (hquote : quote ≠ '\\') {text front : List Char}
    (h : front <+: escape quote text) : scan quote front = none := by
  obtain ⟨rest, hrest⟩ := h
  cases hfront : scan quote front with
  | none => rfl
  | some found =>
    -- the same quote would end the whole text, and leave the closing quote behind
    have hearly := scan_append hquote (rest ++ [quote]) hfront
    have hwhole := scan_escape hquote text []
    rw [← hrest, List.append_assoc, hearly] at hwhole
    simp at hwhole

theorem escape_injective (hquote : quote ≠ '\\') : Function.Injective (escape quote) := by
  intro text other h
  have htext := scan_escape hquote text []
  rw [h, scan_escape hquote other []] at htext
  cases htext
  rfl

theorem scanLiteral_literal (hquote : quote ≠ '\\') (text : String) (rest : List Char) :
    scanLiteral quote ((literal quote text).toList ++ rest) = some (text.toList, rest) := by
  have hinput : (literal quote text).toList ++ rest
      = quote :: (escape quote text.toList ++ quote :: rest) := by
    simp [literal]
  rw [hinput, scanLiteral, if_pos rfl, scan_escape hquote]

end Quoted

namespace ImportStatement

open Quoted

/-- What stands before the module specifier. -/
def renderHead (statement : ImportStatement) (quote : Char) : String :=
  "import " ++ (if statement.typeOnly then "type " else "") ++ statement.renderBindings quote
    ++ " from "

/-- Between quotes a text is found again exactly, and not before its end; two texts are never
written alike. So a reader that comes to the literal of an export's name, or to a statement's module
specifier, finds that name or specifier and goes on right behind it. -/
theorem staysQuoted_render {quote : Char} (hquote : quote ≠ '\\') :
    (∀ text rest, scan quote (escape quote text ++ quote :: rest) = some (text, rest))
      ∧ (∀ text front, front <+: escape quote text → scan quote front = none)
      ∧ Function.Injective (escape quote)
      ∧ (∀ name rest, isName name = false →
        scanLiteral quote ((exportName quote name).toList ++ rest) = some (name.toList, rest))
      ∧ ∀ (statement : ImportStatement) (rest : List Char), ∃ tail,
        (statement.render quote).toList ++ rest = (statement.renderHead quote).toList ++ tail
          ∧ scanLiteral quote tail = some (statement.source.toList, ';' :: rest) := by
  refine ⟨scan_escape hquote, fun text front => scan_of_isPrefix hquote, escape_injective hquote,
    fun name rest hname => ?_, fun statement rest => ?_⟩
  · unfold exportName
    rw [hname]
    exact scanLiteral_literal hquote name rest
  · refine ⟨(literal quote statement.source).toList ++ ';' :: rest, ?_,
      scanLiteral_literal hquote _ _⟩
    unfold render renderHead
    simp only [String.toList_append, List.append_assoc]
    rfl

/-- A text with a quote and a semicolon in it, and a backslash at its end, stays within its quotes,
and the name of an export that is like that is found again. -/
theorem staysQuoted_render_trailingBackslash :
    '\'' ≠ '\\'
      ∧ scan '\'' (escape '\'' "';f();\\".toList ++ '\'' :: ";g()".toList)
        = some ("';f();\\".toList, ";g()".toList)
      ∧ scan '\'' (escape '\'' "';f();\\".toList) = none
      ∧ scanLiteral '\'' ((exportName '\'' "it's\\").toList ++ " as a".toList)
        = some ("it's\\".toList, " as a".toList) := by
  have hquote : '\'' ≠ '\\' := by decide
  obtain ⟨hfound, hinside, -, hname, -⟩ := staysQuoted_render hquote
  exact ⟨hquote, hfound _ _, hinside _ _ (List.prefix_refl _), hname _ _ (by decide)⟩

end ImportStatement

end DirectImports
