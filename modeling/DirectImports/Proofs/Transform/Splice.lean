import DirectImports.Proofs.Redirect.FixedPoint
import DirectImports.Proofs.Transform.Imports

/-!
# What a transformation leaves alone

The edits of a text are applied in one pass from its beginning to its end. Where they stand in
increasing order and do not overlap (`SpansWithin`), the pass cuts the text into what is kept and
what is replaced, and puts it together again with the new stretches in the place of the old ones
(`spliced_spliceFrom`). Applying the edits one by one, the last one first, comes to the same
(`foldr_apply`).

Hence a transformed text is the text as it was, but for the imports that the redirector replaced
(`Redirector.transform_eq_splice`).
-/

namespace DirectImports

/-! ## Spans -/

/-- From an offset on, the spans follow each other without overlapping, up to the length. -/
def SpansWithin (length : Nat) : Nat → List (Nat × Nat) → Prop
  | cursor, [] => cursor ≤ length
  | cursor, (start, stop) :: rest => cursor ≤ start ∧ start ≤ stop ∧ SpansWithin length stop rest

instance decidableSpansWithin (length : Nat) :
    (cursor : Nat) → (spans : List (Nat × Nat)) → Decidable (SpansWithin length cursor spans)
  | cursor, [] => inferInstanceAs (Decidable (cursor ≤ length))
  | cursor, (start, stop) :: rest =>
    have := decidableSpansWithin length stop rest
    inferInstanceAs (Decidable (cursor ≤ start ∧ start ≤ stop ∧ SpansWithin length stop rest))

namespace SpansWithin

variable {length cursor : Nat} {spans : List (Nat × Nat)}

theorem le (h : SpansWithin length cursor spans) : cursor ≤ length := by
  induction spans generalizing cursor with
  | nil => exact h
  | cons span rest ih =>
    obtain ⟨hstart, hstop, hrest⟩ := h
    have hlength := ih hrest
    omega

theorem mono (h : SpansWithin length cursor spans) {earlier : Nat} (hle : earlier ≤ cursor) :
    SpansWithin length earlier spans := by
  cases spans with
  | nil => exact hle.trans h
  | cons span rest => exact ⟨hle.trans h.1, h.2⟩

/-- What is left out of a list of spans leaves the others in order. -/
theorem sublist {some : List (Nat × Nat)} (hsub : some.Sublist spans)
    (h : SpansWithin length cursor spans) : SpansWithin length cursor some := by
  induction hsub generalizing cursor with
  | slnil => exact h
  | cons span hsub ih =>
    obtain ⟨hstart, hstop, hrest⟩ := h
    exact (ih hrest).mono (hstart.trans hstop)
  | cons_cons span hsub ih =>
    obtain ⟨hstart, hstop, hrest⟩ := h
    exact ⟨hstart, hstop, ih hrest⟩

end SpansWithin

/-- The stretch of an edit. -/
def Edit.span (edit : Edit) : Nat × Nat := (edit.start, edit.stop)

/-- The stretch of a declaration among the top-level statements. -/
def Source.Item.span? : Source.Item → Option (Nat × Nat)
  | .importDeclaration declaration => some (declaration.start, declaration.stop)
  | _ => none

/-! ## Splicing -/

/-- A text from an offset on, and the same text with each edit's stretch replaced: what stands
before, between and after the stretches is the same in both. -/
inductive Spliced : Nat → List Char → List Edit → List Char → Prop
  | keep {cursor : Nat} {text : List Char} : Spliced cursor text [] text
  | replace {cursor : Nat} {kept old rest out : List Char} {edit : Edit} {edits : List Edit}
      (hstart : edit.start = cursor + kept.length) (hstop : edit.stop = edit.start + old.length)
      (hrest : Spliced edit.stop rest edits out) :
      Spliced cursor (kept ++ (old ++ rest)) (edit :: edits) (kept ++ (edit.text.toList ++ out))

/-- The pass over the edits replaces their stretches and nothing else. -/
theorem spliced_spliceFrom {cursor : Nat} {text : List Char} {edits : List Edit}
    (h : SpansWithin (cursor + text.length) cursor (edits.map Edit.span)) :
    Spliced cursor text edits (spliceFrom cursor text edits) := by
  induction edits generalizing cursor text with
  | nil => exact .keep
  | cons edit edits ih =>
    obtain ⟨hstart, hstop, hrest⟩ := h
    have hlength : edit.stop ≤ cursor + text.length := hrest.le
    -- the text falls into what stands before the stretch, the stretch, and what follows
    have hsplit : text = text.take (edit.start - cursor)
        ++ ((text.drop (edit.start - cursor)).take (edit.stop - edit.start)
          ++ text.drop (edit.stop - cursor)) := by
      have hdrop : text.drop (edit.stop - cursor)
          = (text.drop (edit.start - cursor)).drop (edit.stop - edit.start) := by
        rw [List.drop_drop]
        congr 1
        omega
      rw [hdrop, List.take_append_drop, List.take_append_drop]
    have hend : cursor + text.length = edit.stop + (text.drop (edit.stop - cursor)).length := by
      rw [List.length_drop]
      omega
    rw [hend] at hrest
    rw [spliceFrom, List.append_assoc]
    nth_rewrite 1 [hsplit]
    refine .replace ?_ ?_ (ih hrest)
    · rw [List.length_take]
      omega
    · rw [List.length_take, List.length_drop]
      omega

/-- Replaces the stretch of one edit. -/
def Edit.apply (edit : Edit) (text : List Char) : List Char :=
  text.take edit.start ++ edit.text.toList ++ text.drop edit.stop

/-- Applying the edits one by one, the last one first, is the same as one pass over all. -/
theorem foldr_apply {cursor : Nat} {text : List Char} {edits : List Edit}
    (h : SpansWithin text.length cursor (edits.map Edit.span)) :
    edits.foldr Edit.apply text
      = text.take cursor ++ spliceFrom cursor (text.drop cursor) edits := by
  induction edits generalizing cursor with
  | nil => exact (List.take_append_drop cursor text).symm
  | cons edit edits ih =>
    obtain ⟨hstart, hstop, hrest⟩ := h
    have hlength : edit.stop ≤ text.length := hrest.le
    have hfront : text.take edit.start
        = text.take cursor ++ (text.drop cursor).take (edit.start - cursor) := by
      rw [← List.take_add]
      congr 1
      omega
    have hback : (text.drop cursor).drop (edit.stop - cursor) = text.drop edit.stop := by
      rw [List.drop_drop]
      congr 1
      omega
    -- later edits have left alone all that stands before the end of this one
    have htake : (text.take edit.stop).length = edit.stop := by
      rw [List.length_take]
      omega
    calc (edit :: edits).foldr Edit.apply text
        = edit.apply (text.take edit.stop ++ spliceFrom edit.stop (text.drop edit.stop) edits) := by
          rw [List.foldr_cons, ih hrest]
      _ = text.take edit.start ++ edit.text.toList
            ++ spliceFrom edit.stop (text.drop edit.stop) edits := by
          unfold Edit.apply
          rw [List.take_append_of_le_length (by omega), List.take_take, Nat.min_eq_left hstop,
            List.drop_append_of_le_length (by omega), List.drop_take_self, List.nil_append]
      _ = text.take cursor ++ spliceFrom cursor (text.drop cursor) (edit :: edits) := by
          rw [spliceFrom, hback, hfront]
          simp only [List.append_assoc]

/-! ## Transformed texts -/

namespace Redirector

variable {redirector : Redirector} {fs : FileSystem} {path : Path} {source : String}
  {cache after : BarrelCache} {out : Transformed}

theorem span_of_edit? {answer : Source.ImportDeclaration × Redirection} {edit : Edit}
    (h : edit? answer = some edit) : edit.span = (answer.1.start, answer.1.stop) := by
  unfold edit? at h
  split at h
  · cases h
  · cases h
    rfl

theorem span?_of_import? {item : Source.Item} {declaration : Source.ImportDeclaration}
    {statement : ImportStatement} (h : item.import? = some (declaration, statement)) :
    item.span? = some (declaration.start, declaration.stop) := by
  cases item with
  | importDeclaration found =>
    obtain ⟨_, -, heq⟩ := Option.map_eq_some_iff.mp h
    cases heq
    rfl
  | _ => cases h

/-- The edits stand where import declarations stand, in the same order. -/
theorem Answers.sublist_spans {items : List Source.Item}
    {answers : List (Source.ImportDeclaration × Redirection)}
    (h : redirector.Answers fs path cache items answers after) :
    ((answers.filterMap edit?).map Edit.span).Sublist (items.filterMap Source.Item.span?) := by
  induction h with
  | done => exact .slnil
  | @pass _ _ item rest _ hitem hrest ih =>
    refine ih.trans ?_
    exact (List.sublist_cons_self item rest).filterMap _
  | @ask _ _ _ item rest declaration statement redirection answers hitem hanswer hrest ih =>
    rw [List.filterMap_cons_some (span?_of_import? hitem)]
    cases hedit : edit? (declaration, redirection) with
    | none =>
      rw [List.filterMap_cons_none hedit]
      exact ih.cons _
    | some edit =>
      rw [List.filterMap_cons_some hedit, List.map_cons, span_of_edit? hedit]
      exact ih.cons_cons _

/-- A text that is transformed has the edits of the redirector's answers. -/
theorem exists_answers_of_transform
    (h : (redirector.transform fs path source).run.run cache = (.ok out, after)) :
    ∃ items answers, Source.readItems? (.ofPath path) source = some items
      ∧ redirector.Answers fs path cache items answers after
      ∧ out = ⟨splice source (answers.filterMap edit?),
          splice source (answers.filterMap edit?) != source, (answers.filterMap edit?).length,
          answers.flatMap (·.2.diagnostics)⟩ := by
  unfold transform at h
  cases hread : Source.readItems (.ofPath path) source with
  | error faults => rw [hread] at h; cases h
  | ok items =>
    rw [hread] at h
    simp only at h
    rw [run_run_bind, run_run_adapt] at h
    cases hrun : (items.foldlM (redirector.editItem fs path) ([], [])).run.run cache with
    | mk result between =>
      rw [hrun] at h
      cases result with
      | error error => cases h
      | ok done =>
        obtain ⟨answers, hanswers, rfl⟩ := exists_answers_of_editItems hrun
        cases h
        exact ⟨items, answers, Source.readItems?_eq_some_iff.mpr hread, hanswers, by simp⟩

theorem splice_nil (source : String) : splice source [] = source := by
  simp [splice, spliceFrom]

/-- A transformed text differs from the text only where the redirector replaced an import: there
the new imports stand, one a line, in the quotes of the old one. If the spans that were read are in
order, then so are those of the edits, and applying these one by one comes to the same. The
replaced imports are counted, the findings are those of all answers in the order of the text, and
a text in which nothing is replaced stays as it is. -/
theorem transform_eq_splice
    (hspans : ∀ items, Source.readItems? (.ofPath path) source = some items →
      SpansWithin source.length 0 (items.filterMap Source.Item.span?))
    (h : (redirector.transform fs path source).run.run cache = (.ok out, after)) :
    ∃ items answers, Source.readItems? (.ofPath path) source = some items
      ∧ redirector.Answers fs path cache items answers after
      ∧ SpansWithin source.length 0 ((answers.filterMap edit?).map Edit.span)
      ∧ Spliced 0 source.toList (answers.filterMap edit?) out.code.toList
      ∧ out.code.toList = (answers.filterMap edit?).foldr Edit.apply source.toList
      ∧ out.replaced = (answers.filterMap edit?).length
      ∧ out.diagnostics = answers.flatMap (·.2.diagnostics)
      ∧ out.modified = (out.code != source)
      ∧ ((∀ answer ∈ answers, answer.2.outcome = .untouched) →
          out.code = source ∧ out.modified = false) := by
  obtain ⟨items, answers, hread, hanswers, rfl⟩ := exists_answers_of_transform h
  have hwithin := (hspans items hread).sublist hanswers.sublist_spans
  have hcode : (splice source (answers.filterMap edit?)).toList
      = spliceFrom 0 source.toList (answers.filterMap edit?) := by
    simp [splice]
  refine ⟨items, answers, hread, hanswers, hwithin, ?_, ?_, rfl, rfl, rfl, ?_⟩
  · rw [hcode]
    apply spliced_spliceFrom
    rwa [Nat.zero_add, String.length_toList]
  · rw [← String.length_toList] at hwithin
    rw [hcode, foldr_apply hwithin, List.take_zero, List.drop_zero, List.nil_append]
  · intro huntouched
    have hnone : answers.filterMap edit? = [] := by
      rw [List.filterMap_eq_nil_iff]
      intro answer hanswer
      rw [edit?, huntouched answer hanswer]
    rw [hnone, splice_nil]
    exact ⟨rfl, by simp⟩

/-- A text with two imports of the barrel `./b`, in different quotes. -/
def twoImports : String :=
  "/*é*/import { A } from './b';\nimport { A as B } from \"./b\"\nA(B)"

/-- The same text with the imports redirected. -/
def twoImportsRedirected : String :=
  "/*é*/import { Q as A } from './b/y';\nimport { Q as B } from \"./b/y\";\nA(B)"

theorem transform_eq_splice_twoImports :
    (∀ items, Source.readItems? (.ofPath ⟨"/a.ts"⟩) twoImports = some items →
        SpansWithin twoImports.length 0 (items.filterMap Source.Item.span?))
      ∧ ∃ out after, (ring.transform Fixture.ring.view ⟨"/a.ts"⟩ twoImports).run.run .empty
          = (.ok out, after)
        ∧ out.code = twoImportsRedirected
        ∧ ∃ edits, Spliced 0 twoImports.toList edits out.code.toList ∧ edits.length = 2 := by
  have hread : (Source.readItems? (.ofPath ⟨"/a.ts"⟩) twoImports).map
      (·.filterMap Source.Item.span?) = some [(5, 29), (30, 58)] := by
    decide +kernel
  have hspans : ∀ items, Source.readItems? (.ofPath ⟨"/a.ts"⟩) twoImports = some items →
      SpansWithin twoImports.length 0 (items.filterMap Source.Item.span?) := by
    intro items hitems
    rw [hitems, Option.map_some, Option.some.injEq] at hread
    rw [hread]
    decide
  have hresult : ((ring.transform Fixture.ring.view ⟨"/a.ts"⟩ twoImports).run.run .empty).1
      = .ok ⟨twoImportsRedirected, true, 2, []⟩ := by
    decide +kernel
  generalize hrun : (ring.transform Fixture.ring.view ⟨"/a.ts"⟩ twoImports).run.run .empty = run
    at hresult ⊢
  obtain ⟨result, after⟩ := run
  cases hresult
  obtain ⟨items, answers, -, -, -, hspliced, -, hreplaced, -⟩ := transform_eq_splice hspans hrun
  exact ⟨hspans, _, after, rfl, rfl, answers.filterMap edit?, hspliced, hreplaced.symm⟩

end Redirector

end DirectImports
