import DirectImports.Proofs.Cache
import DirectImports.Transform

/-!
# The imports of a text, one after the other

Transforming a text hands its import declarations to the redirector in the order of the text, with
the barrels that the earlier ones left in the cache (`Redirector.Answers`). The edits and the
findings that come out are those of the answers, in the same order (`exists_answers_of_editItems`).
-/

namespace DirectImports

/-- The import that is handed to a redirector: a declaration and the statement that it makes. -/
def Source.Item.import? : Source.Item → Option (Source.ImportDeclaration × ImportStatement)
  | .importDeclaration declaration =>
    declaration.statement?.map fun statement => (declaration, statement)
  | _ => none

namespace Redirector

/-- The edit that an answer about a declaration calls for. -/
def edit? (answer : Source.ImportDeclaration × Redirection) : Option Edit :=
  match answer.2.outcome with
  | .untouched => none
  | .replaced statements => some (editOf answer.1 statements)

variable {redirector : Redirector} {fs : FileSystem} {path : Path} {cache after : BarrelCache}
  {done result : List Edit × List Diagnostic}

/-- One statement is passed over, or handed to the redirector, whose answer is added. -/
theorem run_editItem (redirector : Redirector) (fs : FileSystem) (path : Path)
    (done : List Edit × List Diagnostic) (item : Source.Item) (cache : BarrelCache) :
    (redirector.editItem fs path done item).run.run cache
      = match item.import? with
        | none => (.ok done, cache)
        | some (declaration, statement) =>
          match (redirector.redirect fs path statement).run.run cache with
          | (.ok redirection, after) =>
            (.ok (done.1 ++ (edit? (declaration, redirection)).toList,
              done.2 ++ redirection.diagnostics), after)
          | (.error error, after) => (.error error, after) := by
  unfold editItem Source.Item.import?
  cases item with
  | importDeclaration declaration =>
    simp only
    cases declaration.statement? with
    | none => rfl
    | some statement =>
      simp only [Option.map_some, run_run_bind]
      cases (redirector.redirect fs path statement).run.run cache with
      | mk answer between =>
        cases answer with
        | error error => rfl
        | ok redirection =>
          obtain ⟨outcome, diagnostics⟩ := redirection
          cases outcome with
          | untouched => simp [edit?]; rfl
          | replaced statements => rfl
  | _ => rfl

/-- The redirector's answers about the imports among some statements, in order. Each is given with
the barrels in the cache that those before it left. -/
inductive Answers (redirector : Redirector) (fs : FileSystem) (path : Path) :
    BarrelCache → List Source.Item → List (Source.ImportDeclaration × Redirection) →
      BarrelCache → Prop
  | done {cache : BarrelCache} : Answers redirector fs path cache [] [] cache
  | pass {cache after : BarrelCache} {item : Source.Item} {rest : List Source.Item}
      {answers : List (Source.ImportDeclaration × Redirection)} (hitem : item.import? = none)
      (hrest : Answers redirector fs path cache rest answers after) :
      Answers redirector fs path cache (item :: rest) answers after
  | ask {cache between after : BarrelCache} {item : Source.Item} {rest : List Source.Item}
      {declaration : Source.ImportDeclaration} {statement : ImportStatement}
      {redirection : Redirection} {answers : List (Source.ImportDeclaration × Redirection)}
      (hitem : item.import? = some (declaration, statement))
      (hanswer : (redirector.redirect fs path statement).run.run cache
        = (.ok redirection, between))
      (hrest : Answers redirector fs path between rest answers after) :
      Answers redirector fs path cache (item :: rest) ((declaration, redirection) :: answers) after

/-- If all statements are dealt with, the edits and findings are those of the answers. -/
theorem exists_answers_of_editItems {items : List Source.Item}
    (h : (items.foldlM (redirector.editItem fs path) done).run.run cache = (.ok result, after)) :
    ∃ answers, redirector.Answers fs path cache items answers after
      ∧ result = (done.1 ++ answers.filterMap edit?,
          done.2 ++ answers.flatMap (·.2.diagnostics)) := by
  induction items generalizing cache done with
  | nil =>
    cases h
    exact ⟨[], .done, by simp⟩
  | cons item rest ih =>
    rw [List.foldlM_cons, run_run_bind, run_editItem] at h
    cases himport : item.import? with
    | none =>
      rw [himport] at h
      obtain ⟨answers, hanswers, heq⟩ := ih h
      exact ⟨answers, .pass himport hanswers, heq⟩
    | some found =>
      obtain ⟨declaration, statement⟩ := found
      rw [himport] at h
      simp only at h
      cases hrun : (redirector.redirect fs path statement).run.run cache with
      | mk answer between =>
        rw [hrun] at h
        cases answer with
        | error error => cases h
        | ok redirection =>
          obtain ⟨answers, hanswers, heq⟩ := ih h
          refine ⟨(declaration, redirection) :: answers, .ask himport hrun hanswers, ?_⟩
          rw [heq]
          cases hedit : edit? (declaration, redirection) <;> simp [hedit]

end Redirector

end DirectImports
