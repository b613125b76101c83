import ClusterLifecycle.Proofs.BundleTexts

/-!
Templates written line by line. What such a template prints is the document that has, in every line,
what the expression there evaluates to; whatever the values are, the lines stay as they are.
-/

namespace ClusterLifecycle.Manifest

open Text Template

/-- What a line of a template gives to its name: a word, or the value of an expression. -/
inductive Slot where
  | word (w : String)
  | output (value : Expression)

def Slot.text : Slot → List Char
  | .word w => w.toList
  | .output _ => []

/-- The statements of lines, `pending` being the text that comes before them. -/
def statements (pending : List Char) : List (Line Slot) → List Statement
  | [] => [.plain pending]
  | line :: rest =>
    match line.content? with
    | some (.output value) =>
      .plain (pending ++ (line.map Slot.text).write) :: .output value :: statements ['\n'] rest
    | _ => statements (pending ++ ((line.map Slot.text).write ++ ['\n'])) rest

/-! ### Values -/

theorem ok_bind {α β ε : Type} (a : α) (f : α → Except ε β) : (Except.ok a >>= f) = f a := rfl

def fields (root : String) (line : Nat) (path : List String) : Expression :=
  path.foldl .field (.name root line)

/-- The value that fields lead to; there is none beyond a value that is not there. -/
def reach : Value → List String → Option Value
  | value, [] => some value
  | value, name :: path => if value.isUndefined then none else reach (value.field name) path

def look (scope : Scope) (root : String) (path : List String) : Option Value :=
  reach ((scope.lookup root).getD .undefined) path

theorem evaluate_foldl {scope : Scope} {path : List String} {record : Expression} {start value : Value}
    (evaluated : record.evaluate scope = .ok start) (found : reach start path = some value) :
    (path.foldl .field record).evaluate scope = .ok value := by
  induction path generalizing record start with
  | nil =>
    rw [reach, Option.some.injEq] at found
    rw [List.foldl_nil, evaluated, found]
  | cons name path ih =>
    rw [reach] at found
    split at found
    · cases found
    · next known =>
      refine ih ?_ found
      rw [Expression.evaluate, evaluated, ok_bind, Value.known, if_neg known, ok_bind]

theorem evaluate_fields {scope : Scope} {root : String} {path : List String} {value : Value}
    (found : look scope root path = some value) (line : Nat) :
    (fields root line path).evaluate scope = .ok value :=
  evaluate_foldl (by rw [Expression.evaluate]) found

/-- A text as JSON, with what means something in markup escaped, is a scalar on one line. -/
theorem toJson_string (s : String) : (Value.toJson (.string s)).toList = scalar s := by
  have escaped : (Json.quoted s).flatMap escapeMarkup = scalar s := by
    rw [Json.quoted, List.cons_append, List.flatMap_cons, List.flatMap_append, List.flatMap_assoc]
    rfl
  rw [Value.toJson, String.toList_ofList]
  exact escaped

theorem text_string (s : String) : (Value.string s).text = s.toList := by
  unfold Value.text
  rfl

theorem text_int (n : Nat) : (Value.int n).text = decimal n := by
  have written : (Value.int n).text = (String.ofList (decimal n)).toList := by
    unfold Value.text
    rfl
  rw [written, String.toList_ofList]

theorem text_bool (b : Bool) : (Value.bool b).text = (Content.truth b).shown := by
  unfold Value.text
  cases b <;> rfl

/-! ### Lines -/

def Content.ofText? : Option String → Content
  | none => .word "null"
  | some s => .text s

section Lines

variable (scope : Scope)

/-- The line of a document that a line of a template prints. -/
inductive Prints : Line Slot → Line Content → Prop
  | remark (text : String) : Prints (.remark text) (.remark text)
  | name (column : Nat) (first : Bool) (name : String) :
    Prints (.entry column first name none) (.entry column first name none)
  | word (column : Nat) (first : Bool) (name w : String) :
    Prints (.entry column first name (some (.word w))) (.entry column first name (some (.word w)))
  | output (column : Nat) (first : Bool) (name : String) {expression : Expression} {value : Value}
    {content : Content} (evaluated : expression.evaluate scope = .ok value)
    (known : value.isUndefined = false) (shown : value.text = content.shown) :
    Prints (.entry column first name (some (.output expression)))
      (.entry column first name (some content))

variable {scope} {before after : List Statement}

theorem renderAll_nil : Statement.renderAll scope [] = .ok (scope, []) := rfl

theorem renderAll_cons (statement : Statement) (rest : List Statement) :
    Statement.renderAll scope (statement :: rest) = (do
      let shown ← Statement.render scope statement
      let more ← Statement.renderAll shown.1 rest
      .ok (more.1, shown.2 ++ more.2)) := rfl

theorem renderAll_single (statement : Statement) :
    Statement.renderAll scope [statement] = Statement.render scope statement := by
  rw [renderAll_cons]
  cases Statement.render scope statement with
  | error fault => rfl
  | ok shown => rw [ok_bind, renderAll_nil, ok_bind, List.append_nil]

theorem renderAll_append : Statement.renderAll scope (before ++ after) =
    (Statement.renderAll scope before).bind fun first =>
      (Statement.renderAll first.1 after).map fun second => (second.1, first.2 ++ second.2) := by
  induction before generalizing scope with
  | nil =>
    rw [List.nil_append, renderAll_nil, Except.bind]
    cases Statement.renderAll scope after <;> rfl
  | cons statement before ih =>
    rw [List.cons_append, renderAll_cons, renderAll_cons]
    cases Statement.render scope statement with
    | error fault => rfl
    | ok shown =>
      obtain ⟨mid, text⟩ := shown
      simp only [ok_bind, ih]
      cases Statement.renderAll mid before with
      | error fault => rfl
      | ok shown =>
        obtain ⟨last, more⟩ := shown
        simp only [Except.bind, ok_bind]
        cases Statement.renderAll last after with
        | error fault => rfl
        | ok shown => exact congrArg (fun all => Except.ok (shown.1, all)) (List.append_assoc ..).symm

theorem renderAll_append_of_ok {mid final : Scope} {text more : List Char}
    (first : Statement.renderAll scope before = .ok (mid, text))
    (second : Statement.renderAll mid after = .ok (final, more)) :
    Statement.renderAll scope (before ++ after) = .ok (final, text ++ more) := by
  rw [renderAll_append, first, Except.bind, second, Except.map]

theorem render_plain (text : List Char) : Statement.render scope (.plain text) = .ok (scope, text) := rfl

theorem render_output (expression : Expression) :
    Statement.render scope (.output expression) = (do
      let value ← expression.evaluate scope
      let known ← value.known expression.line
      .ok (scope, known.text)) := rfl

theorem renderAll_plain (text : List Char) :
    Statement.renderAll scope [.plain text] = .ok (scope, text) := by
  rw [renderAll_single, render_plain]

theorem renderAll_output {expression : Expression} {value : Value}
    (evaluated : expression.evaluate scope = .ok value) (known : value.isUndefined = false) :
    Statement.renderAll scope [.output expression] = .ok (scope, value.text) := by
  rw [renderAll_single, render_output, evaluated, ok_bind, Value.known, if_neg (by simp [known]), ok_bind]

theorem renderAll_output_error {expression : Expression} {fault : Fault} (front : List Char)
    (failed : expression.evaluate scope = .error fault) (rest : List Statement) :
    Statement.renderAll scope (.plain front :: .output expression :: rest) = .error fault := by
  rw [renderAll_cons, render_plain, ok_bind, renderAll_cons, render_output, failed]
  rfl

theorem render_capture (name : String) (body : List Statement) :
    Statement.render scope (.capture name body) = (do
      let inner ← Statement.renderAll scope body
      .ok ((name, .string (String.ofList inner.2)) :: inner.1, [])) := rfl

theorem renderAll_capture_error {body : List Statement} {fault : Fault} (name : String)
    (failed : Statement.renderAll scope body = .error fault) (rest : List Statement) :
    Statement.renderAll scope (.capture name body :: rest) = .error fault := by
  rw [renderAll_cons, render_capture, failed]
  rfl

/-- The lines of a template print the document with the same lines. -/
theorem renderAll_statements {lines : List (Line Slot)} {document : List (Line Content)}
    (prints : List.Forall₂ (Prints scope) lines document) (pending : List Char) :
    Statement.renderAll scope (statements pending lines) =
      .ok (scope, pending ++ documentText document) := by
  induction prints generalizing pending with
  | nil =>
    rw [statements, renderAll_plain, documentText, List.flatMap_nil, List.append_nil]
  | @cons line shown lines document first _ ih =>
    have text : documentText (shown :: document) = shown.shown ++ ['\n'] ++ documentText document := rfl
    rw [text, statements]
    cases first with
    | remark text =>
      refine (ih _).trans ?_
      simp [Line.shown, Line.map]
    | name column first name =>
      refine (ih _).trans ?_
      simp [Line.shown, Line.map]
    | word column first name w =>
      refine (ih _).trans ?_
      simp [Line.shown, Line.map, Slot.text, Content.shown]
    | @output column first name expression value content evaluated known shows =>
      have front := @renderAll_plain scope (pending ++ Line.write (.entry column first name (some [])))
      have rendered := renderAll_append_of_ok front
        (renderAll_append_of_ok (renderAll_output evaluated known) (ih ['\n']))
      refine Eq.trans rendered ?_
      simp [shows, Line.shown, Line.map, Line.write, Line.given]

theorem renderAll_dropLast {text : List Char} (ends : before.getLast? = some (.plain ['\n']))
    (rendered : Statement.renderAll scope before = .ok (scope, text)) :
    ∃ shown, Statement.renderAll scope before.dropLast = .ok (scope, shown) ∧ shown ++ ['\n'] = text := by
  have parts : before.dropLast ++ [.plain ['\n']] = before :=
    List.dropLast_append_getLast? _ ends
  rw [← parts, renderAll_append] at rendered
  cases front : Statement.renderAll scope before.dropLast with
  | error fault => rw [front] at rendered; cases rendered
  | ok shown =>
    obtain ⟨mid, shown⟩ := shown
    rw [front, Except.bind, renderAll_plain, Except.map] at rendered
    obtain ⟨rfl, rfl⟩ := Prod.mk.inj (Except.ok.inj rendered)
    exact ⟨shown, rfl, rfl⟩

theorem renderAll_capture {scope after : Scope} {body : List Statement} {text : List Char} (name : String)
    (rendered : Statement.renderAll scope body = .ok (after, text)) :
    Statement.renderAll scope [.capture name body] =
      .ok ((name, .string (String.ofList text)) :: after, []) := by
  rw [renderAll_single, render_capture, rendered, ok_bind]

theorem render_choose (condition : Expression) (yes no : List Statement) :
    Statement.render scope (.choose condition yes no) = (do
      let value ← condition.evaluate scope
      if ← Expression.truth value condition.line then Statement.renderAll scope yes
      else Statement.renderAll scope no) := rfl

theorem renderAll_choose {condition : Expression} {b : Bool} (evaluated : condition.evaluate scope = .ok (.bool b))
    (yes no : List Statement) :
    Statement.renderAll scope [.choose condition yes no] = Statement.renderAll scope (if b then yes else no) := by
  have truth : Expression.truth (.bool b) condition.line = .ok b := rfl
  rw [renderAll_single, render_choose, evaluated, ok_bind, truth, ok_bind, ← apply_ite]

theorem mapM_of_ok {α β ε : Type} {f : α → Except ε β} {g : α → β} {items : List α}
    (each : ∀ item ∈ items, f item = .ok (g item)) : items.mapM f = .ok (items.map g) := by
  induction items with
  | nil => rfl
  | cons item items ih =>
    rw [List.mapM_cons, each item (by simp), ih fun other member => each other (by simp [member])]
    rfl

theorem render_each (name : String) (source : Expression) (body otherwise : List Statement) :
    Statement.render scope (.each name source body otherwise) = (do
      let value ← source.evaluate scope
      let found ← Statement.elements value source.line
      if found.isEmpty then Statement.renderAll scope otherwise
      else do
        let length? := if value.isCounted then some found.length else none
        let texts ← found.zipIdx.mapM fun pair => do
          let shown ← Statement.renderAll
            ((name, pair.1) :: ("loop", round pair.2 length?) :: scope) body
          .ok shown.2
        .ok (scope, texts.flatten)) := rfl

theorem renderAll_each (name : String) {source : Expression} {body : List Statement} {α : Type}
    {view : α → Value} {text : α → List Char} {items : List α}
    (found : source.evaluate scope = .ok (.list (items.map view)))
    (rendered : ∀ item index, ∃ after,
      Statement.renderAll ((name, view item) :: ("loop", round index (some items.length)) :: scope) body =
        .ok (after, text item)) :
    Statement.renderAll scope [.each name source body []] = .ok (scope, items.flatMap text) := by
  have known : Statement.elements (.list (items.map view)) source.line = .ok (items.map view) := rfl
  rw [renderAll_single, render_each, found, ok_bind, known, ok_bind]
  by_cases empty : items = []
  · rw [empty]
    rfl
  · have filled : (items.map view).isEmpty = false := by simpa using empty
    have counted : (Value.list (items.map view)).isCounted = true := rfl
    have each : ∀ pair ∈ items.zipIdx, (do
        let shown ← Statement.renderAll
          ((name, view pair.1) :: ("loop", round pair.2 (some (items.map view).length)) :: scope) body
        .ok shown.2) = (.ok (text pair.1) : Except Fault (List Char)) := by
      intro pair _
      obtain ⟨after, printed⟩ := rendered pair.1 pair.2
      rw [List.length_map, printed, ok_bind]
    have texts : ((items.map view).zipIdx.mapM fun pair => do
        let shown ← Statement.renderAll
          ((name, pair.1) :: ("loop", round pair.2 (some (items.map view).length)) :: scope) body
        .ok shown.2) = Except.ok (items.map text) := by
      rw [List.zipIdx_map, List.mapM_map]
      refine (mapM_of_ok each).trans ?_
      exact congrArg Except.ok (by rw [← Function.comp_def text, ← List.map_map, List.zipIdx_map_fst])
    simp only [filled, counted, if_true, Bool.false_eq_true, if_false, texts, ok_bind]
    rfl

/-! ### What lines give to their names -/

def quotation (root : String) (line : Nat) (path : List String) : Slot :=
  .output (.filter "tojson" (fields root line path) [])

def printed (root : String) (line : Nat) (path : List String) : Slot :=
  .output (fields root line path)

def orElse (root : String) (line : Nat) (name other : String) : Slot :=
  .output (.filter "default" (fields root line [name]) [fields root line [other]])

variable {root name : String} {path : List String} {column : Nat} {first : Bool}

theorem shown_toJson (s : String) :
    (Value.string (Value.string s).toJson).text = (Content.text s).shown := by
  rw [text_string, toJson_string]
  rfl

theorem Prints.text {s : String} (found : look scope root path = some (.string s)) (line : Nat) :
    Prints scope (.entry column first name (some (quotation root line path)))
      (.entry column first name (some (.text s))) := by
  refine .output column first name ?_ rfl (shown_toJson s)
  rw [Expression.evaluate, evaluate_fields found, ok_bind, Expression.evaluateAll, ok_bind]
  rfl

theorem Prints.text? {s : Option String} (found : look scope root path = some (.ofText? s)) (line : Nat) :
    Prints scope (.entry column first name (some (quotation root line path)))
      (.entry column first name (some (.ofText? s))) := by
  cases s with
  | some s => exact .text found line
  | none =>
    have evaluated : Expression.evaluate scope (.filter "tojson" (fields root line path) []) =
        .ok (.string Value.none.toJson) := by
      rw [Expression.evaluate, evaluate_fields found, ok_bind, Expression.evaluateAll, ok_bind]
      rfl
    exact .output column first name evaluated rfl (text_string _)

theorem Prints.count {n : UInt32} (found : look scope root path = some (.int n.toNat)) (line : Nat) :
    Prints scope (.entry column first name (some (printed root line path)))
      (.entry column first name (some (.count n))) :=
  .output column first name (evaluate_fields found line) rfl (text_int n.toNat)

theorem Prints.truth {b : Bool} (found : look scope root path = some (.bool b)) (line : Nat) :
    Prints scope (.entry column first name (some (printed root line path)))
      (.entry column first name (some (.truth b))) :=
  .output column first name (evaluate_fields found line) rfl (text_bool b)

theorem Prints.bound {n : UInt32} {bound : Option UInt32} {field other : String}
    (found : look scope root [field] = some (.ofCount? bound))
    (fallback : look scope root [other] = some (.int n.toNat)) (line : Nat) :
    Prints scope (.entry column first name (some (orElse root line field other)))
      (.entry column first name (some (.count (bound.getD n)))) := by
  have evaluated : Expression.evaluate scope
      (.filter "default" (fields root line [field]) [fields root line [other]]) =
        .ok (.int (bound.getD n).toNat) := by
    rw [Expression.evaluate, evaluate_fields found, ok_bind, Expression.evaluateAll,
      evaluate_fields fallback, ok_bind, Expression.evaluateAll, ok_bind, ok_bind]
    cases bound <;> rfl
  exact .output column first name evaluated rfl (text_int _)

end Lines

end ClusterLifecycle.Manifest
