import HybridQuery.Clause
import HybridQuery.Logged
import HybridQuery.Search.Escape

/-!
# Dialects of the search syntax

A `Dialect` says how each operator is written in a search query. Most put a token between
the column's name and the value. The others have a `Script`: it can have operands and whole
clauses rendered, sees what became of them, and ends in a text or an error. What it asks for
leaves its notes whether or not the text is used in the end. A script does not see how
placeholders are filled in.

`Dialect.standard` is the syntax of the search engine; `between`, `like` and `isIn` are its
three scripts.
-/

namespace HybridQuery

/-- A way to write a comparison in steps: what is rendered next, and how to go on with it. -/
inductive Script where
  | done (result : Except Error String)
  | operand (operand : Operand) (next : Except Error String → Script)
  | clause (clause : Clause) (next : Except Error String → Script)

namespace Script

/-- Refuse a parameter. -/
def refuse (fault : ParameterFault) : Script :=
  .done (.error (.invalidParameter fault))

/-- Go on with a text, or end in the error. -/
def onText (next : String → Script) : Except Error String → Script
  | .ok text => next text
  | .error e => .done (.error e)

/-- A text that ends in the rendered operand. -/
def withOperand (lead : String) (operand : Operand) : Script :=
  .operand operand (onText fun text => .done (.ok (lead ++ text)))

end Script

/-- How an operator is written. -/
inductive Form where
  /-- Between the column's name and the value. -/
  | token (text : String)
  | script (script : Column → Operand → Script)

/-- The forms of the operators that are known. -/
structure Dialect where
  form? : Operator → Option Form

namespace Dialect

/-- No operator is known. -/
def empty : Dialect :=
  ⟨fun _ => none⟩

/-- Write `operator` in this way from now on. -/
def insert (d : Dialect) (operator : Operator) (form : Form) : Dialect :=
  ⟨fun op => if op = operator then some form else d.form? op⟩

/-- `operator` is no longer known. -/
def erase (d : Dialect) (operator : Operator) : Dialect :=
  ⟨fun op => if op = operator then none else d.form? op⟩

/-- The form of an operator that has to be known. -/
def form (d : Dialect) (operator : Operator) : Except Error Form :=
  match d.form? operator with
  | some form => .ok form
  | none => .error (.unsupportedOperator operator)

end Dialect

/-! ## The scripts of the search engine's syntax -/

/-- `name:low /to/ high`, for two numbers. -/
def Script.between (c : Column) : Operand → Script
  | .list [low, high] =>
    if !low.isNumeric then refuse (.betweenKind c low.kind)
    else if !high.isNumeric then refuse (.betweenKind c high.kind)
    else
      .done do
        let low ← renderLiteral low
        let high ← renderLiteral high
        .ok (c.name ++ ":" ++ low ++ " /to/ " ++ high)
  | .list bounds => refuse (.betweenCount c bounds.length)
  | _ => refuse (.betweenWithoutList c)

/-- A regular expression match for a pattern, a phrase match for any other value. Phrases
and placeholders come quoted already. -/
def Script.like (c : Column) : Operand → Script
  | .literal (.pattern pattern) =>
    .done (.ok (c.name ++ ":~\"" ++ String.ofList (withoutQuotes pattern.source.toList) ++ "\""))
  | .literal (.phrase phrase) => withOperand (c.name ++ ":") (.literal (.phrase phrase))
  | .column other => withOperand (c.name ++ ":") (.column other)
  | .literal value =>
    .done do
      let text ← renderLiteral value
      .ok (c.name ++ ":\"" ++ text ++ "\"")
  | .list _ => refuse (.likeWithList c)

/-- `name:[a,b,c]`, for strings or for numbers but not for both. -/
def Script.isIn (c : Column) : Operand → Script
  | .list values =>
    if !values.isEmpty && (values.all Literal.isNumeric || values.all Literal.isString) then
      withOperand (c.name ++ ":") (.list values)
    else refuse (.inMixed c (values.map Literal.kind))
  | _ => refuse (.inWithoutList c)

/-- The syntax of the search engine. -/
def Dialect.standard : Dialect where
  form?
    | .eq => some (.token ":")
    | .ne => some (.token " != ")
    | .gt => some (.token " > ")
    | .gte => some (.token " >= ")
    | .lt => some (.token " < ")
    | .lte => some (.token " <= ")
    | .matches => some (.token ":@")
    | .isNot => some (.token " != ")
    | .between => some (.script Script.between)
    | .like => some (.script Script.like)
    | .isIn => some (.script Script.isIn)

theorem Dialect.isSome_form?_standard (op : Operator) :
    (Dialect.standard.form? op).isSome := by
  cases op <;> rfl

end HybridQuery
