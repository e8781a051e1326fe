import Mathlib.Data.List.Forall2
import QuerySemantics.Binding.Call
import QuerySemantics.Binding.Expression
import QuerySemantics.Proofs.Scope.Sound

/-!
# Sound bound trees

What a bound tree without errors looks like. Each form has its own rule for the types of its parts;
beyond that, nothing refers to a placeholder and everything has a known type. A tree is sound if this
holds everywhere in it.

## Main definitions

* `Bound.Node.parts`: the bound nodes that a bound node consists of.
* `Bound.Expr.Obeys`, `Bound.Query.Obeys`: the typing rules of expressions and queries.
* `Bound.Node.Typed`: a node follows its rule, refers to no placeholder and has a known type.
* `Bound.Node.Sound`: a node and everything below it is typed.

## Main results

* `Bound.TableRef.Sound.instances`: a sound table reference introduces sound instances.
* `Bound.Accepts.of_conversions?`: an overload that applies accepts the arguments.
-/

set_option autoImplicit false

namespace QuerySemantics

namespace Bound

/-! ## Parts -/

/-- The key of an `ORDER BY` entry. -/
def OrderKey.key : OrderKey → Expr
  | .mk key _ => key

/-- The bound nodes that an expression consists of. -/
def Expr.parts : Expr → List Node
  | .name _ | .parameter _ | .literal _ _ | .slot _ => []
  | .unary _ operand _ => [.expr operand]
  | .binary left _ right _ => [.expr left, .expr right]
  | .call _ arguments _ => arguments.map .expr
  | .aggregate _ argument _ => argument.toList.map .expr
  | .property target _ => [.expr target]
  | .method target _ arguments => .expr target :: arguments.map .expr
  | .cast operand _ _ _ => [.expr operand]
  | .isNull operand _ => [.expr operand]
  | .cases input labels otherwise _ =>
    input.toList.map .expr ++ labels.map .caseLabel ++ otherwise.toList.map .expr
  | .subselect query _ => [.query query]
  | .existence query => [.query query]
  | .quantified left _ _ query => [.expr left, .query query]

/-- The bound nodes that a table reference consists of. -/
def TableRef.parts : TableRef → List Node
  | .named _ => []
  | .derived _ query => [.query query]
  | .joined left _ right condition => .table left :: .table right :: condition.toList.map .expr

/-- The bound nodes that a query consists of. -/
def Query.parts : Query → List Node
  | .select _ tables filter grouping having items =>
    tables.map .table ++ filter.toList.map .expr ++ grouping.map .expr ++
      having.toList.map .expr ++ items.map .selectItem
  | .combined left _ right _ => [.query left, .query right]
  | .ordered input keys => .query input :: keys.map fun it => .expr it.key
  | .withTables definitions body => definitions.map .definition ++ [.query body]
  | .top input _ _ => [.query input]

/-- **Parts** of a bound node. -/
def Node.parts : Node → List Node
  | .expr it => it.parts
  | .query it => it.parts
  | .table it => it.parts
  | .selectItem (.column value _) => [.expr value]
  | .selectItem (.wildcard _ _) => []
  | .caseLabel (.mk condition result) => [.expr condition, .expr result]
  | .definition (.mk _ body) => [.query body]

/-! ## Rules -/

/-- **Acceptance**: arguments convert one for one to parameters. -/
def Accepts (parameters : List Parameter) (arguments : List Expr) : Prop :=
  List.Forall₂ (fun argument parameter =>
    (Conversion.classify argument.type parameter.type).isPossible = true) arguments parameters

/-- **An overload that applies** accepts the arguments. -/
theorem Accepts.of_conversions? {parameters : List Parameter} {arguments : List Expr}
    (h : (Overload.conversions? (arguments.map Expr.type)
      (Binding.parameterTypes parameters)).isSome = true) : Accepts parameters arguments := by
  induction arguments generalizing parameters with
  | nil =>
    cases parameters with
    | nil => exact .nil
    | cons parameter rest => cases h
  | cons argument others ih =>
    cases parameters with
    | nil => cases h
    | cons parameter rest =>
      simp only [Binding.parameterTypes, List.map_cons, Overload.conversions?] at h
      split at h
      · rename_i hpossible
        rw [Option.isSome_map] at h
        exact .cons hpossible (ih h)
      · cases h

/-- An aggregate takes its argument, or whole rows if it has none, and gives a type. -/
def Takes (signature : AggregateSignature) (argument : Option Expr) (type : SqlType) : Prop :=
  match argument with
  | some it => signature.returns? it.type = some type
  | none => Binding.rowResult? signature = some type

/-- **A condition** is a truth value, if it is there. -/
def IsCondition (condition : Option Expr) : Prop :=
  ∀ it ∈ condition, it.type.convertsTo .boolean = true

/-- The condition of a label fits its `CASE`: it is compared with the operand, and without one it is
a truth value. -/
def Fits (input : Option Expr) (condition : Expr) : Prop :=
  match input with
  | some it => (it.type.common? condition.type).isSome = true
  | none => condition.type.convertsTo .boolean = true

/-- **Typing rule** of an expression: what its form asks of the types of its parts, and which type it
gets from them. -/
def Expr.Obeys : Expr → Prop
  | .literal value type => type = value.type
  | .unary operator operand type => operator.result? operand.type = some type
  | .binary left operator right type => operator.result? left.type right.type = some type
  | .call symbol arguments type =>
    ∃ it, symbol = .function it ∧ Accepts it.parameters arguments ∧ type = it.returns
  | .aggregate symbol argument type =>
    ∃ it, symbol = .aggregate it ∧ Takes it.signature argument type
  | .method _ symbol arguments => ∃ it, symbol = .method it ∧ Accepts it.parameters arguments
  | .property _ symbol => ∃ it, symbol = .property it
  | .cast operand target conversion type =>
    conversion = .classify operand.type target ∧ conversion.isPossible = true ∧ type = target
  | .cases input labels otherwise type =>
    (∀ label ∈ labels, Fits input label.condition) ∧
      Binding.mergeBranches (Binding.branchTypes labels otherwise) = .ok type
  | .subselect query type => ∃ column, query.output = [column] ∧ type = column.type
  | .quantified left operator _ query =>
    ∃ column, query.output = [column] ∧ (operator.result? left.type column.type).isSome = true
  | .name _ | .parameter _ | .isNull _ _ | .existence _ | .slot _ => True

/-- **Typing rule** of a query: conditions are truth values, and the sides of a set operation have
equally many columns, with a common type pair by pair. -/
def Query.Obeys : Query → Prop
  | .select _ _ filter _ having _ => IsCondition filter ∧ IsCondition having
  | .combined left _ right _ =>
    List.Forall₂ (fun (left right : QueryColumn) => (left.type.common? right.type).isSome = true)
      left.output right.output
  | .ordered _ _ | .withTables _ _ | .top _ _ _ => True

/-! ## Soundness -/

/-- **A typed expression** refers to no placeholder, has a known type and follows its rule. -/
structure Expr.Typed (it : Expr) : Prop where
  symbol : ∀ symbol, it.symbol? = some symbol → symbol.Sound
  type : it.type.Known
  rule : it.Obeys

/-- **A typed query** puts out columns of known types and follows its rule. -/
structure Query.Typed (it : Query) : Prop where
  output : QueryColumn.AllKnown it.output
  rule : it.Obeys

/-- **A typed node**: what soundness asks of a node apart from its parts. -/
def Node.Typed : Node → Prop
  | .expr it => it.Typed
  | .query it => it.Typed
  | .table (.named it) | .table (.derived it _) => it.Sound
  | .table (.joined _ _ _ condition) => IsCondition condition
  | .selectItem (.column _ column) => column.type.Known
  | .selectItem (.wildcard qualifier columns) =>
    (∀ it ∈ qualifier, it.Sound) ∧ ∀ it ∈ columns, it.owner.Sound ∧ it.output.type.Known
  | .caseLabel _ => True
  | .definition it => it.symbol.Sound

/-- **A sound node**: it is typed, and so is everything below it. -/
inductive Node.Sound : Node → Prop where
  | intro {node : Node} : node.Typed → (∀ part ∈ node.parts, part.Sound) → node.Sound

/-- A sound expression. -/
abbrev Expr.Sound (it : Expr) : Prop :=
  (Node.expr it).Sound

/-- A sound query. -/
abbrev Query.Sound (it : Query) : Prop :=
  (Node.query it).Sound

/-- A sound table reference. -/
abbrev TableRef.Sound (it : TableRef) : Prop :=
  (Node.table it).Sound

/-- A sound node is typed. -/
theorem Node.Sound.typed {node : Node} : node.Sound → node.Typed
  | .intro h _ => h

/-- The parts of a sound node are sound. -/
theorem Node.Sound.part {node part : Node} : node.Sound → part ∈ node.parts → part.Sound
  | .intro _ h, hpart => h part hpart

/-- An expression that refers to nothing, is typed and has sound parts is sound. -/
theorem Node.Sound.plain {it : Expr} (hsymbol : it.symbol? = none) (htype : it.type.Known)
    (hrule : it.Obeys) (hparts : ∀ part ∈ it.parts, part.Sound) : it.Sound :=
  .intro ⟨(fun _ h => nomatch hsymbol.symm.trans h), htype, hrule⟩ hparts

/-- An expression that refers to a sound symbol, is typed and has sound parts is sound. -/
theorem Node.Sound.reference {it : Expr} {symbol : Symbol} (hsymbol : it.symbol? = some symbol)
    (hsound : symbol.Sound) (htype : it.type.Known) (hrule : it.Obeys)
    (hparts : ∀ part ∈ it.parts, part.Sound) : it.Sound :=
  .intro ⟨fun _ h => Option.some.inj (hsymbol.symm.trans h) ▸ hsound, htype, hrule⟩ hparts

/-- A sound expression has a known type. -/
theorem Node.Sound.type {it : Expr} (h : it.Sound) : it.type.Known :=
  h.typed.type

/-- A sound query puts out columns of known types. -/
theorem Node.Sound.output {it : Query} (h : it.Sound) : QueryColumn.AllKnown it.output :=
  h.typed.output

/-- **A sound table reference** introduces sound instances. -/
theorem TableRef.Sound.instances : {it : TableRef} → it.Sound → ∀ table ∈ it.instances, table.Sound
  | .named _, h => List.forall_mem_singleton.2 h.typed
  | .derived _ _, h => List.forall_mem_singleton.2 h.typed
  | .joined left kind right condition, h => by
    have hleft : left.Sound := h.part List.mem_cons_self
    have hright : right.Sound := h.part (List.mem_cons_of_mem _ List.mem_cons_self)
    intro table htable
    rcases List.mem_append.1 htable with htable | htable
    · exact TableRef.Sound.instances hleft table htable
    · exact TableRef.Sound.instances hright table htable

/-- The output columns of a sound entry of a select list are of known types. -/
theorem SelectItem.output_known {item : SelectItem} (h : (Node.selectItem item).Sound) :
    QueryColumn.AllKnown item.output := by
  cases item with
  | column value column => exact List.forall_mem_singleton.2 h.typed
  | wildcard table columns =>
    intro column hcolumn
    obtain ⟨it, hit, rfl⟩ := List.mem_map.1 hcolumn
    exact (h.typed.2 it hit).2

/-- The query without columns is sound. -/
theorem Query.sound_empty : Query.empty.Sound :=
  .intro ⟨by simp [QueryColumn.AllKnown, Query.empty, Query.output], nofun, nofun⟩
    (by simp [Node.parts, Query.empty, Query.parts])

end Bound

end QuerySemantics
