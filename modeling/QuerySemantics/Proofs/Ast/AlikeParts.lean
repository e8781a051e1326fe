import QuerySemantics.Proofs.Ast.AlikeReading
import QuerySemantics.Proofs.Ast.Parts

/-!
# Parts of alike pieces

Alike pieces have alike parts and alike operands, are recorded both or neither, and are both properties
without a name or neither.

## Main results

* `Piece.Alike.parts`, `Piece.Alike.operands`, `Piece.Alike.core`: the parts, the operands and the cores of
  alike pieces.
* `Piece.Alike.isRecorded_eq`, `Piece.Alike.isNameless_eq`, `Piece.Alike.isEmptyNest_eq`: what alike pieces
  are, both or neither.
-/

set_option autoImplicit false

/-- Optional values that are related are related as lists. -/
theorem Option.Rel.toList {α β : Type} {related : α → β → Prop} {it : Option α} {it' : Option β}
    (h : Option.Rel related it it') : List.Forall₂ related it.toList it'.toList := by
  cases h with
  | none => exact .nil
  | some h => exact .cons h .nil

namespace QuerySemantics

open Ast

namespace Piece

variable {like : Likeness} {piece piece' : Piece}

section Lists

variable {α : Type} {related : α → α → Prop} (wrap : α → Piece)
  (hwrap : ∀ {it it'}, related it it' → (wrap it).Alike like (wrap it'))
include hwrap

/-- Parts that are wrapped one by one. -/
theorem map_alike {items items' : List α} (h : List.Forall₂ related items items') :
    List.Forall₂ (Alike like) (items.map wrap) (items'.map wrap) :=
  List.rel_map (fun _ _ hit => hwrap hit) h

/-- A part that may be missing. -/
theorem map_toList_alike {it it' : Option α} (h : Option.Rel related it it') :
    List.Forall₂ (Alike like) (it.toList.map wrap) (it'.toList.map wrap) :=
  map_alike wrap hwrap h.toList

end Lists

/-- An expression that may be missing is as the other one. -/
theorem ofExpr?_alike {it it' : Option Expr} (h : Option.Rel (Expr.Alike like) it it') :
    List.Forall₂ (Alike like) (ofExpr? it) (ofExpr? it') :=
  map_toList_alike .expr .expr h

/-- A query that may be missing is as the other one. -/
theorem ofQuery?_alike {it it' : Option Query} (h : Option.Rel (Query.Alike like) it it') :
    List.Forall₂ (Alike like) (ofQuery? it) (ofQuery? it') :=
  map_toList_alike .query .query h

/-- A table reference that may be missing is as the other one. -/
theorem ofTable?_alike {it it' : Option TableRef} (h : Option.Rel (TableRef.Alike like) it it') :
    List.Forall₂ (Alike like) (ofTable? it) (ofTable? it') :=
  map_toList_alike .table .table h

/-- Alike conditions stand at corresponding nodes, which are of one kind. -/
theorem Alike.ofCondition {it it' : Condition} (h : it.Alike like it') :
    (Piece.condition it).Alike like (.condition it') := by
  refine .condition ?_ h
  cases h with
  | mk hinfo _ => exact like.kind_eq hinfo

namespace Alike

/-- **Alike pieces have alike parts.** -/
theorem parts (h : piece.Alike like piece') : List.Forall₂ (Alike like) piece.parts piece'.parts := by
  cases h with
  | unit _ hquery hexpression => exact List.rel_append (ofQuery?_alike hquery) (ofExpr?_alike hexpression)
  | expr h =>
    cases h with
    | name | parameter | literal | countAll => exact .nil
    | unary _ _ hoperand | cast _ hoperand | isNull _ hoperand => exact ofExpr?_alike hoperand
    | parenthesized _ hinner => exact ofExpr?_alike hinner
    | property _ htarget => exact ofExpr?_alike htarget
    | binary _ hleft _ hright => exact List.rel_append (ofExpr?_alike hleft) (ofExpr?_alike hright)
    | method _ htarget _ harguments =>
      exact List.rel_append (ofExpr?_alike htarget) (map_toList_alike .arguments .arguments harguments)
    | call _ _ harguments => exact map_toList_alike .arguments .arguments harguments
    | cases _ hinput hlabels hotherwise =>
      exact List.rel_append (List.rel_append (ofExpr?_alike hinput)
        (map_alike .caseLabel .caseLabel hlabels)) (ofExpr?_alike hotherwise)
    | subselect _ hquery | existence _ hquery => exact ofQuery?_alike hquery
    | quantified _ hleft _ hquery => exact List.rel_append (ofExpr?_alike hleft) (ofQuery?_alike hquery)
  | query h =>
    cases h with
    | select _ hhead hsource hfilter hgrouping hhaving =>
      exact List.rel_append (List.rel_append (List.rel_append (List.rel_append
        (map_toList_alike .fromClause .fromClause hsource)
        (map_toList_alike .condition .ofCondition hfilter))
        (map_toList_alike .groupBy .groupBy hgrouping))
        (map_toList_alike .condition .ofCondition hhaving))
        (map_toList_alike .selectClause .selectClause hhead)
    | combined _ hleft hright => exact List.rel_append (ofQuery?_alike hleft) (ofQuery?_alike hright)
    | ordered _ hinput hitems =>
      exact List.rel_append (ofQuery?_alike hinput) (map_alike .orderItem .orderItem hitems)
    | withTables _ htables hbody =>
      exact List.rel_append (map_alike .commonTable .commonTable htables) (ofQuery?_alike hbody)
    | parenthesized _ hinner => exact ofQuery?_alike hinner
  | table h =>
    cases h with
    | named => exact .nil
    | derived _ hquery => exact ofQuery?_alike hquery
    | joined _ hleft hright hcondition =>
      exact List.rel_append (List.rel_append (ofTable?_alike hleft) (ofTable?_alike hright))
        (map_toList_alike .condition .ofCondition hcondition)
    | parenthesized _ hinner => exact ofTable?_alike hinner
  | selectItem h =>
    cases h with
    | column _ hvalue => exact ofExpr?_alike hvalue
    | wildcard => exact .nil
  | selectClause h =>
    cases h with
    | mk _ _ hitems => exact map_alike .selectItem .selectItem hitems
  | fromClause h =>
    cases h with
    | mk _ htables => exact map_alike .table .table htables
  | condition _ h =>
    cases h with
    | mk _ hpredicate => exact ofExpr?_alike hpredicate
  | groupBy h =>
    cases h with
    | mk _ hkeys => exact map_alike .expr .expr hkeys
  | orderItem h =>
    cases h with
    | mk _ hkey => exact ofExpr?_alike hkey
  | commonTable h =>
    cases h with
    | mk _ _ _ hquery => exact ofQuery?_alike hquery
  | arguments h =>
    cases h with
    | mk _ hitems => exact map_alike .expr .expr hitems
  | caseLabel h =>
    cases h with
    | mk _ hcondition hresult => exact List.rel_append (ofExpr?_alike hcondition) (ofExpr?_alike hresult)
  | token | top | aliasClause | columnNames | typeName | other => exact .nil

/-- Alike pieces are both clauses or neither. -/
theorem isClause_eq (h : piece.Alike like piece') : piece'.isClause = piece.isClause := by
  cases h <;> rfl

/-- **Alike pieces have alike operands.** -/
theorem operands (h : piece.Alike like piece') :
    List.Forall₂ (Alike like) piece.operands piece'.operands := by
  refine List.rel_flatMap h.parts fun part part' hpart => ?_
  rw [hpart.isClause_eq]
  split
  · exact hpart.parts
  · exact .cons hpart .nil

/-- What stands inside the parentheses of alike pieces is alike. -/
theorem core (h : piece.Alike like piece') : piece.core.Alike like piece'.core := by
  cases h with
  | expr h => exact .expr h.core
  | query h => exact .query h.core
  | table h => exact .table h.core
  | _ => constructor <;> assumption

/-- Alike pieces are read from corresponding nodes. -/
theorem info? (h : piece.Alike like piece') : Option.Rel like.info piece.info? piece'.info? := by
  cases h with
  | unit h | other h => exact .some h
  | expr h | query h | table h | top h | aliasClause h | columnNames h | typeName h => exact .some h.info
  | selectItem h | selectClause h | fromClause h | condition _ h | groupBy h | orderItem h
  | commonTable h | arguments h | caseLabel h => cases h <;> exact .some ‹_›
  | token => exact .none

/-- Alike pieces are both properties without a name or neither. -/
theorem isNameless_eq (h : piece.Alike like piece') : piece'.isNameless = piece.isNameless := by
  cases h with
  | expr h =>
    cases h with
    | property _ _ hident => cases hident <;> rfl
    | _ => rfl
  | _ => rfl

/-- Alike pieces are both recorded or neither. -/
theorem isRecorded_eq (h : piece.Alike like piece') : piece'.isRecorded = piece.isRecorded := by
  cases h with
  | expr h | query h | table h => cases h <;> rfl
  | _ => rfl

/-- Alike pieces are both nests of parentheses with nothing inside or neither. -/
theorem isEmptyNest_eq (h : piece.Alike like piece') : piece'.isEmptyNest = piece.isEmptyNest := by
  cases h with
  | @expr it it' h | @query it it' h | @table it it' h =>
    have hcore := h.core
    unfold isEmptyNest
    dsimp only
    generalize it.core = core, it'.core = core' at hcore ⊢
    cases hcore <;> rfl
  | _ => rfl

end Alike

end Piece

end QuerySemantics
