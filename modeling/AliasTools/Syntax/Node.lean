import AliasTools.Number
import AliasTools.Syntax.Tree

/-!
# Nodes of any sort

Expressions, statements and their smaller parts under one type, with the nodes directly below each, in
the order in which they are written down in the tree; and all nodes, each before the nodes below it.
-/

namespace AliasTools.Syntax

/-! ## 1. Nodes -/

inductive Node where
  | stmt (s : Stmt)
  | expr (e : Expr)
  | clause (c : Clause)
  | keyword (k : Keyword)
  | param (p : Param)
  | params (p : Params)
  | handler (h : Handler)
  | matchCase (c : MatchCase)
  | pattern (p : Pattern)
  | withItem (w : WithItem)
  | importName (n : ImportName)

def Node.opt (e : Option Expr) : List Node := (e.map Node.expr).toList

def Expr.children : Expr → List Node
  | .boolOp _ _ vs => vs.map .expr
  | .namedExpr _ t v => [.expr t, .expr v]
  | .binOp _ l _ r => [.expr l, .expr r]
  | .unaryOp _ _ e => [.expr e]
  | .lambda _ ps b => [.params ps, .expr b]
  | .ifExp _ t b o => [.expr t, .expr b, .expr o]
  | .dict _ ks vs => ks.flatMap Node.opt ++ vs.map .expr
  | .set _ es => es.map .expr
  | .listComp _ e cs | .setComp _ e cs | .generatorExp _ e cs => .expr e :: cs.map .clause
  | .dictComp _ k v cs => .expr k :: .expr v :: cs.map .clause
  | .await _ e | .yieldFrom _ e => [.expr e]
  | .yield _ e => Node.opt e
  | .compare _ l _ rs => .expr l :: rs.map .expr
  | .call _ f args ks => .expr f :: args.map .expr ++ ks.map .keyword
  | .formattedValue _ v _ f => .expr v :: Node.opt f
  | .joinedStr _ vs => vs.map .expr
  | .constant _ _ => []
  | .attribute _ v _ _ => [.expr v]
  | .subscript _ v s _ => [.expr v, .expr s]
  | .starred _ v _ => [.expr v]
  | .name _ _ _ => []
  | .list _ es _ | .tuple _ es _ => es.map .expr
  | .slice _ l u s => Node.opt l ++ Node.opt u ++ Node.opt s

def Stmt.children : Stmt → List Node
  | .functionDef _ _ ps b ds r _ _ => .params ps :: b.map .stmt ++ ds.map .expr ++ Node.opt r
  | .classDef _ _ bs ks b ds => bs.map .expr ++ ks.map .keyword ++ b.map .stmt ++ ds.map .expr
  | .ret _ v => Node.opt v
  | .delete _ ts => ts.map .expr
  | .assign _ ts v _ => ts.map .expr ++ [.expr v]
  | .augAssign _ t _ v => [.expr t, .expr v]
  | .annAssign _ t h v _ => .expr t :: .expr h :: Node.opt v
  | .forLoop _ t i b o _ _ => .expr t :: .expr i :: b.map .stmt ++ o.map .stmt
  | .whileLoop _ t b o | .ifElse _ t b o => .expr t :: b.map .stmt ++ o.map .stmt
  | .withBlock _ is b _ _ => is.map .withItem ++ b.map .stmt
  | .matchOn _ s cs => .expr s :: cs.map .matchCase
  | .raise _ e c => Node.opt e ++ Node.opt c
  | .tryExcept _ b hs o f _ => b.map .stmt ++ hs.map .handler ++ o.map .stmt ++ f.map .stmt
  | .assert _ t m => .expr t :: Node.opt m
  | .importNames _ ns | .importFrom _ _ ns _ => ns.map .importName
  | .expr _ v => [.expr v]
  | .global _ _ | .nonlocal _ _ | .pass _ | .break _ | .continue _ => []

def Pattern.children : Pattern → List Node
  | .value _ e => [.expr e]
  | .singleton _ _ | .star _ _ => []
  | .sequence _ ps | .or _ ps => ps.map .pattern
  | .mapping _ ks ps _ => ks.map .expr ++ ps.map .pattern
  | .cls _ c ps _ kps => .expr c :: ps.map .pattern ++ kps.map .pattern
  | .bind _ p _ => (p.map Node.pattern).toList

def Params.children : Params → List Node
  | .mk po as va ko kd kw ds =>
    po.map .param ++ as.map .param ++ (va.map Node.param).toList ++ ko.map .param ++
      kd.flatMap Node.opt ++ (kw.map Node.param).toList ++ ds.map .expr

def Node.children : Node → List Node
  | .stmt s => s.children
  | .expr e => e.children
  | .clause (.mk t i cs _) => .expr t :: .expr i :: cs.map .expr
  | .keyword (.mk _ _ v) => [.expr v]
  | .param (.mk _ _ h _) => Node.opt h
  | .params ps => ps.children
  | .handler (.mk _ t _ b) => Node.opt t ++ b.map .stmt
  | .matchCase (.mk p g b) => .pattern p :: Node.opt g ++ b.map .stmt
  | .pattern p => p.children
  | .withItem w => .expr w.context :: Node.opt w.vars
  | .importName _ => []

def Node.span? : Node → Option Span
  | .stmt s => some s.span
  | .expr e => some e.span
  | .keyword (.mk sp _ _) => some sp
  | .param (.mk sp _ _ _) => some sp
  | .handler (.mk sp _ _ _) => some sp
  | .pattern p => some p.span
  | .importName n => some n.sp
  | .clause _ | .params _ | .matchCase _ | .withItem _ => none

def nodeLevels (acc : List (List Node)) (level : List Node) : Nat → List (List Node)
  | 0 => acc.reverse
  | k + 1 => if level.isEmpty then acc.reverse else nodeLevels (level :: acc) (level.flatMap Node.children) k

def levelBound : Nat := Number.twoTo 40

def walkNodes (top : List Node) : List Node := (nodeLevels [] top levelBound).flatten

def walkScript (body : List Stmt) : List Node := walkNodes (body.map .stmt)

/-! ## 2. Reading order -/

theorem Node.sizeOf_le_opt {c : Node} {e : Option Expr} (h : c ∈ Node.opt e) : sizeOf c ≤ sizeOf e := by
  cases e with
  | none => simp [Node.opt] at h
  | some e => simp [Node.opt] at h; subst h; simp

theorem Node.sizeOf_le_map {α : Type} [SizeOf α] {c : Node} {f : α → Node}
    (hf : ∀ a, sizeOf (f a) = 1 + sizeOf a) {l : List α} (h : c ∈ l.map f) :
    sizeOf c ≤ sizeOf l := by
  obtain ⟨a, ha, rfl⟩ := List.mem_map.1 h
  have := List.sizeOf_lt_of_mem ha
  rw [hf]; omega

theorem Node.sizeOf_le_optMap {α : Type} [SizeOf α] {c : Node} {f : α → Node}
    (hf : ∀ a, sizeOf (f a) = 1 + sizeOf a) {o : Option α} (h : c ∈ (o.map f).toList) :
    sizeOf c ≤ sizeOf o := by
  cases o with
  | none => simp at h
  | some a => simp at h; subst h; rw [hf]; simp

theorem Node.sizeOf_le_opts {c : Node} {es : List (Option Expr)} (h : c ∈ es.flatMap Node.opt) :
    sizeOf c ≤ sizeOf es := by
  obtain ⟨a, ha, hc⟩ := List.mem_flatMap.1 h
  have := List.sizeOf_lt_of_mem ha
  have := sizeOf_le_opt hc
  omega

theorem Node.sizeOf_lt_of_mem_children {c n : Node} (h : c ∈ n.children) : sizeOf c < sizeOf n := by
  have hx := @sizeOf_le_map _ _ c Node.expr (by simp)
  have hs := @sizeOf_le_map _ _ c Node.stmt (by simp)
  have hc := @sizeOf_le_map _ _ c Node.clause (by simp)
  have hk := @sizeOf_le_map _ _ c Node.keyword (by simp)
  have ha := @sizeOf_le_map _ _ c Node.param (by simp)
  have hh := @sizeOf_le_map _ _ c Node.handler (by simp)
  have hm := @sizeOf_le_map _ _ c Node.matchCase (by simp)
  have hp := @sizeOf_le_map _ _ c Node.pattern (by simp)
  have hw := @sizeOf_le_map _ _ c Node.withItem (by simp)
  have hi := @sizeOf_le_map _ _ c Node.importName (by simp)
  have hap := @sizeOf_le_optMap _ _ c Node.param (by simp)
  have hpp := @sizeOf_le_optMap _ _ c Node.pattern (by simp)
  have ho := @sizeOf_le_opt c
  have hos := @sizeOf_le_opts c
  cases n with
  | importName x => simp [Node.children] at h
  | stmt x | expr x | clause x | keyword x | param x | params x | handler x | matchCase x | pattern x | withItem x =>
    cases x <;> simp only [Node.children, Stmt.children, Expr.children, Params.children, Pattern.children,
      List.mem_cons, List.mem_append, List.not_mem_nil, or_false, List.cons_append] at h <;> simp <;> grind

def Node.preorder (n : Node) : List Node := n :: n.children.attach.flatMap fun ⟨c, _⟩ => c.preorder
termination_by sizeOf n
decreasing_by exact Node.sizeOf_lt_of_mem_children (by assumption)

def readScriptNodes (body : List Stmt) : List Node := body.flatMap fun s => (Node.stmt s).preorder

def targetNames : Expr → List String
  | .name _ id _ => [id]
  | .tuple _ es _ | .list _ es _ => targetsNames es
  | _ => []
where
  targetsNames : List Expr → List String
    | [] => []
    | e :: es => targetNames e ++ targetsNames es

def Params.names : Params → List String
  | .mk po as va ko _ kw _ =>
    po.map Param.name ++ as.map Param.name ++ (va.map Param.name).toList ++ ko.map Param.name ++
      (kw.map Param.name).toList

end AliasTools.Syntax
