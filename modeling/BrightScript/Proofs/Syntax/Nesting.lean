import BrightScript.Proofs.Syntax.Taking
import BrightScript.Syntax.Grammar

/-!
The places of the parts of a program. Each part begins and ends with a token, holds the parts below
it, and these follow each other in the order of the source text. What is read is described by the
tokens that were taken for it: the place of a part is a stretch of them.
-/

open BrightScript.Parser

namespace BrightScript

namespace Span

/-- A place holds another one. -/
def Encloses (outer inner : Span) : Prop := outer.start ≤ inner.start ∧ inner.stop ≤ outer.stop

/-- A place ends before another one begins, or where it begins. -/
def Precedes (left right : Span) : Prop := left.stop ≤ right.start

/-- A place begins where a token begins and ends where one ends. -/
structure Delimited (span : Span) (lexemes : List Lexeme) : Prop where
  start_le_stop : span.start ≤ span.stop
  start_mem : ∃ lexeme ∈ lexemes, lexeme.span.start = span.start
  stop_mem : ∃ lexeme ∈ lexemes, lexeme.span.stop = span.stop

theorem Delimited.mono {span : Span} {lexemes others : List Lexeme} (h : span.Delimited lexemes)
    (hsubset : lexemes ⊆ others) : span.Delimited others := by
  obtain ⟨first, hfirst, hstart⟩ := h.start_mem
  obtain ⟨last, hlast, hstop⟩ := h.stop_mem
  exact ⟨h.start_le_stop, ⟨first, hsubset hfirst, hstart⟩, last, hsubset hlast, hstop⟩

end Span

/-- Tokens follow each other in a source text. -/
structure InOrder (lexemes : List Lexeme) : Prop where
  start_le_stop : ∀ lexeme ∈ lexemes, lexeme.span.start ≤ lexeme.span.stop
  precedes : lexemes.IsChain fun left right => left.span.Precedes right.span

namespace InOrder

variable {lexemes others : List Lexeme}

theorem pairwise (horder : InOrder lexemes) :
    lexemes.Pairwise fun left right => left.span.Precedes right.span := by
  obtain ⟨hvalid, hchain⟩ := horder
  induction hchain with
  | nil => exact .nil
  | singleton => exact List.pairwise_singleton _ _
  | @cons_cons first second rest hfirst hrest ih =>
      rw [List.forall_mem_cons] at hvalid
      have hpairwise := ih hvalid.2
      refine List.pairwise_cons.mpr ⟨List.forall_mem_cons.mpr ⟨hfirst, fun later hlater => ?_⟩,
        hpairwise⟩
      have hsecond := hvalid.2 second List.mem_cons_self
      exact hfirst.trans (hsecond.trans ((List.pairwise_cons.mp hpairwise).1 later hlater))

theorem left (horder : InOrder (lexemes ++ others)) : InOrder lexemes :=
  ⟨fun lexeme hlexeme => horder.start_le_stop lexeme (List.mem_append_left _ hlexeme),
    horder.precedes.left_of_append⟩

theorem right (horder : InOrder (lexemes ++ others)) : InOrder others :=
  ⟨fun lexeme hlexeme => horder.start_le_stop lexeme (List.mem_append_right _ hlexeme),
    horder.precedes.right_of_append⟩

theorem precedes_of_append (horder : InOrder (lexemes ++ others)) {before after : Lexeme}
    (hbefore : before ∈ lexemes) (hafter : after ∈ others) : before.span.Precedes after.span :=
  (List.pairwise_append.mp horder.pairwise).2.2 before hbefore after hafter

theorem cover_encloses (horder : InOrder lexemes) {lexeme : Lexeme} (hlexeme : lexeme ∈ lexemes) :
    (cover lexemes).Encloses lexeme.span := by
  have hlexeme_valid := horder.start_le_stop lexeme hlexeme
  constructor
  · cases lexemes with
    | nil => cases hlexeme
    | cons first rest =>
        rcases List.mem_cons.mp hlexeme with rfl | hrest
        · exact Nat.le_refl _
        · have hfirst := horder.start_le_stop first List.mem_cons_self
          exact hfirst.trans ((List.pairwise_cons.mp horder.pairwise).1 lexeme hrest)
  · cases lexemes using List.reverseRecOn with
    | nil => cases hlexeme
    | append_singleton rest last =>
        have hstop : (cover (rest ++ [last])).stop = last.span.stop := by
          rw [cover, List.getLast?_concat]
          rfl
        rw [hstop]
        rcases List.mem_append.mp hlexeme with hrest | hlast
        · have hprecedes := horder.precedes_of_append hrest (List.mem_singleton_self last)
          exact hprecedes.trans (horder.start_le_stop last (List.mem_append_right _
            (List.mem_singleton_self last)))
        · rw [List.mem_singleton.mp hlast]

theorem delimited_cover (horder : InOrder lexemes) (hne : lexemes ≠ []) :
    (cover lexemes).Delimited lexemes := by
  obtain ⟨first, hfirst⟩ := List.exists_mem_of_ne_nil lexemes hne
  refine ⟨?_, ⟨lexemes.head hne, List.head_mem hne, ?_⟩, lexemes.getLast hne,
    List.getLast_mem hne, ?_⟩
  · have hencloses := horder.cover_encloses hfirst
    exact hencloses.1.trans ((horder.start_le_stop first hfirst).trans hencloses.2)
  · rw [cover, List.head?_eq_some_head hne]
    rfl
  · rw [cover, List.getLast?_eq_some_getLast hne]
    rfl

end InOrder

theorem cover_append {front back : List Lexeme} (hfront : front ≠ []) (hback : back ≠ []) :
    cover (front ++ back) = ⟨(cover front).start, (cover back).stop⟩ := by
  rw [cover, List.head?_append_of_ne_nil _ hfront, List.getLast?_append_of_ne_nil _ hback]
  rfl

/-- A part of a program that has a place. -/
inductive SyntaxNode where
  | expression (value : Expression)
  | statement (value : Statement)

namespace SyntaxNode

/-- The place of a part. -/
def span : SyntaxNode → Span
  | .expression value => value.span
  | .statement value => value.span

end SyntaxNode

def Expression.parts : Expression → List SyntaxNode
  | .literal _ _ | .variable _ _ => []
  | .array _ items => items.map .expression
  | .table _ entries => entries.map fun entry => .expression entry.2
  | .call _ callee arguments => .expression callee :: arguments.map .expression
  | .member _ object _ => [.expression object]
  | .binary _ _ left right => [.expression left, .expression right]
  | .unary _ _ operand => [.expression operand]

def branchParts (branch : Expression × List Statement) : List SyntaxNode :=
  .expression branch.1 :: branch.2.map .statement

def Statement.parts : Statement → List SyntaxNode
  | .library _ _ => []
  | .print _ values => values.map .expression
  | .assign _ _ value => [.expression value]
  | .assignMember _ object _ value => [.expression object, .expression value]
  | .expression _ value => [.expression value]
  | .conditional _ branches otherwise =>
    branches.flatMap branchParts ++ (otherwise.getD []).map .statement
  | .function _ _ _ body _ => body.map .statement
  | .return _ value => value.toList.map .expression
  | .component _ _ _ fields => fields.map fun field => .expression field.2

namespace SyntaxNode

/-- The parts directly below a part. -/
def parts : SyntaxNode → List SyntaxNode
  | .expression value => value.parts
  | .statement value => value.parts

/-- The place of a part is made of whole tokens and holds the places of the parts below it, which
follow each other; and so for these. -/
inductive Nested (lexemes : List Lexeme) : SyntaxNode → Prop
  | intro {node : SyntaxNode} (hspan : node.span.Delimited lexemes)
      (hinside : ∀ part ∈ node.parts, node.span.Encloses part.span)
      (horder : node.parts.Pairwise fun left right => left.span.Precedes right.span)
      (hparts : ∀ part ∈ node.parts, part.Nested lexemes) : Nested lexemes node

theorem Nested.delimited {lexemes : List Lexeme} {node : SyntaxNode} (h : node.Nested lexemes) :
    node.span.Delimited lexemes := by
  cases h with
  | intro hspan => exact hspan

theorem Nested.mono {lexemes others : List Lexeme} {node : SyntaxNode} (h : node.Nested lexemes)
    (hsubset : lexemes ⊆ others) : node.Nested others := by
  induction h with
  | intro hspan hinside horder _ ih => exact .intro (hspan.mono hsubset) hinside horder ih

end SyntaxNode

/-- Parts stand one after the other in tokens, if these are in order. -/
def Laid (lexemes : List Lexeme) (nodes : List SyntaxNode) : Prop :=
  InOrder lexemes → (∀ node ∈ nodes, node.Nested lexemes) ∧
    nodes.Pairwise fun left right => left.span.Precedes right.span

namespace Laid

variable {lexemes others : List Lexeme} {nodes more : List SyntaxNode}

theorem nil (lexemes : List Lexeme) : Laid lexemes [] := fun _ => ⟨List.forall_mem_nil _, .nil⟩

theorem append (hfirst : Laid lexemes nodes) (hsecond : Laid others more) :
    Laid (lexemes ++ others) (nodes ++ more) := by
  intro horder
  obtain ⟨hnodes, hpairwise⟩ := hfirst horder.left
  obtain ⟨hmore, hpairwise'⟩ := hsecond horder.right
  refine ⟨List.forall_mem_append.mpr ⟨fun node hnode => ?_, fun node hnode => ?_⟩,
    List.pairwise_append.mpr ⟨hpairwise, hpairwise', fun node hnode next hnext => ?_⟩⟩
  · exact (hnodes node hnode).mono (List.subset_append_left _ _)
  · exact (hmore node hnode).mono (List.subset_append_right _ _)
  · obtain ⟨last, hlast, hstop⟩ := (hnodes node hnode).delimited.stop_mem
    obtain ⟨first, hfirst, hstart⟩ := (hmore next hnext).delimited.start_mem
    rw [Span.Precedes, ← hstop, ← hstart]
    exact horder.precedes_of_append hlast hfirst

theorem before (h : Laid lexemes nodes) (others : List Lexeme) :
    Laid (lexemes ++ others) nodes := by
  have happend := h.append (.nil others)
  rwa [List.append_nil] at happend

theorem behind (h : Laid lexemes nodes) (others : List Lexeme) : Laid (others ++ lexemes) nodes :=
  (nil others).append h

theorem tail {node : SyntaxNode} (h : Laid lexemes (node :: nodes)) : Laid lexemes nodes :=
  fun horder => ⟨(List.forall_mem_cons.mp (h horder).1).2, (h horder).2.of_cons⟩

theorem node {node : SyntaxNode} (hparts : Laid lexemes node.parts) (hne : lexemes ≠ [])
    (hspan : node.span = cover lexemes) : Laid lexemes [node] := by
  intro horder
  obtain ⟨hnested, hpairwise⟩ := hparts horder
  refine ⟨List.forall_mem_singleton.mpr (.intro ?_ (fun part hpart => ?_) hpairwise hnested),
    List.pairwise_singleton _ _⟩
  · rw [hspan]
    exact horder.delimited_cover hne
  · obtain ⟨first, hfirst, hstart⟩ := (hnested part hpart).delimited.start_mem
    obtain ⟨last, hlast, hstop⟩ := (hnested part hpart).delimited.stop_mem
    rw [Span.Encloses, hspan, ← hstart, ← hstop]
    exact ⟨(horder.cover_encloses hfirst).1, (horder.cover_encloses hlast).2⟩

end Laid

/-- Parts stand one after the other in tokens, of which there is at least one. -/
structure Built (lexemes : List Lexeme) (nodes : List SyntaxNode) : Prop where
  ne_nil : lexemes ≠ []
  laid : Laid lexemes nodes

namespace Built

variable {lexemes others : List Lexeme} {nodes more : List SyntaxNode}

theorem append (hfirst : Built lexemes nodes) (hsecond : Laid others more) :
    Built (lexemes ++ others) (nodes ++ more) :=
  ⟨List.append_ne_nil_of_left_ne_nil hfirst.ne_nil _, hfirst.laid.append hsecond⟩

theorem tail {node : SyntaxNode} (h : Built lexemes (node :: nodes)) : Built lexemes nodes :=
  ⟨h.ne_nil, h.laid.tail⟩

theorem before (h : Built lexemes nodes) (others : List Lexeme) : Built (lexemes ++ others) nodes :=
  ⟨List.append_ne_nil_of_left_ne_nil h.ne_nil _, h.laid.before others⟩

theorem behind (h : Built lexemes nodes) (others : List Lexeme) : Built (others ++ lexemes) nodes :=
  ⟨List.append_ne_nil_of_right_ne_nil _ h.ne_nil, h.laid.behind others⟩

theorem node {node : SyntaxNode} (hparts : Built lexemes node.parts)
    (hspan : node.span = cover lexemes) : Built lexemes [node] :=
  ⟨hparts.ne_nil, hparts.laid.node hparts.ne_nil hspan⟩

end Built

end BrightScript
