import Componentry.Proofs.Markup.Shape

/-!
# Trees keep what was read

A forest is put together from tokens, elements being added when they are closed. Nothing is lost or
moved on the way: read from its beginning to its end, the forest has the starts of elements, the
comments and the texts of the tokens, in their order (`forest?_pieces`). An end tag leaves no trace
in this reading, whatever it closes. It may stand between two tokens whose texts are one text of the
tree, so texts that follow each other count as one text (`Piece.joinTexts`).

`Builder.pieces` reads a forest under construction, the outermost open element first. Closing an
element does not change it, and any other token puts its own pieces at the end.
-/

namespace Componentry.Markup

open Text

inductive Piece where
  | start (tag : String) (attributes : List Attribute)
  | comment (content : String)
  | text (content : String)
  deriving DecidableEq, Repr

namespace Piece

/-- A piece in front of others. A text becomes one with a text that comes next. -/
def before : Piece → List Piece → List Piece
  | .text s, .text t :: ps => .text (s ++ t) :: ps
  | p, ps => p :: ps

/-- The pieces, with one text for texts that follow each other. -/
def joinTexts : List Piece → List Piece
  | [] => []
  | p :: ps => p.before (joinTexts ps)

theorem joinTexts_cons (p : Piece) (ps : List Piece) :
    joinTexts (p :: ps) = p.before (joinTexts ps) := rfl

theorem before_before_text (s t : String) (ps : List Piece) :
    before (.text s) (before (.text t) ps) = before (.text (s ++ t)) ps := by
  cases ps with
  | nil => rfl
  | cons p ps =>
      cases p with
      | text u => simp only [before, String.append_assoc]
      | start | comment => rfl

theorem joinTexts_before_append (p : Piece) (ps qs : List Piece) :
    joinTexts (p.before ps ++ qs) = p.before (joinTexts (ps ++ qs)) := by
  cases p with
  | start | comment => rfl
  | text s =>
      cases ps with
      | nil => rfl
      | cons q ps =>
          cases q with
          | start | comment => rfl
          | text t => exact (before_before_text s t _).symm

/-- Parts may be joined before others come behind them. -/
theorem joinTexts_joinTexts_append (ps qs : List Piece) :
    joinTexts (joinTexts ps ++ qs) = joinTexts (ps ++ qs) := by
  induction ps with
  | nil => rfl
  | cons p ps ih =>
      rw [joinTexts_cons, joinTexts_before_append, ih]
      rfl

theorem joinTexts_append_left {ps ps' : List Piece} (h : joinTexts ps = joinTexts ps')
    (qs : List Piece) : joinTexts (ps ++ qs) = joinTexts (ps' ++ qs) := by
  rw [← joinTexts_joinTexts_append ps, h, joinTexts_joinTexts_append]

theorem joinTexts_append_right (ps : List Piece) {qs qs' : List Piece}
    (h : joinTexts qs = joinTexts qs') : joinTexts (ps ++ qs) = joinTexts (ps ++ qs') := by
  induction ps with
  | nil => exact h
  | cons p ps ih => exact congrArg p.before ih

end Piece

open Piece

namespace Node

mutual

def pieces : Node → List Piece
  | .element tag attributes children => .start tag attributes :: allPieces children
  | .text s => [.text s]
  | .comment s => [.comment s]

def allPieces : List Node → List Piece
  | [] => []
  | n :: ns => n.pieces ++ allPieces ns

end

theorem allPieces_append (ms ns : List Node) :
    allPieces (ms ++ ns) = allPieces ms ++ allPieces ns := by
  induction ms with
  | nil => rfl
  | cons m ms ih => rw [List.cons_append, allPieces, allPieces, ih, List.append_assoc]

theorem allPieces_singleton (n : Node) : allPieces [n] = n.pieces := by
  rw [allPieces, allPieces, List.append_nil]

/-- Text that is added to siblings is met after them. -/
theorem joinTexts_allPieces_addText (s : String) (ns : List Node) :
    joinTexts (allPieces (addText s ns)) = joinTexts (allPieces ns ++ [.text s]) := by
  cases hend : Builder.endInText ns with
  | false =>
      rw [Builder.addText_of_endInText_eq_false hend, allPieces_append, allPieces_singleton, pieces]
  | true =>
      obtain ⟨init, t, rfl⟩ := Builder.exists_of_endInText hend
      have htexts : joinTexts [.text (t ++ s)] = joinTexts [.text t, .text s] := rfl
      rw [addText_concat, allPieces_append, allPieces_append, allPieces_singleton,
        allPieces_singleton, pieces, pieces, joinTexts_append_right _ htexts, List.append_assoc]
      rfl

end Node

/-- What a token tells of the document. An end tag is not met again in a tree. -/
def Token.pieces : Token → List Piece
  | .startTag name attributes _ => [.start name attributes]
  | .endTag _ => []
  | .text s => [.text (String.ofList (decode s))]
  | .rawText s => [.text (String.ofList s)]
  | .comment s => [.comment (String.ofList s)]
  | .ignored => []

def Opened.pieces (o : Opened) : List Piece :=
  .start o.tag o.attributes :: Node.allPieces o.children

namespace Builder

variable {b : Builder}

/-- The pieces of a forest under construction: those of the finished trees, and then those of the
open elements, outermost first. -/
def pieces (b : Builder) : List Piece :=
  Node.allPieces b.roots ++ b.opened.reverse.flatMap Opened.pieces

def piecesAround (b : Builder) : List Piece :=
  match b.opened with
  | [] => []
  | o :: os =>
    Node.allPieces b.roots ++ os.reverse.flatMap Opened.pieces ++ [.start o.tag o.attributes]

theorem pieces_cons (o : Opened) (os : List Opened) (roots : List Node) :
    pieces ⟨o :: os, roots⟩ = pieces ⟨os, roots⟩ ++ o.pieces := by
  simp [pieces, List.flatMap_append]

theorem pieces_eq (b : Builder) : b.pieces = b.piecesAround ++ Node.allPieces b.siblings := by
  obtain ⟨opened, roots⟩ := b
  cases opened with
  | nil => exact List.append_nil _
  | cons o os =>
      rw [pieces_cons]
      exact (List.append_assoc (pieces ⟨os, roots⟩) [.start o.tag o.attributes] _).symm

theorem pieces_onSiblings (f : List Node → List Node) (b : Builder) :
    (b.onSiblings f).pieces = b.piecesAround ++ Node.allPieces (f b.siblings) := by
  have haround : (b.onSiblings f).piecesAround = b.piecesAround := by
    obtain ⟨_ | _, roots⟩ := b <;> rfl
  rw [pieces_eq, haround, siblings_onSiblings]

theorem pieces_add (n : Node) (b : Builder) : (b.add n).pieces = b.pieces ++ n.pieces := by
  rw [add, pieces_onSiblings, Node.allPieces_append, Node.allPieces_singleton, ← List.append_assoc,
    ← pieces_eq]

/-- An open element is met at the same place as the closed one. -/
theorem pieces_close (b : Builder) : b.close.pieces = b.pieces := by
  obtain ⟨opened, roots⟩ := b
  cases opened with
  | nil => rfl
  | cons o os =>
      have hnode : o.node.pieces = o.pieces := by rw [Opened.node, Node.pieces, Opened.pieces]
      rw [pieces_cons, ← hnode]
      exact pieces_add o.node ⟨os, roots⟩

theorem pieces_closeMany (n : Nat) (b : Builder) : (b.closeMany n).pieces = b.pieces := by
  induction n generalizing b with
  | zero => rfl
  | succ n ih => rw [closeMany, ih, pieces_close]

theorem joinTexts_pieces_addText (s : String) (b : Builder) :
    joinTexts (b.onSiblings (addText s)).pieces = joinTexts (b.pieces ++ [.text s]) := by
  rw [pieces_onSiblings, joinTexts_append_right _ (Node.joinTexts_allPieces_addText s b.siblings),
    ← List.append_assoc, ← pieces_eq]

/-- A token puts its pieces behind those of the tokens before it. -/
theorem joinTexts_pieces_step (b : Builder) (t : Token) :
    joinTexts (b.step t).pieces = joinTexts (b.pieces ++ t.pieces) := by
  cases t with
  | startTag name attributes selfClosing =>
      rw [step]
      split
      · rw [pieces_add, Node.pieces]
        rfl
      · rw [pieces_cons]
        rfl
  | endTag name =>
      have hpieces : (b.step (.endTag name)).pieces = b.pieces := by
        rw [step]
        split
        · exact pieces_closeMany _ b
        · rfl
      rw [hpieces, Token.pieces, List.append_nil]
  | text s => exact joinTexts_pieces_addText _ b
  | rawText s => exact joinTexts_pieces_addText _ b
  | comment s => rw [step, pieces_add, Node.pieces, Token.pieces]
  | ignored => rw [step, Token.pieces, List.append_nil]

theorem joinTexts_pieces_foldl (ts : List Token) (b : Builder) :
    joinTexts (ts.foldl step b).pieces = joinTexts (b.pieces ++ ts.flatMap Token.pieces) := by
  induction ts generalizing b with
  | nil => rw [List.foldl_nil, List.flatMap_nil, List.append_nil]
  | cons t ts ih =>
      rw [List.foldl_cons, ih, joinTexts_append_left (joinTexts_pieces_step b t),
        List.flatMap_cons, List.append_assoc]

theorem length_opened_close (b : Builder) : b.close.opened.length = b.opened.length - 1 := by
  obtain ⟨opened, roots⟩ := b
  cases opened with
  | nil => rfl
  | cons o os => exact length_opened_onSiblings _ _

theorem length_opened_closeMany (n : Nat) (b : Builder) :
    (b.closeMany n).opened.length = b.opened.length - n := by
  induction n generalizing b with
  | zero => rfl
  | succ n ih => rw [closeMany, ih, length_opened_close, Nat.sub_sub, Nat.add_comm 1 n]

/-- Once all elements are closed, the trees have all the pieces. -/
theorem allPieces_finish (b : Builder) : Node.allPieces b.finish = b.pieces := by
  have hopened : (b.closeMany b.opened.length).opened = [] := by
    rw [← List.length_eq_zero_iff, length_opened_closeMany, Nat.sub_self]
  have hall := pieces_closeMany b.opened.length b
  rw [pieces, hopened] at hall
  rw [finish, ← hall]
  exact (List.append_nil _).symm

end Builder

/-- A text without other blanks than gaps is read, and its forest, gone through from beginning to
end, has the pieces of its tokens: the start tags, also of elements that are too deep to be opened,
the comments and the texts, entities replaced. -/
theorem forest?_pieces (s : String) (h : Spaced s.toList) :
    ∃ ts nodes, tokens? s.toList = some ts ∧ forest? s = some nodes ∧
      joinTexts (Node.allPieces nodes) = joinTexts (ts.flatMap Token.pieces) := by
  obtain ⟨ts, hts⟩ := exists_tokens? h
  refine ⟨ts, forestOf ts, hts, ?_, ?_⟩
  · rw [forest?, hts]
    rfl
  · rw [forestOf, Builder.allPieces_finish]
    exact Builder.joinTexts_pieces_foldl ts Builder.start

/-- A text with end tags that are missing, stray or crossed. -/
theorem forest?_pieces_crossed :
    let s := "x<B>y<i a=1>&lt;</b>z</i></u>&amp;<br>&<p>q<!--c--></@d><script>r&lt;<b></script>t"
    Spaced s.toList ∧
      (forest? s).map (joinTexts ∘ Node.allPieces) = some [.text "x", .start "b" [], .text "y",
        .start "i" [⟨"a", some "1"⟩], .text "<z&", .start "br" [], .text "&", .start "p" [],
        .text "q", .comment "c", .comment "@d", .start "script" [], .text "r&lt;<b>t"] ∧
      ∃ ts nodes, tokens? s.toList = some ts ∧ forest? s = some nodes ∧
        joinTexts (Node.allPieces nodes) = joinTexts (ts.flatMap Token.pieces) := by
  intro s
  have hs : Spaced s.toList := by decide +kernel
  exact ⟨hs, by decide +kernel, forest?_pieces s hs⟩

end Componentry.Markup
