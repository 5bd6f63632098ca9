import Componentry.Proofs.Script.Locality

/-!
# Reading drops and invents nothing

`Program.content` writes a program out from left to right: its keywords, names, literals, operators,
dots, brackets and braces, and the marks of conditions. Parentheses, commas and semicolons do not
belong to it; they only group and separate. A program that is read from tokens has the content of
those tokens (`Program.content_of_ofTokens`), where the words for numbers count as the numbers.

`Spans` says of tokens that they begin with some content, and what follows it. Every reader spans
what it reads; those that go on with a chain are given what the tokens before them hold.
-/

namespace Componentry.Script

open Reader

variable {α β γ : Type}

/-- A token that groups or separates: a parenthesis, a comma or a semicolon. -/
def Token.isSeparator : Token → Bool
  | .punct p => [Punct.openParen, .closeParen, .comma, .semicolon].contains p
  | _ => false

/-- The token, with the words for not a number and for infinity as those numbers. -/
def Token.valued : Token → Token
  | .word w =>
    if w = "NaN" then .number Number.nan
    else if w = "Infinity" then .number (Number.infinity false)
    else .word w
  | t => t

def DeclareKind.word : DeclareKind → String
  | .let => "let"
  | .const => "const"
  | .var => "var"

theorem word_of_declareKind? {w : String} {kind : DeclareKind}
    (h : Stmt.declareKind? w = some kind) : w = kind.word := by
  unfold Stmt.declareKind? at h
  split_ifs at h <;> cases h <;> assumption

mutual

def Expr.content : Expr → List Token
  | .number n => [.number n]
  | .string s => [.string s]
  | .bool b => [.word (if b then "true" else "false")]
  | .null => [.word "null"]
  | .undefined => [.word "undefined"]
  | .this => [.word "this"]
  | .name n => [.word n]
  | .array items => .punct .openBracket :: (Expr.contentAll items ++ [.punct .closeBracket])
  | .member object property => object.content ++ [.punct .dot, .word property]
  | .index object position =>
    object.content ++ .punct .openBracket :: (position.content ++ [.punct .closeBracket])
  | .call callee args => callee.content ++ Expr.contentAll args
  | .unary op e => unaryToken op :: e.content
  | .binary op left right => left.content ++ .punct (binaryPunct op) :: right.content
  | .conditional test yes no =>
    test.content ++ .punct .question :: (yes.content ++ .punct .colon :: no.content)
  | .assignName w op value => .word w :: .punct op.punct :: value.content
  | .assignMember object property op value =>
    object.content ++ .punct .dot :: .word property :: .punct op.punct :: value.content

def Expr.contentAll : List Expr → List Token
  | [] => []
  | e :: es => e.content ++ Expr.contentAll es

end

def initialContent : Option Expr → List Token
  | none => []
  | some e => .punct .assign :: e.content

def declaredContent : List (String × Option Expr) → List Token
  | [] => []
  | (name, value) :: items => .word name :: (initialContent value ++ declaredContent items)

mutual

def Stmt.content : Stmt → List Token
  | .expr e => e.content
  | .declare kind items => .word kind.word :: declaredContent items
  | .ifElse test yes none => .word "if" :: (test.content ++ yes.content)
  | .ifElse test yes (some no) =>
    .word "if" :: (test.content ++ (yes.content ++ .word "else" :: no.content))
  | .return none => [.word "return"]
  | .return (some e) => .word "return" :: e.content
  | .block body => .punct .openBrace :: (Stmt.contentAll body ++ [.punct .closeBrace])
  | .empty => []

def Stmt.contentAll : List Stmt → List Token
  | [] => []
  | s :: ss => s.content ++ Stmt.contentAll ss

end

def Program.content (p : Program) : List Token := Stmt.contentAll p

def contentOf (ts : List Token) : List Token :=
  (ts.filter fun t => !t.isSeparator).map Token.valued

theorem isSeparator_punct (op : AssignOp) : (Token.punct op.punct).isSeparator = false := by
  cases op <;> rfl

theorem isSeparator_binaryPunct (op : BinaryOp) :
    (Token.punct (binaryPunct op)).isSeparator = false := by
  cases op <;> rfl

theorem isSeparator_unaryToken (op : UnaryOp) : (unaryToken op).isSeparator = false := by
  cases op <;> rfl

/-- Tokens begin with some content, for which there is a token at least, and `r` follows. -/
structure Spans (ts content r : List Token) : Prop where
  lt : r.length < ts.length
  eq : contentOf ts = content.map Token.valued ++ contentOf r

namespace Spans

variable {ts c c' r r' : List Token} {t : Token}

theorem token (h : t.isSeparator = false) : Spans (t :: r) [t] r where
  lt := Nat.lt_succ_self _
  eq := by simp [contentOf, h]

theorem separator (h : t.isSeparator = true) : Spans (t :: r) [] r where
  lt := Nat.lt_succ_self _
  eq := by simp [contentOf, h]

theorem congr (h : Spans ts c r) (heq : c.map Token.valued = c'.map Token.valued) :
    Spans ts c' r where
  lt := h.lt
  eq := by rw [h.eq, heq]

theorem trans (h : Spans ts c r) (h' : Spans r c' r') : Spans ts (c ++ c') r' where
  lt := Nat.lt_trans h'.lt h.lt
  eq := by rw [h.eq, h'.eq, List.map_append, List.append_assoc]

end Spans

def Yields (Q : α → List Token → Prop) (out : Except Failure (α × List Token)) : Prop :=
  ∀ a r, out = .ok (a, r) → Q a r

namespace Yields

variable {Q : α → List Token → Prop} {Q' : β → List Token → Prop}
  {out : Except Failure (α × List Token)}

theorem ok {a : α} {r : List Token} (h : Q a r) : Yields Q (.ok (a, r)) := by
  rintro b r' ⟨⟩
  exact h

theorem error (f : Failure) : Yields Q (.error f) := fun _ _ heq => nomatch heq

theorem bind {f : α × List Token → Except Failure (β × List Token)} (h : Yields Q out)
    (hf : ∀ a r, Q a r → Yields Q' (f (a, r))) : Yields Q' (out >>= f) := by
  cases out with
  | error e => exact error e
  | ok p => exact hf p.1 p.2 (h p.1 p.2 rfl)

theorem down {below : Option Level} {read : Level → Reader α} {ts : List Token}
    (h : ∀ l, below = some l → Yields Q (read l ts)) : Yields Q (Level.down below read ts) := by
  cases below with
  | none => exact error _
  | some l => exact h l rfl

end Yields

section front

variable {ts r : List Token}

theorem eq_cons_of_after? {p : Punct} (h : after? p ts = some r) : ts = .punct p :: r := by
  unfold after? at h
  split at h
  · split at h
    · next hp =>
      cases h
      rw [hp]
    · cases h
  · cases h

theorem yields_punct (p : Punct) (ts : List Token) :
    Yields (fun _ r => ts = .punct p :: r) (punct p ts) := by
  unfold punct
  split
  · next h => exact .ok (eq_cons_of_after? h)
  · exact .error _

theorem eq_cons_of_assignOp? {op : AssignOp} (h : Level.assignOp? ts = some (op, r)) :
    ts = .punct op.punct :: r := by
  unfold Level.assignOp? at h
  split at h <;> cases h <;> rfl

theorem eq_cons_of_unaryOp? {op : UnaryOp} (h : Level.unaryOp? ts = some (op, r)) :
    ts = unaryToken op :: r := by
  unfold Level.unaryOp? at h
  split at h
  · cases h; rfl
  · cases h; rfl
  · cases h; rfl
  · split at h
    · next hw =>
      cases h
      rw [hw]
      rfl
    · cases h
  · cases h

theorem eq_binaryPunct_of_operator? {p : Punct} {op : BinaryOp} (h : p.operator? = some op) :
    p = binaryPunct op := by
  cases p <;> cases h <;> rfl

theorem eq_cons_of_binaryOp? {least : Nat} {op : BinaryOp}
    (h : Level.binaryOp? least ts = some (op, r)) : ts = .punct (binaryPunct op) :: r := by
  unfold Level.binaryOp? at h
  split at h
  · split at h
    · next hop =>
      split at h
      · cases h
        rw [eq_binaryPunct_of_operator? hop]
      · cases h
    · cases h
  · cases h

end front

def Reader.Spanning (content : α → List Token) (read : Reader α) : Prop :=
  ∀ ts, Yields (fun a r => Spans ts (content a) r) (read ts)

section items

variable {content : α → List Token} {item : Reader α} (hitem : Spanning content item)
include hitem

/-- Items are spanned with what closes them. The commas between them have no content. -/
theorem yields_listUntil (close : Punct) {end' : List Token}
    (hclose : ∀ r, Spans (.punct close :: r) end' r) (ts : List Token) :
    Yields (fun as r => Spans ts (as.flatMap content ++ end') r) (listUntil item close ts) := by
  induction hn : ts.length using Nat.strong_induction_on generalizing ts with
  | h n ih =>
      subst hn
      rw [listUntil]
      split
      · next r h =>
        cases eq_cons_of_after? h
        exact .ok (hclose r)
      · refine (hitem ts).bind fun a r ha => ?_
        dsimp only
        split
        · refine (yields_punct close r).bind fun _ r' hr => .ok ?_
          subst hr
          simpa using ha.trans (hclose r')
        · next r' hcomma =>
          cases eq_cons_of_after? hcomma
          have hfront := ha.trans (Spans.separator (t := .punct .comma) (r := r') rfl)
          rw [if_pos hfront.lt]
          refine (ih _ hfront.lt r' rfl).bind fun as r'' has => .ok ?_
          simpa using hfront.trans has

theorem yields_manyUntil (close : Punct) {end' : List Token}
    (hclose : ∀ r, Spans (.punct close :: r) end' r) (ts : List Token) :
    Yields (fun as r => Spans ts (as.flatMap content ++ end') r) (manyUntil item close ts) := by
  induction hn : ts.length using Nat.strong_induction_on generalizing ts with
  | h n ih =>
      subst hn
      rw [manyUntil]
      split
      · next r h =>
        cases eq_cons_of_after? h
        exact .ok (hclose r)
      · split
        · exact .error _
        · refine (hitem ts).bind fun a r ha => ?_
          dsimp only
          rw [if_pos ha.lt]
          refine (ih _ ha.lt r rfl).bind fun as r' has => .ok ?_
          simpa using ha.trans has

theorem contentOf_of_many {ts : List Token} {as : List α} (h : many item ts = .ok as) :
    (as.flatMap content).map Token.valued = contentOf ts := by
  induction hn : ts.length using Nat.strong_induction_on generalizing ts as with
  | h n ih =>
      subst hn
      by_cases hts : ts = []
      · subst hts
        rw [many, if_pos rfl] at h
        cases h
        rfl
      · rcases hout : item ts with f | ⟨a, r⟩
        · rw [many, if_neg hts, hout] at h
          cases h
        · have ha := hitem ts a r hout
          rw [many_of_item hout ha.lt] at h
          cases hrest : many item r with
          | error f =>
              rw [hrest] at h
              cases h
          | ok as' =>
              rw [hrest] at h
              cases h
              rw [List.flatMap_cons, List.map_append, ih _ ha.lt hrest rfl, ha.eq]

end items

theorem Expr.contentAll_eq_flatMap (es : List Expr) :
    Expr.contentAll es = es.flatMap Expr.content := by
  induction es with
  | nil => rw [Expr.contentAll, List.flatMap_nil]
  | cons e es ih => rw [Expr.contentAll, List.flatMap_cons, ih]

theorem Stmt.contentAll_eq_flatMap (ss : List Stmt) :
    Stmt.contentAll ss = ss.flatMap Stmt.content := by
  induction ss with
  | nil => rw [Stmt.contentAll, List.flatMap_nil]
  | cons s ss ih => rw [Stmt.contentAll, List.flatMap_cons, ih]

namespace Level

/-- The readers of a level span what they read. Those that go on with an expression are given tokens
that it spans. -/
structure Spanning (l : Level) : Prop where
  assignment : Reader.Spanning Expr.content l.assignment
  unary : Reader.Spanning Expr.content l.unary
  binary : ∀ least, Reader.Spanning Expr.content (l.binary least)
  operators : ∀ least ts left r, Spans ts left.content r →
    Yields (fun e r => Spans ts e.content r) (l.operators least left r)
  suffixes : ∀ ts e r, Spans ts e.content r →
    Yields (fun e r => Spans ts e.content r) (l.suffixes e r)

/-- What a word stands for is written as that word, or is the number that the word stands for. -/
theorem valued_content_ofWord? {w : String} {e : Expr} (h : ofWord? w = some e) :
    [Token.word w].map Token.valued = e.content.map Token.valued := by
  unfold ofWord? at h
  split_ifs at h with htrue hfalse hnull hundefined hthis hnan hinfinity
  all_goals cases h
  all_goals simp_all [Expr.content, Token.valued]

theorem spanning_primary {assignment : Reader Expr}
    (h : Reader.Spanning Expr.content assignment) :
    Reader.Spanning Expr.content (primary assignment) := by
  intro ts
  unfold primary
  split
  · refine .ok ?_
    rw [Expr.content]
    exact .token rfl
  · refine .ok ?_
    rw [Expr.content]
    exact .token rfl
  · split
    · next hword => exact .ok ((Spans.token rfl).congr (valued_content_ofWord? hword))
    · exact .error _
  · next r =>
    refine (h r).bind fun e r' he => (yields_punct .closeParen r').bind fun _ r'' hr => .ok ?_
    subst hr
    have hopen := Spans.separator (t := .punct .openParen) (r := r) rfl
    have hclose := Spans.separator (t := .punct .closeParen) (r := r'') rfl
    simpa using (hopen.trans he).trans hclose
  · next r =>
    have hitems := yields_listUntil h .closeBracket (fun r => Spans.token rfl) r
    refine hitems.bind fun items r' hr => .ok ?_
    have hopen := Spans.token (t := .punct .openBracket) (r := r) rfl
    simpa [Expr.content, Expr.contentAll_eq_flatMap] using hopen.trans hr
  · exact .error _

theorem Spanning.conditional {l : Level} (h : l.Spanning) :
    Reader.Spanning Expr.content (conditional l) := by
  intro ts
  refine (h.binary 1 ts).bind fun test r htest => ?_
  dsimp only
  split
  · exact .ok htest
  · next r₁ hquestion =>
    cases eq_cons_of_after? hquestion
    refine (h.assignment r₁).bind fun yes r₂ hyes => ?_
    refine (yields_punct .colon r₂).bind fun _ r₃ hr => ?_
    subst hr
    refine (h.assignment r₃).bind fun no r₄ hno => .ok ?_
    have hfront := htest.trans (Spans.token (t := .punct .question) (r := r₁) rfl)
    have hback := hyes.trans (Spans.token (t := .punct .colon) (r := r₃) rfl)
    simpa [Expr.content] using hfront.trans (hback.trans hno)

section levels

variable {below : Option Level} (h : ∀ l, below = some l → l.Spanning)
include h

theorem spanning_assignmentOver : Reader.Spanning Expr.content (assignmentOver below) := by
  intro ts
  refine .down fun l hl => ?_
  have hlevel := h l hl
  refine (hlevel.conditional ts).bind fun left r hleft => ?_
  dsimp only
  split
  · exact .ok hleft
  · next op r' hop =>
    cases eq_cons_of_assignOp? hop
    have hfront := hleft.trans (Spans.token (r := r') (isSeparator_punct op))
    cases left with
    | name n =>
        refine (hlevel.assignment r').bind fun value r'' hvalue => .ok ?_
        simpa [Expr.content] using hfront.trans hvalue
    | member object property =>
        refine (hlevel.assignment r').bind fun value r'' hvalue => .ok ?_
        simpa [Expr.content] using hfront.trans hvalue
    | _ => exact .error _

theorem yields_suffixesOver (ts : List Token) (e : Expr) (r : List Token)
    (he : Spans ts e.content r) :
    Yields (fun e r => Spans ts e.content r) (suffixesOver below e r) := by
  unfold suffixesOver
  split
  · next r =>
    have hdot := he.trans (Spans.token (t := .punct .dot) (r := r) rfl)
    refine .down fun l hl => ?_
    split
    · next property r =>
      refine (h l hl).suffixes ts _ r ?_
      simpa [Expr.content] using hdot.trans (Spans.token (t := .word property) (r := r) rfl)
    · exact .error _
  · next r =>
    have hopen := he.trans (Spans.token (t := .punct .openBracket) (r := r) rfl)
    refine .down fun l hl => ((h l hl).assignment r).bind fun position r' hposition => ?_
    refine (yields_punct .closeBracket r').bind fun _ r'' hr => (h l hl).suffixes ts _ r'' ?_
    subst hr
    have hclose := Spans.token (t := .punct .closeBracket) (r := r'') rfl
    simpa [Expr.content] using hopen.trans (hposition.trans hclose)
  · next r =>
    have hopen := he.trans (Spans.separator (t := .punct .openParen) (r := r) rfl)
    refine .down fun l hl => ?_
    have hargs := yields_listUntil (h l hl).assignment .closeParen
      (fun r => Spans.separator rfl) r
    refine hargs.bind fun args r' hr => (h l hl).suffixes ts _ r' ?_
    simpa [Expr.content, Expr.contentAll_eq_flatMap] using hopen.trans hr
  · exact .ok he

theorem spanning_unaryOver : Reader.Spanning Expr.content (unaryOver below) := by
  intro ts
  unfold unaryOver
  split
  · next op r hop =>
    cases eq_cons_of_unaryOp? hop
    have hoperand : Yields (fun e r' => Spans r e.content r') (down below unary r) :=
      .down fun l hl => (h l hl).unary r
    refine hoperand.bind fun e r' he => .ok ?_
    rw [Expr.content]
    exact (Spans.token (isSeparator_unaryToken op)).trans he
  · exact (spanning_primary (spanning_assignmentOver h) ts).bind fun e r he =>
      yields_suffixesOver h ts e r he

theorem yields_operatorsOver (least : Nat) (ts : List Token) (left : Expr) (r : List Token)
    (hleft : Spans ts left.content r) :
    Yields (fun e r => Spans ts e.content r) (operatorsOver below least left r) := by
  unfold operatorsOver
  split
  · next op r hop =>
    cases eq_cons_of_binaryOp? hop
    have hfront := hleft.trans (Spans.token (r := r) (isSeparator_binaryPunct op))
    refine .down fun l hl => ((h l hl).binary _ r).bind fun right r' hright => ?_
    refine (h l hl).operators least ts _ r' ?_
    simpa [Expr.content] using hfront.trans hright
  · exact .ok hleft

theorem spanning_above : (above below).Spanning where
  assignment := spanning_assignmentOver h
  unary := spanning_unaryOver h
  binary least ts := (spanning_unaryOver h ts).bind fun left r hleft =>
    yields_operatorsOver h least ts left r hleft
  operators := yields_operatorsOver h
  suffixes := yields_suffixesOver h

end levels

end Level

theorem level_spanning (n : Nat) : (level n).Spanning := by
  induction n with
  | zero => exact Level.spanning_above nofun
  | succ n ih =>
      refine Level.spanning_above fun l hl => ?_
      cases hl
      exact ih

/-- A semicolon that is skipped has no content. -/
theorem Spans.skip {ts c r : List Token} (h : Spans ts c r) :
    Spans ts c (Reader.skip .semicolon r) := by
  unfold Reader.skip
  cases hafter : after? .semicolon r with
  | none => exact h
  | some r' =>
      cases eq_cons_of_after? hafter
      simpa using h.trans (Spans.separator (t := .punct .semicolon) (r := r') rfl)

namespace Stmt

section

variable {l : Level} (hl : l.Spanning)
include hl

theorem spanning_declarations (kind : DeclareKind) :
    Reader.Spanning declaredContent (declarations l kind) := by
  intro ts
  induction hn : ts.length using Nat.strong_induction_on generalizing ts with
  | h n ih =>
      subst hn
      unfold declarations
      split
      · next name rest =>
        have hname := Spans.token (t := .word name) (r := rest) rfl
        -- What is read after a name and its value, if a value is given.
        have hfrom : ∀ (value : Option Expr) (r : List Token),
            Spans (.word name :: rest) (.word name :: initialContent value) r →
            Yields (fun items r => Spans (.word name :: rest) (declaredContent items) r)
              (declarationsFrom l kind name value rest r) := by
          intro value r hvalue
          unfold declarationsFrom
          split
          · refine .ok ?_
            simpa [declaredContent] using hvalue
          · next r' hcomma =>
            cases eq_cons_of_after? hcomma
            have hlt : r'.length < rest.length := Nat.lt_of_succ_lt_succ hvalue.lt
            have hcomma := hvalue.trans (Spans.separator (t := .punct .comma) (r := r') rfl)
            rw [if_pos hlt]
            refine (ih _ (Nat.lt_succ_of_lt hlt) r' rfl).bind fun items r'' hitems => .ok ?_
            simpa [declaredContent] using hcomma.trans hitems
        split
        · exact .error _
        · dsimp only
          split
          · next r hassign =>
            cases eq_cons_of_after? hassign
            have hsign := hname.trans (Spans.token (t := .punct .assign) (r := r) rfl)
            exact (hl.assignment r).bind fun e r' he => hfrom (some e) r' (hsign.trans he)
          · split
            · exact .error _
            · exact hfrom none rest hname
      · exact .error _

/-- What is returned, after tokens that begin with the keyword. -/
theorem yields_returned {ts r : List Token} (h : Spans ts [.word "return"] r) :
    Yields (fun value r => Spans ts (Stmt.return value).content r) (returned l r) := by
  unfold returned
  split
  · refine .ok ?_
    rw [content]
    exact h
  · refine (hl.assignment r).bind fun e r' he => .ok ?_
    rw [content]
    exact h.trans he

variable {inner : Reader Stmt} (hinner : Reader.Spanning Stmt.content inner)
include hinner

/-- The condition and the branches, after tokens that begin with the keyword. -/
theorem yields_branches {ts r : List Token} (h : Spans ts [.word "if"] r) :
    Yields (fun s r => Spans ts (Stmt.content s) r) (branches l inner r) := by
  refine (yields_punct .openParen r).bind fun _ r₁ hr => ?_
  subst hr
  have hopen := h.trans (Spans.separator (t := .punct .openParen) (r := r₁) rfl)
  refine (hl.assignment r₁).bind fun test r₂ htest => ?_
  refine (yields_punct .closeParen r₂).bind fun _ r₃ hr => ?_
  subst hr
  have hclose := htest.trans (Spans.separator (t := .punct .closeParen) (r := r₃) rfl)
  refine (hinner r₃).bind fun yes r₄ hyes => ?_
  have hfront := hopen.trans (hclose.trans hyes)
  dsimp only
  split
  · refine .ok ?_
    simpa [content] using hfront
  · next r₅ helse =>
    cases afterWord?_eq_some helse
    refine (hinner r₅).bind fun no r₆ hno => .ok ?_
    have hback := (Spans.token (t := .word "else") (r := r₅) rfl).trans hno
    simpa [content] using hfront.trans hback

theorem spanning_readWith : Reader.Spanning Stmt.content (readWith l inner) := by
  intro ts
  have hexpr : ∀ ts, Yields (fun s r => Spans ts (Stmt.content s) r)
      (l.assignment ts >>= fun p => .ok (.expr p.1, skip .semicolon p.2)) := by
    refine fun ts => (hl.assignment ts).bind fun e r he => .ok ?_
    rw [content]
    exact he.skip
  unfold readWith
  split
  · refine .ok ?_
    rw [content]
    exact .separator rfl
  · next r =>
    have hbody := yields_manyUntil hinner .closeBrace (fun r => Spans.token rfl) r
    refine hbody.bind fun body r' hr => .ok ?_
    have hopen := Spans.token (t := .punct .openBrace) (r := r) rfl
    simpa [content, contentAll_eq_flatMap] using hopen.trans hr
  · next w r =>
    have hword := Spans.token (t := .word w) (r := r) rfl
    split
    · next kind hkind =>
      refine (spanning_declarations hl kind r).bind fun items r' hitems => .ok ?_
      rw [content, ← word_of_declareKind? hkind]
      exact (hword.trans hitems).skip
    · split
      · next hif =>
        subst hif
        exact yields_branches hl hinner hword
      · split
        · next hreturn =>
          subst hreturn
          exact (yields_returned hl hword).bind fun value r' hvalue => .ok hvalue.skip
        · exact hexpr _
  · exact hexpr _

end

theorem spanning_read (n : Nat) : Reader.Spanning Stmt.content (read n) := by
  induction n with
  | zero => exact fun _ => .error _
  | succ n ih => exact spanning_readWith (level_spanning n) ih

end Stmt

namespace Program

/-- A program that is read from tokens is written out as these tokens, in their order and without
those that only separate, where a word for a number is the number. -/
theorem content_of_ofTokens {ts : List Token} {p : Program} (h : ofTokens ts = .ok p) :
    p.content.map Token.valued = (ts.filter fun t => !t.isSeparator).map Token.valued := by
  rw [content, Stmt.contentAll_eq_flatMap]
  exact contentOf_of_many (Stmt.spanning_read nestingLimit) h

/-- `if (a) { const b = [NaN, -(c + d),]; } else f(Infinity, a.NaN);`. -/
def grouping : List Token :=
  [.word "if", .punct .openParen, .word "a", .punct .closeParen, .punct .openBrace,
    .word "const", .word "b", .punct .assign, .punct .openBracket, .word "NaN", .punct .comma,
    .punct .minus, .punct .openParen, .word "c", .punct .plus, .word "d", .punct .closeParen,
    .punct .comma, .punct .closeBracket, .punct .semicolon, .punct .closeBrace, .word "else",
    .word "f", .punct .openParen, .word "Infinity", .punct .comma, .word "a", .punct .dot,
    .word "NaN", .punct .closeParen, .punct .semicolon]

def grouped : Program :=
  [.ifElse (.name "a")
    (.block [.declare .const [("b", some (.array [.number Number.nan,
      .unary .neg (.binary .add (.name "c") (.name "d"))]))]])
    (some (.expr (.call (.name "f")
      [.number (Number.infinity false), .member (.name "a") "NaN"])))]

theorem content_of_ofTokens_grouping :
    ofTokens grouping = .ok grouped ∧
      grouped.content.map Token.valued =
        (grouping.filter fun t => !t.isSeparator).map Token.valued := by
  have hread : ofTokens grouping = .ok grouped := by with_unfolding_all rfl
  exact ⟨hread, content_of_ofTokens hread⟩

end Program

end Componentry.Script
