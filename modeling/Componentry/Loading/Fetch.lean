import Componentry.KeyedList
import Componentry.Loading.Source

/-!
# Fetches

A fetch asks for the definition of one component. Fetches wait in a queue, and each is asked for
when its turn to be waited for comes first. What a fetch is answered with is a parameter of
waiting, so that answers may come in any order and late; `Answers.ofTable` gives the answers of a
server whose texts are known beforehand.
-/

namespace Componentry

variable {A : Type}

structure Fetch (A : Type) where
  key : String
  address : A
  requested : Bool

inductive Answer where
  | served (text : String)
  | failed (error : LoadError)
  /-- No answer yet. -/
  | stalled
  deriving Repr

def Answer.result? : Answer → Option (Except LoadError String)
  | .served text => some (.ok text)
  | .failed error => some (.error error)
  | .stalled => none

abbrev Answers (A : Type) := Fetch A → Answer

variable [Addressing A]

/-- The answers of a server that serves some texts, never answers for some addresses, and finds
nothing at all others. -/
def Answers.ofTable (texts : KeyedList String) (silent : List String) : Answers A := fun f =>
  if silent.contains (Addressing.text f.address) then .stalled
  else match texts.find? (Addressing.text f.address) with
    | some text => .served text
    | none => .failed (.fetchFailed (Addressing.text f.address) "not found")

structure Wait (A : Type) where
  /-- The fetch that was answered, and what came back. -/
  answered : Option (Fetch A × Except LoadError String)
  /-- The fetches that are left, in order. -/
  left : List (Fetch A)
  /-- The addresses that were asked for, in order. -/
  asked : List String

/-- The addresses that a fetch asks for when it is waited for. -/
def Fetch.asks (f : Fetch A) : List String :=
  if f.requested then [] else [Addressing.text f.address]

/-- Waits for a queue: goes through it in order, asking for what has not been asked for, up to the
first fetch that is answered. -/
def Wait.on (answers : Answers A) : List (Fetch A) → Wait A
  | [] => ⟨none, [], []⟩
  | f :: fs =>
    match (answers f).result? with
    | some result => ⟨some (f, result), fs, f.asks⟩
    | none =>
      let rest := Wait.on answers fs
      ⟨rest.answered, { f with requested := true } :: rest.left, f.asks ++ rest.asked⟩

@[simp] theorem Wait.on_nil (answers : Answers A) : Wait.on answers [] = ⟨none, [], []⟩ := rfl

theorem Wait.on_cons_of_answered {answers : Answers A} {f : Fetch A}
    {result : Except LoadError String} (h : (answers f).result? = some result)
    (fs : List (Fetch A)) :
    Wait.on answers (f :: fs) = ⟨some (f, result), fs, f.asks⟩ := by
  simp [Wait.on, h]

theorem Wait.on_cons_of_stalled {answers : Answers A} {f : Fetch A}
    (h : (answers f).result? = none) (fs : List (Fetch A)) :
    Wait.on answers (f :: fs) =
      ⟨(Wait.on answers fs).answered, { f with requested := true } :: (Wait.on answers fs).left,
        f.asks ++ (Wait.on answers fs).asked⟩ := by
  simp [Wait.on, h]

end Componentry
