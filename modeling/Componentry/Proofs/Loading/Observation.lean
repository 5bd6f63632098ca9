import Componentry.Loading.Observer
import Componentry.Proofs.Loading.Session

/-!
# Records of an observation

An observation moves on by its own acts and by what others do: records are sent, it is told to stop,
or it is left alone. Moves come in any order, and every act brings its own answers to fetches. The
records that the loader is given are the first of those that were sent, in order. `Kept` holds
between any two moves; when the observation ends, `Done` says which records were taken.
-/

namespace Componentry

open Loader

variable {A : Type}

namespace Session

def ofLoader (l : Loader A) : Session A := ⟨l, [], .empty, l.reports.length, false⟩

variable [Addressing A]

theorem run_concat (s : Session A) (calls : List (Call A)) (c : Call A) :
    s.run (calls ++ [c]) = (s.run calls).call c := by
  rw [run, run, List.foldl_concat]

end Session

def Call.record? : Call A → Option Mutation
  | .handleMutation m => some m
  | _ => none

namespace Observation

inductive Move (A : Type) where
  | notify (m : Mutation)
  | stop
  | abandon
  | act (answers : Answers A)

namespace Move

def record? : Move A → Option Mutation
  | .notify m => some m
  | _ => none

def isEnd : Move A → Bool
  | .stop => true
  | .abandon => true
  | _ => false

end Move

def sent (moves : List (Move A)) : List Mutation := moves.filterMap Move.record?

/-- The records that are sent before the observation is stopped or left alone. -/
def sentBefore (moves : List (Move A)) : List Mutation :=
  sent (moves.takeWhile fun move => !move.isEnd)

def Ended (moves : List (Move A)) : Prop := ∃ move ∈ moves, move.isEnd = true

section moves

variable (moves : List (Move A)) (last : Move A)

theorem sent_append : sent (moves ++ [last]) = sent moves ++ last.record?.toList := by
  rw [sent, sent, List.filterMap_append]
  cases last <;> rfl

theorem sentBefore_prefix_sent : sentBefore moves <+: sent moves :=
  (List.takeWhile_prefix _).filterMap _

variable {moves}

theorem ended_append_iff : Ended (moves ++ [last]) ↔ Ended moves ∨ last.isEnd = true := by
  simp [Ended, or_and_right, exists_or]

theorem Ended.append (h : Ended moves) (more : List (Move A)) : Ended (moves ++ more) := by
  obtain ⟨move, hmove, hend⟩ := h
  exact ⟨move, List.mem_append_left more hmove, hend⟩

theorem ended_append_of_not (h : last.isEnd = false) : Ended (moves ++ [last]) ↔ Ended moves := by
  rw [ended_append_iff, h, or_iff_left Bool.false_ne_true]

theorem sentBefore_cons (first : Move A) (moves : List (Move A)) :
    sentBefore (first :: moves) =
      if first.isEnd then [] else first.record?.toList ++ sentBefore moves := by
  cases first <;> rfl

/-- After the end nothing that is sent counts. -/
theorem Ended.sentBefore_append (h : Ended moves) :
    sentBefore (moves ++ [last]) = sentBefore moves := by
  induction moves with
  | nil => exact nomatch h
  | cons first moves ih =>
      rw [List.cons_append, sentBefore_cons, sentBefore_cons]
      split
      · rfl
      · next hfirst =>
        obtain ⟨move, hmem, hend⟩ := h
        rcases List.mem_cons.1 hmem with rfl | hmem
        · exact absurd hend hfirst
        · rw [ih ⟨move, hmem, hend⟩]

end moves

/-- What the records that were taken are where no more are taken: the last of them is the last that
may be, or all that were sent in time are among them. -/
def Done (config : Config A) (moves : List (Move A)) (taken : List Mutation) : Prop :=
  (∃ before m, taken = before ++ [m] ∧ isLast config m = true) ∨
    Ended moves ∧ sentBefore moves <+: taken

theorem Done.append {config : Config A} {moves : List (Move A)} {taken : List Mutation}
    (h : Done config moves taken) (last : Move A) : Done config (moves ++ [last]) taken := by
  rcases h with hlast | ⟨hended, hbefore⟩
  · exact .inl hlast
  · refine .inr ⟨hended.append [last], ?_⟩
    rwa [hended.sentBefore_append]

variable [Addressing A]

def move (o : Observation A) : Move A → Observation A
  | .notify m => (o.notify m).1
  | .stop => o.stop
  | .abandon => o.abandon
  | .act answers => (act answers o).1

def run (o : Observation A) (moves : List (Move A)) : Observation A := moves.foldl move o

structure Kept (l : Loader A) (moves : List (Move A)) (o : Observation A) : Prop where
  called : ∃ calls, o.loader = ((Session.ofLoader l).run calls).loader ∧
    calls.filterMap Call.record? = o.taken
  /-- Records are taken in the order in which they are sent, and wait until the end. -/
  taken_sent : o.taken <+: sent moves
  taken_append : o.stage ≠ .finished → o.taken ++ o.records = sent moves
  ended : o.stopped = true ∨ o.abandoned = true ↔ Ended moves
  /-- While it listens, no record was the last. -/
  listening : o.listening = true → ∀ m ∈ o.taken, isLast l.config m = false
  /-- No record is taken after the last. -/
  before_last : ∀ m ∈ o.taken.dropLast, isLast l.config m = false
  deaf : o.listening = false → Done l.config moves o.taken
  draining : o.stage = .draining → o.listening = true ∧ Ended moves
  settling : o.stage = .settling ∨ o.stage = .finished → Done l.config moves o.taken

namespace Kept

variable {l : Loader A} {moves : List (Move A)} {o : Observation A}

theorem config_eq (h : Kept l moves o) : o.loader.config = l.config := by
  obtain ⟨calls, hloader, -⟩ := h.called
  rw [hloader, Session.config_run]
  rfl

/-- One more move may send a record and tell the observation to end. -/
theorem extend (h : Kept l moves o) {last : Move A} {records : List Mutation}
    {stopped abandoned : Bool}
    (happend : o.stage ≠ .finished → o.taken ++ records = sent (moves ++ [last]))
    (hended : stopped = true ∨ abandoned = true ↔ Ended (moves ++ [last])) :
    Kept l (moves ++ [last]) { o with records, stopped, abandoned } where
  called := h.called
  taken_sent := by
    rw [sent_append]
    exact h.taken_sent.trans (List.prefix_append _ _)
  taken_append := happend
  ended := hended
  listening := h.listening
  before_last := h.before_last
  deaf hdeaf := (h.deaf hdeaf).append last
  draining hstage := ⟨(h.draining hstage).1, (h.draining hstage).2.append [last]⟩
  settling hstage := (h.settling hstage).append last

theorem notify (h : Kept l moves o) (m : Mutation) :
    Kept l (moves ++ [.notify m]) (o.notify m).1 := by
  have hended := h.ended.trans (ended_append_of_not (.notify m) rfl).symm
  unfold Observation.notify
  split
  · next hfinished =>
    exact h.extend (fun hstage => absurd (of_decide_eq_true hfinished) hstage) hended
  · refine h.extend (fun hstage => ?_) hended
    rw [sent_append, ← h.taken_append hstage, List.append_assoc]
    rfl

/-- A move that sends no record. -/
theorem silent (h : Kept l moves o) {last : Move A} (hrecord : last.record? = none)
    {stopped abandoned : Bool}
    (hended : stopped = true ∨ abandoned = true ↔ Ended (moves ++ [last])) :
    Kept l (moves ++ [last]) { o with stopped, abandoned } := by
  refine h.extend (fun hstage => ?_) hended
  rw [sent_append, hrecord, Option.toList_none, List.append_nil, h.taken_append hstage]

/-- The observation goes on at another stage, of which all holds that is asked there. -/
theorem goesTo (h : Kept l moves o) (hfinished : o.stage ≠ .finished) {stage : Stage}
    (hdraining : stage = .draining → o.listening = true ∧ Ended moves)
    (hsettling : stage = .settling ∨ stage = .finished → Done l.config moves o.taken) :
    Kept l moves { o with stage } where
  called := h.called
  taken_sent := h.taken_sent
  taken_append _ := h.taken_append hfinished
  ended := h.ended
  listening := h.listening
  before_last := h.before_last
  deaf := h.deaf
  draining := hdraining
  settling := hsettling

/-- In its loop nothing is asked of it. -/
theorem goTo (h : Kept l moves o) (hfinished : o.stage ≠ .finished) {stage : Stage}
    (hstage : stage ≠ .draining ∧ stage ≠ .settling ∧ stage ≠ .finished) :
    Kept l moves { o with stage } :=
  h.goesTo hfinished (fun hnow => absurd hnow hstage.1) fun hnow =>
    absurd hnow (not_or.2 hstage.2)

/-- The observation leaves its loop where no more records are to be taken. -/
theorem goSettle (h : Kept l moves o) (hfinished : o.stage ≠ .finished)
    (hdone : Done l.config moves o.taken) : Kept l moves { o with stage := .settling } :=
  h.goesTo hfinished nofun fun _ => hdone

theorem leave (h : Kept l moves o) (hfinished : o.stage ≠ .finished) (hended : Ended moves) :
    Kept l moves o.leave := by
  unfold Observation.leave
  split
  · next hlistening =>
    exact h.goesTo hfinished (fun _ => ⟨hlistening, hended⟩) fun hnow => by
      rcases hnow with hnow | hnow <;> exact nomatch hnow
  · next hdeaf => exact h.goSettle hfinished (h.deaf (Bool.eq_false_iff.2 hdeaf))

/-- The loader is called once more. -/
theorem called_concat (h : Kept l moves o) (c : Call A) {l' : Loader A} {taken : List Mutation}
    (hloader : ∀ s : Session A, s.loader = o.loader → (s.call c).loader = l')
    (htaken : o.taken ++ c.record?.toList = taken) :
    ∃ calls, l' = ((Session.ofLoader l).run calls).loader ∧
      calls.filterMap Call.record? = taken := by
  obtain ⟨calls, hcalled, hcalls⟩ := h.called
  refine ⟨calls ++ [c], ?_, ?_⟩
  · rw [Session.run_concat, hloader _ hcalled.symm]
  · rw [List.filterMap_append, hcalls, ← htaken]
    cases c <;> rfl

/-- All records that came are taken. -/
theorem done_of_records (h : Kept l moves o) (hfinished : o.stage ≠ .finished)
    (hrecords : o.records = []) (hended : Ended moves) : Done l.config moves o.taken := by
  have hsent := h.taken_append hfinished
  rw [hrecords, List.append_nil] at hsent
  exact .inr ⟨hended, hsent ▸ sentBefore_prefix_sent moves⟩

/-- A record is taken while the observation listens. -/
theorem take (h : Kept l moves o) (hfinished : o.stage ≠ .finished)
    (hlistening : o.listening = true) {m : Mutation} {ms : List Mutation}
    (hrecords : o.records = m :: ms) {stage : Stage}
    (hdraining : stage = .draining → (o.take m).listening = true ∧ Ended moves)
    (hsettling : stage = .settling → (o.take m).listening = false) (hgoes : stage ≠ .finished) :
    Kept l moves { o.take m with records := ms, stage } := by
  have hlast : (o.take m).listening = !isLast l.config m := by
    rw [← h.config_eq]
    exact congrArg (· && _) hlistening
  have hsent : (o.taken ++ [m]) ++ ms = sent moves := by
    rw [← h.taken_append hfinished, hrecords, List.append_assoc]
    rfl
  have hdone : (o.take m).listening = false → Done l.config moves (o.taken ++ [m]) := by
    intro hdeaf
    rw [hlast, Bool.not_eq_false'] at hdeaf
    exact .inl ⟨o.taken, m, rfl, hdeaf⟩
  exact
    { called := h.called_concat (.handleMutation m)
        (fun _ hs => congrArg (fun l => (handleMutation m l).2) hs) rfl
      taken_sent := ⟨ms, hsent⟩
      taken_append := fun _ => hsent
      ended := h.ended
      listening := fun hnow a ha => by
        rcases List.mem_append.1 ha with ha | ha
        · exact h.listening hlistening a ha
        · cases List.mem_singleton.1 ha
          have hopen : (o.take m).listening = true := hnow
          rwa [hlast, Bool.not_eq_true'] at hopen
      before_last := fun a ha => by
        have hdrop : (o.taken ++ [m]).dropLast = o.taken := List.dropLast_concat
        exact h.listening hlistening a (hdrop ▸ ha)
      deaf := hdone
      draining := hdraining
      settling := fun hnow => by
        rcases hnow with hnow | hnow
        · exact hdone (hsettling hnow)
        · exact absurd hnow hgoes }

/-- The loader looks for an answer to a fetch. -/
theorem complete (h : Kept l moves o) (answers : Answers A) :
    Kept l moves { o with loader := (completeNext answers o.loader).2 } where
  called := h.called_concat (.completeNext answers)
    (fun _ hs => congrArg (fun l => (completeNext answers l).2) hs) (List.append_nil _)
  taken_sent := h.taken_sent
  taken_append := h.taken_append
  ended := h.ended
  listening := h.listening
  before_last := h.before_last
  deaf := h.deaf
  draining := h.draining
  settling := h.settling

theorem settle (h : Kept l moves o) (answers : Answers A) (hstage : o.stage = .settling) :
    Kept l moves (o.settle answers).1 where
  called := h.called_concat (.completeReady fun _ => answers)
    (fun _ hs => congrArg (fun l => (completeReady (fun _ => answers) l).2) hs)
    (List.append_nil _)
  taken_sent := h.taken_sent
  taken_append hnow := absurd rfl hnow
  ended := h.ended
  listening := h.listening
  before_last := h.before_last
  deaf := h.deaf
  draining := nofun
  settling _ := h.settling (.inl hstage)

theorem goOn (h : Kept l moves o) (hfinished : o.stage ≠ .finished) : Kept l moves o.goOn.1 := by
  unfold Observation.goOn
  split
  · next hstopped => exact h.leave hfinished (h.ended.1 (.inl hstopped))
  · split
    · next hidle =>
      have hdeaf : o.listening = false := by
        rw [Bool.and_eq_true, Bool.not_eq_true'] at hidle
        exact hidle.1
      exact h.goSettle hfinished (h.deaf hdeaf)
    · exact h.goTo hfinished (by decide)

theorem lookForStop (h : Kept l moves o) (hfinished : o.stage ≠ .finished) :
    Kept l moves o.lookForStop.1 := by
  unfold Observation.lookForStop
  split
  · exact h.goTo hfinished (by decide)
  · split
    · next habandoned => exact h.leave hfinished (h.ended.1 (.inr habandoned))
    · exact h.goTo hfinished (by decide)

theorem lookForRecord (h : Kept l moves o) (hfinished : o.stage ≠ .finished) :
    Kept l moves o.lookForRecord.1 := by
  unfold Observation.lookForRecord
  split
  · next hlistening =>
    split
    · next m ms hrecords =>
      exact h.take hfinished hlistening hrecords nofun nofun (by decide)
    · next hrecords =>
      split
      · next habandoned =>
        have hdone := h.done_of_records hfinished hrecords (h.ended.1 (.inr habandoned))
        have hnext : Kept l moves { o with stage := .deciding } :=
          h.goTo hfinished (by decide)
        exact { hnext with listening := nofun, deaf := fun _ => hdone, draining := nofun }
      · exact h.goTo hfinished (by decide)
  · exact h.goTo hfinished (by decide)

theorem lookForAnswer (h : Kept l moves o) (hfinished : o.stage ≠ .finished) (answers : Answers A) :
    Kept l moves (o.lookForAnswer answers).1 := by
  have hcomplete := h.complete answers
  unfold Observation.lookForAnswer
  rcases hout : completeNext answers o.loader with ⟨progress, loader⟩
  rw [hout] at hcomplete
  cases progress <;> exact hcomplete.goTo hfinished (by decide)

theorem drain (h : Kept l moves o) (hstage : o.stage = .draining) : Kept l moves o.drain.1 := by
  obtain ⟨hlistening, hended⟩ := h.draining hstage
  have hfinished : o.stage ≠ .finished := by
    rw [hstage]
    decide
  unfold Observation.drain
  split
  · next m ms hrecords =>
    dsimp only
    refine h.take hfinished hlistening hrecords ?_ ?_ ?_
    · intro hnow
      split at hnow
      · next hopen => exact ⟨hopen, hended⟩
      · exact nomatch hnow
    · intro hnow
      split at hnow
      · exact nomatch hnow
      · next hdeaf => exact Bool.eq_false_iff.2 hdeaf
    · split <;> decide
  · next hrecords => exact h.goSettle hfinished (h.done_of_records hfinished hrecords hended)

/-- What an act keeps. -/
theorem act (h : Kept l moves o) (answers : Answers A) : Kept l moves (act answers o).1 := by
  unfold Observation.act
  cases hstage : o.stage with
  | deciding => exact h.goOn (by rw [hstage]; decide)
  | lookingForStop => exact h.lookForStop (by rw [hstage]; decide)
  | lookingForRecord => exact h.lookForRecord (by rw [hstage]; decide)
  | lookingForAnswer => exact h.lookForAnswer (by rw [hstage]; decide) answers
  | draining => exact h.drain hstage
  | settling => exact h.settle answers hstage
  | finished => exact h

theorem move (h : Kept l moves o) (last : Move A) : Kept l (moves ++ [last]) (o.move last) := by
  cases last with
  | notify m => exact h.notify m
  | stop => exact h.silent rfl (iff_of_true (.inl rfl) ((ended_append_iff .stop).2 (.inr rfl)))
  | abandon =>
      exact h.silent rfl (iff_of_true (.inr rfl) ((ended_append_iff .abandon).2 (.inr rfl)))
  | act answers =>
      have hact := h.act answers
      exact hact.silent rfl (hact.ended.trans (ended_append_of_not (.act answers) rfl).symm)

end Kept

end Observation

end Componentry
