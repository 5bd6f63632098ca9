import Componentry.Loading.Loader

/-!
# Observing a document

An observation owns a loader and takes records of added nodes until it is stopped or abandoned. It
goes on in small acts, so that records and a stop may come between any two: it decides whether to go
on, looks for a stop, then for one record, then for one fetch, and waits where there is none of
these. At a stop the records that have come are still taken. With `oneShot` no record is taken after
the first for a container, and the observation ends when the fetches are done.
-/

namespace Componentry

open Loader

variable {A : Type}

inductive Stage where
  | deciding
  | lookingForStop
  | lookingForRecord
  | lookingForAnswer
  /-- It takes the records that have come. -/
  | draining
  /-- It loads the definitions whose fetches are answered, and ends. -/
  | settling
  | finished
  deriving DecidableEq, Repr

structure Observation (A : Type) where
  loader : Loader A
  /-- The records that have come and are not taken, oldest first. -/
  records : List Mutation
  /-- The records that the loader was given, oldest first. -/
  taken : List Mutation
  /-- Whether records are still taken. -/
  listening : Bool
  stopped : Bool
  /-- Whether nobody is left who could send records or stop it. -/
  abandoned : Bool
  stage : Stage

namespace Observation

def start (loader : Loader A) : Observation A where
  loader
  records := []
  taken := []
  listening := true
  stopped := false
  abandoned := false
  stage := .deciding

def finished (o : Observation A) : Bool := o.stage = .finished

/-- Sends a record. It is not delivered after the end. -/
def notify (o : Observation A) (m : Mutation) : Observation A × Bool :=
  if o.finished then (o, false) else ({ o with records := o.records ++ [m] }, true)

def stop (o : Observation A) : Observation A := { o with stopped := true }

def abandon (o : Observation A) : Observation A := { o with abandoned := true }

/-- Whether a record is the last one that is taken: with `oneShot`, the first for a container. -/
def isLast (config : Config A) (m : Mutation) : Bool := config.oneShot && m.isFor config

variable [Addressing A]

def take (o : Observation A) (m : Mutation) : Observation A :=
  { o with
    loader := (handleMutation m o.loader).2
    taken := o.taken ++ [m]
    listening := o.listening && !isLast o.loader.config m }

/-- Leaves the loop: records that have come are taken first, if it still listens. -/
def leave (o : Observation A) : Observation A :=
  { o with stage := if o.listening then .draining else .settling }

inductive Turn where
  | went
  /-- There is nothing to do for now. -/
  | waits
  | ended
  deriving DecidableEq, Repr

def goOn (o : Observation A) : Observation A × Turn :=
  if o.stopped then (o.leave, .went)
  else if !o.listening && o.loader.pending.isEmpty then ({ o with stage := .settling }, .went)
  else ({ o with stage := .lookingForStop }, .went)

def lookForStop (o : Observation A) : Observation A × Turn :=
  if o.stopped then ({ o with stage := .deciding }, .went)
  else if o.abandoned then (o.leave, .went)
  else ({ o with stage := .lookingForRecord }, .went)

/-- Looks for a record. There will be none if nobody is left to send it. -/
def lookForRecord (o : Observation A) : Observation A × Turn :=
  if o.listening then
    match o.records with
    | m :: ms => ({ o.take m with records := ms, stage := .deciding }, .went)
    | [] =>
      if o.abandoned then ({ o with listening := false, stage := .deciding }, .went)
      else ({ o with stage := .lookingForAnswer }, .went)
  else ({ o with stage := .lookingForAnswer }, .went)

/-- Looks for an answer to a fetch. Without one it waits, and begins again with the stop. -/
def lookForAnswer (answers : Answers A) (o : Observation A) : Observation A × Turn :=
  let (progress, loader) := completeNext answers o.loader
  match progress with
  | .done _ => ({ o with loader, stage := .deciding }, .went)
  | _ => ({ o with loader, stage := .lookingForStop }, .waits)

def drain (o : Observation A) : Observation A × Turn :=
  match o.records with
  | m :: ms =>
    let next := o.take m
    ({ next with records := ms, stage := if next.listening then .draining else .settling }, .went)
  | [] => ({ o with stage := .settling }, .went)

def settle (answers : Answers A) (o : Observation A) : Observation A × Turn :=
  ({ o with
    loader := (completeReady (fun _ => answers) o.loader).2
    records := []
    stage := .finished }, .ended)

def act (answers : Answers A) (o : Observation A) : Observation A × Turn :=
  match o.stage with
  | .deciding => o.goOn
  | .lookingForStop => o.lookForStop
  | .lookingForRecord => o.lookForRecord
  | .lookingForAnswer => o.lookForAnswer answers
  | .draining => o.drain
  | .settling => o.settle answers
  | .finished => (o, .ended)

def acts (answers : Answers A) : Nat → Observation A → Observation A
  | 0, o => o
  | n + 1, o =>
    match act answers o with
    | (o, .went) => acts answers n o
    | (o, _) => o

/-- A bound on the acts that can be done before there is nothing to do: a round of four for each
record, for each node in them, for each fetch and for the end. -/
def bound (o : Observation A) : Nat :=
  4 * (o.records.length + (o.records.flatMap (·.added)).length + o.loader.pending.length + 1)

def poll (answers : Answers A) (o : Observation A) : Observation A :=
  if o.finished then o else acts answers o.bound o

end Observation

end Componentry
