/-
# Hosts and the stage

A host shows what a playback plays. It has a memory of its own, may read and write stores, and is
called at fixed moments. A tag or a method that the playback does not know goes to the host, which
decides it from what it is given and what it remembers. A tag may also end the playback, give it
another store, or fail.

The stage is what lies around a playback: the memory of the host and the stores, and the record of
the calls made to the host and of the notices left.
-/

import Dialogue.Playback.Notice
import Dialogue.Playback.State

namespace Dialogue

/-- A call made to the host. -/
inductive Callback where
  /-- The playback starts with the script at a path. -/
  | start (script : String)
  /-- A speech is said. -/
  | speech (cue : Cue) (speech : Speech)
  /-- A quote is shown. -/
  | quote (quote : Quote)
  /-- Choices are offered. -/
  | choices (links : List Link)
  /-- The playback is over. -/
  | finish
  /-- A tag is to be handled. -/
  | tag (tag : Tag)
  /-- A call is to be decided. -/
  | condition (call : Call)
deriving DecidableEq

/-- What a host can reach: its memory and the stores. -/
structure World (μ : Type) where
  /-- The memory of the host. -/
  memory : μ
  /-- The stores. -/
  stores : Shelf

/-- What a host answers to a tag. -/
structure TagReply where
  /-- Whether the host has handled the tag, or why it failed. -/
  outcome : Except Error Bool
  /-- Whether the playback is to end. -/
  finish : Bool := false
  /-- The mark of the store to write to from now on, if it changes. -/
  store : Option StoreId := none

/-- A host with a memory of a given type. -/
structure Host (μ : Type) where
  /-- The playback starts. -/
  start : State → World μ → World μ
  /-- A speech is said. -/
  speech : Cue → Speech → World μ → World μ
  /-- A quote is shown. -/
  quote : Quote → World μ → World μ
  /-- Choices are offered. -/
  choices : List Link → World μ → World μ
  /-- The playback is over. -/
  finish : World μ → World μ
  /-- Handles a tag. -/
  tag : Tag → State → World μ → TagReply × World μ
  /-- Decides a call, if the host knows its method. -/
  condition : Call → State → World μ → Option Bool × World μ

/-- What lies around a playback. -/
structure Stage (μ : Type) extends World μ where
  /-- The calls made to the host so far. -/
  calls : List Callback
  /-- The notices left so far. -/
  notices : List Notice

namespace Stage

variable {μ : Type}

/-- Leaves a notice. -/
def note (stage : Stage μ) (location : Location) (remark : Remark) : Stage μ :=
  { stage with notices := stage.notices ++ [⟨location, remark⟩] }

/-- Records a call to the host and what it makes of the world. -/
def called (stage : Stage μ) (callback : Callback) (world : World μ) : Stage μ :=
  { stage with toWorld := world, calls := stage.calls ++ [callback] }

/-- Puts another store under a mark. -/
def putStore (stage : Stage μ) (id : StoreId) (store : Store) : Stage μ :=
  { stage with stores := stage.stores.put id store }

/-- Counts a visit of the running script in the store of a state, if there is one. -/
def markVisited (stage : Stage μ) (state : State) : Stage μ :=
  match state.store with
  | some id => stage.putStore id ((stage.stores.get id).markVisited state.script.path)
  | none => stage

end Stage

end Dialogue
