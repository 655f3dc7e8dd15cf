import SourceReducer.Strategy.Basic

/-! Strategies that are written out as lists of actions. -/
namespace SourceReducer

/-- The generation that a scripted reference belongs to. -/
inductive ScriptGeneration
  | fixed (generation : Nat)
  /-- That of the forest when the action is played. -/
  | current
  /-- That of the forest which the pass was given. -/
  | ofPass

structure ScriptRef where
  generation : ScriptGeneration
  unit : Nat
  index : Nat

inductive Action
  | remove (refs : List ScriptRef)
  | force (refs : List ScriptRef)
  | cleanup
  /-- Ends the pass. -/
  | finish (control : Control)
  | fail (message : String)
  | makeDirectory (path : String)
  | removeDirectory (path : String)

/-- An action, and whether the pass goes on whatever comes of it. -/
structure ScriptStep where
  action : Action
  keep : Bool := false

structure Script where
  prepare : List ScriptStep := []
  passes : List (List ScriptStep) := []
  statistics : String := ""
  statisticsFault : Option String := none

namespace Script

def resolve (given current : Forest) (refs : List ScriptRef) : RefSet :=
  .ofList (refs.map fun r =>
    let generation := match r.generation with
      | .fixed generation => generation
      | .current => current.generation
      | .ofPass => given.generation
    { generation, unit := r.unit, index := r.index })

/-- A change of the files that is left undone where it fails. -/
def attempt (change : Files → Except FileFault Files) (files : Files) : Files :=
  match change files with
  | .ok changed => changed
  | .error _ => files

/-- Plays actions on the forest that a pass was given and the one that stands now. -/
def play {τ : Type} (given : Forest) (state : τ) : Forest → List ScriptStep → Dialogue τ
  | _, [] => .done (.ok (.failed .exhausted)) state
  | current, step :: rest =>
      let request := fun r => Dialogue.ask r fun answer =>
        if step.keep then play given state answer.forest rest
        else
          match answer.outcome with
          | .error failure => .done (.error failure) state
          | .ok (.failed _) => play given state answer.forest rest
          | .ok control => .done (.ok control) state
      match step.action with
      | .remove refs => request (.remove (resolve given current refs))
      | .force refs => request (.force (resolve given current refs))
      | .cleanup => request .cleanup
      | .finish control => .done (.ok control) state
      | .fail message =>
          if step.keep then play given state current rest
          else .done (.error (.strategy message)) state
      | .makeDirectory path =>
          .touch (attempt fun files => files.makeDirectory path) (play given state current rest)
      | .removeDirectory path =>
          .touch (attempt fun files => files.removeDirectory path) (play given state current rest)

/-- A script as a strategy. Its state is the number of passes that were played. -/
def strategy (s : Script) : Strategy Nat where
  name := "script"
  start := 0
  prepare := fun _ f state => play f state f s.prepare
  pass := fun _ f state => play f (state + 1) f (s.passes[state]?.getD [])
  statistics := fun _ =>
    match s.statisticsFault with
    | some message => .error message
    | none => .ok s.statistics
  passBound := fun _ => s.passes.length + 1

end Script

end SourceReducer
