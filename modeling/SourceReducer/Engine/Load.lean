import SourceReducer.Engine.Session

/-! Loading: every input is copied to its working file, which is then taken as committed. -/
namespace SourceReducer

/-- Copies and opens units from number `unit` on. -/
def loadFrom (language : Language) (suffix : String) (unit : Nat) :
    List FileMapping → Files → Except Failure (List WorkingCopy) × Files
  | [], files => (.ok [], files)
  | mapping :: rest, files =>
      match files.copy mapping.input mapping.output with
      | .error fault => (.error (.file mapping.input fault), files)
      | .ok copied =>
          match WorkingCopy.load language copied unit mapping.output suffix with
          | .error failure => (.error failure, copied)
          | .ok copy =>
              match loadFrom language suffix (unit + 1) rest copied with
              | (.error failure, final) => (.error failure, final)
              | (.ok copies, final) => (.ok (copy :: copies), final)

/-- Refuses settings and mappings that no session can start from. -/
def checkSetup (settings : Settings) (mappings : List FileMapping) (files : Files) :
    Except Failure Unit :=
  match settings.validate with
  | .error fault => .error (.settings fault)
  | .ok _ =>
      if mappings.isEmpty then .error .noInputs
      else
        match FileMapping.checkDistinct files mappings with
        | .error fault => .error (.settings fault)
        | .ok _ => .ok ()

/-- Starts a session. Where it fails, the files hold what was copied until then. -/
def Engine.load {σ : Type} (e : Engine σ) (settings : Settings) (mappings : List FileMapping)
    (files : Files) : Except Failure (Session σ) × Files :=
  match checkSetup settings mappings files with
  | .error failure => (.error failure, files)
  | .ok _ =>
      match loadFrom e.language settings.stagingSuffix 0 mappings files with
      | (.error failure, copied) => (.error failure, copied)
      | (.ok copies, copied) =>
          let forest := { generation := 0, trees := copies.map WorkingCopy.tree }
          (.ok { copies, forest, files := copied, state := e.invariant.start }, copied)

end SourceReducer
