import LineMap.Proofs.CommandLine.Sources

/-!
# The user's configuration file

Where the user's file lies is fixed by the environment and the files.  Looking for it reports no
error, and fails if the home directory is unknown, a path is too long or a directory may not be
searched.  If the file is there, it is applied like any other file.
-/

set_option autoImplicit false

namespace LineMap

open LineMap.Diagnostics
open LineMap.Files

namespace Files

/-- What stands at a path, unless the path is too long or may not be searched. -/
def stands (files : FileSystem) (path : Path) : Except Fault Node :=
  if path.hasNull then .ok .absent
  else
    match files path with
    | .overlong => .error (.overlongPath path)
    | .unsearchable => .error (.forbiddenPath path)
    | node => .ok node

def holdsDirectory (files : FileSystem) (path : Path) : Except Fault Bool := do
  return (← stands files path) == .directory

def holdsFile (files : FileSystem) (path : Path) : Except Fault Bool := do
  match ← stands files path with
  | .file _ => return true
  | .unreadable => return true
  | _ => return false

variable {level : Level}

theorem reports_look (files : FileSystem) (path : Path) :
    Reports level (look files path) (stands files path) 0 := by
  unfold look stands
  by_cases null : path.hasNull
  · rw [if_pos null, if_pos null]
    exact .pure Node.absent
  · rw [if_neg null, if_neg null]
    cases files path with
    | overlong => exact .throw (.overlongPath path)
    | unsearchable => exact .throw (.forbiddenPath path)
    | absent => exact .pure Node.absent
    | blocked => exact .pure Node.blocked
    | directory => exact .pure Node.directory
    | unreadable => exact .pure Node.unreadable
    | file content => exact .pure (Node.file content)

theorem reports_isDirectory (files : FileSystem) (path : Path) :
    Reports level (isDirectory files path) (holdsDirectory files path) 0 := by
  refine (reports_look files path).bind_silent fun node _ => ?_
  exact .pure (node == .directory)

theorem reports_isFile (files : FileSystem) (path : Path) :
    Reports level (isFile files path) (holdsFile files path) 0 := by
  refine (reports_look files path).bind_silent fun node _ => ?_
  cases node with
  | file content => exact .pure true
  | unreadable => exact .pure true
  | _ => exact .pure false

/-! ## Looking along directories -/

variable {files : FileSystem} {path : Path}

end Files

namespace Config

def existingDirectory? (files : FileSystem) (directory : Path) : Except Fault (Option Path) := do
  return if ← holdsDirectory files directory then some directory else none

def ownDirectory? (surroundings : Surroundings) : Except Fault (Option Path) :=
  match surroundings.configHome?.filter fun configHome => !configHome.isEmpty with
  | some configHome => do
      if ← holdsDirectory surroundings.files (.ofString configHome) then
        existingDirectory? surroundings.files
          ((Path.ofString configHome).child directoryName)
      else return none
  | none => do
      let home ← homeDirectory surroundings.home
      existingDirectory? surroundings.files ((home.child ".config").child directoryName)

def userFile? (surroundings : Surroundings) : Except Fault (Option Path) := do
  match ← ownDirectory? surroundings with
  | none => return none
  | some directory =>
      if ← holdsFile surroundings.files (directory.child fileName) then
        return some (directory.child fileName)
      else return none

theorem reports_detail (message : String) :
    Reports .error (Sink.journal.report (.plain .detail message [])) (.ok ()) 0 :=
  Reports.plain (by decide) message [] nofun

theorem reports_existing (files : FileSystem) (directory : Path) :
    Reports .error (existing? files .journal directory)
      (existingDirectory? files directory) 0 := by
  refine (reports_isDirectory files directory).bind_silent fun found _ => ?_
  cases found with
  | true =>
      refine (reports_detail _).andThen_of_silent ?_
      exact .pure (some directory)
  | false =>
      refine (reports_detail _).andThen_of_silent ?_
      exact .pure none

theorem reports_userDirectory (surroundings : Surroundings) :
    Reports .error (userDirectory? surroundings .journal) (ownDirectory? surroundings) 0 := by
  unfold userDirectory? ownDirectory?
  cases surroundings.configHome?.filter fun configHome => !configHome.isEmpty with
  | some configHome =>
      refine (reports_detail _).andThen_of_silent ?_
      refine (reports_isDirectory _ _).bind_silent fun found _ => ?_
      cases found with
      | true => exact reports_existing _ _
      | false =>
          have warned : Reports .error (Sink.journal.report (.coded .warning "bad-xdg-config-home"
              ("will not load user config. XDG_CONFIG_HOME environment variable is set to '" ++
                configHome ++ "' but this is not an existing directory") [])) (.ok ()) 0 :=
            Reports.coded .warning _ _ [] nofun
          refine warned.andThen_of_silent ?_
          exact .pure none
  | none =>
      refine (reports_detail _).andThen_of_silent ?_
      refine (Reports.attempt rfl).bind_silent fun home _ => ?_
      exact reports_existing _ _

/-! ## When the search fails -/

end Config

namespace CommandLine

def userOffers (surroundings : Surroundings) : List Offer :=
  match Config.userFile? surroundings with
  | .ok none => []
  | .ok (some path) => [(Source.file path).offer surroundings.files]
  | .error fault => [.error fault]

theorem reports_loadUserFile (surroundings : Surroundings) {config : Config}
    (valid : config.Valid) :
    ∃ answer, Reports .error (Config.loadUserFile? surroundings config .journal) answer
        (refusals (userOffers surroundings)) ∧
      settle config (userOffers surroundings) = answer.map (·.getD config) := by
  have searched := Config.reports_userDirectory surroundings
  unfold Config.loadUserFile?
  cases own : Config.ownDirectory? surroundings with
  | error fault =>
      have offers : userOffers surroundings = [.error fault] := by
        simp [userOffers, Config.userFile?, own, bind, Except.bind]
      rw [own] at searched
      rw [offers]
      exact ⟨.error fault, searched.bind_error, rfl⟩
  | ok directory? =>
      rw [own] at searched
      cases directory? with
      | none =>
          have offers : userOffers surroundings = [] := by
            simp [userOffers, Config.userFile?, own, bind, Except.bind, pure, Except.pure]
          rw [offers]
          refine ⟨.ok none, searched.bind_of_silent ?_, rfl⟩
          exact .pure none
      | some directory =>
          have probed : Reports .error _ _ 0 :=
            reports_isFile surroundings.files (directory.child Config.fileName)
          cases held : holdsFile surroundings.files (directory.child Config.fileName) with
          | error fault =>
              have offers : userOffers surroundings = [.error fault] := by
                simp [userOffers, Config.userFile?, own, held, bind, Except.bind]
              rw [held] at probed
              rw [offers]
              refine ⟨.error fault, searched.bind_of_silent ?_, rfl⟩
              exact probed.bind_error
          | ok found =>
              rw [held] at probed
              cases found with
              | true =>
                  have offers : userOffers surroundings =
                      [(Source.file (directory.child Config.fileName)).offer
                        surroundings.files] := by
                    simp [userOffers, Config.userFile?, own, held, bind, Except.bind, pure,
                      Except.pure]
                  have loaded := Source.reports_loadFile surroundings.files valid
                    (directory.child Config.fileName)
                  rw [offers, refusals_singleton]
                  refine ⟨_, searched.bind_of_silent ?_, settle_singleton _ config⟩
                  refine probed.bind_of_silent ?_
                  exact loaded
              | false =>
                  have offers : userOffers surroundings = [] := by
                    simp [userOffers, Config.userFile?, own, held, bind, Except.bind, pure,
                      Except.pure]
                  rw [offers]
                  refine ⟨.ok none, searched.bind_of_silent ?_, rfl⟩
                  refine probed.bind_of_silent ?_
                  refine (Config.reports_detail _).andThen_of_silent ?_
                  exact .pure none

end CommandLine

end LineMap
