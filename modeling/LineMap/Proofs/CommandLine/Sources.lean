import LineMap.CommandLine.Session
import LineMap.Proofs.Config.FileReports
import LineMap.Proofs.Config.Overlay

/-!
# Sources of settings

A source is a configuration file or an assignment.  What it offers is fixed by the files alone: a
fault, a refusal, or settings for the fields that it mentions.  Applied to any valid configuration,
it makes the settings it offers; a refusal is one report of an error.
-/

set_option autoImplicit false

namespace LineMap

open LineMap.Diagnostics
open LineMap.Files
open LineMap.Json
open LineMap.Validation

namespace CommandLine

inductive Source where
  | file (path : Path)
  | assignment (word : String)

abbrev Offer : Type := Except Fault (Option (List Setting))

def Offer.refusals : Offer → Nat
  | .ok none => 1
  | _ => 0

namespace Source

def origin : Source → Origin
  | .file _ => .document
  | .assignment _ => .assignment

/-- The document in a file, if the file can be read and holds JSON. -/
def document? (files : FileSystem) (path : Path) : Except Fault (Option Value) :=
  if path.hasNull then .error .nullInPath
  else
    match readBytes files path with
    | .error _ => .ok none
    | .ok bytes =>
        ((decodeText bytes).mapError .malformedText).map fun text =>
          (Payload.text text).json.toOption

/-- The field at a path, with the value that it is to take by its wording. -/
def assignedAt? (path : String) (wording : Str) : Except Fault (Option (Leaf × Value)) :=
  (Config.wordingValue wording).map fun given? => do
    let given ← given?
    let leaf ← (Config.fieldAt path).toOption
    return (leaf, Config.valueFor leaf wording given)

/-- The field that an assignment names, with the value that it is to take. -/
def assigned? (word : String) : Except Fault (Option (Leaf × Value)) :=
  match splitAssignment word with
  | none => .ok none
  | some (path, wording) => assignedAt? path (.ofString wording)

/-- The setting that an assignment makes, if its value can be read. -/
def settingsOf (assigned : Leaf × Value) : Option (List Setting) :=
  (Config.readLeaf .assignment assigned.1 assigned.2).toOption.map fun value =>
    [⟨assigned.1, value⟩]

def mention? (files : FileSystem) (source : Source) (leaf : Leaf) : Option Value :=
  match source with
  | .file path => do
      let document ← (← (document? files path).toOption)
      Config.mention? document leaf
  | .assignment word => do
      let (named, raw) ← (← (assigned? word).toOption)
      if named = leaf then some raw else none

def offer (files : FileSystem) : Source → Offer
  | .file path =>
      (document? files path).map fun document? =>
        document?.bind fun document => (Config.documentSettings .document document).toOption
  | .assignment word =>
      (assigned? word).map fun assigned? => assigned?.bind settingsOf

def accepted (files : FileSystem) (source : Source) : Bool :=
  match source.offer files with
  | .ok (some _) => true
  | _ => false

def refused (files : FileSystem) (source : Source) : Bool :=
  match source.offer files with
  | .ok none => true
  | _ => false

def applyTo (files : FileSystem) (source : Source) (config : Config) : Run (Option Config) :=
  match source with
  | .file path => Config.loadFile? files path config .journal
  | .assignment word => assignWord .journal config word

variable {files : FileSystem} {source : Source} {settings : List Setting}

/-! ## What an accepted source does to the fields -/

theorem offer_file_eq_ok_some {path : Path}
    (offered : (Source.file path).offer files = .ok (some settings)) :
    ∃ document, document? files path = .ok (some document) ∧
      Config.documentSettings .document document = .ok settings := by
  obtain ⟨found?, read, offered⟩ := Result.map_eq_ok_iff.mp offered
  obtain ⟨document, rfl, made⟩ := Option.bind_eq_some_iff.mp offered
  exact ⟨document, read, Result.toOption_eq_some_iff.mp made⟩

theorem offer_assignment_eq_ok_some {word : String}
    (offered : (Source.assignment word).offer files = .ok (some settings)) :
    ∃ leaf raw value, assigned? word = .ok (some (leaf, raw)) ∧
      Config.readLeaf .assignment leaf raw = .ok value ∧ settings = [⟨leaf, value⟩] := by
  obtain ⟨found?, read, offered⟩ := Result.map_eq_ok_iff.mp offered
  obtain ⟨⟨leaf, raw⟩, rfl, made⟩ := Option.bind_eq_some_iff.mp offered
  obtain ⟨value, valueRead, rfl⟩ := Option.map_eq_some_iff.mp made
  exact ⟨leaf, raw, value, read, Result.toOption_eq_some_iff.mp valueRead, rfl⟩

theorem admits_of_offer (offered : source.offer files = .ok (some settings)) :
    ∀ setting ∈ settings, setting.leaf.Admits setting.value := by
  cases source with
  | file path =>
      obtain ⟨document, -, made⟩ := offer_file_eq_ok_some offered
      obtain ⟨-, -, rfl⟩ := (Config.documentSettings_eq_ok_iff _ _ _).mp made
      exact fun setting => Config.admits_of_mem_mentioned
  | assignment word =>
      obtain ⟨leaf, raw, value, -, read, rfl⟩ := offer_assignment_eq_ok_some offered
      intro setting member
      obtain rfl := List.mem_singleton.mp member
      exact Config.admits_of_readLeaf read

/-- The value for a field that stands in an accepted source is the one that the field gets. -/
theorem readLeaf_of_mention (offered : source.offer files = .ok (some settings)) {leaf : Leaf}
    {raw : Value} (found : source.mention? files leaf = some raw) (config : Config) :
    Config.readLeaf source.origin leaf raw = .ok ((config.apply settings).get leaf) := by
  cases source with
  | file path =>
      obtain ⟨document, read, made⟩ := offer_file_eq_ok_some offered
      obtain ⟨-, readable, rfl⟩ := (Config.documentSettings_eq_ok_iff _ _ _).mp made
      have found : Config.mention? document leaf = some raw := by
        simpa [mention?, read, Except.toOption] using found
      obtain ⟨value, valueRead⟩ := readable leaf raw found
      rw [Config.get_apply_mentioned, found, Option.bind_some, valueRead]
      exact valueRead
  | assignment word =>
      obtain ⟨named, given, value, read, valueRead, rfl⟩ := offer_assignment_eq_ok_some offered
      have found : named = leaf ∧ given = raw := by
        simpa [mention?, read, Except.toOption] using found
      obtain ⟨rfl, rfl⟩ := found
      exact valueRead.trans (congrArg _ (Config.get_set_self config named value).symm)

/-- A field that an accepted source does not mention stays as it is. -/
theorem get_apply_of_no_mention (offered : source.offer files = .ok (some settings)) {leaf : Leaf}
    (absent : source.mention? files leaf = none) (config : Config) :
    (config.apply settings).get leaf = config.get leaf := by
  cases source with
  | file path =>
      obtain ⟨document, read, made⟩ := offer_file_eq_ok_some offered
      obtain ⟨-, -, rfl⟩ := (Config.documentSettings_eq_ok_iff _ _ _).mp made
      have absent : Config.mention? document leaf = none := by
        simpa [mention?, read, Except.toOption] using absent
      rw [Config.get_apply_mentioned, absent]
      rfl
  | assignment word =>
      obtain ⟨named, given, value, read, valueRead, rfl⟩ := offer_assignment_eq_ok_some offered
      have differs : named ≠ leaf := by
        simpa [mention?, read, Except.toOption] using absent
      exact Config.get_set_of_ne config (Ne.symm differs) value

/-! ## What applying a source answers and reports -/

theorem reports_assignError (error : Config.AssignError) :
    Reports .error (Config.reportError .journal [] error) (.ok none) 1 :=
  (Reports.coded .error error.identifier error.message [] nofun).andThen (.pure none)

theorem reports_readFile (level : Level) (files : FileSystem) (path : Path) :
    Reports level (readFile files path)
      (if path.hasNull then .error .nullInPath else .ok (readBytes files path)) 0 := by
  unfold readFile
  by_cases null : path.hasNull
  · rw [if_pos null, if_pos null]
    exact .throw .nullInPath
  · rw [if_neg null, if_neg null]
    exact .pure (readBytes files path)

theorem reports_loadFile (files : FileSystem) {config : Config} (valid : config.Valid)
    (path : Path) :
    Reports .error (Config.loadFile? files path config .journal)
      (((Source.file path).offer files).map fun settings? => settings?.map config.apply)
      ((Source.file path).offer files).refusals := by
  have announced := (Config.logs_loading .journal path).reports .error
  by_cases null : path.hasNull
  · have offered : (Source.file path).offer files = .error .nullInPath := by
      simp [offer, document?, null, Except.map]
    have opened := reports_readFile .error files path
    rw [if_pos null] at opened
    rw [offered]
    exact announced.andThen_of_silent opened.bind_error
  have noNull : path.hasNull = false := Bool.eq_false_iff.mpr null
  cases read : readBytes files path with
  | error error =>
      have offered : (Source.file path).offer files = .ok none := by
        simp [offer, document?, null, read, Except.map]
      rw [offered]
      exact (Config.logs_loadFile_of_isUnreadable .journal ⟨noNull, error, read⟩ config).reports
        .error
  | ok bytes =>
      cases decoded : decodeText bytes with
      | error sequence =>
          have offered : (Source.file path).offer files = .error (.malformedText sequence) := by
            simp [offer, document?, null, read, decoded, Except.map, Except.mapError]
          have opened := reports_readFile .error files path
          rw [if_neg null, read] at opened
          rw [offered]
          refine announced.andThen_of_silent (opened.bind_of_silent ?_)
          exact (Reports.attempt (by rw [decoded]; rfl)).bind_error
      | ok text =>
          have offered : (Source.file path).offer files =
              .ok ((Payload.text text).json >>= Config.documentSettings .document).toOption := by
            simp only [offer, document?, null, read, decoded, Except.map, Except.mapError]
            cases (Payload.text text).json <;> rfl
          have logs := Config.logs_loadFile_of_holdsText .journal ⟨noNull, bytes, read, decoded⟩
            config
          rw [Config.overlay_eq valid] at logs
          rw [offered]
          cases made : (Payload.text text).json >>= Config.documentSettings .document with
          | ok settings =>
              rw [made] at logs
              exact logs.reports .error
          | error issues =>
              rw [made] at logs
              exact logs.reports .error

theorem reports_assignValue (config : Config) (path : String) (leaf : Leaf) (raw : Value) :
    Reports .error
      (match config.assignValue path leaf raw with
        | .error error => Config.reportError .journal [] error
        | .ok assigned => return some assigned)
      (.ok ((settingsOf (leaf, raw)).map config.apply))
      (Offer.refusals (.ok (settingsOf (leaf, raw)))) := by
  unfold Config.assignValue settingsOf
  cases Config.readLeaf .assignment leaf raw with
  | error issues => exact reports_assignError _
  | ok value => exact .pure (some (config.set leaf value))

theorem reports_assign (config : Config) (path : String) (wording : Str) :
    Reports .error (config.assign? path wording .journal none)
      ((assignedAt? path wording).map fun assigned? =>
        (assigned?.bind settingsOf).map config.apply)
      (Offer.refusals ((assignedAt? path wording).map fun assigned? =>
        assigned?.bind settingsOf)) := by
  unfold Config.assign? assignedAt?
  cases Config.wordingValue wording with
  | error fault => exact (Reports.attempt rfl).bind_error
  | ok given? =>
      refine (Reports.attempt rfl).bind_of_silent ?_
      cases given? with
      | none => exact reports_assignError (.notJson wording)
      | some given =>
          cases Config.fieldAt path with
          | error error => exact reports_assignError error
          | ok leaf =>
              have announced : Reports .error (Sink.journal.report (.coded .detail "set-field"
                  ("setting configuration field: " ++ path ++ " = " ++
                    (Config.valueFor leaf wording given).compact) [])) (.ok ()) 0 :=
                Reports.coded .detail _ _ [] nofun
              exact announced.andThen_of_silent (reports_assignValue config path leaf _)

theorem reports_assignWord (config : Config) (word : String) :
    Reports .error (assignWord .journal config word)
      (((Source.assignment word).offer files).map fun settings? => settings?.map config.apply)
      ((Source.assignment word).offer files).refusals := by
  cases splitWord : splitAssignment word with
  | none =>
      simp only [assignWord, offer, assigned?, splitWord]
      exact (Reports.coded .error _ _ [] nofun).andThen (.pure none)
  | some parts =>
      have assigned := reports_assign config parts.1 (.ofString parts.2)
      simp only [assignWord, offer, assigned?, splitWord]
      cases made : assignedAt? parts.1 (.ofString parts.2) with
      | error fault =>
          rw [made] at assigned
          exact assigned
      | ok assigned? =>
          rw [made] at assigned
          exact assigned

/-- A source comes to what it offers, and a refusal is one report of an error. -/
theorem reports_applyTo {config : Config} (valid : config.Valid) :
    Reports .error (source.applyTo files config)
      ((source.offer files).map fun settings? => settings?.map config.apply)
      (source.offer files).refusals := by
  cases source with
  | file path => exact reports_loadFile files valid path
  | assignment word => exact reports_assignWord config word

end Source

/-! ## Sequences of sources -/

/-- What a sequence of offers makes of a configuration.  The first fault ends it. -/
def settle : Config → List Offer → Except Fault Config
  | config, [] => .ok config
  | _, .error fault :: _ => .error fault
  | config, .ok settings? :: later => settle (config.apply (settings?.getD [])) later

def refusals : List Offer → Nat
  | [] => 0
  | .error _ :: _ => 0
  | .ok settings? :: later => Offer.refusals (.ok settings?) + refusals later

theorem settle_singleton (offer : Offer) (config : Config) :
    settle config [offer] =
      (offer.map fun settings? => settings?.map config.apply).map (·.getD config) := by
  match offer with
  | .error fault => rfl
  | .ok none => rfl
  | .ok (some settings) => rfl

theorem refusals_singleton (offer : Offer) : refusals [offer] = offer.refusals := by
  cases offer with
  | error fault => rfl
  | ok settings? => rfl

theorem settle_append (front back : List Offer) (config : Config) :
    settle config (front ++ back) =
      settle config front >>= fun settled => settle settled back := by
  induction front generalizing config with
  | nil => rfl
  | cons offer later inductionHypothesis =>
      cases offer with
      | error fault => rfl
      | ok settings? => exact inductionHypothesis _

/-- The offers of sources that are named one by one, where an empty list may stand for one. -/
def offersOf (files : FileSystem) (vacancy : Vacancy) (source : String → Source)
    (given : List (Given String)) : List Offer :=
  given.map fun
    | .value word => (source word).offer files
    | .nothing => .error (.vacant vacancy)

theorem offersOf_value (files : FileSystem) (vacancy : Vacancy) (source : String → Source)
    (word : String) (later : List (Given String)) :
    offersOf files vacancy source (.value word :: later) =
      (source word).offer files :: offersOf files vacancy source later := rfl

/-- Applies sources that are named one by one. -/
def applyAll (files : FileSystem) (vacancy : Vacancy) (source : String → Source) :
    Config → List (Given String) → Run Config
  | config, [] => pure config
  | _, .nothing :: _ => throw (.vacant vacancy)
  | config, .value word :: later => do
      let applied? ← (source word).applyTo files config
      applyAll files vacancy source (applied?.getD config) later

theorem loadFiles_eq_applyAll (files : FileSystem) (given : List (Given String))
    (config : Config) :
    loadFiles files .journal config given =
      applyAll files .path (fun file => .file (.ofString file)) config given := by
  induction given generalizing config with
  | nil => rfl
  | cons first later inductionHypothesis =>
      cases first with
      | value file => simp only [loadFiles, applyAll, Source.applyTo, inductionHypothesis]
      | nothing => rfl

theorem assignAll_eq_applyAll (files : FileSystem) (given : List (Given String))
    (config : Config) :
    assignAll .journal config given = applyAll files .assignment .assignment config given := by
  induction given generalizing config with
  | nil => rfl
  | cons first later inductionHypothesis =>
      cases first with
      | value file => simp only [assignAll, applyAll, Source.applyTo, inductionHypothesis]
      | nothing => rfl

theorem reports_applyAll (files : FileSystem) (vacancy : Vacancy) (source : String → Source)
    (given : List (Given String)) {config : Config} (valid : config.Valid) :
    Reports .error (applyAll files vacancy source config given)
      (settle config (offersOf files vacancy source given))
      (refusals (offersOf files vacancy source given)) := by
  induction given generalizing config with
  | nil => exact .pure config
  | cons first later inductionHypothesis =>
      cases first with
      | nothing => exact .throw (.vacant vacancy)
      | value word =>
          have applied : Reports .error ((source word).applyTo files config) _ _ :=
            Source.reports_applyTo valid
          rw [offersOf_value, applyAll]
          cases offered : (source word).offer files with
          | error fault =>
              rw [offered] at applied
              exact applied.bind_error
          | ok settings? =>
              rw [offered] at applied
              refine applied.bind ?_
              cases settings? with
              | none => exact inductionHypothesis valid
              | some settings =>
                  exact inductionHypothesis (valid.apply (Source.admits_of_offer offered))

theorem valid_settle {offers : List Offer}
    (admitted : ∀ settings, .ok (some settings) ∈ offers →
      ∀ setting ∈ settings, setting.leaf.Admits setting.value)
    {config settled : Config} (valid : config.Valid)
    (finished : settle config offers = .ok settled) : settled.Valid := by
  induction offers generalizing config with
  | nil =>
      cases finished
      exact valid
  | cons offer later inductionHypothesis =>
      have laterAdmitted := fun settings member =>
        admitted settings (List.mem_cons_of_mem offer member)
      cases offer with
      | error fault => cases finished
      | ok settings? =>
          cases settings? with
          | none => exact inductionHypothesis laterAdmitted valid finished
          | some settings =>
              exact inductionHypothesis laterAdmitted
                (valid.apply (admitted settings List.mem_cons_self)) finished

theorem admits_of_mem_offersOf {files : FileSystem} {vacancy : Vacancy}
    {source : String → Source} {given : List (Given String)} {settings : List Setting}
    (member : .ok (some settings) ∈ offersOf files vacancy source given) :
    ∀ setting ∈ settings, setting.leaf.Admits setting.value := by
  obtain ⟨word?, -, offered⟩ := List.mem_map.mp member
  cases word? with
  | value word => exact Source.admits_of_offer offered
  | nothing => cases offered

theorem refusals_append {front : List Offer} {config settled : Config}
    (finished : settle config front = .ok settled) (back : List Offer) :
    refusals (front ++ back) = refusals front + refusals back := by
  induction front generalizing config with
  | nil => exact (Nat.zero_add _).symm
  | cons offer later inductionHypothesis =>
      cases offer with
      | error fault => cases finished
      | ok settings? =>
          rw [List.cons_append, refusals, refusals, inductionHypothesis finished, Nat.add_assoc]

theorem refusals_append_of_fault {front : List Offer} {config : Config} {fault : Fault}
    (ended : settle config front = .error fault) (back : List Offer) :
    refusals (front ++ back) = refusals front := by
  induction front generalizing config with
  | nil => cases ended
  | cons offer later inductionHypothesis =>
      cases offer with
      | error fault => rfl
      | ok settings? => rw [List.cons_append, refusals, refusals, inductionHypothesis ended]

theorem reports_settle_append {β : Type} {work : Run β} {next : β → Run Config}
    {answer : Except Fault β} {read : β → Config} {config : Config} {front back : List Offer}
    (first : Reports .error work answer (refusals front))
    (settled : settle config front = answer.map read)
    (later : ∀ b, settle config front = .ok (read b) →
      Reports .error (next b) (settle (read b) back) (refusals back)) :
    Reports .error (work >>= next) (settle config (front ++ back))
      (refusals (front ++ back)) := by
  rw [settle_append]
  cases answer with
  | error fault =>
      rw [settled, refusals_append_of_fault settled]
      exact first.bind_error
  | ok b =>
      rw [settled, refusals_append settled]
      exact first.bind (later b settled)

end CommandLine

end LineMap
