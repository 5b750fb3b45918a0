import LineMap.Proofs.CommandLine.Options
import LineMap.Proofs.CommandLine.UserFile

/-!
# Precedence among the sources of the configuration

The sources are applied in order: the user's file, the files that are named, the assignments.  Each
field ends up with what the last accepted source that mentions it gives it.  A refused source leaves
nothing behind but the report of an error.
-/

set_option autoImplicit false

namespace LineMap.CommandLine

open LineMap.Diagnostics
open LineMap.Files
open LineMap.Text
open LineMap.Validation

def userSources (surroundings : Surroundings) : List Source :=
  match Config.userFile? surroundings with
  | .ok (some path) => [.file path]
  | _ => []

def sources (arguments : Arguments) (surroundings : Surroundings) : List Source :=
  (if arguments.noDefaultConfig then [] else userSources surroundings) ++
    ((arguments.configFiles.filterMap Given.toOption).map (fun file => .file (.ofString file)) ++
      (arguments.assignments.filterMap Given.toOption).map .assignment)

def namedOffers (arguments : Arguments) (files : FileSystem) : List Offer :=
  offersOf files .path (fun file => .file (.ofString file)) arguments.configFiles ++
    offersOf files .assignment .assignment arguments.assignments

def offers (arguments : Arguments) (surroundings : Surroundings) : List Offer :=
  (if arguments.noDefaultConfig then [] else userOffers surroundings) ++
    namedOffers arguments surroundings.files

/-- A field holds what the last accepted source that mentions it gives it, or what it held before
if there is none. -/
def Decided (files : FileSystem) (sources : List Source) (start : Config) (leaf : Leaf)
    (value : leaf.Carrier) : Prop :=
  (∃ front source back raw, sources = front ++ source :: back ∧ source.accepted files = true ∧
    source.mention? files leaf = some raw ∧
    Config.readLeaf source.origin leaf raw = .ok value ∧
    ∀ later ∈ back, later.accepted files = true → later.mention? files leaf = none) ∨
  (∀ source ∈ sources, source.accepted files = true → source.mention? files leaf = none) ∧
    value = start.get leaf

variable {files : FileSystem}

theorem Source.accepted_of_offer {source : Source} {settings : List Setting}
    (offered : source.offer files = .ok (some settings)) : source.accepted files = true := by
  rw [accepted, offered]

theorem Source.not_accepted_of_refusal {source : Source}
    (offered : source.offer files = .ok none) : ¬source.accepted files = true := by
  rw [accepted, offered]
  exact Bool.false_ne_true

/-- A source in front of others decides a field unless one of the others does. -/
theorem decided_cons {source : Source} {settings? : Option (List Setting)}
    (offered : source.offer files = .ok settings?) {later : List Source} {start : Config}
    {leaf : Leaf} {value : leaf.Carrier}
    (decided : Decided files later (start.apply (settings?.getD [])) leaf value) :
    Decided files (source :: later) start leaf value := by
  rcases decided with ⟨front, last, back, raw, rfl, rest⟩ | ⟨unmentioned, rfl⟩
  · exact .inl ⟨source :: front, last, back, raw, rfl, rest⟩
  cases settings? with
  | none =>
      refine .inr ⟨List.forall_mem_cons.mpr ⟨fun accepted => ?_, unmentioned⟩, rfl⟩
      exact absurd accepted (Source.not_accepted_of_refusal offered)
  | some settings =>
      cases found : source.mention? files leaf with
      | none =>
          refine .inr ⟨List.forall_mem_cons.mpr ⟨fun _ => found, unmentioned⟩, ?_⟩
          exact Source.get_apply_of_no_mention offered found start
      | some raw =>
          refine .inl ⟨[], source, later, raw, rfl, Source.accepted_of_offer offered, found, ?_,
            unmentioned⟩
          exact Source.readLeaf_of_mention offered found start

theorem decided_of_settle {sources : List Source} {start config : Config}
    (finished : settle start (sources.map fun source => source.offer files) = .ok config)
    (leaf : Leaf) : Decided files sources start leaf (config.get leaf) := by
  induction sources generalizing start with
  | nil =>
      cases finished
      exact .inr ⟨nofun, rfl⟩
  | cons source later inductionHypothesis =>
      rw [List.map_cons] at finished
      cases offered : source.offer files with
      | error fault =>
          rw [offered] at finished
          cases finished
      | ok settings? =>
          rw [offered] at finished
          exact decided_cons offered (inductionHypothesis finished)

/-! ## The run that builds the configuration -/

theorem admits_of_mem_userOffers {surroundings : Surroundings} {settings : List Setting}
    (member : .ok (some settings) ∈ userOffers surroundings) :
    ∀ setting ∈ settings, setting.leaf.Admits setting.value := by
  unfold userOffers at member
  split at member
  · cases member
  · exact Source.admits_of_offer (List.mem_singleton.mp member).symm
  · cases List.mem_singleton.mp member

theorem reports_named (arguments : Arguments) (files : FileSystem) {config : Config}
    (valid : config.Valid) :
    Reports .error
      (loadFiles files .journal config arguments.configFiles >>= fun loaded =>
        assignAll .journal loaded arguments.assignments)
      (settle config (namedOffers arguments files)) (refusals (namedOffers arguments files)) := by
  rw [loadFiles_eq_applyAll]
  have loaded := reports_applyAll files .path (fun file => .file (.ofString file))
    arguments.configFiles valid
  have unchanged := (congrFun Except.map_id (settle config (offersOf files .path
    (fun file => .file (.ofString file)) arguments.configFiles))).symm
  refine reports_settle_append loaded unchanged fun config filesDone => ?_
  rw [assignAll_eq_applyAll files]
  exact reports_applyAll files .assignment .assignment arguments.assignments
    (valid_settle (fun settings => admits_of_mem_offersOf) valid filesDone)

/-- The configuration is what the offers make of the default, and each refusal is one error. -/
theorem reports_buildConfig (arguments : Arguments) (surroundings : Surroundings) :
    Reports .error (buildConfig arguments surroundings .journal)
      (settle .default (offers arguments surroundings))
      (refusals (offers arguments surroundings)) := by
  unfold buildConfig offers
  by_cases disabled : arguments.noDefaultConfig = true
  · rw [if_pos disabled, if_pos disabled, pure_bind]
    exact reports_named arguments surroundings.files Config.valid_default
  · rw [if_neg disabled, if_neg disabled]
    obtain ⟨answer, applied, settled⟩ := reports_loadUserFile surroundings Config.valid_default
    refine reports_settle_append applied settled fun user? userDone => ?_
    refine reports_named arguments surroundings.files (valid_settle ?_ Config.valid_default userDone)
    exact fun settings => admits_of_mem_userOffers

/-- In a run that finishes, nothing is named by an empty list and no source ends in a fault. -/
theorem offersOf_of_settle {vacancy : Vacancy} {source : String → Source}
    {given : List (Given String)} {config settled : Config}
    (finished : settle config (offersOf files vacancy source given) = .ok settled) :
    offersOf files vacancy source given =
      ((given.filterMap Given.toOption).map source).map fun source => source.offer files := by
  induction given generalizing config with
  | nil => rfl
  | cons first later inductionHypothesis =>
      cases first with
      | nothing => cases finished
      | value word =>
          rw [offersOf_value] at finished ⊢
          cases offered : (source word).offer files with
          | error fault =>
              rw [offered] at finished
              cases finished
          | ok settings? =>
              rw [offered] at finished
              rw [inductionHypothesis finished, ← offered]
              rfl

theorem settle_append_eq_ok_iff {front back : List Offer} {start config : Config} :
    settle start (front ++ back) = .ok config ↔
      ∃ settled, settle start front = .ok settled ∧ settle settled back = .ok config := by
  rw [settle_append, Result.bind_eq_ok_iff]

theorem offers_of_settle {arguments : Arguments} {surroundings : Surroundings} {config : Config}
    (finished : settle .default (offers arguments surroundings) = .ok config) :
    offers arguments surroundings =
      (sources arguments surroundings).map fun source => source.offer surroundings.files := by
  obtain ⟨afterUser, userDone, finished⟩ := settle_append_eq_ok_iff.mp finished
  obtain ⟨afterFiles, filesDone, assignmentsDone⟩ := settle_append_eq_ok_iff.mp finished
  rw [offers, sources, List.map_append, List.map_append, namedOffers,
    offersOf_of_settle assignmentsDone, offersOf_of_settle filesDone]
  congr 1
  by_cases disabled : arguments.noDefaultConfig
  · simp [disabled]
  · simp only [disabled, userOffers, userSources] at userDone ⊢
    cases found : Config.userFile? surroundings with
    | error fault =>
        rw [found] at userDone
        cases userDone
    | ok path? => cases path? <;> rfl

theorem accepted_or_refused_of_settle {sources : List Source} {start config : Config}
    (finished : settle start (sources.map fun source => source.offer files) = .ok config) :
    (∀ source ∈ sources, source.accepted files = true ∨ source.refused files = true) ∧
      refusals (sources.map fun source => source.offer files) =
        sources.countP (Source.refused files) := by
  induction sources generalizing start with
  | nil => exact ⟨nofun, rfl⟩
  | cons source later inductionHypothesis =>
      rw [List.map_cons] at finished
      rw [List.map_cons, List.countP_cons, List.forall_mem_cons]
      cases offered : source.offer files with
      | error fault =>
          rw [offered] at finished
          cases finished
      | ok settings? =>
          rw [offered] at finished
          obtain ⟨either, counted⟩ := inductionHypothesis finished
          rw [refusals, counted, Nat.add_comm]
          cases settings? with
          | none =>
              have refused : source.refused files = true := by rw [Source.refused, offered]
              rw [if_pos refused]
              exact ⟨⟨.inr refused, either⟩, rfl⟩
          | some settings =>
              have notRefused : ¬source.refused files = true := by
                rw [Source.refused, offered]
                exact Bool.false_ne_true
              rw [if_neg notRefused]
              exact ⟨⟨.inl (Source.accepted_of_offer offered), either⟩, rfl⟩

/-- A source is accepted or refused whatever the valid configuration that it is applied to. -/
theorem run_applyTo (source : Source) {config : Config} (valid : config.Valid) (before : Journal) :
    (source.accepted files = true → ∃ applied after,
      (source.applyTo files config).run before = (.ok (some applied), after) ∧
        after.counts .error = before.counts .error) ∧
    (source.refused files = true → ∃ after,
      (source.applyTo files config).run before = (.ok none, after) ∧
        after.counts .error = before.counts .error + 1) := by
  have reports : Reports .error (source.applyTo files config) _ _ := Source.reports_applyTo valid
  cases ran : (source.applyTo files config).run before with
  | mk answer after =>
      obtain ⟨rfl, counted⟩ := reports.eq_of_run ran
      unfold Source.accepted Source.refused
      cases offered : source.offer files with
      | error fault => exact ⟨nofun, nofun⟩
      | ok settings? =>
          rw [offered] at counted
          cases settings? with
          | none => exact ⟨nofun, fun _ => ⟨after, rfl, counted⟩⟩
          | some settings =>
              exact ⟨fun _ => ⟨config.apply settings, after, rfl, counted⟩, nofun⟩

/-! ## Assignments to distinct fields -/

def assignedLeaf? (word : String) : Option Leaf := do
  let (path, _) ← splitAssignment word
  (Config.fieldAt path).toOption

theorem settings_of_assignedLeaf {word : String} {leaf : Leaf} {settings : List Setting}
    (named : assignedLeaf? word = some leaf)
    (offered : (Source.assignment word).offer files = .ok (some settings)) :
    ∃ value, settings = [⟨leaf, value⟩] := by
  obtain ⟨found, raw, value, assigned, -, rfl⟩ := Source.offer_assignment_eq_ok_some offered
  obtain ⟨⟨path, wording⟩, split, field⟩ := Option.bind_eq_some_iff.mp named
  rw [Source.assigned?, split] at assigned
  obtain ⟨given?, -, made⟩ := Result.map_eq_ok_iff.mp assigned
  obtain ⟨given, -, made⟩ := Option.bind_eq_some_iff.mp made
  obtain ⟨sameField, fieldFound, made⟩ := Option.bind_eq_some_iff.mp made
  cases field.symm.trans fieldFound
  cases Option.some.inj made
  exact ⟨value, rfl⟩

theorem set_comm (config : Config) {leaf other : Leaf} (distinct : leaf ≠ other)
    (value : leaf.Carrier) (otherValue : other.Carrier) :
    (config.set leaf value).set other otherValue =
      (config.set other otherValue).set leaf value := by
  refine Config.ext_get fun asked => ?_
  by_cases isLeaf : asked = leaf
  · subst isLeaf
    rw [Config.get_set_of_ne _ distinct, Config.get_set_self, Config.get_set_self]
  · rw [Config.get_set_of_ne _ isLeaf]
    by_cases isOther : asked = other
    · subst isOther
      rw [Config.get_set_self, Config.get_set_self]
    · rw [Config.get_set_of_ne _ isOther, Config.get_set_of_ne _ isLeaf,
        Config.get_set_of_ne _ isOther]

theorem settle_swap {first second : String} {leaf other : Leaf}
    (firstNames : assignedLeaf? first = some leaf) (secondNames : assignedLeaf? second = some other)
    (distinct : leaf ≠ other) {back : List Offer} {start config : Config}
    (finished : settle start ((Source.assignment first).offer files ::
      (Source.assignment second).offer files :: back) = .ok config) :
    settle start ((Source.assignment second).offer files ::
      (Source.assignment first).offer files :: back) = .ok config := by
  cases firstOffer : (Source.assignment first).offer files with
  | error fault =>
      rw [firstOffer] at finished
      cases finished
  | ok firstMade? =>
      cases secondOffer : (Source.assignment second).offer files with
      | error fault =>
          rw [firstOffer, secondOffer] at finished
          cases finished
      | ok secondMade? =>
          rw [firstOffer, secondOffer] at finished
          cases firstMade? with
          | none => exact finished
          | some firstMade =>
              cases secondMade? with
              | none => exact finished
              | some secondMade =>
                  obtain ⟨value, rfl⟩ := settings_of_assignedLeaf firstNames firstOffer
                  obtain ⟨otherValue, rfl⟩ := settings_of_assignedLeaf secondNames secondOffer
                  have swapped : settle ((start.set leaf value).set other otherValue) back =
                    .ok config := finished
                  rw [set_comm start distinct] at swapped
                  exact swapped

theorem settle_offersOf_swap {first second : String} {leaf other : Leaf}
    (firstNames : assignedLeaf? first = some leaf) (secondNames : assignedLeaf? second = some other)
    (distinct : leaf ≠ other) (front back : List (Given String)) {start config : Config}
    (finished : settle start (offersOf files .assignment .assignment
      (front ++ .value first :: .value second :: back)) = .ok config) :
    settle start (offersOf files .assignment .assignment
      (front ++ .value second :: .value first :: back)) = .ok config := by
  rw [offersOf, List.map_append] at finished ⊢
  obtain ⟨settled, frontDone, finished⟩ := settle_append_eq_ok_iff.mp finished
  exact settle_append_eq_ok_iff.mpr
    ⟨settled, frontDone, settle_swap firstNames secondNames distinct finished⟩

/-! ## The configuration of a run -/

theorem run_buildConfig_of_settle {arguments : Arguments} {surroundings : Surroundings}
    {config : Config} (settled : settle .default (offers arguments surroundings) = .ok config)
    (before : Journal) :
    ∃ after, (buildConfig arguments surroundings .journal).run before = (.ok config, after) := by
  cases ran : (buildConfig arguments surroundings .journal).run before with
  | mk answer after =>
      obtain ⟨same, -⟩ := (reports_buildConfig arguments surroundings).eq_of_run ran
      exact ⟨after, by rw [same, settled]⟩

/-- Only the order among the files and the order among the assignments count. -/
theorem buildConfig_eq {words others : List String} {arguments otherArguments : Arguments}
    (parsed : parse words = .ok arguments) (otherParsed : parse others = .ok otherArguments)
    (sameFiles : optionValues .configFile others = optionValues .configFile words)
    (sameAssignments : optionValues .set others = optionValues .set words)
    (sameDefault : otherArguments.noDefaultConfig = arguments.noDefaultConfig)
    (surroundings : Surroundings) (sink : Sink) :
    buildConfig otherArguments surroundings sink = buildConfig arguments surroundings sink := by
  have files : otherArguments.configFiles = arguments.configFiles := by
    have listed : Flag.configFile.isRepeated = true := rfl
    rw [listed_of_parse listed parsed, listed_of_parse listed otherParsed] at sameFiles
    exact Except.ok.inj sameFiles
  have assignments : otherArguments.assignments = arguments.assignments := by
    have listed : Flag.set.isRepeated = true := rfl
    rw [listed_of_parse listed parsed, listed_of_parse listed otherParsed] at sameAssignments
    exact Except.ok.inj sameAssignments
  simp only [buildConfig, files, assignments, sameDefault]

/-- The configuration that a run builds.  Every source is accepted or refused as a whole; each field
holds what the last accepted source that mentions it gives it, or the default; each refused source
is exactly one error.  Neither verdict depends on the configuration that a source is applied to.
Only the order among the files and the order among the assignments count, not how they are mixed on
the command line, and neighbouring assignments to distinct fields may change places. -/
theorem buildConfig_lastAccepted (arguments : Arguments) (surroundings : Surroundings)
    (before after : Journal) (config : Config)
    (finished : (buildConfig arguments surroundings .journal).run before = (.ok config, after)) :
    (∀ leaf, Decided surroundings.files (sources arguments surroundings) .default leaf
      (config.get leaf)) ∧
    (∀ source ∈ sources arguments surroundings,
      source.accepted surroundings.files = true ∨ source.refused surroundings.files = true) ∧
    after.counts .error = before.counts .error +
      (sources arguments surroundings).countP (Source.refused surroundings.files) ∧
    (∀ (source : Source) (start : Config), start.Valid → ∀ earlier : Journal,
      (source.accepted surroundings.files = true → ∃ applied later,
        (source.applyTo surroundings.files start).run earlier = (.ok (some applied), later) ∧
          later.counts .error = earlier.counts .error) ∧
      (source.refused surroundings.files = true → ∃ later,
        (source.applyTo surroundings.files start).run earlier = (.ok none, later) ∧
          later.counts .error = earlier.counts .error + 1)) ∧
    (∀ words others otherArguments,
      parse words = .ok arguments → parse others = .ok otherArguments →
      optionValues .configFile others = optionValues .configFile words →
      optionValues .set others = optionValues .set words →
      otherArguments.noDefaultConfig = arguments.noDefaultConfig →
      (buildConfig otherArguments surroundings .journal).run before = (.ok config, after)) ∧
    (∀ front back first second leaf other,
      arguments.assignments = front ++ .value first :: .value second :: back →
      assignedLeaf? first = some leaf → assignedLeaf? second = some other → leaf ≠ other →
      ∃ later, (buildConfig
          { arguments with assignments := front ++ .value second :: .value first :: back }
          surroundings .journal).run before = (.ok config, later)) := by
  obtain ⟨same, counted⟩ := (reports_buildConfig arguments surroundings).eq_of_run finished
  have settled := same.symm
  have offered := offers_of_settle settled
  rw [offered] at settled counted
  obtain ⟨either, refusedCount⟩ := accepted_or_refused_of_settle settled
  refine ⟨decided_of_settle settled, either, refusedCount ▸ counted, fun source start valid =>
    run_applyTo source valid, ?_, ?_⟩
  · intro words others otherArguments parsed otherParsed sameFiles sameAssignments sameDefault
    rw [buildConfig_eq parsed otherParsed sameFiles sameAssignments sameDefault]
    exact finished
  · intro front back first second leaf other listed firstNames secondNames distinct
    refine run_buildConfig_of_settle ?_ before
    have settled := same.symm
    rw [offers, namedOffers, listed] at settled
    obtain ⟨afterUser, userDone, settled⟩ := settle_append_eq_ok_iff.mp settled
    obtain ⟨afterFiles, filesDone, settled⟩ := settle_append_eq_ok_iff.mp settled
    have swapped := settle_offersOf_swap firstNames secondNames distinct front back settled
    exact settle_append_eq_ok_iff.mpr
      ⟨afterUser, userDone, settle_append_eq_ok_iff.mpr ⟨afterFiles, filesDone, swapped⟩⟩

def sampleArguments : Arguments where
  noDefaultConfig := true
  configFiles := [.value "first.json", .value "second.json"]
  assignments := [.value "output.failure_text=failed", .value "output.colour=red"]

def sampleSurroundings : Surroundings where
  files := Tree.fileSystem
    [⟨["first.json"], some (Utf8.encode
        "\x7b\"symbols\": \x7b\"primary_path_index\": \"2\"\x7d\x7d".toList)⟩,
      ⟨["second.json"], some (Utf8.encode "[]".toList)⟩]
  home := "/root"
  configHome? := none

/-- The second file and the second assignment are refused; the others make their settings. -/
theorem buildConfig_lastAccepted_sample :
    ∃ after,
      (buildConfig sampleArguments sampleSurroundings .journal).run .empty =
        (.ok { Config.default with primary := 2, failureText := "failed" }, after) ∧
      after.counts .error = 2 ∧
      ∀ leaf, Decided sampleSurroundings.files (sources sampleArguments sampleSurroundings)
        .default leaf
        (Config.get { Config.default with primary := 2, failureText := "failed" } leaf) := by
  have built : ((buildConfig sampleArguments sampleSurroundings .journal).run .empty).1.toOption =
      some { Config.default with primary := 2, failureText := "failed" } := by
    decide +kernel
  have twice : (sources sampleArguments sampleSurroundings).countP
      (Source.refused sampleSurroundings.files) = 2 := by
    decide +kernel
  cases ran : (buildConfig sampleArguments sampleSurroundings .journal).run .empty with
  | mk answer after =>
      rw [ran] at built
      obtain rfl := Result.toOption_eq_some_iff.mp built
      obtain ⟨decided, -, counted, -⟩ :=
        buildConfig_lastAccepted sampleArguments sampleSurroundings .empty after _ ran
      rw [twice] at counted
      exact ⟨after, rfl, counted, decided⟩

end LineMap.CommandLine
