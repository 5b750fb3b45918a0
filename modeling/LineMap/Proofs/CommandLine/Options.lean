import LineMap.CommandLine.Arguments
import LineMap.Proofs.Result

/-!
# Options that are repeated

Two options may be given again and again.  The arguments list what each of them gives from left to
right, whatever stands between its occurrences.
-/

set_option autoImplicit false

namespace LineMap.CommandLine

def Flag.isRepeated : Flag → Bool
  | .configFile => true
  | .set => true
  | _ => false

def Arguments.listed (arguments : Arguments) : Flag → List (Given String)
  | .configFile => arguments.configFiles
  | .set => arguments.assignments
  | _ => []

def attached (word : String) : Given String :=
  if word = "--" then .nothing else .value word

def occurrences (flag : Flag) : List Token → List (Given String)
  | [] => []
  | .flag found (some word) :: rest =>
      if found = flag then attached word :: occurrences flag rest else occurrences flag rest
  | .flag found none :: .plain word :: rest =>
      if found = flag then .value word :: occurrences flag rest else occurrences flag rest
  | _ :: rest => occurrences flag rest

/-- What the words of a command line give by an option, from left to right. -/
def optionValues (flag : Flag) (words : List String) : Except UsageError (List (Given String)) :=
  (tokens words).map (occurrences flag)

variable {flag : Flag} {arguments after : Arguments}

theorem eq_of_isRepeated (repeated : flag.isRepeated = true) :
    flag = .configFile ∨ flag = .set := by
  cases flag with
  | configFile => exact .inl rfl
  | set => exact .inr rfl
  | _ => cases repeated

theorem listed_eq (same : after.configFiles = arguments.configFiles)
    (sameToo : after.assignments = arguments.assignments) :
    after.listed flag = arguments.listed flag := by
  cases flag with
  | configFile => exact same
  | set => exact sameToo
  | _ => rfl

theorem withArgument_keeps {found : Flag} (single : found.isRepeated = false) {word : String}
    (taken : withArgument arguments found word = .ok after) :
    after.configFiles = arguments.configFiles ∧ after.assignments = arguments.assignments := by
  cases found with
  | configFile => cases single
  | set => cases single
  | view | format | logLevel =>
      obtain ⟨choice, -, made⟩ := Result.bind_eq_ok_iff.mp taken
      cases made
      exact ⟨rfl, rfl⟩
  | exitCode | execTime =>
      simp only [withArgument] at taken
      split at taken
      · cases taken
        exact ⟨rfl, rfl⟩
      · cases taken
  | symbols | stderr =>
      cases taken
      exact ⟨rfl, rfl⟩
  | _ => cases taken

theorem listed_withArgument (repeated : flag.isRepeated = true) {found : Flag} {word : String}
    (taken : withArgument arguments found word = .ok after) :
    after.listed flag =
      arguments.listed flag ++ if found = flag then [.value word] else [] := by
  by_cases foundRepeated : found.isRepeated = true
  · obtain rfl | rfl := eq_of_isRepeated repeated
    all_goals
      obtain rfl | rfl := eq_of_isRepeated foundRepeated
      all_goals
        cases taken
        simp [Arguments.listed]
  · obtain ⟨same, sameToo⟩ := withArgument_keeps (Bool.not_eq_true _ ▸ foundRepeated) taken
    rw [if_neg, List.append_nil]
    · exact listed_eq same sameToo
    · rintro rfl
      exact foundRepeated repeated

theorem takesArgument_of_withArgument {found : Flag} {word : String}
    (taken : withArgument arguments found word = .ok after) : found.takesArgument = true := by
  cases found with
  | help | version | timedOut | haltOnError | noDefaultConfig => cases taken
  | _ => rfl

theorem listed_withNothing (repeated : flag.isRepeated = true) (found : Flag) :
    (withNothing arguments found).listed flag =
      arguments.listed flag ++ if found = flag then [.nothing] else [] := by
  obtain rfl | rfl := eq_of_isRepeated repeated
  all_goals cases found <;> simp [withNothing, Arguments.listed]

theorem listed_withAttached (repeated : flag.isRepeated = true) {found : Flag} {word : String}
    (taken : withAttached arguments found word = .ok after) :
    after.listed flag =
      arguments.listed flag ++ if found = flag then [attached word] else [] := by
  unfold withAttached at taken
  by_cases dashes : word = "--"
  · by_cases takes : found.takesArgument = true
    · rw [if_pos ⟨takes, dashes⟩] at taken
      cases taken
      rw [attached, if_pos dashes]
      exact listed_withNothing repeated found
    · rw [if_neg fun both => takes both.1] at taken
      exact absurd (takesArgument_of_withArgument taken) takes
  · rw [if_neg fun both => dashes both.2] at taken
    rw [attached, if_neg dashes]
    exact listed_withArgument repeated taken

theorem listed_withoutArgument {found : Flag}
    (taken : withoutArgument arguments found = .ok after) :
    after.listed flag = arguments.listed flag := by
  cases found <;> cases taken <;> exact listed_eq rfl rfl

theorem ne_of_not_takesArgument (repeated : flag.isRepeated = true) {found : Flag}
    (takesNone : ¬found.takesArgument = true) : found ≠ flag := by
  rintro rfl
  obtain rfl | rfl := eq_of_isRepeated repeated
  all_goals exact takesNone rfl

theorem occurrences_of_ne {found : Flag} (differs : found ≠ flag) (rest : List Token) :
    occurrences flag (.flag found none :: rest) = occurrences flag rest := by
  cases rest with
  | nil => rfl
  | cons next others =>
      cases next with
      | plain word => simp only [occurrences, if_neg differs]
      | _ => rfl

theorem listed_of_take (repeated : flag.isRepeated = true) (tokens : List Token)
    (reading final : Reading) (finished : take reading tokens = .ok final) :
    final.arguments.listed flag = reading.arguments.listed flag ++ occurrences flag tokens := by
  fun_induction take reading tokens with
  | case1 reading =>
      cases finished
      exact (List.append_nil _).symm
  | case2 reading word unnamed named others inductionHypothesis =>
      exact inductionHypothesis finished
  | case3 reading word unnamed named others noDashes inductionHypothesis =>
      exact inductionHypothesis finished
  | case4 reading word rest filename named inductionHypothesis =>
      exact inductionHypothesis finished
  | case5 reading word others unnamed inductionHypothesis =>
      exact inductionHypothesis finished
  | case6 reading others noName inductionHypothesis => exact inductionHypothesis finished
  | case7 reading word rest inductionHypothesis => exact inductionHypothesis finished
  | case8 => cases finished
  | case9 => cases finished
  | case10 reading found word rest arguments taken inductionHypothesis =>
      rw [inductionHypothesis finished, listed_withAttached repeated taken, occurrences]
      split <;> simp
  | case11 => cases finished
  | case12 reading found takes word others arguments taken inductionHypothesis =>
      rw [inductionHypothesis finished, listed_withArgument repeated taken, occurrences]
      split <;> simp
  | case13 => cases finished
  | case14 => cases finished
  | case15 reading found rest takesNone arguments taken inductionHypothesis =>
      rw [inductionHypothesis finished, listed_withoutArgument taken,
        occurrences_of_ne (ne_of_not_takesArgument repeated takesNone)]

theorem listed_of_parse (repeated : flag.isRepeated = true) {words : List String}
    (parsed : parse words = .ok arguments) :
    optionValues flag words = .ok (arguments.listed flag) := by
  obtain ⟨told, toldOk, parsed⟩ := Result.bind_eq_ok_iff.mp parsed
  obtain ⟨reading, taken, parsed⟩ := Result.bind_eq_ok_iff.mp parsed
  refine Result.map_eq_ok_iff.mpr ⟨told, Result.mapError_eq_ok_iff.mp toldOk, ?_⟩
  have listed := listed_of_take repeated told {} reading taken
  have nothing : (({} : Reading).arguments.listed flag) = [] := by
    cases flag <;> rfl
  rw [nothing, List.nil_append] at listed
  rw [← listed]
  split at parsed
  · cases parsed
  · split at parsed
    · cases parsed
      exact listed_eq rfl rfl
    · cases parsed

end LineMap.CommandLine
