import LineMap.Config.Merge
import LineMap.Proofs.Json.Dictionaries
import Mathlib.Logic.Basic

/-!
# Laws of merging

At each name the merged members hold what overrides, laid over what the base holds there.  From this
follows what stands at a path, that merging the same members again changes nothing, and that layers
may be merged in any grouping, unless between two objects stands a value that is none.
-/

set_option autoImplicit false

namespace LineMap.Json

/-! ## One value over another -/

namespace Value

@[simp] theorem over_obj_obj (base overrides : Members) :
    (obj overrides).over (some (.obj base)) = .obj (Members.merge base overrides) := by
  rw [Value.over]

@[simp] theorem over_none (value : Value) : value.over none = value := by
  cases value <;> simp [Value.over]

theorem over_of_noObject {value : Value} (noObject : value.isObject = false)
    (base? : Option Value) : value.over base? = value := by
  cases value with
  | obj members => cases noObject
  | _ => simp [Value.over]

/-- A base that is merged into nothing: there is none, or it is no object. -/
structure GivesWay (base? : Option Value) : Prop where
  yields : ∀ value : Value, value.over base? = value
  below : ∀ name rest, base?.bind (at? (name :: rest)) = none

theorem givesWay_of_noObject {base : Value} (noObject : base.isObject = false) :
    GivesWay (some base) := by
  cases base with
  | obj members => cases noObject
  | _ =>
      refine ⟨fun value => ?_, fun _ _ => rfl⟩
      cases value <;> simp [Value.over]

theorem isObject_or_givesWay (base? : Option Value) :
    (∃ base, base? = some (.obj base)) ∨ GivesWay base? := by
  cases base? with
  | none => exact .inr ⟨over_none, fun _ _ => rfl⟩
  | some base =>
      cases shape : base.isObject with
      | true =>
          obtain ⟨members, rfl⟩ := isObject_iff.mp shape
          exact .inl ⟨members, rfl⟩
      | false => exact .inr (givesWay_of_noObject shape)

end Value

/-! ## The members at each name -/

namespace Members

variable {base overrides : Members}

theorem merge_cons (base : Members) (member : Str × Value) (rest : Members) :
    merge base (member :: rest) =
      merge (Keyed.put member.1 (member.2.over (base.last? member.1)) base) rest := by
  rw [merge]

theorem last?_cons_of_nodup {member : Str × Value} {rest : Members}
    (once : ((member :: rest).map Prod.fst).Nodup) (name : Str) :
    last? name (member :: rest) = if name = member.1 then some member.2 else rest.last? name := by
  rw [last?_eq_lookup once, Keyed.lookup_cons, last?_eq_lookup (List.nodup_cons.mp once).2]

theorem last?_put (once : (base.map Prod.fst).Nodup) (key name : Str) (value : Value) :
    last? name (Keyed.put key value base) = if name = key then some value else base.last? name := by
  rw [last?_eq_lookup (Keyed.nodup_keys_put key value once), Keyed.lookup_put, last?_eq_lookup once]

/-- The names of the base come first, and those that are new behind them, both in their order. -/
theorem names_merge (once : (overrides.map Prod.fst).Nodup) (base : Members) :
    (merge base overrides).map Prod.fst =
      base.map Prod.fst ++ (overrides.map Prod.fst).filter (· ∉ base.map Prod.fst) := by
  induction overrides generalizing base with
  | nil => simp
  | cons member rest inductionHypothesis =>
      obtain ⟨memberOnce, restOnce⟩ := List.nodup_cons.mp once
      rw [merge_cons, inductionHypothesis restOnce, Keyed.keys_put, List.map_cons]
      split
      next present => rw [List.filter_cons_of_neg (by simpa using present)]
      next absent =>
        have others : ∀ name ∈ rest.map Prod.fst,
            decide (name ∉ base.map Prod.fst ++ [member.1]) =
              decide (name ∉ base.map Prod.fst) := by
          intro name listed
          have differs : name ≠ member.1 := fun same => memberOnce (same ▸ listed)
          simp [differs]
        rw [List.filter_cons_of_pos (by simpa using absent), List.filter_congr others,
          List.append_assoc, List.singleton_append]

theorem mem_names_merge (once : (overrides.map Prod.fst).Nodup) (base : Members) (name : Str) :
    name ∈ (merge base overrides).map Prod.fst ↔
      name ∈ base.map Prod.fst ∨ name ∈ overrides.map Prod.fst := by
  rw [names_merge once, List.mem_append, List.mem_filter, decide_eq_true_iff]
  by_cases present : name ∈ base.map Prod.fst <;> simp [present]

theorem nodup_names_merge (baseOnce : (base.map Prod.fst).Nodup) (overrides : Members) :
    ((merge base overrides).map Prod.fst).Nodup := by
  induction overrides generalizing base with
  | nil => simpa using baseOnce
  | cons member rest inductionHypothesis =>
      rw [merge_cons]
      exact inductionHypothesis (Keyed.nodup_keys_put _ _ baseOnce)

/-- What overrides a name, laid over what the base has there; else what the base has. -/
theorem last?_merge (baseOnce : (base.map Prod.fst).Nodup) (once : (overrides.map Prod.fst).Nodup)
    (name : Str) :
    last? name (merge base overrides) =
      ((overrides.last? name).map fun value => value.over (base.last? name)).or
        (base.last? name) := by
  induction overrides generalizing base with
  | nil => simp [last?]
  | cons member rest inductionHypothesis =>
      obtain ⟨memberOnce, restOnce⟩ := List.nodup_cons.mp once
      rw [merge_cons, inductionHypothesis (Keyed.nodup_keys_put _ _ baseOnce) restOnce,
        last?_put baseOnce, last?_cons_of_nodup once]
      by_cases same : name = member.1
      · -- the rest does not name it again
        have absent : last? name rest = none :=
          (last?_eq_none_iff name rest).mpr (same ▸ memberOnce)
        simp [same ▸ absent, same]
      · simp [same]

theorem merge_nil_left (once : (overrides.map Prod.fst).Nodup) :
    merge [] overrides = overrides := by
  have nothing : (([] : Members).map Prod.fst).Nodup := List.nodup_nil
  refine ext_last? (nodup_names_merge nothing overrides) ?_ fun name => ?_
  · simp [names_merge once]
  · simp [last?_merge nothing once, last?]

end Members

/-! ## Dictionaries -/

namespace Members

variable {base overrides : Members}

/-- Members that are merged again change nothing, if none of them does on its own. -/
theorem merge_merge_of_parts (once : (overrides.map Prod.fst).Nodup)
    (parts : ∀ member ∈ overrides, ∀ {base? : Option Value}, (∀ base ∈ base?, base.NamesOnce) →
      member.2.over (some (member.2.over base?)) = member.2.over base?)
    (dictionary : (Value.obj base).NamesOnce) :
    merge (merge base overrides) overrides = merge base overrides := by
  have mergedOnce := nodup_names_merge dictionary.names overrides
  refine ext_last? (nodup_names_merge mergedOnce overrides) ?_ fun name => ?_
  · rw [names_merge once, List.filter_eq_nil_iff.mpr, List.append_nil]
    intro name listed
    simp [(mem_names_merge once base name).mpr (.inr listed)]
  · rw [last?_merge mergedOnce once, last?_merge dictionary.names once]
    cases found : last? name overrides with
    | none => simp
    | some part =>
        have based : ∀ value ∈ last? name base, value.NamesOnce := fun _ => dictionary.part
        have again := parts _ ((last?_eq_some_iff once).mp found) based
        simp [again]

end Members

namespace Value

variable {value : Value}

theorem NamesOnce.over (dictionary : value.NamesOnce) {base? : Option Value}
    (based : ∀ base ∈ base?, base.NamesOnce) : (value.over base?).NamesOnce := by
  induction dictionary generalizing base? with
  | plain noObject =>
      rw [over_of_noObject noObject]
      exact .plain noObject
  | @obj members once parts inductionHypothesis =>
      obtain ⟨base, rfl⟩ | givesWay := isObject_or_givesWay base?
      · have baseOnce := based _ rfl
        have mergedOnce := Members.nodup_names_merge baseOnce.names members
        rw [over_obj_obj]
        refine .obj mergedOnce fun ⟨name, part⟩ present => ?_
        have found := (Members.last?_eq_some_iff mergedOnce).mpr present
        rw [Members.last?_merge baseOnce.names once] at found
        rcases Option.or_eq_some_iff.mp found with overridden | ⟨-, kept⟩
        · obtain ⟨override, listed, rfl⟩ := Option.map_eq_some_iff.mp overridden
          exact inductionHypothesis _ ((Members.last?_eq_some_iff once).mp listed)
            fun _ => baseOnce.part
        · exact baseOnce.part kept
      · rw [givesWay.yields]
        exact .obj once parts

/-- What was laid over a base changes nothing when it is laid over the result again. -/
theorem over_over (dictionary : value.NamesOnce) {base? : Option Value}
    (based : ∀ base ∈ base?, base.NamesOnce) :
    value.over (some (value.over base?)) = value.over base? := by
  induction dictionary generalizing base? with
  | plain noObject => rw [over_of_noObject noObject, over_of_noObject noObject]
  | @obj members once parts inductionHypothesis =>
      obtain ⟨base, rfl⟩ | givesWay := isObject_or_givesWay base?
      · rw [over_obj_obj, over_obj_obj,
          Members.merge_merge_of_parts once inductionHypothesis (based _ rfl)]
      · have twice := Members.merge_merge_of_parts once inductionHypothesis .empty
        rw [Members.merge_nil_left once] at twice
        rw [givesWay.yields, over_obj_obj, twice]

end Value

namespace Members

variable {base overrides : Members}

theorem namesOnce_merge (baseOnce : (Value.obj base).NamesOnce)
    (once : (Value.obj overrides).NamesOnce) : (Value.obj (merge base overrides)).NamesOnce := by
  rw [← Value.over_obj_obj]
  refine once.over fun value listed => ?_
  cases listed
  exact baseOnce

theorem merge_merge (baseOnce : (Value.obj base).NamesOnce)
    (once : (Value.obj overrides).NamesOnce) :
    merge (merge base overrides) overrides = merge base overrides := by
  refine merge_merge_of_parts once.names (fun member listed _ => Value.over_over ?_) baseOnce
  exact once.part ((last?_eq_some_iff once.names).mpr listed)

theorem merge_self (once : (Value.obj overrides).NamesOnce) :
    merge overrides overrides = overrides := by
  have twice := merge_merge .empty once
  rwa [merge_nil_left once.names] at twice

end Members

/-! ## Layers in any grouping -/

namespace Value

/-- Where the outer two of three values both hold an object, the middle one holds an object or
nothing. -/
def Joins (first middle last : Value) : Prop :=
  ∀ path base overrides part, first.at? path = some (.obj base) →
    last.at? path = some (.obj overrides) → middle.at? path = some part → part.isObject = true

theorem joins_of_sameShape {middle last : Value} (sameShape : middle.SameShape last)
    (first : Value) : first.Joins middle last :=
  fun path _ _ _ _ lastFound found => sameShape path _ _ found lastFound

theorem Joins.part {base members overrides : Members}
    (joins : (Value.obj base).Joins (.obj members) (.obj overrides)) {name : Str}
    {first middle last : Value} (firstFound : base.last? name = some first)
    (found : members.last? name = some middle) (lastFound : overrides.last? name = some last) :
    first.Joins middle last := by
  intro path
  have under := joins (name :: path)
  simp only [at?_cons_obj, firstFound, found, lastFound, Option.bind_some] at under
  exact under

end Value

/-- What comes of the values at a name is the same for either grouping of the layers. -/
theorem Members.merge_assoc_of_parts {base members overrides : Members}
    (baseOnce : (Value.obj base).NamesOnce) (membersOnce : (Value.obj members).NamesOnce)
    (once : (overrides.map Prod.fst).Nodup)
    (parts : ∀ name first middle last, base.last? name = some first →
      members.last? name = some middle → overrides.last? name = some last →
      last.over (some (middle.over (some first))) = (last.over (some middle)).over (some first)) :
    merge (merge base members) overrides = merge base (merge members overrides) := by
  have leftOnce := nodup_names_merge baseOnce.names members
  have rightOnce := nodup_names_merge membersOnce.names overrides
  refine ext_last? (nodup_names_merge leftOnce overrides) ?_ fun name => ?_
  · rw [names_merge once, names_merge rightOnce, names_merge membersOnce.names, names_merge once,
      List.filter_append, List.append_assoc, List.filter_filter]
    congr 2
    refine List.filter_congr fun name _ => ?_
    by_cases inBase : name ∈ base.map Prod.fst <;> simp [inBase]
  · rw [last?_merge leftOnce once, last?_merge baseOnce.names membersOnce.names,
      last?_merge baseOnce.names rightOnce, last?_merge membersOnce.names once]
    cases lastFound : last? name overrides with
    | none => simp
    | some last =>
        cases found : last? name members with
        | none => simp
        | some middle =>
            cases firstFound : last? name base with
            | none => simp
            | some first => simp [parts name first middle last firstFound found lastFound]

theorem Value.over_assoc {last : Value} (once : last.NamesOnce) :
    ∀ {first middle : Value}, first.NamesOnce → middle.NamesOnce → first.Joins middle last →
      last.over (some (middle.over (some first))) =
        (last.over (some middle)).over (some first) := by
  induction once with
  | plain noObject =>
      intro first middle _ _ _
      rw [over_of_noObject noObject, over_of_noObject noObject, over_of_noObject noObject]
  | @obj overrides once parts inductionHypothesis =>
      intro first middle firstOnce middleOnce joins
      cases shape : middle.isObject with
      | false =>
          rw [over_of_noObject shape, (givesWay_of_noObject shape).yields]
          obtain ⟨base, found⟩ | firstGives := isObject_or_givesWay (some first)
          · cases found
            -- the shape excludes that the middle value parts two objects
            have joined := joins [] base overrides middle (at?_nil _) (at?_nil _) (at?_nil _)
            cases shape.symm.trans joined
          · rw [firstGives.yields]
      | true =>
          obtain ⟨members, rfl⟩ := isObject_iff.mp shape
          obtain ⟨base, found⟩ | firstGives := isObject_or_givesWay (some first)
          · cases found
            rw [over_obj_obj, over_obj_obj, over_obj_obj, over_obj_obj]
            refine congrArg Value.obj (Members.merge_assoc_of_parts firstOnce middleOnce once ?_)
            intro name first middle last firstFound found lastFound
            exact inductionHypothesis _ ((Members.last?_eq_some_iff once).mp lastFound)
              (firstOnce.part firstFound) (middleOnce.part found)
              (joins.part firstFound found lastFound)
          · rw [firstGives.yields, firstGives.yields]

/-- Members are merged in any grouping, unless between two objects stands a value that is none. -/
theorem Members.merge_assoc {base members overrides : Members}
    (baseOnce : (Value.obj base).NamesOnce) (membersOnce : (Value.obj members).NamesOnce)
    (once : (Value.obj overrides).NamesOnce)
    (joins : (Value.obj base).Joins (.obj members) (.obj overrides)) :
    merge (merge base members) overrides = merge base (merge members overrides) := by
  have layers := Value.over_assoc once baseOnce membersOnce joins
  simpa only [Value.over_obj_obj, Value.obj.injEq] using layers

/-- A value between two objects that is none makes a difference. -/
example :
    let nested := fun name : String => Value.record [("m", .record [(name, .null)])]
    let between := Value.record [("m", .null)]
    let path := [Str.ofString "m", Str.ofString "a"]
    (((nested "b").over (some (between.over (some (nested "a"))))).at? path).isSome = false ∧
      ((((nested "b").over (some between)).over (some (nested "a"))).at? path).isSome = true := by
  decide +kernel

/-! ## What stands at a path -/

namespace Value

variable {value : Value}

/-- Nothing but objects stands at a path and on the way there. -/
def IsOpenAt (value : Value) (path : List Str) : Prop :=
  ∀ front above, front <+: path → value.at? front = some above → above.isObject = true

theorem IsOpenAt.part {members : Members} {name : Str} {rest : List Str}
    (isOpen : (Value.obj members).IsOpenAt (name :: rest)) {part : Value}
    (found : members.last? name = some part) : part.IsOpenAt rest := by
  intro front above leads aboveFound
  refine isOpen (name :: front) above (List.cons_prefix_cons.mpr ⟨rfl, leads⟩) ?_
  rw [at?_cons_obj, found, Option.bind_some, aboveFound]

theorem at?_over_of_some {path : List Str} {part : Value} (dictionary : value.NamesOnce)
    {base? : Option Value} (based : ∀ base ∈ base?, base.NamesOnce)
    (found : value.at? path = some part) :
    (value.over base?).at? path = some (part.over (base?.bind (at? path))) := by
  induction path generalizing value base? with
  | nil =>
      rw [at?_nil] at found ⊢
      cases found
      cases base? <;> simp
  | cons name rest inductionHypothesis =>
      obtain ⟨base, rfl⟩ | givesWay := isObject_or_givesWay base?
      · cases shape : value.isObject with
        | false => cases (at?_cons_of_noObject shape name rest).symm.trans found
        | true =>
            obtain ⟨members, rfl⟩ := isObject_iff.mp shape
            have baseOnce := based _ rfl
            have below : ∀ part ∈ Members.last? name base, part.NamesOnce := fun _ => baseOnce.part
            obtain ⟨under, listed, found⟩ := Option.bind_eq_some_iff.mp found
            have laid := inductionHypothesis (dictionary.part listed) below found
            rw [over_obj_obj, at?_cons_obj, Members.last?_merge baseOnce.names dictionary.names,
              listed]
            simpa using laid
      · rw [givesWay.yields, givesWay.below, over_none, found]

/-- Where nothing overrides a path, and only objects stand on the way, the base is kept. -/
theorem at?_over_of_none {path : List Str} (dictionary : value.NamesOnce) {base? : Option Value}
    (based : ∀ base ∈ base?, base.NamesOnce) (absent : value.at? path = none)
    (isOpen : value.IsOpenAt path) :
    (value.over base?).at? path = base?.bind (at? path) := by
  induction path generalizing value base? with
  | nil => cases (at?_nil value).symm.trans absent
  | cons name rest inductionHypothesis =>
      obtain ⟨members, rfl⟩ := isObject_iff.mp
        (isOpen [] value (List.nil_prefix) (at?_nil value))
      obtain ⟨base, rfl⟩ | givesWay := isObject_or_givesWay base?
      · have baseOnce := based _ rfl
        have below : ∀ part ∈ Members.last? name base, part.NamesOnce := fun _ => baseOnce.part
        rw [over_obj_obj, at?_cons_obj, Members.last?_merge baseOnce.names dictionary.names]
        cases listed : Members.last? name members with
        | none => simp
        | some under =>
            rw [at?_cons_obj, listed, Option.bind_some] at absent
            have kept := inductionHypothesis (dictionary.part listed) below absent
              (isOpen.part listed)
            simpa using kept
      · rw [givesWay.yields, givesWay.below, absent]

/-- Where something that is no object stands on the way, nothing of the base is kept. -/
theorem at?_over_of_not_isOpenAt {path : List Str} (dictionary : value.NamesOnce)
    {base? : Option Value} (based : ∀ base ∈ base?, base.NamesOnce) (absent : value.at? path = none)
    (barred : ¬value.IsOpenAt path) : (value.over base?).at? path = none := by
  simp only [IsOpenAt, not_forall, Bool.not_eq_true] at barred
  obtain ⟨front, above, ⟨back, rfl⟩, found, noObject⟩ := barred
  rw [at?_append, found, Option.bind_some] at absent
  rw [at?_append, at?_over_of_some dictionary based found, over_of_noObject noObject,
    Option.bind_some, absent]

end Value

/-- What merging comes to.  Merging again changes nothing; just the names of both are there; at a
path stands what overrides it, if that is no object, and what the base has there, if nothing
overrides it and on the way there stand only objects. -/
structure IsMerge (base overrides merged : Members) : Prop where
  once : (Value.obj merged).NamesOnce
  again : Members.merge merged overrides = merged
  names : ∀ name, name ∈ merged.map Prod.fst ↔
    name ∈ base.map Prod.fst ∨ name ∈ overrides.map Prod.fst
  overridden : ∀ path part, (Value.obj overrides).at? path = some part → part.isObject = false →
    (Value.obj merged).at? path = some part
  kept : ∀ path part, (Value.obj base).at? path = some part →
    (Value.obj overrides).at? path = none → (Value.obj overrides).IsOpenAt path →
    (Value.obj merged).at? path = some part

theorem isMerge_merge {base overrides : Members} (baseOnce : (Value.obj base).NamesOnce)
    (once : (Value.obj overrides).NamesOnce) :
    IsMerge base overrides (Members.merge base overrides) := by
  have based : ∀ value ∈ some (Value.obj base), value.NamesOnce := by simpa using baseOnce
  refine ⟨Members.namesOnce_merge baseOnce once, Members.merge_merge baseOnce once,
    Members.mem_names_merge once.names base, ?_, ?_⟩
  · intro path part found noObject
    rw [← Value.over_obj_obj, Value.at?_over_of_some once based found,
      Value.over_of_noObject noObject]
  · intro path part found absent isOpen
    rw [← Value.over_obj_obj, Value.at?_over_of_none once based absent isOpen, Option.bind_some,
      found]

/-! ## The order of names -/

namespace Value

variable {value : Value}

theorem atom?_over (value : Value) (base? : Option Value) :
    (value.over base?).atom? = value.atom? := by
  obtain ⟨base, rfl⟩ | givesWay := isObject_or_givesWay base?
  · cases value <;> simp [Value.over, atom?]
  · rw [givesWay.yields]

theorem SameContent.isOpenAt {other : Value} (same : value.SameContent other) {path : List Str}
    (isOpen : value.IsOpenAt path) : other.IsOpenAt path := by
  intro front above leads found
  obtain ⟨former, formerFound, atoms⟩ := same.symm.exists_at? found
  rw [← isObject_eq_of_atom? atoms]
  exact isOpen front former leads formerFound

/-- Values with the same content give the same content over bases with the same content. -/
theorem SameContent.over {other base otherBase : Value} (same : value.SameContent other)
    (sameBase : base.SameContent otherBase) (dictionary : value.NamesOnce)
    (otherDictionary : other.NamesOnce) (baseDictionary : base.NamesOnce)
    (otherBaseDictionary : otherBase.NamesOnce) :
    (value.over (some base)).SameContent (other.over (some otherBase)) := by
  intro path
  have based : ∀ part ∈ some base, part.NamesOnce := by simpa using baseDictionary
  have otherBased : ∀ part ∈ some otherBase, part.NamesOnce := by simpa using otherBaseDictionary
  cases found : value.at? path with
  | some part =>
      obtain ⟨otherPart, otherFound, atoms⟩ := same.exists_at? found
      rw [at?_over_of_some dictionary based found,
        at?_over_of_some otherDictionary otherBased otherFound, Option.map_some, Option.map_some,
        atom?_over, atom?_over, atoms]
  | none =>
      have otherAbsent := same.at?_eq_none found
      by_cases isOpen : value.IsOpenAt path
      · rw [at?_over_of_none dictionary based found isOpen,
          at?_over_of_none otherDictionary otherBased otherAbsent (same.isOpenAt isOpen)]
        exact sameBase path
      · have otherBarred := fun otherOpen => isOpen (same.symm.isOpenAt otherOpen)
        rw [at?_over_of_not_isOpenAt dictionary based found isOpen,
          at?_over_of_not_isOpenAt otherDictionary otherBased otherAbsent otherBarred]

end Value

end LineMap.Json
