import MultirotorController.Driver.ControllerConfig
import MultirotorController.Generator.ReferenceTypes
import MultirotorController.Lib.JsonTree
import Mathlib.Data.List.Sort
import Mathlib.Data.String.Basic

/-!
# The configuration object of a module

A path names the keys from the root, joined by slashes. Every path that is found is
remembered, and at the end the first leaf whose joined keys are no such path is an
error. The leaves are told apart by these strings alone, and the empty string stands
for no leaf.
-/

namespace MultirotorController

open Json

/-- `std::invalid_argument`. -/
structure InvalidArgument where
  what : String
deriving DecidableEq, Repr

structure JsonConfig where
  root : Json
  object : root.isObject = true
  unique : root.UniqueKeys
  used : List String := []

/-- The overloads of `read`, by the type that they ask for. -/
inductive ReadKind where
  | bool
  | int
  | double
  | string
  | doubles
deriving DecidableEq, Repr

namespace ReadKind

/-- `Json::Value::isInt` with its value: any number that is a 32-bit integer. -/
def toInt : Json → Option Int
  | .int value =>
      if -2147483648 ≤ value.toInt ∧ value.toInt ≤ 2147483647 then some value.toInt else none
  | .uint value => if value.toNat ≤ 2147483647 then some value.toNat else none
  | .real value =>
      if -2147483648 ≤ value ∧ value ≤ 2147483647 ∧ value = .fin value.floorInt then
        some value.floorInt
      else none
  | _ => none

def toDouble (node : Json) : Option Double :=
  if node.isNumeric then node.asDouble.toOption else none

/-- The value of a node, if it has the type. -/
def convert : ReadKind → Json → Option ControllerParameterValue
  | .bool, .bool value => some (.bool value)
  | .int, node => (toInt node).map .int
  | .double, node => (toDouble node).map .double
  | .string, .string value => some (.string value)
  | .doubles, .array items => (items.mapM toDouble).map .doubles
  | _, _ => none

def expected : ReadKind → String
  | .bool => "a boolean"
  | .int => "an integer"
  | .double => "a number"
  | .string => "a string"
  | .doubles => "an array of numbers"

end ReadKind

namespace JsonConfig

/-- The keys of a path. -/
def parts (path : String) : List String := (path.toList.splitOn '/').map String.ofList

def join (parent name : String) : String :=
  if parent.isEmpty then name else parent ++ "/" ++ name

/-- The name of a position in `collectLeaves`. -/
def pathOf (position : List String) : String := position.foldl join ""

def typeError (path expected : String) : InvalidArgument :=
  ⟨"configuration key '" ++ path ++ "' must be " ++ expected⟩

/-- A path that is found is used, whatever its type. -/
def find (config : JsonConfig) (path : String) : Option Json × JsonConfig :=
  match config.root.follow (parts path) with
  | none => (none, config)
  | some node => (some node, { config with used := path :: config.used })

/-- Nothing when the path is not present. -/
def read (config : JsonConfig) (kind : ReadKind) (path : String) :
    Except InvalidArgument (Option ControllerParameterValue × JsonConfig) :=
  match config.find path with
  | (none, config) => .ok (none, config)
  | (some node, config) =>
      match kind.convert node with
      | none => .error (typeError path kind.expected)
      | some value => .ok (some value, config)

/-- The first leaf in the order of the strings that was never read, or the empty string. -/
def firstUnusedKey (config : JsonConfig) : String :=
  (((collectLeaves join config.root "").insertionSort (· ≤ ·)).find?
    fun leaf => leaf ∉ config.used).getD ""

/-- A sequence of reads, all of which return. -/
def readAll (config : JsonConfig) : List (ReadKind × String) → Except InvalidArgument JsonConfig
  | [] => .ok config
  | (kind, path) :: rest => do
      let (_, config) ← config.read kind path
      config.readAll rest

section Report

variable (root : Json) (calls : List (ReadKind × String))

/-- Some read returned the node at this position. -/
def WasRead (position : List String) : Prop := ∃ call ∈ calls, parts call.2 = position

/-- The string of a read that found a node. -/
def Spelled (path : String) : Prop :=
  ∃ call ∈ calls, call.2 = path ∧ (root.follow (parts path)).isSome = true

/-- A leaf whose name is the string of no such read. -/
def Missed (position : List String) : Prop :=
  root.Leaf position ∧ ¬Spelled root calls (pathOf position)

/-- The empty string says that every leaf was read, any other one names a leaf that was not. -/
structure ReportsUnread (found : String) : Prop where
  silent : found = "" ↔ ∀ position, root.Leaf position → WasRead calls position
  named : found ≠ "" →
    ∃ position, root.Leaf position ∧ ¬WasRead calls position ∧ pathOf position = found

/-- A leaf that was not read, under a name that no read used and that is not the empty one. -/
structure Shows (position : List String) : Prop where
  leaf : root.Leaf position
  unread : ¬WasRead calls position
  filled : pathOf position ≠ ""
  unspelled : ¬Spelled root calls (pathOf position)

/-- A leaf that was read, but by no read of its name. -/
structure Misnamed (position : List String) : Prop where
  leaf : root.Leaf position
  read : WasRead calls position
  unspelled : ¬Spelled root calls (pathOf position)

/-- The names tell the leaves that were read from the others. If all were read, none is
misnamed, unless one is under the empty name. Otherwise some leaf shows that it was not, no
misnamed leaf comes before all that do, and no leaf is under the empty name unless a read was. -/
structure Distinguished : Prop where
  allRead : (∀ position, root.Leaf position → WasRead calls position) →
    (∃ position, Misnamed root calls position) →
      ∃ position, Misnamed root calls position ∧ pathOf position = ""
  shown : (∃ position, root.Leaf position ∧ ¬WasRead calls position) →
    ∃ position, Shows root calls position
  misnamed : (∃ position, root.Leaf position ∧ ¬WasRead calls position) →
    ∀ position, Misnamed root calls position →
      ∃ first, Shows root calls first ∧ pathOf first ≤ pathOf position
  unnamed : (∃ position, root.Leaf position ∧ ¬WasRead calls position) →
    ∀ position, root.Leaf position → pathOf position = "" → Spelled root calls ""

/-- No way to a leaf begins with the empty key, and no key on it contains a slash. -/
def Plain : Prop :=
  ∀ position, root.Leaf position → position.head? ≠ some "" ∧ ∀ key ∈ position, '/' ∉ key.toList

end Report

theorem empty_le (text : String) : "" ≤ text := by
  rw [String.le_iff_toList_le]
  exact not_lt.mp (List.not_lt_nil _)

/-- In a sorted list the first match is the least one. -/
theorem find?_sorted {items : List String} (sorted : items.Pairwise (· ≤ ·)) {test : String → Bool}
    {first : String} (found : items.find? test = some first) :
    ∀ item ∈ items, test item = true → first ≤ item := by
  obtain ⟨_, before, after, rfl, none_⟩ := List.find?_eq_some_iff_append.mp found
  rw [List.pairwise_append] at sorted
  intro item member matches_
  rcases List.mem_append.mp member with earlier | later
  · simpa [matches_] using none_ item earlier
  · rcases List.mem_cons.mp later with same | rest
    · exact le_of_eq same.symm
    · exact List.rel_of_pairwise_cons sorted.2.1 rest

/-- The result is the first missed name, if there is one. -/
theorem firstUnusedKey_spec {config : JsonConfig} {calls : List (ReadKind × String)}
    (spelled : ∀ path, path ∈ config.used ↔ Spelled config.root calls path) :
    ((∀ position, ¬Missed config.root calls position) ∧ config.firstUnusedKey = "") ∨
      ∃ first, Missed config.root calls first ∧ config.firstUnusedKey = pathOf first ∧
        ∀ other, Missed config.root calls other → pathOf first ≤ pathOf other := by
  have collected : ∀ path, path ∈ (collectLeaves join config.root "").insertionSort (· ≤ ·) ↔
      ∃ position, config.root.Leaf position ∧ pathOf position = path := by
    intro path
    rw [List.mem_insertionSort]
    exact mem_collectLeaves join config.root "" path config.object config.unique
  have sorted := List.pairwise_insertionSort (· ≤ ·) (collectLeaves join config.root "")
  unfold firstUnusedKey
  cases search : ((collectLeaves join config.root "").insertionSort (· ≤ ·)).find?
      fun leaf => leaf ∉ config.used with
  | none =>
      refine .inl ⟨?_, rfl⟩
      rintro position ⟨leaf, missed⟩
      have read := List.find?_eq_none.mp search _ ((collected _).mpr ⟨position, leaf, rfl⟩)
      rw [← spelled] at missed
      exact read (decide_eq_true missed)
  | some path =>
      have unused := List.find?_some search
      have member := List.mem_of_find?_eq_some search
      obtain ⟨first, leaf, rfl⟩ := (collected _).mp member
      rw [decide_eq_true_iff, spelled] at unused
      refine .inr ⟨first, ⟨leaf, unused⟩, rfl, ?_⟩
      rintro other ⟨otherLeaf, missed⟩
      apply find?_sorted sorted search _ ((collected _).mpr ⟨other, otherLeaf, rfl⟩)
      rw [decide_eq_true_iff, spelled]
      exact missed

theorem reportsUnread_iff {root : Json} {calls : List (ReadKind × String)} {found : String}
    (spec : ((∀ position, ¬Missed root calls position) ∧ found = "") ∨
      ∃ first, Missed root calls first ∧ found = pathOf first ∧
        ∀ other, Missed root calls other → pathOf first ≤ pathOf other) :
    ReportsUnread root calls found ↔ Distinguished root calls := by
  constructor
  · intro reports
    -- where a leaf was not read, the first missed name is the one of a leaf that shows it
    have shows_ : (∃ position, root.Leaf position ∧ ¬WasRead calls position) →
        ∃ position, Shows root calls position ∧
          ∀ other, Missed root calls other → pathOf position ≤ pathOf other := by
      rintro ⟨unread, leaf, notRead⟩
      have loud : found ≠ "" := fun silent => notRead (reports.silent.mp silent unread leaf)
      rcases spec with ⟨_, silent⟩ | ⟨first, missed, same, least⟩
      · exact absurd silent loud
      · obtain ⟨position, leaf, notRead, named⟩ := reports.named loud
        have name : pathOf position = pathOf first := named.trans same
        refine ⟨position, ⟨leaf, notRead, ?_, ?_⟩, ?_⟩
        · rw [named]
          exact loud
        · rw [name]
          exact missed.2
        · rw [name]
          exact least
    constructor
    · rintro allRead ⟨position, misnamed⟩
      rcases spec with ⟨none_, _⟩ | ⟨first, missed, same, _⟩
      · exact absurd ⟨misnamed.leaf, misnamed.unspelled⟩ (none_ position)
      · exact ⟨first, ⟨missed.1, allRead first missed.1, missed.2⟩,
          same.symm.trans (reports.silent.mpr allRead)⟩
    · intro unread
      obtain ⟨position, shown, _⟩ := shows_ unread
      exact ⟨position, shown⟩
    · intro unread position misnamed
      obtain ⟨first, shown, least⟩ := shows_ unread
      exact ⟨first, shown, least position ⟨misnamed.leaf, misnamed.unspelled⟩⟩
    · intro unread position leaf empty
      obtain ⟨first, shown, least⟩ := shows_ unread
      by_contra unspelled
      have before := least position ⟨leaf, by rwa [empty]⟩
      rw [empty] at before
      exact shown.filled (le_antisymm before (empty_le _))
  · intro distinguished
    have unreadNamed : (∃ position, root.Leaf position ∧ ¬WasRead calls position) → found ≠ "" ∧
        ∃ position, root.Leaf position ∧ ¬WasRead calls position ∧ pathOf position = found := by
      intro unread
      obtain ⟨shown, shows_⟩ := distinguished.shown unread
      rcases spec with ⟨none_, _⟩ | ⟨first, missed, rfl, least⟩
      · exact absurd ⟨shows_.leaf, shows_.unspelled⟩ (none_ shown)
      by_cases read : WasRead calls first
      · -- a misnamed leaf is not named before one that shows
        obtain ⟨other, shows_, before⟩ := distinguished.misnamed unread first
          ⟨missed.1, read, missed.2⟩
        have same : pathOf other = pathOf first :=
          le_antisymm before (least other ⟨shows_.leaf, shows_.unspelled⟩)
        rw [← same]
        exact ⟨shows_.filled, other, shows_.leaf, shows_.unread, rfl⟩
      · refine ⟨fun empty => missed.2 ?_, first, missed.1, read, rfl⟩
        rw [empty]
        exact distinguished.unnamed unread first missed.1 empty
    have allSilent : (∀ position, root.Leaf position → WasRead calls position) → found = "" := by
      intro allRead
      rcases spec with ⟨_, silent⟩ | ⟨first, missed, rfl, least⟩
      · exact silent
      · obtain ⟨other, misnamed, empty⟩ :=
          distinguished.allRead allRead ⟨first, missed.1, allRead first missed.1, missed.2⟩
        have before := least other ⟨misnamed.leaf, misnamed.unspelled⟩
        rw [empty] at before
        exact le_antisymm before (empty_le _)
    have unread_of_not : ¬(∀ position, root.Leaf position → WasRead calls position) →
        ∃ position, root.Leaf position ∧ ¬WasRead calls position := by
      intro notAll
      by_contra none_
      exact notAll fun position leaf => by_contra fun notRead => none_ ⟨position, leaf, notRead⟩
    constructor
    · refine ⟨fun silent => ?_, allSilent⟩
      by_contra notAll
      exact (unreadNamed (unread_of_not notAll)).1 silent
    · intro loud
      apply (unreadNamed (unread_of_not _)).2
      intro allRead
      exact loud (allSilent allRead)

/-- A read that returns uses the path if it finds a node. -/
theorem used_read {config middle : JsonConfig} {kind : ReadKind} {path : String}
    {value : Option ControllerParameterValue} (ran : config.read kind path = .ok (value, middle)) :
    middle.root = config.root ∧ ∀ other, other ∈ middle.used ↔ other ∈ config.used ∨
      path = other ∧ (config.root.follow (parts other)).isSome = true := by
  unfold read find at ran
  cases followed : config.root.follow (parts path) with
  | none =>
      rw [followed] at ran
      cases ran
      refine ⟨rfl, fun other => ⟨.inl, ?_⟩⟩
      rintro (used | ⟨rfl, found⟩)
      · exact used
      · rw [followed] at found
        cases found
  | some node =>
      rw [followed] at ran
      dsimp only at ran
      cases converted : kind.convert node with
      | none =>
          rw [converted] at ran
          cases ran
      | some value =>
          rw [converted] at ran
          cases ran
          refine ⟨rfl, fun other => ?_⟩
          rw [List.mem_cons, or_comm]
          refine or_congr_right ⟨?_, fun same => same.1.symm⟩
          rintro rfl
          exact ⟨rfl, by rw [followed]; rfl⟩

/-- The strings that are used are those of the reads that found a node. -/
theorem used_readAll {config final : JsonConfig} {calls : List (ReadKind × String)}
    (ran : config.readAll calls = .ok final) : final.root = config.root ∧
      ∀ path, path ∈ final.used ↔ path ∈ config.used ∨ Spelled config.root calls path := by
  induction calls generalizing config with
  | nil =>
      cases ran
      exact ⟨rfl, fun path => by simp [Spelled]⟩
  | cons call rest ih =>
      obtain ⟨⟨value, middle⟩, first, ran⟩ := Procedure.bind_eq_ok ran
      obtain ⟨root, used⟩ := used_read first
      obtain ⟨root', used'⟩ := ih ran
      refine ⟨root'.trans root, fun path => ?_⟩
      rw [used', used, root, or_assoc]
      refine or_congr_right ?_
      unfold Spelled
      simp only [List.mem_cons, exists_eq_or_imp]

section Plain

/-- Joining and splitting are inverse for keys without a slash. -/
theorem intercalate_append (first second : List Char) (rest : List (List Char)) :
    ['/'].intercalate ((first ++ '/' :: second) :: rest) =
      first ++ '/' :: ['/'].intercalate (second :: rest) := by
  cases rest with
  | nil => simp
  | cons third rest => simp [List.intercalate_cons_cons]

theorem toList_foldl_join (rest : List String) {parent : String} (filled : parent ≠ "") :
    (rest.foldl join parent).toList =
      ['/'].intercalate (parent.toList :: rest.map String.toList) := by
  induction rest generalizing parent with
  | nil => simp
  | cons name rest ih =>
      have joined : join parent name = parent ++ "/" ++ name := by
        rw [join, if_neg (by simpa using filled)]
      have longer : parent ++ "/" ++ name ≠ "" := by simp
      rw [List.foldl_cons, joined, ih longer]
      simp only [String.toList_append, List.map_cons, List.intercalate_cons_cons]
      have slash : "/".toList = ['/'] := rfl
      rw [slash, List.append_assoc, List.singleton_append, intercalate_append]
      simp

theorem toList_pathOf {position : List String} (filled : position.head? ≠ some "")
    (nonempty : position ≠ []) :
    (pathOf position).toList = ['/'].intercalate (position.map String.toList) := by
  cases position with
  | nil => exact absurd rfl nonempty
  | cons name rest => exact toList_foldl_join rest fun empty => filled (congrArg some empty)

/-- The keys of a path, as lists of characters, make the path again. -/
theorem intercalate_parts (path : String) :
    ['/'].intercalate ((parts path).map String.toList) = path.toList := by
  have same : (parts path).map String.toList = path.toList.splitOn '/' := by
    simp [parts, Function.comp_def]
  rw [same, List.intercalate_splitOn]

theorem parts_pathOf {position : List String} (filled : position.head? ≠ some "")
    (plain : ∀ key ∈ position, '/' ∉ key.toList) (nonempty : position ≠ []) :
    parts (pathOf position) = position := by
  have slashes : ∀ key ∈ position.map String.toList, '/' ∉ key := by
    intro key member
    obtain ⟨name, inside, rfl⟩ := List.mem_map.mp member
    exact plain name inside
  rw [parts, toList_pathOf filled nonempty,
    List.splitOn_intercalate '/' slashes (by simpa using nonempty)]
  simp [Function.comp_def]

theorem eq_pathOf {position : List String} {path : String} (filled : position.head? ≠ some "")
    (nonempty : position ≠ []) (split : parts path = position) : path = pathOf position := by
  rw [← String.toList_inj, toList_pathOf filled nonempty, ← split, intercalate_parts]

theorem leaf_ne_nil {config : JsonConfig} {position : List String}
    (leaf : config.root.Leaf position) : position ≠ [] := by
  rintro rfl
  obtain ⟨node, followed, notObject⟩ := leaf
  cases followed
  exact absurd (config.object.symm.trans notObject) (by decide)

/-- Over plain keys a leaf was read exactly if its name is the string of a read. -/
theorem Plain.spelled_iff {config : JsonConfig} (plain : Plain config.root)
    {calls : List (ReadKind × String)} {position : List String}
    (leaf : config.root.Leaf position) :
    Spelled config.root calls (pathOf position) ↔ WasRead calls position := by
  obtain ⟨filled, slashes⟩ := plain position leaf
  have split := parts_pathOf filled slashes (leaf_ne_nil leaf)
  constructor
  · rintro ⟨call, member, same, _⟩
    exact ⟨call, member, by rw [same, split]⟩
  · rintro ⟨call, member, same⟩
    have ⟨node, followed, _⟩ := leaf
    refine ⟨call, member, eq_pathOf filled (leaf_ne_nil leaf) same, ?_⟩
    rw [split, followed]
    rfl

/-- Plain keys tell the leaves apart whatever is read. -/
theorem Plain.distinguished {config : JsonConfig} (plain : Plain config.root)
    (calls : List (ReadKind × String)) : Distinguished config.root calls := by
  have named : ∀ position, config.root.Leaf position → pathOf position ≠ "" := by
    intro position leaf empty
    obtain ⟨filled, slashes⟩ := plain position leaf
    have split := parts_pathOf filled slashes (leaf_ne_nil leaf)
    rw [empty] at split
    exact filled (by rw [← split]; decide)
  have never : ∀ position, ¬Misnamed config.root calls position := fun position misnamed =>
    misnamed.unspelled ((plain.spelled_iff misnamed.leaf).mpr misnamed.read)
  constructor
  · rintro - ⟨position, misnamed⟩
    exact absurd misnamed (never position)
  · rintro ⟨position, leaf, unread⟩
    exact ⟨position, leaf, unread, named position leaf,
      fun spelled => unread ((plain.spelled_iff leaf).mp spelled)⟩
  · intro _ position misnamed
    exact absurd misnamed (never position)
  · intro _ position leaf empty
    exact absurd empty (named position leaf)

end Plain

/-- A reader sees the configuration through its reads alone. -/
inductive Reader (α : Type) where
  | done (result : Except InvalidArgument α)
  | read (kind : ReadKind) (path : String) (next : Option ControllerParameterValue → Reader α)

namespace Reader

variable {α : Type}

def run : Reader α → JsonConfig → Except InvalidArgument (α × JsonConfig)
  | .done result, config => result.map (·, config)
  | .read kind path next, config => do
      let (value, config) ← config.read kind path
      (next value).run config

/-- The reads of a run, in order. -/
def calls : Reader α → JsonConfig → List (ReadKind × String)
  | .done _, _ => []
  | .read kind path next, config =>
      match config.read kind path with
      | .ok (value, config) => (kind, path) :: (next value).calls config
      | .error _ => [(kind, path)]

/-- A number that keeps its default when it is absent. -/
def double (path : String) (fallback : Double) (next : Double → Reader α) : Reader α :=
  .read .double path fun
    | some (.double value) => next value
    | _ => next fallback

/-- A run that returns has made its reads one after the other. -/
theorem readAll_calls {reader : Reader α} {config final : JsonConfig} {value : α}
    (ran : reader.run config = .ok (value, final)) :
    config.readAll (reader.calls config) = .ok final := by
  induction reader generalizing config with
  | done result =>
      cases result with
      | ok result =>
          cases ran
          rfl
      | error error => cases ran
  | read kind path next ih =>
      obtain ⟨⟨found, middle⟩, first, ran⟩ := Procedure.bind_eq_ok ran
      have listed : (Reader.read kind path next).calls config =
          (kind, path) :: (next found).calls middle := by
        rw [calls, first]
      rw [listed, readAll, first]
      exact ih found ran

end Reader

/-- The check of both modules after their reader. -/
def rejectUnused (config : JsonConfig) : Except InvalidArgument Unit :=
  if config.firstUnusedKey ≠ "" then
    .error ⟨"unknown configuration key '" ++ config.firstUnusedKey ++ "'"⟩
  else .ok ()

/-- The defaults of the reference module; the limits are those of the library but for one. -/
def defaultSettings : Generator.ReferenceTrajectoryConfig :=
  { limits := { minSpecificThrust := 0.1 } }

def settingsReader : Reader Generator.ReferenceTrajectoryConfig :=
  .double "status_rate" defaultSettings.statusRateHz fun statusRateHz =>
  .double "active_publish_rate" defaultSettings.activePublishRateHz fun activePublishRateHz =>
  .double "validation_sample_dt" defaultSettings.validationSampleDt fun validationSampleDt =>
  .double "trajectory_timeout" defaultSettings.trajectoryTimeout fun trajectoryTimeout =>
  .double "min_lead_time" defaultSettings.minLeadTime fun minLeadTime =>
  .double "max_velocity" defaultSettings.limits.maxVelocity fun maxVelocity =>
  .double "max_acceleration" defaultSettings.limits.maxAcceleration fun maxAcceleration =>
  .double "max_jerk" defaultSettings.limits.maxJerk fun maxJerk =>
  .double "max_snap" defaultSettings.limits.maxSnap fun maxSnap =>
  .double "min_specific_thrust" defaultSettings.limits.minSpecificThrust fun minSpecificThrust =>
  .done (.ok {
    statusRateHz, activePublishRateHz, validationSampleDt, trajectoryTimeout, minLeadTime
    limits := { maxVelocity, maxAcceleration, maxJerk, maxSnap, minSpecificThrust } })

def readSettings (json : JsonConfig) :
    Except InvalidArgument Generator.ReferenceTrajectoryConfig := do
  let (settings, json) ← settingsReader.run json
  json.rejectUnused
  return settings

/-- The reader of the controller sees the object through the same reads; two of its choices are
refused after the check. -/
def readConfig (readControllerConfig : Reader ControllerConfig) (json : JsonConfig) :
    Except InvalidArgument ControllerConfig := do
  let (config, json) ← readControllerConfig.run json
  json.rejectUnused
  if config.feedbackSource ≠ .rigidEstimate then
    throw ⟨"module imu.v1 cannot supply mavros_local feedback"⟩
  if config.hoverThrust.source ≠ .external then
    throw ⟨"module imu.v1 cannot supply internal hover thrust inputs"⟩
  return config

/-- The first missed name after reads of a fresh object. -/
theorem firstUnusedKey_readAll {json final : JsonConfig} {calls : List (ReadKind × String)}
    (fresh : json.used = []) (ran : json.readAll calls = .ok final) :
    ((∀ position, ¬Missed json.root calls position) ∧ final.firstUnusedKey = "") ∨
      ∃ first, Missed json.root calls first ∧ final.firstUnusedKey = pathOf first ∧
        ∀ other, Missed json.root calls other → pathOf first ≤ pathOf other := by
  obtain ⟨root, used⟩ := used_readAll ran
  rw [← root] at used ⊢
  apply firstUnusedKey_spec
  intro path
  rw [used, fresh]
  simp

/-- What passes the check after a reader has no leaf that the reader did not read. -/
theorem read_of_accepted {α : Type} {reader : Reader α} {json final : JsonConfig} {value : α}
    (fresh : json.used = []) (ran : reader.run json = .ok (value, final))
    (accepted : final.rejectUnused = .ok ())
    (distinguished : Distinguished json.root (reader.calls json)) :
    ∀ position, json.root.Leaf position → WasRead (reader.calls json) position := by
  have spec := firstUnusedKey_readAll fresh (Reader.readAll_calls ran)
  apply ((reportsUnread_iff spec).mpr distinguished).silent.mp
  unfold rejectUnused at accepted
  split at accepted
  next => cases accepted
  next silent => exact not_not.mp silent

/-- Every read of a fresh object, and the check of both modules at the end. -/
theorem unused_keys_reported (json : JsonConfig) (fresh : json.used = []) :
    (∀ calls final, json.readAll calls = .ok final →
      (ReportsUnread json.root calls final.firstUnusedKey ↔ Distinguished json.root calls) ∧
      (Plain json.root → Distinguished json.root calls)) ∧
    (∀ settings, json.readSettings = .ok settings →
      Distinguished json.root (settingsReader.calls json) →
        ∀ position, json.root.Leaf position → WasRead (settingsReader.calls json) position) ∧
    (∀ reader config, json.readConfig reader = .ok config →
      Distinguished json.root (reader.calls json) →
        ∀ position, json.root.Leaf position → WasRead (reader.calls json) position) := by
  refine ⟨fun calls final ran => ?_, fun settings accepted => ?_, fun reader config accepted => ?_⟩
  · have spec := firstUnusedKey_readAll fresh ran
    exact ⟨reportsUnread_iff spec, fun plain => plain.distinguished calls⟩
  · obtain ⟨⟨value, final⟩, ran, accepted⟩ := Procedure.bind_eq_ok accepted
    obtain ⟨_, passed, _⟩ := Procedure.bind_eq_ok accepted
    exact read_of_accepted fresh ran passed
  · obtain ⟨⟨value, final⟩, ran, accepted⟩ := Procedure.bind_eq_ok accepted
    obtain ⟨_, passed, _⟩ := Procedure.bind_eq_ok accepted
    exact read_of_accepted fresh ran passed

/-- Two keys that are read, and one in an object of its own that is not. -/
def misspelled : JsonConfig where
  root := .object [("status_rate", .int 20),
    ("limits", .object [("max_velocity", .real 8), ("max_jrek", .real 60)])]
  object := rfl
  unique := ⟨by decide, trivial, ⟨by decide, trivial, trivial, trivial⟩, trivial⟩

def misspelledCalls : List (ReadKind × String) :=
  [(.double, "status_rate"), (.double, "limits/max_velocity")]

theorem misspelled_plain : Plain misspelled.root := by
  intro position leaf
  obtain ⟨name, child, rest, member, below, rfl⟩ := (leaf_object misspelled.unique.1).mp leaf
  rcases List.mem_cons.mp member with first | second
  · cases first
    cases (leaf_of_not_object rfl).mp below
    decide
  · cases List.mem_singleton.mp second
    obtain ⟨name, child, rest, member, below, rfl⟩ :=
      (leaf_object misspelled.unique.2.2.1.1).mp below
    rcases List.mem_cons.mp member with first | second
    · cases first
      cases (leaf_of_not_object rfl).mp below
      decide
    · cases List.mem_singleton.mp second
      cases (leaf_of_not_object rfl).mp below
      decide

theorem misspelled_readAll : misspelled.readAll misspelledCalls =
    .ok { misspelled with used := ["limits/max_velocity", "status_rate"] } := by
  have top : parts "status_rate" = ["status_rate"] := by decide +kernel
  have below : parts "limits/max_velocity" = ["limits", "max_velocity"] := by decide +kernel
  have first : misspelled.read .double "status_rate" =
      .ok (some (.double 20), { misspelled with used := ["status_rate"] }) := by
    have rounded : Binary64.round ((20 : Int64).toInt : ℚ) = 20 := by decide +kernel
    rw [read, find, top]
    change Except.ok (some (ControllerParameterValue.double (Binary64.round _)), _) = _
    rw [rounded]
    rfl
  have second : ({ misspelled with used := ["status_rate"] } : JsonConfig).read .double
      "limits/max_velocity" = .ok (some (.double 8),
        { misspelled with used := ["limits/max_velocity", "status_rate"] }) := by
    rw [read, find, below]
    rfl
  rw [misspelledCalls, readAll, first]
  change (JsonConfig.readAll { misspelled with used := ["status_rate"] } _) = _
  rw [readAll, second]
  rfl

/-- The key that is not read is reported. -/
theorem unused_keys_reported_misspelled :
    ∃ final, misspelled.readAll misspelledCalls = .ok final ∧
      final.firstUnusedKey = "limits/max_jrek" ∧
      ReportsUnread misspelled.root misspelledCalls final.firstUnusedKey := by
  obtain ⟨reports, -, -⟩ := unused_keys_reported misspelled rfl
  obtain ⟨exact_, plain⟩ := reports _ _ misspelled_readAll
  exact ⟨_, misspelled_readAll, by decide +kernel, exact_.mpr (plain misspelled_plain)⟩

/-- One value under the empty key. -/
def emptyKeyed : JsonConfig where
  root := .object [("", .int 1)]
  object := rfl
  unique := ⟨List.nodup_singleton _, trivial, trivial⟩

/-- The value under the empty key was not read, and the reference module accepts it. -/
theorem emptyKeyed_ignored :
    ¬ReportsUnread emptyKeyed.root [] emptyKeyed.firstUnusedKey ∧
      emptyKeyed.readSettings = .ok defaultSettings := by
  constructor
  · intro reports
    have silent : emptyKeyed.firstUnusedKey = "" := by decide +kernel
    have leaf : emptyKeyed.root.Leaf [""] := ⟨.int 1, rfl, rfl⟩
    obtain ⟨_, never, _⟩ := reports.silent.mp silent [""] leaf
    cases never
  · decide +kernel

end JsonConfig

end MultirotorController
