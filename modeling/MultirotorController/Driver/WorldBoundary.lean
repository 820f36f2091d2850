import MultirotorController.Common.Types
import MultirotorController.Lib.Json
import Mathlib.Data.Finset.Basic

/-!
# The world boundary in the configuration

The boundary is a JSON object of a fixed schema, or null. What is outside of the schema
is refused with an invalid argument, which the module reports as an invalid
configuration; any other exception becomes an internal error. A boundary that was read
is written back as an object of the same schema.
-/

namespace MultirotorController

open Json

/-- The exceptions that leave the parser: the one of the source and the one of the library. -/
inductive ParseException where
  | invalidArgument (what : String)
  | logicError (what : String)
deriving DecidableEq, Repr

namespace WorldBoundary

def topKeys : List String := ["schemaVersion", "frameId", "unit", "controlBounds", "groundZ"]

def boundKeys : List String := ["xMin", "xMax", "yMin", "yMax", "zMin", "zMax"]

def requireKeys (value : Json) (expected : List String) : Except ParseException Unit :=
  if ¬ value.isObject then
    .error (.invalidArgument
      "world_boundary_json requires the complete worldBoundary object or null")
  else if value.getMemberNames.toFinset ≠ expected.toFinset then
    .error (.invalidArgument "world_boundary_json has missing or unknown fields")
  else .ok ()

/-- A library call whose exception is not caught here. -/
def uncaught {α : Type} : Except LogicError α → Except ParseException α
  | .ok value => .ok value
  | .error error => .error (.logicError error.message)

def notFinite : ParseException :=
  .invalidArgument "world_boundary_json endpoints and groundZ must be finite numbers"

def finiteNumber (value : Json) : Except ParseException Double := do
  if ¬ value.isNumeric then throw notFinite
  let number ← uncaught value.asDouble
  if ¬ number.isFinite then throw notFinite
  return number

def boundsJSON (bounds : WorldControlBounds) : Json :=
  .object [
    ("xMin", .real bounds.xMin),
    ("xMax", .real bounds.xMax),
    ("yMin", .real bounds.yMin),
    ("yMax", .real bounds.yMax),
    ("zMin", .real bounds.zMin),
    ("zMax", .real bounds.zMax)]

/-- Absent optional values are written as null. -/
def boundaryJSON : Option WorldBoundary → Json
  | none => .null
  | some boundary => .object [
      ("schemaVersion", .int 1),
      ("frameId", .string "world"),
      ("unit", .string "m"),
      ("groundZ", (boundary.groundZ.map Json.real).getD .null),
      ("controlBounds", (boundary.controlBounds.map boundsJSON).getD .null)]

/-- The type is checked before the value is converted. -/
def versionIsOne (version : Json) : Except ParseException Bool :=
  match version with
  | .int _ | .uint _ => (uncaught version.asLargestInt).map (· == 1)
  | _ => .ok false

def parseBounds (bounds : Json) : Except ParseException WorldControlBounds := do
  requireKeys bounds boundKeys
  let checked : WorldControlBounds := {
    xMin := ← finiteNumber (bounds.get "xMin")
    xMax := ← finiteNumber (bounds.get "xMax")
    yMin := ← finiteNumber (bounds.get "yMin")
    yMax := ← finiteNumber (bounds.get "yMax")
    zMin := ← finiteNumber (bounds.get "zMin")
    zMax := ← finiteNumber (bounds.get "zMax") }
  if checked.xMax ≤ checked.xMin ∨ checked.yMax ≤ checked.yMin ∨ checked.zMax ≤ checked.zMin then
    throw (.invalidArgument "world_boundary_json requires min < max on all three axes")
  return checked

/-- An optional value of the object: null is none. -/
def optional {α : Type} (parse : Json → Except ParseException α) (value : Json) :
    Except ParseException (Option α) :=
  if value.isNull then .ok none else (parse value).map some

/-- The value is the one that the reader found; a text without a value is refused before. -/
def parseWorldBoundary (value : Json) : Except ParseException (Option WorldBoundary) := do
  if value.isNull then return none
  requireKeys value topKeys
  let versionMatches ← versionIsOne (value.get "schemaVersion")
  if ¬ versionMatches ∨ ¬ (value.get "frameId").isText "world" ∨
      ¬ (value.get "unit").isText "m" then
    throw (.invalidArgument "world_boundary_json requires schemaVersion=1, frameId=world, unit=m")
  let groundZ ← optional finiteNumber (value.get "groundZ")
  let controlBounds ← optional parseBounds (value.get "controlBounds")
  return some { groundZ, controlBounds }

/-- `configure` turns the invalid argument into its own status, `guarded` every other exception. -/
inductive ConfigureStatus where
  | ok
  | invalid
  | internal
deriving DecidableEq, Repr

def ConfigureStatus.of {α : Type} : Except ParseException α → ConfigureStatus
  | .ok _ => .ok
  | .error (.invalidArgument _) => .invalid
  | .error (.logicError _) => .internal

/-- The schema of the bounds, with the numbers in them. -/
structure BoundsSchema (number : Json → Double → Prop) (value : Json)
    (bounds : WorldControlBounds) : Prop where
  object : value.isObject = true
  keys : ∀ key, key ∈ value.getMemberNames ↔ key ∈ boundKeys
  xMin : number (value.get "xMin") bounds.xMin
  xMax : number (value.get "xMax") bounds.xMax
  yMin : number (value.get "yMin") bounds.yMin
  yMax : number (value.get "yMax") bounds.yMax
  zMin : number (value.get "zMin") bounds.zMin
  zMax : number (value.get "zMax") bounds.zMax
  orderX : bounds.xMin < bounds.xMax
  orderY : bounds.yMin < bounds.yMax
  orderZ : bounds.zMin < bounds.zMax

/-- An optional value is null, or it meets the schema of its type. -/
def OptionalSchema {α : Type} (schema : Json → α → Prop) (value : Json) : Option α → Prop
  | none => value = .null
  | some item => schema value item

/-- The schema of the boundary, with what it says. -/
structure Schema (number : Json → Double → Prop) (value : Json) (boundary : WorldBoundary) :
    Prop where
  object : value.isObject = true
  keys : ∀ key, key ∈ value.getMemberNames ↔ key ∈ topKeys
  version : value.get "schemaVersion" = .int 1 ∨ value.get "schemaVersion" = .uint 1
  frameId : value.get "frameId" = .string "world"
  unit : value.get "unit" = .string "m"
  groundZ : OptionalSchema number (value.get "groundZ") boundary.groundZ
  controlBounds :
    OptionalSchema (BoundsSchema number) (value.get "controlBounds") boundary.controlBounds

/-- The values that the schema asks to be numbers. -/
def numbers (value : Json) : List Json :=
  value.get "groundZ" :: boundKeys.map (value.get "controlBounds").get

/-- The only exception that is not an invalid argument: an object with the right keys and an
unsigned version that is out of the signed range. -/
def Oversized (value : Json) : Prop :=
  value.isObject = true ∧ (∀ key, key ∈ value.getMemberNames ↔ key ∈ topKeys) ∧
    ∃ version : UInt64, value.get "schemaVersion" = .uint version ∧
      9223372036854775807 < version.toNat

/-- A parser returns exactly the values that meet a schema and refuses with an invalid argument. -/
structure Parses {α : Type} (outcome : Except ParseException α) (meets : α → Prop) : Prop where
  returns : ∀ value, outcome = .ok value ↔ meets value
  refuses : ∀ error, outcome = .error error → ∃ what, error = .invalidArgument what

namespace Parses

variable {α β : Type} {outcome : Except ParseException α} {meets meets' : α → Prop}

theorem of_ok (value : α) : Parses (.ok value) (value = ·) :=
  ⟨fun other => by rw [Except.ok.injEq], fun _ never => by cases never⟩

theorem of_refusal (what : String) :
    Parses (.error (.invalidArgument what) : Except ParseException α) fun _ => False :=
  ⟨fun _ => by simp, fun _ same => by cases same; exact ⟨what, rfl⟩⟩

theorem congr (parses : Parses outcome meets) (same : ∀ value, meets value ↔ meets' value) :
    Parses outcome meets' :=
  ⟨fun value => (parses.returns value).trans (same value), parses.refuses⟩

theorem bind {next : α → Except ParseException β} {goal : α → β → Prop}
    (first : Parses outcome meets)
    (second : ∀ value, meets value → Parses (next value) (goal value)) :
    Parses (outcome >>= next) fun result => ∃ value, meets value ∧ goal value result := by
  cases outcome with
  | ok value =>
      have met := (first.returns value).mp rfl
      have rest := second value met
      refine ⟨fun result => (rest.returns result).trans ?_, rest.refuses⟩
      constructor
      · intro holds
        exact ⟨value, met, holds⟩
      · rintro ⟨other, met', holds⟩
        cases (first.returns other).mpr met'
        exact holds
  | error error =>
      refine ⟨fun result => ⟨?_, ?_⟩, ?_⟩
      · intro never
        cases never
      · rintro ⟨other, met, _⟩
        cases (first.returns other).mpr met
      · intro _ failed
        cases failed
        exact first.refuses error rfl

theorem map (parses : Parses outcome meets) (f : α → β) :
    Parses (outcome.map f) fun result => ∃ value, meets value ∧ f value = result :=
  parses.bind fun value _ => of_ok (f value)

/-- A check that refuses. -/
theorem check (condition : Prop) [Decidable condition] (what : String)
    (rest : ¬condition → Parses outcome meets) :
    Parses (if condition then .error (.invalidArgument what) else outcome)
      fun value => ¬condition ∧ meets value := by
  split
  next holds => exact (of_refusal what).congr fun value => by simp [holds]
  next fails => exact (rest fails).congr fun value => by simp [fails]

end Parses

theorem requireKeys_parses (value : Json) (expected : List String) :
    Parses (requireKeys value expected) fun _ =>
      value.isObject = true ∧ ∀ key, key ∈ value.getMemberNames ↔ key ∈ expected := by
  have sameKeys : value.getMemberNames.toFinset = expected.toFinset ↔
      ∀ key, key ∈ value.getMemberNames ↔ key ∈ expected := by
    simp [Finset.ext_iff]
  refine (Parses.check _ _ fun _ => Parses.check _ _ fun _ => Parses.of_ok ()).congr ?_
  intro _
  rw [not_not, not_not, sameKeys]
  simp

theorem finiteNumber_parses (value : Json) : Parses (finiteNumber value) value.Reads := by
  have number : ∀ number, value.asDouble = .ok number → value.isNumeric = true →
      Parses (finiteNumber value) value.Reads := by
    intro number converts numeric
    have finite : Parses (if ¬ number.isFinite then .error notFinite else .ok number) _ :=
      Parses.check _ _ fun _ => Parses.of_ok number
    unfold finiteNumber
    rw [converts, if_neg (not_not.mpr numeric)]
    refine finite.congr fun other => ?_
    rw [Reads, converts]
    constructor
    · rintro ⟨finite, rfl⟩
      exact ⟨numeric, rfl, not_not.mp finite⟩
    · rintro ⟨_, same, finite⟩
      cases same
      exact ⟨not_not.mpr finite, rfl⟩
  cases value with
  | int value => exact number _ rfl rfl
  | uint value => exact number _ rfl rfl
  | real value => exact number _ rfl rfl
  | _ => exact (Parses.of_refusal _).congr fun _ => ⟨False.elim, fun read => by cases read.1⟩

theorem optional_parses {α : Type} {parse : Json → Except ParseException α}
    {schema : Json → α → Prop} {value : Json} (parses : Parses (parse value) (schema value))
    (present : ∀ item, ¬schema .null item) :
    Parses (optional parse value) (OptionalSchema schema value) := by
  unfold optional
  split
  next absent =>
    cases isNull_iff.mp absent
    refine (Parses.of_ok none).congr fun item => ?_
    cases item with
    | none => exact ⟨fun _ => rfl, fun _ => rfl⟩
    | some item =>
        refine ⟨fun never => ?_, fun never => absurd never (present item)⟩
        cases never
  next some_ =>
    refine (parses.map some).congr fun item => ?_
    cases item with
    | none =>
        refine ⟨?_, fun absent => absurd (isNull_iff.mpr absent) some_⟩
        rintro ⟨_, _, never⟩
        cases never
    | some item =>
        constructor
        · rintro ⟨_, met, same⟩
          cases same
          exact met
        · intro met
          exact ⟨item, met, rfl⟩

theorem not_le_iff {a b : Double} (finiteA : a.isFinite = true) (finiteB : b.isFinite = true) :
    ¬b ≤ a ↔ a < b := by
  obtain ⟨p, rfl⟩ := Double.exists_eq_fin finiteA
  obtain ⟨q, rfl⟩ := Double.exists_eq_fin finiteB
  rw [Double.fin_le_fin, Double.fin_lt_fin, not_le]

theorem parseBounds_parses (bounds : Json) :
    Parses (parseBounds bounds) (BoundsSchema Reads bounds) := by
  have chain := (requireKeys_parses bounds boundKeys).bind fun _ _ =>
    (finiteNumber_parses (bounds.get "xMin")).bind fun xMin _ =>
    (finiteNumber_parses (bounds.get "xMax")).bind fun xMax _ =>
    (finiteNumber_parses (bounds.get "yMin")).bind fun yMin _ =>
    (finiteNumber_parses (bounds.get "yMax")).bind fun yMax _ =>
    (finiteNumber_parses (bounds.get "zMin")).bind fun zMin _ =>
    (finiteNumber_parses (bounds.get "zMax")).bind fun zMax _ =>
    Parses.check (xMax ≤ xMin ∨ yMax ≤ yMin ∨ zMax ≤ zMin)
      "world_boundary_json requires min < max on all three axes" fun _ =>
        Parses.of_ok ({ xMin, xMax, yMin, yMax, zMin, zMax } : WorldControlBounds)
  refine Parses.congr chain fun result => ?_
  constructor
  · rintro ⟨_, ⟨object, keys⟩, xMin, hxMin, xMax, hxMax, yMin, hyMin, yMax, hyMax, zMin, hzMin,
      zMax, hzMax, ordered, rfl⟩
    rw [not_or, not_or, not_le_iff hxMin.2.2 hxMax.2.2,
      not_le_iff hyMin.2.2 hyMax.2.2, not_le_iff hzMin.2.2 hzMax.2.2] at ordered
    exact ⟨object, keys, hxMin, hxMax, hyMin, hyMax, hzMin, hzMax, ordered.1, ordered.2.1,
      ordered.2.2⟩
  · intro met
    refine ⟨(), ⟨met.object, met.keys⟩, _, met.xMin, _, met.xMax, _, met.yMin, _, met.yMax, _,
      met.zMin, _, met.zMax, ?_, rfl⟩
    rw [not_or, not_or, not_le_iff met.xMin.2.2 met.xMax.2.2,
      not_le_iff met.yMin.2.2 met.yMax.2.2,
      not_le_iff met.zMin.2.2 met.zMax.2.2]
    exact ⟨met.orderX, met.orderY, met.orderZ⟩

theorem toInt64_eq_one {value : UInt64} : value.toInt64 = 1 ↔ value = 1 := by
  constructor
  · intro same
    rw [← UInt64.toUInt64_toInt64 value, same]
    rfl
  · rintro rfl
    rfl

theorem versionIsOne_parses {version : Json}
    (fits : ∀ value : UInt64, version = .uint value → value.toNat ≤ 9223372036854775807) :
    Parses (versionIsOne version) fun isOne =>
      (isOne = true ↔ version = .int 1 ∨ version = .uint 1) := by
  have decided : ∀ found : Bool, (found = true ↔ version = .int 1 ∨ version = .uint 1) →
      Parses (.ok found) fun isOne => (isOne = true ↔ version = .int 1 ∨ version = .uint 1) := by
    intro found spec
    refine (Parses.of_ok found).congr fun isOne => ?_
    rw [← spec]
    cases found <;> cases isOne <;> simp
  cases version with
  | int value => exact decided (value == 1) (by simp)
  | uint value =>
      have small := fits value rfl
      have converts : versionIsOne (.uint value) = .ok (value.toInt64 == 1) := by
        change (uncaught (Json.uint value).asLargestInt).map _ = _
        rw [asLargestInt_of_le small]
        rfl
      rw [converts]
      exact decided _ (by simp [toInt64_eq_one])
  | _ => exact decided false (by simp)

theorem parseWorldBoundary_parses {value : Json} (fits : ¬Oversized value) :
    Parses (parseWorldBoundary value) (OptionalSchema (Schema Reads) value) := by
  unfold parseWorldBoundary
  split
  next absent =>
    cases isNull_iff.mp absent
    refine (Parses.of_ok none).congr fun item => ?_
    cases item with
    | none => exact ⟨fun _ => rfl, fun _ => rfl⟩
    | some item =>
        refine ⟨fun never => ?_, fun met => ?_⟩
        · cases never
        · cases met.object
  next present =>
    have chain := (requireKeys_parses value topKeys).bind fun _ shaped =>
      have small : ∀ version, value.get "schemaVersion" = .uint version →
          version.toNat ≤ 9223372036854775807 := by
        intro version same
        by_contra large
        exact fits ⟨shaped.1, shaped.2, version, same, not_le.mp large⟩
      (versionIsOne_parses small).bind fun isOne _ =>
      Parses.check (¬isOne = true ∨ ¬(value.get "frameId").isText "world" ∨
          ¬(value.get "unit").isText "m")
        "world_boundary_json requires schemaVersion=1, frameId=world, unit=m" fun _ =>
        (optional_parses (finiteNumber_parses (value.get "groundZ"))
          (fun _ never => by cases never.1)).bind fun groundZ _ =>
        (optional_parses (parseBounds_parses (value.get "controlBounds"))
          (fun _ never => by cases never.object)).bind fun controlBounds _ =>
        Parses.of_ok (some ({ groundZ, controlBounds } : WorldBoundary))
    refine Parses.congr chain fun result => ?_
    constructor
    · rintro ⟨_, ⟨object, keys⟩, isOne, version, named, groundZ, ground, controlBounds, bounds, rfl⟩
      simp only [not_or, not_not] at named
      exact ⟨object, keys, version.mp named.1, isText_iff.mp named.2.1, isText_iff.mp named.2.2,
        ground, bounds⟩
    · intro met
      cases result with
      | none => exact absurd (isNull_iff.mpr met) present
      | some boundary =>
          refine ⟨(), ⟨met.object, met.keys⟩, true, ⟨fun _ => met.version, fun _ => rfl⟩, ?_, _,
            met.groundZ, _, met.controlBounds, rfl⟩
          simp [met.frameId, met.unit, isText]

theorem parseWorldBoundary_oversized {value : Json} (oversized : Oversized value) :
    parseWorldBoundary value = .error (.logicError "LargestUInt out of Int64 range") := by
  obtain ⟨object, keys, version, same, large⟩ := oversized
  have present : ¬value.isNull = true := by
    intro absent
    cases isNull_iff.mp absent
    cases object
  have shaped := ((requireKeys_parses value topKeys).returns ()).mpr ⟨object, keys⟩
  unfold parseWorldBoundary
  rw [if_neg present, shaped, same]
  change (uncaught (Json.uint version).asLargestInt).map _ >>= _ = _
  rw [asLargestInt_of_lt large]
  rfl

/-- No way to take the numbers makes an oversized value a boundary. -/
theorem Oversized.outside {value : Json} (oversized : Oversized value) :
    value ≠ .null ∧ ∀ number boundary, ¬Schema number value boundary := by
  obtain ⟨object, -, version, same, large⟩ := oversized
  refine ⟨?_, fun number boundary met => ?_⟩
  · rintro rfl
    cases object
  · rcases met.version with signed | unsigned
    · cases same.symm.trans signed
    · cases same.symm.trans unsigned
      exact absurd large (by decide)

/-- What the parser returns, whether or not the value is oversized. -/
theorem parseWorldBoundary_ok_iff (value : Json) (result : Option WorldBoundary) :
    parseWorldBoundary value = .ok result ↔ OptionalSchema (Schema Reads) value result := by
  by_cases oversized : Oversized value
  · have refused := parseWorldBoundary_oversized oversized
    refine ⟨fun returned => ?_, fun met => ?_⟩
    · cases refused.symm.trans returned
    · cases result with
      | none => exact absurd met oversized.outside.1
      | some boundary => exact absurd met (oversized.outside.2 Reads boundary)
  · exact (parseWorldBoundary_parses oversized).returns result

section ReadBack

theorem BoundsSchema.readBack {value : Json} {bounds : WorldControlBounds}
    (schema : BoundsSchema Reads value bounds) :
    BoundsSchema Reads (boundsJSON bounds) bounds where
  object := rfl
  keys _ := Iff.rfl
  xMin := ⟨rfl, rfl, schema.xMin.2.2⟩
  xMax := ⟨rfl, rfl, schema.xMax.2.2⟩
  yMin := ⟨rfl, rfl, schema.yMin.2.2⟩
  yMax := ⟨rfl, rfl, schema.yMax.2.2⟩
  zMin := ⟨rfl, rfl, schema.zMin.2.2⟩
  zMax := ⟨rfl, rfl, schema.zMax.2.2⟩
  orderX := schema.orderX
  orderY := schema.orderY
  orderZ := schema.orderZ

/-- An optional value is written back as it was read. -/
theorem OptionalSchema.readBack {α : Type} {schema : Json → α → Prop} {write : α → Json}
    (written : ∀ value item, schema value item → schema (write item) item) {value : Json}
    {item : Option α} (met : OptionalSchema schema value item) :
    OptionalSchema schema ((item.map write).getD .null) item := by
  cases item with
  | none => rfl
  | some item => exact written value item met

/-- A boundary that was read is written as an object of the schema. -/
theorem Schema.readBack {value : Json} {boundary : WorldBoundary}
    (schema : Schema Reads value boundary) :
    Schema Reads (boundaryJSON (some boundary)) boundary where
  object := rfl
  keys key := by
    simp only [boundaryJSON, getMemberNames, topKeys, List.map_cons, List.map_nil, List.mem_cons]
    tauto
  version := .inl rfl
  frameId := rfl
  unit := rfl
  groundZ := schema.groundZ.readBack fun _ _ read => ⟨rfl, rfl, read.2.2⟩
  controlBounds := schema.controlBounds.readBack fun _ _ bounds => bounds.readBack

end ReadBack

section Rounding

variable {value : Json}

theorem groundZ_mem_numbers : value.get "groundZ" ∈ numbers value := List.mem_cons_self

theorem bound_mem_numbers {key : String} (bound : key ∈ boundKeys) :
    (value.get "controlBounds").get key ∈ numbers value :=
  List.mem_cons_of_mem _ (List.mem_map_of_mem bound)

theorem OptionalSchema.imp {α : Type} {schema schema' : Json → α → Prop} {item : Option α}
    (implies : ∀ item, schema value item → schema' value item)
    (met : OptionalSchema schema value item) : OptionalSchema schema' value item := by
  cases item with
  | none => exact met
  | some item => exact implies item met

/-- Two ways to take the numbers that agree on those of the value. -/
theorem Schema.imp {number number' : Json → Double → Prop} {boundary : WorldBoundary}
    (implies : ∀ item ∈ numbers value, ∀ result, number item result → number' item result)
    (schema : Schema number value boundary) : Schema number' value boundary where
  object := schema.object
  keys := schema.keys
  version := schema.version
  frameId := schema.frameId
  unit := schema.unit
  groundZ := schema.groundZ.imp (implies _ groundZ_mem_numbers)
  controlBounds := schema.controlBounds.imp fun _ bounds =>
    have endpoint (key : String) (bound : key ∈ boundKeys) :=
      implies ((value.get "controlBounds").get key) (bound_mem_numbers bound)
    { object := bounds.object
      keys := bounds.keys
      xMin := endpoint "xMin" (by decide) _ bounds.xMin
      xMax := endpoint "xMax" (by decide) _ bounds.xMax
      yMin := endpoint "yMin" (by decide) _ bounds.yMin
      yMax := endpoint "yMax" (by decide) _ bounds.yMax
      zMin := endpoint "zMin" (by decide) _ bounds.zMin
      zMax := endpoint "zMax" (by decide) _ bounds.zMax
      orderX := bounds.orderX
      orderY := bounds.orderY
      orderZ := bounds.orderZ }

/-- Every real among the numbers is one of the format, as the reader stores it. -/
def Stored (value : Json) : Prop :=
  ∀ item ∈ numbers value, ∀ real, item = .real real → real.rounded = real

/-- Bounds that are read in order stand for bounds in order. -/
theorem BoundsSchema.denotes {read : WorldControlBounds} (stored : Stored value)
    (schema : BoundsSchema Reads (value.get "controlBounds") read) :
    ∃ bounds, BoundsSchema Denotes (value.get "controlBounds") bounds := by
  have endpoint (key : String) (bound : key ∈ boundKeys) {number : Double}
      (found : ((value.get "controlBounds").get key).Reads number) :=
    (reads_iff (stored _ (bound_mem_numbers bound))).mp found
  have ordered {low high low' high' : Double} (below : low < high) (finite : low'.isFinite = true)
      (finite' : high'.isFinite = true) (same : low = low'.rounded)
      (same' : high = high'.rounded) : low' < high' := by
    rw [same, same'] at below
    exact Double.lt_of_rounded_lt finite finite' below
  obtain ⟨xMin, exactXMin, roundedXMin⟩ := endpoint "xMin" (by decide) schema.xMin
  obtain ⟨xMax, exactXMax, roundedXMax⟩ := endpoint "xMax" (by decide) schema.xMax
  obtain ⟨yMin, exactYMin, roundedYMin⟩ := endpoint "yMin" (by decide) schema.yMin
  obtain ⟨yMax, exactYMax, roundedYMax⟩ := endpoint "yMax" (by decide) schema.yMax
  obtain ⟨zMin, exactZMin, roundedZMin⟩ := endpoint "zMin" (by decide) schema.zMin
  obtain ⟨zMax, exactZMax, roundedZMax⟩ := endpoint "zMax" (by decide) schema.zMax
  exact ⟨{ xMin, xMax, yMin, yMax, zMin, zMax }, schema.object, schema.keys,
    exactXMin, exactXMax, exactYMin, exactYMax, exactZMin, exactZMax,
    ordered schema.orderX exactXMin.isFinite exactXMax.isFinite roundedXMin roundedXMax,
    ordered schema.orderY exactYMin.isFinite exactYMax.isFinite roundedYMin roundedYMax,
    ordered schema.orderZ exactZMin.isFinite exactZMax.isFinite roundedZMin roundedZMax⟩

theorem OptionalSchema.exists {α : Type} {schema schema' : Json → α → Prop} {item : Option α}
    (implies : ∀ item, schema value item → ∃ item', schema' value item')
    (met : OptionalSchema schema value item) : ∃ item', OptionalSchema schema' value item' := by
  cases item with
  | none => exact ⟨none, met⟩
  | some item =>
      obtain ⟨item', met'⟩ := implies item met
      exact ⟨some item', met'⟩

/-- What is read as a boundary stands for one, though perhaps of other numbers. -/
theorem Schema.denotes {read : WorldBoundary} (stored : Stored value)
    (schema : Schema Reads value read) : ∃ boundary, Schema Denotes value boundary := by
  obtain ⟨groundZ, ground⟩ := schema.groundZ.exists fun _ found =>
    have denoted := (reads_iff (stored _ groundZ_mem_numbers)).mp found
    denoted.imp fun _ exact_ => exact_.1
  obtain ⟨controlBounds, bounds⟩ := schema.controlBounds.exists fun _ found =>
    found.denotes stored
  exact ⟨{ groundZ, controlBounds }, schema.object, schema.keys, schema.version, schema.frameId,
    schema.unit, ground, bounds⟩

/-- The numbers of a boundary that is read as what it stands for are of the format. -/
theorem Schema.representable {boundary : WorldBoundary} (stored : Stored value)
    (schema : Schema Reads value boundary) (exact_ : Schema Denotes value boundary) :
    ∀ item ∈ numbers value, item.Representable := by
  have absent : Representable .null := fun _ never => by cases never
  intro item member
  rcases List.mem_cons.mp member with rfl | member'
  · obtain ⟨controlBounds, groundZ⟩ := boundary
    cases groundZ with
    | none =>
        rw [show value.get "groundZ" = .null from exact_.groundZ]
        exact absent
    | some number => exact Reads.representable schema.groundZ exact_.groundZ (stored _ member)
  · obtain ⟨key, bound, rfl⟩ := List.mem_map.mp member'
    obtain ⟨controlBounds, groundZ⟩ := boundary
    cases controlBounds with
    | none =>
        rw [show value.get "controlBounds" = .null from exact_.controlBounds]
        exact absent
    | some bounds =>
        have read : BoundsSchema Reads (value.get "controlBounds") bounds := schema.controlBounds
        have denoted : BoundsSchema Denotes (value.get "controlBounds") bounds :=
          exact_.controlBounds
        simp only [boundKeys, List.mem_cons, List.not_mem_nil, or_false] at bound
        rcases bound with rfl | rfl | rfl | rfl | rfl | rfl
        · exact read.xMin.representable denoted.xMin (stored _ member)
        · exact read.xMax.representable denoted.xMax (stored _ member)
        · exact read.yMin.representable denoted.yMin (stored _ member)
        · exact read.yMax.representable denoted.yMax (stored _ member)
        · exact read.zMin.representable denoted.zMin (stored _ member)
        · exact read.zMax.representable denoted.zMax (stored _ member)

end Rounding

/-- The contract of one value, with the numbers that it stands for: null is no boundary, the
schema is a boundary, everything else is an invalid argument and an invalid configuration, and
what was read is written back. -/
structure Obeys (value : Json) : Prop where
  unset : parseWorldBoundary value = .ok none ↔ value = .null
  set : ∀ boundary, parseWorldBoundary value = .ok (some boundary) ↔
    Schema Denotes value boundary
  refused : (∃ what, parseWorldBoundary value = .error (.invalidArgument what)) ↔
    value ≠ .null ∧ ∀ boundary, ¬Schema Denotes value boundary
  reported : (value ≠ .null ∧ ∀ boundary, ¬Schema Denotes value boundary) →
    ConfigureStatus.of (parseWorldBoundary value) = .invalid
  readBack : ∀ boundary, parseWorldBoundary value = .ok (some boundary) →
    parseWorldBoundary (boundaryJSON (some boundary)) = .ok (some boundary)

/-- An oversized version is outside of the schema and ends as another exception. -/
theorem not_obeys {value : Json} (oversized : Oversized value) : ¬Obeys value := by
  intro obeys
  have reported := obeys.reported ⟨oversized.outside.1, oversized.outside.2 Denotes⟩
  rw [parseWorldBoundary_oversized oversized] at reported
  cases reported

/-- The parser meets its contract where what it reads is what the value stands for. -/
theorem obeys_of_same {value : Json} (fits : ¬Oversized value)
    (same : ∀ boundary, Schema Reads value boundary ↔ Schema Denotes value boundary) :
    Obeys value := by
  have parses : Parses (parseWorldBoundary value) (OptionalSchema (Schema Denotes) value) := by
    refine (parseWorldBoundary_parses fits).congr fun result => ?_
    cases result with
    | none => exact Iff.rfl
    | some boundary => exact same boundary
  have refuses : value ≠ .null ∧ (∀ boundary, ¬Schema Denotes value boundary) →
      ∃ what, parseWorldBoundary value = .error (.invalidArgument what) := by
    rintro ⟨present, outside⟩
    cases outcome : parseWorldBoundary value with
    | ok result =>
        have met := (parses.returns result).mp outcome
        cases result with
        | none => exact absurd met present
        | some boundary => exact absurd met (outside boundary)
    | error error =>
        obtain ⟨what, rfl⟩ := parses.refuses error outcome
        exact ⟨what, rfl⟩
  refine ⟨parses.returns none, fun boundary => parses.returns (some boundary), ⟨?_, refuses⟩,
    ?_, ?_⟩
  · rintro ⟨what, refused⟩
    refine ⟨fun null => ?_, fun boundary met => ?_⟩
    · cases refused.symm.trans ((parses.returns none).mpr null)
    · cases refused.symm.trans ((parses.returns (some boundary)).mpr met)
  · intro outside
    obtain ⟨what, refused⟩ := refuses outside
    rw [refused]
    rfl
  · intro boundary returned
    have schema := (parseWorldBoundary_ok_iff value (some boundary)).mp returned
    exact (parseWorldBoundary_ok_iff _ _).mpr (Schema.readBack schema)

/-- The parser meets its contract on every value but those whose version does not fit, and the
boundaries with an integer that is no number of the format. -/
theorem parseWorldBoundary_obeys (value : Json) (stored : Stored value) :
    Obeys value ↔ ¬Oversized value ∧
      ((∃ boundary, Schema Denotes value boundary) →
        ∀ item ∈ numbers value, item.Representable) := by
  constructor
  · intro obeys
    refine ⟨fun oversized => not_obeys oversized obeys, ?_⟩
    rintro ⟨boundary, met⟩
    have read := (parseWorldBoundary_ok_iff value (some boundary)).mp
      ((obeys.set boundary).mpr met)
    exact Schema.representable stored read met
  · rintro ⟨fits, representable⟩
    refine obeys_of_same fits fun boundary => ⟨fun read => ?_, fun met => ?_⟩
    · have exact_ := representable (read.denotes stored)
      exact read.imp fun item member _ => (exact_ item member).reads_iff.mp
    · have exact_ := representable ⟨boundary, met⟩
      exact met.imp fun item member _ => (exact_ item member).reads_iff.mpr

/-- A complete object without bounds, whose ground is an integer. -/
def grounded (groundZ : Int64) : Json := .object [
  ("schemaVersion", .int 1), ("frameId", .string "world"), ("unit", .string "m"),
  ("controlBounds", .null), ("groundZ", .int groundZ)]

theorem grounded_numbers {groundZ : Int64} {item : Json}
    (member : item ∈ numbers (grounded groundZ)) : item = .int groundZ ∨ item = .null := by
  have listed : numbers (grounded groundZ) = .int groundZ :: List.replicate 6 .null := rfl
  rw [listed] at member
  rcases List.mem_cons.mp member with same | absent
  · exact .inl same
  · exact .inr (List.eq_of_mem_replicate absent)

/-- Two to the power of 53 is read as it is, the integer after it is not. -/
theorem grounded_misread :
    Obeys (grounded 9007199254740992) ∧ ¬Obeys (grounded 9007199254740993) := by
  have stored (groundZ : Int64) : Stored (grounded groundZ) := by
    rintro item member real rfl
    rcases grounded_numbers member with never | never <;> cases never
  refine ⟨(parseWorldBoundary_obeys _ (stored _)).mpr ⟨?_, fun _ item member => ?_⟩,
    fun obeys => ?_⟩
  · rintro ⟨-, -, version, same, -⟩
    cases same
  · rcases grounded_numbers member with rfl | rfl
    · rintro number rfl
      decide +kernel
    · intro number never
      cases never
  · have met : Schema Denotes (grounded 9007199254740993) ⟨none, some 9007199254740993⟩ :=
      ⟨rfl, fun _ => Iff.rfl, .inl rfl, rfl, rfl, rfl, rfl⟩
    have fits := (parseWorldBoundary_obeys _ (stored _)).mp obeys
    have rounded := fits.2 ⟨_, met⟩ _ groundZ_mem_numbers _ rfl
    exact absurd rounded (by decide +kernel)

/-- A complete object but for the version, which is two to the power of 63. -/
def oversizedBoundary : Json := .object [
  ("schemaVersion", .uint 9223372036854775808), ("frameId", .string "world"),
  ("unit", .string "m"), ("controlBounds", .null), ("groundZ", .null)]

/-- An unknown version, and neither an invalid argument nor an invalid configuration. -/
theorem oversizedBoundary_misreported : ¬Obeys oversizedBoundary ∧
    parseWorldBoundary oversizedBoundary =
      .error (.logicError "LargestUInt out of Int64 range") ∧
    ConfigureStatus.of (parseWorldBoundary oversizedBoundary) = .internal := by
  have oversized : Oversized oversizedBoundary :=
    ⟨rfl, fun _ => Iff.rfl, 9223372036854775808, rfl, by decide⟩
  have failed := parseWorldBoundary_oversized oversized
  refine ⟨not_obeys oversized, failed, ?_⟩
  rw [failed]
  rfl

end WorldBoundary

end MultirotorController
