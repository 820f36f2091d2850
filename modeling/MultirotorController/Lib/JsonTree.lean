import MultirotorController.Lib.Json
import Mathlib.Data.List.Nodup

/-!
# Positions in a JSON object

A position is the list of keys that leads from the root to a node. The leaves are the
nodes that are no objects. The keys of an object are distinct, so a member is what its
key looks up.
-/

namespace Json

def follow (node : Json) : List String → Option Json
  | [] => some node
  | key :: rest => (node.member key).bind (follow · rest)

/-- The position of an array, a string, a number, a boolean or a null. -/
def Leaf (root : Json) (position : List String) : Prop :=
  ∃ node, root.follow position = some node ∧ node.isObject = false

mutual

/-- No object of the tree has a key twice. -/
def UniqueKeys : Json → Prop
  | .object members => (members.map Prod.fst).Nodup ∧ UniqueMembers members
  | _ => True

def UniqueMembers : List (String × Json) → Prop
  | [] => True
  | (_, child) :: rest => UniqueKeys child ∧ UniqueMembers rest

end

theorem lookup_of_mem {members : List (String × Json)} (unique : (members.map Prod.fst).Nodup)
    {name : String} {child : Json} (member : (name, child) ∈ members) :
    members.lookup name = some child := by
  induction members with
  | nil => cases member
  | cons head rest ih =>
      obtain ⟨key, value⟩ := head
      rw [List.map_cons, List.nodup_cons] at unique
      rcases List.mem_cons.mp member with same | later
      · cases same
        exact List.lookup_cons_self
      · have differs : name ≠ key := by
          rintro rfl
          exact unique.1 (List.mem_map.mpr ⟨_, later, rfl⟩)
        rw [List.lookup_cons, beq_false_of_ne differs]
        exact ih unique.2 later

theorem mem_of_lookup {members : List (String × Json)} {name : String} {child : Json}
    (found : members.lookup name = some child) : (name, child) ∈ members := by
  induction members with
  | nil => cases found
  | cons head rest ih =>
      obtain ⟨key, value⟩ := head
      rw [List.lookup_cons] at found
      split at found
      next same =>
        cases found
        rw [beq_iff_eq.mp same]
        exact List.mem_cons_self
      next => exact List.mem_cons_of_mem _ (ih found)

/-- The only position in a value that is no object is its own. -/
theorem leaf_of_not_object {node : Json} (leaf : node.isObject = false) {position : List String} :
    node.Leaf position ↔ position = [] := by
  cases position with
  | nil => exact ⟨fun _ => rfl, fun _ => ⟨node, rfl, leaf⟩⟩
  | cons key rest =>
      constructor
      · rintro ⟨found, followed, _⟩
        cases node with
        | object members => cases leaf
        | _ => cases followed
      · intro never
        cases never

/-- A leaf of an object is a leaf of a member. -/
theorem leaf_object {members : List (String × Json)} (unique : (members.map Prod.fst).Nodup)
    {position : List String} : (Json.object members).Leaf position ↔
      ∃ name child rest, (name, child) ∈ members ∧ child.Leaf rest ∧ position = name :: rest := by
  constructor
  · rintro ⟨node, followed, leaf⟩
    cases position with
    | nil =>
        cases followed
        cases leaf
    | cons name rest =>
        obtain ⟨child, found, followed⟩ := Option.bind_eq_some_iff.mp followed
        exact ⟨name, child, rest, mem_of_lookup found, ⟨node, followed, leaf⟩, rfl⟩
  · rintro ⟨name, child, rest, member, ⟨node, followed, leaf⟩, rfl⟩
    refine ⟨node, ?_, leaf⟩
    exact Option.bind_eq_some_iff.mpr ⟨child, lookup_of_mem unique member, followed⟩

section Paths

variable (join : String → String → String)

mutual

/-- The leaves of an object, each under the name that the keys on its way make. -/
def collectLeaves : Json → String → List String
  | .object members, parent => collectMembers members parent
  | _, _ => []

def collectMembers : List (String × Json) → String → List String
  | [], _ => []
  | (name, child) :: rest, parent =>
      (if child.isObject then collectLeaves child (join parent name) else [join parent name]) ++
        collectMembers rest parent

end

mutual

theorem mem_collectLeaves : ∀ (node : Json) (parent path : String), node.isObject = true →
    node.UniqueKeys → (path ∈ collectLeaves join node parent ↔
      ∃ position, node.Leaf position ∧ position.foldl join parent = path)
  | .object members, parent, path, _, unique => by
      change path ∈ collectMembers join members parent ↔ _
      rw [mem_collectMembers members parent path unique.2]
      constructor
      · rintro ⟨name, child, rest, member, leaf, spelled⟩
        exact ⟨name :: rest, (leaf_object unique.1).mpr ⟨name, child, rest, member, leaf, rfl⟩,
          spelled⟩
      · rintro ⟨position, leaf, spelled⟩
        obtain ⟨name, child, rest, member, below, rfl⟩ := (leaf_object unique.1).mp leaf
        exact ⟨name, child, rest, member, below, spelled⟩

theorem mem_collectMembers : ∀ (members : List (String × Json)) (parent path : String),
    UniqueMembers members → (path ∈ collectMembers join members parent ↔
      ∃ name child rest, (name, child) ∈ members ∧ child.Leaf rest ∧
        rest.foldl join (join parent name) = path)
  | [], parent, path, _ => by
      simp [collectMembers]
  | (name, child) :: members, parent, path, unique => by
      have first : path ∈ (if child.isObject then collectLeaves join child (join parent name)
          else [join parent name]) ↔
          ∃ rest, child.Leaf rest ∧ rest.foldl join (join parent name) = path := by
        split
        next object => exact mem_collectLeaves child (join parent name) path object unique.1
        next leaf =>
          have leaf : child.isObject = false := Bool.not_eq_true _ ▸ leaf
          rw [List.mem_singleton]
          constructor
          · rintro rfl
            exact ⟨[], (leaf_of_not_object leaf).mpr rfl, rfl⟩
          · rintro ⟨rest, here, spelled⟩
            cases (leaf_of_not_object leaf).mp here
            exact spelled.symm
      rw [collectMembers, List.mem_append, first, mem_collectMembers members parent path unique.2]
      constructor
      · rintro (⟨rest, leaf, spelled⟩ | ⟨other, node, rest, member, leaf, spelled⟩)
        · exact ⟨name, child, rest, List.mem_cons_self, leaf, spelled⟩
        · exact ⟨other, node, rest, List.mem_cons_of_mem _ member, leaf, spelled⟩
      · rintro ⟨other, node, rest, member, leaf, spelled⟩
        rcases List.mem_cons.mp member with same | later
        · cases same
          exact .inl ⟨rest, leaf, spelled⟩
        · exact .inr ⟨other, node, rest, later, leaf, spelled⟩

end

end Paths

end Json
