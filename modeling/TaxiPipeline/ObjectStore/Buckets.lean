import Mathlib.Data.List.Basic

namespace ObjectStore

variable {Key Body Tags Id : Type*}

/-- One version of an object: what an upload stored, and the id that it got. -/
structure Version (Key Body Tags Id : Type*) where
  key : Key
  body : Body
  tags : Tags
  id : Id
  deriving DecidableEq

/-- The versions of a bucket, the newest first. No upload takes a version away. -/
abbrev Bucket (Key Body Tags Id : Type*) := List (Version Key Body Tags Id)

namespace Bucket

variable [DecidableEq Key]

/-- What a key stands for: its newest version. -/
def latest (bucket : Bucket Key Body Tags Id) (key : Key) : Option (Version Key Body Tags Id) :=
  bucket.find? (·.key = key)

/-- An upload; `ids` names the versions of the bucket in their order. -/
def put (ids : Nat → Id) (bucket : Bucket Key Body Tags Id) (key : Key) (body : Body) (tags : Tags) :
    Bucket Key Body Tags Id :=
  ⟨key, body, tags, ids bucket.length⟩ :: bucket

variable {ids : Nat → Id} {bucket : Bucket Key Body Tags Id} {key other : Key} {body : Body} {tags : Tags}
  {version : Version Key Body Tags Id}

@[simp] theorem latest_put_self :
    (bucket.put ids key body tags).latest key = some ⟨key, body, tags, ids bucket.length⟩ := by
  simp [latest, put]

theorem latest_put_other (apart : key ≠ other) :
    (bucket.put ids key body tags).latest other = bucket.latest other := by
  simp [latest, put, apart]

omit [DecidableEq Key] in
theorem mem_put : version ∈ bucket.put ids key body tags ↔
    version = ⟨key, body, tags, ids bucket.length⟩ ∨ version ∈ bucket :=
  List.mem_cons

theorem latest_some (found : bucket.latest key = some version) : version ∈ bucket ∧ version.key = key :=
  ⟨List.mem_of_find?_eq_some found, by simpa using List.find?_some found⟩

theorem latest_put_isSome (found : (bucket.latest other).isSome) :
    ((bucket.put ids key body tags).latest other).isSome := by
  by_cases same : key = other
  · subst same
    rw [latest_put_self]
    rfl
  · rwa [latest_put_other same]

end Bucket

end ObjectStore
