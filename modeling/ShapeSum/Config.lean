import ShapeSum.Decode.Convert
import ShapeSum.Json.Reader
import ShapeSum.Naming.Namer
import ShapeSum.Text.Identifier
import ShapeSum.Text.Word

/-!
# Generation settings

The settings say how types are named, how a name that is taken is lengthened, and
how the values of unions are compared and hashed.  Settings are read from an
object; every fault is reported, those of the known settings in their order and
then the unknown keys.
-/

namespace ShapeSum

/-- The settings of a generation. -/
structure Config where
  /-- Put in front of the names of unions. -/
  namePrefix : Option String := none
  /-- Put behind the names of unions. -/
  nameSuffix : Option String := none
  /-- The characters that separate words. -/
  delimiters : String := "-_"
  /-- Put behind a name that is taken. -/
  separator : String := "_"
  /-- Whether the values of unions are compared by tag and payload. -/
  structural : Bool := true
  /-- How the values of unions are hashed. -/
  hashing : HashStrategy := .canonicalJson
  /-- The tag of a variant whose name gives none. -/
  emptyTag : String := "EMPTY_TAG"

namespace Config

/-- Whether the payloads of unions are immutable: so they must be to be hashed by their fields. -/
def frozenPayloads (c : Config) : Bool := c.structural && c.hashing == .native

/-- The naming policy. -/
def policy (c : Config) : NamingPolicy := ⟨c.namePrefix, c.nameSuffix, c.delimiters⟩

/-- The namer. -/
def namer (c : Config) : Namer := ⟨c.policy, c.separator⟩

/-! ## Reading -/

/-- What is wrong with one setting. -/
inductive Fault where
  /-- The value does not have the type of the setting. -/
  | mismatch (m : Mismatch)
  /-- The value is not among the strategies. -/
  | strategy
  /-- The separator is not one word character. -/
  | separator (s : String)
  /-- The tag is no identifier. -/
  | emptyTag (s : String)
  /-- There is no such setting. -/
  | unknown

/-- The wording of a fault. -/
def Fault.message : Fault → String
  | .mismatch m => m.message
  | .strategy => "Input should be 'canonical_json' or 'native'"
  | .separator s =>
    s!"Value error, unique_separator must be a single identifier character, got '{s}'"
  | .emptyTag s => s!"Value error, empty_tag must be a valid identifier, got '{s}'"
  | .unknown => "Extra inputs are not permitted"

/-- The short name of a fault's kind. -/
def Fault.code : Fault → String
  | .mismatch .text => "string_type"
  | .mismatch .booleanLike => "bool_parsing"
  | .mismatch _ => "bool_type"
  | .strategy => "literal_error"
  | .separator _ => "value_error"
  | .emptyTag _ => "value_error"
  | .unknown => "extra_forbidden"

/-- A fault, the setting that it is about, and the value that was given. -/
structure Issue where
  /-- The name of the setting. -/
  key : String
  /-- The fault. -/
  fault : Fault
  /-- The value. -/
  given : Json

/-- A text as a setting. -/
def readText (j : Json) : Except Fault String :=
  match j with
  | .str s => .ok s
  | _ => .error (.mismatch .text)

/-- A text or null as a setting. -/
def readOptionalText (j : Json) : Except Fault (Option String) :=
  match j with
  | .null => .ok none
  | j => (readText j).map some

/-- Whether a text is one word character. -/
def isSeparator (s : String) : Bool :=
  match s.toList with
  | [c] => Text.isWord c
  | _ => false

/-- A separator. -/
def readSeparator (j : Json) : Except Fault String := do
  let s ← readText j
  if isSeparator s then return s else throw (.separator s)

/-- A tag. -/
def readTag (j : Json) : Except Fault String := do
  let s ← readText j
  if Text.isIdentifier s.toList then return s else throw (.emptyTag s)

/-- A truth value as a setting. -/
def readTruth (j : Json) : Except Fault Bool :=
  match Convert.truth (Value.ofJson j) with
  | .ok (b, _) => .ok b
  | .error m => .error (.mismatch m)

/-- A hash strategy. -/
def readStrategy (j : Json) : Except Fault HashStrategy :=
  match j with
  | .str "canonical_json" => .ok .canonicalJson
  | .str "native" => .ok .native
  | _ => .error .strategy

/-- The names of the settings. -/
def settings : List String :=
  ["class_name_prefix", "class_name_suffix", "property_word_delimiters", "unique_separator",
   "include_hashcode_and_equals", "hash_strategy", "empty_tag"]

/-- One setting, its default if it is not given, and the issues so far with its own behind. -/
def readSetting {α : Type} (members : List (String × Json)) (key : String)
    (read : Json → Except Fault α) (default : α) (issues : List Issue) : α × List Issue :=
  match Entries.get? members key with
  | none => (default, issues)
  | some j => match read j with
    | .ok a => (a, issues)
    | .error f => (default, issues ++ [⟨key, f, j⟩])

/-- Settings from the members of an object. -/
def ofMembers (members : List (String × Json)) : Except (List Issue) Config :=
  let d : Config := {}
  let (namePrefix, issues) :=
    readSetting members "class_name_prefix" readOptionalText d.namePrefix []
  let (nameSuffix, issues) :=
    readSetting members "class_name_suffix" readOptionalText d.nameSuffix issues
  let (delimiters, issues) :=
    readSetting members "property_word_delimiters" readText d.delimiters issues
  let (separator, issues) :=
    readSetting members "unique_separator" readSeparator d.separator issues
  let (structural, issues) :=
    readSetting members "include_hashcode_and_equals" readTruth d.structural issues
  let (hashing, issues) := readSetting members "hash_strategy" readStrategy d.hashing issues
  let (emptyTag, issues) := readSetting members "empty_tag" readTag d.emptyTag issues
  let unknown := (members.filter fun m => !settings.contains m.1).map fun (k, v) =>
    (⟨k, .unknown, v⟩ : Issue)
  match issues ++ unknown with
  | [] => .ok ⟨namePrefix, nameSuffix, delimiters, separator, structural, hashing, emptyTag⟩
  | issues => .error issues

/-- A setting that is read has a property that its default and all its readings have. -/
theorem readSetting_fst {α : Type} {P : α → Prop} {read : Json → Except Fault α} {default : α}
    (hdefault : P default) (hread : ∀ j a, read j = .ok a → P a) (members : List (String × Json))
    (key : String) (issues : List Issue) :
    P (readSetting members key read default issues).1 := by
  unfold readSetting
  split
  · exact hdefault
  · split
    · rename_i a ha
      exact hread _ a ha
    · exact hdefault

/-- A text that is read and checked passes the check. -/
theorem of_checkedText {check : String → Bool} {fault : String → Fault} {j : Json} {s : String}
    (h : (do
      let s ← readText j
      if check s then return s else throw (fault s)) = Except.ok s) : check s = true := by
  cases ht : readText j with
  | error e =>
    rw [ht] at h
    cases h
  | ok t =>
    have h' : (if check t then .ok t else .error (fault t)) = Except.ok s := by
      rw [ht] at h
      exact h
    by_cases hc : check t = true
    · rw [if_pos hc] at h'
      cases h'
      exact hc
    · rw [if_neg hc] at h'
      cases h'

/-- Settings whose texts pass their checks. -/
structure Accepted (c : Config) : Prop where
  /-- The separator is one word character. -/
  separator : isSeparator c.separator = true
  /-- The tag for names without one is an identifier. -/
  emptyTag : Text.isIdentifier c.emptyTag.toList = true

/-- The default settings pass the checks. -/
theorem accepted_default : ({} : Config).Accepted :=
  ⟨by decide +kernel, by decide +kernel⟩

/-- The settings that are read pass the checks, their defaults included. -/
theorem accepted_of_ofMembers {members : List (String × Json)} {c : Config}
    (h : ofMembers members = .ok c) : c.Accepted := by
  unfold ofMembers at h
  dsimp only at h
  split at h
  · cases h
    constructor
    · exact readSetting_fst (P := fun s => isSeparator s = true) accepted_default.separator
        (fun _ _ hs => of_checkedText hs) _ _ _
    · exact readSetting_fst (P := fun s => Text.isIdentifier s.toList = true)
        accepted_default.emptyTag (fun _ _ hs => of_checkedText hs) _ _ _
  · cases h

/-- Why a text holds no settings. -/
inductive TextFault where
  /-- The text is no JSON. -/
  | json (message : String)
  /-- The JSON is no object but of another kind. -/
  | kind (name : String)
  /-- Some settings are wrong. -/
  | issues (list : List Issue)

/-- Settings from the text of a file. -/
def ofText (text : String) : Except TextFault Config :=
  match Json.parseStored text with
  | .error m => .error (.json m)
  | .ok (.obj members) => match ofMembers members with
    | .ok c => .ok c
    | .error is => .error (.issues is)
  | .ok j => .error (.kind j.kind)

/-- The settings as JSON. -/
def toJson (c : Config) : Json :=
  let text? (s : Option String) : Json := match s with
    | some s => .str s
    | none => .null
  .obj [("class_name_prefix", text? c.namePrefix), ("class_name_suffix", text? c.nameSuffix),
    ("property_word_delimiters", .str c.delimiters), ("unique_separator", .str c.separator),
    ("include_hashcode_and_equals", .bool c.structural),
    ("hash_strategy", .str (match c.hashing with
      | .canonicalJson => "canonical_json"
      | .native => "native")),
    ("empty_tag", .str c.emptyTag)]

end Config

end ShapeSum
