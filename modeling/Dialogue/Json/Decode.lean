import Dialogue.Json.Reader
import Dialogue.Text.Blank
import Dialogue.Text.Quoted

/-!
# Decoding JSON into typed values

A decoder takes a tree to a typed value or to the first reason why it cannot. The fields of a record
may come as an object or, in their order, as an array. An object's entries are looked at in the order
in which they are written, so of two faults the one that is written first is reported, and missing
fields come last.

This is how the derived decoders of the program work. Where a value comes from (a tree, a text, or a tree
that was read ahead for its tag) changes some of their sentences; the line and column in them are not
modelled.
-/
namespace Dialogue.Json

/-- What a decoder found where it wanted something else. -/
inductive Found where
  | null
  | unit
  | boolean (value : Bool)
  | integer (value : Int)
  | float (value : Float)
  | text (value : String)
  | sequence
  | map
  | unitVariant

def Found.describe : Found → String
  | .null => "null"
  | .unit => "unit value"
  | .boolean b => "boolean `" ++ (if b then "true" else "false") ++ "`"
  | .integer n => "integer `" ++ String.ofList (Decimal.intText n) ++ "`"
  | .float x => "floating point `" ++ String.ofList (Decimal.jsonText x) ++ "`"
  | .text s => "string " ++ Text.quoted s
  | .sequence => "sequence"
  | .map => "map"
  | .unitVariant => "unit variant"

/-- Why a tree is not the value that was wanted. -/
inductive DecodeError where
  | malformed (fault : Fault)
  | missingField (name : String)
  | duplicateField (name : String)
  | unknownVariant (name : String) (known : List String)
  | wrongType (found : Found) (expected : String)
  | wrongValue (found : Found) (expected : String)
  | wrongLength (given : Nat) (expected : String)

/-- The names that would have been accepted. -/
def describeKnown (known : List String) : String :=
  match known.map (fun name => "`" ++ name ++ "`") with
  | [] => "there are no variants"
  | [a] => "expected " ++ a
  | [a, b] => "expected " ++ a ++ " or " ++ b
  | names => "expected one of " ++ Text.join ", " names

def DecodeError.message : DecodeError → String
  | .malformed fault => fault.message
  | .missingField name => "missing field `" ++ name ++ "`"
  | .duplicateField name => "duplicate field `" ++ name ++ "`"
  | .unknownVariant name known => "unknown variant `" ++ name ++ "`, " ++ describeKnown known
  | .wrongType found expected => "invalid type: " ++ found.describe ++ ", expected " ++ expected
  | .wrongValue found expected => "invalid value: " ++ found.describe ++ ", expected " ++ expected
  | .wrongLength given expected =>
    "invalid length " ++ toString given ++ ", expected " ++ expected

/-- Where the tree under a decoder comes from: a value at hand, a text that is decoded as it is read
and `depth` containers deep, or content that had to be read ahead of the tag that says what it is. -/
inductive Origin where
  | value
  | text (depth : Nat)
  | buffered
  deriving DecidableEq, Repr

/-- The origin of what a container holds. -/
def Origin.enter : Origin → Origin
  | .text depth => .text (depth + 1)
  | origin => origin

/-- The fault of content that has to be read ahead. Only a text can hold one. -/
def Origin.readAhead? : Origin → Json → Option Fault
  | .text depth, tree => tree.readFault? (maxNesting - depth)
  | _, _ => none

/-- The fault of an entry that is passed over. -/
def Origin.passOver? : Origin → Json → Option Fault
  | .text _, tree => tree.skipFault?
  | _, _ => none

abbrev Decoder (α : Type) := Origin → Json → Except DecodeError α

/-- A tree that is not of the wanted kind. -/
def mismatch (expected : String) : Json → DecodeError
  | .null => .wrongType .null expected
  | .bool b => .wrongType (.boolean b) expected
  | .int n => .wrongType (.integer n) expected
  | .float x => .wrongType (.float x) expected
  | .str s => .wrongType (.text s) expected
  | .arr _ => .wrongType .sequence expected
  | .obj _ => .wrongType .map expected
  | .cut fault _ | .stray fault _ => .malformed fault

namespace Decoder

variable {α β : Type}

/-- Decodes a value at hand. -/
def run (d : Decoder α) (tree : Json) : Except DecodeError α := d .value tree

/-- Decodes a text that holds one value and nothing else. -/
def runText (d : Decoder α) (s : String) : Except DecodeError α :=
  let (tree, rest) := Json.read s
  match d (.text 0) tree with
  | .error e => .error e
  | .ok a =>
    if (rest.getD []).all isSpace then .ok a else .error (.malformed .trailingCharacters)

def map (f : α → β) (d : Decoder α) : Decoder β := fun origin tree => (d origin tree).map f

/-- A text, described as `expected` when it is something else. -/
def textAs (expected : String) : Decoder String
  | _, .str s => .ok s
  | _, tree => .error (mismatch expected tree)

def text : Decoder String := textAs "a string"

def flag : Decoder Bool
  | _, .bool b => .ok b
  | _, tree => .error (mismatch "a boolean" tree)

/-- Any number; an integer is taken to the nearest double. -/
def double : Decoder Float
  | _, .int n => .ok (Decimal.ofInt n)
  | _, .float x => .ok x
  | _, tree => .error (mismatch "f64" tree)

/-- An integer from zero up to below `bound`. -/
def natural (expected : String) (bound : Nat) : Decoder Nat
  | _, .int n =>
    if 0 ≤ n && n < bound then .ok n.toNat else .error (.wrongValue (.integer n) expected)
  | _, tree => .error (mismatch expected tree)

def size : Decoder Nat := natural "usize" (Nat.pow 2 64)

/-- A size as a machine word. -/
def word : Decoder UInt64 := size.map UInt64.ofNat

/-- Any tree at all. -/
def any : Decoder Json := fun origin tree =>
  match origin.readAhead? tree with
  | some fault => .error (.malformed fault)
  | none => .ok tree

/-- `null` stands for nothing. -/
def optional (d : Decoder α) : Decoder (Option α)
  | _, .null => .ok none
  | origin, tree => some <$> d origin tree

def list (d : Decoder α) : Decoder (List α)
  | origin, .arr items => items.mapM (d origin.enter)
  | _, tree => .error (mismatch "a sequence" tree)

/-- The entries of an object in order, each value decoded. -/
def entries (d : Decoder α) (origin : Origin) :
    List (String × Json) → Except DecodeError (List (String × α))
  | [] => .ok []
  | (key, value) :: rest => do
    let value ← d origin value
    let rest ← entries d origin rest
    .ok ((key, value) :: rest)

/-- An object with free keys. The last value of a key wins, at the first place. -/
def table (d : Decoder α) : Decoder (Table α)
  | origin, .obj es => Table.ofLast <$> entries d origin.enter es
  | _, tree => .error (mismatch "a map" tree)

/-- One of several names. A name may also be the only key of an object, with `null` behind it. -/
def oneOf (variants : List (String × α)) : Decoder α := fun origin tree =>
  let choose (name : String) : Except DecodeError α :=
    match Table.lookup name variants with
    | some a => .ok a
    | none => .error (.unknownVariant name (variants.map Prod.fst))
  let unit (a : α) : Json → Except DecodeError α
    | .null => .ok a
    | tree => .error (mismatch "unit" tree)
  match origin, tree with
  | _, .str name => choose name
  | .text _, .obj ((key, value) :: rest) =>
    match value with
    | .stray .endOfObject _ => .error (.malformed .endOfValue)
    | .stray .keyMustBeString _ => .error (.malformed .expectedValue)
    | .stray fault _ => .error (.malformed fault)
    | _ => do
      let a ← choose key
      let a ← unit a value
      match rest with
      | [] => .ok a
      | (_, .stray .endOfObject _) :: _ => .error (.malformed .endOfObject)
      | _ => .error (.malformed .expectedValue)
  | .text _, .cut fault _ =>
    .error (.malformed (if fault.isOfToken then .expectedValue else fault))
  | .text _, _ => .error (.malformed .expectedValue)
  | _, .obj [(key, value)] => do unit (← choose key) value
  | _, .obj _ => .error (.wrongValue .map "map with a single key")
  | _, tree => .error (mismatch "string or map" tree)

/-- An object whose only key names the kind of what stands behind it. -/
def keyed (variants : List (String × Decoder α)) : Decoder α := fun origin tree =>
  let choose (name : String) : Except DecodeError (Decoder α) :=
    match Table.lookup name variants with
    | some d => .ok d
    | none => .error (.unknownVariant name (variants.map Prod.fst))
  match tree with
  | .str name => do
    let _ ← choose name
    .error (.wrongType .unitVariant "newtype variant")
  | .obj [(key, value)] => do (← choose key) origin.enter value
  | .obj _ => .error (.wrongValue .map "map with a single key")
  | tree => .error (mismatch "string or map" tree)

end Decoder

/-- A failure and the place, among the entries of its object, where it stands. -/
structure Failure where
  place : Nat
  error : DecodeError

/-- Of two failures, the one that is written first. -/
def Failure.first (a b : Failure) : Failure := if b.place < a.place then b else a

/-- The fields of a record: how to take them from an object and how from an array. -/
structure Fields (α : Type) where
  names : List String
  ofObject : Origin → List (String × Json) → Except Failure α
  ofArray : Origin → String → Nat → List Json → Except DecodeError (α × List Json)

namespace Fields

variable {α β : Type}

/-- Where a field stands in an object. -/
structure Occurrence where
  place : Nat
  value : Json
  repeated : Option Nat

/-- The place, from `place` on, of the first entry called `name`. -/
def placeOf? (name : String) (place : Nat) : List (String × Json) → Option Nat
  | [] => none
  | (key, _) :: rest => if key = name then some place else placeOf? name (place + 1) rest

/-- The first entry called `name`, and where it is repeated. -/
def locate? (name : String) (place : Nat) : List (String × Json) → Option Occurrence
  | [] => none
  | (key, value) :: rest =>
    if key = name then some ⟨place, value, placeOf? name (place + 1) rest⟩
    else locate? name (place + 1) rest

/-- One field. Without a default it has to be there. -/
def field (name : String) (d : Decoder α) (default : Option α) : Fields α where
  names := [name]
  ofObject origin entries :=
    match locate? name 0 entries with
    | none =>
      match default with
      | some a => .ok a
      | none => .error ⟨entries.length, .missingField name⟩
    | some found =>
      match d origin found.value, found.repeated with
      | .error e, _ => .error ⟨found.place, e⟩
      | .ok _, some place => .error ⟨place, .duplicateField name⟩
      | .ok a, none => .ok a
  ofArray origin expected index
    | [] =>
      match default with
      | some a => .ok (a, [])
      | none => .error (.wrongLength index expected)
    | item :: rest => do
      let a ← d origin item
      .ok (a, rest)

def required (name : String) (d : Decoder α) : Fields α := field name d none

def withDefault (name : String) (d : Decoder α) (default : α) : Fields α :=
  field name d (some default)

/-- A field that may be absent or `null`. -/
def maybe (name : String) (d : Decoder α) : Fields (Option α) :=
  field name d.optional (some none)

def map (f : α → β) (fields : Fields α) : Fields β where
  names := fields.names
  ofObject origin entries := (fields.ofObject origin entries).map f
  ofArray origin expected index items := do
    let (a, rest) ← fields.ofArray origin expected index items
    .ok (f a, rest)

/-- Both groups of fields; of two failures the one that is written first. -/
def apply (fs : Fields (α → β)) (xs : Fields α) : Fields β where
  names := fs.names ++ xs.names
  ofObject origin entries :=
    match fs.ofObject origin entries, xs.ofObject origin entries with
    | .ok f, .ok a => .ok (f a)
    | .ok _, .error e => .error e
    | .error e, .ok _ => .error e
    | .error e, .error e' => .error (e.first e')
  ofArray origin expected index items := do
    let (f, items) ← fs.ofArray origin expected index items
    let (a, items) ← xs.ofArray origin expected (index + fs.names.length) items
    .ok (f a, items)

instance : Functor Fields where
  map := Fields.map

instance : Seq Fields where
  seq fs xs := Fields.apply fs (xs ())

end Fields

/-- The first entry, from `place` on, that is not among the known names and cannot be passed over. A fault
between entries never can. -/
def unknownFault? (origin : Origin) (known : List String) (place : Nat) :
    List (String × Json) → Option Failure
  | [] => none
  | (key, value) :: rest =>
    let later := fun _ => unknownFault? origin known (place + 1) rest
    if known.contains key then later ()
    else
      match value with
      | .stray fault _ => some ⟨place, .malformed fault⟩
      | _ =>
        match origin.passOver? value with
        | some fault => some ⟨place, .malformed fault⟩
        | none => later ()

def plural (n : Nat) : String := if n = 1 then "1 element" else toString n ++ " elements"

/-- The fault of array items behind the last field of a record. -/
def surplusError? (origin : Origin) (fields given : Nat) : List Json → Option DecodeError
  | [] => none
  | item :: _ =>
    match origin with
    | .value => some (.wrongLength given "fewer elements in array")
    | .buffered => some (.wrongLength given (plural fields ++ " in sequence"))
    | .text _ =>
      match item with
      | .cut .trailingComma _ => some (.malformed .trailingComma)
      | .cut .endOfList _ => some (.malformed .endOfList)
      | _ => some (.malformed .trailingCharacters)

namespace Decoder

variable {α : Type}

/-- The outcome of reading fields from an object, once the unknown entries are looked at too. -/
def settleFields (fields : Except Failure α) (unknown : Option Failure) : Except DecodeError α :=
  match fields, unknown with
  | .ok a, none => .ok a
  | .ok _, some e => .error e.error
  | .error e, none => .error e.error
  | .error e, some e' => .error (e.first e').error

/-- A record, described as `expected`. -/
def record (expected : String) (fields : Fields α) : Decoder α
  | origin, .obj entries =>
    settleFields (fields.ofObject origin.enter entries)
      (unknownFault? origin.enter fields.names 0 entries)
  | origin, .arr items =>
    let count := fields.names.length
    match fields.ofArray origin.enter (expected ++ " with " ++ plural count) 0 items with
    | .error e => .error e
    | .ok (a, surplus) =>
      match surplusError? origin count items.length surplus with
      | some e => .error e
      | none => .ok a
  | _, tree => .error (mismatch expected tree)

/-- The variant that a tag names. Content that was read ahead may also give its number. -/
def variant (variants : List (String × Decoder α)) : Decoder (Decoder α)
  | _, .str name =>
    match Table.lookup name variants with
    | some d => .ok d
    | none => .error (.unknownVariant name (variants.map Prod.fst))
  | .buffered, .int (.ofNat n) =>
    match variants[n]? with
    | some (_, d) => .ok d
    | none =>
      .error (.wrongValue (.integer n)
        ("variant index 0 <= i < " ++ toString variants.length))
  | _, tree => .error (mismatch "variant identifier" tree)

/-- Takes the tag out of an object: the variant it names, and the other entries. -/
def splitTag (tag : String) (variants : List (String × Decoder α)) (origin : Origin) :
    Option (Decoder α) → List (String × Json) →
      Except DecodeError (Option (Decoder α) × List (String × Json))
  | found, [] => .ok (found, [])
  | found, (key, value) :: rest =>
    if key = tag then
      match found with
      | some _ => .error (.duplicateField tag)
      | none => do
        let d ← variant variants origin value
        splitTag tag variants origin (some d) rest
    else
      match origin.readAhead? value with
      | some fault => .error (.malformed fault)
      | none => do
        let (found, rest) ← splitTag tag variants origin found rest
        .ok (found, (key, value) :: rest)

/-- A value that names its own kind under `tag`, or as the first item of an array. -/
def tagged (tag : String) (name : String) (variants : List (String × Decoder α)) : Decoder α
  | origin, .obj entries => do
    let (found, content) ← splitTag tag variants origin.enter none entries
    match found with
    | none => .error (.missingField tag)
    | some d => d .buffered (.obj content)
  | _, .arr [] => .error (.missingField tag)
  | origin, .arr (first :: rest) => do
    let d ← variant variants origin.enter first
    match rest.findSome? origin.enter.readAhead? with
    | some fault => .error (.malformed fault)
    | none => d .buffered (.arr rest)
  | _, tree => .error (mismatch ("internally tagged enum " ++ name) tree)

end Decoder

/-- An entry that is left out when there is nothing to write. -/
def entry? (key : String) : Option Json → List (String × Json)
  | none => []
  | some value => [(key, value)]

/-- An entry that is left out when the list is empty. -/
def entryList (key : String) : List Json → List (String × Json)
  | [] => []
  | items => [(key, .arr items)]

/-- A natural number as a tree. -/
def nat (n : Nat) : Json := .int n

/-- A double as a tree; JSON writes a number that is not finite as `null`. -/
def number (x : Float) : Json := if x.isFinite then .float x else .null

end Dialogue.Json
