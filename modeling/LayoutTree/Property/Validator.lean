import LayoutTree.Conversion.Converter
import LayoutTree.Files.Store
import LayoutTree.Node.Node
import LayoutTree.Property.Setter
import LayoutTree.Property.Validation
import LayoutTree.Registry.Chain
import LayoutTree.Text.Alphanumeric

/-!
# Validators

Checks of raw values before they are converted and assigned. Every validator that applies runs, and
what they find is merged (`Validator.validate`); one that fails itself counts as an error.
-/

namespace LayoutTree

open LayoutTree.Text LayoutTree.Number

/-- What a validation depends on besides the node. -/
structure ValidationScope where
  /-- The files that paths may lead to. -/
  files : FileStore
  /-- The directory that relative paths start from, unless it is the working directory. -/
  directory : Option FilePath

/-- The scope of the properties from a layout file. -/
def ValidationScope.ofSource (files : FileStore) (source : Option String) : ValidationScope :=
  ⟨files, match source with
    | some s => if s.isEmpty then none else some (FilePath.ofString s).parent
    | none => none⟩

/-- A check of raw values. -/
structure Validator where
  /-- What tells the validator apart from others. -/
  key : String
  /-- The name of its kind. -/
  name : String
  /-- Whether it applies to a property of a class, or the message with which it fails. -/
  applies : NodeClass → String → Except String Bool
  /-- What it finds about a raw value of a property, or the message with which it fails. -/
  check : ValidationScope → Node → String → String → Except String Validation

instance : Keyed Validator := ⟨Validator.key⟩

namespace Validator

/-- The written form of a validator. -/
def text (v : Validator) : String := v.name ++ "()"

/-- A message about a property. -/
def about (name detail : String) : String := name ++ ": " ++ detail

/-- A validator that does not fail itself. -/
def ofCheck (key kind : String) (applies : NodeClass → String → Bool)
    (check : ValidationScope → Node → String → String → Validation) : Validator :=
  ⟨key, kind, fun c name => .ok (applies c name), fun scope n name value =>
    .ok (check scope n name value)⟩

/-! ## Ranges of numbers -/

/-- The numbers from one to another. -/
structure NumberRange where
  low : Double
  high : Double

/-- A range of integers. -/
def NumberRange.ofInts (low high : Int) : NumberRange := ⟨.ofInt low, .ofInt high⟩

/-- The ranges of numeric properties by key. -/
def standardRanges : List (String × NumberRange) :=
  [("width", 0, 10000), ("height", 0, 10000), ("minwidth", 0, 10000), ("maxwidth", 0, 10000),
    ("minheight", 0, 10000), ("maxheight", 0, 10000), ("opacity", 0, 1), ("fontsize", 1, 1000),
    ("x", -10000, 10000), ("y", -10000, 10000), ("left", -10000, 10000), ("top", -10000, 10000),
    ("right", -10000, 10000), ("bottom", -10000, 10000)].map
      fun (name, low, high) => (name, .ofInts low high)

/-- The keys of the properties that may be unusually large. -/
def largeKeys : List String := ["width", "height"]

/-- The size above which a property is unusually large. -/
def largeSize : Double := Double.ofNat 5000

/-- What is wrong with a number. -/
def checkRange (name : String) (range : NumberRange) (value : String) : Validation :=
  if isBlankString value then .clean
  else
    match (readDouble value).toOption with
    | none => ⟨[about name (quoted value ++ " is not a number")], []⟩
    | some x =>
      if !(Double.le range.low x && Double.le x range.high) then
        ⟨[about name (x.brief ++ " is outside of [" ++ range.low.brief ++ ", " ++ range.high.brief ++
          "]")], []⟩
      else if largeKeys.contains (propertyKey name) && Double.lt largeSize x then
        ⟨[], [about name (x.brief ++ " is unusually large")]⟩
      else .clean

/-- The validator of numeric ranges. -/
def numericRange (key : String) (ranges : List (String × NumberRange)) : Validator :=
  ofCheck key "NumericRangeValidator" (fun _ name => (ranges.lookup (propertyKey name)).isSome)
    fun _ _ name value =>
      match ranges.lookup (propertyKey name) with
      | some range => checkRange name range value
      | none => .clean

/-- The ranges with the one of a property changed. -/
def setRange (ranges : List (String × NumberRange)) (name : String) (range : NumberRange) :
    List (String × NumberRange) :=
  putNamed (propertyKey name) range ranges

/-! ## Lengths of texts -/

/-- Limits on the length of texts. -/
structure TextLimits where
  /-- The keys of the properties under the limits. -/
  keys : List String
  /-- The length above which a text is refused. -/
  most : Int
  /-- The length above which a text is unusual. -/
  usual : Int

/-- The limits of the library. -/
def standardLimits : TextLimits := ⟨["text", "content", "header", "title"], 10000, 1000⟩

/-- What is wrong with a text of some length. -/
def checkLength (limits : TextLimits) (name value : String) : Validation :=
  if value.isEmpty then .clean
  else
    let longerThan := fun n : Int =>
      about name ("text longer than " ++ toString n ++ " characters")
    let v : Validation :=
      if limits.most < value.length then ⟨[longerThan limits.most], []⟩
      else if limits.usual < value.length then ⟨[], [longerThan limits.usual]⟩
      else .clean
    if value.toList.contains '\x00' then v.addError (about name "text contains NUL characters") else v

/-- The validator of text lengths. -/
def textLength (key : String) (limits : TextLimits) : Validator :=
  ofCheck key "StringLengthValidator" (fun _ name => limits.keys.contains (propertyKey name))
    fun _ _ name value => checkLength limits name value

/-! ## Injected code -/

/-- Signs of scripts. -/
def scriptSigns : List String := [
  "<script", "</script>", "javascript:", "vbscript:", "onclick=", "onerror=", "onload=", "eval(",
  "expression(", "data:text/html"]

/-- Signs of database statements. -/
def databaseSigns : List String := [
  "DROP TABLE", "DROP DATABASE", "DELETE FROM", "TRUNCATE ", "EXEC ", "EXECUTE ", "XP_",
  "SP_EXECUTESQL"]

/-- Whether more than half of the characters are neither letters nor digits nor blanks. -/
def isMostlySpecial (s : List Char) : Bool :=
  s.length < 2 * (s.filter fun c => !isAlphanumeric c && !isBlank c).length

/-- What looks like injected code. -/
def checkInjection (name value : String) : Validation :=
  let s := value.toList
  let folded := fold s
  let raised := upper s
  ⟨(scriptSigns.filter fun sign => hasInfix sign.toList folded).map fun sign =>
      about name ("forbidden script pattern " ++ quoted sign),
    ((databaseSigns.filter fun sign => hasInfix sign.toList raised).map fun sign =>
      about name ("suspicious SQL pattern " ++ quoted (trimmed sign))) ++
      if isMostlySpecial s then [about name "unusually high share of special characters"] else []⟩

/-- The validator that looks for injected code. -/
def injection : Validator :=
  ofCheck "SecurityValidator" "SecurityValidator" (fun _ _ => true)
    fun _ _ name value => checkInjection name value

/-! ## Paths of images -/

/-- The keys of the properties that hold paths of images. -/
def pathKeys : List String := ["source", "image", "imagen", "filepath"]

/-- What no path of an image may contain. -/
def pathSigns : List String := ["..", "\\\\", "<", ">", "|"]

/-- How addresses of images that are no files start. -/
def remoteMarks : List String := ["http://", "https://", "avares://", "resm:", "pack://"]

/-- The extensions of image files. -/
def imageExtensions : List String :=
  [".png", ".jpg", ".jpeg", ".gif", ".bmp", ".ico", ".svg", ".webp", ".tif", ".tiff"]

/-- What is wrong with a path that may be looked up. -/
def checkFile (files : FileStore) (base : Option FilePath) (name text : String) :
    Except String Validation :=
  let p := FilePath.ofString text
  let found := match base with
    | some base => base.join p
    | none => p
  let unexpected :=
    if imageExtensions.contains (folded p.extension) then []
    else
      let extension := if p.extension.isEmpty then "(none)" else p.extension
      [about name ("unexpected image extension " ++ quoted extension)]
  match files.leadsAnywhere found with
  | .error reason => .error (reason.message found)
  | .ok true => .ok ⟨[], unexpected⟩
  | .ok false => .ok ⟨[], unexpected ++ [about name ("file " ++ quoted text ++ " does not exist")]⟩

/-- What is wrong with the path of an image. -/
def checkPath (files : FileStore) (base : Option FilePath) (name value : String) :
    Except String Validation :=
  let text := trimmed value
  let s := text.toList
  if s.isEmpty || remoteMarks.any fun mark => mark.toList.isPrefixOf (fold s) then .ok .clean
  else
    let forbidden := pathSigns.filter fun sign => hasInfix sign.toList s
    if forbidden.isEmpty then checkFile files base name text
    else .ok ⟨forbidden.map fun sign =>
      about name ("path contains forbidden sequence " ++ quoted sign), []⟩

/-- The validator of image paths, which start from a directory of its own if it has one. -/
def imagePath (key : String) (base : Option FilePath) : Validator :=
  ⟨key, "FilePathValidator",
    fun c name => .ok (pathKeys.contains (propertyKey name) && Setter.isImage c),
    fun scope _ name value => checkPath scope.files (base.or scope.directory) name value⟩

/-! ## Pairs of bounds -/

/-- The keys of properties of which the first may not exceed the second. -/
def boundPairs : List (String × String) :=
  [("minwidth", "maxwidth"), ("minheight", "maxheight"), ("minimum", "maximum")]

/-- The number assigned to the property of a key, and the name of the property. -/
def assigned? (n : Node) (key : String) : Option (String × Double) := do
  let a ← n.cls.accessor? key
  let v ← n.slot? a.slot
  let x ← v.number?
  pure (a.name, x)

/-- What is wrong with a bound, compared with the other bound of a pair. -/
def checkBound (n : Node) (name : String) (x : Double) (pair : String × String) : List String :=
  let key := propertyKey name
  if key = pair.1 then
    match assigned? n pair.2 with
    | some (other, y) =>
      if Double.lt y x then
        [about name (x.brief ++ " is greater than " ++ other ++ " " ++ y.brief)]
      else []
    | none => []
  else if key = pair.2 then
    match assigned? n pair.1 with
    | some (other, y) =>
      if Double.lt x y then [about name (x.brief ++ " is less than " ++ other ++ " " ++ y.brief)]
      else []
    | none => []
  else []

/-- The validator of pairs of bounds. -/
def boundOrder : Validator :=
  ofCheck "RangeConsistencyValidator" "RangeConsistencyValidator"
    (fun _ name => boundPairs.any fun pair => pair.1 = propertyKey name || pair.2 = propertyKey name)
    fun _ n name value =>
      match (readDouble value).toOption with
      | some x => ⟨boundPairs.flatMap (checkBound n name x), []⟩
      | none => .clean

/-! ## Members of enumerations -/

/-- Words in lower case with their first letters in upper case; anything but a letter ends a word.
-/
def titled (afterLetter : Bool) : List Char → List Char
  | [] => []
  | c :: s =>
    let cased := upper [c] ≠ [c] || lower [c] ≠ [c]
    (if afterLetter then lower [c] else upper [c]) ++ titled cased s

/-- The name of a member as it is offered in messages. -/
def offeredName (member : String) : String :=
  onChars (fun s => without '_' (titled false s)) member

/-- The enumeration that a property takes its values from. -/
def enumeration? (c : NodeClass) (name : String) : Option Enumeration :=
  match (c.accessor? name).map Accessor.target with
  | some (.enumeration e) => some e
  | _ => none

/-- Whether a text names a member of an enumeration. -/
def isMember (e : Enumeration) (value : String) : Bool :=
  let found := if e = .fontWeight then Convert.fontWeight value else Convert.member e value
  found.toOption.isSome

/-- The validator of members of enumerations. -/
def membership : Validator :=
  ofCheck "EnumValidator" "EnumValidator" (fun c name => (enumeration? c name).isSome)
    fun _ n name value =>
      match enumeration? n.cls name with
      | some e =>
        if value.isEmpty || isMember e value then .clean
        else
          ⟨[about name (quoted value ++ " is not one of " ++
            joinWith ", " (e.names.map offeredName))], []⟩
      | none => .clean

/-! ## Data contexts -/

/-- The key of the property that names a data context. -/
def dataContextKey : String := "datacontext"

/-- The validator of data contexts. -/
def dataContext : Validator :=
  ofCheck "DataContextValidator" "DataContextValidator" (fun _ name => propertyKey name = dataContextKey)
    fun _ _ name value =>
      if isBlankString value then ⟨[], [about name "empty data context"]⟩ else .clean

/-! ## All validators -/

/-- The validators of the library in the order in which they run. -/
def standard : Chain Validator := ⟨[
  numericRange "NumericRangeValidator" standardRanges,
  textLength "StringLengthValidator" standardLimits,
  injection, imagePath "FilePathValidator" none, boundOrder, membership, dataContext]⟩

/-- What one validator finds about a raw value, or the message with which it fails. -/
def run (v : Validator) (scope : ValidationScope) (n : Node) (name value : String) :
    Except String Validation :=
  match v.applies n.cls name with
  | .error message => .error message
  | .ok false => .ok .clean
  | .ok true => v.check scope n name value

/-- What one validator contributes: its own failure counts as an error. -/
def contribution (v : Validator) (scope : ValidationScope) (n : Node) (name value : String) :
    Validation :=
  match v.run scope n name value with
  | .ok found => found
  | .error message => ⟨["Error in validator " ++ v.name ++ ": " ++ message], []⟩

/-- What all validators find about a raw value. -/
def validate (validators : Chain Validator) (scope : ValidationScope) (n : Node)
    (name value : String) : Validation :=
  validators.members.foldl (fun found v => found.merge (v.contribution scope n name value)) .clean

end Validator

end LayoutTree
