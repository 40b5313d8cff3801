import Sitewright.Codec.Basic
import Sitewright.Fingerprint.Basic

/-!
# Pictures and where they come from

A picture is asked for by its description and answered by an address. Who answers is a *source of
pictures*: any function from descriptions to addresses or errors. Answers are kept in a cache from
one compilation to the next, so that a description is asked for once.
-/

namespace Sitewright

/-! ### Errors -/

/-- Why there is no picture. -/
inductive ImageError where
  /-- Nobody answers. -/
  | unavailable (s : String)
  /-- The description is refused. -/
  | rejected (s : String)
  /-- The answer is no address. -/
  | invalidResponse (s : String)
  deriving DecidableEq

namespace ImageError

/-- The wording of an error. -/
def message : ImageError → String
  | unavailable s => "image service unavailable: " ++ s
  | rejected s => "image rejected: " ++ s
  | invalidResponse s => "invalid image response: " ++ s

/-- Whether the error says that nobody answers at all. -/
def isUnavailable : ImageError → Bool
  | unavailable _ => true
  | _ => false

end ImageError

/-! ### Sources of pictures -/

/-- The address of a picture by its description. -/
abbrev ImageService := String → Except ImageError String

namespace ImageService

/-- A source that never answers. -/
def offline : ImageService := fun _ => .error (.unavailable "offline")

/-- A collection of photos from which each description picks one by its fingerprint. -/
structure PhotoCollection where
  /-- Where the collection is. -/
  base : String
  /-- The width of a photo. -/
  width : Nat
  /-- The height of a photo. -/
  height : Nat
  deriving DecidableEq

namespace PhotoCollection

/-- The collection at an address, with photos of the usual size. -/
def ofAddress (address : String) : PhotoCollection :=
  ⟨String.ofList (Text.trimEndWhile (· == '/') address.toList), 1200, 800⟩

/-- The collection that is used if no other is named. -/
def default : PhotoCollection := ofAddress "https://picsum.photos"

/-- The address of the photo for a description. -/
def url (collection : PhotoCollection) (description : String) : String :=
  collection.base ++ "/seed/" ++ (Fingerprint.ofText description).short ++ "/" ++
    toString collection.width ++ "/" ++ toString collection.height

/-- The source that answers from the collection. It refuses a blank description. -/
def service (collection : PhotoCollection) : ImageService := fun description =>
  if Text.isBlank description then .error (.rejected "empty description")
  else .ok (collection.url description)

end PhotoCollection

end ImageService

/-! ### The cache -/

/-- The addresses of pictures by their descriptions. -/
structure ImageCache where
  /-- The addresses, in the order of the descriptions. -/
  entries : List (String × String)
  deriving DecidableEq

namespace ImageCache

/-- The cache that knows nothing. -/
def empty : ImageCache := ⟨[]⟩

/-- The cache with the given addresses; of several for one description the last counts. -/
def ofList (entries : List (String × String)) : ImageCache := ⟨Entries.sort entries⟩

/-- The address of a description. -/
def find? (cache : ImageCache) (description : String) : Option String :=
  Entries.find? description cache.entries

/-- Whether a description has an address. -/
def has (cache : ImageCache) (description : String) : Bool :=
  Entries.has description cache.entries

/-- The cache with an address for a description. -/
def insert (cache : ImageCache) (description url : String) : ImageCache :=
  ⟨Entries.insert description url cache.entries⟩

/-- The number of descriptions. -/
def size (cache : ImageCache) : Nat := cache.entries.length

/-- Reads the addresses of a cache one after the other. -/
def readEntries (dialect : Dialect) :
    List (String × Document) → Option Stop → Except ReadError (List (String × String))
  | [], none => .ok []
  | [], some s => .error (.broken s.onRead)
  | (key, d) :: rest, ending => do
    let url ← Codec.text.read dialect d
    let others ← readEntries dialect rest ending
    return (key, url) :: others

/-- A cache is written as an object. -/
def codec : Codec ImageCache where
  schema := ⟨.text, []⟩
  outline := .value
  read dialect d :=
    match d with
    | .map entries ending => (readEntries dialect entries ending).map ofList
    | d => .error (d.mismatch "a map")
  write cache := .obj (cache.entries.map fun entry => (entry.1, .str entry.2))

/-- The cache as exchanged data. -/
def toJson (cache : ImageCache) : Json := codec.encode cache

@[simp] theorem find?_empty (description : String) : empty.find? description = none := rfl

@[simp] theorem find?_insert_self (cache : ImageCache) (description url : String) :
    (cache.insert description url).find? description = some url :=
  Entries.find?_insert_self description url cache.entries

theorem find?_insert_of_ne (cache : ImageCache) {description other : String}
    (h : other ≠ description) (url : String) :
    (cache.insert description url).find? other = cache.find? other :=
  Entries.find?_insert_of_ne h url cache.entries

end ImageCache

end Sitewright
