import Sitewright.Json.Pointer
import Sitewright.Studio.Session

/-!
# Rehearsed collaborators

Whoever a studio works with is a function, so a session can be rehearsed with collaborators whose
answers are known beforehand: pictures whose address is made from their description, a generator
that hands out configurations from a list, and a mutator that puts values into the configuration it
is given.
-/

namespace Sitewright

/-! ### Pictures -/

namespace ImageService

/-- The address that is made from a description. -/
def rehearsedUrl (description : String) : String :=
  "https://images.test/" ++ (Fingerprint.ofText description).short ++ ".jpg"

/-- A source that has every picture. -/
def rehearsed : ImageService := fun description => .ok (rehearsedUrl description)

/-- A source that has every picture but refuses the listed ones. -/
def refusing (refused : List String) : ImageService := fun description =>
  if refused.contains description then .error (.rejected ("refused: " ++ description))
  else rehearsed description

/-- A source that is down. -/
def down : ImageService := fun _ => .error (.unavailable "connection refused")

/-- A source that answers from a table. -/
def ofTable (table : List (String × Except ImageError String)) : ImageService := fun description =>
  (Entries.find? description table).getD (.error (.unavailable "unmapped"))

end ImageService

/-! ### Configurations -/

/-- A generator that hands out one configuration after the other and then the last one again, when
it has been asked `asked` times before. -/
def Generator.ofScript (script : List SiteConfig) (asked : Nat) : Generator := fun _ _ =>
  match script[min asked (script.length - 1)]? with
  | some config => .ok config
  | none => .error (.unavailable "script exhausted")

/-- Reads a value that a collaborator has made; one that cannot be read is not usable. -/
def CollaboratorError.accept {α : Type} (codec : Codec α) (v : Json) :
    Except CollaboratorError α :=
  match codec.decode v with
  | .ok a => .ok a
  | .error e => .error (.invalidOutput e.message)

/-- A classifier that always answers the same. -/
def Classifier.always (verdict : Json) : Classifier := fun _ _ =>
  CollaboratorError.accept EditClassification.codec verdict

/-- A mutator that puts values at places of the configuration, or of another value if one is given.
-/
def Mutator.placing (start : Option Json) (changes : List (String × Json)) : Mutator :=
  fun config _ _ =>
    CollaboratorError.accept SiteConfig.codec
      (changes.foldl (fun v change => v.place change.1 change.2) (start.getD config.toJson))

end Sitewright
