import Sitewright.Image.Cache
import Sitewright.Image.Token
import Sitewright.SourceFile

/-!
# Resolving pictures

The last step of a compilation puts addresses in the place of the tokens in its files. The tokens
that count are those of pictures that were given out *and* stand in a source attribute of some file.
Each stands for a description, several may share one, and each description that the cache does not
know is asked for once, in the order in which the tokens appear.

If something was asked for and nobody answered at all, everything stays as it was. Otherwise answers
go into the cache and the files, and a description without an answer keeps its tokens.
-/

namespace Sitewright

/-- How resolving ended. -/
inductive ImageStatus where
  /-- There was no token. -/
  | noImages
  /-- Every token has its address. -/
  | complete
  /-- Some descriptions have no address. -/
  | incomplete (unresolved : List String)
  /-- Nobody answered. -/
  | unavailable (reason : String)
  deriving DecidableEq

namespace ImageStatus

/-- Whether pictures are missing. -/
def isDegraded : ImageStatus → Bool
  | noImages | complete => false
  | incomplete _ | unavailable _ => true

/-- The status as exchanged data. -/
def toJson : ImageStatus → Json
  | noImages => .obj [("status", .str "no-images")]
  | complete => .obj [("status", .str "complete")]
  | incomplete unresolved =>
    .obj [("status", .str "partial"), ("unresolved", Json.ofTexts unresolved)]
  | unavailable reason => .obj [("reason", .str reason), ("status", .str "unavailable")]

end ImageStatus

/-- What is to be resolved. -/
structure ImageTask where
  /-- The tokens of the pictures that were given out. -/
  minted : List String
  /-- What they show, as far as it is known. -/
  descriptions : List (String × String)
  /-- What a picture shows of which nothing is known. -/
  fallback : String

namespace ImageTask

/-- The tokens that count, each once, in the order in which they first appear. -/
def tokens (task : ImageTask) (files : List SourceFile) : List String :=
  ((files.flatMap fun file => tokensIn file.content).filter task.minted.contains).eraseDups

/-- What the picture of a token shows. -/
def descriptionOf (task : ImageTask) (token : String) : String :=
  (Entries.find? token task.descriptions).getD task.fallback

/-- The descriptions behind tokens, each once, in the order in which they first appear. -/
def descriptionsOf (task : ImageTask) (tokens : List String) : List String :=
  (tokens.map task.descriptionOf).eraseDups

end ImageTask

/-- An answer to a description. -/
structure ImageAnswer where
  /-- What was asked for. -/
  description : String
  /-- What came back. -/
  result : Except ImageError String

namespace ImageAnswer

/-- Asks for descriptions one after the other. -/
def ask (service : ImageService) (descriptions : List String) : List ImageAnswer :=
  descriptions.map fun description => ⟨description, service description⟩

/-- The error of an answer. -/
def error? (answer : ImageAnswer) : Option ImageError :=
  match answer.result with
  | .ok _ => none
  | .error e => some e

/-- Whether an answer says that nobody answers. -/
def isUnavailable (answer : ImageAnswer) : Bool := answer.error?.any ImageError.isUnavailable

/-- A cache with an answer, if it is an address. -/
def record (cache : ImageCache) (answer : ImageAnswer) : ImageCache :=
  match answer.result with
  | .ok url => cache.insert answer.description url
  | .error _ => cache

end ImageAnswer

/-- How many of everything there were. -/
structure ImageStats where
  /-- The tokens that count. -/
  tokens : Nat
  /-- The descriptions behind them. -/
  descriptions : Nat
  /-- The descriptions that the cache knew. -/
  cacheHits : Nat
  /-- The descriptions that were asked for. -/
  requested : Nat
  /-- Those of them without an answer. -/
  failed : Nat
  deriving DecidableEq

/-- What resolving leads to. -/
structure ImageResolution where
  /-- The files. -/
  files : List SourceFile
  /-- The cache for the next compilation. -/
  cache : ImageCache
  /-- How it ended. -/
  status : ImageStatus
  /-- How many of everything there were. -/
  stats : ImageStats
  /-- The descriptions that were asked for, in order. -/
  requests : List String

namespace ImageTask

/-- A file with the addresses that a cache knows in the place of the given tokens. -/
def resolveFile (task : ImageTask) (tokens : List String) (cache : ImageCache)
    (file : SourceFile) : SourceFile :=
  let address (token : String) : Option String :=
    if tokens.contains token then cache.find? (task.descriptionOf token) else none
  { file with content := resolveTokens address file.content }

/-- Resolves the pictures of files. -/
def resolve (task : ImageTask) (service : ImageService) (previous : ImageCache)
    (files : List SourceFile) : ImageResolution :=
  let tokens := task.tokens files
  let distinct := task.descriptionsOf tokens
  let misses := distinct.filter fun description => !previous.has description
  let answers := ImageAnswer.ask service misses
  let failures := answers.filterMap ImageAnswer.error?
  let stats : ImageStats :=
    ⟨tokens.length, distinct.length, distinct.length - misses.length, misses.length,
      failures.length⟩
  if tokens.isEmpty then ⟨files, previous, .noImages, stats, []⟩
  else if !answers.isEmpty && answers.all ImageAnswer.isUnavailable then
    let reason := (failures.head?.map ImageError.message).getD ""
    ⟨files, previous, .unavailable reason, stats, misses⟩
  else
    let cache := answers.foldl ImageAnswer.record previous
    let unresolved := (answers.filter fun a => a.error?.isSome).map (·.description)
    let status := if unresolved.isEmpty then .complete else .incomplete unresolved
    ⟨files.map (task.resolveFile tokens cache), cache, status, stats, misses⟩

end ImageTask

end Sitewright
