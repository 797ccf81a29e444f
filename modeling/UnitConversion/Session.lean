import UnitConversion.Catalog.Bundled
import UnitConversion.Catalog.Loading
import UnitConversion.Settings

/-!
# Sessions

A session publishes at most one registry. It is replaced as a whole: by one that is loaded as
settings say, by one that is given, or by none. A loading that fails with a problem leaves none; one
that is interrupted leaves the registry that was published before.
-/

namespace UnitConversion

/-- The directory that settings lead to in a library: the one of the documents that come with this
library, if they say nothing. -/
def Settings.directoryIn (library : Library) (settings : Settings) : Directory :=
  match settings.directory with
  | none => Bundled.directory
  | some path => ⟨library, path⟩

/-- The published registry, if there is one. -/
structure Session where
  published : Option Registry

namespace Session

/-- A session that has published nothing. -/
def fresh : Session := ⟨none⟩

/-- Whether a registry is published. -/
def isReady (session : Session) : Bool :=
  session.published.isSome

/-- Publishes a registry, or none. -/
def publish (_ : Session) (registry : Option Registry) : Session :=
  ⟨registry⟩

/-- Publishes nothing any more. -/
def reset (session : Session) : Session :=
  session.publish none

/-- Loads a registry from a directory and publishes it. -/
def load (directory : Directory) (names : List Json) (session : Session) :
    Session × Attempt Registry :=
  match (Registry.load directory names).outcome with
  | .ok registry => (session.publish (some registry), .ok registry)
  | .error (.problem p) => (session.reset, .error (.problem p))
  | .error (.interruption cause) => (session, .error (.interruption cause))

/-- Loads the registry that settings ask for and publishes it. -/
def start (library : Library) (settings : Settings) (session : Session) :
    Session × Attempt Registry :=
  session.load (settings.directoryIn library) (settings.categories.map .text)

end Session

end UnitConversion
