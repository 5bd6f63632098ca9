import Componentry.Element.Kind
import Componentry.Url.Host

/-!
# Errors of loading

Why a definition is not loaded. The error of a stage that a definition goes through, reading its
declarations, making its type or registering it, is an error of loading too.
-/

namespace Componentry

inductive RegistryError where
  | alreadyDefined (tag : String)
  | notDefined (tag : String)
  deriving DecidableEq, Repr

def RegistryError.message : RegistryError → String
  | .alreadyDefined tag => "Element <" ++ tag ++ "> is already defined"
  | .notDefined tag => "Element <" ++ tag ++ "> is not defined"

inductive ShapeFault where
  | noElement
  | unnamedTemplate
  /-- An element that is no template and whose tag has no hyphen. -/
  | plainElement (tag : String)
  | other (reason : String)
  deriving DecidableEq, Repr

def ShapeFault.message : ShapeFault → String
  | .noElement => "definition contains no element"
  | .unnamedTemplate => "a template definition needs an id or name containing a hyphen"
  | .plainElement tag => "<" ++ tag ++ "> is neither a named template nor a hyphenated element"
  | .other reason => reason

inductive LoadError where
  /-- The address belongs to another origin, and the component does not allow that. -/
  | crossOrigin (url : String)
  | fetchFailed (url reason : String)
  | invalidSource (source : String) (cause : Url.UrlError)
  | invalidShape (fault : ShapeFault)
  | declaration (error : DeclarationError)
  | synthesis (error : SynthesisError)
  | registry (error : RegistryError)
  deriving Repr

namespace LoadError

def message : LoadError → String
  | .crossOrigin url => "Cross-origin load of " ++ url ++ " blocked"
  | .fetchFailed url reason => "Failed to fetch " ++ url ++ ": " ++ reason
  | .invalidSource source cause => "Invalid source URL '" ++ source ++ "': " ++ cause.message
  | .invalidShape fault => "Invalid definition: " ++ fault.message
  | .declaration error => error.message
  | .synthesis error => error.message
  | .registry error => error.message

end LoadError

end Componentry
