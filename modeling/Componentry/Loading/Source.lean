import Componentry.Loading.Error
import Componentry.Url.Reader

/-!
# Sources of definitions

A component names the address of its definition or contains it. An address of another origin than
the document is used only if the component allows it. A definition is the first element of its
markup: one whose tag has a hyphen, or a template that is named by its `id` or `name`.

Loading reads addresses, compares their origins and names components by their written form, and does
not depend on how that is done. So the addresses are a parameter of it: any type will do on which
there is an `Addressing`. The addresses of documents are the instance `Url.Address`.
-/

namespace Componentry

open Markup

class Addressing (A : Type) where
  /-- The address that a text is, relative to a base if there is one. -/
  read : Option A → String → Except Url.UrlError A
  sameOrigin : A → A → Bool
  text : A → String
  /-- This keeps the keys of addresses apart from those of inline definitions. -/
  colon_mem_text : ∀ address, ':' ∈ (text address).toList

instance : Addressing Url.Address where
  read := Url.read
  sameOrigin := Url.sameOrigin
  text := Url.Address.text
  colon_mem_text address := by simp [Url.Address.text, Url.Address.written]

inductive Source (A : Type) where
  /-- In the component itself. -/
  | inline
  | external (address : A)

/-- A text without the blanks at its ends, unless nothing is left. -/
def nonBlank? (s : String) : Option String :=
  if Text.isBlankText s then none else some (Text.trim s)

def sourceText? (component : Element) : Option String :=
  ((component.attribute? "src").bind nonBlank?).orElse fun _ =>
    (component.attribute? "href").bind nonBlank?

def allowsOtherOrigin (component : Element) : Bool :=
  ["cors", "allow-cors"].any fun name =>
    (component.attribute? name).any fun v => Text.sameName (Text.trim v) "true"

def sourceOf {A : Type} [Addressing A] (component : Element) (base : Option A) :
    Except LoadError (Source A) :=
  match sourceText? component with
  | none => .ok .inline
  | some text =>
    match Addressing.read base text with
    | .error cause => .error (.invalidSource text cause)
    | .ok address =>
      if base.any (Addressing.sameOrigin · address) || allowsOtherOrigin component then
        .ok (.external address)
      else .error (.crossOrigin (Addressing.text address))

def templateName (e : Element) : String :=
  ((e.attribute? "id").orElse fun _ => e.attribute? "name").getD ""

def isHyphenated (name : String) : Bool := name.toList.contains '-'

/-- The definition in some markup. A template becomes an element of its name. -/
def definitionRoot (nodes : List Node) : Except LoadError Element :=
  match firstElement? nodes with
  | none => .error (.invalidShape .noElement)
  | some e =>
    if Text.sameName e.tag "template" then
      if isHyphenated (templateName e) then .ok { e with tag := Text.lower (templateName e) }
      else .error (.invalidShape .unnamedTemplate)
    else if isHyphenated e.tag then .ok e
    else .error (.invalidShape (.plainElement e.tag))

end Componentry
